/-! How alike two texts are: how much of them lies in common blocks, the longest block first and then
what stands before it and after it. -/

namespace ContentBinding.Text

def commonStart : List Char → List Char → Nat
  | a :: as, b :: bs => if a = b then commonStart as bs + 1 else 0
  | _, _ => 0

/-- A stretch that two texts share. -/
structure Block where
  left : Nat
  right : Nat
  size : Nat
  deriving Repr, DecidableEq

def Block.longer (best next : Block) : Block :=
  if best.size < next.size then next else best

/-- The longest block; of several the one that begins first. -/
def longestBlock (a b : List Char) : Block :=
  let starts := (List.range a.length).flatMap fun i => (List.range b.length).map fun j => (i, j)
  starts.foldl (fun best (i, j) => best.longer ⟨i, j, commonStart (a.drop i) (b.drop j)⟩) ⟨0, 0, 0⟩

/-- How many characters lie in blocks. There are no more blocks than characters. -/
def sharedFrom : Nat → List Char → List Char → Nat
  | 0, _, _ => 0
  | n + 1, a, b =>
    let block := longestBlock a b
    if block.size = 0 then 0
    else
      sharedFrom n (a.take block.left) (b.take block.right) + block.size +
        sharedFrom n (a.drop (block.left + block.size)) (b.drop (block.right + block.size))

def shared (a b : String) : Nat :=
  sharedFrom (a.length + 1) a.toList b.toList

/-- Whether at least three fifths of two texts are shared. -/
def isSimilar (a b : String) : Bool :=
  3 * (a.length + b.length) ≤ 10 * shared a b

/-- Whether a text comes before another among those that are like a word. -/
def isCloser (word a b : String) : Bool :=
  let x := shared a word * (b.length + word.length)
  let y := shared b word * (a.length + word.length)
  y < x || (x = y && b ≤ a)

def maxSimilar : Nat := 3

/-- The texts that are most like a word, in alphabetical order. -/
def similar (word : String) (texts : List String) : List String :=
  let close := texts.filter fun t => isSimilar t word
  ((close.mergeSort fun a b => isCloser word a b).take maxSimilar).mergeSort fun a b => a ≤ b

end ContentBinding.Text
