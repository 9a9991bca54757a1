/-! White space of Unicode text, and the words and trims that depend on it. -/

namespace ContentBinding.Text

/-- White space: the space separators, and the controls that separate lines or fields. -/
def isBlank (c : Char) : Bool :=
  let n := c.toNat
  (9 ≤ n && n ≤ 13) || (28 ≤ n && n ≤ 32) || n = 0x85 || n = 0xA0 || n = 0x1680 ||
    (0x2000 ≤ n && n ≤ 0x200A) || n = 0x2028 || n = 0x2029 || n = 0x202F || n = 0x205F || n = 0x3000

def trimLeft (cs : List Char) : List Char :=
  cs.dropWhile isBlank

def trimRight (cs : List Char) : List Char :=
  (trimLeft cs.reverse).reverse

/-- The text without white space at its ends. -/
def trim (s : String) : String :=
  String.ofList (trimRight (trimLeft s.toList))

/-- The maximal runs of other characters; `current` holds the open run in reverse order. -/
def wordsFrom (current : List Char) : List Char → List String
  | [] => if current.isEmpty then [] else [String.ofList current.reverse]
  | c :: rest =>
    if isBlank c then
      if current.isEmpty then wordsFrom [] rest
      else String.ofList current.reverse :: wordsFrom [] rest
    else wordsFrom (c :: current) rest

def words (s : String) : List String :=
  wordsFrom [] s.toList

/-- Cuts at every character of the kind; there is one piece more than such characters. -/
def splitOn (isCut : Char → Bool) : List Char → List (List Char)
  | [] => [[]]
  | c :: rest =>
    if isCut c then [] :: splitOn isCut rest
    else
      match splitOn isCut rest with
      | [] => [[c]]
      | p :: more => (c :: p) :: more

end ContentBinding.Text
