/-! Host labels of characters beyond ASCII, written with ASCII letters and digits: the plain
characters first, then the others in ascending order as distances from one insertion to the next. -/

namespace ContentBinding.Url.Punycode

def digit (n : Nat) : Char :=
  if n < 26 then Char.ofNat ('a'.toNat + n) else Char.ofNat ('0'.toNat + (n - 26))

/-- The least value of a digit that is not the last one, at weight position `k`. -/
def threshold (bias k : Nat) : Nat :=
  if k ≤ bias + 1 then 1 else if bias + 26 ≤ k then 26 else k - bias

/-- A number with thresholds that depend on the bias; `fuel` bounds the number of digits. -/
def digits (bias : Nat) : Nat → Nat → Nat → List Char
  | 0, _, _ => []
  | fuel + 1, k, q =>
    let t := threshold bias k
    if q < t then [digit q]
    else digit (t + (q - t) % (36 - t)) :: digits bias fuel (k + 36) ((q - t) / (36 - t))

def shrink : Nat → Nat → Nat → Nat
  | 0, delta, k => k + 36 * delta / (delta + 38)
  | fuel + 1, delta, k =>
    if 455 < delta then shrink fuel (delta / 35) (k + 36) else k + 36 * delta / (delta + 38)

/-- The bias after a number was written. -/
def adapt (delta count : Nat) (first : Bool) : Nat :=
  let delta := if first then delta / 700 else delta / 2
  shrink (delta + 1) (delta + delta / count) 0

structure State where
  delta : Nat := 0
  bias : Nat := 72
  handled : Nat
  first : Bool := true
  out : List Char := []

/-- Goes past one character of the label while the code point `n` is inserted. -/
def visit (n : Nat) (s : State) (c : Char) : State :=
  if c.toNat < n then { s with delta := s.delta + 1 }
  else if c.toNat = n then
    { delta := 0
      bias := adapt s.delta (s.handled + 1) s.first
      handled := s.handled + 1
      first := false
      out := s.out ++ digits s.bias (s.delta + 1) 36 s.delta }
  else s

/-- Inserts the code points in ascending order; `n` is the one after the last inserted. -/
def insertAll (label : List Char) : Nat → State → List Nat → State
  | _, s, [] => s
  | n, s, m :: rest =>
    let s := { s with delta := s.delta + (m - n) * (s.handled + 1) }
    let s := label.foldl (visit m) s
    insertAll label (m + 1) { s with delta := s.delta + 1 } rest

def isPlain (c : Char) : Bool := c.toNat < 128

/-- The other code points, ascending and once each. -/
def others (label : List Char) : List Nat :=
  (((label.filter fun c => !isPlain c).map Char.toNat).mergeSort (· ≤ ·)).eraseDups

def encode (label : List Char) : List Char :=
  let plain := label.filter isPlain
  let head := if plain.isEmpty then [] else plain ++ ['-']
  head ++ (insertAll label 128 { handled := plain.length } (others label)).out

end ContentBinding.Url.Punycode
