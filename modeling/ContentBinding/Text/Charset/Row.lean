/-! Rows of character sets in which two bytes are one character. -/

namespace ContentBinding.Text.Charset

/-- The characters after one first byte, for the second bytes from `start` on. A replacement character
stands where there is none. -/
structure Row where
  lead : Nat
  start : Nat
  chars : String

namespace Row

def hole : Char := '\uFFFD'

/-- The character of a second byte. -/
def char? (r : Row) (trail : Nat) : Option Char :=
  if trail < r.start then none
  else (r.chars.toList[trail - r.start]?).filter (· != hole)

/-- The character of two bytes. Rows that come first go before later ones. -/
def find? (rows : List Row) (lead trail : Nat) : Option Char :=
  rows.findSome? fun r => if r.lead = lead then r.char? trail else none

end Row
end ContentBinding.Text.Charset
