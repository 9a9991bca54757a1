/-! Decimal digits: the number that they stand for, and how many of them an integer may have. -/

namespace ContentBinding.Text

def natOf (ds : List Char) : Nat :=
  ds.foldl (fun n c => 10 * n + (c.toNat - 48)) 0

theorem natOf_eq (ds : List Char) : natOf ds = Nat.ofDigitChars 10 ds 0 :=
  (Nat.ofDigitChars_eq_foldl ..).symm

theorem natOf_toDigits (i : Nat) : natOf (Nat.toDigits 10 i) = i := by
  rw [natOf_eq, Nat.ofDigitChars_ten_toDigits]

theorem natOf_replicate_append (zeros : Nat) (ds : List Char) :
    natOf (List.replicate zeros '0' ++ ds) = natOf ds := by
  simp only [natOf_eq, Nat.ofDigitChars_append, Nat.ofDigitChars_replicate_zero, Nat.mul_zero]

/-- Integers with more digits are neither read nor written. -/
def maxDigits : Nat := 4300

/-- An integer with too many digits: read, where they are counted, or to be written. -/
inductive Overlong
  | numeral (digits : Nat)
  | integer
  deriving Repr, DecidableEq

/-- What is wrong with the digits of an integer that is read. Leading zeros count. -/
def overlong? (ds : List Char) : Option Overlong :=
  if maxDigits < ds.length then some (.numeral ds.length) else none

/-- What is wrong with an integer that is to be written. -/
def unwritable? (n : Int) : Option Overlong :=
  if maxDigits < (Nat.toDigits 10 n.natAbs).length then some .integer else none

def Overlong.message (e : Overlong) : String :=
  let counted :=
    match e with
    | .numeral digits => ": value has " ++ toString digits ++ " digits"
    | .integer => ""
  "Exceeds the limit (" ++ toString maxDigits ++ " digits) for integer string conversion" ++ counted ++
    "; use sys.set_int_max_str_digits() to increase the limit"

end ContentBinding.Text
