/-! Binary floating point numbers of 64 bits as exact values, and rounding to the nearest of them.
A finite number is a significand below 2^53 times a power of two; the significand has 53 bits
unless the power is the least one, so that every value has one form. -/

namespace ContentBinding.Number

/-- The value `significand * 2^(exponent - 1074)`, with a sign. -/
structure Finite where
  negative : Bool
  significand : Nat
  exponent : Nat
  deriving Repr, DecidableEq

inductive Double
  | finite (v : Finite)
  | infinite (negative : Bool)
  | nan
  deriving Repr, DecidableEq

def pow2 (n : Nat) : Nat := Nat.pow 2 n

def pow10 (n : Nat) : Nat := Nat.pow 10 n

def significandLimit : Nat := pow2 53

def leadingBit : Nat := pow2 52

def maxExponent : Nat := 2045

/-- The form that every finite number has exactly once. -/
def Finite.Normal (v : Finite) : Prop :=
  v.significand < significandLimit ∧ v.exponent ≤ maxExponent ∧
    (v.exponent = 0 ∨ leadingBit ≤ v.significand)

instance (v : Finite) : Decidable v.Normal := by
  unfold Finite.Normal; infer_instance

/-- The quotient rounded to the nearest integer, a half to the even one. -/
def roundDiv (num den : Nat) : Nat :=
  let q := num / den
  let r := num % den
  if 2 * r < den then q
  else if den < 2 * r then q + 1
  else if q % 2 = 0 then q else q + 1

namespace Double

def zero (negative : Bool) : Double :=
  .finite ⟨negative, 0, 0⟩

/-- The units of 2^-1074 in a power of two above them that keep a significand of 53 bits. -/
def exponentFor (scaled den : Nat) : Nat :=
  Nat.log2 (scaled / den) - 52

/-- The number nearest to `num / den`; a tie goes to the even significand. -/
def ofRatio (negative : Bool) (num den : Nat) : Double :=
  let scaled := num * pow2 1074
  let e := exponentFor scaled den
  let m := roundDiv scaled (den * pow2 e)
  -- a significand that is rounded up to the limit belongs to the next power
  let v : Finite := if m = significandLimit then ⟨negative, leadingBit, e + 1⟩ else ⟨negative, m, e⟩
  if maxExponent < v.exponent then .infinite negative else .finite v

def digitCount (n : Nat) : Nat :=
  (Nat.toDigits 10 n).length

/-- The number nearest to `digits * 10^power`. Powers far beyond the range are not computed. -/
def ofDecimal (negative : Bool) (digits : Nat) (power : Int) : Double :=
  if digits = 0 then zero negative
  else if power + digitCount digits > 400 then .infinite negative
  else if power + digitCount digits < -400 then zero negative
  else if power < 0 then ofRatio negative digits (pow10 power.natAbs)
  else ofRatio negative (digits * pow10 power.natAbs) 1

def ofInt (n : Int) : Double :=
  ofRatio (n < 0) n.natAbs 1

def isNegativeValue : Double → Bool
  | .finite v => v.negative && v.significand != 0
  | .infinite n => n
  | .nan => false

def isPositiveValue : Double → Bool
  | .finite v => !v.negative && v.significand != 0
  | .infinite n => !n
  | .nan => false

end Double

namespace Finite

/-- The integer part, toward zero. -/
def truncate (v : Finite) : Int :=
  let n : Nat := v.significand * pow2 v.exponent / pow2 1074
  if v.negative then -(n : Int) else n

def isInteger (v : Finite) : Bool :=
  v.significand * pow2 v.exponent % pow2 1074 = 0

/-- The nearest number to a multiple. -/
def scale (v : Finite) (k : Nat) : Double :=
  Double.ofRatio v.negative (v.significand * pow2 v.exponent * k) (pow2 1074)

end Finite
end ContentBinding.Number
