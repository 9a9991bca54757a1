import ContentBinding.Number.Double

/-! The fewest decimal digits that a floating point number is read back from. -/

namespace ContentBinding.Number

/-- The value `0.d₁d₂… * 10^point`, where the digits are those of a number without trailing zeros. -/
structure Digits where
  value : Nat
  point : Int
  deriving Repr, DecidableEq

namespace Shortest

/-- The numbers that round to a significand: `num / den` between `low / den` and `high / den`.
The ends belong to it when the significand is even. -/
structure Interval where
  num : Nat
  low : Nat
  high : Nat
  den : Nat
  closed : Bool

/-- In quarters of the last place; below a power of two the next number is half as far. -/
def interval (v : Finite) : Interval :=
  let unit := pow2 v.exponent
  let below := if v.significand = leadingBit ∧ v.exponent ≠ 0 then 1 else 2
  { num := 4 * v.significand * unit
    low := (4 * v.significand - below) * unit
    high := (4 * v.significand + 2) * unit
    den := 4 * pow2 1074
    closed := v.significand % 2 = 0 }

/-- Whether `n * 10^power` lies in the interval. -/
def contains (i : Interval) (n : Nat) (power : Int) : Bool :=
  let x := if power < 0 then n * i.den else n * pow10 power.natAbs * i.den
  let s := if power < 0 then pow10 power.natAbs else 1
  if i.closed then i.low * s ≤ x && x ≤ i.high * s else i.low * s < x && x < i.high * s

/-- The integer part of `num / den / 10^power`, and how twice the rest compares with one. -/
def scaled (i : Interval) (power : Int) : Nat × Ordering :=
  let num := if power < 0 then i.num * pow10 power.natAbs else i.num
  let den := if power < 0 then i.den else i.den * pow10 power.natAbs
  (num / den, compare (2 * (num % den)) den)

/-- The neighbours on the grid of that power that lie in the interval: the nearer one, and of two
at the same distance the even one. -/
def nearestOnGrid (i : Interval) (power : Int) : Option Nat :=
  let (lo, half) := scaled i power
  let hasLo := lo != 0 && contains i lo power
  let hasHi := contains i (lo + 1) power
  if hasLo && hasHi then
    match half with
    | .lt => some lo
    | .gt => some (lo + 1)
    | .eq => some (if lo % 2 = 0 then lo else lo + 1)
  else if hasLo then some lo
  else if hasHi then some (lo + 1)
  else none

/-- Tries one digit more at a time. `left` counts the tries that are left. -/
def search (i : Interval) (point : Int) : Nat → Nat → Nat × Int
  | _, 0 => (0, 0)
  | k, left + 1 =>
    let power := point - k
    match nearestOnGrid i power with
    | some n => (n, power)
    | none => search i point (k + 1) left

/-- The least `p` with `num / den < 10^p`, found downwards from an upper bound. -/
def pointBelow (num den : Nat) (bound : Int) : Nat → Int
  | 0 => bound
  | left + 1 =>
    let p := bound - 1
    let small :=
      if p < 0 then num * pow10 p.natAbs < den else num < pow10 p.natAbs * den
    if small then pointBelow num den p left else bound

def pointOf (v : Finite) : Int :=
  let bits : Int := Nat.log2 v.significand + v.exponent
  -- the factor is slightly above the common logarithm of two
  let bound := (bits - 1073) * 30103 / 100000 + 2
  pointBelow (v.significand * pow2 v.exponent) (pow2 1074) bound 5

def stripZeros (n : Nat) : Nat → Nat
  | 0 => n
  | left + 1 => if n % 10 = 0 then stripZeros (n / 10) left else n

/-- Seventeen digits always suffice. -/
def digits (v : Finite) : Digits :=
  if v.significand = 0 then ⟨0, 1⟩
  else
    let (n, power) := search (interval v) (pointOf v) 1 17
    ⟨stripZeros n 20, power + Double.digitCount n⟩

end Shortest
end ContentBinding.Number
