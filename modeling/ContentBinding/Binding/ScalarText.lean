import ContentBinding.Binding.Path
import ContentBinding.Json.Value
import ContentBinding.Number.Layout

/-! The text of scalar values on a page. Numbers are written as scripts in a browser write them,
but integers below 10^21 keep all their digits. The digits of the others come from the form of
numbers in documents, whose exponent is taken away or written again. -/

namespace ContentBinding.Binding

open Number

/-- A decimal number: its digits, and the power of ten of the last one. -/
structure Decimal where
  negative : Bool
  digits : List Char
  power : Int

namespace Decimal

/-- The number `mantissa * 10^exponent`. -/
def ofMantissa (mantissa : List Char) (exponent : Int) : Decimal :=
  let unsigned := if mantissa.head? = some '-' then mantissa.drop 1 else mantissa
  let whole := unsigned.takeWhile (· ≠ '.')
  let fraction := (unsigned.dropWhile (· ≠ '.')).drop 1
  { negative := mantissa.head? = some '-'
    digits := Nat.toDigits 10 (Text.natOf (whole ++ fraction))
    power := exponent - fraction.length }

/-- Plain digits on both sides of the point. -/
def layout : Layout :=
  { Layout.document with keepsPoint := false }

/-- The text without an exponent. -/
def write (d : Decimal) : List Char :=
  let text := layout.plain d.digits (d.digits.length + d.power)
  if d.negative then '-' :: text else text

end Decimal

/-- An integer with a sign before it. -/
def signedOf : List Char → Int
  | '-' :: ds => -(Text.natOf ds : Int)
  | '+' :: ds => Text.natOf ds
  | ds => Text.natOf ds

/-- The number of a text, with an exponent only below 10^-6 and from 10^21. -/
def respell (text : List Char) : List Char :=
  match Text.splitOn (· = 'e') text with
  | [mantissa, exponentText] =>
    let exponent := signedOf exponentText
    if -7 < exponent ∧ exponent < 21 then (Decimal.ofMantissa mantissa exponent).write
    else
      mantissa ++ 'e' :: (if 0 < exponent then '+' else '-') :: Nat.toDigits 10 exponent.natAbs
  -- without an exponent both ways of writing agree
  | _ => text

def numberText : Double → String
  | .nan => "NaN"
  | .infinite negative => if negative then "-Infinity" else "Infinity"
  | .finite v =>
    if v.isInteger && v.truncate.natAbs < pow10 21 then toString v.truncate
    else String.ofList (respell (Layout.document.write (.finite v)).toList)

/-- The text of a scalar; objects, arrays and null have none. -/
def scalarText? : Json.Value → Option String
  | .bool b => some (if b then "true" else "false")
  | .double d => some (numberText d)
  | .int n => some (toString n)
  | .str s => some s
  | _ => none

/-- What keeps a value from having a text that it should have. -/
def unwritable? : Json.Value → Option Text.Overlong
  | .int n => Text.unwritable? n
  | _ => none

end ContentBinding.Binding
