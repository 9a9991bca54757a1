import ContentBinding.Number.Shortest

/-! How digits are laid out as text: plainly while the point stands near them, with an exponent
otherwise. -/

namespace ContentBinding.Number

/-- The choices of a format. -/
structure Layout where
  /-- The digits are written plainly while `least < point ≤ greatest`. -/
  least : Int
  greatest : Int
  /-- Whether an integer is written with `.0`. -/
  keepsPoint : Bool
  /-- The least number of digits in an exponent. -/
  exponentWidth : Nat
  nan : String
  infinity : String

namespace Layout

/-- The form of numbers in documents and settings. -/
def document : Layout :=
  ⟨-4, 16, true, 2, "nan", "inf"⟩

def padLeft (width : Nat) (cs : List Char) : List Char :=
  List.replicate (width - cs.length) '0' ++ cs

def plain (l : Layout) (ds : List Char) (point : Int) : List Char :=
  if point ≤ 0 then '0' :: '.' :: List.replicate point.natAbs '0' ++ ds
  else
    let n := point.natAbs
    if ds.length ≤ n then
      ds ++ List.replicate (n - ds.length) '0' ++ (if l.keepsPoint then ['.', '0'] else [])
    else ds.take n ++ '.' :: ds.drop n

def withExponent (l : Layout) (ds : List Char) (point : Int) : List Char :=
  let mantissa :=
    match ds with
    | [] => []
    | [d] => [d]
    | d :: rest => d :: '.' :: rest
  let e := point - 1
  mantissa ++ 'e' :: (if e < 0 then '-' else '+') ::
    padLeft l.exponentWidth (Nat.toDigits 10 e.natAbs)

/-- The text of a magnitude. -/
def writeDigits (l : Layout) (d : Digits) : List Char :=
  let ds := Nat.toDigits 10 d.value
  if l.least < d.point ∧ d.point ≤ l.greatest then l.plain ds d.point
  else l.withExponent ds d.point

def write (l : Layout) : Double → String
  | .nan => l.nan
  | .infinite n => if n then "-" ++ l.infinity else l.infinity
  | .finite v =>
    let text := String.ofList (l.writeDigits (Shortest.digits v))
    if v.negative then "-" ++ text else text

end Layout
end ContentBinding.Number
