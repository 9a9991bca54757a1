import ContentBinding.Markup.Chars
import ContentBinding.Markup.CharRef.Names
import ContentBinding.Text.Digits

/-! Reading character references. `CharRef.take` looks at the text after an ampersand;
`decodeAttribute` reads a whole attribute value. -/

namespace ContentBinding.Markup.CharRef

/-- What a reference stands for, and how many characters after the ampersand it takes. -/
structure Reading where
  text : List Char
  length : Nat

/-- Numbers in the range of C1 controls mean the characters of windows-1252. -/
def c1Characters : List Char :=
  "\u20AC\x81\u201A\u0192\u201E\u2026\u2020\u2021\u02C6\u2030\u0160\u2039\u0152\x8D\u017D\x8F\x90\u2018\u2019\u201C\u201D\u2022\u2013\u2014\u02DC\u2122\u0161\u203A\u0153\x9D\u017E\u0178".toList

/-- The character of a numeric reference. -/
def ofNumber (n : Nat) : Char :=
  if n = 0 then replacementChar
  else if 0x80 ≤ n ∧ n ≤ 0x9F then c1Characters.getD (n - 0x80) replacementChar
  else if (0xD800 ≤ n ∧ n ≤ 0xDFFF) ∨ 0x10FFFF < n then replacementChar
  else Char.ofNat n

/-- A numeric reference whose digits begin after `skip` characters. -/
def takeNumber (skip : Nat) (isDigit : Char → Bool) (value : List Char → Nat) (cs : List Char) :
    Option Reading :=
  let ds := (cs.drop skip).takeWhile isDigit
  if ds.isEmpty then none
  else
    let used := skip + ds.length
    let closed := (cs.drop used).head? = some ';'
    some ⟨[ofNumber (value ds)], if closed then used + 1 else used⟩

/-- The longest name that the text begins with, of at most `n` characters. -/
def longestName (cs : List Char) : Nat → Option (List Char × Nat)
  | 0 => none
  | n + 1 =>
    if n < cs.length then
      match named? (String.ofList (cs.take (n + 1))) with
      | some v => some (v.toList, n + 1)
      | none => longestName cs n
    else longestName cs n

/-- What a name can be part of: nothing behind a semicolon. -/
def nameSpan : List Char → List Char
  | [] => []
  | c :: rest => if c = ';' then [c] else c :: nameSpan rest

/-- In an attribute a bare name is kept as text before a letter, a digit or an equals sign. -/
def bareNameStands (cs : List Char) (n : Nat) : Bool :=
  match (cs.drop n).head? with
  | some c => isLetter c || c.isDigit || c = '='
  | none => false

/-- Reads what follows an ampersand; none when the ampersand stands for itself. -/
def take (inAttribute : Bool) (cs : List Char) : Option Reading :=
  match cs with
  | '#' :: 'x' :: _ => takeNumber 2 isHexDigit ofHex cs
  | '#' :: 'X' :: _ => takeNumber 2 isHexDigit ofHex cs
  | '#' :: _ => takeNumber 1 Char.isDigit Text.natOf cs
  | _ =>
    match longestName (nameSpan (cs.take maxNameLength)) maxNameLength with
    | none => none
    | some (v, n) =>
      if inAttribute && cs[n - 1]? != some ';' && bareNameStands cs n then none
      else some ⟨v, n⟩

/-- The longest beginning of a name that the text begins with, of at most `n` characters. -/
def longestStart (cs : List Char) : Nat → Nat
  | 0 => 0
  | n + 1 =>
    if n < cs.length && beginsName (String.ofList (cs.take (n + 1))) then n + 1
    else longestStart cs n

/-- How many characters behind an ampersand are read before it is known that no more belong to it. -/
def reach (cs : List Char) : Nat :=
  match cs with
  | '#' :: 'x' :: _ => 2
  | '#' :: 'X' :: _ => 2
  | '#' :: _ => 1
  | _ => longestStart (nameSpan (cs.take maxNameLength)) maxNameLength

/-- Text from an ampersand on, as far as it was read for a reference: what this stands for, or the
ampersand, and the characters that were read in vain. -/
def takePiece (cs : List Char) : Reading :=
  let r := (take false cs).getD ⟨['&'], 0⟩
  let n := max r.length (reach cs)
  ⟨r.text ++ (cs.take n).drop r.length, n⟩

/-- Replaces the references of a text. -/
def decode (inAttribute : Bool) : List Char → List Char
  | [] => []
  | '&' :: rest =>
    match take inAttribute rest with
    | some r => r.text ++ decode inAttribute (rest.drop r.length)
    | none => '&' :: decode inAttribute rest
  | c :: rest => c :: decode inAttribute rest
termination_by cs => cs.length
decreasing_by all_goals simp only [List.length_cons, List.length_drop]; omega

def decodeAttribute (cs : List Char) : List Char :=
  decode true cs

end ContentBinding.Markup.CharRef
