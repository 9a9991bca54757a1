import ContentBinding.Text.Blank

/-! Numeric host addresses. -/

namespace ContentBinding.Url

/-- A number below 256 without a leading zero. -/
def isOctet (cs : List Char) : Bool :=
  !cs.isEmpty && cs.length ≤ 3 && cs.all Char.isDigit &&
    (cs.length = 1 || cs.head? != some '0') &&
    cs.foldl (fun n c => 10 * n + (c.toNat - 48)) 0 < 256

/-- Four octets with points between them. -/
def isDottedAddress (cs : List Char) : Bool :=
  let parts := Text.splitOn (· = '.') cs
  parts.length = 4 && parts.all isOctet

/-- The lengths of the runs of digits of a text, with other characters between them. -/
def digitRuns (cs : List Char) : List Nat :=
  (Text.splitOn (fun c => !c.isDigit) cs).map List.length

/-- Whether a text is four runs of digits with any one character between them. Characters between
runs may be digits too, so a run of digits may count as several. -/
def looksDotted (cs : List Char) : Bool :=
  let runs := digitRuns cs
  runs.all (1 ≤ ·) && runs.length ≤ 4 &&
    4 ≤ runs.foldl (fun n r => n + 1 + (r - 1) / 2) 0

def isHexDigit (c : Char) : Bool :=
  c.isDigit || ('a' ≤ c && c ≤ 'f') || ('A' ≤ c && c ≤ 'F')

def isHextet (cs : List Char) : Bool :=
  !cs.isEmpty && cs.length ≤ 4 && cs.all isHexDigit

/-- The parts of an address with colons; a dotted address at the end counts as two of them. -/
def colonParts (cs : List Char) : Option (List (List Char)) :=
  let parts := Text.splitOn (· = ':') cs
  match parts.getLast? with
  | some last =>
    if last.contains '.' then
      if isDottedAddress last then some (parts.dropLast ++ [['0'], ['0']]) else none
    else some parts
  | none => none

/-- Parts on one side of the gap: an empty one may only stand alone at the end of the address. -/
def sideLength (parts : List (List Char)) : Option Nat :=
  if parts = [[]] then some 0
  else if parts.all isHextet then some parts.length
  else none

/-- The parts inside, before and after an empty part that is not at an end. -/
def gapAt (parts : List (List Char)) : Option (List (List Char) × List (List Char)) :=
  match parts with
  | [] => none
  | first :: rest =>
    let before := rest.dropLast.takeWhile (!·.isEmpty)
    if before.length = rest.dropLast.length then none
    else some (first :: before, rest.drop (before.length + 1))

/-- Eight groups of hexadecimal digits, some of which may be left out once. -/
def isColonGroups (cs : List Char) : Bool :=
  let parts := Text.splitOn (· = ':') cs
  if parts.length < 3 then false
  else
    match colonParts cs with
    | none => false
    | some parts =>
      if 9 < parts.length then false
      else
        match gapAt parts with
        | none => parts.length = 8 && parts.all isHextet
        | some (before, after) =>
          match sideLength before, sideLength after with
          | some a, some b => a + b < 8
          | _, _ => false

/-- An address with colons, and perhaps a zone after a percent sign. -/
def isColonAddress (cs : List Char) : Bool :=
  let address := cs.takeWhile (· != '%')
  match cs.dropWhile (· != '%') with
  | [] => isColonGroups address
  | _ :: zone => !zone.isEmpty && !zone.contains '%' && isColonGroups address

end ContentBinding.Url
