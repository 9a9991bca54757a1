import ContentBinding.Text.Bytes
import ContentBinding.Text.Hex

/-! Reading text with percent escapes. An escape stands for an octet, octets make characters as UTF-8
does, and escapes that make no character stay as they are written. -/

namespace ContentBinding.Url

/-- What stands in escaped text. -/
inductive Piece
  | char (c : Char)
  /-- An octet, with its two digits. -/
  | octet (b : UInt8) (high low : Char)
  deriving Repr, DecidableEq

/-- The octet that two digits name. -/
def octet? (high low : Char) : Option UInt8 :=
  match Text.hexValue? high, Text.hexValue? low with
  | some h, some l => some (Text.byte (16 * h + l))
  | _, _ => none

/-- The pieces of a text, of which so many characters belong to the piece before. -/
def piecesFrom : Nat → List Char → List Piece
  | _, [] => []
  | n + 1, _ :: rest => piecesFrom n rest
  | 0, '%' :: rest =>
    match rest.head?, (rest.drop 1).head? with
    | some high, some low =>
      match octet? high low with
      | some b => .octet b high low :: piecesFrom 2 rest
      | none => .char '%' :: piecesFrom 0 rest
    | _, _ => .char '%' :: piecesFrom 0 rest
  | 0, c :: rest => .char c :: piecesFrom 0 rest

def pieces (cs : List Char) : List Piece :=
  piecesFrom 0 cs

/-- A character of decoded text, and whether an escape stood for it. -/
structure Decoded where
  char : Char
  isEscaped : Bool
  deriving Repr, DecidableEq

namespace Decoded

/-- Characters that stand for themselves. -/
def plain (cs : List Char) : List Decoded :=
  cs.map fun c => ⟨c, false⟩

end Decoded

/-- Octets that may still become a character, with the way they are written. -/
structure Pending where
  octets : Text.Bytes := []
  written : List Char := []

/-- What octets come to. -/
inductive Progress
  | complete (c : Char)
  | incomplete
  | hopeless

def progressOf (bs : Text.Bytes) : Progress :=
  match Text.decodeUtf8 false 0 bs with
  | .ok [c] => .complete c
  | .ok _ => .hopeless
  | .error m => if m.kind = .unexpectedEnd then .incomplete else .hopeless

/-- Takes one more octet. Octets that it cannot follow stay written, and it begins anew. -/
def Pending.push (p : Pending) (b : UInt8) (written : List Char) : List Decoded × Pending :=
  match progressOf (p.octets ++ [b]) with
  | .complete c => ([⟨c, true⟩], {})
  | .incomplete => ([], ⟨p.octets ++ [b], p.written ++ written⟩)
  | .hopeless =>
    match progressOf [b] with
    | .complete c => (Decoded.plain p.written ++ [⟨c, true⟩], {})
    | .incomplete => (Decoded.plain p.written, ⟨[b], written⟩)
    | .hopeless => (Decoded.plain (p.written ++ written), {})

def decodeFrom (p : Pending) : List Piece → List Decoded
  | [] => Decoded.plain p.written
  | .char c :: rest => Decoded.plain p.written ++ ⟨c, false⟩ :: decodeFrom {} rest
  | .octet b high low :: rest =>
    let (out, p) := p.push b ['%', high, low]
    out ++ decodeFrom p rest

def decode (cs : List Char) : List Decoded :=
  decodeFrom {} (pieces cs)

/-- The text that escaped text stands for. -/
def unescape (cs : List Char) : List Char :=
  (decode cs).map Decoded.char

/-! Slashes part a path, so those that were escaped are kept apart from those that were not, and with
them the percent signs. -/

def protect (d : Decoded) : List Char :=
  if d.isEscaped && d.char = '/' then ['%', '2', 'F']
  else if d.isEscaped && d.char = '%' then ['%', '2', '5']
  else [d.char]

/-- Decoded text in which escaped slashes and percent signs still are. -/
def unescapePath (cs : List Char) : List Char :=
  (decode cs).flatMap protect

/-- Takes the protection off, where so many characters belong to what was taken before. -/
def unprotectFrom : Nat → List Char → List Char
  | _, [] => []
  | n + 1, _ :: rest => unprotectFrom n rest
  | 0, c :: rest =>
    if c = '%' && rest.take 2 = ['2', 'F'] then '/' :: unprotectFrom 2 rest
    else if c = '%' && rest.take 2 = ['2', '5'] then '%' :: unprotectFrom 2 rest
    else c :: unprotectFrom 0 rest

def unprotect (cs : List Char) : List Char :=
  unprotectFrom 0 cs

end ContentBinding.Url
