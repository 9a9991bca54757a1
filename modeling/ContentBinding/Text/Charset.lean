import ContentBinding.Text.Blank
import ContentBinding.Text.Bytes
import ContentBinding.Text.Charset.Tables
import ContentBinding.Text.Charset.Shifted

/-! Character sets by name, and the text of bytes in them. Bytes that are not in a set have no text
there. -/

namespace ContentBinding.Text

inductive Charset
  | ascii
  | utf8
  /-- A mark at the front is dropped. -/
  | utf8Marked
  /-- Without an order the mark at the front gives it. -/
  | utf16 (order : Option ByteOrder)
  | utf32 (order : Option ByteOrder)
  /-- One character a byte. -/
  | table (runs : String)
  | wide (w : Charset.Wide)
  | shifted (set : Charset.Shifted)
  deriving Repr, DecidableEq

namespace Charset

/-! Tables -/

def hexValue (cs : List Char) : Nat :=
  cs.foldl
    (fun n c => 16 * n + (if c.isDigit then c.toNat - '0'.toNat else c.toNat - 'a'.toNat + 10)) 0

/-- The characters of one entry of a table. -/
def entryChars (entry : String) : List (Option Char) :=
  match splitOn (· = '+') entry.toList with
  | [first, more] =>
    (List.range (hexValue more + 1)).map fun i => some (Char.ofNat (hexValue first + i))
  | [one] =>
    match one with
    | 'x' :: count => List.replicate (hexValue count) none
    | _ => [some (Char.ofNat (hexValue one))]
  | _ => []

def tableChars (runs : String) : Array (Option Char) :=
  ((words runs).flatMap entryChars).toArray

def tableChar (chars : Array (Option Char)) (b : UInt8) : Option Char :=
  chars[b.toNat]?.join

/-! Names -/

/-- A name in small letters, with single underscores for whatever is no letter, digit or point. -/
def plainName (name : String) : String :=
  let isNameChar (c : Char) : Bool := c.isAlphanum || c = '.'
  "_".intercalate (((splitOn (fun c => !isNameChar c) name.toList).filter (!·.isEmpty)).map
    fun piece => String.ofList (piece.map Char.toLower))

def ofPlainName? (name : String) : Option Charset :=
  match name with
  | "ascii" => some ascii
  | "utf_8" => some utf8
  | "utf_8_sig" => some utf8Marked
  | "utf_16" => some (utf16 none)
  | "utf_16_le" => some (utf16 (some .little))
  | "utf_16_be" => some (utf16 (some .big))
  | "utf_32" => some (utf32 none)
  | "utf_32_le" => some (utf32 (some .little))
  | "utf_32_be" => some (utf32 (some .big))
  | _ =>
    ((tables.lookup name).map table).or
      (((Wide.names.lookup name).map wide).or ((Shifted.names.lookup name).map shifted))

/-- The set of a name, in any of its spellings. -/
def ofName? (name : String) : Option Charset :=
  let plain := plainName name
  let dotless := String.ofList (plain.toList.map fun c => if c = '.' then '_' else c)
  match (otherNames.lookup plain).or (otherNames.lookup dotless) with
  | some n => ofPlainName? n
  | none => ofPlainName? plain

/-! Decoding -/

def decodeAscii (bs : Bytes) : Option (List Char) :=
  bs.mapM fun b => if b < 0x80 then some (Char.ofNat b.toNat) else none

def unmarked (bs : Bytes) : Bytes :=
  match bs with
  | 0xEF :: 0xBB :: 0xBF :: rest => rest
  | _ => bs

/-- The text of bytes, if all of them are in the set. -/
def decode? (c : Charset) (bs : Bytes) : Option (List Char) :=
  match c with
  | ascii => decodeAscii bs
  | utf8 => (decodeUtf8 false 0 bs).toOption
  | utf8Marked => (decodeUtf8 false 0 (unmarked bs)).toOption
  | utf16 (some o) => (decodeUtf16 o false 0 bs).toOption
  | utf16 none => (decodeMarked16 false bs).toOption
  | utf32 (some o) => (decodeUtf32 o false 0 bs).toOption
  | utf32 none => (decodeMarked32 false bs).toOption
  | table runs => bs.mapM (tableChar (tableChars runs))
  | wide w => w.decode? bs
  | shifted set => set.decode? bs

end Charset
end ContentBinding.Text
