import ContentBinding.Text.Charset

/-! The encoding of a page: a byte order mark tells it, else a declaration near the front, else it is
UTF-8 or Windows-1252. The first of these that fits the bytes is taken. -/

namespace ContentBinding.Markup

namespace Encoding

open Text

/-- The set that a byte order mark tells, and the bytes after it. -/
def takeMark (bs : Bytes) : Option Charset × Bytes :=
  match bs with
  | 0xFE :: 0xFF :: a :: b :: rest =>
    -- with two zeros behind it the mark is not taken
    if a = 0 && b = 0 then (none, bs) else (some (.utf16 (some .big)), a :: b :: rest)
  | 0xEF :: 0xBB :: 0xBF :: rest => (some .utf8, rest)
  | 0 :: 0 :: 0xFE :: 0xFF :: rest => (some (.utf32 (some .big)), rest)
  | 0xFF :: 0xFE :: a :: b :: rest =>
    if a = 0 && b = 0 then (some (.utf32 (some .little)), rest)
    else (some (.utf16 (some .little)), a :: b :: rest)
  | _ => (none, bs)

/-! Declarations. They are looked for in bytes, each read as the character of its number. -/

def isSpace (c : Char) : Bool :=
  c = ' ' || (9 ≤ c.toNat && c.toNat ≤ 13)

def skipSpaces (cs : List Char) : List Char :=
  cs.dropWhile isSpace

/-- What follows a word at the front, whose letters may be of either case. -/
def afterWord? (word : List Char) (cs : List Char) : Option (List Char) :=
  if (cs.take word.length).map Char.toLower = word then some (cs.drop word.length) else none

/-- What follows each place of a word, the last place first. -/
def afterWords (word : List Char) : List Char → List (List Char)
  | [] => []
  | c :: rest => afterWords word rest ++ (afterWord? word (c :: rest)).toList

def isQuote (c : Char) : Bool :=
  c = '"' || c = '\''

/-- A quoted name, when the mark that ends the declaration follows on the same line. -/
def quotedName? (line : List Char) : Option (List Char) :=
  match line with
  | [] => none
  | q :: rest =>
    if isQuote q then
      match rest.dropWhile (fun c => !isQuote c) with
      | _ :: more =>
        if (afterWords ['?', '>'] more).isEmpty then none
        else some (rest.takeWhile fun c => !isQuote c)
      | [] => none
    else none

/-- The name in a processing instruction that begins the page. -/
def instructionName? (cs : List Char) : Option (List Char) :=
  match skipSpaces cs with
  | '<' :: '?' :: rest =>
    (afterWords "encoding=".toList (rest.takeWhile (· != '\n'))).findSome? quotedName?
  | _ => none

def endsName (c : Char) : Bool :=
  c = ' ' || c = '/' || c = ';' || c = '\'' || c = '"' || c = '>'

/-- The name after the word `charset`; it is empty where the end of the name is not seen. -/
def metaName? (after : List Char) : Option (List Char) :=
  match skipSpaces after with
  | '=' :: rest =>
    let value := skipSpaces rest
    let unquoted := match value with
      | q :: more => if isQuote q then more else value
      | [] => []
    if unquoted.any endsName then some (unquoted.takeWhile fun c => !endsName c)
    else if rest.any endsName then some []
    else none
  | _ => none

/-- What follows each `charset` of a tag, the last first; the end of the tag is part of it. -/
def tagNames (afterMeta : List Char) : List (List Char) :=
  let inside := afterMeta.takeWhile (· != '>')
  let close := (afterMeta.drop inside.length).take 1
  (afterWords "charset".toList (inside.drop 1)).map (· ++ close)

/-- The name that the first `meta` tag with one declares. -/
def firstMetaName? : List Char → Option (List Char)
  | [] => none
  | c :: rest =>
    let here :=
      if c = '<' then
        match afterWord? "meta".toList (skipSpaces rest) with
        | some after => (tagNames after).findSome? metaName?
        | none => none
      else none
    here.or (firstMetaName? rest)

def instructionWindow : Nat := 1024

/-- At least 2048 bytes, and a twentieth of a long page. -/
def metaWindow (length : Nat) : Nat :=
  max 2048 (length / 20)

/-- The name of the encoding that a page declares. -/
def declared? (bs : Bytes) : Option String :=
  let cs := bs.map fun b => Char.ofNat b.toNat
  let name := (instructionName? (cs.take instructionWindow)).or
    (firstMetaName? (cs.take (metaWindow cs.length)))
  match name with
  | some (c :: rest) => some (String.ofList (c :: rest)).toLower
  | _ => none

def aliases : List (String × String) :=
  [("macintosh", "mac-roman"), ("x-sjis", "shift-jis")]

/-- The set of a declared name; hyphens may be missing from it or stand for other marks. -/
def charsetOf? (name : String) : Option Charset :=
  let without := String.ofList (name.toList.filter (· != '-'))
  (Charset.ofName? ((aliases.lookup name).getD name)).or (Charset.ofName? without)

def windows1252 : String := "windows-1252"

abbrev Decoder := Bytes → Option (List Char)

/-- Decoders by the names that pages declare. There may be any others than those of `charsetOf?`,
but the names of UTF-8 are its names. -/
structure Codecs where
  decoder? : String → Option Decoder
  decoder?_utf8 : ∀ name, charsetOf? name = some .utf8 → decoder? name = some Charset.utf8.decode?

def Codecs.known : Codecs where
  decoder? name := (charsetOf? name).map Charset.decode?
  decoder?_utf8 name h := by rw [h, Option.map_some]

/-- The decoders to try, in order. -/
def candidates (codecs : Codecs) (mark : Option Charset) (bs : Bytes) : List Decoder :=
  (mark.map Charset.decode?).toList ++ ((declared? bs).bind codecs.decoder?).toList ++
    [Charset.utf8.decode?] ++ ((Charset.ofName? windows1252).map Charset.decode?).toList

/-- The markup of a page's bytes; none when no encoding fits or nothing is left. -/
def Codecs.decodePage (codecs : Codecs) (bs : Bytes) : Option String :=
  let (mark, rest) := takeMark bs
  match (candidates codecs mark rest).findSome? fun decode => decode rest with
  | some (c :: cs) => some (String.ofList (c :: cs))
  | _ => none

end Encoding

def decodePage (bs : Text.Bytes) : Option String :=
  Encoding.Codecs.known.decodePage bs

end ContentBinding.Markup
