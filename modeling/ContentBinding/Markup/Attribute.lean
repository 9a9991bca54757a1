import ContentBinding.Markup.Chars
import ContentBinding.Text.Blank

/-! The form in which attribute values are kept: lists of words are joined with single spaces, and
a declared encoding becomes the one that pages are written in. -/

namespace ContentBinding.Markup.Attribute

/-- Attributes whose value is a list of words, on every element or on some. -/
def isWordList (element name : String) : Bool :=
  match name with
  | "class" | "accesskey" | "dropzone" => true
  | "rel" => element = "a" || element = "link" || element = "area"
  | "rev" => element = "a" || element = "link"
  | "headers" => element = "td" || element = "th"
  | "accept-charset" => element = "form"
  | "archive" => element = "object"
  | "sizes" => element = "icon"
  | "sandbox" => element = "iframe"
  | "for" => element = "output"
  | _ => false

/-- The encoding that pages are written in. -/
def pageEncoding : String := "utf-8"

def charsetMark : List Char := "charset=".toList

def atMark (cs : List Char) : Bool :=
  charsetMark.isPrefixOf cs

/-- Where a content type stands: in plain text, inside a mark with some characters to go, or in
the encoding after it. -/
inductive CharsetState
  | text (lineStart : Bool)
  | mark (left : Nat)
  | value

/-- Replaces the encoding after each `charset=` that begins a line or follows white space or a
semicolon; it runs to the next semicolon. -/
def rewriteCharset : CharsetState → List Char → List Char
  | _, [] => []
  | .text lineStart, c :: rest =>
    if lineStart && atMark (c :: rest) then c :: rewriteCharset (.mark 7) rest
    else if (Text.isBlank c || c = ';') && atMark rest then c :: rewriteCharset (.mark 8) rest
    else c :: rewriteCharset (.text (c = '\n')) rest
  | .mark left, c :: rest =>
    if left ≤ 1 then c :: pageEncoding.toList ++ rewriteCharset .value rest
    else c :: rewriteCharset (.mark (left - 1)) rest
  | .value, c :: rest =>
    if c = ';' then
      if atMark rest then c :: rewriteCharset (.mark 8) rest
      else c :: rewriteCharset (.text false) rest
    else rewriteCharset .value rest

def joinWords (value : String) : String :=
  " ".intercalate (Text.words value)

/-- Whether the value of `content` declares an encoding. -/
def declaresContentType (attrs : List (String × String)) : Bool :=
  match attrs.lookup "http-equiv" with
  | some v => lowerString v = "content-type"
  | none => false

def declareEncoding (attrs : List (String × String)) : List (String × String) :=
  if (attrs.lookup "charset").isSome then
    attrs.map fun (n, v) => if n = "charset" then (n, pageEncoding) else (n, v)
  else if declaresContentType attrs then
    attrs.map fun (n, v) =>
      if n = "content" then (n, String.ofList (rewriteCharset (.text true) v.toList)) else (n, v)
  else attrs

/-- The kept form of the attributes of a new element. -/
def normalize (element : String) (attrs : List (String × String)) : List (String × String) :=
  let attrs := attrs.map fun (n, v) =>
    if isWordList (lowerString element) n then (n, joinWords v) else (n, v)
  if element = "meta" then declareEncoding attrs else attrs

/-- The value that a new attribute of an existing element is kept as. -/
def normalizeValue (element name value : String) : String :=
  if isWordList element name then joinWords value else value

end ContentBinding.Markup.Attribute
