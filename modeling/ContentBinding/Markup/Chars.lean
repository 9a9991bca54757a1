/-! Character classes of HTML, and the pieces of text that its rules speak of. -/

namespace ContentBinding.Markup

/-- The space characters of HTML. -/
def isSpace (c : Char) : Bool :=
  c = ' ' || c = '\t' || c = '\n' || c = '\x0c' || c = '\r'

def isLetter (c : Char) : Bool :=
  c.isAlpha

def isHexDigit (c : Char) : Bool :=
  c.isDigit || ('a' ≤ c && c ≤ 'f') || ('A' ≤ c && c ≤ 'F')

def replacementChar : Char := '\uFFFD'

/-- Lower case of ASCII letters; other characters stay. -/
def lower (s : List Char) : List Char :=
  s.map Char.toLower

def lowerString (s : String) : String :=
  String.ofList (lower s.toList)

/-- A zero character is shown as the replacement character. -/
def showNul (c : Char) : Char :=
  if c = '\x00' then replacementChar else c

/-- The rest after `word`, letters compared without case. `word` is in lower case. -/
def dropWord : List Char → List Char → Option (List Char)
  | [], rest => some rest
  | _ :: _, [] => none
  | w :: word, c :: rest => if c.toLower = w then dropWord word rest else none

/-- Every kind of line end becomes a line feed. -/
def normalizeLines : List Char → List Char
  | [] => []
  | '\r' :: '\n' :: rest => '\n' :: normalizeLines rest
  | c :: rest => (if c = '\r' then '\n' else c) :: normalizeLines rest

end ContentBinding.Markup
