import ContentBinding.Markup.CharRef

/-! Tokens of HTML text, and how a text is cut into them. `Tokenizer.next` reads the next piece of
the input; how it reads depends on the content model that the last start tag has set. -/

namespace ContentBinding.Markup

structure Tag where
  name : String
  /-- In order of appearance; the first of two equal names is kept. -/
  attrs : List (String × String) := []
  selfClosing : Bool := false
  deriving Repr, DecidableEq

namespace Tag

def attr? (t : Tag) (name : String) : Option String :=
  t.attrs.lookup name

end Tag

structure Doctype where
  name : String := ""
  publicId : Option String := none
  systemId : Option String := none
  correct : Bool := true
  deriving Repr, DecidableEq

inductive Token
  /-- Text that does not begin with a space character. -/
  | characters (text : List Char)
  /-- Space characters only. -/
  | spaces (text : List Char)
  | startTag (tag : Tag)
  | endTag (tag : Tag)
  | comment (text : String)
  | doctype (d : Doctype)
  deriving Repr

/-- What the text after a start tag is read as. -/
inductive ContentModel
  | data
  /-- Text with references, up to the end tag of that name. -/
  | references (name : String)
  /-- Text without references, up to the end tag of that name. -/
  | raw (name : String)
  | script
  | plain
  deriving Repr, DecidableEq

namespace Tokenizer

/-! Text -/

def ofReference (text : List Char) : Token :=
  match text with
  | [c] => if isSpace c then .spaces text else .characters text
  | _ => .characters text

/-- Cuts text without tags. Runs of leading spaces, references and zero characters are tokens of
their own. -/
def textTokens (nul : Char → Char) (cs : List Char) : List Token :=
  match cs with
  | [] => []
  | c :: rest =>
    if c = '&' then
      let piece := CharRef.takePiece rest
      ofReference piece.text :: textTokens nul (rest.drop piece.length)
    else if c = '\x00' then
      .characters [nul c] :: textTokens nul rest
    else if isSpace c then
      .spaces (c :: rest.takeWhile isSpace) :: textTokens nul (rest.dropWhile isSpace)
    else
      let ordinary := fun d => d != '&' && d != '\x00'
      .characters (c :: rest.takeWhile ordinary) :: textTokens nul (rest.dropWhile ordinary)
termination_by cs.length
decreasing_by
  · simp only [List.length_cons, List.length_drop]; omega
  · simp
  · exact Nat.lt_succ_of_le (List.dropWhile_sublist _).length_le
  · exact Nat.lt_succ_of_le (List.dropWhile_sublist _).length_le

def rawTokens (cs : List Char) : List Token :=
  if cs.isEmpty then [] else [.characters (cs.map showNul)]

/-! Tags -/

inductive TagState
  | name | beforeAttr | attrName | afterAttrName | beforeValue
  | quoted (quote : Char) | unquoted | afterValue | selfClosing

/-- A tag while it is read; every list is in reverse order. -/
structure OpenTag where
  name : List Char := []
  attrs : List (List Char × List Char) := []

namespace OpenTag

def pushName (t : OpenTag) (c : Char) : OpenTag :=
  { t with name := showNul c :: t.name }

def newAttr (t : OpenTag) (c : Char) : OpenTag :=
  { t with attrs := ([showNul c], []) :: t.attrs }

def pushAttrName (t : OpenTag) (c : Char) : OpenTag :=
  match t.attrs with
  | (n, v) :: more => { t with attrs := (showNul c :: n, v) :: more }
  | [] => t

def pushValue (t : OpenTag) (c : Char) : OpenTag :=
  match t.attrs with
  | (n, v) :: more => { t with attrs := (n, c :: v) :: more }
  | [] => t

end OpenTag

/-- References are read before zero characters are shown: a reference never spans one. -/
def finishValue (reversed : List Char) : String :=
  String.ofList ((CharRef.decodeAttribute reversed.reverse).map showNul)

def keepFirst : List (String × String) → List (String × String)
  | [] => []
  | (n, v) :: rest => (n, v) :: (keepFirst rest).filter fun p => p.1 != n

def OpenTag.finish (t : OpenTag) (selfClosing : Bool) : Tag where
  name := String.ofList (lower t.name.reverse)
  -- of attributes with the same name the first one counts
  attrs := keepFirst (t.attrs.reverse.map fun (n, v) =>
    (String.ofList (lower n.reverse), finishValue v))
  selfClosing := selfClosing

/-- What one character does to a tag that is being read. -/
inductive TagStep
  | go (state : TagState) (t : OpenTag)
  | close (selfClosing : Bool)

def beforeAttrStep (t : OpenTag) (c : Char) : TagStep :=
  if isSpace c then .go .beforeAttr t
  else if c = '>' then .close false
  else if c = '/' then .go .selfClosing t
  else .go .attrName (t.newAttr c)

def tagStep (state : TagState) (t : OpenTag) (c : Char) : TagStep :=
  match state with
  | .name =>
    if isSpace c then .go .beforeAttr t
    else if c = '>' then .close false
    else if c = '/' then .go .selfClosing t
    else .go .name (t.pushName c)
  | .beforeAttr => beforeAttrStep t c
  | .attrName =>
    if c = '=' then .go .beforeValue t
    else if c = '>' then .close false
    else if isSpace c then .go .afterAttrName t
    else if c = '/' then .go .selfClosing t
    else .go .attrName (t.pushAttrName c)
  | .afterAttrName =>
    if isSpace c then .go .afterAttrName t
    else if c = '=' then .go .beforeValue t
    else if c = '>' then .close false
    else if c = '/' then .go .selfClosing t
    else .go .attrName (t.newAttr c)
  | .beforeValue =>
    if isSpace c then .go .beforeValue t
    else if c = '"' || c = '\'' then .go (.quoted c) t
    else if c = '>' then .close false
    else .go .unquoted (t.pushValue c)
  | .quoted q => if c = q then .go .afterValue t else .go (.quoted q) (t.pushValue c)
  | .unquoted =>
    if isSpace c then .go .beforeAttr t
    else if c = '>' then .close false
    else .go .unquoted (t.pushValue c)
  | .afterValue =>
    if isSpace c then .go .beforeAttr t
    else if c = '>' then .close false
    else if c = '/' then .go .selfClosing t
    else beforeAttrStep t c
  | .selfClosing => if c = '>' then .close true else beforeAttrStep t c

/-- Reads a tag to its end; none when the text ends first. -/
def scanTag (state : TagState) (t : OpenTag) : List Char → Option (Tag × List Char)
  | [] => none
  | c :: rest =>
    match tagStep state t c with
    | .go state t => scanTag state t rest
    | .close selfClosing => some (t.finish selfClosing, rest)

/-! Comments and declarations -/

inductive CommentState
  | start | startDash | body | oneDash | twoDashes | bang

def prepend (p : List Char) (r : List Char × List Char) : List Char × List Char :=
  (p ++ r.1, r.2)

/-- The text of a comment and the rest of the input. -/
def scanComment : CommentState → List Char → List Char × List Char
  | _, [] => ([], [])
  | .start, c :: rest =>
    if c = '-' then scanComment .startDash rest
    else if c = '\x00' then prepend [showNul c] (scanComment .start rest)
    else if c = '>' then ([], rest)
    else prepend [c] (scanComment .body rest)
  | .startDash, c :: rest =>
    if c = '-' then scanComment .twoDashes rest
    else if c = '\x00' then prepend ['-', showNul c] (scanComment .startDash rest)
    else if c = '>' then ([], rest)
    else prepend ['-', c] (scanComment .body rest)
  | .body, c :: rest =>
    if c = '-' then scanComment .oneDash rest
    else prepend [showNul c] (scanComment .body rest)
  | .oneDash, c :: rest =>
    if c = '-' then scanComment .twoDashes rest
    else prepend ['-', showNul c] (scanComment .body rest)
  | .twoDashes, c :: rest =>
    if c = '>' then ([], rest)
    else if c = '!' then scanComment .bang rest
    else if c = '-' then prepend ['-'] (scanComment .twoDashes rest)
    else prepend ['-', '-', showNul c] (scanComment .body rest)
  | .bang, c :: rest =>
    if c = '>' then ([], rest)
    else if c = '-' then prepend ['-', '-', '!'] (scanComment .oneDash rest)
    else prepend ['-', '-', '!', showNul c] (scanComment .body rest)

/-- Up to the next `>`, which is dropped. -/
def scanBogusComment (cs : List Char) : Token × List Char :=
  (.comment (String.ofList ((cs.takeWhile (· != '>')).map showNul)),
   (cs.dropWhile (· != '>')).drop 1)

def skipSpaces (cs : List Char) : List Char :=
  cs.dropWhile isSpace

def bogusDoctype (d : Doctype) (cs : List Char) : Doctype × List Char :=
  (d, (cs.dropWhile (· != '>')).drop 1)

/-- A quoted identifier; the flag tells whether its closing quote was found. -/
def scanIdentifier (quote : Char) (cs : List Char) : String × Bool × List Char :=
  let ends := fun c => c != quote && c != '>'
  let rest := cs.dropWhile ends
  (String.ofList ((cs.takeWhile ends).map showNul), rest.head? = some quote, rest.drop 1)

def afterSystemId (d : Doctype) (cs : List Char) : Doctype × List Char :=
  match skipSpaces cs with
  | [] => ({ d with correct := false }, [])
  | '>' :: rest => (d, rest)
  | rest => bogusDoctype d rest

def isQuote (c : Char) : Bool :=
  c = '"' || c = '\''

def scanSystemId (d : Doctype) (quote : Char) (cs : List Char) : Doctype × List Char :=
  let (id, closed, rest) := scanIdentifier quote cs
  let d := { d with systemId := some id, correct := d.correct && closed }
  if closed then afterSystemId d rest else (d, rest)

def afterPublicId (d : Doctype) (cs : List Char) : Doctype × List Char :=
  match skipSpaces cs with
  | [] => ({ d with correct := false }, [])
  | c :: rest =>
    if c = '>' then (d, rest)
    else if isQuote c then scanSystemId d c rest
    else bogusDoctype { d with correct := false } (c :: rest)

def scanPublicId (d : Doctype) (quote : Char) (cs : List Char) : Doctype × List Char :=
  let (id, closed, rest) := scanIdentifier quote cs
  let d := { d with publicId := some id, correct := d.correct && closed }
  if closed then afterPublicId d rest else (d, rest)

/-- After the keyword of an identifier. -/
def beforeId (d : Doctype) (scan : Doctype → Char → List Char → Doctype × List Char)
    (cs : List Char) : Doctype × List Char :=
  match skipSpaces cs with
  | [] => ({ d with correct := false }, [])
  | c :: rest =>
    if isQuote c then scan d c rest
    else if c = '>' then ({ d with correct := false }, rest)
    else bogusDoctype { d with correct := false } (c :: rest)

def afterDoctypeName (d : Doctype) (cs : List Char) : Doctype × List Char :=
  match skipSpaces cs with
  | [] => ({ d with correct := false }, [])
  | '>' :: rest => (d, rest)
  | cs =>
    match dropWord "public".toList cs, dropWord "system".toList cs with
    | some rest, _ => beforeId d scanPublicId rest
    | none, some rest => beforeId d scanSystemId rest
    | none, none => bogusDoctype { d with correct := false } cs

/-- After the word of a doctype declaration. -/
def scanDoctype (cs : List Char) : Doctype × List Char :=
  match skipSpaces cs with
  | [] => ({ correct := false }, [])
  | '>' :: rest => ({ correct := false }, rest)
  | cs =>
    let inName := fun c => !isSpace c && c != '>'
    let name := String.ofList (lower ((cs.takeWhile inName).map showNul))
    afterDoctypeName { name := name } (cs.dropWhile inName)

/-- The text before the end of a CDATA section, and the rest after it. -/
def scanCdata : List Char → List Char × List Char
  | [] => ([], [])
  | ']' :: ']' :: '>' :: rest => ([], rest)
  | c :: rest => prepend [c] (scanCdata rest)

def dropExact : List Char → List Char → Option (List Char)
  | [], rest => some rest
  | _ :: _, [] => none
  | w :: word, c :: rest => if c = w then dropExact word rest else none

def scanDeclaration (cdata : Bool) (cs : List Char) : List Token × List Char :=
  match cs with
  | '-' :: '-' :: rest =>
    let (text, rest) := scanComment .start rest
    ([.comment (String.ofList text)], rest)
  | _ =>
    match dropWord "doctype".toList cs with
    | some rest =>
      let (d, rest) := scanDoctype rest
      ([.doctype d], rest)
    | none =>
      -- CDATA sections exist in foreign content only
      match if cdata then dropExact "[CDATA[".toList cs else none with
      | some rest =>
        let (text, rest) := scanCdata rest
        (rawTokens text, rest)
      | none =>
        let (c, rest) := scanBogusComment cs
        ([c], rest)

/-- After a less-than sign. -/
def scanMarkup (cdata : Bool) (cs : List Char) : List Token × List Char :=
  match cs with
  | '!' :: rest => scanDeclaration cdata rest
  | '/' :: rest =>
    match rest with
    | [] => ([.characters ['<', '/']], [])
    | '>' :: rest => ([], rest)
    | c :: _ =>
      if isLetter c then
        match scanTag .name {} rest with
        | some (t, rest) => ([.endTag t], rest)
        -- a tag that the text breaks off is lost
        | none => ([], [])
      else
        let (c, rest) := scanBogusComment rest
        ([c], rest)
  | '>' :: rest => ([.characters ['<', '>']], rest)
  | '?' :: _ =>
    let (c, rest) := scanBogusComment cs
    ([c], rest)
  | c :: _ =>
    if isLetter c then
      match scanTag .name {} cs with
      | some (t, rest) => ([.startTag t], rest)
      | none => ([], [])
    else ([.characters ['<']], cs)
  | [] => ([.characters ['<']], [])

/-! Text up to an end tag -/

/-- The rest after the name, when the text is the end tag of that name. -/
def endTagAt? (name : List Char) (cs : List Char) : Option (List Char) :=
  match cs with
  | '<' :: '/' :: rest =>
    match dropWord name rest with
    | some (c :: rest) => if isSpace c || c = '/' || c = '>' then some (c :: rest) else none
    | _ => none
  | _ => none

def splitAtEndTag (name : List Char) : List Char → List Char × Option (List Char)
  | [] => ([], none)
  | c :: rest =>
    match endTagAt? name (c :: rest) with
    | some after => ([], some after)
    | none =>
      let (text, after) := splitAtEndTag name rest
      (c :: text, after)

/-- Where a script's text stands with respect to comments that hide its end tag. -/
inductive ScriptState
  | plain | less | escapeStart | escapeStartDash
  | escaped (dashes : Nat) | escapedLess
  | doubleStart (word : List Char) | double (dashes : Nat) | doubleLess
  | doubleEnd (word : List Char)

namespace ScriptState

def afterPlain (c : Char) : ScriptState :=
  if c = '<' then .less else .plain

def afterEscaped (dashes : Nat) (c : Char) : ScriptState :=
  if c = '-' then .escaped (min (dashes + 1) 2)
  else if c = '<' then .escapedLess
  else if c = '>' && dashes = 2 then .plain
  else .escaped 0

def afterDouble (dashes : Nat) (c : Char) : ScriptState :=
  if c = '-' then .double (min (dashes + 1) 2)
  else if c = '<' then .doubleLess
  else if c = '>' && dashes = 2 then .plain
  else .double 0

def endsWord (c : Char) : Bool :=
  isSpace c || c = '/' || c = '>'

def isScript (reversed : List Char) : Bool :=
  lower reversed.reverse = "script".toList

def step : ScriptState → Char → ScriptState
  | plain, c => afterPlain c
  | less, c => if c = '!' then .escapeStart else afterPlain c
  | escapeStart, c => if c = '-' then .escapeStartDash else afterPlain c
  | escapeStartDash, c => if c = '-' then .escaped 2 else afterPlain c
  | escaped d, c => afterEscaped d c
  | escapedLess, c =>
    if c = '/' then .escaped 0
    else if isLetter c then .doubleStart [c]
    else afterEscaped 0 c
  | doubleStart w, c =>
    if endsWord c then (if isScript w then .double 0 else .escaped 0)
    else if isLetter c then .doubleStart (c :: w)
    else afterEscaped 0 c
  | double d, c => afterDouble d c
  | doubleLess, c => if c = '/' then .doubleEnd [] else afterDouble 0 c
  | doubleEnd w, c =>
    if endsWord c then (if isScript w then .escaped 0 else .double 0)
    else if isLetter c then .doubleEnd (c :: w)
    else afterDouble 0 c

/-- Whether the less-than sign just read may begin the end tag. -/
def mayEnd : ScriptState → Bool
  | less | escapedLess => true
  | _ => false

end ScriptState

def splitScript (state : ScriptState) : List Char → List Char × Option (List Char)
  | [] => ([], none)
  | c :: rest =>
    let next := state.step c
    match if next.mayEnd then endTagAt? "script".toList (c :: rest) else none with
    | some after => ([], some after)
    | none =>
      let (text, after) := splitScript next rest
      (c :: text, after)

/-- The tokens of a text and of the end tag that closes it. -/
def closeText (name : List Char) (text : List Token) (after : Option (List Char)) :
    List Token × List Char :=
  match after with
  | none => (text, [])
  | some rest =>
    match scanTag .afterValue ⟨name.reverse, []⟩ rest with
    | some (t, rest) => (text ++ [.endTag t], rest)
    | none => (text, [])

/-- The next tokens of a nonempty input. Of text that runs to an end tag everything up to that tag
is read, and the content model is then `data` again. -/
def next (model : ContentModel) (cdata : Bool) (cs : List Char) :
    List Token × ContentModel × List Char :=
  match model with
  | .data =>
    match cs with
    | '<' :: rest =>
      let (ts, rest) := scanMarkup cdata rest
      (ts, .data, rest)
    | _ => (textTokens id (cs.takeWhile (· != '<')), .data, cs.dropWhile (· != '<'))
  | .references name =>
    let (text, after) := splitAtEndTag name.toList cs
    let (ts, rest) := closeText name.toList (textTokens showNul text) after
    (ts, .data, rest)
  | .raw name =>
    let (text, after) := splitAtEndTag name.toList cs
    let (ts, rest) := closeText name.toList (rawTokens text) after
    (ts, .data, rest)
  | .script =>
    let (text, after) := splitScript .plain cs
    let (ts, rest) := closeText "script".toList (rawTokens text) after
    (ts, .data, rest)
  | .plain => (rawTokens cs, .data, [])

end Tokenizer
end ContentBinding.Markup
