import ContentBinding.Markup.Construct.Doctypes
import ContentBinding.Markup.Construct.StartTags
import ContentBinding.Markup.Tree

/-! From text to page: `Page.parse` reads a whole page, `Page.parseFragment` the content that some
markup puts into the body of a page. -/

namespace ContentBinding.Markup

namespace Build

/-! Text -/

/-- Space in the body; at the start of preformatted text one line feed is dropped. -/
def insertBodySpaces (cs : List Char) : Build Unit := do
  let b ← get
  let n ← current
  modify fun b => { b with dropNewline := false }
  let cs :=
    if b.dropNewline && cs.head? = some '\n' && (b.page.children n).isEmpty &&
        ["pre", "listing", "textarea"].contains (b.page.nameOf n) then
      cs.drop 1
    else cs
  unless cs.isEmpty do
    reopenFormatting
    insertText cs

def beginTableText (cs : List Char) : Build Unit :=
  modify fun b => { b with mode := .inTableText, tableReturn := b.mode, tableText := cs }

def spacesIn (mode : Mode) (cs : List Char) : Build Unit := do
  match mode with
  | .initial | .beforeHtml | .beforeHead => return
  | .inBody | .afterAfterBody | .afterAfterFrameset => insertBodySpaces cs
  | .inTable | .inTableBody | .inRow => beginTableText cs
  | .inTableText => modify fun b => { b with tableText := b.tableText ++ cs }
  | _ => insertText cs

def withoutNul (cs : List Char) : List Char :=
  if cs = ['\x00'] then [] else cs

/-- True when the text has to be processed again. -/
def charactersIn (mode : Mode) (cs : List Char) : Build Bool := do
  match mode with
  | .initial =>
    beginOldPage
    return true
  | .beforeHtml =>
    openRoot
    return true
  | .beforeHead =>
    openHead { name := "head" }
    return true
  | .inHead =>
    closeHead
    return true
  | .inHeadNoscript =>
    closeHeadNoscript
    return true
  | .afterHead =>
    openBody
    return true
  | .inBody | .inCaption | .inCell =>
    insertBodyText cs
    return false
  | .text =>
    insertText cs
    return false
  | .inTable | .inTableBody | .inRow =>
    beginTableText (withoutNul cs)
    return false
  | .inTableText =>
    modify fun b => { b with tableText := b.tableText ++ withoutNul cs }
    return false
  | .inColumnGroup => closeColumnGroup
  | .inSelect | .inSelectInTable =>
    unless cs = ['\x00'] do insertText cs
    return false
  -- text behind the body still belongs to it
  | .afterBody | .afterAfterBody =>
    setMode .inBody
    return true
  | .inFrameset | .afterFrameset | .afterAfterFrameset => return false

/-- True when the comment has to be processed again. -/
def commentIn (mode : Mode) (s : String) : Build Bool := do
  match mode with
  | .initial | .beforeHtml | .afterAfterBody | .afterAfterFrameset => insertComment Page.root s
  | .afterBody => insertComment (← outermost) s
  | .inTableText =>
    flushTableText insertBodyText
    return true
  | _ => insertComment (← current) s
  return false

def doctypeIn (mode : Mode) (d : Doctype) : Build Unit := do
  match mode with
  | .initial =>
    let (p, n) := (← get).page.create (.doctype d.declared)
    setPage (p.append Page.root n)
    modify fun b => { b with oldPage := d.isOld, mode := .beforeHtml }
  | _ => return

/-! Foreign content -/

def startTagForeign (e : Element) (t : Tag) : Build Bool := do
  if Foreign.breaksOut t then
    modify fun b =>
      -- what stays open can hold HTML content
      let stays := fun n =>
        match b.page.element? n with
        | some e => e.dialect = .html || Foreign.isHtmlPoint e || Foreign.isTextPoint e
        | none => true
      { b with stack := b.stack.dropWhile fun n => !stays n }
    return true
  insertElement (Foreign.adjustTag e.dialect t) e.dialect
  if t.selfClosing then pop
  return false

/-- The open foreign element that an end tag closes: the search stops at HTML elements. -/
def foreignTarget? (p : Page) (name : String) : List NodeId → Option NodeId
  | [] => none
  | n :: rest =>
    if lowerString (p.nameOf n) = name then some n
    else
      match rest with
      | m :: _ => if p.dialectOf m = .html then none else foreignTarget? p name rest
      | [] => none

def endTagForeign (t : Tag) : Build Bool := do
  let b ← get
  match foreignTarget? b.page t.name b.stack with
  | some n =>
    if b.mode = .inTableText then flushTableText insertBodyText
    popNode n
    return false
  | none => endTagIn b.mode t.name

def charactersForeign (cs : List Char) : Build Unit := do
  if cs = ['\x00'] then insertText [replacementChar]
  else
    if cs.any fun c => !isSpace c then noFrameset
    insertText cs

/-! Tokens -/

/-- One step for a token in HTML content; true when it has to be processed again. -/
def stepHtml (mode : Mode) (t : Token) : Build Bool := do
  match t with
  | .characters cs => charactersIn mode cs
  | .spaces cs =>
    spacesIn mode cs
    return false
  | .startTag tag => startTagIn mode tag
  | .endTag tag => endTagIn mode tag.name
  | .comment s => commentIn mode s
  | .doctype d =>
    doctypeIn mode d
    return false

/-- One step for a token inside a foreign element. -/
def stepForeign (e : Element) (t : Token) : Build Bool := do
  match t with
  | .characters cs =>
    charactersForeign cs
    return false
  | .spaces cs =>
    insertText cs
    return false
  | .startTag tag => startTagForeign e tag
  | .endTag tag => endTagForeign tag
  | .comment s =>
    insertComment (← current) s
    return false
  | .doctype _ => return false

/-- One step for a token; true when it has to be processed again. -/
def step (t : Token) : Build Bool := do
  let b ← get
  let e := ((← current?).bind b.page.element?).getD { name := "" }
  if Foreign.isHtmlContent e t then stepHtml b.mode t else stepForeign e t

def process : Nat → Token → Build Unit
  | 0, _ => return
  | fuel + 1, t => do
    if ← step t then process fuel t

/-- Each repetition closes an open element or moves to a later part of the page, so that few more
steps than open elements are enough. -/
def processToken (t : Token) : Build Unit := do
  process (2 * (← get).stack.length + 16) t

def processTokens : List Token → Build Unit
  | [] => return
  | t :: rest => do
    processToken t
    processTokens rest

def inForeign : Build Bool := do
  let b ← get
  match b.stack with
  | [] => return false
  | n :: _ => return b.page.dialectOf n != .html

/-- Reads the input; every round takes at least one character. -/
def consume : Nat → List Char → Build Unit
  | 0, _ => return
  | _, [] => return
  | fuel + 1, c :: cs => do
    let model := (← get).model
    let (tokens, model, rest) := Tokenizer.next model (← inForeign) (c :: cs)
    setModel model
    processTokens tokens
    consume fuel rest

/-- What is left to do at the end of the input; every round moves to a later mode. -/
def finish : Nat → Build Unit
  | 0 => return
  | fuel + 1 => do
    let b ← get
    match b.mode with
    | .initial =>
      beginOldPage
      finish fuel
    | .beforeHtml =>
      openRoot
      finish fuel
    | .beforeHead =>
      openHead { name := "head" }
      finish fuel
    | .inHead =>
      closeHead
      finish fuel
    | .inHeadNoscript =>
      closeHeadNoscript
      finish fuel
    | .afterHead =>
      openBody
      finish fuel
    | .text =>
      pop
      setMode b.textReturn
      finish fuel
    | .inTableText =>
      flushTableText insertBodyText
      finish fuel
    | .inColumnGroup =>
      discard closeColumnGroup
      finish fuel
    | _ => return

end Build

namespace Page

def parse (html : String) : Page :=
  let cs := normalizeLines html.toList
  let whole : Build Unit := do
    Build.consume cs.length cs
    Build.finish 16
  (whole.run {}).2.page

/-- The content that the markup gives to the body; of a page without body, everything. -/
def parseFragment (markup : String) : List Tree :=
  let p := parse markup
  p.trees (p.body?.getD root)

end Page
end ContentBinding.Markup
