import ContentBinding.Markup.Attribute
import ContentBinding.Markup.Page
import ContentBinding.Markup.Token

/-! The state in which a page is built from tokens: the page so far, the stack of open elements,
the list of active formatting elements and the insertion mode. -/

namespace ContentBinding.Markup

/-- What the next token is expected to be part of. -/
inductive Mode
  | initial | beforeHtml | beforeHead | inHead | inHeadNoscript | afterHead | inBody | text
  | inTable | inTableText | inCaption | inColumnGroup | inTableBody | inRow | inCell
  | inSelect | inSelectInTable | afterBody | inFrameset | afterFrameset
  | afterAfterBody | afterAfterFrameset
  deriving Repr, DecidableEq

structure Builder where
  page : Page := .empty
  /-- The open elements, innermost first. -/
  stack : List NodeId := []
  /-- The active formatting elements, oldest first; none is a marker. -/
  formatting : List (Option NodeId) := []
  mode : Mode := .initial
  model : ContentModel := .data
  /-- Where to go back to after the text of an element. -/
  textReturn : Mode := .initial
  /-- Where to go back to after text in a table. -/
  tableReturn : Mode := .initial
  tableText : List Char := []
  head : Option NodeId := none
  form : Option NodeId := none
  framesetOk : Bool := true
  /-- Content that a table cannot hold goes in front of the table. -/
  fostering : Bool := false
  /-- The page has no doctype of today. -/
  oldPage : Bool := false
  /-- A line feed at the start of preformatted text is dropped. -/
  dropNewline : Bool := false

abbrev Build := StateM Builder

namespace Build

def setMode (m : Mode) : Build Unit :=
  modify fun b => { b with mode := m }

def setModel (m : ContentModel) : Build Unit :=
  modify fun b => { b with model := m }

def setPage (p : Page) : Build Unit :=
  modify fun b => { b with page := p }

def setStack (s : List NodeId) : Build Unit :=
  modify fun b => { b with stack := s }

def noFrameset : Build Unit :=
  modify fun b => { b with framesetOk := false }

def current? : Build (Option NodeId) := do
  return (← get).stack.head?

/-- The innermost open element; the document while there is none. -/
def current : Build NodeId := do
  return (← current?).getD Page.root

def currentName : Build String := do
  let b ← get
  return match b.stack with
    | [] => ""
    | n :: _ => b.page.nameOf n

def pop : Build Unit :=
  modify fun b => { b with stack := b.stack.tail }

def push (n : NodeId) : Build Unit :=
  modify fun b => { b with stack := n :: b.stack }

def popThrough (stop : NodeId → Bool) : List NodeId → List NodeId
  | [] => []
  | n :: rest => if stop n then rest else popThrough stop rest

/-- Pops elements up to and with the first of that name. -/
def popName (name : String) : Build Unit :=
  modify fun b => { b with stack := popThrough (fun n => b.page.nameOf n = name) b.stack }

/-- Pops elements up to and with one. -/
def popNode (node : NodeId) : Build Unit :=
  modify fun b => { b with stack := popThrough (fun n => n = node) b.stack }

/-- Pops elements until the current one has one of the names. -/
def popToOneOf (names : List String) : Build Unit :=
  modify fun b => { b with stack := b.stack.dropWhile fun n => !names.contains (b.page.nameOf n) }

/-! Scopes -/

inductive Scope
  | standard | button | list | table | select

def isScoping (d : Dialect) (name : String) : Bool :=
  match d with
  | .html => ["applet", "caption", "html", "marquee", "object", "table", "td", "th"].contains name
  | .math => ["mi", "mo", "mn", "ms", "mtext", "annotation-xml"].contains name
  | .svg => ["foreignObject", "desc", "title"].contains name

/-- Elements behind which nothing is in scope. -/
def Scope.endsAt (s : Scope) (d : Dialect) (name : String) : Bool :=
  match s with
  | .standard => isScoping d name
  | .button => isScoping d name || (d = .html && name = "button")
  | .list => isScoping d name || (d = .html && (name = "ol" || name = "ul"))
  | .table => d = .html && (name = "html" || name = "table")
  | .select => !(d = .html && (name = "optgroup" || name = "option"))

def searchScope (p : Page) (s : Scope) (wanted : NodeId → Bool) : List NodeId → Bool
  | [] => false
  | n :: rest =>
    if wanted n then true
    else if s.endsAt (p.dialectOf n) (p.nameOf n) then false
    else searchScope p s wanted rest

def inScope (name : String) (s : Scope := .standard) : Build Bool := do
  let b ← get
  return searchScope b.page s (fun n => b.page.dialectOf n = .html && b.page.nameOf n = name) b.stack

def nodeInScope (node : NodeId) : Build Bool := do
  let b ← get
  return searchScope b.page .standard (fun n => n = node) b.stack

def anyInScope (names : List String) (s : Scope := .standard) : Build Bool := do
  names.anyM fun name => inScope name s

def headings : List String :=
  ["h1", "h2", "h3", "h4", "h5", "h6"]

/-- Elements that end the search for an element to close. -/
def isSpecial (d : Dialect) (name : String) : Bool :=
  match d with
  | .html =>
    ["address", "applet", "area", "article", "aside", "base", "basefont", "bgsound", "blockquote",
      "body", "br", "button", "caption", "center", "col", "colgroup", "command", "dd", "details",
      "dir", "div", "dl", "dt", "embed", "fieldset", "figure", "footer", "form", "frame",
      "frameset", "h1", "h2", "h3", "h4", "h5", "h6", "head", "header", "hr", "html", "iframe",
      "image", "img", "input", "isindex", "li", "link", "listing", "marquee", "menu", "meta",
      "nav", "noembed", "noframes", "noscript", "object", "ol", "p", "param", "plaintext", "pre",
      "script", "section", "select", "style", "table", "tbody", "td", "textarea", "tfoot", "th",
      "thead", "title", "tr", "ul", "wbr", "xmp"].contains name
  | .svg => name = "foreignObject"
  | .math => false

def nodeIsSpecial (p : Page) (n : NodeId) : Bool :=
  isSpecial (p.dialectOf n) (p.nameOf n)

def impliedEnds : List String :=
  ["dd", "dt", "li", "option", "optgroup", "p", "rp", "rt"]

/-- Closes elements whose end tag may be left out. -/
def closeImplied (kept : String := "") : Build Unit :=
  modify fun b =>
    let implied := fun n => impliedEnds.contains (b.page.nameOf n) && b.page.nameOf n != kept
    { b with stack := b.stack.dropWhile implied }

/-! Insertion -/

def tableParts : List String :=
  ["table", "tbody", "tfoot", "thead", "tr"]

/-- The parent for content that a table cannot hold, and the table it goes in front of. -/
def fosterPlace (b : Builder) : NodeId × Option NodeId :=
  match b.stack.dropWhile fun n => b.page.nameOf n != "table" with
  | table :: outer =>
    match b.page.parent? table with
    | some q => (q, some table)
    -- a table that was taken off the page leaves the element around it
    | none => (outer.headD Page.root, none)
  | [] => (b.stack.getLastD Page.root, none)

/-- Adds text at the end of a node; it joins a text that stands there. -/
def appendText (p : Page) (parent : NodeId) (s : String) : Page :=
  match (p.children parent).getLast? with
  | some last =>
    match p.text? last with
    | some before => p.setContent last (.text (before ++ s))
    | none =>
      let (p, n) := p.create (.text s)
      p.append parent n
  | none =>
    let (p, n) := p.create (.text s)
    p.append parent n

def childBefore? (ref : NodeId) : List NodeId → Option NodeId
  | a :: b :: rest => if b = ref then some a else childBefore? ref (b :: rest)
  | _ => none

def insertTextBefore (p : Page) (parent ref : NodeId) (s : String) : Page :=
  let fresh :=
    let (p, n) := p.create (.text s)
    p.insertBefore parent ref n
  match childBefore? ref (p.children parent) with
  | some k =>
    match p.text? k with
    | some before => p.setContent k (.text (before ++ s))
    | none => fresh
  | none => fresh

def placeText (p : Page) (parent : NodeId) (before : Option NodeId) (s : String) : Page :=
  match before with
  | some ref => insertTextBefore p parent ref s
  | none => appendText p parent s

def placeNode (p : Page) (parent : NodeId) (before : Option NodeId) (n : NodeId) : Page :=
  match before with
  | some ref => p.insertBefore parent ref n
  | none => p.append parent n

/-- Where new content goes: into the current element, or in front of a table. -/
def insertionPlace : Build (NodeId × Option NodeId) := do
  let b ← get
  let n := b.stack.headD Page.root
  return if b.fostering && tableParts.contains (b.page.nameOf n) then fosterPlace b else (n, none)

def insertText (cs : List Char) : Build Unit := do
  let (parent, before) ← insertionPlace
  setPage (placeText (← get).page parent before (String.ofList cs))

def insertComment (parent : NodeId) (s : String) : Build Unit := do
  let (p, n) := (← get).page.create (.comment s)
  setPage (p.append parent n)

/-- Inserts a new element and opens it. -/
def insertNode (e : Element) : Build NodeId := do
  let (parent, before) ← insertionPlace
  let (p, n) := (← get).page.create (.element e)
  setPage (placeNode p parent before n)
  push n
  return n

def insertElement (t : Tag) (d : Dialect := .html) : Build Unit := do
  discard <| insertNode ⟨t.name, d, Attribute.normalize t.name t.attrs⟩

/-- Inserts an element that has no content. -/
def insertEmpty (t : Tag) : Build Unit := do
  insertElement t
  pop

def insertNamed (name : String) : Build Unit :=
  insertElement { name := name }

/-- Adds the attributes that an element does not have yet. -/
def addAttrs (n : NodeId) (attrs : List (String × String)) : Build Unit := do
  let p := (← get).page
  setPage <| p.updateElement n fun e => attrs.foldl (fun e (k, v) =>
    if e.hasAttr k then e
    else e.setAttr k (Attribute.normalizeValue e.name k v)) e

/-- The outermost open element. -/
def outermost : Build NodeId := do
  return (← get).stack.getLastD Page.root

def mergeHtmlAttrs (t : Tag) : Build Unit := do
  addAttrs (← outermost) t.attrs

/-- The element that stands directly in the outermost one. -/
def second? : Build (Option NodeId) := do
  return (← get).stack.reverse[1]?

/-- Opens an element whose content is text up to its end tag. -/
def openText (t : Tag) (m : ContentModel) : Build Unit := do
  insertElement t
  modify fun b => { b with model := m, textReturn := b.mode, mode := .text }

/-- Runs a step in which content goes in front of the table. -/
def fostered (step : Build Unit) : Build Unit := do
  modify fun b => { b with fostering := true }
  step
  modify fun b => { b with fostering := false }

end Build
end ContentBinding.Markup
