import ContentBinding.Markup.Construct.EndTags
import ContentBinding.Markup.Construct.Foreign

/-! What start tags do, by insertion mode. A result of true means that the same tag has to be
processed again in the mode that the step has set. -/

namespace ContentBinding.Markup.Build

def startInHead (t : Tag) : Build Bool := do
  match t.name with
  | "html" => mergeHtmlAttrs t
  | "title" => openText t (.references t.name)
  | "noframes" | "style" => openText t (.raw t.name)
  | "noscript" =>
    insertElement t
    setMode .inHeadNoscript
  | "script" => openText t .script
  | "base" | "basefont" | "bgsound" | "command" | "link" | "meta" => insertEmpty t
  | "head" => return false
  | _ =>
    closeHead
    return true
  return false

/-! The body -/

def startBody (t : Tag) : Build Unit := do
  match ← second? with
  | some n =>
    if (← get).page.nameOf n = "body" then
      noFrameset
      addAttrs n t.attrs
  | none => return

def startFrameset (t : Tag) : Build Unit := do
  let b ← get
  match ← second? with
  | some n =>
    if b.page.nameOf n = "body" && b.framesetOk then
      setPage (b.page.detach n)
      popToOneOf ["html"]
      insertElement t
      setMode .inFrameset
  | none => return

def startBlock (t : Tag) : Build Unit := do
  endParagraph
  insertElement t

def startHeading (t : Tag) : Build Unit := do
  endParagraph
  if headings.contains (← currentName) then pop
  insertElement t

def startPreformatted (t : Tag) : Build Unit := do
  endParagraph
  insertElement t
  noFrameset
  modify fun b => { b with dropNewline := true }

def startForm (t : Tag) : Build Unit := do
  if (← get).form.isNone then
    endParagraph
    insertElement t
    modify fun b => { b with form := b.stack.head? }

/-- Elements that end the search for a list item to close. -/
def endsItemSearch (p : Page) (n : NodeId) : Bool :=
  nodeIsSpecial p n && !(["address", "div", "p"].contains (p.nameOf n))

def startItem (t : Tag) : Build Unit := do
  noFrameset
  let siblings := if t.name = "li" then ["li"] else ["dt", "dd"]
  let b ← get
  let found := b.stack.find? fun n =>
    siblings.contains (b.page.nameOf n) || endsItemSearch b.page n
  match found with
  | some n =>
    if siblings.contains (b.page.nameOf n) then discard <| endTagIn b.mode (b.page.nameOf n)
  | none => pure ()
  if ← inScope "p" .button then discard <| endTagIn (← get).mode "p"
  insertElement t

def startPlaintext (t : Tag) : Build Unit := do
  endParagraph
  insertElement t
  setModel .plain

def startAnchor (t : Tag) : Build Unit := do
  match ← activeNamed? "a" with
  | some n =>
    closeFormatting "a" 8
    modify fun b => { b with
      stack := b.stack.erase n
      formatting := b.formatting.erase (some n) }
  | none => pure ()
  reopenFormatting
  addFormatting t

def startFormatting (t : Tag) : Build Unit := do
  reopenFormatting
  addFormatting t

def startNobr (t : Tag) : Build Unit := do
  reopenFormatting
  if ← inScope "nobr" then
    closeFormatting "nobr" 8
    reopenFormatting
  addFormatting t

/-- A button closes one that is open; the tag then comes again. -/
def startButton (t : Tag) : Build Bool := do
  if ← inScope "button" then
    closeBlock "button"
    return true
  reopenFormatting
  insertElement t
  noFrameset
  return false

def startObject (t : Tag) : Build Unit := do
  reopenFormatting
  insertElement t
  pushMarker
  noFrameset

def startXmp (t : Tag) : Build Unit := do
  endParagraph
  reopenFormatting
  noFrameset
  openText t (.raw t.name)

def startTable (t : Tag) : Build Unit := do
  if !(← get).oldPage then endParagraph
  insertElement t
  noFrameset
  setMode .inTable

def startVoid (t : Tag) : Build Unit := do
  reopenFormatting
  insertEmpty t
  noFrameset

def isHidden (t : Tag) : Bool :=
  match t.attr? "type" with
  | some v => lowerString v = "hidden"
  | none => false

def startInput (t : Tag) : Build Unit := do
  let ok := (← get).framesetOk
  startVoid t
  if isHidden t then modify fun b => { b with framesetOk := ok }

def startRule (t : Tag) : Build Unit := do
  endParagraph
  insertEmpty t
  noFrameset

def startOther (t : Tag) : Build Unit := do
  reopenFormatting
  insertElement t

def defaultPrompt : String :=
  "This is a searchable index. Enter search keywords: "

/-- A searchable index is a form with a labelled input. -/
def startIndex (t : Tag) : Build Unit := do
  if (← get).form.isSome then return
  startForm { name := "form", attrs := t.attrs.filter fun p => p.1 = "action" }
  startRule { name := "hr" }
  startOther { name := "label" }
  insertBodyText ((t.attr? "prompt").getD defaultPrompt).toList
  let kept := t.attrs.filter fun p => p.1 != "action" && p.1 != "prompt" && p.1 != "name"
  startInput { name := "input", attrs := kept ++ [("name", "isindex")] }
  discard <| endInBody "label"
  startRule { name := "hr" }
  discard <| endInBody "form"

def startTextarea (t : Tag) : Build Unit := do
  insertElement t
  modify fun b => { b with
    model := .references t.name, dropNewline := true, framesetOk := false }

def startRaw (t : Tag) : Build Unit :=
  openText t (.raw t.name)

def startOption (t : Tag) : Build Unit := do
  if (← currentName) = "option" then discard <| endTagIn (← get).mode "option"
  reopenFormatting
  insertElement t

def isTableMode (m : Mode) : Bool :=
  match m with
  | .inTable | .inCaption | .inColumnGroup | .inTableBody | .inRow | .inCell => true
  | _ => false

def startSelect (t : Tag) : Build Unit := do
  reopenFormatting
  insertElement t
  noFrameset
  modify fun b =>
    { b with mode := if isTableMode b.mode then .inSelectInTable else .inSelect }

def startRuby (t : Tag) : Build Unit := do
  if ← inScope "ruby" then closeImplied
  insertElement t

def startForeign (d : Dialect) (t : Tag) : Build Unit := do
  reopenFormatting
  insertElement (Foreign.adjustAttrs d t) d
  if t.selfClosing then pop

/-- How a start tag is treated in the body. -/
inductive BodyTag
  | root | headPart | body | frameset | block | heading | preformatted | form | item | plaintext
  | anchor | formatting | nobr | button | object | xmp | table | void | hollow | input | rule
  | image | index | textarea | iframe | raw | select | ruby | option | math | svg
  | misplaced | other
  deriving Repr, DecidableEq

def bodyTag (name : String) : BodyTag :=
  match name with
  | "html" => .root
  | "base" | "basefont" | "bgsound" | "command" | "link" | "meta" | "script" | "style"
  | "title" => .headPart
  | "body" => .body
  | "frameset" => .frameset
  | "address" | "article" | "aside" | "blockquote" | "center" | "details" | "dir" | "div" | "dl"
  | "fieldset" | "figcaption" | "figure" | "footer" | "header" | "hgroup" | "main" | "menu"
  | "nav" | "ol" | "p" | "section" | "summary" | "ul" => .block
  | "h1" | "h2" | "h3" | "h4" | "h5" | "h6" => .heading
  | "pre" | "listing" => .preformatted
  | "form" => .form
  | "li" | "dd" | "dt" => .item
  | "plaintext" => .plaintext
  | "a" => .anchor
  | "b" | "big" | "code" | "em" | "font" | "i" | "s" | "small" | "strike" | "strong" | "tt"
  | "u" => .formatting
  | "nobr" => .nobr
  | "button" => .button
  | "applet" | "marquee" | "object" => .object
  | "xmp" => .xmp
  | "table" => .table
  | "area" | "br" | "embed" | "img" | "keygen" | "wbr" => .void
  | "param" | "source" | "track" => .hollow
  | "input" => .input
  | "hr" => .rule
  | "image" => .image
  | "isindex" => .index
  | "textarea" => .textarea
  | "iframe" => .iframe
  | "noembed" | "noframes" => .raw
  | "select" => .select
  | "rp" | "rt" => .ruby
  | "option" | "optgroup" => .option
  | "math" => .math
  | "svg" => .svg
  | "caption" | "col" | "colgroup" | "frame" | "head" | "tbody" | "td" | "tfoot" | "th"
  | "thead" | "tr" => .misplaced
  | _ => .other

def startInBody (t : Tag) : Build Bool := do
  match bodyTag t.name with
  | .root => mergeHtmlAttrs t
  | .headPart => discard <| startInHead t
  | .body => startBody t
  | .frameset => startFrameset t
  | .block => startBlock t
  | .heading => startHeading t
  | .preformatted => startPreformatted t
  | .form => startForm t
  | .item => startItem t
  | .plaintext => startPlaintext t
  | .anchor => startAnchor t
  | .formatting => startFormatting t
  | .nobr => startNobr t
  | .button => return ← startButton t
  | .object => startObject t
  | .xmp => startXmp t
  | .table => startTable t
  | .void => startVoid t
  | .hollow => insertEmpty t
  | .input => startInput t
  | .rule => startRule t
  | .image => startVoid { t with name := "img" }
  | .index => startIndex t
  | .textarea => startTextarea t
  | .iframe =>
    noFrameset
    startRaw t
  | .raw => startRaw t
  | .select => startSelect t
  | .ruby => startRuby t
  | .option => startOption t
  | .math => startForeign .math t
  | .svg => startForeign .svg t
  | .misplaced => return false
  | .other => startOther t
  return false

/-! Tables -/

def toTable : Build Unit :=
  popToOneOf ["table", "html"]

def openInTable (t : Tag) (m : Mode) : Build Unit := do
  toTable
  insertElement t
  setMode m

def startFormInTable (t : Tag) : Build Unit := do
  if (← get).form.isNone then
    insertElement t
    modify fun b => { b with form := b.stack.head?, stack := b.stack.tail }

def startInTable (t : Tag) : Build Bool := do
  match t.name with
  | "html" => mergeHtmlAttrs t
  | "caption" =>
    toTable
    pushMarker
    insertElement t
    setMode .inCaption
  | "colgroup" => openInTable t .inColumnGroup
  | "col" =>
    openInTable { name := "colgroup" } .inColumnGroup
    return true
  | "tbody" | "tfoot" | "thead" => openInTable t .inTableBody
  | "td" | "th" | "tr" =>
    openInTable { name := "tbody" } .inTableBody
    return true
  | "table" =>
    discard <| endTagIn (← get).mode "table"
    return true
  | "style" | "script" => discard <| startInHead t
  | "input" =>
    if isHidden t then insertEmpty t
    else fostered (discard <| startInBody t)
  | "form" => startFormInTable t
  | _ => fostered (discard <| startInBody t)
  return false

def startInCaption (t : Tag) : Build Bool := do
  match t.name with
  | "html" =>
    mergeHtmlAttrs t
    return false
  | "caption" | "col" | "colgroup" | "tbody" | "td" | "tfoot" | "th" | "thead" | "tr" =>
    closeCaption
  | _ => startInBody t

def startInColumnGroup (t : Tag) : Build Bool := do
  match t.name with
  | "html" =>
    mergeHtmlAttrs t
    return false
  | "col" =>
    insertEmpty t
    return false
  | _ => closeColumnGroup

def openRow (t : Tag) : Build Unit := do
  toRowGroup
  insertElement t
  setMode .inRow

def startInTableBody (t : Tag) : Build Bool := do
  match t.name with
  | "html" =>
    mergeHtmlAttrs t
    return false
  | "tr" =>
    openRow t
    return false
  | "td" | "th" =>
    openRow { name := "tr" }
    return true
  | "caption" | "col" | "colgroup" | "tbody" | "tfoot" | "thead" => closeRowGroup
  | _ => startInTable t

def startInRow (t : Tag) : Build Bool := do
  match t.name with
  | "html" =>
    mergeHtmlAttrs t
    return false
  | "td" | "th" =>
    toRow
    insertElement t
    setMode .inCell
    pushMarker
    return false
  | "caption" | "col" | "colgroup" | "tbody" | "tfoot" | "thead" | "tr" => closeRow
  | _ => startInTable t

def startInCell (t : Tag) : Build Bool := do
  match t.name with
  | "html" =>
    mergeHtmlAttrs t
    return false
  | "caption" | "col" | "colgroup" | "tbody" | "td" | "tfoot" | "th" | "thead" | "tr" =>
    if ← anyInScope ["td", "th"] .table then
      closeCell
      return true
    return false
  | _ => startInBody t

/-! Selections -/

def startInSelect (t : Tag) : Build Bool := do
  match t.name with
  | "html" => mergeHtmlAttrs t
  | "option" =>
    if (← currentName) = "option" then pop
    insertElement t
  | "optgroup" =>
    if (← currentName) = "option" then pop
    if (← currentName) = "optgroup" then pop
    insertElement t
  | "select" => closeSelect
  | "input" | "keygen" | "textarea" =>
    if ← inScope "select" .select then
      closeSelect
      return true
  | "script" => discard <| startInHead t
  | _ => return false
  return false

def startInSelectInTable (t : Tag) : Build Bool := do
  if selectBreakers.contains t.name then
    closeSelect
    return true
  startInSelect t

/-! All modes -/

def startAfterHead (t : Tag) : Build Bool := do
  match t.name with
  | "html" => mergeHtmlAttrs t
  | "body" =>
    noFrameset
    insertElement t
    setMode .inBody
  | "frameset" =>
    insertElement t
    setMode .inFrameset
  | "base" | "basefont" | "bgsound" | "link" | "meta" | "noframes" | "script" | "style"
  | "title" =>
    match (← get).head with
    | some head =>
      push head
      discard <| startInHead t
      modify fun b => { b with stack := b.stack.erase head }
    | none => pure ()
  | "head" => return false
  | _ =>
    openBody
    return true
  return false

def startTagIn (mode : Mode) (t : Tag) : Build Bool := do
  match mode with
  | .initial =>
    beginOldPage
    return true
  | .beforeHtml =>
    openRoot
    return true
  | .beforeHead =>
    match t.name with
    | "html" =>
      mergeHtmlAttrs t
      return false
    | "head" =>
      openHead t
      return false
    | _ =>
      openHead { name := "head" }
      return true
  | .inHead => startInHead t
  | .inHeadNoscript =>
    match t.name with
    | "html" =>
      mergeHtmlAttrs t
      return false
    | "basefont" | "bgsound" | "link" | "meta" | "noframes" | "style" => startInHead t
    | "head" | "noscript" => return false
    | _ =>
      closeHeadNoscript
      return true
  | .afterHead => startAfterHead t
  | .inBody => startInBody t
  | .text => return false
  | .inTable => startInTable t
  | .inTableText =>
    flushTableText insertBodyText
    return true
  | .inCaption => startInCaption t
  | .inColumnGroup => startInColumnGroup t
  | .inTableBody => startInTableBody t
  | .inRow => startInRow t
  | .inCell => startInCell t
  | .inSelect => startInSelect t
  | .inSelectInTable => startInSelectInTable t
  | .afterBody =>
    if t.name = "html" then
      mergeHtmlAttrs t
      return false
    setMode .inBody
    return true
  | .inFrameset =>
    match t.name with
    | "html" => mergeHtmlAttrs t
    | "frameset" => insertElement t
    | "frame" => insertEmpty t
    | "noframes" => discard <| startInBody t
    | _ => pure ()
    return false
  | .afterFrameset =>
    match t.name with
    | "html" => mergeHtmlAttrs t
    | "noframes" => discard <| startInHead t
    | _ => pure ()
    return false
  | .afterAfterBody =>
    if t.name = "html" then
      mergeHtmlAttrs t
      return false
    setMode .inBody
    return true
  | .afterAfterFrameset =>
    match t.name with
    | "html" => mergeHtmlAttrs t
    | "noframes" => discard <| startInHead t
    | _ => pure ()
    return false

end ContentBinding.Markup.Build
