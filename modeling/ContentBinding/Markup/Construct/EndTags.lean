import ContentBinding.Markup.Construct.Formatting

/-! What end tags do, by insertion mode. A result of true means that the same tag has to be
processed again in the mode that the step has set. -/

namespace ContentBinding.Markup.Build

/-- Opens what a page must have before the token at hand, one element at a time. -/
def openRoot : Build Unit := do
  let (p, n) := (← get).page.create (.element { name := "html" })
  setPage (p.append Page.root n)
  push n
  setMode .beforeHead

def openHead (t : Tag) : Build Unit := do
  insertElement t
  modify fun b => { b with head := b.stack.head?, mode := .inHead }

def closeHead : Build Unit := do
  pop
  setMode .afterHead

def openBody : Build Unit := do
  insertNamed "body"
  modify fun b => { b with mode := .inBody, framesetOk := true }

def closeHeadNoscript : Build Unit := do
  pop
  setMode .inHead

def beginOldPage : Build Unit :=
  modify fun b => { b with oldPage := true, mode := .beforeHtml }

def closeParagraph : Build Unit := do
  closeImplied "p"
  popName "p"

/-- Ends an open paragraph before a block. -/
def endParagraph : Build Unit := do
  if ← inScope "p" .button then closeParagraph

def blockEnds : List String :=
  ["address", "article", "aside", "blockquote", "button", "center", "details", "dialog", "dir",
    "div", "dl", "fieldset", "figcaption", "figure", "footer", "header", "hgroup", "listing",
    "main", "menu", "nav", "ol", "pre", "section", "summary", "ul"]

def formattingNames : List String :=
  ["b", "big", "code", "em", "font", "i", "s", "small", "strike", "strong", "tt", "u"]

def closeBlock (name : String) : Build Unit := do
  if name = "pre" then modify fun b => { b with dropNewline := false }
  if ← inScope name then
    closeImplied
    popName name

def closeForm : Build Unit := do
  let form := (← get).form
  modify fun b => { b with form := none }
  match form with
  | none => return
  | some n =>
    if ← nodeInScope n then
      closeImplied
      modify fun b => { b with stack := b.stack.erase n }

def closeItem (name : String) : Build Unit := do
  if ← inScope name (if name = "li" then .list else .standard) then
    closeImplied name
    popName name

def closeHeading : Build Unit := do
  if ← anyInScope headings then closeImplied
  if ← anyInScope headings then
    modify fun b =>
      { b with stack := popThrough (fun n => headings.contains (b.page.nameOf n)) b.stack }

def closeObject (name : String) : Build Unit := do
  if ← inScope name then
    closeImplied
    popName name
    clearToMarker

def endInBody (name : String) : Build Bool := do
  if name = "body" then
    if ← inScope "body" then setMode .afterBody
    return false
  else if name = "html" then
    if ← inScope "body" then
      setMode .afterBody
      return true
    return false
  else if blockEnds.contains name then closeBlock name
  else if name = "form" then closeForm
  else if name = "p" then
    if !(← inScope "p" .button) then insertNamed "p"
    closeParagraph
  else if ["dd", "dt", "li"].contains name then closeItem name
  else if headings.contains name then closeHeading
  else if name = "a" || name = "nobr" || formattingNames.contains name then closeFormatting name 8
  else if ["applet", "marquee", "object"].contains name then closeObject name
  else if name = "br" then
    reopenFormatting
    insertEmpty { name := "br" }
  else closeOther name
  return false

/-! Tables -/

/-- The mode that the open elements ask for. -/
def modeOf (p : Page) : List NodeId → Mode
  | [] => .inBody
  | n :: rest =>
    if p.dialectOf n = .html then
      match p.nameOf n with
      | "select" => .inSelect
      | "td" | "th" => .inCell
      | "tr" => .inRow
      | "tbody" | "thead" | "tfoot" => .inTableBody
      | "caption" => .inCaption
      | "colgroup" => .inColumnGroup
      | "table" => .inTable
      | "head" | "body" => .inBody
      | "frameset" => .inFrameset
      | _ => modeOf p rest
    else modeOf p rest

def resetMode : Build Unit :=
  modify fun b => { b with mode := modeOf b.page b.stack }

def closeTable : Build Unit := do
  if ← inScope "table" .table then
    closeImplied
    popName "table"
    resetMode

def endInTable (name : String) : Build Bool := do
  if name = "table" then closeTable
  else if ["body", "caption", "col", "colgroup", "html", "tbody", "td", "tfoot", "th", "thead",
      "tr"].contains name then return false
  else fostered (discard <| endInBody name)
  return false

/-- Closes a caption; false when none is in scope. -/
def closeCaption : Build Bool := do
  if ← inScope "caption" .table then
    closeImplied
    popName "caption"
    clearToMarker
    setMode .inTable
    return true
  return false

def endInCaption (name : String) : Build Bool := do
  if name = "caption" then
    discard closeCaption
    return false
  else if name = "table" then closeCaption
  else if ["body", "col", "colgroup", "html", "tbody", "td", "tfoot", "th", "thead",
      "tr"].contains name then return false
  else endInBody name

/-- Closes a column group; false when there is none. -/
def closeColumnGroup : Build Bool := do
  if (← currentName) = "html" then return false
  pop
  setMode .inTable
  return true

def endInColumnGroup (name : String) : Build Bool := do
  if name = "colgroup" then
    discard closeColumnGroup
    return false
  else if name = "col" then return false
  else closeColumnGroup

def rowGroups : List String :=
  ["tbody", "thead", "tfoot"]

def toRowGroup : Build Unit :=
  popToOneOf ["tbody", "tfoot", "thead", "html"]

def toRow : Build Unit :=
  popToOneOf ["tr", "html"]

/-- Closes the row group that is open; false when none is in scope. -/
def closeRowGroup : Build Bool := do
  if ← anyInScope rowGroups .table then
    toRowGroup
    if ← inScope (← currentName) .table then
      pop
      setMode .inTable
    return true
  return false

def endInTableBody (name : String) : Build Bool := do
  if rowGroups.contains name then
    if ← inScope name .table then
      toRowGroup
      pop
      setMode .inTable
    return false
  else if name = "table" then closeRowGroup
  else if ["body", "caption", "col", "colgroup", "html", "td", "th", "tr"].contains name then
    return false
  else endInTable name

/-- Closes a row; false when none is in scope. -/
def closeRow : Build Bool := do
  if ← inScope "tr" .table then
    toRow
    pop
    setMode .inTableBody
    return true
  return false

def endInRow (name : String) : Build Bool := do
  if name = "tr" then
    discard closeRow
    return false
  else if name = "table" then closeRow
  else if rowGroups.contains name then
    if ← inScope name .table then
      discard closeRow
      return true
    return false
  else if ["body", "caption", "col", "colgroup", "html", "td", "th"].contains name then
    return false
  else endInTable name

def closeCellNamed (name : String) : Build Unit := do
  if ← inScope name .table then
    closeImplied name
    popName name
    clearToMarker
    setMode .inRow

def closeCell : Build Unit := do
  if ← inScope "td" .table then closeCellNamed "td"
  else if ← inScope "th" .table then closeCellNamed "th"

def endInCell (name : String) : Build Bool := do
  if name = "td" || name = "th" then
    closeCellNamed name
    return false
  else if ["body", "caption", "col", "colgroup", "html"].contains name then return false
  else if tableParts.contains name then
    if ← inScope name .table then
      closeCell
      return true
    return false
  else endInBody name

/-! Selections -/

def closeSelect : Build Unit := do
  if ← inScope "select" .select then
    popName "select"
    resetMode

def endInSelect (name : String) : Build Bool := do
  if name = "option" then
    if (← currentName) = "option" then pop
  else if name = "optgroup" then
    let b ← get
    match b.stack with
    | n :: m :: _ =>
      if b.page.nameOf n = "option" && b.page.nameOf m = "optgroup" then pop
    | _ => pure ()
    if (← currentName) = "optgroup" then pop
  else if name = "select" then closeSelect
  return false

def selectBreakers : List String :=
  ["caption", "table", "tbody", "tfoot", "thead", "tr", "td", "th"]

def endInSelectInTable (name : String) : Build Bool := do
  if selectBreakers.contains name then
    if ← inScope name .table then
      closeSelect
      return true
    return false
  else endInSelect name

/-! All modes -/

def pageEnds : List String :=
  ["head", "body", "html", "br"]

/-- Text of a table goes to the table, or in front of it when it is not blank. -/
def flushTableText (insertInBody : List Char → Build Unit) : Build Unit := do
  let cs := (← get).tableText
  modify fun b => { b with tableText := [], mode := b.tableReturn }
  if cs.isEmpty then return
  else if cs.all isSpace then insertText cs
  else fostered (insertInBody cs)

/-- Text in the body; a frameset cannot follow text that is not blank. -/
def insertBodyText (cs : List Char) : Build Unit := do
  if cs = ['\x00'] then return
  reopenFormatting
  insertText cs
  if cs.any fun c => !isSpace c then noFrameset

def endTagIn (mode : Mode) (name : String) : Build Bool := do
  match mode with
  | .initial =>
    beginOldPage
    return true
  | .beforeHtml =>
    if pageEnds.contains name then
      openRoot
      return true
    return false
  | .beforeHead =>
    if pageEnds.contains name then
      openHead { name := "head" }
      return true
    return false
  | .inHead =>
    if name = "head" then
      closeHead
      return false
    else if ["br", "html", "body"].contains name then
      closeHead
      return true
    return false
  | .inHeadNoscript =>
    if name = "noscript" then
      closeHeadNoscript
      return false
    else if name = "br" then
      closeHeadNoscript
      return true
    return false
  | .afterHead =>
    if ["body", "html", "br"].contains name then
      openBody
      return true
    return false
  | .inBody => endInBody name
  | .text =>
    pop
    modify fun b => { b with mode := b.textReturn }
    return false
  | .inTable => endInTable name
  | .inTableText =>
    flushTableText insertBodyText
    return true
  | .inCaption => endInCaption name
  | .inColumnGroup => endInColumnGroup name
  | .inTableBody => endInTableBody name
  | .inRow => endInRow name
  | .inCell => endInCell name
  | .inSelect => endInSelect name
  | .inSelectInTable => endInSelectInTable name
  | .afterBody =>
    if name = "html" then
      setMode .afterAfterBody
      return false
    setMode .inBody
    return true
  | .inFrameset =>
    if name = "frameset" then
      if (← currentName) != "html" then pop
      if (← currentName) != "frameset" then setMode .afterFrameset
    return false
  | .afterFrameset =>
    if name = "html" then setMode .afterAfterFrameset
    return false
  | .afterAfterBody =>
    setMode .inBody
    return true
  | .afterAfterFrameset => return false

end ContentBinding.Markup.Build
