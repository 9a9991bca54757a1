import ContentBinding.Proofs.Markup.Declarations

/-! Pages that can be written and read again. An element is read back where it stands when its start
tag puts it there: no open element is closed by it, none is opened before it, and its end tag closes
nothing else. What a place admits depends only on the elements above it. -/

namespace ContentBinding.Markup

namespace Nesting

open Build (BodyTag Scope bodyTag formattingNames headings impliedEnds isSpecial rowGroups)
open Tokenizer (isClean isComment isDeclaration isEnded isTagName isUnescaped isWritable readDoctype)

/-- The elements above a place, the innermost first. -/
abbrev Place := List Element

/-! Elements as they are written -/

def written (e : Element) : Element :=
  { e with attrs := e.attrs.mergeSort Tree.attrLe }

def tagOf (e : Element) : Tag where
  name := lowerString e.name
  attrs := (written e).attrs.map Tokenizer.lowerAttr

def opened (d : Dialect) (t : Tag) : Element :=
  ⟨t.name, d, Attribute.normalize t.name t.attrs⟩

/-- The start tag of the element can be read. -/
def isReadable (e : Element) : Bool :=
  isTagName e.name && (written e).attrs.all isWritable &&
    decide (((written e).attrs.map fun a => lowerString a.1).Nodup)

/-! Scopes -/

def isNamed (name : String) (e : Element) : Bool :=
  e.dialect = .html && e.name = name

def inScope (s : Scope) (name : String) : Place → Bool
  | [] => false
  | e :: rest => isNamed name e || (!s.endsAt e.dialect e.name && inScope s name rest)

def hasParagraph (place : Place) : Bool :=
  inScope .button "p" place

def currentName (place : Place) : String :=
  (place.head?.map (·.name)).getD ""

def isFormatting (e : Element) : Bool :=
  e.dialect = .html && (e.name = "a" || e.name = "nobr" || formattingNames.contains e.name)

/-- Formatting elements outside of the element do not count in it. -/
def isMarker (e : Element) : Bool :=
  e.dialect = .html &&
    ["applet", "marquee", "object", "caption", "td", "th"].contains e.name

/-- The names of the active formatting elements. -/
def active : Place → List String
  | [] => []
  | e :: rest =>
    if isMarker e then [] else if isFormatting e then e.name :: active rest else active rest

def siblings (name : String) : List String :=
  if name = "li" then ["li"] else ["dt", "dd"]

def endsItemSearch (e : Element) : Bool :=
  isSpecial e.dialect e.name && !(["address", "div", "p"].contains e.name)

def hasItem (name : String) (place : Place) : Bool :=
  match place.find? fun e => (siblings name).contains e.name || endsItemSearch e with
  | some e => (siblings name).contains e.name
  | none => false

/-- The insertion mode in a place. -/
def modeAt : Place → Mode
  | [] => .inBody
  | e :: rest =>
    if e.dialect = .html then
      match e.name with
      | "head" => .inHead
      | "noscript" => if modeAt rest = .inHead then .inHeadNoscript else modeAt rest
      | "table" => .inTable
      | "caption" => .inCaption
      | "colgroup" => .inColumnGroup
      | "tbody" | "thead" | "tfoot" => .inTableBody
      | "tr" => .inRow
      | "td" | "th" => .inCell
      | "select" => if Build.isTableMode (modeAt rest) then .inSelectInTable else .inSelect
      | "frameset" => .inFrameset
      | _ => modeAt rest
    else modeAt rest

/-! Which elements a place admits -/

/-- Whether an element whose tag is of that kind closes nothing; `old` tells that the page has no
doctype of today. -/
def admitsTag (old : Bool) (place : Place) (name : String) : BodyTag → Bool
  | .block | .preformatted | .rule | .xmp => !hasParagraph place
  | .heading => !hasParagraph place && !headings.contains (currentName place)
  | .form => !hasParagraph place && !place.any (isNamed "form")
  | .item => !hasParagraph place && !hasItem name place
  | .anchor => !(active place).contains "a"
  | .nobr => !inScope .standard "nobr" place
  | .button => !inScope .standard "button" place
  | .table => old || !hasParagraph place
  | .ruby => !(inScope .standard "ruby" place && impliedEnds.contains (currentName place))
  | .option => currentName place != "option"
  | .headPart | .formatting | .object | .void | .hollow | .input | .textarea | .iframe | .raw
  | .select | .other => true
  | .root | .body | .frameset | .plaintext | .image | .index | .math | .svg | .misplaced => false

def isKeptHtml (e : Element) : Bool :=
  decide (opened .html (tagOf e) = written e)

def isKeptRoot (d : Dialect) (e : Element) : Bool :=
  decide (opened d (Foreign.adjustAttrs d (tagOf e)) = written e)

def isKeptForeign (e : Element) : Bool :=
  decide (opened e.dialect (Foreign.adjustTag e.dialect (tagOf e)) = written e) &&
    !Foreign.breaksOut (tagOf e)

def isTableItem (e : Element) : Bool :=
  ["style", "script"].contains e.name || (e.name = "input" && Build.isHidden (tagOf e))

def admitsHtml (old : Bool) (place : Place) (e : Element) : Bool :=
  match modeAt place with
  | .inBody | .inCaption | .inCell =>
    match bodyTag e.name with
    | .math => isKeptRoot .math e
    | .svg => isKeptRoot .svg e
    | k => isKeptHtml e && admitsTag old place e.name k
  | .inTable => isKeptHtml e && currentName place = "table" &&
    (["caption", "colgroup", "tbody", "tfoot", "thead"].contains e.name || isTableItem e)
  | .inColumnGroup => isKeptHtml e && currentName place = "colgroup" && e.name = "col"
  | .inTableBody => isKeptHtml e && rowGroups.contains (currentName place) &&
    (e.name = "tr" || isTableItem e)
  | .inRow => isKeptHtml e && currentName place = "tr" &&
    (["td", "th"].contains e.name || isTableItem e)
  | .inSelect | .inSelectInTable => isKeptHtml e &&
    (e.name = "script" || (e.name = "option" && currentName place != "option") ||
      (e.name = "optgroup" && !(["option", "optgroup"].contains (currentName place))))
  | .inHead => isKeptHtml e &&
    ["title", "noframes", "style", "noscript", "script", "base", "basefont", "bgsound", "command",
      "link", "meta"].contains e.name
  | .inHeadNoscript => isKeptHtml e &&
    ["basefont", "bgsound", "link", "meta", "noframes", "style"].contains e.name
  | .inFrameset => isKeptHtml e && currentName place = "frameset" &&
    ["frameset", "frame", "noframes"].contains e.name
  | _ => false

def innermost (place : Place) : Element :=
  place.headD { name := "" }

/-- The start tag of the element, read in the place, puts it there. -/
def admits (old : Bool) (place : Place) (e : Element) : Bool :=
  if Foreign.isHtmlContent (innermost place) (.startTag (tagOf e)) then admitsHtml old place e
  else e.dialect = (innermost place).dialect && isKeptForeign e

def holdsHtmlText (e : Element) : Bool :=
  Foreign.isHtmlContent e (.spaces [])

def spaceModes : List Mode :=
  [.inTable, .inTableBody, .inRow, .inColumnGroup, .inHead, .inHeadNoscript, .inFrameset]

def admitsText (place : Place) (text : String) : Bool :=
  text.toList.all isSpace ||
    !(holdsHtmlText (innermost place) && spaceModes.contains (modeAt place))

/-! Content -/

def headVoids : List String :=
  ["base", "basefont", "bgsound", "command", "link", "meta"]

def isVoid (e : Element) : Bool :=
  e.dialect = .html && (["col", "frame"].contains e.name || headVoids.contains e.name ||
    [.void, .hollow, .input, .rule].contains (bodyTag e.name))

/-- How the text of an element is read that holds nothing else. -/
def textModel? (e : Element) : Option ContentModel :=
  if e.dialect = .html then
    match e.name with
    | "title" | "textarea" => some (.references e.name)
    | "script" => some .script
    | "style" | "noframes" | "noembed" | "iframe" | "xmp" => some (.raw e.name)
    | _ => none
  else none

def dropsNewline (place : Place) (e : Element) : Bool :=
  ["pre", "listing", "textarea"].contains e.name && modeAt place = .inBody

def startsWithNewline : List Tree → Bool
  | .text text :: _ => text.toList.head? = some '\n'
  | _ => false

def textOf? : List Tree → Option String
  | [] => some ""
  | [.text text] => if text = "" then none else some text
  | _ => none

/-- Two texts side by side would be read as one. -/
def areSeparate : List Tree → Bool
  | .text _ :: .text _ :: _ => false
  | _ :: rest => areSeparate rest
  | [] => true

def holdsReferences : ContentModel → Bool
  | .references _ => true
  | _ => false

/-- Text that an element with no other content is written with. -/
def isTextContent (m : ContentModel) (e : Element) (text : String) : Bool :=
  isClean text && isEnded m text.toList &&
    (Tree.isRawName e.name || holdsReferences m || Tree.escape text = text)

mutual

/-- A tree that is read back in its place; `raw` tells that text is written as it is there. -/
def fits (old raw : Bool) (place : Place) : Tree → Bool
  | .doctype _ => false
  | .comment text => isComment text
  | .text text =>
    text != "" && isClean text && (!raw || isUnescaped text) && admitsText place text
  | .element e children =>
    isReadable e && admits old place e &&
    !(dropsNewline place e && startsWithNewline children) &&
    match textModel? e with
    | some m => (textOf? children).any (isTextContent m e)
    | none =>
      if isVoid e then children.isEmpty
      else
        !(Tree.voidNames.contains e.name && children.isEmpty) && areSeparate children &&
          fitsAll old (Tree.isRawName e.name) (written e :: place) children

def fitsAll (old raw : Bool) (place : Place) : List Tree → Bool
  | [] => true
  | t :: rest => fits old raw place t && fitsAll old raw place rest

end

/-! Pages -/

def isNote : Tree → Bool
  | .comment text => isComment text
  | _ => false

def merged (e : Element) (attrs : List (String × String)) : Element :=
  attrs.foldl (fun e (k, v) =>
    if e.hasAttr k then e else e.setAttr k (Attribute.normalizeValue e.name k v)) e

/-- The outermost element, whose start tag adds its attributes to an element without any. -/
def isRoot (e : Element) : Bool :=
  isReadable e && e.name = "html" && merged { name := "html" } (tagOf e).attrs = written e

def isPart (name : String) (e : Element) : Bool :=
  isReadable e && e.name = name && isKeptHtml e

/-- What stands behind frames: spaces, comments, and what is shown without frames. -/
def fitsBehindFrames : List Tree → Bool
  | [] => true
  | .doctype _ :: _ => false
  | .comment text :: rest => isComment text && fitsBehindFrames rest
  | .text text :: rest =>
    text != "" && isClean text && text.toList.all isSpace && fitsBehindFrames rest
  | .element e children :: rest =>
    isPart "noframes" e && (textOf? children).any (isTextContent (.raw e.name) e) &&
      fitsBehindFrames rest

def fitsBody (old : Bool) (root : Element) : List Tree → Bool
  | .comment text :: rest => isComment text && fitsBody old root rest
  | .text text :: rest =>
    text != "" && isClean text && text.toList.all isSpace && fitsBody old root rest
  | .element e children :: rest =>
    areSeparate children && fitsAll old false [written e, root] children &&
      ((isPart "body" e && rest.all isNote) || (isPart "frameset" e && fitsBehindFrames rest))
  | _ => false

def fitsHead (old : Bool) (root : Element) : List Tree → Bool
  | .comment text :: rest => isComment text && fitsHead old root rest
  | .element e children :: rest =>
    isPart "head" e && areSeparate children && fitsAll old false [written e, root] children &&
      areSeparate rest && fitsBody old root rest
  | _ => false

def fitsRoot (old : Bool) : List Tree → Bool
  | .comment text :: rest => isComment text && fitsRoot old rest
  | .element e children :: rest => isRoot e && fitsHead old (written e) children && rest.all isNote
  | _ => false

/-- A page that is read back as it is written. -/
def fitsPage : List Tree → Bool
  | .comment text :: rest => isComment text && fitsPage rest
  | .doctype s :: rest => isDeclaration s && fitsRoot (readDoctype s).isOld rest
  | ts => fitsRoot true ts

end Nesting
end ContentBinding.Markup
