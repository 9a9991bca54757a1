import ContentBinding.Markup.Page

/-! Trees: pages without identities. `Page.tree` reads the tree below a node, and `Tree.render`
writes it as HTML. -/

namespace ContentBinding.Markup

inductive Tree
  | doctype (declared : String)
  | comment (text : String)
  | text (text : String)
  | element (e : Element) (children : List Tree)

namespace Page

/-- The trees at a node, to a depth; the document stands for its children. -/
def treesAt (p : Page) : Nat → NodeId → List Tree
  | 0, _ => []
  | depth + 1, n =>
    match p.node? n with
    | none => []
    | some d =>
      match d.content with
      | .document => d.children.flatMap (p.treesAt depth)
      | .doctype s => [.doctype s]
      | .comment s => [.comment s]
      | .text s => [.text s]
      | .element e => [.element e (d.children.flatMap (p.treesAt depth))]

/-- The trees of a node's children. -/
def trees (p : Page) (n : NodeId) : List Tree :=
  (p.children n).flatMap (p.treesAt (p.nodes.size + 1))

end Page

namespace Tree

def escapeChar : Char → List Char
  | '&' => "&amp;".toList
  | '<' => "&lt;".toList
  | '>' => "&gt;".toList
  | c => [c]

/-- Text as markup. -/
def escape (s : String) : String :=
  String.ofList (s.toList.flatMap escapeChar)

/-- Double quotes, unless the value holds some and no single quote. -/
def quote (escaped : String) : String :=
  let cs := escaped.toList
  if cs.contains '"' then
    if cs.contains '\'' then
      "\"" ++ String.ofList (cs.flatMap fun c => if c = '"' then "&quot;".toList else [c]) ++ "\""
    else "'" ++ escaped ++ "'"
  else "\"" ++ escaped ++ "\""

def renderAttr (a : String × String) : String :=
  " " ++ a.1 ++ "=" ++ quote (escape a.2)

def attrLe (a b : String × String) : Bool :=
  decide (a.1 ≤ b.1)

/-- A start tag; its attributes are sorted by name. -/
def startTag (e : Element) : String :=
  "<" ++ e.name ++ String.join ((e.attrs.mergeSort attrLe).map renderAttr) ++ ">"

def endTag (e : Element) : String :=
  "</" ++ e.name ++ ">"

/-- Elements that are written without end tag while they are empty. -/
def voidNames : List String :=
  ["area", "base", "basefont", "bgsound", "br", "col", "command", "embed", "frame", "hr", "image",
    "img", "input", "isindex", "keygen", "link", "menuitem", "meta", "nextid", "param", "source",
    "spacer", "track", "wbr"]

/-- Elements whose text is written as it is. -/
def isRawName (name : String) : Bool :=
  name = "script" || name = "style"

mutual

/-- A tree as HTML; `raw` tells that it stands in an element whose text is written as it is. -/
def render (raw : Bool) : Tree → String
  | .doctype s => "<!DOCTYPE " ++ s ++ ">\n"
  | .comment s => "<!--" ++ s ++ "-->"
  | .text s => if raw then s else escape s
  | .element e children =>
    if voidNames.contains e.name && children.isEmpty then startTag e
    else startTag e ++ (renderAll (isRawName e.name) children ++ endTag e)

def renderAll (raw : Bool) : List Tree → String
  | [] => ""
  | t :: rest => render raw t ++ renderAll raw rest

end

end Tree

namespace Page

/-- The whole page as HTML. -/
def render (p : Page) : String :=
  Tree.renderAll false (p.trees root)

/-- The markup inside a node. -/
def renderInner (p : Page) (n : NodeId) : String :=
  Tree.renderAll (Tree.isRawName (p.nameOf n)) (p.trees n)

end Page
end ContentBinding.Markup
