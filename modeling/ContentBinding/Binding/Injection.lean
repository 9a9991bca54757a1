import ContentBinding.Binding.Discovery
import ContentBinding.Markup.Construct.Document

/-! Performing planned writes on a page. Text and markup replace the content of an element; the
nodes that stood there are taken off the page and may still be written to. -/

namespace ContentBinding.Markup.Page

mutual

/-- Adds a tree as the last child of a node. -/
def graft (p : Page) (parent : NodeId) : Tree → Page
  | .doctype s =>
    let (p, n) := p.create (.doctype s)
    p.append parent n
  | .comment s =>
    let (p, n) := p.create (.comment s)
    p.append parent n
  | .text s =>
    let (p, n) := p.create (.text s)
    p.append parent n
  | .element e children =>
    let (p, n) := p.create (.element e)
    graftAll (p.append parent n) n children

def graftAll (p : Page) (parent : NodeId) : List Tree → Page
  | [] => p
  | t :: rest => graftAll (graft p parent t) parent rest

end

/-- Replaces the content of a node. -/
def setContentTrees (p : Page) (n : NodeId) (ts : List Tree) : Page :=
  graftAll (p.clear n) n ts

/-- Adds a script at the end of the body, or of the document when it has none. -/
def appendScript (p : Page) (src : String) : Page :=
  p.graft (p.body?.getD root) (.element { name := "script", attrs := [("src", src)] } [])

end ContentBinding.Markup.Page

namespace ContentBinding.Binding

open Markup

def Write.perform (p : Page) (w : Write NodeId) : Page :=
  match w.field with
  | .text => p.setContentTrees w.element [.text w.value]
  | .html => p.setContentTrees w.element (Page.parseFragment w.value)
  | .srcset => p.setAttr w.element "srcset" w.value
  | .src => p.setAttr w.element "src" w.value

/-- Performs writes in order. -/
def apply (p : Page) (writes : List (Write NodeId)) : Page :=
  writes.foldl Write.perform p

/-- Scans a page, plans for a document and performs the plan. -/
def inject (p : Page) (document : Json.Value) : Page × Plan NodeId :=
  let plan := Plan.ofScan (scan p) document
  (apply p plan.writes, plan)

/-- The same, where nothing breaks the planning off; else the page is not touched. -/
def inject? (p : Page) (document : Json.Value) : Except Text.Overlong (Page × Plan NodeId) :=
  (Plan.forScan (scan p) document).map fun plan => (apply p plan.writes, plan)

end ContentBinding.Binding
