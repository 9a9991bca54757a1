/-! Pages: nodes with identity, a parent and ordered children. Node 0 is the document. Nodes are
never destroyed; an element that was taken off the page keeps its identity and its content. -/

namespace ContentBinding.Markup

abbrev NodeId := Nat

/-- The vocabulary an element belongs to. -/
inductive Dialect
  | html | svg | math
  deriving Repr, DecidableEq

structure Element where
  name : String
  dialect : Dialect := .html
  attrs : List (String × String) := []
  deriving Repr, DecidableEq

inductive Content
  | document
  | doctype (declared : String)
  | comment (text : String)
  | text (text : String)
  | element (e : Element)
  deriving Repr, DecidableEq

structure Node where
  content : Content
  parent : Option NodeId := none
  children : List NodeId := []
  deriving Repr, DecidableEq

structure Page where
  nodes : Array Node
  deriving Repr, DecidableEq

namespace Element

def attr? (e : Element) (name : String) : Option String :=
  e.attrs.lookup name

def hasAttr (e : Element) (name : String) : Bool :=
  e.attrs.any fun p => p.1 = name

/-- Sets one attribute; a new one comes last. -/
def setAttr (e : Element) (name value : String) : Element :=
  if e.hasAttr name then
    { e with attrs := e.attrs.map fun p => if p.1 = name then (name, value) else p }
  else { e with attrs := e.attrs ++ [(name, value)] }

end Element

namespace Page

def root : NodeId := 0

def empty : Page := ⟨#[{ content := .document }]⟩

def node? (p : Page) (n : NodeId) : Option Node :=
  p.nodes[n]?

def content? (p : Page) (n : NodeId) : Option Content :=
  (p.node? n).map (·.content)

def parent? (p : Page) (n : NodeId) : Option NodeId :=
  (p.node? n).bind (·.parent)

def children (p : Page) (n : NodeId) : List NodeId :=
  match p.node? n with
  | some d => d.children
  | none => []

def element? (p : Page) (n : NodeId) : Option Element :=
  match p.content? n with
  | some (.element e) => some e
  | _ => none

def text? (p : Page) (n : NodeId) : Option String :=
  match p.content? n with
  | some (.text s) => some s
  | _ => none

def isElement (p : Page) (n : NodeId) : Bool :=
  (p.element? n).isSome

def nameOf (p : Page) (n : NodeId) : String :=
  match p.element? n with
  | some e => e.name
  | none => ""

def dialectOf (p : Page) (n : NodeId) : Dialect :=
  match p.element? n with
  | some e => e.dialect
  | none => .html

def modify (p : Page) (n : NodeId) (f : Node → Node) : Page :=
  ⟨p.nodes.modify n f⟩

/-- A new node that stands nowhere yet. -/
def create (p : Page) (c : Content) : Page × NodeId :=
  (⟨p.nodes.push { content := c }⟩, p.nodes.size)

def setContent (p : Page) (n : NodeId) (c : Content) : Page :=
  p.modify n fun d => { d with content := c }

def setChildren (p : Page) (n : NodeId) (ids : List NodeId) : Page :=
  p.modify n fun d => { d with children := ids }

def setParent (p : Page) (n : NodeId) (parent : Option NodeId) : Page :=
  p.modify n fun d => { d with parent := parent }

/-- Takes a node from its parent. -/
def detach (p : Page) (n : NodeId) : Page :=
  match p.parent? n with
  | none => p
  | some q => (p.setChildren q ((p.children q).filter (· != n))).setParent n none

/-- Makes a node the last child of another. -/
def append (p : Page) (parent n : NodeId) : Page :=
  let p := p.detach n
  (p.setChildren parent (p.children parent ++ [n])).setParent n (some parent)

def insertInto (ref n : NodeId) : List NodeId → List NodeId
  | [] => [n]
  | c :: rest => if c = ref then n :: c :: rest else c :: insertInto ref n rest

/-- Makes a node the child that stands right before `ref`. -/
def insertBefore (p : Page) (parent ref n : NodeId) : Page :=
  let p := p.detach n
  (p.setChildren parent (insertInto ref n (p.children parent))).setParent n (some parent)

/-- Takes all children from a node. -/
def clear (p : Page) (n : NodeId) : Page :=
  let cs := p.children n
  cs.foldl (fun p c => p.setParent c none) (p.setChildren n [])

/-- Moves all children of a node to the end of another's. -/
def moveChildren (p : Page) (source target : NodeId) : Page :=
  let cs := p.children source
  cs.foldl (fun p c => p.setParent c (some target))
    ((p.setChildren source []).setChildren target (p.children target ++ cs))

def updateElement (p : Page) (n : NodeId) (f : Element → Element) : Page :=
  match p.element? n with
  | some e => p.setContent n (.element (f e))
  | none => p

def setAttr (p : Page) (n : NodeId) (name value : String) : Page :=
  p.updateElement n fun e => e.setAttr name value

/-- Nodes below a node, to a depth, in document order. -/
def below (p : Page) : Nat → NodeId → List NodeId
  | 0, _ => []
  | depth + 1, n => (p.children n).flatMap fun c => c :: p.below depth c

/-- All nodes below a node, in document order: no path is longer than the store. -/
def descendants (p : Page) (n : NodeId) : List NodeId :=
  p.below p.nodes.size n

/-- All elements of the document, in document order. -/
def elements (p : Page) : List NodeId :=
  (p.descendants root).filter p.isElement

/-- The first element below the document that has the name. -/
def firstNamed? (p : Page) (name : String) : Option NodeId :=
  p.elements.find? fun n => p.nameOf n = name

def body? (p : Page) : Option NodeId :=
  p.firstNamed? "body"

end Page
end ContentBinding.Markup
