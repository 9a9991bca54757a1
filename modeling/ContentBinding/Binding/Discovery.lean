import ContentBinding.Binding.Plan
import ContentBinding.Markup.Page

/-! Finding the bindings of a page: elements with a marker attribute, pictures with one, and the
project list. -/

namespace ContentBinding.Binding

open Markup

def textMarker : String := "data-content"
def imageMarker : String := "data-image"
def projectClass : String := "project-item"
def headingName : String := "h4"

namespace Discovery

/-- The characters that equal an ASCII letter when case does not count. -/
def foldCase (c : Char) : Char :=
  if c = '\u0130' || c = '\u0131' then 'i' else c.toLower

/-- A media type without its case and one final line feed. -/
def mediaType (value : String) : String :=
  let cs := value.toList
  let cs := if cs.getLast? = some '\n' then cs.dropLast else cs
  String.ofList (cs.map foldCase)

def hasMarker (p : Page) (marker : String) (n : NodeId) : Bool :=
  match p.element? n with
  | some e => e.hasAttr marker
  | none => false

def markerPath (p : Page) (marker : String) (n : NodeId) : String :=
  ((p.element? n).bind (·.attr? marker)).getD ""

def isSource (p : Page) (type : String) (n : NodeId) : Bool :=
  match p.element? n with
  | some e =>
    e.name = "source" &&
      match e.attr? "type" with
      | some v => mediaType v = type
      | none => false
  | none => false

/-- The first node below an element that passes a test. -/
def firstBelow? (p : Page) (n : NodeId) (test : NodeId → Bool) : Option NodeId :=
  (p.descendants n).find? test

def isNamed (p : Page) (name : String) (n : NodeId) : Bool :=
  match p.element? n with
  | some e => e.name = name
  | none => false

def slotsOf (p : Page) (picture : NodeId) : ImageSlots NodeId :=
  { avif := firstBelow? p picture (isSource p "image/avif")
    webp := firstBelow? p picture (isSource p "image/webp")
    img := firstBelow? p picture (isNamed p "img") }

def hasClass (p : Page) (cls : String) (n : NodeId) : Bool :=
  match (p.element? n).bind (·.attr? "class") with
  | some v => (Text.words v).contains cls
  | none => false

def textBindings (p : Page) : List (TextBinding NodeId) :=
  (p.elements.filter (hasMarker p textMarker)).map fun n => ⟨n, markerPath p textMarker n⟩

def imageBindings (p : Page) : List (ImageBinding NodeId) :=
  (p.elements.filter fun n => isNamed p "picture" n && hasMarker p imageMarker n).map
    fun n => ⟨n, markerPath p imageMarker n, slotsOf p n⟩

def projectItem (p : Page) (index : Nat) (n : NodeId) : ProjectItem NodeId :=
  let heading := firstBelow? p n (isNamed p headingName)
  { index := index
    element := n
    heading := heading
    headingBound := heading.any (hasMarker p textMarker) }

def projectItems (p : Page) : List (ProjectItem NodeId) :=
  (p.elements.filter (hasClass p projectClass)).mapIdx (projectItem p)

end Discovery

/-- Every binding of a page. -/
def scan (p : Page) : Scan NodeId :=
  { texts := Discovery.textBindings p
    images := Discovery.imageBindings p
    projects := Discovery.projectItems p }

end ContentBinding.Binding
