import ContentBinding.Binding.Image
import ContentBinding.Binding.Path
import ContentBinding.Binding.ScalarText

/-! Plans: the writes that a content document implies for the bindings of a page, and for every
binding without a write the reason. A plan needs nothing of an element but its identity. -/

namespace ContentBinding.Binding

open Json (Value)

/-- An element whose text comes from a path. -/
structure TextBinding (ε : Type) where
  element : ε
  path : String
  deriving Repr, DecidableEq

/-- The elements of a picture that receive addresses; each may be missing. -/
structure ImageSlots (ε : Type) where
  avif : Option ε := none
  webp : Option ε := none
  img : Option ε := none
  deriving Repr, DecidableEq

/-- A picture whose sources come from a base name. -/
structure ImageBinding (ε : Type) where
  element : ε
  path : String
  slots : ImageSlots ε
  deriving Repr, DecidableEq

/-- An entry of the project list, which belongs to the project of the same position. -/
structure ProjectItem (ε : Type) where
  index : Nat
  element : ε
  heading : Option ε
  /-- The heading has a binding of its own. -/
  headingBound : Bool
  deriving Repr, DecidableEq

/-- Everything on a page that may be written to, in document order. -/
structure Scan (ε : Type) where
  texts : List (TextBinding ε) := []
  images : List (ImageBinding ε) := []
  projects : List (ProjectItem ε) := []
  deriving Repr, DecidableEq

def Scan.size {ε : Type} (s : Scan ε) : Nat :=
  s.texts.length + s.images.length + s.projects.length

inductive Field
  | text | html | srcset | src
  deriving Repr, DecidableEq

namespace Field

def name : Field → String
  | text => "text"
  | html => "html"
  | srcset => "srcset"
  | src => "src"

end Field

/-- Sets one field of an element. -/
structure Write (ε : Type) where
  element : ε
  field : Field
  value : String
  deriving Repr, DecidableEq

/-- What a value is that has no text. -/
inductive Shape
  | object | array
  deriving Repr, DecidableEq

def Shape.name : Shape → String
  | object => "dict"
  | array => "list"

/-- Why a binding has no write. -/
inductive Skip
  | noDocument
  | noValue (path : String)
  | nullValue (path : String)
  | notObject (path : String)
  | notScalar (path : String) (shape : Shape)
  | emptyText (path : String)
  | noImage (path : String)
  | nullImage (path : String)
  | notImageName (path : String)
  | emptyImageName (path : String)
  | nullProject (index : Nat)
  | projectNotObject (index : Nat)
  deriving Repr, DecidableEq

def titlePath (index : Nat) : String :=
  "projects[" ++ toString index ++ "].title"

namespace Skip

def kind : Skip → String
  | noDocument => "no-document"
  | noValue _ | noImage _ => "resolution-miss"
  | nullValue _ | nullImage _ | nullProject _ => "null-value"
  | emptyText _ | emptyImageName _ => "empty-value"
  | notObject _ | notScalar _ _ | notImageName _ | projectNotObject _ => "structural-mismatch"

def path : Skip → String
  | noDocument => ""
  | noValue p | nullValue p | notObject p | notScalar p _ | emptyText p
  | noImage p | nullImage p | notImageName p | emptyImageName p => p
  | nullProject i | projectNotObject i => titlePath i

def message : Skip → String
  | noDocument => "no content document provided"
  | noValue p => "no value found for path: " ++ p
  | nullValue p => "value is null for path: " ++ p
  | notObject p => "expected an object for path: " ++ p
  | notScalar p s => "expected a scalar for path: " ++ p ++ ", got " ++ s.name
  | emptyText p => "empty text for path: " ++ p
  | noImage p => "no image found for path: " ++ p
  | nullImage p => "image is null for path: " ++ p
  | notImageName p => "expected an image name for path: " ++ p
  | emptyImageName p => "empty image name for path: " ++ p
  | nullProject i => "no project entry at index " ++ toString i
  | projectNotObject i => "expected an object at projects[" ++ toString i ++ "]"

def describe (s : Skip) : String :=
  s.kind ++ ": " ++ s.message

end Skip

structure Plan (ε : Type) where
  writes : List (Write ε) := []
  skips : List Skip := []
  deriving Repr, DecidableEq

namespace Plan

variable {ε : Type}

def append (p q : Plan ε) : Plan ε :=
  ⟨p.writes ++ q.writes, p.skips ++ q.skips⟩

def concat (ps : List (Plan ε)) : Plan ε :=
  ps.foldr append {}

def skip (s : Skip) : Plan ε :=
  { skips := [s] }

def write (element : ε) (field : Field) (value : String) : Plan ε :=
  { writes := [⟨element, field, value⟩] }

def contactPath : String := "footer.contact"

def contactFields : List String := ["address", "phone", "email"]

/-- The text of a contact field; one that is missing or not a scalar has the empty text. -/
def contactText (members : List (String × Value)) (name : String) : String :=
  ((members.lookup name).bind scalarText?).getD ""

/-- The lines of a contact, with line breaks between them. -/
def contactMarkup (members : List (String × Value)) : String :=
  "<br>".intercalate (contactFields.map (contactText members))

/-- The trimmed text of a value, unless nothing is left. -/
def ofTextValue (element : ε) (path : String) (v : Value) : Plan ε :=
  match scalarText? v with
  | some s => if (Text.trim s).isEmpty then skip (.emptyText path) else write element .text (Text.trim s)
  | none => skip (.notScalar path (match v with | .arr _ => .array | _ => .object))

def ofText (document : Value) (b : TextBinding ε) : Plan ε :=
  match resolve document b.path with
  | none => skip (.noValue b.path)
  | some .null => skip (.nullValue b.path)
  | some v =>
    -- the one path whose value is an object, and that is written as markup
    if b.path = contactPath then
      match v with
      | .obj members => write b.element .html (contactMarkup members)
      | _ => skip (.notObject b.path)
    else ofTextValue b.element b.path v

/-- The write to a slot that is there. -/
def toSlot (slot : Option ε) (field : Field) (value : String) : List (Write ε) :=
  match slot with
  | some e => [⟨e, field, value⟩]
  | none => []

def ofReference (slots : ImageSlots ε) (r : ImageReference) : Plan ε :=
  { writes := toSlot slots.avif .srcset (r.srcset .avif) ++
      toSlot slots.webp .srcset (r.srcset .webp) ++ toSlot slots.img .src r.fallback }

def ofImage (document : Value) (b : ImageBinding ε) : Plan ε :=
  match resolve document b.path with
  | none => skip (.noImage b.path)
  | some .null => skip (.nullImage b.path)
  | some (.str base) =>
    match ImageReference.ofBase? base with
    | none => skip (.emptyImageName b.path)
    | some r => ofReference b.slots r
  | some _ => skip (.notImageName b.path)

/-- The title of the project at an item's position, for a heading without a binding. -/
def ofProject (projects : List Value) (item : ProjectItem ε) : Plan ε :=
  match projects[item.index]?, item.heading, item.headingBound with
  | some project, some heading, false =>
    match project with
    | .null => skip (.nullProject item.index)
    | .obj members =>
      match members.lookup "title" with
      | none => skip (.noValue (titlePath item.index))
      | some .null => skip (.nullValue (titlePath item.index))
      | some v => ofTextValue heading (titlePath item.index) v
    | _ => skip (.projectNotObject item.index)
  -- without a project or a heading of its own there is neither a write nor a reason
  | _, _, _ => {}

/-- The project list of a document. -/
def projectsOf? (document : Value) : Option (List Value) :=
  match document.get? "projects" with
  | some (.arr items) => some items
  | _ => none

def ofProjects (document : Value) (items : List (ProjectItem ε)) : List (Plan ε) :=
  match projectsOf? document with
  | some projects => items.map (ofProject projects)
  | none => []

/-- The plan for a scanned page. A document that is null counts as none. -/
def ofScan (scan : Scan ε) (document : Value) : Plan ε :=
  if document.isNull then skip .noDocument
  else concat (scan.texts.map (ofText document) ++ scan.images.map (ofImage document) ++
    ofProjects document scan.projects)

/-! An index or an integer with too many digits breaks the planning off. -/

/-- What breaks off the planning of a text. -/
def textOverlong? (document : Value) (b : TextBinding ε) : Option Text.Overlong :=
  match overlong? document b.path with
  | some e => some e
  | none =>
    match resolve document b.path with
    | none => none
    | some v =>
      if b.path = contactPath then
        match v with
        | .obj members => contactFields.findSome? fun name => (members.lookup name).bind unwritable?
        | _ => none
      else unwritable? v

/-- What breaks off the planning of a title. -/
def projectOverlong? (projects : List Value) (item : ProjectItem ε) : Option Text.Overlong :=
  match projects[item.index]?, item.heading, item.headingBound with
  | some project, some _, false => (project.get? "title").bind unwritable?
  | _, _, _ => none

/-- The plans of all bindings in order, each with what breaks it off. -/
def attempts (scan : Scan ε) (document : Value) : List (Option Text.Overlong × Plan ε) :=
  scan.texts.map (fun b => (textOverlong? document b, ofText document b)) ++
    scan.images.map (fun b => (overlong? document b.path, ofImage document b)) ++
      match projectsOf? document with
      | some projects =>
        scan.projects.map fun item => (projectOverlong? projects item, ofProject projects item)
      | none => []

/-- What breaks off the planning for a page. -/
def breaksOff? (scan : Scan ε) (document : Value) : Option Text.Overlong :=
  if document.isNull then none else (attempts scan document).findSome? (·.1)

/-- What is planned before the planning is broken off. -/
def begun (scan : Scan ε) (document : Value) : Plan ε :=
  concat (((attempts scan document).takeWhile (·.1.isNone)).map (·.2))

/-- The plan for a scanned page, where nothing breaks it off. -/
def forScan (scan : Scan ε) (document : Value) : Except Text.Overlong (Plan ε) :=
  match breaksOff? scan document with
  | some e => .error e
  | none => .ok (ofScan scan document)

end Plan
end ContentBinding.Binding
