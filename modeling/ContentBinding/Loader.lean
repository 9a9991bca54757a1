import ContentBinding.Binding.Injection
import ContentBinding.Routes
import ContentBinding.Source.Fetch

/-! Loading a page: from its location to its content identifier, from there to the document, and the
document into the page. A page whose content cannot be had stays as it is. -/

namespace ContentBinding

structure Loader where
  source : Source
  routes : Routes := Routes.standard
  /-- Seconds to wait before the document is fetched. -/
  grace : Number.Double

/-- What one piece of work with a loader came to. -/
structure Loading (α : Type) where
  loader : Loader
  requests : List Request := []
  notes : List Note := []
  delays : List Number.Double := []
  result : Except FetchError α

/-- A page with the plan that was performed on it. -/
structure Injected where
  page : Markup.Page
  plan : Binding.Plan Markup.NodeId

namespace Loader

/-- A tenth of a second. -/
def standardGrace : Number.Double :=
  Number.Double.ofDecimal false 1 (-1)

def origin : String := "pagebind.core.loader"

def injectionOrigin : String := "pagebind.core.injector"

def pageFor (l : Loader) (location : String) : String :=
  l.routes.pageFor location

def describe (l : Loader) (page : String) : Except FetchError String :=
  l.source.describe page

/-- The name of a document, as far as it has one. -/
def nameOf (l : Loader) (page : String) : String :=
  match l.describe page with
  | .ok s => s
  | .error e => e.message

/-- A fetch as the work of a loader. -/
def fetch (env : Surroundings) (l : Loader) (page : String) : Loading Json.Value :=
  let f := l.source.fetch env page
  { loader := { l with source := f.source }
    requests := f.requests
    notes := f.notes
    result := f.result }

/-- The document of a page; none when it cannot be had or is null. -/
def fetchDocument (env : Surroundings) (l : Loader) (page : String) : Loading (Option Json.Value) :=
  let f := l.fetch env page
  let done := fun notes result =>
    ({ loader := f.loader, requests := f.requests, notes := f.notes ++ notes, result := result } :
      Loading (Option Json.Value))
  match f.result with
  | .ok v =>
    done [⟨.debug, origin, "Loaded " ++ l.nameOf page⟩] (.ok (if v.isNull then none else some v))
  | .error (.unavailable u) =>
    done [⟨.warning, origin, "Could not load " ++ l.nameOf page ++ ": " ++ u.reason⟩] (.ok none)
  -- other errors are not about this document
  | .error e => done [] (.error e)

/-- What is said of the bindings that a page has. -/
def scanNote {ε : Type} (s : Binding.Scan ε) : Note :=
  ⟨.debug, injectionOrigin, "Found " ++ toString s.texts.length ++ " text bindings, " ++
    toString s.images.length ++ " image bindings, " ++ toString s.projects.length ++ " project items"⟩

/-- What is said of the bindings that a plan leaves out. -/
def planNotes {ε : Type} (p : Binding.Plan ε) : List Note :=
  p.skips.map fun s =>
    ⟨.debug, injectionOrigin, "Skipping binding " ++ Text.quoted s.path ++ ": " ++ s.message⟩

def waits (l : Loader) : List Number.Double :=
  if l.grace.isPositiveValue then [l.grace] else []

/-- Injects the document that belongs to a location into a page; none when there is no content. -/
def load (env : Surroundings) (l : Loader) (page : Markup.Page) (location : String) :
    Loading (Option Injected) :=
  let f := l.fetchDocument env (l.pageFor location)
  let done := fun notes result =>
    ({ loader := f.loader, requests := f.requests, notes := f.notes ++ notes, delays := l.waits
       result := result } : Loading (Option Injected))
  match f.result with
  | .error e => done [] (.error e)
  | .ok none => done [] (.ok none)
  | .ok (some document) =>
    let found := Binding.scan page
    match Binding.inject? page document with
    | .error e =>
      done (scanNote found :: planNotes (.begun found document)) (.error (.ofOverlong e))
    | .ok (page, plan) => done (scanNote found :: planNotes plan) (.ok (some ⟨page, plan⟩))

def close (l : Loader) : Loader :=
  { l with source := l.source.close }

end Loader
end ContentBinding
