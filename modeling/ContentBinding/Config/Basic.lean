import ContentBinding.Loader

/-! The settings of a site, and how single settings give way to others. -/

namespace ContentBinding

structure ServerSettings where
  host : String := "127.0.0.1"
  port : Int := 8080
  deriving Repr, DecidableEq

structure SiteSettings where
  root : Files.Path
  content : Files.Path
  deriving Repr, DecidableEq

structure ContentSettings where
  /-- Where content documents are fetched from; without one they are files. -/
  baseUrl : Option String := none
  grace : Number.Double := Loader.standardGrace
  deriving Repr, DecidableEq

structure ReloadSettings where
  enabled : Bool := true
  patterns : Option (List String) := none
  deriving Repr, DecidableEq

structure Config where
  server : ServerSettings := {}
  site : SiteSettings
  content : ContentSettings := {}
  routes : Routes := Routes.standard
  reload : ReloadSettings := {}
  /-- The file that the settings were read from. -/
  origin : Option Files.Path := none
  deriving Repr, DecidableEq

/-- Settings that are given elsewhere; those that are not given stay. -/
structure Overrides where
  host : Option String := none
  port : Option Int := none
  root : Option Files.Path := none
  content : Option Files.Path := none
  baseUrl : Option String := none
  reload : Option Bool := none
  deriving Repr, DecidableEq

namespace SiteSettings

def rootName : String := "site"

def contentName : String := "content"

/-- The usual layout below a directory. -/
def standard (dir : Files.Path) : SiteSettings :=
  ⟨dir.child rootName, (dir.child rootName).child contentName⟩

/-- The site at another root. Content below the old root keeps its place, other content does not. -/
def moveTo (s : SiteSettings) (root : Files.Path) : SiteSettings :=
  match s.content.below? s.root with
  | some names => ⟨root, root.join ⟨.here, names⟩⟩
  | none => ⟨root, root.child contentName⟩

def override (s : SiteSettings) (o : Overrides) : SiteSettings :=
  let moved := match o.root with
    | some root => s.moveTo root
    | none => s
  -- content that is given stays where it is when the root is moved
  { moved with content := o.content.getD moved.content }

end SiteSettings

namespace Config

def standard : Config :=
  { site := SiteSettings.standard Files.Path.here }

def override (c : Config) (o : Overrides) : Config :=
  { c with
    server := ⟨o.host.getD c.server.host, o.port.getD c.server.port⟩
    site := c.site.override o
    content := { c.content with baseUrl := o.baseUrl.or c.content.baseUrl }
    reload := { c.reload with enabled := o.reload.getD c.reload.enabled } }

/-- The place of content documents, unless it is a directory. -/
def remoteBase? (c : Config) : Option String :=
  match c.content.baseUrl with
  | some s => if s.isEmpty then none else some s
  | none => none

/-- Where content documents come from. -/
def source (c : Config) : Except UrlError Source :=
  match c.remoteBase? with
  | none => .ok (.directory c.site.content)
  | some s =>
    match Url.parse s with
    | .ok base => .ok (.remote { base := base })
    | .error e => .error e

/-- A loader with these settings. -/
def loader (c : Config) : Except UrlError Loader :=
  (c.source).map fun s => { source := s, routes := c.routes, grace := c.content.grace }

/-- A loader for pages that nothing else works on: there is nothing to wait for. -/
def offlineLoader (c : Config) : Except UrlError Loader :=
  (c.loader).map fun l => { l with grace := .zero false }

end Config
end ContentBinding
