import ContentBinding.Assets
import ContentBinding.Markup.Encoding
import ContentBinding.Server.Basic
import ContentBinding.Server.Response
import ContentBinding.Server.Target
import ContentBinding.Site

/-! Answering requests: content documents first, then the files that come with the program, then the
site, whose pages get their content. -/

namespace ContentBinding.Server

open Files (Path PathError World)
open Markup (Page)

/-- What a path leads to. -/
inductive Route
  | document (page : String)
  /-- Where browsers wait for changes. -/
  | changes
  | asset (name : String)
  | site (path : String)
  deriving Repr, DecidableEq

namespace Route

/-- What follows a beginning. -/
def after? (start : String) (path : List Char) : Option (List Char) :=
  if start.toList.isPrefixOf path then some (path.drop start.length) else none

/-- What stands before an end. -/
def before? (stop : String) (path : List Char) : Option (List Char) :=
  (after? (String.ofList stop.toList.reverse) path.reverse).map List.reverse

def documentStart : String := "/content/"

def documentSuffix : String := ".json"

def changesPath : String := "/ws/live-reload"

def isNameChar (c : Char) : Bool :=
  c != '/' && c != '\x7b' && c != '\x7d'

/-- The name in the path of a document. -/
def document? (path : List Char) : Option String :=
  -- the name is tested while it is escaped, and may hold a slash afterwards
  match (after? documentStart path).bind (before? documentSuffix) with
  | some name =>
    if !name.isEmpty && name.all isNameChar then some (String.ofList (Url.unprotect name)) else none
  | none => none

/-- The name of a file that comes with the program. Steps up in the path must not lead away. -/
def asset? (path : List Char) : Option String :=
  let p := Path.ofString (String.ofList path)
  let start := Path.ofString Assets.pathStart
  let place := Path.absolute (World.collapse p.names)
  match after? Assets.pathStart path with
  | none => none
  | some rest =>
    if (rest.isEmpty || rest.head? = some '/') && place.isBelow start then
      some (String.ofList (Url.unprotect (rest.drop 1)))
    else none

/-- The path below the site; it may not run over a line's end. -/
def site? (path : List Char) : Option String :=
  match path with
  | '/' :: rest => if rest.contains '\n' then none else some (String.ofList (Url.unprotect rest))
  | _ => none

/-- Where a path leads; with `reload` there is also a place to wait for changes. -/
def ofPath? (reload : Bool) (path : List Char) : Option Route :=
  match document? path with
  | some page => some (document page)
  | none =>
    if reload && path = changesPath.toList then some changes
    else
      match asset? path with
      | some name => some (asset name)
      | none => (site? path).map site

end Route

/-! Files -/

/-- Letters, digits, low lines and hyphens. -/
def isPlain (c : Char) : Bool :=
  c.isAlphanum || c = '_' || c = '-'

/-- A name of plain characters; one line's end may follow them. -/
def isPlainName (page : String) : Bool :=
  let cs := page.toList
  let name := if cs.getLast? = some '\n' then cs.dropLast else cs
  !name.isEmpty && name.all isPlain

/-- The content of a file, or the refusal to give it. -/
def sendFile (w : World) (p : Path) : Response :=
  match w.read p with
  | .ok content => .file p.name content
  | .error (.system ⟨.denied, _⟩) => { status := 403 }
  | .error _ => { status := 404 }

def sendDocument (w : World) (dir : Path) (page : String) : Response :=
  if isPlainName page then
    let p := Source.documentPath dir page
    match w.isFile p with
    | .error _ => .failed
    | .ok false => .notFound
    | .ok true => { sendFile w p with cacheControl := some Response.neverStored }
  else .notFound

/-- The directory of the files that come with the program. -/
def assetDirectory : Path := .absolute ["pagebind", "static"]

def sendAsset (name : String) : Response :=
  let p := Path.ofString name
  let place := Path.absolute (World.collapse (assetDirectory.join p).names)
  if p.isAbsolute then .forbidden
  else if World.hasNull p then .notFound
  else
    match place.below? assetDirectory with
    | none => .notFound
    | some [] => .forbidden
    | some names =>
      -- names that are too long are refused before they are looked for
      if names.any fun n => World.maxNameBytes < n.utf8ByteSize then .failed
      else
        match names with
        | [file] =>
          match Assets.files.lookup file with
          | some text => .file file (Text.encodeUtf8 text)
          | none => { status := 404 }
        | _ => { status := 404 }

/-! Pages -/

/-- A response, and what came about on the way to it. -/
structure Answer where
  server : Server
  response : Response
  requests : List Request := []
  notes : List Note := []

def origin : String := "pagebind.api.pages"

def warn (location text : String) : Note :=
  ⟨.warning, origin, location ++ ": " ++ text⟩

/-- A page that is sent as it is stored. -/
def sendStored (w : World) (p : Path) : Response :=
  { sendFile w p with cacheControl := some Response.revalidated }

/-- The text of a page, with the script that loads it again when it is to do so. -/
def finish (s : Server) (page : Page) : Response :=
  .page (if s.config.reload.enabled then (page.appendScript Assets.scriptAddress).render else page.render)

def skipNotes (s : Server) (location : String) (i : Injected) : List Note :=
  if s.isVerbose then i.plan.skips.map fun skip => warn location skip.describe else []

/-- A page whose text is known gets its content. -/
def sendPage (env : Surroundings) (s : Server) (p : Path) (location html : String) : Answer :=
  let page := Page.parse html
  let loading := s.loader.load env page location
  let s := { s with loader := loading.loader }
  let done := fun response notes =>
    ({ server := s, response := response, requests := loading.requests
       notes := loading.notes ++ notes } : Answer)
  match loading.result with
  | .error _ => done .failed []
  -- with nothing to add, the file itself goes out
  | .ok none => done (if s.config.reload.enabled then finish s page else sendStored env.files p) []
  | .ok (some i) => done (finish s i.page) (skipNotes s location i)

/-- A file of the site; pages are completed, everything else is sent as it is. -/
def sendSiteFile (env : Surroundings) (s : Server) (p : Path) (location : String) : Answer :=
  if p.suffix != Site.pageSuffix then ⟨s, sendFile env.files p, [], []⟩
  else
    match env.files.read p with
    | .error _ => ⟨s, .failed, [], []⟩
    | .ok data =>
      match Markup.decodePage data with
      | none =>
        ⟨s, sendStored env.files p, [], [warn location "page encoding not recognized, served as-is"]⟩
      | some html => sendPage env s p location html

def sendSite (env : Surroundings) (s : Server) (path location : String) : Answer :=
  match Site.find env.files s.config.site.root path with
  | .error _ => ⟨s, .failed, [], []⟩
  | .ok none => ⟨s, .plain 404 ("Not found: /" ++ path), [], []⟩
  | .ok (some p) => sendSiteFile env s p location

/-! Requests -/

def send (env : Surroundings) (s : Server) (location : String) : Route → Answer
  | .document page => ⟨s, sendDocument env.files s.config.site.content page, [], []⟩
  -- a plain request is no handshake
  | .changes => ⟨s, .badRequest, [], []⟩
  | .asset name => ⟨s, sendAsset name, [], []⟩
  | .site path => sendSite env s path location

def route? (s : Server) (t : Target) : Option Route :=
  Route.ofPath? s.config.reload.enabled t.path

/-- Answers a request that can be read. -/
def answerTarget (env : Surroundings) (s : Server) (m : Method) (t : Target) : Answer :=
  match route? s t, m with
  | none, _ => ⟨s, .notFound, [], []⟩
  | some _, .other => ⟨s, .notAllowed, [], []⟩
  | some r, _ => send env s t.location r

/-- Answers a request. -/
def answer (env : Surroundings) (s : Server) (method target : String) : Answer :=
  match Method.ofString? method, Target.ofString? target with
  | some .head, some t =>
    let a := answerTarget env s .head t
    { a with response := a.response.withoutBody }
  | some m, some t => answerTarget env s m t
  | _, _ => ⟨s, .badRequest, [], []⟩

end ContentBinding.Server
