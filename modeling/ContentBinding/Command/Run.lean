import ContentBinding.Command.Ending
import ContentBinding.Markup.Encoding

/-! Carrying out the commands: starting a server, rendering a page with its content, and checking how
the bindings of a page fare. -/

namespace ContentBinding.Command

open Ending (line noteLines)
open Files (Path PathError World)
open Markup (Page)

/-! Serving -/

/-- What is said before a server runs. -/
def startText (c : Config) : String :=
  line ("Starting server on " ++ c.server.host ++ ":" ++ toString c.server.port) ++
    line ("Site directory: " ++ c.site.root.toString) ++
    (match c.remoteBase? with
      | some base => line ("Content URL: " ++ base)
      | none => line ("Content directory: " ++ c.site.content.toString)) ++
    line ("Live reload: " ++ (if c.reload.enabled then "enabled" else "disabled"))

def serve (w : World) (s : Settings) (isVerbose : Bool) : Ending :=
  match s.load w with
  | .error e => .ofConfigError w e
  | .ok c => { ({ files := w } : Ending).print (startText c) with served := some (c, isVerbose) }

/-! Rendering -/

/-- Writes a file below directories that may have to be made. -/
def save (w : World) (p : Path) (data : Text.Bytes) : World × Option PathError :=
  match w.makeDirectories (p.names.length + 1) p.parent with
  | .error e => (w, some e)
  | .ok w =>
    match w.write p data with
    | .error e => (w, some e)
    | .ok w => (w, none)

/-- Gives a page out: to its file, or printed. -/
def deliver (e : Ending) (page : Path) (output : Option Path) (data : Text.Bytes) : Ending :=
  match output with
  | none => { e with out := e.out ++ data }
  | some p =>
    match save e.files p data with
    | (w, some err) => { e with files := w }.fail (.path err)
    | (w, none) =>
      { e with files := w }.report (line ("Rendered " ++ page.toString ++ " -> " ++ p.toString))

def skipLines (p : Binding.Plan Markup.NodeId) : String :=
  String.join (p.skips.map fun s => line ("  " ++ s.describe))

/-- Gives a page out after its content was loaded; without content it is given out as it is stored. -/
def deliverLoaded (e : Ending) (t : Task) (output : Option Path) (isVerbose : Bool)
    (data : Text.Bytes) (loading : Loading (Option Injected)) : Ending :=
  let e := { e with requests := loading.requests }.report (noteLines isVerbose loading.notes)
  match loading.result with
  | .error err => e.fail (.fetch err)
  | .ok none =>
    deliver (e.report (line "Content unavailable, page left unchanged")) t.page output data
  | .ok (some i) =>
    deliver (e.report (if isVerbose then skipLines i.plan else "")) t.page output
      (Text.encodeUtf8 i.page.render)

/-- Renders a page. Its bytes are looked at first: without text there is nothing to load for. -/
def render (env : Surroundings) (t : Task) (output : Option Path) (isVerbose : Bool) : Ending :=
  let e : Ending := { files := env.files }
  match t.settings.load env.files with
  | .error err => .ofConfigError env.files err
  | .ok c =>
    match env.files.read t.page with
    | .error err => e.fail (.path err)
    | .ok data =>
      match Markup.decodePage data with
      | none =>
        deliver (e.report (line "Page encoding not recognized, page left unchanged")) t.page output
          data
      | some html =>
        match c.offlineLoader with
        | .error err => e.fail (.fetch (.address err))
        | .ok loader =>
          deliverLoaded e t output isVerbose data (loader.load env (Page.parse html) t.location)

/-! Checking -/

/-- What is said of a page before its document is fetched. -/
def overviewText (location name : String) (s : Binding.Scan Markup.NodeId) : String :=
  line ("Page: " ++ location ++ " -> " ++ name) ++
    line ("Bindings: " ++ toString s.texts.length ++ " text, " ++ toString s.images.length ++
      " image, " ++ toString s.projects.length ++ " project items")

/-- How a plan comes out. -/
def planText (p : Binding.Plan Markup.NodeId) : String :=
  line ("Writes: " ++ toString p.writes.length) ++
    (if p.skips.isEmpty then line "All bindings resolved."
    else
      line ("Skipped bindings (" ++ toString p.skips.length ++ "):") ++
        String.join (p.skips.map fun s => line ("  - [" ++ s.kind ++ "] " ++ s.message)))

/-- Goes on with a check when the document was asked for. -/
def checkLoaded (e : Ending) (s : Binding.Scan Markup.NodeId) (isStrict : Bool)
    (loading : Loading (Option Json.Value)) : Ending :=
  let e := { e with requests := loading.requests }.report (noteLines false loading.notes)
  match loading.result with
  | .error err => e.fail (.fetch err)
  | .ok none => (e.print (line "Content unavailable")).exit (if isStrict then 1 else 0)
  | .ok (some document) =>
    match Binding.Plan.forScan s document with
    | .error err => e.fail (.fetch (.ofOverlong err))
    | .ok plan => (e.print (planText plan)).exit (if isStrict && !plan.skips.isEmpty then 1 else 0)

/-- Checks the text of a page. -/
def checkText (env : Surroundings) (loader : Loader) (t : Task) (isStrict : Bool) (html : String) :
    Ending :=
  let e : Ending := { files := env.files }
  let s := Binding.scan (Page.parse html)
  let page := loader.pageFor t.location
  match loader.describe page with
  | .error err => e.fail (.fetch err)
  | .ok name =>
    checkLoaded (e.print (overviewText t.location name s)) s isStrict (loader.fetchDocument env page)

def checkPage (env : Surroundings) (t : Task) (isStrict : Bool) : Ending :=
  let e : Ending := { files := env.files }
  match t.settings.load env.files with
  | .error err => .ofConfigError env.files err
  | .ok c =>
    match c.offlineLoader with
    | .error err => e.fail (.fetch (.address err))
    | .ok loader =>
      match env.files.read t.page with
      | .error err => e.fail (.path err)
      | .ok data =>
        match Markup.decodePage data with
        | none => (e.report (line ("Error: cannot decode " ++ t.page.toString))).exit 1
        | some html => checkText env loader t isStrict html

/-! Any command -/

def carryOut (env : Surroundings) : Invocation → Ending
  | .serve settings isVerbose => serve env.files settings isVerbose
  | .render task output isVerbose => render env task output isVerbose
  | .check task isStrict => checkPage env task isStrict

/-- Carries out a command line. -/
def run (env : Surroundings) (words : List String) : Ending :=
  match Invocation.parse env.files words with
  | .error stop => .ofStop env.files stop
  | .ok invocation => carryOut env invocation

end ContentBinding.Command
