import ContentBinding.Source.Remote

/-! Sources of content documents: a directory of files, or a place on the web. Nothing is kept from
one fetch to the next. -/

namespace ContentBinding

inductive Source
  | directory (dir : Files.Path)
  | remote (r : Remote)
  deriving Repr, DecidableEq

/-- A fetch with what it did on the way. -/
structure Fetched where
  source : Source
  events : List ClientEvent := []
  notes : List Note := []
  result : Except FetchError Json.Value

def Fetched.requests (f : Fetched) : List Request :=
  f.events.filterMap ClientEvent.request?

namespace Source

/-- The file of a page's document. -/
def documentPath (dir : Files.Path) (page : String) : Files.Path :=
  dir.join (Files.Path.ofString (page ++ ".json"))

/-- Names the document of a page. -/
def describe (s : Source) (page : String) : Except FetchError String :=
  match s with
  | directory dir => .ok (documentPath dir page).toString
  | remote r =>
    match r.documentUrl page with
    | .ok u => .ok u.toString
    | .error e => .error (.address e)

def readFile (w : Files.World) (dir : Files.Path) (page : String) : Except FetchError Json.Value :=
  match w.read (documentPath dir page) with
  | .ok body => (Unavailable.ofBytes page body w.room).mapError .ofUnavailable
  | .error (.system e) => .error (.unavailable ⟨page, .system e⟩)
  -- a path that no system takes is not a missing document
  | .error e => .error (.path e)

def fetchRemote (env : Surroundings) (r : Remote) (page : String) : Fetched :=
  match Remote.timestamp env.clock with
  | .error e => { source := .remote r, result := .error e }
  | .ok time =>
    match r.documentUrl page with
    | .error e => { source := .remote r, result := .error (.address e) }
    | .ok u =>
      let asked := Remote.requestUrl u
      let (client, opening) := Remote.takeClient r.client
      { source := .remote { r with client := client }
        events := opening ++ [.asked client ⟨asked, time⟩]
        notes := [⟨.debug, Remote.origin, "Fetching " ++ u.toString⟩]
        result := Remote.read env.files.room page (env.network asked) }

/-- Reads the document of a page afresh. -/
def fetch (env : Surroundings) (s : Source) (page : String) : Fetched :=
  match s with
  | directory dir => { source := s, result := readFile env.files dir page }
  | remote r => fetchRemote env r page

/-- The source without a client of its own, and what was done with the one that it had. -/
def release : Source → Source × List ClientEvent
  | directory dir => (.directory dir, [])
  | remote r => (.remote r.release.1, r.release.2)

def close (s : Source) : Source :=
  s.release.1

end Source
end ContentBinding
