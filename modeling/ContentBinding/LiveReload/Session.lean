import ContentBinding.LiveReload.Roots
import ContentBinding.Report

/-! Telling browsers to load their page again: connections come and go, a watcher reports changes,
and every change that counts goes to every open connection. -/

namespace ContentBinding.LiveReload

/-- A browser that is registered. -/
structure Connection where
  name : String
  /-- It does not take messages any more, but has not left yet. -/
  isClosed : Bool := false
  /-- Sending to it fails. -/
  isBroken : Bool := false
  /-- Closing it fails. -/
  isStuck : Bool := false
  deriving Repr, DecidableEq

inductive Event
  | prepared (heartbeat : Nat)
  | sent (path : String)
  | closed (code : Nat) (reason : String)
  deriving Repr, DecidableEq

/-- What happened to whom. -/
abbrev Events := List (String × Event)

inductive Watcher
  | off
  | running
  /-- There was nothing to watch. -/
  | finished
  | failed (e : WatchError)
  deriving Repr, DecidableEq

structure Session where
  roots : List Files.Path
  patterns : List String := defaultPatterns
  connections : List Connection := []
  watcher : Watcher := .off
  deriving Repr, DecidableEq

inductive Change
  | added | modified | deleted
  deriving Repr, DecidableEq

inductive StopError
  | watcher (e : WatchError)
  | connection (name : String)
  deriving Repr, DecidableEq

namespace Session

/-- Seconds between signs of life. -/
def heartbeat : Nat := 30

def goingAway : Nat := 1001

def farewell : String := "Server shutdown"

def origin : String := "pagebind.live.reload"

/-- A session for directories; without patterns the usual ones count. -/
def create (w : Files.World) (dirs : List Files.Path) (patterns : List String) :
    Except Files.PathError Session :=
  (rootsOf w dirs).map fun roots =>
    { roots := roots, patterns := if patterns.isEmpty then defaultPatterns else patterns }

def connect (s : Session) (name : String) : Session × Events :=
  ({ s with connections := s.connections ++ [{ name := name }] }, [(name, .prepared heartbeat)])

def leave (s : Session) (name : String) : Session :=
  { s with connections := s.connections.filter (·.name != name) }

def updateConnection (s : Session) (name : String) (f : Connection → Connection) : Session :=
  { s with connections := s.connections.map fun c => if c.name = name then f c else c }

def breakSends (s : Session) (name : String) : Session :=
  s.updateConnection name fun c => { c with isBroken := true }

def closeHalf (s : Session) (name : String) : Session :=
  s.updateConnection name fun c => { c with isClosed := true }

/-- The connections that a change is told to: those that are open. -/
def audience (s : Session) : List Connection :=
  s.connections.filter fun c => !c.isClosed

/-- Tries to tell a browser that a file changed. When that fails the browser is given up. -/
def tell (s : Session) (path name : String) (fails : Bool) : Session × Events :=
  if fails then (s.leave name, []) else (s, [(name, .sent path)])

/-- Tells one browser after the other. -/
def tellEach (s : Session) (path : String) : List Connection → Session × Events
  | [] => (s, [])
  | c :: rest =>
    let (s, events) := s.tell path c.name c.isBroken
    let (s, more) := s.tellEach path rest
    (s, events ++ more)

/-- Tells every open connection that a file changed. -/
def broadcast (s : Session) (path : String) : Session × Events :=
  s.tellEach path s.audience

/-- The directories that can be watched. -/
def watchable (w : Files.World) (roots : List Files.Path) : Except Files.PathError (List Files.Path) :=
  roots.filterM w.pathExists

/-- Starts the watcher unless it was started before, and gives what it watches. -/
def start (w : Files.World) (s : Session) : Session × Option (List Files.Path) × List Note :=
  match s.watcher with
  | .off =>
    match watchable w s.roots with
    | .error e => ({ s with watcher := .failed (.path e) }, none, [])
    | .ok [] =>
      ({ s with watcher := .finished }, none,
        [⟨.warning, origin, "Live reload: no watch directory exists, watcher not started"⟩])
    | .ok dirs => ({ s with watcher := .running }, some dirs, [])
  -- a watcher that has ended is not started again before it was stopped
  | _ => (s, none, [])

/-- The path that browsers are told for a change; none when the change does not count. -/
def notice? (w : Files.World) (s : Session) (change : Change × Files.Path) :
    Except WatchError (Option String) :=
  match change.1 with
  -- a file that is gone cannot be loaded again
  | .deleted => .ok none
  | _ => urlPath w s.roots s.patterns change.2

/-- Works on one change. -/
def handleChange (w : Files.World) (s : Session) (change : Change × Files.Path) : Session × Events :=
  match notice? w s change with
  | .error e => ({ s with watcher := .failed e }, [])
  | .ok none => (s, [])
  | .ok (some path) => s.broadcast path

/-- Works on a batch of changes in order, as long as the watcher runs. -/
def handleChanges (w : Files.World) (s : Session) :
    List (Change × Files.Path) → Session × Events
  | [] => (s, [])
  | change :: rest =>
    if s.watcher = .running then
      let (s, events) := handleChange w s change
      let (s, more) := handleChanges w s rest
      (s, events ++ more)
    else (s, [])

/-- Closes connections one after the other until one cannot be closed. -/
def closeAll : List Connection → List Connection × Events × Option StopError
  | [] => ([], [], none)
  | c :: rest =>
    if c.isStuck then (c :: rest, [], some (.connection c.name))
    else
      let (left, events, error) := closeAll rest
      (left, (c.name, .closed goingAway farewell) :: events, error)

/-- Stops the watcher and closes every connection; what ended the watcher comes out here. -/
def stop (s : Session) : Session × Events × Option StopError :=
  match s.watcher with
  -- the error comes out before any connection is closed
  | .failed e => ({ s with watcher := .off }, [], some (.watcher e))
  | _ =>
    let (left, events, error) := closeAll s.connections
    ({ s with watcher := .off, connections := left }, events, error)

end Session
end ContentBinding.LiveReload
