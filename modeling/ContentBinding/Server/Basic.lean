import ContentBinding.Config.Basic
import ContentBinding.LiveReload.Session

/-! A server of a site: its settings, the loader of its pages, and the browsers that are to be told
of changes. -/

namespace ContentBinding

structure Server where
  config : Config
  loader : Loader
  /-- Whether bindings without a write are reported. -/
  isVerbose : Bool := false
  /-- There is one while pages load themselves again. -/
  session : Option LiveReload.Session := none

namespace Server

/-- Why a server does not start. -/
inductive StartError
  | address (e : UrlError)
  | path (e : Files.PathError)
  deriving Repr, DecidableEq

def StartError.message : StartError → String
  | address e => e.message
  | path e => e.message

/-- The session of a site, over its pages and its documents. -/
def sessionFor (w : Files.World) (c : Config) : Except Files.PathError (Option LiveReload.Session) :=
  if c.reload.enabled then
    (LiveReload.Session.create w [c.site.root, c.site.content] (c.reload.patterns.getD [])).map some
  else .ok none

/-- A server with these settings. -/
def create (w : Files.World) (c : Config) (isVerbose : Bool) : Except StartError Server :=
  match c.loader with
  | .error e => .error (.address e)
  | .ok loader =>
    match sessionFor w c with
    | .error e => .error (.path e)
    | .ok session => .ok ⟨c, loader, isVerbose, session⟩

/-- Begins to watch for changes. -/
def start (w : Files.World) (s : Server) : Server × List Note :=
  match s.session with
  | none => (s, [])
  | some session =>
    let (session, _, notes) := session.start w
    ({ s with session := some session }, notes)

end Server
end ContentBinding
