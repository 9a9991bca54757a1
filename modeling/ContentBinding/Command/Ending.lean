import ContentBinding.Command.Invocation
import ContentBinding.Config.Load

/-! What a command comes to: what it prints, what it leaves in the files, and how it ends. -/

namespace ContentBinding.Command

open Files (Path PathError World)

/-- An error that no command reports by itself. -/
inductive Failure
  | config (e : ConfigError)
  | fetch (e : FetchError)
  | path (e : PathError)
  deriving Repr, DecidableEq

def Failure.message : Failure → String
  | config e => e.message
  | fetch e => e.message
  | path e => e.message

structure Ending where
  exitCode : Nat := 0
  out : Text.Bytes := []
  err : String := ""
  failure : Option Failure := none
  files : World
  requests : List Request := []
  /-- What a server is to be run with. -/
  served : Option (Config × Bool) := none

namespace Ending

def line (s : String) : String :=
  s ++ "\n"

/-- Notes as lines; details are only for those who ask. -/
def noteLines (isVerbose : Bool) (notes : List Note) : String :=
  String.join ((notes.filter fun n => isVerbose || n.isWarning).map fun n => line n.line)

def print (e : Ending) (s : String) : Ending :=
  { e with out := e.out ++ Text.encodeUtf8 s }

def report (e : Ending) (s : String) : Ending :=
  { e with err := e.err ++ s }

def exit (e : Ending) (code : Nat) : Ending :=
  { e with exitCode := code }

def fail (e : Ending) (f : Failure) : Ending :=
  { e with exitCode := 1, failure := some f }

/-- Settings that cannot be used are reported, as far as the fault is one of the settings. -/
def ofConfigError (w : World) (e : ConfigError) : Ending :=
  if e.isReported then (({ files := w } : Ending).report (line ("Error: " ++ e.message))).exit 1
  else ({ files := w } : Ending).fail (.config e)

/-- A command line without a command to carry out. -/
def ofStop (w : World) : Stop → Ending
  | .usage e => (({ files := w } : Ending).report e.message).exit 2
  | .help v true => ({ files := w } : Ending).print (helpText v)
  | .help v false => (({ files := w } : Ending).report (helpText v)).exit 2

end Ending

/-- The settings with those of the command line on top. -/
def Settings.load (w : World) (s : Settings) : Except ConfigError Config :=
  (Config.load w s.file).map fun c => c.override s.overrides

end ContentBinding.Command
