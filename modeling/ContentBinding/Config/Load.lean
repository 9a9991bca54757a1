import ContentBinding.Config.Schema

/-! Finding and reading the settings file: the one that is given, or the nearest one at or above the
current directory. Without one the settings are the standard ones. -/

namespace ContentBinding

open Files (Path PathError World)

inductive ConfigError
  | missing (path : Path)
  | path (e : PathError)
  | undecodable (m : Text.Malformed)
  | notToml (path : Path)
  | overlong (e : Text.Overlong)
  /-- The text is nested too deeply. -/
  | noRoom
  | schema (e : SchemaError)
  deriving Repr, DecidableEq

namespace ConfigError

def message : ConfigError → String
  | missing p => "Configuration file not found: " ++ p.toString
  | path e => e.message
  | undecodable m => m.message
  | notToml p => "Invalid TOML in " ++ p.toString
  | overlong e => e.message
  | noRoom => "maximum recursion depth exceeded"
  | schema e => e.message

/-- Whether the program reports the error as one of the settings. -/
def isReported : ConfigError → Bool
  | missing _ => true
  | path (.system e) => e.refusal = .notFound
  | path .embeddedNull => true
  | path (.linkLoop _) => false
  | undecodable _ => true
  | notToml _ => true
  | overlong _ => true
  | noRoom => false
  | schema (.mismatch _ _) => true
  | schema .graceTooLarge => false

end ConfigError

namespace Config

def fileName : String := "pagebind.toml"

/-- Settings in the text of a file. -/
def ofText (p : Path) (text : String) : Except ConfigError Config :=
  match Toml.parse text with
  | .error .malformed => .error (.notToml p)
  | .error (.overlong e) => .error (.overlong e)
  | .ok t =>
    match ofTable p.parent t with
    | .ok c => .ok { c with origin := some p }
    | .error e => .error (.schema e)

def readFile (w : World) (p : Path) : Except ConfigError Config :=
  match w.read p with
  | .error e => .error (.path e)
  | .ok bs =>
    match Text.decodeUtf8 false 0 bs with
    | .error m => .error (.undecodable m)
    | .ok cs =>
      if w.admits (String.ofList cs) then ofText p (String.ofList cs) else .error .noRoom

/-- Where a settings file would be in a directory, whose names are given from the innermost on. -/
def candidateIn (names : List String) : Path :=
  (Path.absolute names.reverse).child fileName

/-- The settings file of the innermost directory that has one. -/
def discoverFrom (w : World) : List String → Except PathError (Option Path)
  | [] => (w.pathExists (candidateIn [])).map fun found => if found then some (candidateIn []) else none
  | name :: outer =>
    match w.pathExists (candidateIn (name :: outer)) with
    -- what cannot be looked at ends the search
    | .error e => .error e
    | .ok true => .ok (some (candidateIn (name :: outer)))
    | .ok false => discoverFrom w outer

def discover (w : World) : Except PathError (Option Path) :=
  discoverFrom w w.current.reverse

/-- The settings of the file that is given, or of the one that is found. -/
def load (w : World) (given : Option Path) : Except ConfigError Config :=
  match given with
  | some p =>
    match w.pathExists p with
    | .error e => .error (.path e)
    | .ok false => .error (.missing p)
    | .ok true => readFile w p
  | none =>
    match discover w with
    | .error e => .error (.path e)
    | .ok none => .ok standard
    | .ok (some p) => readFile w p

end Config
end ContentBinding
