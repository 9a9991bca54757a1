import ContentBinding.Command.Usage
import ContentBinding.Config.Basic

/-! What a command line asks for: one of the commands, with values that have been checked. -/

namespace ContentBinding.Command

open Files (Path PathError World)

/-- What a path has to lead to. -/
inductive PathRule
  | anything | directory | file
  /-- A file that need not be there yet. -/
  | place
  deriving Repr, DecidableEq

def PathRule.noun : PathRule → String
  | anything => "Path"
  | directory => "Directory"
  | file | place => "File"

/-- Whether a word can only name a directory. -/
def namesDirectory (w : String) : Bool :=
  let back := w.toList.reverse
  back.head? = some '/' || back.take 2 = ['.', '/']

/-- Where a word leads and what is there, if it leads anywhere. -/
def placeOf? (w : World) (word : String) : Option (List String × Files.Entry) :=
  if word.isEmpty then none
  else
    match w.locate (Path.ofString word) with
    | .ok (place, .directory) => some (place, .directory)
    -- a slash or a point behind a file leads nowhere
    | .ok (place, e) => if namesDirectory word then none else some (place, e)
    | .error _ => none

/-- Checks a word that is to be a path. -/
def checkPath (w : World) (rule : PathRule) (word : String) : Except ValueProblem Path :=
  match placeOf? w word, rule with
  | none, .place => .ok (Path.ofString word)
  | none, _ => .error (.missing rule.noun word)
  | some (_, .file _), .directory => .error (.isFile rule.noun word)
  | some (_, .directory), .file | some (_, .directory), .place =>
    .error (.isDirectory rule.noun word)
  | some (place, _), _ =>
    if w.denies .read place then .error (.unreadable rule.noun word) else .ok (Path.ofString word)

inductive Value
  | path (p : Path)
  | text (s : String)
  | integer (n : Int)
  | mark (isOn : Bool)
  deriving Repr, DecidableEq

/-- What the paths that a parameter takes have to lead to. -/
def Parameter.rule? : Parameter → Option PathRule
  | .page => some .file
  | .config => some .anything
  | .siteDir | .contentDir => some .directory
  | .output => some .place
  | _ => none

def checkWord (w : World) (p : Parameter) (word : String) : Except ValueProblem Value :=
  match p.rule? with
  | some rule => (checkPath w rule word).map .path
  | none =>
    match p with
    | .port =>
      match Url.integer? word.toList with
      | some n => .ok (.integer n)
      | none => .error (.notInteger word)
    | _ => .ok (.text word)

def check (w : World) (p : Parameter) : Given → Except ValueProblem Value
  | .word s => checkWord w p s
  | .mark b => .ok (.mark b)

/-- The names of a parameter in messages. -/
def Verb.hint (v : Verb) (p : Parameter) : String :=
  match v.flags.find? fun f => f.parameter = p with
  | some f => " / ".intercalate (f.names.map fun n => "'" ++ n ++ "'")
  | none => "'" ++ pageName ++ "'"

/-- Parameters with their values. -/
abbrev Values := List (Parameter × Value)

namespace Values

def path? (vs : Values) (p : Parameter) : Option Path :=
  match vs.lookup p with
  | some (.path q) => some q
  | _ => none

def text? (vs : Values) (p : Parameter) : Option String :=
  match vs.lookup p with
  | some (.text s) => some s
  | _ => none

def integer? (vs : Values) (p : Parameter) : Option Int :=
  match vs.lookup p with
  | some (.integer n) => some n
  | _ => none

def mark? (vs : Values) (p : Parameter) : Option Bool :=
  match vs.lookup p with
  | some (.mark b) => some b
  | _ => none

def isOn (vs : Values) (p : Parameter) : Bool :=
  (vs.mark? p).getD false

/-- Settings that the command line gives in place of others. -/
def overrides (vs : Values) : Overrides :=
  { host := vs.text? .host
    port := vs.integer? .port
    root := vs.path? .siteDir
    content := vs.path? .contentDir
    baseUrl := vs.text? .contentUrl
    reload := vs.mark? .reload }

end Values

/-- Where the settings come from. -/
structure Settings where
  file : Option Path := none
  overrides : Overrides := {}
  deriving Repr, DecidableEq

/-- A page, and the location that it is read for. -/
structure Task where
  settings : Settings := {}
  page : Path
  location : String
  deriving Repr, DecidableEq

namespace Task

/-- The location that is given, unless it is empty; else the name of the page. -/
def locationOf (page : Path) (given : Option String) : String :=
  match given with
  | some s => if s.isEmpty then "/" ++ page.name else s
  | none => "/" ++ page.name

end Task

inductive Invocation
  | serve (settings : Settings) (isVerbose : Bool)
  | render (task : Task) (output : Option Path) (isVerbose : Bool)
  | check (task : Task) (isStrict : Bool)
  deriving Repr, DecidableEq

/-- Why there is nothing to carry out. -/
inductive Stop
  | usage (e : UsageError)
  /-- Help is wanted, or given because nothing was asked for. -/
  | help (verb : Option Verb) (isWanted : Bool)
  deriving Repr, DecidableEq

/-- Each parameter once, in the order of its first mention, with what was told last. -/
def latest (given : List (Parameter × Given)) : List (Parameter × Given) :=
  ((given.map Prod.fst).eraseDups).filterMap fun p => (given.reverse.lookup p).map fun g => (p, g)

def checkAll (w : World) (v : Verb) : List (Parameter × Given) → Except Problem Values
  | [] => .ok []
  | (p, g) :: rest =>
    match check w p g with
    | .error e => .error (.value (v.hint p) e)
    | .ok x => (checkAll w v rest).map ((p, x) :: ·)

/-- The word for the page among the words that are no options. -/
def takePage (v : Verb) (rest : List String) : List (Parameter × Given) × List String :=
  if v.takesPage then ((rest.take 1).map fun w => (.page, .word w), rest.drop 1) else ([], rest)

/-- The settings of every command. -/
def Settings.ofValues (vs : Values) : Settings :=
  ⟨vs.path? .config, vs.overrides⟩

def Invocation.ofValues (v : Verb) (vs : Values) : Except Problem Invocation :=
  let settings := Settings.ofValues vs
  match v, vs.path? .page with
  | .serve, _ => .ok (.serve settings (vs.isOn .verbose))
  | _, none => .error .missingPage
  | .render, some page =>
    .ok (.render ⟨settings, page, Task.locationOf page (vs.text? .location)⟩ (vs.path? .output)
      (vs.isOn .verbose))
  | .check, some page =>
    .ok (.check ⟨settings, page, Task.locationOf page (vs.text? .location)⟩ (vs.isOn .strict))

/-- The invocation of a command by the words behind it. Values are checked in the order in which they
are given, the page after them, and words too many come last. -/
def Invocation.ofWords (w : World) (v : Verb) (ws : Words) : Except Problem Invocation := do
  let (page, extra) := takePage v ws.rest
  let values ← checkAll w v (latest ws.given ++ page)
  let invocation ← ofValues v values
  if extra.isEmpty then return invocation else throw (.extraWords extra)

/-- Whether a word is told. -/
def Words.asksHelp (ws : Words) : Bool :=
  ws.given.any fun g => g.1 = .help

def ofVerb (w : World) (v : Verb) (words : List String) : Except Stop Invocation :=
  match split v.flags words with
  | .error p => .error (.usage ⟨some v, p⟩)
  | .ok ws =>
    if ws.asksHelp then .error (.help (some v) true)
    else
      match Invocation.ofWords w v ws with
      | .ok i => .ok i
      | .error p => .error (.usage ⟨some v, p⟩)

/-- A word that names no command; one that could be an option is read as one first. -/
def unknownVerb (name : String) (rest : List String) : Stop :=
  let unknown := Stop.usage ⟨none, .noSuchCommand name (Text.similar name (Verb.all.map Verb.name))⟩
  match splitLeading [.help] (name :: rest) with
  | .error p => .usage ⟨none, p⟩
  | .ok ws => if ws.asksHelp then .help none true else unknown

/-- What a command line asks for. -/
def Invocation.parse (w : World) (words : List String) : Except Stop Invocation :=
  if words.isEmpty then .error (.help none false)
  else
    match splitLeading [.help] words with
    | .error p => .error (.usage ⟨none, p⟩)
    | .ok ws =>
      if ws.asksHelp then .error (.help none true)
      else
        match ws.rest with
        | [] => .error (.usage ⟨none, .missingCommand⟩)
        | name :: rest =>
          match Verb.ofString? name with
          | some v => ofVerb w v rest
          | none => .error (unknownVerb name rest)

end ContentBinding.Command
