import ContentBinding.Text.Similar

/-! The command line: which commands there are, which options they take, and how the words after a
command are taken apart. -/

namespace ContentBinding.Command

inductive Verb
  | check | render | serve
  deriving Repr, DecidableEq

namespace Verb

def all : List Verb := [check, render, serve]

def name : Verb → String
  | check => "check"
  | render => "render"
  | serve => "serve"

def ofString? (s : String) : Option Verb :=
  all.find? fun v => v.name = s

/-- Whether a page has to be named. -/
def takesPage : Verb → Bool
  | serve => false
  | _ => true

end Verb

/-- What a command can be told. -/
inductive Parameter
  | page | config | siteDir | contentDir | host | port | contentUrl | location | output
  | verbose | strict | reload | help
  deriving Repr, DecidableEq

/-- What is told: a word, or that something is on or off. -/
inductive Given
  | word (s : String)
  | mark (isOn : Bool)
  deriving Repr, DecidableEq

/-- A way to tell a parameter: a fixed mark, or the word that follows. -/
structure Flag where
  parameter : Parameter
  names : List String
  mark : Option Bool := none
  deriving Repr, DecidableEq

namespace Flag

def config : Flag := { parameter := .config, names := ["--config", "-c"] }

def siteDir : Flag := { parameter := .siteDir, names := ["--site-dir", "-s"] }

def contentDir : Flag := { parameter := .contentDir, names := ["--content-dir"] }

def host : Flag := { parameter := .host, names := ["--host"] }

def port : Flag := { parameter := .port, names := ["--port", "-p"] }

def contentUrl : Flag := { parameter := .contentUrl, names := ["--content-url"] }

def location : Flag := { parameter := .location, names := ["--location", "-l"] }

def output : Flag := { parameter := .output, names := ["--output", "-o"] }

def verbose : Flag := { parameter := .verbose, names := ["--verbose", "-v"], mark := some true }

def strict : Flag := { parameter := .strict, names := ["--strict"], mark := some true }

def reload : Flag := { parameter := .reload, names := ["--live-reload"], mark := some true }

def noReload : Flag := { parameter := .reload, names := ["--no-live-reload"], mark := some false }

def help : Flag := { parameter := .help, names := ["--help"], mark := some true }

end Flag

/-- The options of a command. -/
def Verb.flags : Verb → List Flag
  | .serve =>
    [.config, .siteDir, .host, .port, .contentUrl, .verbose, .reload, .noReload, .help]
  | .render =>
    [.config, .contentDir, .contentUrl, .location, .output, .verbose, .help]
  | .check =>
    [.config, .contentDir, .contentUrl, .location, .strict, .help]

/-- What is wrong with a value. -/
inductive ValueProblem
  | missing (noun word : String)
  | isFile (noun word : String)
  | isDirectory (noun word : String)
  | unreadable (noun word : String)
  | notInteger (word : String)
  deriving Repr, DecidableEq

/-- What is wrong with a command line. -/
inductive Problem
  | noSuchOption (name : String) (similar : List String)
  | noSuchCommand (name : String) (similar : List String)
  | missingCommand
  | needsValue (name : String)
  | takesNoValue (name : String)
  | missingPage
  | extraWords (words : List String)
  | value (hint : String) (p : ValueProblem)
  deriving Repr, DecidableEq

/-- The words of a command line, taken apart. -/
structure Words where
  given : List (Parameter × Given) := []
  rest : List String := []
  deriving Repr, DecidableEq

namespace Words

def give (p : Parameter) (g : Given) (ws : Words) : Words :=
  { ws with given := (p, g) :: ws.given }

def giveAll (gs : List (Parameter × Given)) (ws : Words) : Words :=
  { ws with given := gs ++ ws.given }

def keep (w : String) (ws : Words) : Words :=
  { ws with rest := w :: ws.rest }

end Words

/-- A word that begins with a hyphen and does not end there. -/
def isOption (w : String) : Bool :=
  w.toList.head? = some '-' && 1 < w.length

/-- A name of two hyphens and more. -/
def isLong (w : String) : Bool :=
  w.toList.take 2 = ['-', '-']

/-- An option that waits for its word. -/
abbrev Awaiting := Option (Parameter × String)

/-- What a word of options tells, and whether it waits for the next one. -/
structure Told where
  given : List (Parameter × Given) := []
  awaiting : Awaiting := none

def named? (flags : List Flag) (name : String) : Option Flag :=
  flags.find? fun f => f.names.contains name

/-- A long option, which may hold its value behind an equals sign. -/
def readLong (flags : List Flag) (w : String) : Except Problem Told :=
  let name := String.ofList (w.toList.takeWhile (· != '='))
  let value := w.toList.dropWhile (· != '=')
  match named? flags name with
  | none =>
    .error (.noSuchOption name (Text.similar name (flags.flatMap fun f => f.names.filter isLong)))
  | some f =>
    match f.mark, value with
    | none, _ :: v => .ok { given := [(f.parameter, .word (String.ofList v))] }
    | none, [] => .ok { awaiting := some (f.parameter, name) }
    | some _, _ :: _ => .error (.takesNoValue name)
    | some b, [] => .ok { given := [(f.parameter, .mark b)] }

/-- Short options behind one hyphen; what follows one that takes a word is its word. -/
def readShort (flags : List Flag) : List Char → Except Problem Told
  | [] => .ok {}
  | c :: rest =>
    let name := String.ofList ['-', c]
    match named? flags name with
    | none => .error (.noSuchOption name [])
    | some f =>
      match f.mark with
      | some b =>
        (readShort flags rest).map fun t => { t with given := (f.parameter, .mark b) :: t.given }
      | none =>
        if rest.isEmpty then .ok { awaiting := some (f.parameter, name) }
        else .ok { given := [(f.parameter, .word (String.ofList rest))] }

def readOption (flags : List Flag) (w : String) : Except Problem Told :=
  if isLong w then readLong flags w else readShort flags (w.toList.drop 1)

/-- Takes words apart. After two hyphens alone no word is an option. -/
def splitFrom (flags : List Flag) : Awaiting → List String → Except Problem Words
  | none, [] => .ok {}
  | some (_, name), [] => .error (.needsValue name)
  -- the word of an option may look like an option itself
  | some (p, _), w :: rest => (splitFrom flags none rest).map (Words.give p (.word w))
  | none, w :: rest =>
    if w = "--" then .ok { rest := rest }
    else if isOption w then
      match readOption flags w with
      | .error e => .error e
      | .ok t => (splitFrom flags t.awaiting rest).map (Words.giveAll t.given)
    else (splitFrom flags none rest).map (Words.keep w)

def split (flags : List Flag) (words : List String) : Except Problem Words :=
  splitFrom flags none words

/-- Takes options apart up to the first other word. -/
def splitLeading (flags : List Flag) : List String → Except Problem Words
  | [] => .ok {}
  | w :: rest =>
    if w = "--" then .ok { rest := rest }
    else if isOption w then
      match readOption flags w with
      | .error e => .error e
      | .ok t => (splitLeading flags rest).map (Words.giveAll t.given)
    else .ok { rest := w :: rest }

end ContentBinding.Command
