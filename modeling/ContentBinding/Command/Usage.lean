import ContentBinding.Command.Grammar
import ContentBinding.Text.Quoted

/-! What the program says about its command line, and about mistakes in one. -/

namespace ContentBinding.Command

def programName : String := "cli"

def pageName : String := "PAGE_FILE"

namespace ValueProblem

def message : ValueProblem → String
  | missing noun w => noun ++ " " ++ Text.quoted w ++ " does not exist."
  | isFile noun w => noun ++ " " ++ Text.quoted w ++ " is a file."
  | isDirectory noun w => noun ++ " " ++ Text.quoted w ++ " is a directory."
  | unreadable noun w => noun ++ " " ++ Text.quoted w ++ " is not readable."
  | notInteger w => Text.quoted w ++ " is not a valid integer."

end ValueProblem

namespace Problem

/-- Names that may have been meant. -/
def suggestion : List String → String
  | [] => ""
  | [s] => " Did you mean " ++ Text.quoted s ++ "?"
  | ss => " (Did you mean one of: " ++ ", ".intercalate (ss.map Text.quoted) ++ "?)"

def message : Problem → String
  | noSuchOption name similar => "No such option " ++ Text.quoted name ++ "." ++ suggestion similar
  | noSuchCommand name similar => "No such command " ++ Text.quoted name ++ "." ++ suggestion similar
  | missingCommand => "Missing command."
  | needsValue name => "Option " ++ Text.quoted name ++ " requires an argument."
  | takesNoValue name => "Option " ++ Text.quoted name ++ " does not take a value."
  | missingPage => "Missing argument '" ++ pageName ++ "'."
  | extraWords ws =>
    "Got unexpected extra argument" ++ (if ws.length = 1 then "" else "s") ++
      " (" ++ " ".intercalate ws ++ ")"
  | value hint p => "Invalid value for " ++ hint ++ ": " ++ p.message

end Problem

/-- A mistake in the use of the program, or of one of its commands. -/
structure UsageError where
  verb : Option Verb
  problem : Problem
  deriving Repr, DecidableEq

/-- The program or command, as it is called. -/
def callOf : Option Verb → String
  | none => programName
  | some v => programName ++ " " ++ v.name

/-- How the program or a command is used. -/
def usageLine : Option Verb → String
  | none => "Usage: " ++ programName ++ " [OPTIONS] COMMAND [ARGS]...\n"
  | some v =>
    "Usage: " ++ callOf (some v) ++ " [OPTIONS]" ++ (if v.takesPage then " " ++ pageName else "") ++ "\n"

def UsageError.message (e : UsageError) : String :=
  usageLine e.verb ++ "Try '" ++ callOf e.verb ++ " --help' for help.\n\nError: " ++
    e.problem.message ++ "\n"

/-- What a command does, in a line. -/
def Verb.summary : Verb → String
  | .serve => "Start the site server."
  | .render => "Render " ++ pageName ++ " with its content document injected."
  | .check => "Report how the bindings in " ++ pageName ++ " resolve against its content."

/-- The help on a command, or on the program with all of its commands. -/
def helpText : Option Verb → String
  | some v =>
    usageLine (some v) ++ "\n  " ++ v.summary ++ "\n\nOptions:\n" ++
      String.join (v.flags.map fun f => "  " ++ ", ".intercalate f.names ++ "\n")
  | none =>
    usageLine none ++ "\nCommands:\n" ++
      String.join (Verb.all.map fun v => "  " ++ v.name ++ "  " ++ v.summary ++ "\n")

end ContentBinding.Command
