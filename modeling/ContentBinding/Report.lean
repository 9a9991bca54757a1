/-! Notes that the work leaves for whoever runs it: warnings, and details for those who ask. -/

namespace ContentBinding

inductive Level
  | debug | warning
  deriving Repr, DecidableEq

def Level.name : Level → String
  | debug => "DEBUG"
  | warning => "WARNING"

structure Note where
  level : Level
  /-- The part of the program that speaks. -/
  origin : String
  text : String
  deriving Repr, DecidableEq

namespace Note

def line (n : Note) : String :=
  n.level.name ++ " " ++ n.origin ++ ": " ++ n.text

def isWarning (n : Note) : Bool :=
  n.level = .warning

end Note
end ContentBinding
