import ContentBinding.Files.World
import ContentBinding.LiveReload.Pattern

/-! Which changed files browsers are told of: files below a watched directory whose path there fits
a pattern. Directories inside other watched directories are not watched a second time. -/

namespace ContentBinding.LiveReload

open Files (Path PathError World)

inductive WatchError
  | path (e : PathError)
  | emptyPattern
  deriving Repr, DecidableEq

def WatchError.message : WatchError → String
  | path e => e.message
  | emptyPattern => "empty pattern"

/-- Adds a directory unless one of them contains it. -/
def addRoot (roots : List Path) (d : Path) : List Path :=
  if roots.any d.isBelow then roots else roots ++ [d]

/-- The directories that lie in none of the others, the ones with the shortest paths first. -/
def distinctRoots (dirs : List Path) : List Path :=
  -- whatever contains a directory has a shorter path, so that it was added before
  ((dirs.eraseDups).mergeSort fun a b => a.names.length ≤ b.names.length).foldl addRoot []

/-- The directories to watch. -/
def rootsOf (w : World) (dirs : List Path) : Except PathError (List Path) :=
  (dirs.mapM w.resolve).map distinctRoots

def defaultPatterns : List String := ["*.html", "*.json"]

/-- Whether a path below a root fits one of the patterns, tried in order. -/
def fitsAny (names : List String) : List String → Except WatchError Bool
  | [] => .ok false
  | pattern :: rest =>
    match Pattern.matchPath pattern names with
    | none => .error .emptyPattern
    | some true => .ok true
    | some false => fitsAny names rest

/-- The first root that a path lies below, with the names that lead from there. -/
def belowRoot? (roots : List Path) (p : Path) : Option (List String) :=
  roots.findSome? p.below?

def urlPathOf (names : List String) : String :=
  if names.isEmpty then "/." else "/" ++ "/".intercalate names

/-- The path under which browsers know a file, for files that they are told of. -/
def urlPath (w : World) (roots : List Path) (patterns : List String) (p : Path) :
    Except WatchError (Option String) :=
  match w.resolve p with
  | .error e => .error (.path e)
  | .ok p =>
    match belowRoot? roots p with
    | none => .ok none
    | some names => (fitsAny names patterns).map fun fits => if fits then some (urlPathOf names) else none

end ContentBinding.LiveReload
