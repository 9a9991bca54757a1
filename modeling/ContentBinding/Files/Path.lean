import ContentBinding.Text.Blank

/-! File paths: names below an anchor. Repeated slashes and single points carry no meaning and are
dropped; double points are kept, because what they lead to depends on links. -/

namespace ContentBinding.Files

/-- Where a path starts. Two slashes at the front, and no more, are a start of their own. -/
inductive Anchor
  | here | root | doubleRoot
  deriving Repr, DecidableEq

structure Path where
  anchor : Anchor
  names : List String
  deriving Repr, DecidableEq

namespace Anchor

def text : Anchor → String
  | here => ""
  | root => "/"
  | doubleRoot => "//"

def ofChars : List Char → Anchor
  | '/' :: '/' :: '/' :: _ => root
  | '/' :: '/' :: _ => doubleRoot
  | '/' :: _ => root
  | _ => here

end Anchor

namespace Path

/-- The names between the slashes of a text. -/
def namesOf (cs : List Char) : List String :=
  ((Text.splitOn (· = '/') cs).map String.ofList).filter fun n => n != "" && n != "."

def ofString (s : String) : Path :=
  ⟨Anchor.ofChars s.toList, namesOf s.toList⟩

/-- The path of a list of names from the root. -/
def absolute (names : List String) : Path := ⟨.root, names⟩

def here : Path := ⟨.here, []⟩

def isAbsolute (p : Path) : Bool :=
  p.anchor != .here

protected def toString (p : Path) : String :=
  if p.anchor = .here && p.names.isEmpty then "."
  else p.anchor.text ++ "/".intercalate p.names

/-- What `q` is when it starts at `p`; a path with an anchor starts nowhere else. -/
def join (p q : Path) : Path :=
  if q.isAbsolute then q else { p with names := p.names ++ q.names }

def child (p : Path) (name : String) : Path :=
  { p with names := p.names ++ [name] }

/-- The path without its last name. -/
def parent (p : Path) : Path :=
  { p with names := p.names.dropLast }

/-- The path to the directory that holds the place of this one: without its last name, where that is
not itself a way back. -/
def back (p : Path) : Path :=
  if !p.isAbsolute && p.names.getLast?.all (· = "..") then p.child ".." else p.parent

/-- The names that lead from `base` to `p`. -/
def below? (p base : Path) : Option (List String) :=
  if p.anchor = base.anchor && base.names.isPrefixOf p.names then
    some (p.names.drop base.names.length)
  else none

def isBelow (p base : Path) : Bool :=
  (p.below? base).isSome

/-- The last name. -/
def name (p : Path) : String :=
  p.names.getLast?.getD ""

/-- A name from its last point on; a point at an end of the name begins no suffix. -/
def suffixOf (name : String) : String :=
  let back := name.toList.reverse
  let tail := back.takeWhile (· != '.')
  if tail.isEmpty || back.length ≤ tail.length + 1 then ""
  else String.ofList ('.' :: tail.reverse)

def suffix (p : Path) : String :=
  suffixOf p.name

end Path
end ContentBinding.Files
