import ContentBinding.Json.Value
import ContentBinding.Text.Blank
import ContentBinding.Text.Digits

/-! Binding paths: steps joined with points, each a key or a key with one index in brackets. Steps
are followed from left to right; none is the answer when one of them cannot be followed. -/

namespace ContentBinding.Binding

open Json (Value)

inductive Step
  | key (name : String)
  | item (name : String) (index : Nat)
  deriving Repr, DecidableEq

namespace Path

/-- Letters, digits and the underscore, all of ASCII. -/
def isWordChar (c : Char) : Bool :=
  c.isAlphanum || c = '_'

/-- The digits between brackets, when the text is nothing else. -/
def bracketDigits? (cs : List Char) : Option (List Char) :=
  match cs with
  | '[' :: rest =>
    let ds := rest.takeWhile Char.isDigit
    if ds.isEmpty then none
    else if rest.dropWhile Char.isDigit = [']'] then some ds
    else none
  | _ => none

/-- A name, and the digits of the index behind it; an index needs a name before it. -/
def indexed? (cs : List Char) : Option (List Char × List Char) :=
  let word := cs.takeWhile isWordChar
  if word.isEmpty then none
  else (bracketDigits? (cs.dropWhile isWordChar)).map fun ds => (word, ds)

/-- One step, however many digits its index has; a text with brackets of another form is a plain
key. -/
def stepOf (cs : List Char) : Step :=
  match indexed? cs with
  | some (word, ds) => .item (String.ofList word) (Text.natOf ds)
  | none => .key (String.ofList cs)

end Path

/-- The value that a step leads to. -/
def Step.follow (v : Value) : Step → Option Value
  | .key k => v.get? k
  | .item k i =>
    match v.get? k with
    | some (.arr items) => items[i]?
    | _ => none

namespace Path

/-- Follows one piece of a path; an empty piece leads nowhere. -/
def followPiece (v : Value) (piece : List Char) : Option Value :=
  if piece.isEmpty then none else (stepOf piece).follow v

def pieces (path : String) : List (List Char) :=
  Text.splitOn (· = '.') path.toList

/-- The first index with too many digits that following the pieces comes to. -/
def overlongAlong? (v : Value) : List (List Char) → Option Text.Overlong
  | [] => none
  | piece :: rest =>
    match (indexed? piece).bind fun i => Text.overlong? i.2 with
    | some e => some e
    | none => (followPiece v piece).bind fun v => overlongAlong? v rest

end Path

/-- The value at a path of a document. -/
def resolve (document : Value) (path : String) : Option Value :=
  (Path.pieces path).foldlM Path.followPiece document

/-- The index with too many digits at which resolving a path breaks off. -/
def overlong? (document : Value) (path : String) : Option Text.Overlong :=
  Path.overlongAlong? document (Path.pieces path)

/-- The value at a path that is itself a value: only strings are paths. -/
def resolveValue (document path : Value) : Option Value :=
  match path with
  | .str s => resolve document s
  | _ => none

end ContentBinding.Binding
