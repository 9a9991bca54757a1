import ContentBinding.Files.Path

/-! Patterns of file names: a star stands for any characters, a question mark for one, and brackets
for one of a set. A pattern of several names is compared with the last names of a path. -/

namespace ContentBinding.LiveReload

/-- Characters from the first to the last. -/
structure Range where
  first : Char
  last : Char
  deriving Repr, DecidableEq

inductive Piece
  | char (c : Char)
  | any
  | many
  | set (negated : Bool) (ranges : List Range)
  deriving Repr, DecidableEq

def Range.has (r : Range) (c : Char) : Bool :=
  r.first ≤ c && c ≤ r.last

namespace Piece

/-- Whether a piece that stands for one character fits it. -/
def fits (c : Char) : Piece → Bool
  | char d => c = d
  | any => true
  | many => false
  | set negated ranges => (ranges.any (·.has c)) != negated

end Piece

namespace Pattern

/-! Sets -/

/-- Cuts a set at the hyphens of its ranges. A hyphen at the front or after a range is a member, as
is one at the end; `skip` characters are passed over first. -/
def cutRanges : Nat → List Char → List Char → List (List Char)
  | _, current, [] => [current.reverse]
  | 0, current, '-' :: rest =>
    if rest.isEmpty then [('-' :: current).reverse]
    else current.reverse :: cutRanges 2 [] rest
  | 0, current, c :: rest => cutRanges 0 (c :: current) rest
  | skip + 1, current, c :: rest => cutRanges skip (c :: current) rest

/-- Joins two runs: a range between them with nothing in it takes its ends away. -/
def joinRuns (left : List Char) (right : List (List Char)) : List (List Char) :=
  match left.getLast?, right with
  | some a, (b :: more) :: rest =>
    if b < a then (left.dropLast ++ more) :: rest else left :: right
  | _, _ => left :: right

/-- Ranges with nothing in them are dropped, from the last to the first. -/
def dropEmptyRanges : List (List Char) → List (List Char)
  | [] => []
  | run :: rest =>
    match dropEmptyRanges rest with
    | [] => [run]
    | more => joinRuns run more

def single (c : Char) : Range := ⟨c, c⟩

/-- The characters of runs that are no ends of ranges between two of them. -/
def insideRuns (isFirst : Bool) : List (List Char) → List Char
  | [] => []
  | [run] => if isFirst then run else run.drop 1
  | run :: rest => (if isFirst then run else run.drop 1).dropLast ++ insideRuns false rest

/-- The range from the end of one run to the start of the next. -/
def rangeBetween (runs : List Char × List Char) : Option Range :=
  match runs.1.getLast?, runs.2.head? with
  | some a, some b => some ⟨a, b⟩
  | _, _ => none

def members (runs : List (List Char)) : List Range :=
  (insideRuns true runs).map single ++ (runs.zip (runs.drop 1)).filterMap rangeBetween

/-- A hyphen that begins a set is a member. -/
def startRuns (run : List Char) (rest : List (List Char)) : List (List Char) :=
  match run, rest with
  | [], next :: more => ('-' :: next) :: more
  | _, _ => run :: rest

/-- What stands between brackets, after the sign that negates it. The sign also counts when it comes
first because a range before it was dropped. -/
def setOf (negated : Bool) (body : List Char) : Piece :=
  match negated, dropEmptyRanges (cutRanges 1 [] body) with
  | false, ('!' :: run) :: rest => .set true (members (startRuns run rest))
  | _, runs => .set negated (members runs)

/-- The characters up to the closing bracket, which is not the first one. -/
def takeSet (cs : List Char) : Option (Piece × List Char) :=
  let (negated, inner) := match cs with
    | '!' :: rest => (true, rest)
    | _ => (false, cs)
  -- at the very front a closing bracket is a member
  let (front, rest) := match inner with
    | ']' :: rest => ([']'], rest)
    | _ => ([], inner)
  let body := front ++ rest.takeWhile (· != ']')
  match rest.dropWhile (· != ']') with
  | [] => none
  | _ :: rest => some (setOf negated body, rest)

/-- The pieces of a pattern; `fuel` bounds their number. -/
def piecesOf : Nat → List Char → List Piece
  | 0, _ => []
  | _, [] => []
  | fuel + 1, c :: rest =>
    if c = '*' then .many :: piecesOf fuel rest
    else if c = '?' then .any :: piecesOf fuel rest
    else if c = '[' then
      match takeSet rest with
      | some (p, rest) => p :: piecesOf fuel rest
      -- a bracket that is never closed stands for itself
      | none => .char '[' :: piecesOf fuel rest
    else .char c :: piecesOf fuel rest

def pieces (pattern : String) : List Piece :=
  piecesOf pattern.length pattern.toList

/-! Matching -/

/-- Whether a test holds for the text or for what is left of it after some characters. -/
def anySuffix (test : List Char → Bool) : List Char → Bool
  | [] => test []
  | c :: rest => test (c :: rest) || anySuffix test rest

def matchPieces : List Piece → List Char → Bool
  | [], cs => cs.isEmpty
  | .many :: ps, cs => anySuffix (matchPieces ps) cs
  | _ :: _, [] => false
  | p :: ps, c :: cs => p.fits c && matchPieces ps cs

/-- Whether a name fits a pattern of one name. -/
def matchName (pattern name : String) : Bool :=
  matchPieces (pieces pattern) name.toList

/-- Whether the last names of a relative path fit the names of a pattern. Nothing can be told of a
pattern without names. -/
def matchPath (pattern : String) (names : List String) : Option Bool :=
  let p := Files.Path.ofString pattern
  if p.isAbsolute then some false
  else if p.names.isEmpty then none
  else if names.length < p.names.length then some false
  -- from the last names on, as many as the pattern has
  else some ((p.names.reverse.zip names.reverse).all fun (pat, name) => matchName pat name)

end Pattern
end ContentBinding.LiveReload
