/-! Which content document belongs to a page: a table from file names to content identifiers, and
a default for every other page. -/

namespace ContentBinding

structure Routes where
  pages : List (String × String)
  default : String
  deriving Repr, DecidableEq

namespace Routes

def defaultPage : String := "home"

def defaultPages : List (String × String) :=
  [("index.html", "home"), ("kitchen.html", "kitchen"),
    ("master-bedroom.html", "master-bedroom"), ("closet.html", "closet"),
    ("kids-bedroom.html", "kids")]

def standard : Routes :=
  ⟨defaultPages, defaultPage⟩

/-- Up to the first character of that kind. -/
def cut (c : Char) (cs : List Char) : List Char :=
  cs.takeWhile (· != c)

/-- After the last slash. -/
def afterLastSlash (cs : List Char) : List Char :=
  (cs.reverse.takeWhile (· != '/')).reverse

/-- The file name that a location ends in, without query and fragment. -/
def fileName (location : String) : String :=
  String.ofList (afterLastSlash (cut '#' (cut '?' location.toList)))

def indexName : String := "index.html"

def lookup (r : Routes) (name : String) : String :=
  (r.pages.lookup name).getD r.default

/-- The content identifier of the page at a location; a directory stands for its index. -/
def pageFor (r : Routes) (location : String) : String :=
  let name := fileName location
  r.lookup (if name.isEmpty then indexName else name)

def insertPage (name page : String) : List (String × String) → List (String × String)
  | [] => [(name, page)]
  | (n, p) :: rest => if n = name then (n, page) :: rest else (n, p) :: insertPage name page rest

/-- The old pages with more of them; of equal names the new one counts. -/
def insertPages (pages old : List (String × String)) : List (String × String) :=
  pages.foldl (fun ps (n, p) => insertPage n p ps) old

/-- The table with more pages. -/
def withPages (r : Routes) (pages : List (String × String)) : Routes :=
  { r with pages := insertPages pages r.pages }

/-! Tables whose pages are kept in dictionaries -/

/-- Dictionaries that are changed where they are; each is known by its place. -/
abbrev Dictionaries := Array (List (String × String))

/-- A table by the place of its pages. -/
structure Placed where
  place : Nat
  default : String
  deriving Repr, DecidableEq

namespace Placed

/-- What the table says, as its dictionary is now. -/
def now (t : Placed) (ds : Dictionaries) : Routes :=
  ⟨ds.getD t.place [], t.default⟩

/-- The dictionary of the table is copied, and the copy is changed. -/
def withPages (t : Placed) (ds : Dictionaries) (pages : List (String × String)) :
    Placed × Dictionaries :=
  let copied := ds.push (ds.getD t.place [])
  ({ t with place := ds.size }, copied.modify ds.size (insertPages pages))

/-- A table and those after it, each with the pages of one more map. -/
def withAll (t : Placed) (ds : Dictionaries) : List (List (String × String)) →
    List Placed × Dictionaries
  | [] => ([t], ds)
  | pages :: rest =>
    let (next, ds) := t.withPages ds pages
    let (later, ds) := next.withAll ds rest
    (t :: later, ds)

end Placed

end Routes
end ContentBinding
