import ContentBinding.Number.Double

/-! Settings files: TOML values. A table keeps its entries in the order of the text. -/

namespace ContentBinding.Toml

inductive Value
  | str (s : String)
  | int (n : Int)
  | float (d : Number.Double)
  | bool (b : Bool)
  /-- A date, a time of day, or both, as written. -/
  | moment (text : String)
  | array (items : List Value)
  | table (entries : List (String × Value))

abbrev Table := List (String × Value)

abbrev Key := List String

namespace Value

/-- Tables and arrays, which are closed to later entries when they are written inside a line. -/
def isContainer : Value → Bool
  | array _ => true
  | table _ => true
  | _ => false

end Value

namespace Table

def set (name : String) (v : Value) : Table → Table
  | [] => [(name, v)]
  | (n, w) :: rest => if n = name then (n, v) :: rest else (n, w) :: set name v rest

/-- The last table of an array of tables, and those before it. -/
def lastTable? (items : List Value) : Option (List Value × Table) :=
  match items.getLast? with
  | some (.table t) => some (items.dropLast, t)
  | _ => none

/-- Changes the table at a key. Missing tables are made on the way; with `throughArrays` an array of
tables stands for its last table. -/
def update (throughArrays : Bool) (change : Table → Option Table) : Key → Table → Option Table
  | [], t => change t
  | name :: rest, t =>
    match t.lookup name with
    | none => (update throughArrays change rest []).map fun u => t.set name (.table u)
    | some (.table u) => (update throughArrays change rest u).map fun u => t.set name (.table u)
    | some (.array items) =>
      if throughArrays then
        match lastTable? items with
        | some (before, u) =>
          (update throughArrays change rest u).map fun u => t.set name (.array (before ++ [.table u]))
        | none => none
      else none
    | some _ => none

/-- Adds an entry with a new name. -/
def add (name : String) (v : Value) (t : Table) : Option Table :=
  if (t.lookup name).isSome then none else some (t.set name v)

/-- Adds an empty table to the array of tables of that name. -/
def addItem (name : String) (t : Table) : Option Table :=
  match t.lookup name with
  | none => some (t.set name (.array [.table []]))
  | some (.array items) => some (t.set name (.array (items ++ [.table []])))
  | some _ => none

end Table
end ContentBinding.Toml
