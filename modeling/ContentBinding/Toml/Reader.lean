import ContentBinding.Toml.Scalar

/-! Reading settings files. Tables that a heading has named, and tables and arrays written inside a
line, cannot be opened a second time. -/

namespace ContentBinding.Toml

namespace Reader

open Scalar (after? isBlank isBlankOrLine isForbidden)

def skipBlanks (cs : List Char) : List Char :=
  cs.dropWhile isBlank

/-- A comment up to the end of its line. -/
def skipComment (cs : List Char) : Option (List Char) :=
  match cs with
  | '#' :: rest =>
    if (rest.takeWhile (· != '\n')).any (isForbidden false) then none
    else some (rest.dropWhile (· != '\n'))
  | _ => some cs

/-- Blanks, lines and comments; `fuel` bounds the number of comments. -/
def skipSpace : Nat → List Char → Option (List Char)
  | 0, cs => some cs
  | fuel + 1, cs =>
    match cs.dropWhile isBlankOrLine with
    | '#' :: rest =>
      match skipComment ('#' :: rest) with
      | some rest => skipSpace fuel rest
      | none => none
    | rest => some rest

/-! Keys -/

def isKeyChar (c : Char) : Bool :=
  c.isAlphanum || c = '-' || c = '_'

def takeKeyPart (cs : List Char) : Taken (List Char) :=
  match cs with
  | [] => none
  | c :: _ =>
    if isKeyChar c then some (cs.takeWhile isKeyChar, cs.dropWhile isKeyChar)
    else if c = '"' then Scalar.takeOneLineBasic cs
    else Scalar.takeOneLineLiteral cs

/-- A key of parts with points between them, and the blanks after it. -/
def takeKey : Nat → List Char → Taken Key
  | 0, _ => none
  | fuel + 1, cs =>
    match takeKeyPart cs with
    | none => none
    | some (part, rest) =>
      match skipBlanks rest with
      | '.' :: rest =>
        match takeKey fuel (skipBlanks rest) with
        | some (key, rest) => some (String.ofList part :: key, rest)
        | none => none
      | rest => some ([String.ofList part], rest)

def takeWholeKey (cs : List Char) : Taken Key :=
  takeKey (cs.length + 1) cs

/-- A key with the sign after it. -/
def takeKeyAndSign (cs : List Char) : Taken Key :=
  match takeWholeKey cs with
  | some (key, '=' :: rest) => some (key, skipBlanks rest)
  | _ => none

/-! Values -/

/-- Whether a key lies at one of the keys or below. -/
def isWithin (keys : List Key) (key : Key) : Bool :=
  keys.any fun k => k.isPrefixOf key

/-- Adds an entry to a table inside a line; entries of it that are containers are `closed`. -/
def addInline (t : Table) (closed : List Key) (key : Key) (v : Value) : Option Table :=
  if isWithin closed key then none
  else
    match key.getLast? with
    | some name => Table.update false (Table.add name v) key.dropLast t
    | none => none

mutual

/-- A value; `fuel` bounds the depth and the number of values. -/
def takeValue : Nat → List Char → Reading Value
  | 0, _ => .error .malformed
  | fuel + 1, cs =>
    match cs with
    | '[' :: rest =>
      match skipSpace rest.length rest with
      | some (']' :: rest) => .ok (.array [], rest)
      | some rest => takeItems fuel [] rest
      | none => .error .malformed
    | '\x7b' :: rest =>
      match skipBlanks rest with
      | '\x7d' :: rest => .ok (.table [], rest)
      | rest => takeEntries fuel [] [] rest
    | _ => Scalar.take cs

/-- The items of an array from the next one on. -/
def takeItems : Nat → List Value → List Char → Reading Value
  | 0, _, _ => .error .malformed
  | fuel + 1, items, cs =>
    match takeValue fuel cs with
    | .error e => .error e
    | .ok (v, rest) =>
      match skipSpace rest.length rest with
      | some (']' :: rest) => .ok (.array (items ++ [v]), rest)
      | some (',' :: rest) =>
        match skipSpace rest.length rest with
        | some (']' :: rest) => .ok (.array (items ++ [v]), rest)
        | some rest => takeItems fuel (items ++ [v]) rest
        | none => .error .malformed
      | _ => .error .malformed

/-- The entries of a table inside a line from the next one on. -/
def takeEntries : Nat → Table → List Key → List Char → Reading Value
  | 0, _, _, _ => .error .malformed
  | fuel + 1, t, closed, cs =>
    match takeKeyAndSign cs with
    | none => .error .malformed
    | some (key, rest) =>
      match takeValue fuel rest with
      | .error e => .error e
      | .ok (v, rest) =>
        match addInline t closed key v with
        | none => .error .malformed
        | some t =>
          match skipBlanks rest with
          | '\x7d' :: rest => .ok (.table t, rest)
          | ',' :: rest =>
            takeEntries fuel t (if v.isContainer then key :: closed else closed) (skipBlanks rest)
          | _ => .error .malformed

end

/-! Documents -/

/-- What has been read, and which tables are closed. -/
structure State where
  table : Table := []
  header : Key := []
  /-- Tables that a heading or a key with points has named. -/
  named : List Key := []
  /-- Tables that keys with points have named since the last heading. -/
  pending : List Key := []
  /-- Containers written inside a line. -/
  closed : List Key := []

/-- The keys above a key, below the header. -/
def innerKeys (header key : Key) : List Key :=
  (List.range key.length).filterMap fun i => if i = 0 then none else some (header ++ key.take i)

def addEntry (s : State) (key : Key) (v : Value) : Option State :=
  let inner := innerKeys s.header key
  if inner.any s.named.contains || isWithin s.closed (s.header ++ key.dropLast) then none
  else
    match key.getLast? with
    | none => none
    | some name =>
      match Table.update true (Table.add name v) (s.header ++ key.dropLast) s.table with
      | none => none
      | some t =>
        some { s with
          table := t
          pending := inner ++ s.pending
          closed := if v.isContainer then (s.header ++ key) :: s.closed else s.closed }

def takeEntry (s : State) (cs : List Char) : Reading State :=
  match takeKeyAndSign cs with
  | none => .error .malformed
  | some (key, rest) =>
    match takeValue (2 * rest.length + 2) rest with
    | .error e => .error e
    | .ok (v, rest) => Taken.orMalformed ((addEntry s key v).map fun s => (s, rest))

def settle (s : State) : State :=
  { s with named := s.pending ++ s.named, pending := [] }

/-- A heading of a table. -/
def openTable (s : State) (key : Key) : Option State :=
  if s.named.contains key || isWithin s.closed key then none
  else
    (Table.update true some key s.table).map fun t =>
      { s with table := t, header := key, named := key :: s.named }

/-- A heading of an item in an array of tables; what was closed inside the item before is open. -/
def openItem (s : State) (key : Key) : Option State :=
  if isWithin s.closed key then none
  else
    match key.getLast? with
    | none => none
    | some name =>
      let outside := fun k => !key.isPrefixOf k
      (Table.update true (Table.addItem name) key.dropLast s.table).map fun t =>
        { s with
          table := t
          header := key
          named := key :: s.named.filter outside
          closed := s.closed.filter outside }

def takeHeading (s : State) (cs : List Char) : Taken State :=
  let s := settle s
  match cs with
  | '[' :: '[' :: rest =>
    match takeWholeKey (skipBlanks rest) with
    | some (key, ']' :: ']' :: rest) => (openItem s key).map fun s => (s, rest)
    | _ => none
  | '[' :: rest =>
    match takeWholeKey (skipBlanks rest) with
    | some (key, ']' :: rest) => (openTable s key).map fun s => (s, rest)
    | _ => none
  | _ => none

/-- The statement of a line, if it has one. -/
def takeStatement (s : State) (cs : List Char) : Reading State :=
  match cs with
  | [] => .ok (s, [])
  | c :: _ =>
    if c = '\n' || c = '#' then .ok (s, cs)
    else if c = '[' then (takeHeading s cs).orMalformed
    else if isKeyChar c || c = '"' || c = '\'' then takeEntry s cs
    else .error .malformed

/-- Reads line after line; `fuel` bounds their number. -/
def takeLines : Nat → State → List Char → Except Problem Table
  | 0, s, _ => .ok s.table
  | fuel + 1, s, cs =>
    match takeStatement s (skipBlanks cs) with
    | .error e => .error e
    | .ok (s, rest) =>
      match skipComment (skipBlanks rest) with
      | some [] => .ok s.table
      | some ('\n' :: rest) => takeLines fuel s rest
      | _ => .error .malformed

/-- Lines may end in a carriage return and a line feed. -/
def plainLines : List Char → List Char
  | '\r' :: '\n' :: rest => '\n' :: plainLines rest
  | c :: rest => c :: plainLines rest
  | [] => []

end Reader

def parse (text : String) : Except Problem Table :=
  let cs := Reader.plainLines text.toList
  Reader.takeLines (cs.length + 1) {} cs

/-- The table that a settings text describes. -/
def parse? (text : String) : Option Table :=
  (parse text).toOption

end ContentBinding.Toml
