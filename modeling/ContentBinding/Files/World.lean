import ContentBinding.Files.Path
import ContentBinding.Text.Bytes
import ContentBinding.Text.Quoted

/-! A file system as a process meets it: directories, files and symbolic links under names from the
root, a current directory, and rights that the process is denied. The root is always a directory. -/

namespace ContentBinding.Files

inductive Entry
  | file (content : Text.Bytes)
  | directory
  | link (target : String)
  deriving Repr, DecidableEq

/-- What may be done with a place: going through a directory, reading, and writing. -/
inductive Right
  | search | read | write
  deriving Repr, DecidableEq

structure World where
  entries : List (List String × Entry) := []
  current : List String := []
  denied : List (List String × Right) := []
  /-- How many calls inside each other are left to the reader of a document. -/
  room : Nat := 900
  /-- Whether the calls that are left suffice to read a settings text. -/
  admits : String → Bool := fun _ => true

/-- What the system refuses. -/
inductive Refusal
  | notFound | denied | exists | notDirectory | isDirectory | nameTooLong | tooManyLinks
  deriving Repr, DecidableEq

/-- A refusal, with the path that was asked for. -/
structure SystemError where
  refusal : Refusal
  path : String
  deriving Repr, DecidableEq

def Refusal.number : Refusal → Nat
  | notFound => 2
  | denied => 13
  | .exists => 17
  | notDirectory => 20
  | isDirectory => 21
  | nameTooLong => 36
  | tooManyLinks => 40

def Refusal.text : Refusal → String
  | notFound => "No such file or directory"
  | denied => "Permission denied"
  | .exists => "File exists"
  | notDirectory => "Not a directory"
  | isDirectory => "Is a directory"
  | nameTooLong => "File name too long"
  | tooManyLinks => "Too many levels of symbolic links"

/-- Refusals that tell of a place that it is not there. -/
def Refusal.isAbsence : Refusal → Bool
  | notFound | notDirectory | tooManyLinks => true
  | _ => false

def SystemError.message (e : SystemError) : String :=
  "[Errno " ++ toString e.refusal.number ++ "] " ++ e.refusal.text ++ ": " ++ Text.quoted e.path

/-- Why a path cannot be used. -/
inductive PathError
  | system (e : SystemError)
  | embeddedNull
  | linkLoop (path : String)
  deriving Repr, DecidableEq

def PathError.message : PathError → String
  | system e => e.message
  | embeddedNull => "embedded null byte"
  | linkLoop path => "Symlink loop from " ++ Text.quoted path

namespace World

def entry? (w : World) (at_ : List String) : Option Entry :=
  match at_ with
  | [] => some .directory
  | _ => w.entries.lookup at_

def denies (w : World) (r : Right) (at_ : List String) : Bool :=
  w.denied.contains (at_, r)

/-- The names from the root that a path stands for, before links are followed. -/
def absoluteNames (w : World) (p : Path) : List String :=
  if p.isAbsolute then p.names else w.current ++ p.names

/-- Whether a path holds a character that no path may hold. -/
def hasNull (p : Path) : Bool :=
  p.names.any fun n => n.toList.contains '\x00'

def maxNameBytes : Nat := 255

def maxPathBytes : Nat := 4095

def maxLinks : Nat := 40

/-! Following a path as the system does -/

/-- Where one pass over the names ends. -/
inductive Arrival
  | at (names : List String) (entry : Entry)
  | link (directory : List String) (target : String) (rest : List String)
  | refused (r : Refusal)

/-- Goes down along names until a link that is to be followed. A last link is followed on demand. -/
def descend (w : World) (followLast : Bool) : List String → List String → Arrival
  | dir, [] => .at dir ((w.entry? dir).getD .directory)
  | dir, name :: rest =>
    if w.denies .search dir then .refused .denied
    -- links before it have been followed, so that this is the parent of the place itself
    else if name = ".." then w.descend followLast dir.dropLast rest
    else if maxNameBytes < name.utf8ByteSize then .refused .nameTooLong
    else
      match w.entry? (dir ++ [name]) with
      | none => .refused .notFound
      | some .directory => w.descend followLast (dir ++ [name]) rest
      | some (.file content) =>
        if rest.isEmpty then .at (dir ++ [name]) (.file content) else .refused .notDirectory
      | some (.link target) =>
        if rest.isEmpty && !followLast then .at (dir ++ [name]) (.link target)
        else .link dir target rest

/-- Follows names and at most so many links. -/
def follow (w : World) (followLast : Bool) : Nat → List String → List String →
    Except Refusal (List String × Entry)
  | links, dir, names =>
    match w.descend followLast dir names with
    | .at found e => .ok (found, e)
    | .refused r => .error r
    | .link dir target rest =>
      match links with
      | 0 => .error .tooManyLinks
      | links + 1 =>
        let t := Path.ofString target
        w.follow followLast links (if t.isAbsolute then [] else dir) (t.names ++ rest)

def isOverlong (p : Path) : Bool :=
  maxPathBytes < p.toString.utf8ByteSize

/-- Where a path leads, and what is there. A last link is followed on demand. -/
def reach (w : World) (followLast : Bool) (p : Path) : Except Refusal (List String × Entry) :=
  if isOverlong p then .error .nameTooLong
  else w.follow followLast maxLinks (if p.isAbsolute then [] else w.current) p.names

def locate (w : World) (p : Path) : Except Refusal (List String × Entry) :=
  w.reach true p

/-- What is at a path: none when nothing is, or when a name on the way is no directory. -/
def stat (w : World) (p : Path) : Except PathError (Option Entry) :=
  if hasNull p then .ok none
  else
    match w.locate p with
    | .ok (_, e) => .ok (some e)
    | .error r => if r.isAbsence then .ok none else .error (.system ⟨r, p.toString⟩)

def pathExists (w : World) (p : Path) : Except PathError Bool :=
  (w.stat p).map Option.isSome

def isDirectory (w : World) (p : Path) : Except PathError Bool :=
  (w.stat p).map fun e => e matches some .directory

def isFile (w : World) (p : Path) : Except PathError Bool :=
  (w.stat p).map fun e => e matches some (.file _)

/-- The content of a file. -/
def read (w : World) (p : Path) : Except PathError Text.Bytes :=
  if hasNull p then .error .embeddedNull
  else
    match w.locate p with
    | .error r => .error (.system ⟨r, p.toString⟩)
    | .ok (place, e) =>
      if w.denies .read place then .error (.system ⟨.denied, p.toString⟩)
      else
        match e with
        | .file content => .ok content
        | _ => .error (.system ⟨.isDirectory, p.toString⟩)

/-! Resolving a path: every link on the way that can be seen is replaced by what it leads to, and
names that lead nowhere are kept. -/

/-- A path, and whether it was reached without meeting a link that leads back to itself. -/
structure Resolved where
  path : Path
  complete : Bool
  deriving Repr, DecidableEq

/-- The link at a path, as far as it can be seen. -/
def linkAt? (w : World) (p : Path) : Option String :=
  match w.reach false p with
  | .ok (_, .link target) => some target
  | _ => none

/-- Goes on by one name. After a loop the names are only added. -/
def resolveName (w : World) (resolveTarget : List Path → Path → Path → Resolved)
    (opened : List Path) (r : Resolved) (name : String) : Resolved :=
  if !r.complete then { r with path := r.path.child name }
  else if name = ".." then { r with path := r.path.back }
  else
    match w.linkAt? (r.path.child name) with
    | some target =>
      -- the link is met again while it is being followed
      if opened.contains (r.path.child name) then ⟨r.path.child name, false⟩
      else resolveTarget (r.path.child name :: opened) r.path (Path.ofString target)
    | none => ⟨r.path.child name, true⟩

/-- Resolves a path from a directory; `opened` are the links that are being followed. No more links
can be open than there are. -/
def resolveFrom (w : World) : Nat → List Path → Path → Path → Resolved
  | 0, _, dir, p => ⟨dir.join p, false⟩
  | n + 1, opened, dir, p =>
    p.names.foldl (w.resolveName (w.resolveFrom n) opened)
      ⟨if p.isAbsolute then .absolute [] else dir, true⟩

/-- Removes double points together with the names before them. -/
def collapse (names : List String) : List String :=
  names.foldl (fun out n => if n = ".." then out.dropLast else out ++ [n]) []

/-- The path from the root that a path stands for, without links. -/
def resolve (w : World) (p : Path) : Except PathError Path :=
  if hasNull p then .error .embeddedNull
  else
    let r := w.resolveFrom (w.entries.length + 1) [] .here p
    let names := collapse (w.absoluteNames r.path)
    -- names that lead nowhere are kept, but a loop that the system meets is an error
    match w.locate (.absolute names) with
    | .error .tooManyLinks => .error (.linkLoop (Path.absolute names).toString)
    | _ => .ok (.absolute names)

/-! Changing files -/

def put (w : World) (at_ : List String) (e : Entry) : World :=
  { w with entries := (at_, e) :: w.entries.filter (·.1 != at_) }

def remove (w : World) (at_ : List String) : World :=
  { w with entries := w.entries.filter (·.1 != at_) }

/-- The directories above a place, the outermost first. -/
def ancestors : List String → List (List String)
  | [] => []
  | [_] => []
  | n :: rest => [n] :: (ancestors rest).map (n :: ·)

/-- Puts an entry at a place and directories where the way to it is missing. -/
def place (w : World) (at_ : List String) (e : Entry) : World :=
  let missing := (ancestors at_).filter fun a => (w.entry? a).isNone
  (missing.foldl (fun w a => w.put a .directory) w).put at_ e

/-- Where a new entry of that path is to be put. -/
def placeFor (w : World) (p : Path) : Except Refusal (List String) :=
  match w.locate p.parent, p.names.getLast? with
  | .error r, _ => .error r
  | .ok (_, .file _), _ => .error .notDirectory
  | .ok (_, .link _), _ => .error .notDirectory
  | .ok (dir, .directory), some name =>
    if w.denies .search dir then .error .denied
    else if maxNameBytes < name.utf8ByteSize then .error .nameTooLong
    else .ok (dir ++ [name])
  | .ok (_, .directory), none => .error .isDirectory

/-- Makes one directory. -/
def makeOne (w : World) (p : Path) : Except Refusal World :=
  match p.names.getLast? with
  | none => .error .exists
  | some ".." =>
    match w.locate p with
    | .ok _ => .error .exists
    | .error r => .error r
  | some _ =>
    match w.placeFor p with
    | .error r => .error r
    | .ok at_ =>
      if (w.entry? at_).isSome then .error .exists
      else if w.denies .write at_.dropLast then .error .denied
      else .ok (w.put at_ .directory)

/-- Makes a directory where there is none yet, with those above it. -/
def makeDirectories (w : World) : Nat → Path → Except PathError World
  | 0, p => .error (.system ⟨.notFound, p.toString⟩)
  | n + 1, p =>
    let settle (w : World) (r : Except Refusal World) : Except PathError World :=
      match r with
      | .ok w => .ok w
      | .error r =>
        -- a directory that is there already counts as made
        if w.isDirectory p matches .ok true then .ok w
        else .error (.system ⟨r, p.toString⟩)
    match w.makeOne p with
    | .error .notFound =>
      if p.names.isEmpty then .error (.system ⟨.notFound, p.toString⟩)
      else
        match w.makeDirectories n p.parent with
        | .error e => .error e
        | .ok w => settle w (w.makeOne p)
    | r => settle w r

/-- Follows a last link that leads to nothing to the place that it names. -/
def writePlace (w : World) : Nat → Path → Except Refusal (List String)
  | 0, _ => .error .tooManyLinks
  | n + 1, p =>
    match w.placeFor p with
    | .error r => .error r
    | .ok at_ =>
      match w.entry? at_ with
      | some (.link target) =>
        let t := Path.ofString target
        w.writePlace n (if t.isAbsolute then t else .absolute (at_.dropLast ++ t.names))
      | _ => if w.denies .write at_.dropLast then .error .denied else .ok at_

/-- Writes a file; a file that is there is replaced. -/
def write (w : World) (p : Path) (content : Text.Bytes) : Except PathError World :=
  if hasNull p then .error .embeddedNull
  else
    match w.locate p with
    | .ok (at_, .file _) =>
      if w.denies .write at_ then .error (.system ⟨.denied, p.toString⟩)
      else .ok (w.put at_ (.file content))
    | .ok _ => .error (.system ⟨.isDirectory, p.toString⟩)
    | .error .notFound =>
      match w.writePlace maxLinks p with
      | .ok at_ => .ok (w.put at_ (.file content))
      | .error r => .error (.system ⟨r, p.toString⟩)
    | .error r => .error (.system ⟨r, p.toString⟩)

end World
end ContentBinding.Files
