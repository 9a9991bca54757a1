import ContentBinding.Command.Run

/-! The program. The files that a command line concerns are read, the command is carried out on them,
and what it comes to is printed and written. No connection is ever made: documents on the web count
as unreachable, and a server is announced but not run. -/

namespace ContentBinding.Command

open Files (Entry Path World)

/-- What is at a path. -/
def probe (p : Path) : IO (Option Entry) := do
  try
    let data ← IO.FS.readBinFile p.toString
    return some (.file data.toList)
  catch
    | .inappropriateType .. => return some .directory
    | _ => return none

/-- Adds what is at a path to the files that are known. -/
def learn (w : World) (p : Path) : IO World := do
  let names := World.collapse (w.absoluteNames p)
  match ← probe (.absolute names) with
  | some e => return w.place names e
  | none => return w

/-- The paths that a word may name: itself, what follows an equals sign, what follows an option. -/
def pathsIn (word : String) : List Path :=
  let cs := word.toList
  [cs, (cs.dropWhile (· != '=')).drop 1, cs.drop 2].filterMap fun cs =>
    if cs.isEmpty then none else some (Path.ofString (String.ofList cs))

/-- Where the settings may be. -/
def candidates (w : World) : List Path :=
  (List.range (w.current.length + 1)).map fun n => (Path.absolute (w.current.take n)).child Config.fileName

/-- The document that a page would be loaded with, if it is a file. -/
def documentFile? (w : World) (t : Task) : Option Path :=
  match t.settings.load w with
  | .error _ => none
  | .ok c =>
    match c.source with
    | .ok (.directory dir) => some (Source.documentPath dir (c.routes.pageFor t.location))
    | _ => none

/-- The document that a command asks for. -/
def documentOf? (w : World) (words : List String) : Option Path :=
  match Invocation.parse w words with
  | .ok (.render t _ _) => documentFile? w t
  | .ok (.check t _) => documentFile? w t
  | _ => none

def unreachable : Reply :=
  .failed ⟨"ConnectError", "All connection attempts failed"⟩

/-- Writes the files that have changed. -/
def store (old new : World) : IO Unit :=
  new.entries.forM fun (names, e) => do
    match e with
    | .file content =>
      if old.entry? names != some e then
        IO.FS.createDirAll (Path.absolute names).parent.toString
        IO.FS.writeBinFile (Path.absolute names).toString (ByteArray.mk content.toArray)
    | _ => return

end ContentBinding.Command

open ContentBinding

def main (words : List String) : IO UInt32 := do
  let current := (Files.Path.ofString (toString (← IO.currentDir))).names
  let w := { ({} : Files.World).place current .directory with current := current }
  let w ← (words.flatMap Command.pathsIn ++ Command.candidates w).foldlM Command.learn w
  let w ← (Command.documentOf? w words).toList.foldlM Command.learn w
  let e := Command.run ⟨w, fun _ => Command.unreachable, .ofInt 0⟩ words
  (← IO.getStdout).write (ByteArray.mk e.out.toArray)
  (← IO.getStderr).putStr e.err
  if let some f := e.failure then
    (← IO.getStderr).putStrLn f.message
  Command.store w e.files
  return UInt32.ofNat e.exitCode
