import ContentBinding.Config.Basic
import ContentBinding.Toml.Reader

/-! From a settings table to settings. Every section and every entry may be missing; entries that
are not known are left alone. -/

namespace ContentBinding

open Toml (Table Value)

/-- What an entry has to be. -/
inductive Expected
  | dictionary | string | integer | number | notNegative | filled | boolean | list | strings
  deriving Repr, DecidableEq

def Expected.text : Expected → String
  | dictionary => "be a dictionary"
  | string => "be a string"
  | integer => "be an integer"
  | number => "be a number"
  | notNegative => "not be negative"
  | filled => "be a non-empty string"
  | boolean => "be a boolean"
  | list => "be a list"
  | strings => "be strings"

inductive SchemaError
  /-- An entry is not what it has to be. -/
  | mismatch (entry : String) (expected : Expected)
  /-- A waiting time that is beyond all numbers. -/
  | graceTooLarge
  deriving Repr, DecidableEq

def SchemaError.message : SchemaError → String
  | mismatch entry expected => entry ++ " must " ++ expected.text
  | graceTooLarge => "int too large to convert to float"

namespace Schema

abbrev Checked (α : Type) := Except SchemaError α

def fail {α : Type} (entry : String) (expected : Expected) : Checked α :=
  .error (.mismatch entry expected)

/-- A section that is there has to be a table. -/
def section? (t : Table) (name : String) : Checked (Option Table) :=
  match t.lookup name with
  | none => .ok none
  | some (.table u) => .ok (some u)
  | some _ => fail (name ++ " section") .dictionary

def string (t : Table) (name entry default : String) : Checked String :=
  match t.lookup name with
  | none => .ok default
  | some (.str s) => .ok s
  | some _ => fail entry .string

def integer (t : Table) (name entry : String) (default : Int) : Checked Int :=
  match t.lookup name with
  | none => .ok default
  | some (.int n) => .ok n
  | some _ => fail entry .integer

def boolean (t : Table) (name entry : String) (default : Bool) : Checked Bool :=
  match t.lookup name with
  | none => .ok default
  | some (.bool b) => .ok b
  | some _ => fail entry .boolean

def filled (v : Value) (entry : String) : Checked String :=
  match v with
  | .str s => if s.isEmpty then fail entry .filled else .ok s
  | _ => fail entry .filled

def server (t : Table) : Checked ServerSettings := do
  let host ← string t "host" "server.host" ({} : ServerSettings).host
  let port ← integer t "port" "server.port" ({} : ServerSettings).port
  return ⟨host, port⟩

/-- The root is relative to the directory of the settings, the content to the root. -/
def site (dir : Files.Path) (t : Table) : Checked SiteSettings := do
  let root ← string t "root_dir" "site.root_dir" SiteSettings.rootName
  let content ← string t "content_dir" "site.content_dir" SiteSettings.contentName
  let root := dir.join (Files.Path.ofString root)
  return ⟨root, root.join (Files.Path.ofString content)⟩

/-- An integer as a waiting time. -/
def wholeGrace (n : Int) : Checked Number.Double :=
  if n < 0 then fail "content.grace_period" .notNegative
  else
    match Number.Double.ofInt n with
    | .finite v => .ok (.finite v)
    | _ => .error .graceTooLarge

def grace (t : Table) : Checked Number.Double :=
  match t.lookup "grace_period" with
  | none => .ok Loader.standardGrace
  | some (.int n) => wholeGrace n
  | some (.float d) =>
    -- an infinite time passes, and so does what is no number
    if d.isNegativeValue then fail "content.grace_period" .notNegative else .ok d
  | some _ => fail "content.grace_period" .number

def baseUrl (t : Table) : Checked (Option String) :=
  match t.lookup "base_url" with
  | none => .ok none
  | some (.str s) => .ok (some s)
  | some _ => fail "content.base_url" .string

def content (t : Table) : Checked ContentSettings := do
  let base ← baseUrl t
  let grace ← grace t
  return ⟨base, grace⟩

def pageEntry (e : String × Value) : Checked (String × String) :=
  (filled e.2 ("routes.pages." ++ e.1)).map fun page => (e.1, page)

def pages (t : Table) : Checked (List (String × String)) :=
  match t.lookup "pages" with
  | none => .ok []
  | some (.table u) => u.mapM pageEntry
  | some _ => fail "routes.pages" .dictionary

/-- The pages of the settings come on top of the standard ones. -/
def routes (t : Table) : Checked Routes := do
  let default ← filled ((t.lookup "default").getD (.str Routes.defaultPage)) "routes.default"
  let more ← pages t
  return ({ Routes.standard with default := default } : Routes).withPages more

def pattern (v : Value) : Checked String :=
  match v with
  | .str s => .ok s
  | _ => fail "live_reload.watch_patterns items" .strings

def patterns (t : Table) : Checked (Option (List String)) :=
  match t.lookup "watch_patterns" with
  | none => .ok none
  | some (.array items) => (items.mapM pattern).map some
  | some _ => fail "live_reload.watch_patterns" .list

def reload (t : Table) : Checked ReloadSettings := do
  let enabled ← boolean t "enabled" "live_reload.enabled" true
  let patterns ← patterns t
  return ⟨enabled, patterns⟩

/-- A part of the settings; without its section it is the default one. -/
def part {α : Type} (t : Table) (name : String) (default : α) (read : Table → Checked α) :
    Checked α := do
  match ← section? t name with
  | none => return default
  | some u => read u

end Schema

/-- The settings that a table in a directory gives. -/
def Config.ofTable (dir : Files.Path) (t : Table) : Except SchemaError Config := do
  let server ← Schema.part t "server" {} Schema.server
  let site ← Schema.part t "site" (SiteSettings.standard dir) (Schema.site dir)
  let content ← Schema.part t "content" {} Schema.content
  let routes ← Schema.part t "routes" Routes.standard Schema.routes
  let reload ← Schema.part t "live_reload" {} Schema.reload
  return { server := server, site := site, content := content, routes := routes, reload := reload }

end ContentBinding
