import Mathlib
import ContentBinding.Config.Load
import ContentBinding.Proofs.Routes.Tables
import ContentBinding.Proofs.Text.Utf8

/-! Which settings are accepted. What a table of settings has to be is a list of requirements, in the
order in which they are checked: a table that meets them all gives the settings that it holds, and of
any other table the first requirement that it does not meet is refused. -/

namespace ContentBinding

open Files (Path World)
open Number (Double)

namespace Schema

open Toml (Table Value)

def Expected.accepts : Expected → Value → Bool
  | .dictionary, .table _ => true
  | .string, .str _ => true
  | .integer, .int _ => true
  | .number, .int _ => true
  | .number, .float _ => true
  | .notNegative, .int n => 0 ≤ n
  | .notNegative, .float d => !d.isNegativeValue
  | .filled, .str s => s != ""
  | .boolean, .bool _ => true
  | .list, .array _ => true
  | .strings, .str _ => true
  | _, _ => false

/-- An entry of the settings, what it has to be, and its value if it is there. -/
structure Requirement where
  entry : String
  expected : Expected
  value : Option Value

def Requirement.isMet (r : Requirement) : Bool :=
  r.value.all (Expected.accepts r.expected)

def firstUnmet (rs : List Requirement) : Option Requirement :=
  rs.find? fun r => !r.isMet

/-! The requirements, section by section -/

def sectionOf (t : Table) (name : String) : Table :=
  match t.lookup name with
  | some (.table u) => u
  | _ => []

def itemsOf (t : Table) (name : String) : List Value :=
  match t.lookup name with
  | some (.array items) => items
  | _ => []

def serverRequirements (u : Table) : List Requirement :=
  [⟨"server.host", .string, u.lookup "host"⟩, ⟨"server.port", .integer, u.lookup "port"⟩]

def siteRequirements (u : Table) : List Requirement :=
  [⟨"site.root_dir", .string, u.lookup "root_dir"⟩,
    ⟨"site.content_dir", .string, u.lookup "content_dir"⟩]

def contentRequirements (u : Table) : List Requirement :=
  [⟨"content.base_url", .string, u.lookup "base_url"⟩,
    ⟨"content.grace_period", .number, u.lookup "grace_period"⟩,
    ⟨"content.grace_period", .notNegative, u.lookup "grace_period"⟩]

def pageRequirement (e : String × Value) : Requirement :=
  ⟨"routes.pages." ++ e.1, .filled, some e.2⟩

def routesRequirements (u : Table) : List Requirement :=
  ⟨"routes.default", .filled, u.lookup "default"⟩ ::
    ⟨"routes.pages", .dictionary, u.lookup "pages"⟩ :: (sectionOf u "pages").map pageRequirement

def patternRequirement (v : Value) : Requirement :=
  ⟨"live_reload.watch_patterns items", .strings, some v⟩

def reloadRequirements (u : Table) : List Requirement :=
  ⟨"live_reload.enabled", .boolean, u.lookup "enabled"⟩ ::
    ⟨"live_reload.watch_patterns", .list, u.lookup "watch_patterns"⟩ ::
      (itemsOf u "watch_patterns").map patternRequirement

def sectionRequirements (t : Table) (name : String) (entries : Table → List Requirement) :
    List Requirement :=
  ⟨name ++ " section", .dictionary, t.lookup name⟩ :: entries (sectionOf t name)

def requirements (t : Table) : List Requirement :=
  sectionRequirements t "server" serverRequirements ++
    (sectionRequirements t "site" siteRequirements ++
      (sectionRequirements t "content" contentRequirements ++
        (sectionRequirements t "routes" routesRequirements ++
          sectionRequirements t "live_reload" reloadRequirements)))

/-! The settings that a table holds -/

def textOf : Value → Option String
  | .str s => some s
  | _ => none

def textAt (u : Table) (name : String) : Option String :=
  (u.lookup name).bind textOf

def integerAt (u : Table) (name : String) : Option Int :=
  match u.lookup name with
  | some (.int n) => some n
  | _ => none

def booleanAt (u : Table) (name : String) : Option Bool :=
  match u.lookup name with
  | some (.bool b) => some b
  | _ => none

def numberAt (u : Table) (name : String) : Option Double :=
  match u.lookup name with
  | some (.int n) => some (Double.ofInt n)
  | some (.float d) => some d
  | _ => none

def givenServer (u : Table) : ServerSettings :=
  ⟨(textAt u "host").getD "127.0.0.1", (integerAt u "port").getD 8080⟩

def givenRoot (dir : Path) (u : Table) : Path :=
  dir.join (Path.ofString ((textAt u "root_dir").getD "site"))

def givenSite (dir : Path) (u : Table) : SiteSettings :=
  ⟨givenRoot dir u,
    (givenRoot dir u).join (Path.ofString ((textAt u "content_dir").getD "content"))⟩

def givenContent (u : Table) : ContentSettings :=
  ⟨textAt u "base_url", (numberAt u "grace_period").getD Loader.standardGrace⟩

def givenPages (u : Table) : List (String × String) :=
  (sectionOf u "pages").map fun e => (e.1, (textOf e.2).getD "")

def givenRoutes (u : Table) : Routes :=
  ({ Routes.standard with default := (textAt u "default").getD "home" } : Routes).withPages
    (givenPages u)

def givenPatterns (u : Table) : Option (List String) :=
  (u.lookup "watch_patterns").map fun _ =>
    (itemsOf u "watch_patterns").map fun v => (textOf v).getD ""

def givenReload (u : Table) : ReloadSettings :=
  ⟨(booleanAt u "enabled").getD true, givenPatterns u⟩

def given (dir : Path) (t : Table) : Config where
  server := givenServer (sectionOf t "server")
  site := givenSite dir (sectionOf t "site")
  content := givenContent (sectionOf t "content")
  routes := givenRoutes (sectionOf t "routes")
  reload := givenReload (sectionOf t "live_reload")

/-! Checks -/

def verdict {α : Type} (rs : List Requirement) (a : α) : Checked α :=
  match firstUnmet rs with
  | none => .ok a
  | some r => fail r.entry r.expected

section Verdict

variable {α β : Type} {c : Checked α} {r : Requirement} {rs rs' : List Requirement} {a : α}

theorem verdict_nil (a : α) : verdict [] a = .ok a := rfl

theorem verdict_cons_of_isMet (h : r.isMet = true) : verdict (r :: rs) a = verdict rs a := by
  simp [verdict, firstUnmet, h]

theorem verdict_cons_of_not_isMet (h : r.isMet = false) :
    verdict (r :: rs) a = fail r.entry r.expected := by
  simp [verdict, firstUnmet, h]

theorem bind_eq_verdict {f : α → Checked β} {b : β} (h : c = verdict rs a)
    (h' : f a = verdict rs' b) : c >>= f = verdict (rs ++ rs') b := by
  subst h
  induction rs with
  | nil => exact h'
  | cons r rs ih =>
    rw [List.cons_append]
    cases hr : r.isMet with
    | true => rw [verdict_cons_of_isMet hr, verdict_cons_of_isMet hr, ih]
    | false =>
      rw [verdict_cons_of_not_isMet hr, verdict_cons_of_not_isMet hr]
      rfl

theorem map_eq_verdict (h : c = verdict rs a) (f : α → β) : c.map f = verdict rs (f a) := by
  subst h
  unfold verdict
  cases firstUnmet rs <;> rfl

theorem bind_pure_eq_verdict (h : c = verdict rs a) (f : α → β) :
    (c >>= fun a => pure (f a)) = verdict rs (f a) :=
  map_eq_verdict h f

theorem mapM_eq_verdict {γ : Type} {f : γ → Checked β} {g : γ → Requirement} {k : γ → β}
    (h : ∀ x, f x = verdict [g x] (k x)) (xs : List γ) :
    xs.mapM f = verdict (xs.map g) (xs.map k) := by
  induction xs with
  | nil => rfl
  | cons x xs ih =>
    rw [List.mapM_cons]
    exact bind_eq_verdict (h x) (bind_pure_eq_verdict ih fun ys => k x :: ys)

end Verdict

/-! The checks of single entries -/

variable {t u : Table} {name entry : String}

theorem isMet_none (entry : String) (expected : Expected) :
    Requirement.isMet ⟨entry, expected, none⟩ = true := rfl

theorem isMet_some (entry : String) (expected : Expected) (v : Value) :
    Requirement.isMet ⟨entry, expected, some v⟩ = Expected.accepts expected v := rfl

theorem verdict_absent {α : Type} (entry : String) (expected : Expected) (rs : List Requirement)
    (a : α) : verdict (⟨entry, expected, none⟩ :: rs) a = verdict rs a :=
  verdict_cons_of_isMet (isMet_none entry expected)

theorem string_eq_verdict (t : Table) (name entry default : String) : string t name entry default =
    verdict [⟨entry, .string, t.lookup name⟩] ((textAt t name).getD default) := by
  unfold string textAt
  cases t.lookup name with
  | none => rfl
  | some v => cases v <;> rfl

theorem integer_eq_verdict (t : Table) (name entry : String) (default : Int) :
    integer t name entry default =
      verdict [⟨entry, .integer, t.lookup name⟩] ((integerAt t name).getD default) := by
  unfold integer integerAt
  cases t.lookup name with
  | none => rfl
  | some v => cases v <;> rfl

theorem boolean_eq_verdict (t : Table) (name entry : String) (default : Bool) :
    boolean t name entry default =
      verdict [⟨entry, .boolean, t.lookup name⟩] ((booleanAt t name).getD default) := by
  unfold boolean booleanAt
  cases t.lookup name with
  | none => rfl
  | some v => cases v <;> rfl

theorem baseUrl_eq_verdict (t : Table) : baseUrl t =
    verdict [⟨"content.base_url", .string, t.lookup "base_url"⟩] (textAt t "base_url") := by
  unfold baseUrl textAt
  cases t.lookup "base_url" with
  | none => rfl
  | some v => cases v <;> rfl

theorem filled_eq_verdict (v : Value) (entry : String) :
    filled v entry = verdict [⟨entry, .filled, some v⟩] ((textOf v).getD "") := by
  cases v with
  | str s => by_cases hs : s = "" <;> simp [filled, verdict, firstUnmet, isMet_some, Expected.accepts,
      textOf, hs]
  | _ => rfl

theorem pattern_eq_verdict (v : Value) :
    pattern v = verdict [patternRequirement v] ((textOf v).getD "") := by
  cases v <;> rfl

/-- An integer that is a waiting time has a double nearest to it. -/
def GraceFits (u : Table) : Prop :=
  ∀ n, u.lookup "grace_period" = some (.int n) → ∃ v, Double.ofInt n = .finite v

theorem wholeGrace_eq {n : Int} {d : Number.Finite} (hd : Double.ofInt n = .finite d) :
    wholeGrace n = verdict [⟨"content.grace_period", .notNegative, some (.int n)⟩]
      (Double.ofInt n) := by
  unfold wholeGrace
  by_cases hn : n < 0
  · have hnot : Requirement.isMet ⟨"content.grace_period", .notNegative, some (.int n)⟩ = false := by
      simp [isMet_some, Expected.accepts, hn]
    rw [if_pos hn, verdict_cons_of_not_isMet hnot]
  · have hmet : Requirement.isMet ⟨"content.grace_period", .notNegative, some (.int n)⟩ = true := by
      simpa [isMet_some, Expected.accepts] using hn
    rw [if_neg hn, verdict_cons_of_isMet hmet, hd, verdict_nil]

theorem numberAt_of_int {n : Int} (h : u.lookup name = some (.int n)) :
    numberAt u name = some (Double.ofInt n) := by
  simp only [numberAt, h]

theorem grace_eq_verdict (hfits : GraceFits u) : grace u =
    verdict [⟨"content.grace_period", .number, u.lookup "grace_period"⟩,
        ⟨"content.grace_period", .notNegative, u.lookup "grace_period"⟩]
      ((numberAt u "grace_period").getD Loader.standardGrace) := by
  -- no step may compute the usual waiting time, nor the double of an integer
  generalize hstandard : Loader.standardGrace = standard
  cases h : u.lookup "grace_period" with
  | none =>
    simp only [grace, numberAt, h, hstandard]
    rw [verdict_absent, verdict_absent, verdict_nil, Option.getD_none]
  | some v =>
    cases v with
    | int n =>
      obtain ⟨d, hd⟩ := hfits n h
      rw [numberAt_of_int h, Option.getD_some, verdict_cons_of_isMet (isMet_some _ _ _)]
      simpa only [grace, h] using wholeGrace_eq hd
    | float d =>
      simp only [grace, numberAt, h]
      rw [verdict_cons_of_isMet (isMet_some _ _ _)]
      cases hd : d.isNegativeValue <;> simp [verdict, firstUnmet, isMet_some, Expected.accepts, hd]
    | _ =>
      simp only [grace, h]
      rw [verdict_cons_of_not_isMet (isMet_some _ _ _)]

/-! The sections -/

theorem server_eq_verdict (u : Table) :
    server u = verdict (serverRequirements u) (givenServer u) :=
  bind_eq_verdict (string_eq_verdict u "host" "server.host" "127.0.0.1")
    (bind_pure_eq_verdict (integer_eq_verdict u "port" "server.port" 8080) _)

theorem site_eq_verdict (dir : Path) (u : Table) :
    site dir u = verdict (siteRequirements u) (givenSite dir u) :=
  bind_eq_verdict (string_eq_verdict u "root_dir" "site.root_dir" "site")
    (bind_pure_eq_verdict (string_eq_verdict u "content_dir" "site.content_dir" "content") _)

theorem content_eq_verdict (hfits : GraceFits u) :
    content u = verdict (contentRequirements u) (givenContent u) :=
  bind_eq_verdict (baseUrl_eq_verdict u) (bind_pure_eq_verdict (grace_eq_verdict hfits) _)

theorem pages_eq_verdict (u : Table) :
    pages u = verdict (⟨"routes.pages", .dictionary, u.lookup "pages"⟩ ::
      (sectionOf u "pages").map pageRequirement) (givenPages u) := by
  have hpage (e : String × Value) :
      pageEntry e = verdict [pageRequirement e] (e.1, (textOf e.2).getD "") :=
    map_eq_verdict (filled_eq_verdict e.2 _) _
  unfold pages givenPages sectionOf
  cases u.lookup "pages" with
  | none => rfl
  | some v =>
    cases v with
    | table entries =>
      rw [verdict_cons_of_isMet rfl]
      exact mapM_eq_verdict hpage entries
    | _ => rw [verdict_cons_of_not_isMet rfl]

theorem routes_eq_verdict (u : Table) :
    routes u = verdict (routesRequirements u) (givenRoutes u) := by
  have hdefault : filled ((u.lookup "default").getD (.str Routes.defaultPage)) "routes.default" =
      verdict [⟨"routes.default", .filled, u.lookup "default"⟩]
        ((textAt u "default").getD "home") := by
    unfold textAt
    cases u.lookup "default" with
    | none => rfl
    | some v =>
      cases v with
      | str s => exact filled_eq_verdict (.str s) _
      | _ => rfl
  exact bind_eq_verdict hdefault (bind_pure_eq_verdict (pages_eq_verdict u) _)

theorem patterns_eq_verdict (u : Table) :
    patterns u = verdict (⟨"live_reload.watch_patterns", .list, u.lookup "watch_patterns"⟩ ::
      (itemsOf u "watch_patterns").map patternRequirement) (givenPatterns u) := by
  unfold patterns givenPatterns itemsOf
  cases u.lookup "watch_patterns" with
  | none => rfl
  | some v =>
    cases v with
    | array items =>
      rw [verdict_cons_of_isMet rfl]
      exact map_eq_verdict (mapM_eq_verdict pattern_eq_verdict items) some
    | _ => rw [verdict_cons_of_not_isMet rfl]

theorem reload_eq_verdict (u : Table) :
    reload u = verdict (reloadRequirements u) (givenReload u) :=
  bind_eq_verdict (boolean_eq_verdict u "enabled" "live_reload.enabled" true)
    (bind_pure_eq_verdict (patterns_eq_verdict u) _)

theorem part_eq_verdict {α : Type} {default a : α} {read : Table → Checked α}
    {entries : Table → List Requirement} (hempty : read [] = .ok default)
    (h : read (sectionOf t name) = verdict (entries (sectionOf t name)) a) :
    part t name default read = verdict (sectionRequirements t name entries) a := by
  unfold part section? sectionRequirements
  unfold sectionOf at h ⊢
  cases ht : t.lookup name with
  | none =>
    rw [ht] at h
    rw [verdict_absent]
    exact hempty.symm.trans h
  | some v =>
    cases v with
    | table u =>
      rw [ht] at h
      rw [verdict_cons_of_isMet rfl]
      exact h
    | _ => rfl

theorem site_nil (dir : Path) : site dir [] = .ok (SiteSettings.standard dir) := by
  have hjoin (p : Path) {name : String} (h : Path.ofString name = ⟨.here, [name]⟩) :
      p.join (Path.ofString name) = p.child name := by
    rw [h]
    rfl
  have hread : site dir [] = .ok ⟨dir.join (Path.ofString "site"),
      (dir.join (Path.ofString "site")).join (Path.ofString "content")⟩ := rfl
  rw [hread, hjoin dir (by decide), hjoin _ (by decide)]
  rfl

theorem ofTable_eq_verdict (dir : Path) (hfits : GraceFits (sectionOf t "content")) :
    Config.ofTable dir t = verdict (requirements t) (given dir t) := by
  have hserver : part t "server" {} server = verdict _ _ :=
    part_eq_verdict rfl (server_eq_verdict _)
  have hsite : part t "site" (SiteSettings.standard dir) (site dir) = verdict _ _ :=
    part_eq_verdict (site_nil dir) (site_eq_verdict dir _)
  have hcontent : part t "content" {} content = verdict _ _ :=
    part_eq_verdict rfl (content_eq_verdict hfits)
  have hroutes : part t "routes" Routes.standard routes = verdict _ _ :=
    part_eq_verdict rfl (routes_eq_verdict _)
  have hreload : part t "live_reload" {} reload = verdict _ _ :=
    part_eq_verdict rfl (reload_eq_verdict _)
  exact bind_eq_verdict hserver (bind_eq_verdict hsite (bind_eq_verdict hcontent
    (bind_eq_verdict hroutes (bind_pure_eq_verdict hreload _))))

end Schema

namespace Config

open Schema (GraceFits firstUnmet given givenContent givenPages numberAt numberAt_of_int requirements
  sectionOf)

variable {w : World} {p : Path} {t : Toml.Table}

/-- The file holds the table in the notation of settings, and there is room to read it. -/
def HoldsTable (w : World) (p : Path) (t : Toml.Table) : Prop :=
  ∃ bytes cs, w.read p = .ok bytes ∧ Text.decodeUtf8 false 0 bytes = .ok cs ∧
    w.admits (String.ofList cs) = true ∧ Toml.parse (String.ofList cs) = .ok t

theorem readFile_of_ok {c : Config} (hfile : HoldsTable w p t) (h : ofTable p.parent t = .ok c) :
    readFile w p = .ok { c with origin := some p } := by
  obtain ⟨bytes, cs, hread, hdecode, hadmits, hparse⟩ := hfile
  simp [readFile, ofText, hread, hdecode, hadmits, hparse, h]

theorem readFile_of_error {e : SchemaError} (hfile : HoldsTable w p t)
    (h : ofTable p.parent t = .error e) : readFile w p = .error (.schema e) := by
  obtain ⟨bytes, cs, hread, hdecode, hadmits, hparse⟩ := hfile
  simp [readFile, ofText, hread, hdecode, hadmits, hparse, h]

def settingsText : String :=
  "[server]\nport = 9000\n[content]\ngrace_period = 2\n[routes.pages]\n\"plan.html\" = \"kitchen\"\n"

def settingsTable : Toml.Table :=
  [("server", .table [("port", .int 9000)]), ("content", .table [("grace_period", .int 2)]),
    ("routes", .table [("pages", .table [("plan.html", .str "kitchen")])])]

def settingsPath : Path := Path.absolute ["pagebind.toml"]

def settingsWorld : World :=
  { entries := [(["pagebind.toml"], .file (Text.encodeUtf8 settingsText))] }

end Config
end ContentBinding
