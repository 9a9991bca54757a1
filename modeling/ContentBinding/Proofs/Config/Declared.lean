import ContentBinding.Command.Run
import ContentBinding.Proofs.Files.Resolution
import ContentBinding.Proofs.Number.Overflow

/-! Which errors loading the settings can end in. Those of the settings themselves are reported; a
place that the system does not let one look at, a directory or an unreadable file in it, settings
nested too deeply and a waiting time beyond all doubles come out as errors of another kind. -/

namespace ContentBinding

open Files (Path PathError World)
open Number (Double)

/-! The settings table -/

namespace Schema

variable {t u : Toml.Table} {name entry : String}

def Declares {α : Type} (c : Checked α) : Prop :=
  c ≠ .error .graceTooLarge

@[simp] theorem declares_ok {α : Type} (a : α) : Declares (.ok a : Checked α) :=
  nofun

@[simp] theorem declares_fail {α : Type} (entry : String) (expected : Expected) :
    Declares (fail entry expected : Checked α) := by
  intro h
  exact absurd (Except.error.inj h) nofun

theorem declares_bind {α β : Type} {c : Checked α} {f : α → Checked β} (hc : Declares c)
    (hf : ∀ a, Declares (f a)) : Declares (c >>= f) := by
  cases c with
  | error e => exact fun h => hc (congrArg _ (Except.error.inj h))
  | ok a => exact hf a

theorem declares_map {α β : Type} {c : Checked α} {f : α → β} (hc : Declares c) :
    Declares (c.map f) := by
  cases c with
  | error e => exact fun h => hc (congrArg _ (Except.error.inj h))
  | ok a => exact declares_ok _

theorem declares_mapM {α β : Type} {f : α → Checked β} (hf : ∀ a, Declares (f a)) (as : List α) :
    Declares (as.mapM f) := by
  induction as with
  | nil => exact declares_ok _
  | cons a as ih =>
    rw [List.mapM_cons]
    exact declares_bind (hf a) fun _ => declares_bind ih fun _ => declares_ok _

theorem declares_section? (t : Toml.Table) (name : String) : Declares (section? t name) := by
  unfold section?
  split <;> simp

theorem declares_string (t : Toml.Table) (name entry default : String) :
    Declares (string t name entry default) := by
  unfold string
  split <;> simp

theorem declares_integer (t : Toml.Table) (name entry : String) (default : Int) :
    Declares (integer t name entry default) := by
  unfold integer
  split <;> simp

theorem declares_boolean (t : Toml.Table) (name entry : String) (default : Bool) :
    Declares (boolean t name entry default) := by
  unfold boolean
  split <;> simp

theorem declares_filled (v : Toml.Value) (entry : String) : Declares (filled v entry) := by
  unfold filled
  split
  · split <;> simp
  · simp

theorem declares_server (t : Toml.Table) : Declares (server t) :=
  declares_bind (declares_string _ _ _ _) fun _ => declares_bind (declares_integer _ _ _ _) fun _ =>
    declares_ok _

theorem declares_site (dir : Path) (t : Toml.Table) : Declares (site dir t) :=
  declares_bind (declares_string _ _ _ _) fun _ => declares_bind (declares_string _ _ _ _) fun _ =>
    declares_ok _

theorem declares_baseUrl (t : Toml.Table) : Declares (baseUrl t) := by
  unfold baseUrl
  split <;> simp

theorem declares_pages (t : Toml.Table) : Declares (pages t) := by
  unfold pages
  split
  · exact declares_ok _
  · exact declares_mapM (fun e => declares_map (declares_filled _ _)) _
  · exact declares_fail _ _

theorem declares_routes (t : Toml.Table) : Declares (routes t) :=
  declares_bind (declares_filled _ _) fun _ => declares_bind (declares_pages t) fun _ =>
    declares_ok _

theorem declares_pattern (v : Toml.Value) : Declares (pattern v) := by
  unfold pattern
  split <;> simp

theorem declares_patterns (t : Toml.Table) : Declares (patterns t) := by
  unfold patterns
  split
  · exact declares_ok _
  · exact declares_map (declares_mapM declares_pattern _)
  · exact declares_fail _ _

theorem declares_reload (t : Toml.Table) : Declares (reload t) :=
  declares_bind (declares_boolean _ _ _ _) fun _ => declares_bind (declares_patterns t) fun _ =>
    declares_ok _

theorem declares_part {α : Type} (t : Toml.Table) (name : String) (default : α)
    {read : Toml.Table → Checked α} (hread : ∀ u, Declares (read u)) :
    Declares (part t name default read) := by
  refine declares_bind (declares_section? t name) fun u => ?_
  cases u with
  | none => exact declares_ok _
  | some u => exact hread u

/-- A waiting time that is a whole number and lies beyond all doubles. -/
def GraceOverflows (t : Toml.Table) : Prop :=
  ∃ n : Nat, t.lookup "grace_period" = some (.int n) ∧ Double.overflowStart ≤ n

theorem wholeGrace_of_finite {k : Nat} {v : Number.Finite} (hv : Double.ofInt k = .finite v) :
    wholeGrace k = .ok (.finite v) := by
  rw [wholeGrace, if_neg (by simp), hv]

theorem wholeGrace_of_not_finite {k : Nat} (h : ¬ ∃ v, Double.ofInt k = .finite v) :
    wholeGrace k = .error .graceTooLarge := by
  rw [wholeGrace, if_neg (by simp)]
  cases hofInt : Double.ofInt k with
  | finite v => exact absurd ⟨v, hofInt⟩ h
  | infinite _ => rfl
  | nan => rfl

theorem wholeGrace_eq_iff (n : Int) :
    wholeGrace n = .error .graceTooLarge ↔ ∃ k : Nat, n = k ∧ Double.overflowStart ≤ k := by
  by_cases hn : n < 0
  · refine iff_of_false ?_ (by rintro ⟨k, rfl, _⟩; omega)
    rw [wholeGrace, if_pos hn]
    exact declares_fail _ _
  · obtain ⟨k, rfl⟩ := Int.eq_ofNat_of_zero_le (Int.not_lt.mp hn)
    have hk : (∃ m : Nat, (k : Int) = m ∧ Double.overflowStart ≤ m) ↔ Double.overflowStart ≤ k := by
      simp
    rw [hk, ← Nat.not_lt, ← Double.exists_ofInt_eq_finite_iff]
    refine ⟨?_, wholeGrace_of_not_finite⟩
    rintro h ⟨v, hv⟩
    rw [wholeGrace_of_finite hv] at h
    exact absurd h nofun

theorem grace_eq_iff (t : Toml.Table) : grace t = .error .graceTooLarge ↔ GraceOverflows t := by
  unfold grace GraceOverflows
  cases ht : t.lookup "grace_period" with
  | none => simp
  | some v =>
    cases v with
    | int n => simp [wholeGrace_eq_iff]
    | float d =>
      dsimp only
      split <;> simp [fail]
    | _ => simp [fail]

theorem bind_eq_iff_right {α β : Type} {c : Checked α} {f : α → Checked β} (hc : Declares c) :
    c >>= f = .error .graceTooLarge ↔ ∃ a, c = .ok a ∧ f a = .error .graceTooLarge := by
  cases c with
  | error e =>
    refine iff_of_false (fun h => hc (congrArg _ (Except.error.inj h))) ?_
    rintro ⟨_, h, _⟩
    exact absurd h nofun
  | ok a => exact ⟨fun h => ⟨a, rfl, h⟩, fun ⟨_, ha, h⟩ => Except.ok.inj ha ▸ h⟩

theorem bind_eq_iff_left {α β : Type} {c : Checked α} {f : α → Checked β}
    (hf : ∀ a, Declares (f a)) : c >>= f = .error .graceTooLarge ↔ c = .error .graceTooLarge := by
  cases c with
  | error e => exact ⟨fun h => congrArg _ (Except.error.inj h), fun h => congrArg _ (Except.error.inj h)⟩
  | ok a => exact iff_of_false (hf a) nofun

theorem content_eq_iff (t : Toml.Table) : content t = .error .graceTooLarge ↔
    (∃ base, baseUrl t = .ok base) ∧ GraceOverflows t := by
  have hlast : ∀ base, (grace t >>= fun d => (.ok ⟨base, d⟩ : Checked ContentSettings)) =
      .error .graceTooLarge ↔ GraceOverflows t := fun base =>
    (bind_eq_iff_left fun _ => declares_ok _).trans (grace_eq_iff t)
  refine (bind_eq_iff_right (declares_baseUrl t)).trans ?_
  constructor
  · rintro ⟨base, hbase, h⟩
    exact ⟨⟨base, hbase⟩, (hlast base).mp h⟩
  · rintro ⟨⟨base, hbase⟩, h⟩
    exact ⟨base, hbase, (hlast base).mpr h⟩

/-- The sections before the waiting time are as they have to be, and it lies beyond all doubles. -/
structure Overflows (dir : Path) (t : Toml.Table) : Prop where
  server : ∃ s, part t "server" {} Schema.server = .ok s
  site : ∃ s, part t "site" (SiteSettings.standard dir) (Schema.site dir) = .ok s
  content : ∃ u, t.lookup "content" = some (.table u) ∧ (∃ base, baseUrl u = .ok base) ∧
    GraceOverflows u

theorem part_content_eq_iff (t : Toml.Table) :
    part t "content" {} Schema.content = .error .graceTooLarge ↔
      ∃ u, t.lookup "content" = some (.table u) ∧ (∃ base, baseUrl u = .ok base) ∧
        GraceOverflows u := by
  simp only [← content_eq_iff]
  refine (bind_eq_iff_right (declares_section? t "content")).trans ?_
  unfold section?
  cases ht : t.lookup "content" with
  | none => simp [pure, Except.pure]
  | some v => cases v <;> simp [fail]

theorem ofTable_eq_iff (dir : Path) (t : Toml.Table) :
    Config.ofTable dir t = .error .graceTooLarge ↔ Overflows dir t := by
  have hrest : ∀ server site content, Declares (do
      let routes ← part t "routes" Routes.standard Schema.routes
      let reload ← part t "live_reload" {} Schema.reload
      return ({ server, site, content, routes, reload } : Config)) := fun server site content =>
    declares_bind (declares_part t _ _ declares_routes) fun _ =>
      declares_bind (declares_part t _ _ declares_reload) fun _ => declares_ok _
  have hcontent : ∀ server site, (do
      let content ← part t "content" {} Schema.content
      let routes ← part t "routes" Routes.standard Schema.routes
      let reload ← part t "live_reload" {} Schema.reload
      return ({ server, site, content, routes, reload } : Config)) =
        (.error .graceTooLarge : Checked Config) ↔ _ := fun server site =>
    (bind_eq_iff_left (hrest server site)).trans (part_content_eq_iff t)
  refine (bind_eq_iff_right (declares_part t _ _ declares_server)).trans ?_
  constructor
  · rintro ⟨server, hserver, h⟩
    obtain ⟨site, hsite, h⟩ :=
      (bind_eq_iff_right (declares_part t _ _ (declares_site dir))).mp h
    exact ⟨⟨server, hserver⟩, ⟨site, hsite⟩, (hcontent server site).mp h⟩
  · rintro ⟨⟨server, hserver⟩, ⟨site, hsite⟩, h⟩
    refine ⟨server, hserver, (bind_eq_iff_right (declares_part t _ _ (declares_site dir))).mpr ?_⟩
    exact ⟨site, hsite, (hcontent server site).mpr h⟩

end Schema

/-! The settings file -/

namespace Config

variable {w : World} {given : Option Path} {p : Path} {e : ConfigError} {names dir : List String}

/-- Of the directories at and above one, the innermost in which something stands in the place of the
settings, or in which that cannot be asked. Names are given from the innermost on. -/
structure Nearest (w : World) (names dir : List String) : Prop where
  suffix : dir <:+ names
  found : w.pathExists (candidateIn dir) ≠ .ok false
  inner : ∀ below, below <:+ names → dir.length < below.length →
    w.pathExists (candidateIn below) = .ok false

/-- The place in which settings are sought. -/
inductive Sought (w : World) : Option Path → Path → Prop
  | given (p : Path) : Sought w (some p) p
  | nearest {dir : List String} : Nearest w w.current.reverse dir → Sought w none (candidateIn dir)

theorem Nearest.cons {name : String} (h : Nearest w names dir)
    (hhere : w.pathExists (candidateIn (name :: names)) = .ok false) :
    Nearest w (name :: names) dir := by
  refine ⟨h.suffix.trans (List.suffix_cons name names), h.found, fun below hbelow hlength => ?_⟩
  rcases List.suffix_cons_iff.mp hbelow with rfl | hbelow
  · exact hhere
  · exact h.inner below hbelow hlength

theorem nearest_self (h : w.pathExists (candidateIn names) ≠ .ok false) : Nearest w names names :=
  ⟨List.suffix_refl names, h, fun _ hbelow hlength =>
    absurd hbelow.length_le (Nat.not_le.mpr hlength)⟩

/-- The search ends at the nearest place, and without one it finds nothing. -/
theorem discoverFrom_cases (w : World) (names : List String) :
    (discoverFrom w names = .ok none ∧ ∀ dir, ¬ Nearest w names dir) ∨
      ∃ dir, Nearest w names dir ∧ discoverFrom w names =
        (w.pathExists (candidateIn dir)).map fun _ => some (candidateIn dir) := by
  induction names with
  | nil =>
    unfold discoverFrom
    rcases h : w.pathExists (candidateIn []) with e | _ | _
    · exact Or.inr ⟨[], nearest_self (by simp [h]), by rw [h]; rfl⟩
    · refine Or.inl ⟨rfl, fun dir hdir => hdir.found ?_⟩
      rw [List.suffix_nil.mp hdir.suffix, h]
    · exact Or.inr ⟨[], nearest_self (by simp [h]), by rw [h]; rfl⟩
  | cons name outer ih =>
    unfold discoverFrom
    rcases h : w.pathExists (candidateIn (name :: outer)) with e | _ | _
    · exact Or.inr ⟨_, nearest_self (by simp [h]), by rw [h]; rfl⟩
    · rcases ih with ⟨hnone, hall⟩ | ⟨dir, hdir, heq⟩
      · refine Or.inl ⟨hnone, fun dir hdir => ?_⟩
        rcases List.suffix_cons_iff.mp hdir.suffix with rfl | hsuffix
        · exact hdir.found h
        · exact hall dir ⟨hsuffix, hdir.found, fun below hbelow =>
            hdir.inner below (hbelow.trans (List.suffix_cons name outer))⟩
      · exact Or.inr ⟨dir, hdir.cons h, heq⟩
    · exact Or.inr ⟨_, nearest_self (by simp [h]), by rw [h]; rfl⟩

/-- What stands in the place of the settings cannot be loaded, and not for a fault that is reported:
the system refuses to look at the place, it is there but no file, it must not be read, there is no
room to read it, or its waiting time is beyond all doubles. -/
inductive Escapes (w : World) (p : Path) : Prop
  | refused {r : Files.Refusal} : World.hasNull p = false → w.locate p = .error r →
    r.isAbsence = false → Escapes w p
  | noFile : w.pathExists p = .ok true → w.isFile p = .ok false → Escapes w p
  | unreadable {place : List String} {bytes : Text.Bytes} : World.hasNull p = false →
    w.locate p = .ok (place, .file bytes) → w.denies .read place = true → Escapes w p
  | tooDeep {bytes : Text.Bytes} {cs : List Char} : w.read p = .ok bytes →
    Text.decodeUtf8 false 0 bytes = .ok cs → w.admits (String.ofList cs) = false → Escapes w p
  | overflow {bytes : Text.Bytes} {cs : List Char} {t : Toml.Table} : w.read p = .ok bytes →
    Text.decodeUtf8 false 0 bytes = .ok cs → Toml.parse? (String.ofList cs) = some t →
    Schema.Overflows p.parent t → Escapes w p

def loadAt (w : World) (p : Path) : Except ConfigError Config :=
  match w.pathExists p with
  | .error e => .error (.path e)
  | .ok false => .error (.missing p)
  | .ok true => readFile w p

theorem load_of_sought (h : Sought w given p) : load w given = loadAt w p := by
  cases h with
  | given p => rfl
  | @nearest dir hdir =>
    have hunique : ∀ dir', Nearest w w.current.reverse dir' → dir' = dir := by
      intro dir' hdir'
      rcases Nat.lt_trichotomy dir'.length dir.length with hlt | heq | hlt
      · exact absurd (hdir'.inner dir hdir.suffix hlt) hdir.found
      · exact List.IsSuffix.eq_of_length
          (List.suffix_of_suffix_length_le hdir'.suffix hdir.suffix heq.le) heq
      · exact absurd (hdir.inner dir' hdir'.suffix hlt) hdir'.found
    rcases discoverFrom_cases w w.current.reverse with ⟨_, hall⟩ | ⟨dir', hdir', heq⟩
    · exact absurd hdir (hall dir)
    · obtain rfl := hunique dir' hdir'
      unfold load loadAt
      rw [discover, heq]
      have hfound := hdir.found
      rcases hexists : w.pathExists (candidateIn dir') with e | _ | _
      · rfl
      · exact absurd hexists hfound
      · rfl

theorem load_of_not_sought (h : ∀ p, ¬ Sought w given p) : load w given = .ok standard := by
  cases given with
  | some p => exact absurd (.given p) (h p)
  | none =>
    rcases discoverFrom_cases w w.current.reverse with ⟨hnone, _⟩ | ⟨dir, hdir, _⟩
    · unfold load
      rw [discover, hnone]
    · exact absurd (.nearest hdir) (h _)

theorem not_isReported_ofText_iff {text : String} :
    (∃ e, ofText p text = .error e ∧ e.isReported = false) ↔
      ∃ t, Toml.parse? text = some t ∧ Schema.Overflows p.parent t := by
  unfold ofText Toml.parse?
  cases Toml.parse text with
  | error problem => cases problem <;> simp [ConfigError.isReported, Except.toOption]
  | ok t =>
    simp only [Except.toOption, Option.some.injEq, exists_eq_left', ← Schema.ofTable_eq_iff]
    cases ofTable p.parent t with
    | ok c => simp
    | error e => cases e <;> simp [ConfigError.isReported]

theorem not_isReported_readFile_iff {bytes : Text.Bytes} (hread : w.read p = .ok bytes) :
    (∃ e, readFile w p = .error e ∧ e.isReported = false) ↔
      ∃ cs, Text.decodeUtf8 false 0 bytes = .ok cs ∧ (w.admits (String.ofList cs) = false ∨
        ∃ t, Toml.parse? (String.ofList cs) = some t ∧ Schema.Overflows p.parent t) := by
  unfold readFile
  rw [hread]
  dsimp only
  cases Text.decodeUtf8 false 0 bytes with
  | error m => simp [ConfigError.isReported]
  | ok cs =>
    cases hadmits : w.admits (String.ofList cs) with
    | false => simp [hadmits, ConfigError.isReported]
    | true => simp [hadmits, not_isReported_ofText_iff]

theorem read_of_pathExists (h : w.pathExists p = .ok false) : ∃ e, w.read p = .error e := by
  unfold World.pathExists World.stat at h
  unfold World.read
  split
  · exact ⟨_, rfl⟩
  · rename_i hnull
    rw [if_neg hnull] at h
    cases hlocate : w.locate p with
    | error r => exact ⟨_, rfl⟩
    | ok found =>
      rw [hlocate] at h
      exact absurd h nofun

theorem not_isReported_of_missing (hexists : w.pathExists p = .ok false)
    (habsent : World.hasNull p = true ∨ ∃ r, w.locate p = .error r ∧ r.isAbsence = true) :
    (∃ e, loadAt w p = .error e ∧ e.isReported = false) ↔ Escapes w p := by
  obtain ⟨e, hread⟩ := read_of_pathExists hexists
  refine iff_of_false ?_ ?_
  · simp [loadAt, hexists, ConfigError.isReported]
  · intro h
    cases h with
    | refused hnull hlocate hr =>
      rcases habsent with hnull' | ⟨r', hlocate', hr'⟩
      · exact absurd (hnull.symm.trans hnull') nofun
      · obtain rfl := Except.error.inj (hlocate.symm.trans hlocate')
        exact absurd (hr.symm.trans hr') nofun
    | noFile h _ => exact absurd (hexists.symm.trans h) (by simp)
    | unreadable hnull hlocate _ =>
      rcases habsent with hnull' | ⟨r', hlocate', _⟩
      · exact absurd (hnull.symm.trans hnull') nofun
      · exact absurd (hlocate.symm.trans hlocate') nofun
    | tooDeep h _ _ => exact absurd (hread.symm.trans h) nofun
    | overflow h _ _ _ => exact absurd (hread.symm.trans h) nofun

theorem not_isReported_of_noFile (hexists : w.pathExists p = .ok true) (hfile : w.isFile p = .ok false)
    (hread : ∃ r, w.read p = .error (.system ⟨r, p.toString⟩) ∧ r ≠ .notFound) :
    (∃ e, loadAt w p = .error e ∧ e.isReported = false) ↔ Escapes w p := by
  obtain ⟨r, hread, hr⟩ := hread
  refine iff_of_true ⟨.path (.system ⟨r, p.toString⟩), ?_, ?_⟩ (.noFile hexists hfile)
  · simp [loadAt, hexists, readFile, hread]
  · simpa [ConfigError.isReported] using hr

theorem not_isReported_of_file {bytes : Text.Bytes} {place : List String}
    (hnull : World.hasNull p = false) (hlocate : w.locate p = .ok (place, .file bytes)) :
    (∃ e, loadAt w p = .error e ∧ e.isReported = false) ↔ Escapes w p := by
  have hstat : w.stat p = .ok (some (.file bytes)) :=
    World.stat_eq_some_iff.mpr ⟨hnull, place, hlocate⟩
  have hexists : w.pathExists p = .ok true := by
    rw [World.pathExists, hstat]
    rfl
  have hload : loadAt w p = readFile w p := by rw [loadAt, hexists]
  rw [hload]
  cases hdenied : w.denies .read place with
  | true =>
    have hread : w.read p = .error (.system ⟨.denied, p.toString⟩) := by
      simp [World.read, hnull, hlocate, hdenied]
    exact iff_of_true ⟨.path (.system ⟨.denied, p.toString⟩), by rw [readFile, hread], rfl⟩
      (.unreadable hnull hlocate hdenied)
  | false =>
    have hread : w.read p = .ok bytes := by simp [World.read, hnull, hlocate, hdenied]
    rw [not_isReported_readFile_iff hread]
    constructor
    · rintro ⟨cs, hcs, hdeep | ⟨t, ht, hover⟩⟩
      · exact .tooDeep hread hcs hdeep
      · exact .overflow hread hcs ht hover
    · intro h
      cases h with
      | refused _ h _ => cases hlocate.symm.trans h
      | noFile _ h =>
        exact absurd ((World.isFile_iff.mpr ⟨hnull, place, bytes, hlocate⟩).symm.trans h) (by simp)
      | unreadable _ h hdenied' =>
        obtain ⟨rfl, -⟩ := Prod.mk.inj (Except.ok.inj (hlocate.symm.trans h))
        cases hdenied.symm.trans hdenied'
      | tooDeep h hcs hdeep =>
        obtain rfl := Except.ok.inj (hread.symm.trans h)
        exact ⟨_, hcs, .inl hdeep⟩
      | overflow h hcs ht hover =>
        obtain rfl := Except.ok.inj (hread.symm.trans h)
        exact ⟨_, hcs, .inr ⟨_, ht, hover⟩⟩

theorem not_isReported_loadAt_iff :
    (∃ e, loadAt w p = .error e ∧ e.isReported = false) ↔ Escapes w p := by
  cases hnull : World.hasNull p with
  | true =>
    refine not_isReported_of_missing ?_ (.inl hnull)
    simp [World.pathExists, World.stat, hnull, Except.map]
  | false =>
    rcases hlocate : w.locate p with r | ⟨place, entry⟩
    · cases hr : r.isAbsence with
      | true =>
        refine not_isReported_of_missing ?_ (.inr ⟨r, hlocate, hr⟩)
        simp [World.pathExists, World.stat, hnull, hlocate, hr, Except.map]
      | false =>
        have hfound : r ≠ .notFound := fun h => absurd (h ▸ hr) (by decide)
        refine iff_of_true ⟨.path (.system ⟨r, p.toString⟩), ?_, ?_⟩ (.refused hnull hlocate hr)
        · simp [loadAt, World.pathExists, World.stat, hnull, hlocate, hr, Except.map]
        · simpa [ConfigError.isReported] using hfound
    · cases entry with
      | file bytes => exact not_isReported_of_file hnull hlocate
      | directory | link target =>
        refine not_isReported_of_noFile ?_ ?_ ?_
        · simp [World.pathExists, World.stat, hnull, hlocate, Except.map]
        · simp [World.isFile, World.stat, hnull, hlocate, Except.map]
        · cases hdenied : w.denies .read place <;> simp [World.read, hnull, hlocate, hdenied]

end Config

/-! What the program says -/

namespace Command

variable {env : Surroundings} {e : ConfigError}

def Invocation.settings : Invocation → Settings
  | .serve settings _ => settings
  | .render task _ _ => task.settings
  | .check task _ => task.settings

def ReportsError (ending : Ending) (message : String) : Prop :=
  ending.exitCode = 1 ∧ ending.out = [] ∧ ending.err = "Error: " ++ message ++ "\n" ∧
    ending.failure = none

def BreaksOff (ending : Ending) (e : ConfigError) : Prop :=
  ending.exitCode = 1 ∧ ending.out = [] ∧ ending.err = "" ∧ ending.failure = some (.config e)

theorem carryOut_of_config_error {inv : Invocation}
    (h : Config.load env.files inv.settings.file = .error e) :
    carryOut env inv = .ofConfigError env.files e := by
  have hload : ∀ s : Settings, Config.load env.files s.file = .error e →
      s.load env.files = .error e := by
    intro s hs
    rw [Settings.load, hs]
    rfl
  cases inv with
  | serve settings isVerbose =>
    rw [carryOut, serve, hload settings h]
  | render task output isVerbose =>
    rw [carryOut, render, hload task.settings h]
  | check task isStrict =>
    rw [carryOut, checkPage, hload task.settings h]

theorem ofConfigError_reports (w : World) (h : e.isReported = true) :
    ReportsError (.ofConfigError w e) e.message := by
  rw [Ending.ofConfigError, if_pos h]
  exact ⟨rfl, rfl, by simp [Ending.report, Ending.exit, Ending.line, String.append_assoc], rfl⟩

theorem ofConfigError_breaksOff (w : World) (h : e.isReported = false) :
    BreaksOff (.ofConfigError w e) e := by
  rw [Ending.ofConfigError, h, if_neg Bool.false_ne_true]
  exact ⟨rfl, rfl, rfl, rfl⟩

/-- Loading the settings ends in no other than a declared error exactly when nothing escapes in the
place where they are sought. Every command then tells a declared error in a line and ends with 1;
after any other it breaks off. -/
theorem config_errors_declared_iff (env : Surroundings) (inv : Invocation) :
    ((∀ e, Config.load env.files inv.settings.file = .error e → e.isReported = true) ↔
      ∀ p, Config.Sought env.files inv.settings.file p → ¬ Config.Escapes env.files p) ∧
    ∀ e, Config.load env.files inv.settings.file = .error e →
      (e.isReported = true → ReportsError (carryOut env inv) e.message) ∧
      (e.isReported = false → BreaksOff (carryOut env inv) e) := by
  refine ⟨⟨?_, ?_⟩, ?_⟩
  · intro hall p hp hescapes
    obtain ⟨e, he, hnot⟩ := Config.not_isReported_loadAt_iff.mpr hescapes
    rw [← Config.load_of_sought hp] at he
    exact absurd (hall e he) (by simp [hnot])
  · intro hnone e he
    by_contra hnot
    by_cases hsought : ∃ p, Config.Sought env.files inv.settings.file p
    · obtain ⟨p, hp⟩ := hsought
      rw [Config.load_of_sought hp] at he
      exact hnone p hp (Config.not_isReported_loadAt_iff.mp ⟨e, he, Bool.eq_false_iff.mpr hnot⟩)
    · rw [Config.load_of_not_sought (not_exists.mp hsought)] at he
      exact absurd he nofun
  · intro e he
    rw [carryOut_of_config_error he]
    exact ⟨ofConfigError_reports env.files, ofConfigError_breaksOff env.files⟩

/-! A directory of the name that settings have -/

def directoryForSettings : World :=
  { entries := [(["pagebind.toml"], .directory)] }

/-- The directory is found, and opening it is refused with an error that is not declared. -/
theorem directory_found_for_settings :
    Config.load directoryForSettings none =
      .error (.path (.system ⟨.isDirectory, "/pagebind.toml"⟩)) ∧
    ConfigError.isReported (.path (.system ⟨.isDirectory, "/pagebind.toml"⟩)) = false := by
  decide +kernel

end Command
end ContentBinding
