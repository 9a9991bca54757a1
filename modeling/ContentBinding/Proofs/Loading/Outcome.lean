import ContentBinding.Loader
import ContentBinding.Proofs.Binding.Breaking
import ContentBinding.Proofs.Source.Obstruction

/-! What a load comes to. Where the source answers there is a document, or one warning and a page
that stays as it is; where it does not, or where the planning breaks off, the error goes through to
whoever asked. -/

namespace ContentBinding

/-- None of the delays goes on for ever. -/
def Loading.Ends {α : Type} (f : Loading α) : Prop :=
  ∀ delay ∈ f.delays, delay ≠ .infinite false

namespace Loader

variable {env : Surroundings} {l : Loader} {page : Markup.Page} {identifier location : String}

def document? (env : Surroundings) (l : Loader) (identifier : String) : Option Json.Value :=
  (l.source.document? env identifier).filter fun v => !v.isNull

def Delivers (env : Surroundings) (l : Loader) (identifier : String) : Prop :=
  (l.source.document? env identifier).isSome ∧
    (l.fetchDocument env identifier).result = .ok (l.document? env identifier) ∧
    (l.fetchDocument env identifier).notes.filter (·.isWarning) = []

def Warns (env : Surroundings) (l : Loader) (identifier : String) : Prop :=
  l.source.document? env identifier = none ∧
    (l.fetchDocument env identifier).result = .ok none ∧
    ∃ name reason, l.describe identifier = .ok name ∧
      (l.fetchDocument env identifier).notes.filter (·.isWarning) =
        [⟨.warning, origin, "Could not load " ++ name ++ ": " ++ reason⟩]

/-- The source cannot say whether there is a document for the location, or the planning for it
breaks off. -/
def ObstructedAt (env : Surroundings) (l : Loader) (page : Markup.Page) (location : String) : Prop :=
  l.source.Obstructed env (l.pageFor location) ∨
    ∃ v, l.document? env (l.pageFor location) = some v ∧
      Binding.Plan.Breaks v (Binding.scan page)

theorem filter_notes_fetch : (l.fetch env identifier).notes.filter (·.isWarning) = [] :=
  List.filter_eq_nil_iff.mpr fun _ hn => by
    rw [Source.not_isWarning_of_fetch hn]
    exact Bool.false_ne_true

theorem fetchDocument_of_obstructed (h : l.source.Obstructed env identifier) :
    ∃ e, (l.fetchDocument env identifier).result = .error e := by
  obtain ⟨e, hresult, hother⟩ := Source.fetch_of_obstructed h
  have hfetch : (l.fetch env identifier).result = .error e := hresult
  refine ⟨e, ?_⟩
  unfold fetchDocument
  dsimp only
  rw [hfetch]
  cases e with
  | unavailable u => exact absurd rfl (hother u)
  | address | fault | path | clock => rfl

theorem delivers_of_document {v : Json.Value}
    (hdocument : l.source.document? env identifier = some v)
    (hresult : (l.fetch env identifier).result = .ok v) : l.Delivers env identifier := by
  refine ⟨by rw [hdocument]; rfl, ?_, ?_⟩
  · unfold fetchDocument
    dsimp only
    rw [hresult, document?, hdocument]
    cases hnull : v.isNull <;> simp [Option.filter, hnull]
  · unfold fetchDocument
    dsimp only
    rw [hresult]
    dsimp only
    rw [List.filter_append, filter_notes_fetch]
    rfl

theorem warns_of_unavailable {u : Unavailable} {name : String}
    (hdocument : l.source.document? env identifier = none)
    (hresult : (l.fetch env identifier).result = .error (.unavailable u))
    (hname : l.describe identifier = .ok name) : l.Warns env identifier := by
  refine ⟨hdocument, ?_, name, u.reason, hname, ?_⟩
  · unfold fetchDocument
    dsimp only
    rw [hresult]
  · unfold fetchDocument
    dsimp only
    rw [hresult]
    dsimp only
    rw [List.filter_append, filter_notes_fetch, nameOf, hname]
    rfl

theorem fetchDocument_of_not_obstructed (h : ¬ l.source.Obstructed env identifier) :
    l.Delivers env identifier ∨ l.Warns env identifier := by
  rcases Source.fetch_answers h with ⟨v, hdocument, hresult⟩ | ⟨hdocument, u, hresult⟩
  · exact Or.inl (delivers_of_document hdocument hresult)
  · obtain ⟨name, hname⟩ := Source.describe_of_not_obstructed h
    exact Or.inr (warns_of_unavailable hdocument hresult hname)

theorem result_of_not_obstructed (h : ¬ l.source.Obstructed env identifier) :
    (l.fetchDocument env identifier).result = .ok (l.document? env identifier) := by
  rcases fetchDocument_of_not_obstructed h with ⟨_, hresult, _⟩ | ⟨hdocument, hresult, _⟩
  · exact hresult
  · rw [hresult, document?, hdocument]
    rfl

theorem fetchDocument_error_iff : (∃ e, (l.fetchDocument env identifier).result = .error e) ↔
    l.source.Obstructed env identifier := by
  refine ⟨fun ⟨e, he⟩ => Classical.byContradiction fun h => ?_, fetchDocument_of_obstructed⟩
  rw [result_of_not_obstructed h] at he
  exact absurd he nofun

theorem load_of_error {e : FetchError}
    (h : (l.fetchDocument env (l.pageFor location)).result = .error e) :
    (l.load env page location).result = .error e := by
  unfold load
  dsimp only
  rw [h]

theorem load_of_none (h : (l.fetchDocument env (l.pageFor location)).result = .ok none) :
    (l.load env page location).result = .ok none := by
  unfold load
  dsimp only
  rw [h]

theorem load_of_some {v : Json.Value}
    (h : (l.fetchDocument env (l.pageFor location)).result = .ok (some v)) :
    (l.load env page location).result =
      match Binding.Plan.forScan (Binding.scan page) v with
      | .error e => .error (.ofOverlong e)
      | .ok plan => .ok (some ⟨Binding.apply page plan.writes, plan⟩) := by
  unfold load Binding.inject?
  dsimp only
  rw [h]
  dsimp only
  cases Binding.Plan.forScan (Binding.scan page) v <;> rfl

theorem isNull_of_document {v : Json.Value} (h : l.document? env identifier = some v) :
    v.isNull = false := by
  have hkept := (Option.filter_eq_some_iff.mp h).2
  simpa using hkept

theorem load_of_obstructedAt (h : l.ObstructedAt env page location) :
    ∃ e, (l.load env page location).result = .error e := by
  by_cases hsource : l.source.Obstructed env (l.pageFor location)
  · obtain ⟨e, he⟩ := fetchDocument_of_obstructed hsource
    exact ⟨e, load_of_error he⟩
  · rcases h with h | ⟨v, hv, hbreaks⟩
    · exact absurd h hsource
    · have hfetch := result_of_not_obstructed hsource
      rw [hv] at hfetch
      obtain ⟨e, he⟩ := Binding.Plan.exists_forScan_eq_error_iff.mpr
        ((Binding.Plan.exists_breaksOff?_iff (isNull_of_document hv)).mpr hbreaks)
      rw [load_of_some hfetch, he]
      exact ⟨_, rfl⟩

theorem forScan_of_not_obstructedAt {v : Json.Value} (h : ¬ l.ObstructedAt env page location)
    (hv : l.document? env (l.pageFor location) = some v) :
    Binding.Plan.forScan (Binding.scan page) v =
      .ok (Binding.Plan.ofScan (Binding.scan page) v) :=
  Binding.Plan.forScan_eq_ok_iff.mpr ⟨fun hoff => h (.inr ⟨v, hv,
    (Binding.Plan.exists_breaksOff?_iff (isNull_of_document hv)).mp hoff⟩), rfl⟩

theorem load_of_not_obstructedAt (h : ¬ l.ObstructedAt env page location) :
    (l.load env page location).result =
      .ok ((l.document? env (l.pageFor location)).map fun v =>
        ⟨(Binding.inject page v).1, (Binding.inject page v).2⟩) := by
  have hfetch := result_of_not_obstructed fun hsource => h (.inl hsource)
  cases hdocument : l.document? env (l.pageFor location) with
  | none =>
    rw [hdocument] at hfetch
    exact load_of_none hfetch
  | some v =>
    rw [hdocument] at hfetch
    rw [load_of_some hfetch, forScan_of_not_obstructedAt h hdocument]
    rfl

theorem ends_load_iff : (l.load env page location).Ends ↔ l.grace ≠ .infinite false := by
  have hdelays : (l.load env page location).delays = l.waits := by
    unfold load
    dsimp only
    split
    · rfl
    · rfl
    · split <;> rfl
  rw [Loading.Ends, hdelays, waits]
  constructor
  · rintro h hgrace
    rw [hgrace] at h
    exact h _ (List.mem_singleton_self _) rfl
  · intro h delay hdelay
    split at hdelay
    · rwa [List.mem_singleton.mp hdelay]
    · exact absurd hdelay List.not_mem_nil

/-- A load fails exactly when its source is obstructed or its planning breaks off, and it ends unless
it is to wait for ever. Otherwise the fetch has the document or warns once, and the page gets the
whole plan of a document, or none of it and stays as it is. -/
theorem load_outcome (env : Surroundings) (l : Loader) (page : Markup.Page)
    (identifier location : String) :
    ((∃ e, (l.fetchDocument env identifier).result = .error e) ↔
      l.source.Obstructed env identifier) ∧
    (¬ l.source.Obstructed env identifier → l.Delivers env identifier ∨ l.Warns env identifier) ∧
    ((∃ e, (l.load env page location).result = .error e) ↔ l.ObstructedAt env page location) ∧
    (¬ l.ObstructedAt env page location →
      (l.load env page location).result =
        .ok ((l.document? env (l.pageFor location)).map fun v =>
          ⟨Binding.apply page (Binding.Plan.ofScan (Binding.scan page) v).writes,
            Binding.Plan.ofScan (Binding.scan page) v⟩)) ∧
    ((l.load env page location).Ends ↔ l.grace ≠ .infinite false) := by
  refine ⟨fetchDocument_error_iff, fetchDocument_of_not_obstructed, ⟨?_, load_of_obstructedAt⟩,
    load_of_not_obstructedAt, ends_load_iff⟩
  rintro ⟨e, he⟩
  by_contra h
  rw [load_of_not_obstructedAt h] at he
  exact absurd he nofun

/-! A directory without documents, asked for an identifier and for one with a null character -/

def emptyDirectory : Surroundings :=
  { files := { entries := [(["content"], .directory)] }
    network := fun _ => .failed ⟨"ConnectError", ""⟩
    clock := .finite ⟨false, 0, 0⟩ }

def directoryLoader (identifier : String) : Loader :=
  { source := .directory (Files.Path.ofString "content")
    routes := ⟨[], identifier⟩
    grace := standardGrace }

theorem load_outcome_emptyDirectory :
    ¬ (directoryLoader "home").source.Obstructed emptyDirectory "home" ∧
    ((directoryLoader "home").Delivers emptyDirectory "home" ∨
      (directoryLoader "home").Warns emptyDirectory "home") := by
  have h : ¬ (directoryLoader "home").source.Obstructed emptyDirectory "home" := by
    rintro ((hnull | ⟨_, hnull⟩) | ⟨body, hbody, _⟩)
    · exact absurd hnull (by decide)
    · exact absurd hnull (by decide)
    · have hnone : (directoryLoader "home").source.body? emptyDirectory "home" = none := by
        decide +kernel
      exact absurd (hnone.symm.trans hbody) nofun
  have houtcome := load_outcome emptyDirectory (directoryLoader "home") Markup.Page.empty "home" "/"
  exact ⟨h, houtcome.2.1 h⟩

/-- A null character in an identifier is not taken for a missing document. -/
theorem load_fails_of_null :
    ((directoryLoader "a\x00b").fetchDocument emptyDirectory "a\x00b").result =
      .error (.path .embeddedNull) ∧
    ((directoryLoader "a\x00b").load emptyDirectory Markup.Page.empty "/x.html").result =
      .error (.path .embeddedNull) :=
  ⟨rfl, rfl⟩

end Loader
end ContentBinding
