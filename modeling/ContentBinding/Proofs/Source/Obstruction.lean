import ContentBinding.Proofs.Files.Written
import ContentBinding.Proofs.Json.Room
import ContentBinding.Source.Fetch

/-! When a source can say whether it has a document. A path with a null character, an address that
cannot be written, a clock without a time, a fault of use and a body for which there is no room are
no answers: they end a fetch in an error that nobody translates. -/

namespace ContentBinding

open Files (Path PathError World)

namespace Files

theorem hasNull_iff (p : Path) :
    World.hasNull p = true ↔ ∃ name ∈ p.names, '\x00' ∈ name.toList := by
  simp [World.hasNull]

end Files

namespace Source

/-- The path of a document holds a null character when the identifier does, or the directory that
it is read in. -/
theorem hasNull_documentPath_iff (dir : Path) (page : String) :
    World.hasNull (documentPath dir page) = true ↔
      '\x00' ∈ page.toList ∨ page.toList.head? ≠ some '/' ∧ World.hasNull dir = true := by
  have hnames : (∃ name ∈ (Path.ofString (page ++ ".json")).names, '\x00' ∈ name.toList) ↔
      '\x00' ∈ page.toList := by
    change (∃ name ∈ Path.namesOf (page ++ ".json").toList, '\x00' ∈ name.toList) ↔ _
    rw [Files.exists_mem_namesOf (by decide) (by decide), String.toList_append, List.mem_append]
    exact or_iff_left (by decide)
  have habsolute : (Path.ofString (page ++ ".json")).isAbsolute = true ↔
      page.toList.head? = some '/' := by
    rw [Files.Path.isAbsolute_ofString, String.toList_append]
    cases page.toList with
    | nil => decide
    | cons a cs => rfl
  -- an absolute page replaces the directory, which then has no part in the path
  rw [Files.hasNull_iff, documentPath, Path.join]
  split
  · rename_i h
    rw [hnames]
    exact (or_iff_left fun hdir => hdir.1 (habsolute.mp h)).symm
  · rename_i h
    have hhead : page.toList.head? ≠ some '/' := fun heq => h (habsolute.mpr heq)
    rw [Files.hasNull_iff]
    dsimp only
    constructor
    · rintro ⟨name, hname, hnull⟩
      rcases List.mem_append.mp hname with hname | hname
      · exact Or.inr ⟨hhead, name, hname, hnull⟩
      · exact Or.inl (hnames.mp ⟨name, hname, hnull⟩)
    · rintro (hpage | ⟨_, name, hname, hnull⟩)
      · obtain ⟨name, hname, hnull⟩ := hnames.mpr hpage
        exact ⟨name, List.mem_append_right _ hname, hnull⟩
      · exact ⟨name, List.mem_append_left _ hname, hnull⟩

/-- What keeps a source from looking for a document. -/
def Unreachable (env : Surroundings) : Source → String → Prop
  | directory dir, page =>
    '\x00' ∈ page.toList ∨ page.toList.head? ≠ some '/' ∧ World.hasNull dir = true
  | remote r, page =>
    (∃ e, Remote.timestamp env.clock = .error e) ∨ (∃ e, r.documentUrl page = .error e) ∨
      ∃ u f, r.documentUrl page = .ok u ∧ env.network (Remote.requestUrl u) = .failed f ∧
        f.isTransport = false

/-- What a source has under an identifier, whether or not it is a document. -/
def body? (env : Surroundings) : Source → String → Option Text.Bytes
  | directory dir, page => (env.files.read (documentPath dir page)).toOption
  | remote r, page =>
    match r.documentUrl page with
    | .error _ => none
    | .ok u =>
      match env.network (Remote.requestUrl u) with
      | .response status body => if Remote.isSuccess status then some body else none
      | .failed _ => none

/-- There is no room to read what stands in a body. -/
def TooDeep (room : Nat) (body : Text.Bytes) : Prop :=
  ∃ e, Json.parseBytes body room = .error e ∧ e.isDepth = true

/-- There is room enough for a body or there is not: only a depth of its own decides. -/
theorem exists_depth (body : Text.Bytes) : ∃ depth, ∀ room, TooDeep room body ↔ room < depth := by
  unfold TooDeep Json.parseBytes
  cases Json.decodeBytes body with
  | error m =>
    refine ⟨0, fun room => iff_of_false ?_ (Nat.not_lt_zero room)⟩
    rintro ⟨e, he, hdepth⟩
    obtain rfl := Except.error.inj he
    exact absurd hdepth Bool.false_ne_true
  | ok cs =>
    obtain ⟨depth, hdepth⟩ := Json.exists_depth cs
    refine ⟨depth, fun room => ?_⟩
    rw [← hdepth]
    dsimp only
    cases Json.parseChars cs room with
    | ok v => simp
    | error e => simp [Json.ByteError.isDepth]

/-- What keeps a source from answering whether it has a document. -/
def Obstructed (env : Surroundings) (s : Source) (page : String) : Prop :=
  s.Unreachable env page ∨ ∃ body, s.body? env page = some body ∧ TooDeep env.files.room body

def document? (env : Surroundings) (s : Source) (page : String) : Option Json.Value :=
  (s.body? env page).bind fun body => (Json.parseBytes body env.files.room).toOption

def Answers (env : Surroundings) (s : Source) (page : String) (r : Except FetchError Json.Value) :
    Prop :=
  (∃ v, s.document? env page = some v ∧ r = .ok v) ∨
    s.document? env page = none ∧ ∃ u, r = .error (.unavailable u)

def Reads (env : Surroundings) (s : Source) (page : String) (r : Except FetchError Json.Value) :
    Prop :=
  (∃ body, s.body? env page = some body ∧
    r = (Unavailable.ofBytes page body env.files.room).mapError .ofUnavailable) ∨
  s.body? env page = none ∧ ∃ u, r = .error (.unavailable u)

variable {env : Surroundings} {dir : Path} {page : String} {s : Source} {r : Remote}
  {result : Except FetchError Json.Value}

theorem ofUnavailable_of_depth {u : Unavailable} (h : u.cause.isDepth = true) :
    FetchError.ofUnavailable u = .fault ⟨"RecursionError", u.reason⟩ := by
  rw [FetchError.ofUnavailable, h, if_pos rfl]

theorem ofUnavailable_of_not_depth {u : Unavailable} (h : u.cause.isDepth = false) :
    FetchError.ofUnavailable u = .unavailable u := by
  rw [FetchError.ofUnavailable, h, if_neg Bool.false_ne_true]

theorem Reads.error_of_tooDeep {body : Text.Bytes} (h : s.Reads env page result)
    (hbody : s.body? env page = some body) (hdeep : TooDeep env.files.room body) :
    ∃ e, result = .error e ∧ ∀ u, e ≠ .unavailable u := by
  obtain ⟨e, hparse, he⟩ := hdeep
  rcases h with ⟨body', hbody', rfl⟩ | ⟨hnone, -⟩
  · obtain rfl := Option.some.inj (hbody.symm.trans hbody')
    have hdepth : (⟨page, .malformed e⟩ : Unavailable).cause.isDepth = true := he
    rw [Unavailable.ofBytes, hparse, Except.mapError, ofUnavailable_of_depth hdepth]
    exact ⟨_, rfl, nofun⟩
  · exact absurd (hbody.symm.trans hnone) nofun

theorem Reads.answers (h : s.Reads env page result)
    (hdeep : ¬ ∃ body, s.body? env page = some body ∧ TooDeep env.files.room body) :
    s.Answers env page result := by
  unfold Answers document?
  rcases h with ⟨body, hbody, rfl⟩ | ⟨hnone, u, rfl⟩
  · rw [hbody, Unavailable.ofBytes, Option.bind_some]
    cases hparse : Json.parseBytes body env.files.room with
    | ok v => exact .inl ⟨v, rfl, rfl⟩
    | error e =>
      have hdepth : (⟨page, .malformed e⟩ : Unavailable).cause.isDepth = false :=
        Bool.eq_false_iff.mpr fun he => hdeep ⟨body, hbody, e, hparse, he⟩
      rw [Except.mapError, ofUnavailable_of_not_depth hdepth]
      exact .inr ⟨rfl, _, rfl⟩
  · rw [hnone]
    exact .inr ⟨rfl, u, rfl⟩

theorem read_of_hasNull {w : World} {p : Path} (h : World.hasNull p = true) :
    w.read p = .error .embeddedNull := by
  rw [World.read, if_pos h]

theorem read_of_not_hasNull {w : World} {p : Path} (h : ¬ World.hasNull p = true) :
    (∃ content, w.read p = .ok content) ∨ ∃ e, w.read p = .error (.system e) := by
  rw [World.read, if_neg h]
  cases w.locate p with
  | error r => exact .inr ⟨_, rfl⟩
  | ok found =>
    obtain ⟨place, e⟩ := found
    dsimp only
    split
    · exact .inr ⟨_, rfl⟩
    · cases e with
      | file content => exact .inl ⟨content, rfl⟩
      | directory | link => exact .inr ⟨_, rfl⟩

theorem readFile_of_unreachable (h : (directory dir).Unreachable env page) :
    readFile env.files dir page = .error (.path .embeddedNull) := by
  rw [readFile, read_of_hasNull ((hasNull_documentPath_iff dir page).mpr h)]

theorem reads_file (h : ¬ (directory dir).Unreachable env page) :
    (directory dir).Reads env page (readFile env.files dir page) := by
  have hnull := mt (hasNull_documentPath_iff dir page).mp h
  rcases read_of_not_hasNull (w := env.files) hnull with ⟨body, hread⟩ | ⟨e, hread⟩
  · refine .inl ⟨body, ?_, ?_⟩
    · rw [body?, hread]
      rfl
    · rw [readFile, hread]
  · refine .inr ⟨?_, ⟨page, .system e⟩, ?_⟩
    · rw [body?, hread]
      rfl
    · rw [readFile, hread]

theorem eq_clock_of_truncated {t : Number.Double} {e : FetchError}
    (h : Remote.truncated t = .error e) : e = .clock t := by
  cases t with
  | finite v => exact absurd h nofun
  | infinite negative => exact (Except.error.inj h).symm
  | nan => exact (Except.error.inj h).symm

theorem eq_clock_of_timestamp {clock : Number.Double} {e : FetchError}
    (h : Remote.timestamp clock = .error e) : ∃ t, e = .clock t := by
  cases clock with
  | finite v => exact ⟨v.scale 1000, eq_clock_of_truncated h⟩
  | infinite negative => exact ⟨.infinite negative, (Except.error.inj h).symm⟩
  | nan => exact ⟨.nan, (Except.error.inj h).symm⟩

theorem fetchRemote_result {time : Int} {u : Url} (htime : Remote.timestamp env.clock = .ok time)
    (hurl : r.documentUrl page = .ok u) : (fetchRemote env r page).result =
      Remote.read env.files.room page (env.network (Remote.requestUrl u)) := by
  unfold fetchRemote
  rw [htime]
  dsimp only
  rw [hurl]

theorem fetchRemote_of_unreachable (h : (remote r).Unreachable env page) :
    ∃ e, (fetchRemote env r page).result = .error e ∧ ∀ u, e ≠ .unavailable u := by
  cases htime : Remote.timestamp env.clock with
  | error e =>
    obtain ⟨t, rfl⟩ := eq_clock_of_timestamp htime
    refine ⟨.clock t, ?_, nofun⟩
    rw [fetchRemote, htime]
  | ok time =>
    cases hurl : r.documentUrl page with
    | error e =>
      refine ⟨.address e, ?_, nofun⟩
      rw [fetchRemote, htime]
      dsimp only
      rw [hurl]
    | ok u =>
      rcases h with ⟨e, he⟩ | ⟨e, he⟩ | ⟨u', f, hu', hreply, hfault⟩
      · exact absurd (htime.symm.trans he) nofun
      · exact absurd (hurl.symm.trans he) nofun
      · obtain rfl := Except.ok.inj (hurl.symm.trans hu')
        refine ⟨.fault f, ?_, nofun⟩
        rw [fetchRemote_result htime hurl, hreply, Remote.read, if_neg (by simp [hfault])]

theorem reads_remote (h : ¬ (remote r).Unreachable env page) :
    (remote r).Reads env page (fetchRemote env r page).result := by
  obtain ⟨time, htime⟩ : ∃ time, Remote.timestamp env.clock = .ok time := by
    cases htime : Remote.timestamp env.clock with
    | error e => exact absurd (Or.inl ⟨e, htime⟩) h
    | ok time => exact ⟨time, rfl⟩
  obtain ⟨u, hurl⟩ : ∃ u, r.documentUrl page = .ok u := by
    cases hurl : r.documentUrl page with
    | error e => exact absurd (Or.inr (Or.inl ⟨e, hurl⟩)) h
    | ok u => exact ⟨u, rfl⟩
  rw [fetchRemote_result htime hurl]
  cases hreply : env.network (Remote.requestUrl u) with
  | failed f =>
    have htransport : f.isTransport = true := by
      cases hfault : f.isTransport with
      | true => rfl
      | false => exact absurd (Or.inr (Or.inr ⟨u, f, hurl, hreply, hfault⟩)) h
    rw [Remote.read, if_pos htransport]
    refine .inr ⟨?_, _, rfl⟩
    simp only [body?, hurl, hreply]
  | response status body =>
    rw [Remote.read]
    cases hsuccess : Remote.isSuccess status with
    | false =>
      rw [if_neg Bool.false_ne_true]
      refine .inr ⟨?_, _, rfl⟩
      simp [body?, hurl, hreply, hsuccess]
    | true =>
      rw [if_pos rfl]
      refine .inl ⟨body, ?_, rfl⟩
      simp [body?, hurl, hreply, hsuccess]

theorem fetch_reads (h : ¬ s.Unreachable env page) :
    s.Reads env page (s.fetch env page).result := by
  cases s with
  | directory dir =>
    rw [fetch]
    exact reads_file h
  | remote r =>
    rw [fetch]
    exact reads_remote h

/-- An obstructed source ends a fetch in an error that is not taken for an answer. -/
theorem fetch_of_obstructed (h : s.Obstructed env page) :
    ∃ e, (s.fetch env page).result = .error e ∧ ∀ u, e ≠ .unavailable u := by
  by_cases hreach : s.Unreachable env page
  · cases s with
    | directory dir =>
      refine ⟨.path .embeddedNull, ?_, nofun⟩
      rw [fetch, readFile_of_unreachable hreach]
    | remote r =>
      rw [fetch]
      exact fetchRemote_of_unreachable hreach
  · rcases h with h | ⟨body, hbody, hdeep⟩
    · exact absurd h hreach
    · exact (fetch_reads hreach).error_of_tooDeep hbody hdeep

theorem fetch_answers (h : ¬ s.Obstructed env page) :
    s.Answers env page (s.fetch env page).result :=
  (fetch_reads fun hreach => h (.inl hreach)).answers fun hdeep => h (.inr hdeep)

theorem describe_of_not_obstructed (h : ¬ s.Obstructed env page) :
    ∃ name, s.describe page = .ok name := by
  cases s with
  | directory dir => exact ⟨_, rfl⟩
  | remote r =>
    rw [describe]
    cases hurl : r.documentUrl page with
    | error e => exact absurd (Or.inl (Or.inr (Or.inl ⟨e, hurl⟩))) h
    | ok u => exact ⟨u.toString, rfl⟩

theorem not_isWarning_of_fetch {n : Note} (hn : n ∈ (s.fetch env page).notes) :
    n.isWarning = false := by
  cases s with
  | directory dir => exact absurd hn List.not_mem_nil
  | remote r =>
    change n ∈ (fetchRemote env r page).notes at hn
    unfold fetchRemote at hn
    split at hn
    · exact absurd hn List.not_mem_nil
    · split at hn
      · exact absurd hn List.not_mem_nil
      · rw [List.mem_singleton.mp hn]
        rfl

end Source
end ContentBinding
