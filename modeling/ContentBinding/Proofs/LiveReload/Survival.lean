import ContentBinding.Proofs.Config.Accepted
import ContentBinding.Proofs.LiveReload.Covering
import ContentBinding.Proofs.LiveReload.Delivery
import ContentBinding.Server.Basic

/-! Whether the watcher of a server survives what changes. Settings may hold any texts for patterns.
A blank one among them ends the watcher as soon as it is tried, which some change brings about; with
other patterns nothing ends the watcher but a path that cannot be resolved. -/

namespace ContentBinding.LiveReload

open Files (Path World)

variable {w w' : World} {s s₀ : Session} {c : Config} {patterns : List String}
  {change : Change × Path} {p r : Path} {watched : List Path} {notes : List Note}

namespace Session

open Course (IsOwn Stumbles Unresolved takenIn)

def Answers (s : Session) : Prop :=
  ∀ now p q, World.resolve now p = .ok q → ∃ url, urlPath now s.roots s.patterns p = .ok url

/-- The watcher runs as long as the paths of changes can be resolved. -/
def Outlasts (s : Session) : Prop :=
  ∀ t c, Course.Steps { session := s } t c → (∀ taken ∈ takenIn t, ¬ Unresolved taken) →
    c.session.watcher = .running

/-- After any changes whose paths could be resolved, all others like that are worked on. -/
def WorksOn (s : Session) : Prop :=
  ∀ t c, Course.Steps { session := s } t c → (∀ taken ∈ takenIn t, ¬ Unresolved taken) →
    ∀ now, (∀ change ∈ c.waiting, ¬ Unresolved (now, change)) →
      ∃ t' c', Course.Steps c t' c' ∧ (∀ h ∈ t', IsOwn h) ∧
        takenIn t' = c.waiting.map (now, ·) ∧ c'.waiting = [] ∧ c'.telling = []

/-! Patterns that are not blank -/

theorem answers_of_not_blank (hpatterns : ∀ p ∈ s.patterns, ¬ IsBlank p) : s.Answers := by
  intro now p q hresolve
  cases hurl : urlPath now s.roots s.patterns p with
  | ok url => exact ⟨url, rfl⟩
  | error e =>
    rcases urlPath_error_iff.mp ⟨e, hurl⟩ with ⟨e', herror⟩ | ⟨q', names, -, -, hmeets⟩
    · exact absurd (hresolve.symm.trans herror) nofun
    · obtain ⟨p, hp, hblank⟩ := hmeets.exists_blank
      exact absurd hblank (hpatterns p hp)

theorem outlasts_of_not_blank (hrunning : s.watcher = .running)
    (hpatterns : ∀ p ∈ s.patterns, ¬ IsBlank p) : s.Outlasts := by
  intro t c hrun hresolved
  rw [hrun.running_iff hrunning]
  intro taken htaken
  rw [Course.fails_iff_unresolved hpatterns]
  exact hresolved taken htaken

theorem worksOn_of_not_blank (hrunning : s.watcher = .running) (hnobody : s.connections = [])
    (hpatterns : ∀ p ∈ s.patterns, ¬ IsBlank p) : s.WorksOn := by
  intro t c hrun hresolved now hwaiting
  have hruns := outlasts_of_not_blank hrunning hpatterns t c hrun hresolved
  have hc := (Course.Sound.start hnobody).steps hrun
  refine hc.exists_finished hruns fun change hmem => ?_
  rw [hrun.fails_iff, Course.fails_iff_unresolved hpatterns]
  exact hwaiting change hmem

/-! A blank pattern -/

/-- A change of a watched directory itself comes to a blank pattern, wherever that stands. -/
theorem stumbles_of_blank (hresolve : w.resolve p = .ok r)
    (hroot : belowRoot? s.roots r = some []) (hblank : ∃ p ∈ s.patterns, IsBlank p) :
    Stumbles s (w, (.modified, p)) :=
  ⟨nofun, r, [], hresolve, hroot, meetsBlank_nil_iff.mpr hblank⟩

theorem not_answers_of_stumbles (h : Stumbles s (w, change)) : ¬ s.Answers := by
  obtain ⟨-, q, names, hresolve, hroot, hmeets⟩ := h
  intro hanswers
  obtain ⟨url, hurl⟩ := hanswers w change.2 q hresolve
  obtain ⟨e, he⟩ := urlPath_error_iff.mpr (.inr ⟨q, names, hresolve, hroot, hmeets⟩)
  exact absurd (hurl.symm.trans he) nofun

theorem not_unresolved_of_stumbles (h : Stumbles s (w, change)) : ¬ Unresolved (w, change) := by
  obtain ⟨-, q, names, hresolve, -⟩ := h
  rintro ⟨-, e, he⟩
  exact absurd (hresolve.symm.trans he) nofun

theorem exists_ended (hrunning : s.watcher = .running) (h : Stumbles s (w, change)) :
    ∃ t c, Course.Steps { session := s } t c ∧ takenIn t = [(w, change)] ∧
      c.waiting = [change] ∧ c.session.watcher ≠ .running := by
  obtain ⟨e, he⟩ := Course.fails_iff.mpr (.inr h)
  have hreported : Course.Steps { session := s } [.reported [change, change]] _ :=
    .single .report
  exact ⟨_, _, hreported.snoc (.die ⟨hrunning, rfl, rfl⟩ he), rfl, rfl, nofun⟩

theorem not_outlasts_of_stumbles (hrunning : s.watcher = .running) (h : Stumbles s (w, change)) :
    ¬ s.Outlasts := by
  obtain ⟨t, c, hrun, htaken, -, hended⟩ := exists_ended hrunning h
  intro houtlasts
  refine hended (houtlasts t c hrun ?_)
  rw [htaken]
  exact List.forall_mem_singleton.mpr (not_unresolved_of_stumbles h)

theorem not_worksOn_of_stumbles (hrunning : s.watcher = .running) (h : Stumbles s (w, change)) :
    ¬ s.WorksOn := by
  obtain ⟨t, c, hrun, htaken, hwaiting, hended⟩ := exists_ended hrunning h
  intro hworks
  have hresolved := not_unresolved_of_stumbles h
  obtain ⟨t', c', hon, -, hall, -⟩ :=
    hworks t c hrun (by simpa [htaken] using hresolved) w (by simpa [hwaiting] using hresolved)
  rw [(hon.takenIn_eq_nil hended).1, hwaiting] at hall
  exact absurd hall nofun

/-! All of it -/

/-- What becomes of a session with these patterns that was started as `s`. -/
structure Endures (patterns : List String) (s : Session) : Prop where
  answers_iff : s.Answers ↔ ∀ p ∈ patterns, ¬ IsBlank p
  outlasts_iff : s.Outlasts ↔ ∀ p ∈ patterns, ¬ IsBlank p
  worksOn_iff : s.WorksOn ↔ ∀ p ∈ patterns, ¬ IsBlank p
  /-- A change ends the watcher if its path cannot be resolved or comes to a blank pattern. -/
  running_iff : ∀ t c, Course.Steps { session := s } t c →
    (c.session.watcher = .running ↔ ∀ taken ∈ takenIn t, ¬ Unresolved taken ∧ ¬ Stumbles s taken)
  /-- Nothing is worked on after that. -/
  ended : ∀ t c, Course.Steps { session := s } t c → c.session.watcher ≠ .running →
    ∀ t' c', Course.Steps c t' c' → takenIn t' = []
  /-- Batches, each worked on without interruption, are such a course. -/
  handles : ∀ t c, Course.Steps { session := s } t c → c.telling = [] → ∀ now,
    ∃ t' c', Course.Steps c t' c' ∧
      c'.session = (c.session.handleChanges now c.waiting).1 ∧ c'.telling = []

theorem endures_of_root (hrunning : s.watcher = .running) (hnobody : s.connections = [])
    (hresolve : w.resolve p = .ok r) (hroot : belowRoot? s.roots r = some []) :
    Endures s.patterns s := by
  have hstumbles : (¬ ∀ p ∈ s.patterns, ¬ IsBlank p) → Stumbles s (w, (.modified, p)) := by
    intro hnot
    push Not at hnot
    exact stumbles_of_blank hresolve hroot hnot
  constructor
  · refine ⟨not_imp_not.mp fun hnot => ?_, answers_of_not_blank⟩
    exact not_answers_of_stumbles (hstumbles hnot)
  · refine ⟨not_imp_not.mp fun hnot => ?_, outlasts_of_not_blank hrunning⟩
    exact not_outlasts_of_stumbles hrunning (hstumbles hnot)
  · refine ⟨not_imp_not.mp fun hnot => ?_, worksOn_of_not_blank hrunning hnobody⟩
    exact not_worksOn_of_stumbles hrunning (hstumbles hnot)
  · intro t c hrun
    simp only [hrun.running_iff hrunning, Course.fails_iff, not_or]
  · intro t c _ hended t' c' hon
    exact (hon.takenIn_eq_nil hended).1
  · intro t c hrun hidle now
    have hc := (Course.Sound.start hnobody).steps hrun
    obtain ⟨t', c', hon, hsession, hquiet, -⟩ := hc.exists_handleChanges hidle now
    exact ⟨t', c', hon, hsession, hquiet⟩

end Session

/-! Settings -/

theorem ofTable_patterns (dir : Path) (patterns : List String) :
    Config.ofTable dir
        [("live_reload", .table [("watch_patterns", .array (patterns.map .str))])] =
      .ok { site := SiteSettings.standard dir, reload := ⟨true, some patterns⟩ } := by
  have hitems : (patterns.map Toml.Value.str).mapM Schema.pattern = .ok patterns := by
    rw [mapM_eq_ok_iff, List.forall₂_map_left_iff, List.forall₂_same]
    intro p _
    rfl
  have hreload : Schema.reload [("watch_patterns", .array (patterns.map .str))] =
      .ok ⟨true, some patterns⟩ := by
    unfold Schema.reload Schema.patterns
    simp only [List.lookup, beq_self_eq_true, hitems]
    rfl
  unfold Config.ofTable Schema.part
  simp [Schema.section?, List.lookup, hreload, bind, Except.bind, pure, Except.pure]

theorem forall_not_isBlank_iff :
    (∀ p ∈ if patterns.isEmpty then defaultPatterns else patterns, ¬ IsBlank p) ↔
      ∀ p ∈ patterns, ¬ IsBlank p := by
  split
  · next hempty =>
    rw [List.isEmpty_iff.mp hempty]
    exact iff_of_true (fun p hp => not_isBlank_of_default hp) nofun
  · rfl

theorem create_of_sessionFor (h : Server.sessionFor w c = .ok (some s)) :
    Session.create w [c.site.root, c.site.content] (c.reload.patterns.getD []) = .ok s := by
  unfold Server.sessionFor at h
  split at h
  · cases hcreate : Session.create w [c.site.root, c.site.content] (c.reload.patterns.getD []) with
    | error e =>
      rw [hcreate] at h
      exact absurd h nofun
    | ok s' =>
      rw [hcreate] at h
      exact congrArg Except.ok (Option.some.inj (Except.ok.inj h))
  · exact absurd h nofun

/-- The watcher of a server survives all changes whose paths can be resolved if, and only if, no
pattern of its settings is blank. -/
theorem watcher_endures (hsession : Server.sessionFor w c = .ok (some s₀))
    (hstart : s₀.start w' = (s, some watched, notes)) :
    Session.Endures (c.reload.patterns.getD []) s := by
  obtain ⟨hroots, hnobody, hpatterns⟩ := Session.of_create (create_of_sessionFor hsession)
  obtain rfl := Session.of_start hstart
  -- no pattern with names fits this directory, so that its own change comes to a blank one
  obtain ⟨d, -, r, hresolve, hroot⟩ := exists_root hroots List.mem_cons_self
  have hendures := Session.endures_of_root (s := { s₀ with watcher := .running }) rfl hnobody
    hresolve hroot
  have hiff : (∀ p ∈ s₀.patterns, ¬ IsBlank p) ↔ ∀ p ∈ c.reload.patterns.getD [], ¬ IsBlank p := by
    rw [hpatterns]
    exact forall_not_isBlank_iff
  exact {
    hendures with
    answers_iff := hendures.answers_iff.trans hiff
    outlasts_iff := hendures.outlasts_iff.trans hiff
    worksOn_iff := hendures.worksOn_iff.trans hiff }

/-! A site whose settings have a blank pattern -/

def blankText : String :=
  "[live_reload]\nwatch_patterns = [\"*.html\", \"\"]\n"

def blankPatterns : List String := ["*.html", ""]

def blankSite : World :=
  { entries := [(["pagebind.toml"], .file (Text.encodeUtf8 blankText)), (["site"], .directory),
      (["site", "p.html"], .file [120]), (["site", "style.css"], .file [120])] }

def blankConfig : Config where
  site := SiteSettings.standard (.absolute [])
  reload := ⟨true, some blankPatterns⟩
  origin := some (.absolute ["pagebind.toml"])

theorem load_blankSite : Config.load blankSite none = .ok blankConfig := by
  have hfound : Config.discover blankSite = .ok (some (.absolute ["pagebind.toml"])) := by rfl
  have hparse : Toml.parse blankText =
      .ok [("live_reload", .table [("watch_patterns", .array (blankPatterns.map .str))])] := by cbv
  have hfile : Config.HoldsTable blankSite (.absolute ["pagebind.toml"])
      [("live_reload", .table [("watch_patterns", .array (blankPatterns.map .str))])] := by
    refine ⟨Text.encodeUtf8 blankText, blankText.toList, rfl, Text.decodeUtf8_encodeUtf8 _ _, rfl, ?_⟩
    rw [String.ofList_toList]
    exact hparse
  rw [Config.load, hfound]
  exact Config.readFile_of_ok hfile (ofTable_patterns _ _)

def blankSession : Session :=
  { roots := [.absolute ["site"]], patterns := blankPatterns }

def runningBlank : Session :=
  { blankSession with watcher := .running }

theorem rootsOf_blankSite :
    rootsOf blankSite [.absolute ["site"], .absolute ["site", "content"]] =
      .ok [.absolute ["site"]] := by
  let dirs : List Path := [.absolute ["site"], .absolute ["site", "content"]]
  have hplaces : List.Forall₂ (fun d q => blankSite.resolve d = .ok q) dirs dirs := by
    rw [List.forall₂_same]
    decide +kernel
  have hshortest : Shortest dirs := by
    unfold Shortest
    decide
  have hperm : [Path.absolute ["site"]].Perm (distinctRoots dirs) :=
    (covers_distinctRoots dirs).perm (covers_foldl hshortest) fun _ => Iff.rfl
  exact rootsOf_eq_ok_iff.mpr ⟨dirs, hplaces, List.singleton_perm.mp hperm⟩

theorem sessionFor_blankSite : Server.sessionFor blankSite blankConfig = .ok (some blankSession) := by
  show (Session.create blankSite [.absolute ["site"], .absolute ["site", "content"]]
    blankPatterns).map some = _
  rw [Session.create, rootsOf_blankSite]
  rfl

theorem start_blankSession :
    blankSession.start blankSite = (runningBlank, some [.absolute ["site"]], []) := by
  rfl

/-- With a blank pattern nothing of it holds. -/
theorem watcher_endures_blankSite :
    Server.sessionFor blankSite blankConfig = .ok (some blankSession) ∧
    blankSession.start blankSite = (runningBlank, some [.absolute ["site"]], []) ∧
    ¬ runningBlank.Answers ∧ ¬ runningBlank.Outlasts ∧ ¬ runningBlank.WorksOn := by
  have hendures := watcher_endures sessionFor_blankSite start_blankSession
  have hblank : ¬ ∀ p ∈ blankConfig.reload.patterns.getD [], ¬ IsBlank p := by decide
  refine ⟨sessionFor_blankSite, start_blankSession, ?_, ?_, ?_⟩
  · rwa [hendures.answers_iff]
  · rwa [hendures.outlasts_iff]
  · rwa [hendures.worksOn_iff]

def sheetChange : Change × Path := (.modified, .absolute ["site", "style.css"])

/-- Settings that are accepted, with which a change of a style sheet ends the watcher, so that the
next change of a page is not told. -/
theorem accepted_pattern_ends_watcher :
    Config.load blankSite none = .ok blankConfig ∧
    Server.sessionFor blankSite blankConfig = .ok (some blankSession) ∧
    blankSession.start blankSite = (runningBlank, some [.absolute ["site"]], []) ∧
    urlPath blankSite runningBlank.roots runningBlank.patterns sheetChange.2 =
      .error .emptyPattern ∧
    (let s := (runningBlank.connect "a").1
     let failed := (s.handleChanges blankSite [sheetChange]).1
     s.handleChanges blankSite [pageChange] = (s, [("a", .sent "/p.html")]) ∧
       failed.watcher = .failed .emptyPattern ∧
       failed.handleChanges blankSite [pageChange] = (failed, [])) := by
  refine ⟨load_blankSite, sessionFor_blankSite, start_blankSession, ?_, ?_, ?_, ?_⟩
  all_goals rfl

end ContentBinding.LiveReload
