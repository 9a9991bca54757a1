import ContentBinding.Proofs.LiveReload.Course
import ContentBinding.Proofs.LiveReload.Matching

/-! Which notices browsers get. Nothing that was reported is lost or told twice as long as the
watcher runs, and it runs until it takes up a change whose path cannot be resolved. -/

namespace ContentBinding.LiveReload

open Files (Path PathError World)

namespace Course

variable {c c' c'' : Course} {t t' : List Happening} {h : Happening} {name path : String}

/-! A browser that is gone -/

/-- A browser that came once and that nobody will tell anything. -/
structure Gone (c : Course) (name : String) : Prop where
  known : name ∈ c.known
  not_has : ¬ c.Has name
  not_telling : name ∉ c.telling

theorem not_hasOpen_of_not_has (hnot : ¬ c.Has name) : ¬ c.HasOpen name :=
  fun ⟨b, hb, hname, _⟩ => hnot ⟨b, hb, hname⟩

theorem Gone.step (hg : c.Gone name) (hstep : Step c h c') : c'.Gone name where
  known := hstep.known_subset hg.known
  not_has := by
    rw [has_iff]
    intro hmem
    rcases hstep.names with hsub | ⟨n, -, hnew, heq⟩
    · exact hg.not_has (has_iff.mpr (hsub.subset hmem))
    · rw [heq, List.mem_append, List.mem_singleton] at hmem
      rcases hmem with hold | rfl
      · exact hg.not_has (has_iff.mpr hold)
      · exact hnew hg.known
  not_telling := by
    intro hmem
    rcases hstep.telling with hsub | heq
    · exact hg.not_telling (hsub.subset hmem)
    · rw [heq, mem_audience_names] at hmem
      exact not_hasOpen_of_not_has hg.not_has hmem

theorem Gone.isAttempt_eq (hg : c.Gone name) (hstep : Step c h c') : isAttempt name h = false := by
  cases hstep with
  | tell hmem =>
    refine decide_eq_false fun heq => ?_
    exact hg.not_telling (heq ▸ hmem)
  | _ => rfl

theorem Gone.steps (hg : c.Gone name) (hrun : Steps c t c') : c'.Gone name ∧ attempts name t = 0 := by
  induction hrun with
  | refl => exact ⟨hg, rfl⟩
  | snoc _ hstep ih =>
    obtain ⟨hgone, hnone⟩ := ih
    refine ⟨hgone.step hstep, ?_⟩
    rw [attempts_append, hnone]
    simp [attempts, hgone.isAttempt_eq hstep]

theorem Sound.gone_of_failed (hc : c.Sound) (hstep : Step c (.told name path false) c') :
    c'.Gone name := by
  generalize harrived : false = arrived at hstep
  cases hstep with
  | @tell _ fails hmem _ =>
    obtain rfl : fails = true := by simpa using harrived
    refine ⟨hc.telling_known hmem, ?_, hc.telling_nodup.not_mem_erase⟩
    rw [has_iff]
    exact not_mem_leave_names _ _

/-! One change -/

theorem Step.attempts_add (hstep : Step c h c') (hnone : pathOf h = none) (name : String) :
    attempts name [h] + c'.telling.count name = c.telling.count name := by
  cases hstep with
  | @tell n fails hmem _ =>
    by_cases heq : n = name
    · subst heq
      have hpos : 0 < c.telling.count n := List.count_pos_iff.mpr hmem
      simp only [attempts, isAttempt, List.countP_singleton, decide_true, if_true,
        List.count_erase_self]
      omega
    · simp [attempts, isAttempt, heq, List.count_erase_of_ne (Ne.symm heq)]
  | «begin» => exact absurd hnone nofun
  | _ => simp [attempts, isAttempt]

theorem Step.path_eq (hstep : Step c h c') (hnone : pathOf h = none) : c'.path = c.path := by
  cases hstep with
  | «begin» => exact absurd hnone nofun
  | _ => rfl

theorem pathOf_eq_none_of_concat (hnone : pathsIn (t ++ [h]) = []) :
    pathsIn t = [] ∧ pathOf h = none := by
  rw [pathsIn_append, List.append_eq_nil_iff] at hnone
  exact ⟨hnone.1, by simpa [pathsIn] using hnone.2⟩

theorem Steps.attempts_add (hrun : Steps c t c') (hnone : pathsIn t = []) (name : String) :
    attempts name t + c'.telling.count name = c.telling.count name := by
  induction hrun with
  | refl => simp [attempts]
  | snoc _ hstep ih =>
    obtain ⟨hbefore, hlast⟩ := pathOf_eq_none_of_concat hnone
    have hdue := hstep.attempts_add hlast name
    have hsofar := ih hbefore
    rw [attempts_append]
    omega

theorem Steps.path_eq (hrun : Steps c t c') (hnone : pathsIn t = []) : c'.path = c.path := by
  induction hrun with
  | refl => rfl
  | snoc _ hstep ih =>
    obtain ⟨hbefore, hlast⟩ := pathOf_eq_none_of_concat hnone
    rw [hstep.path_eq hlast, ih hbefore]

theorem Steps.told_path (hrun : Steps c t c') (hnone : pathsIn t = []) {arrived : Bool}
    (htold : .told name path arrived ∈ t) : path = c.path := by
  induction hrun with
  | refl => exact absurd htold List.not_mem_nil
  | snoc hrun hstep ih =>
    obtain ⟨hbefore, -⟩ := pathOf_eq_none_of_concat hnone
    rcases List.mem_append.mp htold with hold | hlast
    · exact ih hbefore hold
    · rw [← hrun.path_eq hbefore]
      rw [← List.mem_singleton.mp hlast] at hstep
      cases hstep
      rfl

open Classical in
theorem Sound.count_audience (hc : c.Sound) (name : String) :
    (c.session.audience.map (·.name)).count name = if c.HasOpen name then 1 else 0 := by
  split
  · next hopen =>
    exact List.count_eq_one_of_mem (hc.nodup.sublist (audience_names_sublist _))
      (mem_audience_names.mpr hopen)
  · next hnot => exact List.count_eq_zero.mpr fun hmem => hnot (mem_audience_names.mp hmem)

/-! The order of messages -/

def dueTo (c : Course) (name : String) : List String :=
  if name ∈ c.telling then [c.path] else []

theorem dueTo_sublist (c : Course) (name : String) : (c.dueTo name).Sublist [c.path] := by
  unfold dueTo
  split
  · exact .refl _
  · exact List.nil_sublist _

theorem Steps.received_sublist (hc : c.Sound) (hrun : Steps c t c') (hidle : c.telling = []) :
    (receivedBy name t ++ c'.dueTo name).Sublist (pathsIn t) := by
  induction hrun with
  | refl => simp [receivedBy, dueTo, hidle, pathsIn]
  | @snoc c' c'' t h hrun hstep ih =>
    rw [receivedBy_append, pathsIn_append]
    cases hstep with
    | @«begin» w change rest path hready hnotice =>
      have hnothing : c'.dueTo name = [] := by simp [dueTo, hready.telling]
      rw [hnothing, List.append_nil] at ih
      have hreceived : receivedBy name [.begun w change path] = [] := rfl
      rw [hreceived, List.append_nil]
      exact ih.append (dueTo_sublist _ _)
    | @tell n fails hmem _ =>
      have hpaths : pathsIn [.told n c'.path !fails] = [] := rfl
      rw [hpaths, List.append_nil]
      -- what `name` is due moves to what it received, or is lost with the connection
      refine .trans ?_ ih
      rw [List.append_assoc]
      refine (List.Sublist.refl _).append ?_
      by_cases heq : n = name
      · subst heq
        have hnot : n ∉ c'.telling.erase n := (hc.steps hrun).telling_nodup.not_mem_erase
        cases fails <;> simp [receivedBy, receivedOf, dueTo, hmem, hnot]
      · have hiff : name ∈ c'.telling.erase n ↔ name ∈ c'.telling :=
          List.mem_erase_of_ne (Ne.symm heq)
        cases fails <;> simp [receivedBy, receivedOf, dueTo, heq, hiff]
    | _ => simpa [receivedBy, receivedOf, dueTo, pathsIn, pathOf, List.filterMap_cons] using ih

/-! The watcher -/

def Fails (s : Session) (taken : World × (Change × Path)) : Prop :=
  ∃ e, s.notice? taken.1 taken.2 = .error e

def Stumbles (s : Session) (taken : World × (Change × Path)) : Prop :=
  taken.2.1 ≠ .deleted ∧ ∃ q names, taken.1.resolve taken.2.2 = .ok q ∧
    belowRoot? s.roots q = some names ∧ MeetsBlank names s.patterns

theorem fails_iff {s : Session} {taken : World × (Change × Path)} :
    Fails s taken ↔ Unresolved taken ∨ Stumbles s taken := by
  obtain ⟨w, kind, p⟩ := taken
  -- a deletion is passed over, and any other change has the address of its path
  cases kind with
  | deleted =>
    refine iff_of_false nofun ?_
    rintro (⟨hkind, -⟩ | ⟨hkind, -⟩)
    · exact hkind rfl
    · exact hkind rfl
  | added | modified =>
    refine urlPath_error_iff.trans (or_congr ?_ ?_)
    · exact ⟨fun h => ⟨nofun, h⟩, And.right⟩
    · exact ⟨fun h => ⟨nofun, h⟩, And.right⟩

theorem fails_iff_unresolved {s : Session} {taken : World × (Change × Path)}
    (hpatterns : ∀ p ∈ s.patterns, ¬ IsBlank p) : Fails s taken ↔ Unresolved taken := by
  refine fails_iff.trans (or_iff_left ?_)
  rintro ⟨-, q, names, -, -, hmeets⟩
  obtain ⟨p, hp, hblank⟩ := hmeets.exists_blank
  exact hpatterns p hp hblank

theorem not_fails_of_ok {s : Session} {w : World} {change : Change × Path} {notice : Option String}
    (hnotice : s.notice? w change = .ok notice) : ¬ Fails s (w, change) := by
  rintro ⟨e, he⟩
  exact absurd (hnotice.symm.trans he) nofun

theorem Steps.fails_iff (hrun : Steps c t c') (taken : World × (Change × Path)) :
    Fails c'.session taken ↔ Fails c.session taken := by
  rw [Fails, Fails, hrun.notice?_eq]

theorem Steps.patterns_eq (hrun : Steps c t c') : c'.session.patterns = c.session.patterns := by
  induction hrun with
  | refl => rfl
  | snoc _ hstep ih =>
    rw [← ih]
    cases hstep with
    | @tell n fails => cases fails <;> rfl
    | _ => rfl

theorem Step.running_of_taken (hstep : Step c h c') (htaken : takenOf h ≠ none) :
    c.session.watcher = .running := by
  cases hstep with
  | pass hready | «begin» hready | die hready => exact hready.running
  | _ => exact absurd rfl htaken

/-- One step ends the watcher if, and only if, it takes up a change that fails. -/
theorem Step.running_iff (hstep : Step c h c') :
    c'.session.watcher = .running ↔
      c.session.watcher = .running ∧ ∀ taken ∈ takenIn [h], ¬ Fails c.session taken := by
  cases hstep with
  | pass hready hnotice | «begin» hready hnotice =>
    have hsound := not_fails_of_ok hnotice
    simp [takenIn, takenOf, hsound]
  | @die w change rest e hready hnotice =>
    have hfails : Fails c.session (w, change) := ⟨e, hnotice⟩
    simp [takenIn, takenOf, hfails]
  | @tell n fails => cases fails <;> simp [takenIn, takenOf, Session.tell, Session.leave]
  | _ => simp [takenIn, takenOf, List.filterMap_cons, Session.connect, Session.leave,
      Session.closeHalf, Session.breakSends, Session.updateConnection]

theorem Steps.running_iff (hrun : Steps c t c') (hrunning : c.session.watcher = .running) :
    c'.session.watcher = .running ↔ ∀ taken ∈ takenIn t, ¬ Fails c.session taken := by
  induction hrun with
  | refl => simp [hrunning, takenIn]
  | snoc hrun hstep ih =>
    simp only [hstep.running_iff, ih, takenIn_append, List.mem_append, or_imp, forall_and,
      hrun.fails_iff]

theorem Steps.takenIn_eq_nil (hrun : Steps c t c') (hended : c.session.watcher ≠ .running) :
    takenIn t = [] ∧ c'.session.watcher ≠ .running := by
  induction hrun with
  | refl => exact ⟨rfl, hended⟩
  | @snoc c' c'' t h _ hstep ih =>
    obtain ⟨hnothing, hnot⟩ := ih
    have hlast : takenOf h = none := by
      by_contra htaken
      exact hnot (hstep.running_of_taken htaken)
    refine ⟨by rw [takenIn_append, hnothing]; simp [takenIn, hlast], ?_⟩
    cases hstep with
    | @tell n fails => cases fails <;> exact hnot
    | die => exact fun h => Watcher.noConfusion h
    | _ => exact hnot

/-! What the watcher does when nothing comes between -/

def IsOwn (h : Happening) : Prop :=
  match h with
  | .passed .. | .begun .. | .told .. | .died .. => True
  | _ => False

def sentOf : Happening → Option (String × Event)
  | .told name path true => some (name, .sent path)
  | _ => none

def sentIn (t : List Happening) : Events :=
  t.filterMap sentOf

theorem Sound.exists_tell (hc : c.Sound) (hmem : name ∈ c.telling) :
    ∃ fails, Step c (.told name c.path !fails)
      { c with session := (c.session.tell c.path name fails).1, telling := c.telling.erase name } := by
  by_cases hhas : c.Has name
  · obtain ⟨b, hb, rfl⟩ := hhas
    refine ⟨b.isBroken, .tell hmem fun d hd hname _ => ?_⟩
    rw [List.inj_on_of_nodup_map hc.nodup hd hb hname]
  · exact ⟨false, .tell hmem fun b hb hname => absurd ⟨b, hb, hname⟩ hhas⟩

theorem tell_watcher (s : Session) (path name : String) (fails : Bool) :
    (s.tell path name fails).1.watcher = s.watcher := by
  cases fails <;> rfl

theorem Sound.exists_idle (hc : c.Sound) :
    ∃ t c', Steps c t c' ∧ (∀ h ∈ t, IsOwn h) ∧ takenIn t = [] ∧ c'.telling = [] ∧
      c'.waiting = c.waiting ∧ c'.session.watcher = c.session.watcher := by
  induction hn : c.telling.length generalizing c with
  | zero => exact ⟨[], c, .refl c, by simp, rfl, List.length_eq_zero_iff.mp hn, rfl, rfl⟩
  | succ n ih =>
    obtain ⟨name, hmem⟩ := List.exists_mem_of_length_pos (l := c.telling) (by omega)
    obtain ⟨fails, hstep⟩ := hc.exists_tell hmem
    obtain ⟨t, c', hrun, hown, htaken, hidle, hwaiting, hwatcher⟩ :=
      ih (hc.step hstep) (by simp [List.length_erase_of_mem hmem, hn])
    refine ⟨_ :: t, c', (Steps.single hstep).trans hrun, ?_, ?_, hidle, hwaiting, ?_⟩
    · exact List.forall_mem_cons.mpr ⟨trivial, hown⟩
    · rw [← htaken]
      rfl
    · rw [hwatcher]
      exact tell_watcher _ _ _ _

theorem Ready.exists_taken {change : Change × Path} {rest : List (Change × Path)} {w : World}
    (hready : c.Ready change rest) (hsound : ¬ Fails c.session (w, change)) :
    ∃ h c', Step c h c' ∧ IsOwn h ∧ takenIn [h] = [(w, change)] ∧ c'.waiting = rest := by
  cases hnotice : c.session.notice? w change with
  | error e => exact absurd ⟨e, hnotice⟩ hsound
  | ok notice =>
    cases notice with
    | none => exact ⟨_, _, .pass hready hnotice, trivial, rfl, rfl⟩
    | some path => exact ⟨_, _, .begin hready hnotice, trivial, rfl, rfl⟩

theorem Sound.exists_finished (hc : c.Sound) (hrunning : c.session.watcher = .running) {w : World}
    (hsound : ∀ change ∈ c.waiting, ¬ Fails c.session (w, change)) :
    ∃ t c', Steps c t c' ∧ (∀ h ∈ t, IsOwn h) ∧ takenIn t = c.waiting.map (w, ·) ∧
      c'.waiting = [] ∧ c'.telling = [] := by
  induction hw : c.waiting generalizing c with
  | nil =>
    obtain ⟨t, c', hrun, hown, htaken, hidle, hwaiting, -⟩ := hc.exists_idle
    exact ⟨t, c', hrun, hown, htaken, hwaiting.trans hw, hidle⟩
  | cons change rest ih =>
    obtain ⟨t, c', hrun, hown, htaken, hidle, hwaiting, hwatcher⟩ := hc.exists_idle
    have hready : c'.Ready change rest := ⟨hwatcher.trans hrunning, hidle, hwaiting.trans hw⟩
    rw [hw] at hsound
    have hsound' := (hrun.fails_iff (w, change)).not.mpr (hsound change List.mem_cons_self)
    obtain ⟨h, c'', hstep, hhown, htook, hrest⟩ := hready.exists_taken hsound'
    have hrunning' : c''.session.watcher = .running := by
      rw [hstep.running_iff, htook]
      exact ⟨hready.running, List.forall_mem_singleton.mpr hsound'⟩
    have hrun' : Steps c (t ++ [h]) c'' := .snoc hrun hstep
    obtain ⟨t', d, hon, honown, hontaken, hdone, hquiet⟩ :=
      ih (hc.steps hrun') hrunning' (fun change hmem =>
        (hrun'.fails_iff (w, change)).not.mpr (hsound change (List.mem_cons_of_mem _ (hrest ▸ hmem))))
        hrest
    refine ⟨t ++ [h] ++ t', d, hrun'.trans hon, ?_, ?_, hdone, hquiet⟩
    · intro g hg
      rcases List.mem_append.mp hg with hfirst | hlast
      · rcases List.mem_append.mp hfirst with hold | hnew
        · exact hown g hold
        · exact List.mem_singleton.mp hnew ▸ hhown
      · exact honown g hlast
    · rw [takenIn_append, takenIn_append, htaken, htook, hontaken]
      rfl

theorem exists_tellEach (conns : List Connection) (htelling : c.telling = conns.map (·.name))
    (hbroken : ∀ b ∈ c.session.connections, ∀ d ∈ conns, b.name = d.name → b = d) :
    ∃ t, Steps c t { c with session := (c.session.tellEach c.path conns).1, telling := [] } ∧
      sentIn t = (c.session.tellEach c.path conns).2 := by
  induction conns generalizing c with
  | nil =>
    obtain ⟨session, waiting, path, telling, known⟩ := c
    obtain rfl : telling = [] := htelling
    exact ⟨[], .refl _, rfl⟩
  | cons d rest ih =>
    have hmem : d.name ∈ c.telling := by simp [htelling]
    have hmay : c.MayFail d.name d.isBroken := fun b hb hname _ => by
      rw [hbroken b hb d List.mem_cons_self hname]
    have hstep : Step c _ _ := .tell hmem hmay
    have hleft : c.telling.erase d.name = rest.map (·.name) := by simp [htelling]
    obtain ⟨t, hrun, hsent⟩ := ih (c := { c with
      session := (c.session.tell c.path d.name d.isBroken).1,
      telling := c.telling.erase d.name }) hleft fun b hb e he => by
        refine hbroken b ?_ e (List.mem_cons_of_mem _ he)
        revert hb
        cases d.isBroken with
        | true => exact List.mem_of_mem_filter
        | false => exact id
    refine ⟨_ :: t, (Steps.single hstep).trans hrun, ?_⟩
    have hfirst : sentIn [.told d.name c.path !d.isBroken] =
        (c.session.tell c.path d.name d.isBroken).2 := by
      cases d.isBroken <;> rfl
    have hevents : (c.session.tellEach c.path (d :: rest)).2 =
        (c.session.tell c.path d.name d.isBroken).2 ++
          ((c.session.tell c.path d.name d.isBroken).1.tellEach c.path rest).2 := rfl
    rw [hevents, ← hfirst, ← hsent]
    exact List.filterMap_append (l := [Happening.told d.name c.path !d.isBroken])

theorem Sound.exists_handleChange (hc : c.Sound) {change : Change × Path}
    {rest : List (Change × Path)} (hready : c.Ready change rest) (w : World) :
    ∃ t c', Steps c t c' ∧ c'.session = (c.session.handleChange w change).1 ∧ c'.telling = [] ∧
      c'.waiting = rest ∧ sentIn t = (c.session.handleChange w change).2 := by
  rw [Session.handleChange]
  cases hnotice : c.session.notice? w change with
  | error e => exact ⟨_, _, .single (.die hready hnotice), rfl, hready.telling, rfl, rfl⟩
  | ok notice =>
    cases notice with
    | none => exact ⟨_, _, .single (.pass hready hnotice), rfl, hready.telling, rfl, rfl⟩
    | some path =>
      have hstep : Step c _ _ := .begin hready hnotice
      obtain ⟨t, hrun, hsent⟩ := exists_tellEach (c := { c with
        waiting := rest, path := path, telling := c.session.audience.map (·.name) })
        c.session.audience rfl fun b hb d hd hname =>
          List.inj_on_of_nodup_map hc.nodup hb (List.mem_of_mem_filter hd) hname
      exact ⟨_, _, (Steps.single hstep).trans hrun, rfl, rfl, rfl, hsent⟩

theorem Sound.exists_handleChanges (hc : c.Sound) (hidle : c.telling = []) (w : World) :
    ∃ t c', Steps c t c' ∧ c'.session = (c.session.handleChanges w c.waiting).1 ∧
      c'.telling = [] ∧ sentIn t = (c.session.handleChanges w c.waiting).2 := by
  induction hw : c.waiting generalizing c with
  | nil => exact ⟨[], c, .refl c, rfl, hidle, rfl⟩
  | cons change rest ih =>
    rw [Session.handleChanges]
    split
    · next hrunning =>
      have hready : c.Ready change rest := ⟨hrunning, hidle, hw⟩
      obtain ⟨t, c', hrun, hsession, hquiet, hrest, hsent⟩ := hc.exists_handleChange hready w
      obtain ⟨t', d, hon, hend, hdone, hmore⟩ := ih (hc.steps hrun) hquiet hrest
      refine ⟨t ++ t', d, hrun.trans hon, ?_, hdone, ?_⟩
      · rw [hend, hsession]
      · rw [sentIn, List.filterMap_append, ← sentIn, ← sentIn, hsent, hmore, hsession]
    · exact ⟨[], c, .refl c, rfl, hidle, rfl⟩

/-! All of it -/

/-- What browsers were told after `t` happened to a session that was started as `s`, and what they
will be told. -/
structure Delivers (s : Session) (t : List Happening) (c : Course) : Prop where
  /-- Changes are worked on in the order in which they were reported, the others wait. -/
  worked : (takenIn t).map (·.2) ++ c.waiting = reportedIn t
  /-- Each change that counts is told once, and nothing else is. -/
  told_once : pathsIn t = (takenIn t).filterMap (noticeOf s)
  running_iff : c.session.watcher = .running ↔ ∀ taken ∈ takenIn t, ¬ Unresolved taken
  /-- What waits for a watcher that ended is never told. -/
  ended : c.session.watcher ≠ .running → ∀ t' c', Steps c t' c' → takenIn t' = []
  /-- What waits for a watcher that runs can all be worked on, whatever the browsers do. -/
  finishes : c.session.watcher = .running → ∀ w,
    (∀ change ∈ c.waiting, ¬ Unresolved (w, change)) →
    ∃ t' c', Steps c t' c' ∧ (∀ h ∈ t', IsOwn h) ∧ takenIn t' = c.waiting.map (w, ·) ∧
      c'.waiting = [] ∧ c'.telling = []
  /-- Until the next change everyone who was open is told this one once, unless it is still to be
  done, and nobody else is told anything. -/
  each_once : ∀ w change path c₁ t' c', Step c (.begun w change path) c₁ → Steps c₁ t' c' →
    pathsIn t' = [] → ∀ name,
      (c.HasOpen name → attempts name t' + c'.telling.count name = 1) ∧
      (¬ c.HasOpen name → attempts name t' = 0) ∧
      ∀ p arrived, .told name p arrived ∈ t' → p = path
  /-- A message arrives at everyone who is open and not broken. -/
  arrives : ∀ name path arrived c', Step c (.told name path arrived) c' →
    ∀ b ∈ c.session.connections, b.name = name → b.isClosed = false → arrived = !b.isBroken
  in_order : ∀ name, (receivedBy name t).Sublist (pathsIn t)
  /-- Whoever could not be told is not registered any more and is told nothing. -/
  given_up : ∀ name path c₁ t' c', Step c (.told name path false) c₁ → Steps c₁ t' c' →
    ¬ c'.Has name ∧ attempts name t' = 0
  /-- Working on a batch without interruption is such a course. -/
  handles : c.telling = [] → ∀ w, ∃ t' c', Steps c t' c' ∧
    c'.session = (c.session.handleChanges w c.waiting).1 ∧ c'.telling = [] ∧
    sentIn t' = (c.session.handleChanges w c.waiting).2

theorem Sound.each_once (hc : c.Sound) {w : World} {change : Change × Path} {c₁ : Course}
    (hstep : Step c (.begun w change path) c₁) (hrun : Steps c₁ t' c') (hnone : pathsIn t' = [])
    (name : String) :
    (c.HasOpen name → attempts name t' + c'.telling.count name = 1) ∧
    (¬ c.HasOpen name → attempts name t' = 0) ∧
    ∀ p arrived, .told name p arrived ∈ t' → p = path := by
  have hdue := hrun.attempts_add hnone name
  have haudience := hc.count_audience name
  have hpath : ∀ p arrived, .told name p arrived ∈ t' → p = c₁.path :=
    fun p arrived htold => hrun.told_path hnone htold
  cases hstep
  refine ⟨fun hopen => ?_, fun hnot => ?_, hpath⟩
  · rw [hdue]
    exact haudience.trans (if_pos hopen)
  · have hzero := hdue.trans (haudience.trans (if_neg hnot))
    omega

theorem Sound.start {s : Session} (hnobody : s.connections = []) : Sound { session := s } := by
  constructor <;> simp [hnobody]

theorem Steps.delivers {s : Session} (hrun : Steps { session := s } t c)
    (hrunning : s.watcher = .running) (hnobody : s.connections = [])
    (hpatterns : ∀ p ∈ s.patterns, ¬ IsBlank p) : Delivers s t c := by
  have hstart := Sound.start hnobody
  have hc := hstart.steps hrun
  exact {
    worked := hrun.worked
    told_once := hrun.pathsIn_eq
    running_iff := by
      simpa only [fails_iff_unresolved hpatterns] using hrun.running_iff hrunning
    ended := fun hended _ _ hon => (hon.takenIn_eq_nil hended).1
    finishes := by
      intro hruns w hresolved
      have hpatterns' := hrun.patterns_eq ▸ hpatterns
      exact hc.exists_finished hruns fun change hmem =>
        (fails_iff_unresolved hpatterns').not.mpr (hresolved change hmem)
    each_once := fun _ _ _ _ _ _ hstep hon hnone => hc.each_once hstep hon hnone
    arrives := by
      intro name path arrived c' hstep b hb hname hopen
      cases hstep with
      | tell _ hmay => rw [hmay b hb hname hopen]
    in_order := fun name =>
      (List.sublist_append_left _ _).trans (hrun.received_sublist hstart rfl)
    given_up := by
      intro name path c₁ t' c' hstep hon
      obtain ⟨hgone, hnone⟩ := (hc.gone_of_failed hstep).steps hon
      exact ⟨hgone.not_has, hnone⟩
    handles := fun hidle w => hc.exists_handleChanges hidle w }

end Course

theorem Session.of_create {w : World} {dirs : List Path} {patterns : List String} {s : Session}
    (h : Session.create w dirs patterns = .ok s) :
    rootsOf w dirs = .ok s.roots ∧ s.connections = [] ∧
      s.patterns = if patterns.isEmpty then defaultPatterns else patterns := by
  unfold Session.create at h
  cases hroots : rootsOf w dirs with
  | error e =>
    rw [hroots] at h
    exact absurd h nofun
  | ok roots =>
    rw [hroots] at h
    obtain rfl := Except.ok.inj h
    exact ⟨rfl, rfl, rfl⟩

theorem Session.of_start {w : World} {s s' : Session} {watched : List Path} {notes : List Note}
    (h : s.start w = (s', some watched, notes)) : s' = { s with watcher := .running } := by
  simp only [Session.start] at h
  split at h
  · split at h
    · exact absurd (congrArg (·.2.1) h) nofun
    · exact absurd (congrArg (·.2.1) h) nofun
    · exact (congrArg (·.1) h).symm
  · exact absurd (congrArg (·.2.1) h) nofun

theorem not_isBlank_of_default {p : String} (hp : p ∈ defaultPatterns) : ¬ IsBlank p := by
  revert p
  decide

/-- Notices are neither lost nor told twice, up to a change whose path cannot be resolved. -/
theorem reload_notices_delivered {w : World} {dirs : List Path} {patterns : List String}
    {s₀ s : Session} {watched : List Path} {notes : List Note} {t : List Happening}
    {c : Course} (hcreate : Session.create w dirs patterns = .ok s₀)
    (hstart : s₀.start w = (s, some watched, notes))
    (hpatterns : ∀ p ∈ patterns, (Path.ofString p).names ≠ [])
    (hrun : Course.Steps { session := s } t c) : Course.Delivers s t c := by
  obtain ⟨-, hnobody, heq⟩ := Session.of_create hcreate
  obtain rfl := Session.of_start hstart
  refine hrun.delivers rfl hnobody fun p hp => ?_
  change p ∈ s₀.patterns at hp
  rw [heq] at hp
  split at hp
  · exact not_isBlank_of_default hp
  · intro hblank
    exact hpatterns p hp (isBlank_iff.mp hblank).2

/-! A site with a link to itself -/

def loopingSite : World :=
  { entries := [(["site"], .directory), (["site", "p.html"], .file [120]),
      (["site", "loop.html"], .link "loop.html")] }

def watchedSite : Session :=
  { roots := [.absolute ["site"]] }

def runningSite : Session :=
  { watchedSite with watcher := .running }

def pageChange : Change × Path := (.modified, .absolute ["site", "p.html"])

def loopChange : Change × Path := (.added, .absolute ["site", "loop.html"])

theorem create_loopingSite :
    Session.create loopingSite [.absolute ["site"]] [] = .ok watchedSite := by
  have hresolve : [Path.absolute ["site"]].mapM loopingSite.resolve =
      .ok [.absolute ["site"]] := by rfl
  have hdistinct : distinctRoots [Path.absolute ["site"]] = [.absolute ["site"]] := by
    have honce : [Path.absolute ["site"]].eraseDups = [.absolute ["site"]] := by rfl
    rw [distinctRoots, honce, List.mergeSort_singleton]
    rfl
  rw [Session.create, rootsOf, hresolve, Except.map, hdistinct]
  rfl

theorem start_watchedSite :
    watchedSite.start loopingSite = (runningSite, some [.absolute ["site"]], []) := by
  rfl

theorem notice?_pageChange :
    runningSite.notice? loopingSite pageChange = .ok (some "/p.html") := by
  rfl

def oneNotice : List Happening :=
  [.came "a", .reported [pageChange], .begun loopingSite pageChange "/p.html",
    .told "a" "/p.html" true]

def afterOneNotice : Course :=
  { session := (runningSite.connect "a").1, path := "/p.html", known := ["a"] }

theorem steps_oneNotice : Course.Steps { session := runningSite } oneNotice afterOneNotice := by
  have hhealthy : ∀ b ∈ (runningSite.connect "a").1.connections,
      b.name = "a" → b.isClosed = false → false = b.isBroken := by decide
  have hcame : Course.Steps { session := runningSite } [.came "a"] _ :=
    .single (.come List.not_mem_nil)
  have hreported := hcame.snoc (@Course.Step.report _ [pageChange])
  have hbegun := hreported.snoc (.begin ⟨rfl, rfl, rfl⟩ notice?_pageChange)
  exact hbegun.snoc (@Course.Step.tell _ "a" false List.mem_cons_self hhealthy)

theorem reload_notices_delivered_page :
    Session.create loopingSite [.absolute ["site"]] [] = .ok watchedSite ∧
    watchedSite.start loopingSite = (runningSite, some [.absolute ["site"]], []) ∧
    Course.Steps { session := runningSite } oneNotice afterOneNotice ∧
    Course.Delivers runningSite oneNotice afterOneNotice :=
  ⟨create_loopingSite, start_watchedSite, steps_oneNotice,
    reload_notices_delivered create_loopingSite start_watchedSite
      (fun _ hp => absurd hp List.not_mem_nil) steps_oneNotice⟩

/-- The link ends the watcher, so that changes of the page are not told any more, neither in the
same batch nor in the next. -/
theorem loop_ends_notices :
    Session.create loopingSite [.absolute ["site"]] [] = .ok watchedSite ∧
    watchedSite.start loopingSite = (runningSite, some [.absolute ["site"]], []) ∧
    runningSite.notice? loopingSite pageChange = .ok (some "/p.html") ∧
    (let s := (runningSite.connect "a").1
     let failed := s.handleChanges loopingSite [loopChange, pageChange]
     s.handleChanges loopingSite [pageChange] = (s, [("a", .sent "/p.html")]) ∧
       failed.2 = [] ∧ failed.1.handleChanges loopingSite [pageChange] = (failed.1, [])) := by
  refine ⟨create_loopingSite, start_watchedSite, notice?_pageChange, ?_, ?_, ?_⟩
  all_goals rfl

end ContentBinding.LiveReload
