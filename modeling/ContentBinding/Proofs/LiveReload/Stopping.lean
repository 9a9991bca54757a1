import Mathlib.Data.List.TakeWhile
import ContentBinding.Proofs.LiveReload.Delivery

/-! What a stop leaves of a session. It first waits for the watcher to end what it is at, and then
closes one connection after the other; where the watcher has failed, or a connection cannot be
closed, the stop breaks off and the connections that are left stay registered. -/

namespace ContentBinding.LiveReload

open Files (Path World)

namespace Session

variable {s : Session} {conns : List Connection} {b : Connection} {e : WatchError}

def farewellTo (b : Connection) : String × Event :=
  (b.name, .closed goingAway farewell)

def jam (s : Session) (name : String) : Session :=
  s.updateConnection name fun b => { b with isStuck := true }

def HasFailed (s : Session) : Prop :=
  ∃ e, s.watcher = .failed e

/-! Closing -/

theorem closeAll_eq (conns : List Connection) :
    closeAll conns = (conns.dropWhile fun b => !b.isStuck,
      (conns.takeWhile fun b => !b.isStuck).map farewellTo,
      (conns.find? (·.isStuck)).map fun b => .connection b.name) := by
  induction conns with
  | nil => rfl
  | cons b rest ih =>
    rw [closeAll]
    cases hstuck : b.isStuck with
    | true => simp [hstuck]
    | false =>
      rw [ih]
      simp [hstuck, farewellTo]

theorem stop_of_failed (h : s.watcher = .failed e) :
    s.stop = ({ s with watcher := .off }, [], some (.watcher e)) := by
  rw [stop, h]

theorem stop_of_not_failed (h : ¬ s.HasFailed) :
    s.stop = ({ s with watcher := .off, connections := (closeAll s.connections).1 },
      (closeAll s.connections).2) := by
  unfold stop
  split
  · next e he => exact absurd ⟨e, he⟩ h
  · rfl

theorem watcher_stop (s : Session) : s.stop.1.watcher = .off := by
  by_cases h : s.HasFailed
  · obtain ⟨e, he⟩ := h
    rw [stop_of_failed he]
  · rw [stop_of_not_failed h]

theorem exists_stop_split (s : Session) :
    ∃ closed, s.connections = closed ++ s.stop.1.connections ∧
      s.stop.2.1 = closed.map farewellTo := by
  by_cases h : s.HasFailed
  · obtain ⟨e, he⟩ := h
    rw [stop_of_failed he]
    exact ⟨[], rfl, rfl⟩
  · rw [stop_of_not_failed h, closeAll_eq]
    exact ⟨_, (List.takeWhile_append_dropWhile).symm, rfl⟩

/-- Nothing is left, and the stop does not break off, if the watcher has not failed and every
connection can be closed. -/
theorem stop_error_eq_none_iff :
    s.stop.2.2 = none ↔ ¬ s.HasFailed ∧ ∀ b ∈ s.connections, b.isStuck = false := by
  by_cases h : s.HasFailed
  · obtain ⟨e, he⟩ := h
    rw [stop_of_failed he]
    exact iff_of_false nofun fun hnot => hnot.1 ⟨e, he⟩
  · rw [stop_of_not_failed h, closeAll_eq]
    simp [h]

theorem stop_connections_eq_nil_iff : s.stop.1.connections = [] ↔
    s.connections = [] ∨ ¬ s.HasFailed ∧ ∀ b ∈ s.connections, b.isStuck = false := by
  by_cases h : s.HasFailed
  · obtain ⟨e, he⟩ := h
    rw [stop_of_failed he]
    exact (or_iff_left fun hnot => hnot.1 ⟨e, he⟩).symm
  · rw [stop_of_not_failed h, closeAll_eq]
    show List.dropWhile _ s.connections = [] ↔ _
    rw [List.dropWhile_eq_nil_iff]
    constructor
    · exact fun hall => .inr ⟨h, by simpa using hall⟩
    · rintro (hnil | ⟨-, hall⟩)
      · simp [hnil]
      · simpa using hall

theorem farewellTo_mem_iff (hnodup : (s.connections.map (·.name)).Nodup) (hb : b ∈ s.connections) :
    farewellTo b ∈ s.stop.2.1 ↔ b ∉ s.stop.1.connections := by
  obtain ⟨closed, hsplit, hevents⟩ := s.exists_stop_split
  rw [hevents, List.mem_map]
  rw [hsplit, List.map_append, List.nodup_append] at hnodup
  constructor
  · rintro ⟨d, hd, heq⟩ hleft
    have hname : d.name = b.name := congrArg Prod.fst heq
    exact hnodup.2.2 d.name (List.mem_map_of_mem hd) b.name (List.mem_map_of_mem hleft) hname
  · intro hnot
    have hclosed : b ∈ closed := (List.mem_append.mp (hsplit ▸ hb)).resolve_right hnot
    exact ⟨b, hclosed, rfl⟩

theorem all_farewell_iff (hnodup : (s.connections.map (·.name)).Nodup) :
    (∀ b ∈ s.connections, farewellTo b ∈ s.stop.2.1) ↔
      s.connections = [] ∨ ¬ s.HasFailed ∧ ∀ b ∈ s.connections, b.isStuck = false := by
  rw [← stop_connections_eq_nil_iff, List.eq_nil_iff_forall_not_mem]
  obtain ⟨closed, hsplit, -⟩ := s.exists_stop_split
  constructor
  · intro hall b hleft
    have hb : b ∈ s.connections := hsplit ▸ List.mem_append_right _ hleft
    exact (farewellTo_mem_iff hnodup hb).mp (hall b hb) hleft
  · exact fun hnone b hb => (farewellTo_mem_iff hnodup hb).mpr (hnone b)

theorem farewellTo_mem_append (hnodup : (s.connections.map (·.name)).Nodup)
    (hfree : ∀ b ∈ s.connections, b.isStuck = false) (hb : b ∈ s.connections) :
    farewellTo b ∈ s.stop.2.1 ++ s.stop.1.stop.2.1 := by
  obtain ⟨closed, hsplit, -⟩ := s.exists_stop_split
  rw [List.mem_append]
  by_cases hleft : b ∈ s.stop.1.connections
  · have hsuffix : s.stop.1.connections.Sublist s.connections :=
      hsplit ▸ List.sublist_append_right _ _
    have hended : ¬ s.stop.1.HasFailed := by
      rintro ⟨e, he⟩
      exact absurd ((watcher_stop s).symm.trans he) nofun
    have hall := (all_farewell_iff (hnodup.sublist (hsuffix.map _))).mpr
      (.inr ⟨hended, fun d hd => hfree d (hsuffix.subset hd)⟩)
    exact .inr (hall b hleft)
  · exact .inl ((farewellTo_mem_iff hnodup hb).mpr hleft)

end Session

namespace Course

open Session (farewellTo)

variable {c c' : Course} {t : List Happening} {h : Happening} {name : String}

/-! Waiting for the watcher -/

/-- A stop that is called at `c` waits until the watcher has ended what it is at, while browsers
come and go. Nobody waits for a watcher that does not run. -/
structure Awaits (c : Course) (t : List Happening) (c' : Course) : Prop where
  steps : Steps c t c'
  idle : c'.telling = []
  ended : c.session.watcher ≠ .running → t = []

/-- The states that a session comes to: it is made, and then started and stopped any number of
times, with any steps in between. -/
inductive Managed : Course → Prop
  | created {w : World} {dirs : List Path} {patterns : List String} {s : Session} :
    Session.create w dirs patterns = .ok s → Managed { session := s }
  | started {c : Course} {w : World} :
    Managed c → Managed { c with session := (c.session.start w).1 }
  | stepped {c c' : Course} {h : Happening} : Managed c → Step c h c' → Managed c'
  | jammed {c : Course} {name : String} :
    Managed c → Managed { c with session := c.session.jam name }
  | stopped {c c' : Course} {t : List Happening} : Managed c → Awaits c t c' →
    Managed { c' with session := c'.session.stop.1, waiting := [] }

def Working (c : Course) : Prop :=
  c.telling ≠ [] → c.session.watcher = .running

theorem Working.step (hc : c.Working) (hstep : Step c h c') : c'.Working := by
  cases hstep with
  | «begin» hready => exact fun _ => hready.running
  | die hready => exact fun htelling => absurd hready.telling htelling
  | @tell n fails hmem =>
    intro _
    exact (tell_watcher _ _ _ _).trans (hc (List.ne_nil_of_mem hmem))
  | _ => exact hc

theorem Sound.of_names (hc : c.Sound) {s : Session}
    (hsub : (s.connections.map (·.name)).Sublist (c.session.connections.map (·.name))) :
    Sound { c with session := s } where
  nodup := hc.nodup.sublist hsub
  known := List.Subset.trans hsub.subset hc.known
  telling_nodup := hc.telling_nodup
  telling_known := hc.telling_known

theorem connections_start (w : World) (s : Session) :
    (s.start w).1.connections = s.connections := by
  unfold Session.start
  split
  · split <;> rfl
  · rfl

theorem start_of_ne_off {w : World} {s : Session} (h : s.watcher ≠ .off) : (s.start w).1 = s := by
  unfold Session.start
  split
  · next hoff => exact absurd hoff h
  · rfl

theorem Managed.sound_and_working (hc : Managed c) : c.Sound ∧ c.Working := by
  induction hc with
  | created hcreate =>
    exact ⟨.start (Session.of_create hcreate).2.1, fun htelling => absurd rfl htelling⟩
  | @started c w _ ih =>
    refine ⟨ih.1.of_names (connections_start w c.session ▸ .refl _), fun htelling => ?_⟩
    have hrunning := ih.2 htelling
    show (c.session.start w).1.watcher = .running
    rw [start_of_ne_off (by simp [hrunning]), hrunning]
  | stepped _ hstep ih => exact ⟨ih.1.step hstep, ih.2.step hstep⟩
  | @jammed c name _ ih =>
    exact ⟨ih.1.of_names (updateConnection_names_sublist (fun b => by rfl) _ _), ih.2⟩
  | @stopped c c' t _ hwait ih =>
    -- stopping takes connections away from the front and starts nothing
    obtain ⟨closed, hsplit, -⟩ := c'.session.exists_stop_split
    have hsub : c'.session.stop.1.connections.Sublist c'.session.connections := by
      rw [hsplit]
      exact List.sublist_append_right _ _
    have hsound := (ih.1.steps hwait.steps).of_names (hsub.map _)
    exact ⟨⟨hsound.nodup, hsound.known, hsound.telling_nodup, hsound.telling_known⟩,
      fun htelling => absurd hwait.idle htelling⟩

theorem Managed.exists_awaits (hc : Managed c) : ∃ t c', Awaits c t c' := by
  obtain ⟨hsound, hworking⟩ := hc.sound_and_working
  by_cases hrunning : c.session.watcher = .running
  · obtain ⟨t, c', hrun, -, -, hidle, -⟩ := hsound.exists_idle
    exact ⟨t, c', hrun, hidle, fun hnot => absurd hrunning hnot⟩
  · have hidle : c.telling = [] := by
      by_contra htelling
      exact hrunning (hworking htelling)
    exact ⟨[], c, .refl c, hidle, fun _ => rfl⟩

/-! What happens in the meantime -/

theorem Step.hasFailed_iff (hstep : Step c h c') : c'.session.HasFailed ↔
    c.session.HasFailed ∨ ∃ taken ∈ takenIn [h], Fails c.session taken := by
  cases hstep with
  | pass hready hnotice | «begin» hready hnotice =>
    have hsound := not_fails_of_ok hnotice
    simp [takenIn, takenOf, hsound, Session.HasFailed]
  | @die w change rest e hready hnotice =>
    have hfails : Fails c.session (w, change) := ⟨e, hnotice⟩
    simp [takenIn, takenOf, hfails, Session.HasFailed]
  | @tell n fails => cases fails <;>
      simp [takenIn, takenOf, Session.tell, Session.leave, Session.HasFailed]
  | _ => simp [takenIn, takenOf, List.filterMap_cons, Session.connect, Session.leave,
      Session.closeHalf, Session.breakSends, Session.updateConnection, Session.HasFailed]

theorem Steps.hasFailed_iff (hrun : Steps c t c') : c'.session.HasFailed ↔
    c.session.HasFailed ∨ ∃ taken ∈ takenIn t, Fails c.session taken := by
  induction hrun with
  | refl => simp [takenIn]
  | snoc hrun hstep ih =>
    simp only [hstep.hasFailed_iff, ih, takenIn_append, List.mem_append, or_and_right, exists_or,
      hrun.fails_iff, or_assoc]

def Departs (name : String) (h : Happening) : Prop :=
  h = .left name ∨ ∃ path, h = .told name path false

theorem has_updateConnection {f : Connection → Connection} (hf : ∀ b, (f b).name = b.name)
    (hhas : c.Has name) (n : String) :
    Has { c with session := c.session.updateConnection n f } name := by
  obtain ⟨b, hb, hname⟩ := hhas
  refine ⟨_, List.mem_map_of_mem hb, ?_⟩
  split
  · rw [hf, hname]
  · exact hname

theorem has_leave (hhas : c.Has name) {n : String} (hne : n ≠ name) :
    Has { c with session := c.session.leave n } name := by
  obtain ⟨b, hb, rfl⟩ := hhas
  exact ⟨b, List.mem_filter.mpr ⟨hb, by simpa using Ne.symm hne⟩, rfl⟩

theorem Step.has (hstep : Step c h c') (hhas : c.Has name) (hstays : ¬ Departs name h) :
    c'.Has name := by
  cases hstep with
  | come =>
    obtain ⟨b, hb, hname⟩ := hhas
    exact ⟨b, List.mem_append_left _ hb, hname⟩
  | @leave n => exact has_leave hhas fun heq => hstays (.inl (by rw [heq]))
  | close => exact has_updateConnection (fun b => by rfl) hhas _
  | «break» => exact has_updateConnection (fun b => by rfl) hhas _
  | @tell n fails =>
    cases fails with
    | true => exact has_leave hhas fun heq => hstays (.inr ⟨c.path, by rw [heq]; rfl⟩)
    | false => exact hhas
  | _ => exact hhas

theorem Steps.has (hrun : Steps c t c') (hhas : c.Has name) (hstays : ∀ h ∈ t, ¬ Departs name h) :
    c'.Has name := by
  induction hrun with
  | refl => exact hhas
  | snoc _ hstep ih =>
    rw [List.forall_mem_append, List.forall_mem_singleton] at hstays
    exact hstep.has (ih hstays.1) hstays.2

/-! All of it -/

/-- What a stop that is called at `c` comes to when `t` happens while it waits for the watcher. -/
structure Disconnects (c : Course) (t : List Happening) (c' : Course) : Prop where
  unwatched : c'.session.stop.1.watcher = .off
  /-- The watcher has failed if it had before, or fails on a change that it still takes up. -/
  hasFailed_iff : c'.session.HasFailed ↔
    c.session.HasFailed ∨ ∃ taken ∈ takenIn t, Fails c.session taken
  /-- Who is registered at the call still is when the closing begins, unless it departs. -/
  stays : ∀ name, c.Has name → (∀ h ∈ t, ¬ Departs name h) → c'.Has name
  /-- Everyone is told farewell unless the watcher has failed or a connection cannot be closed. -/
  all_farewell_iff : (∀ b ∈ c'.session.connections, farewellTo b ∈ c'.session.stop.2.1) ↔
    c'.session.connections = [] ∨
      ¬ c'.session.HasFailed ∧ ∀ b ∈ c'.session.connections, b.isStuck = false
  /-- Nobody else is told farewell, and nobody twice. -/
  nobody_else : (c'.session.stop.2.1).Sublist (c'.session.connections.map farewellTo)
  nodup : (c'.session.connections.map farewellTo).Nodup
  /-- Those who are told farewell are not registered any more, the others are. -/
  farewellTo_mem_iff : ∀ b ∈ c'.session.connections,
    farewellTo b ∈ c'.session.stop.2.1 ↔ b ∉ c'.session.stop.1.connections
  /-- The stop itself fails with the watcher, or on the connection that it cannot close. -/
  error_eq_none_iff : c'.session.stop.2.2 = none ↔
    ¬ c'.session.HasFailed ∧ ∀ b ∈ c'.session.connections, b.isStuck = false
  /-- A second stop closes what the first one left because of the watcher. -/
  again : (∀ b ∈ c'.session.connections, b.isStuck = false) → ∀ b ∈ c'.session.connections,
    farewellTo b ∈ c'.session.stop.2.1 ++ c'.session.stop.1.stop.2.1

theorem Sound.disconnects (hc : c.Sound) (hrun : Steps c t c') : Disconnects c t c' where
  unwatched := Session.watcher_stop _
  hasFailed_iff := hrun.hasFailed_iff
  stays _ hhas hstays := hrun.has hhas hstays
  all_farewell_iff := Session.all_farewell_iff (hc.steps hrun).nodup
  nobody_else := by
    obtain ⟨closed, hsplit, hevents⟩ := c'.session.exists_stop_split
    rw [hevents, hsplit]
    exact (List.sublist_append_left _ _).map _
  nodup := by
    refine List.Nodup.of_map Prod.fst ?_
    rw [List.map_map]
    exact (hc.steps hrun).nodup
  farewellTo_mem_iff _ hb := Session.farewellTo_mem_iff (hc.steps hrun).nodup hb
  error_eq_none_iff := Session.stop_error_eq_none_iff
  again hfree _ hb := Session.farewellTo_mem_append (hc.steps hrun).nodup hfree hb

end Course

/-- In every state a stop comes to an end, leaves no watcher, and disconnects everyone who stays, if
the watcher has not failed by then and every connection can be closed. -/
theorem stop_disconnects_iff {c : Course} (hc : Course.Managed c) :
    (∃ t c', Course.Awaits c t c') ∧ ∀ t c', Course.Awaits c t c' → Course.Disconnects c t c' :=
  ⟨hc.exists_awaits, fun _ _ hwait => hc.sound_and_working.1.disconnects hwait.steps⟩

/-! A link to itself that changes before the stop -/

def loopError : WatchError :=
  .path (.linkLoop "/site/loop.html")

def loopReported : Course :=
  { session := (runningSite.connect "a").1, waiting := [loopChange], known := ["a"] }

def loopTaken : Course :=
  { session := { (runningSite.connect "a").1 with watcher := .failed loopError }, known := ["a"] }

theorem notice?_loopChange :
    loopReported.session.notice? loopingSite loopChange = .error loopError := by
  rfl

theorem managed_loopReported : Course.Managed loopReported := by
  have hstarted : Course.Managed { session := runningSite } :=
    .started (w := loopingSite) (.created create_loopingSite)
  have hcame : Course.Managed { session := (runningSite.connect "a").1, known := ["a"] } :=
    hstarted.stepped (.come List.not_mem_nil)
  exact hcame.stepped .report

theorem awaits_loopTaken :
    Course.Awaits loopReported [.died loopingSite loopChange loopError] loopTaken where
  steps := .single (.die ⟨rfl, rfl, rfl⟩ notice?_loopChange)
  idle := rfl
  ended hnot := absurd rfl hnot

/-- The watcher fails while the stop waits for it: nobody is told farewell before a second stop. -/
theorem stop_disconnects_iff_loop :
    Course.Managed loopReported ∧
    Course.Awaits loopReported [.died loopingSite loopChange loopError] loopTaken ∧
    loopTaken.session.stop.1.watcher = .off ∧
    (¬ ∀ b ∈ loopTaken.session.connections, Session.farewellTo b ∈ loopTaken.session.stop.2.1) ∧
    ∀ b ∈ loopTaken.session.connections,
      Session.farewellTo b ∈ loopTaken.session.stop.2.1 ++ loopTaken.session.stop.1.stop.2.1 := by
  have hstop := (stop_disconnects_iff managed_loopReported).2 _ _ awaits_loopTaken
  refine ⟨managed_loopReported, awaits_loopTaken, hstop.unwatched, ?_, hstop.again (by decide)⟩
  rw [hstop.all_farewell_iff]
  rintro (hnobody | ⟨hrunning, -⟩)
  · exact absurd hnobody (by decide)
  · exact hrunning ⟨loopError, rfl⟩

/-- A watcher that has failed keeps a stop from closing any connection, though nothing is wrong with
them: without the failure each of them is closed. -/
theorem failed_watcher_keeps_browsers :
    Session.create loopingSite [.absolute ["site"]] [] = .ok watchedSite ∧
    watchedSite.start loopingSite = (runningSite, some [.absolute ["site"]], []) ∧
    (let s := (runningSite.connect "a").1
     let failed := (s.handleChanges loopingSite [loopChange]).1
     s.stop.2 = ([("a", .closed 1001 "Server shutdown")], none) ∧
       failed.connections = s.connections ∧ failed.watcher = .failed loopError ∧
       failed.stop = ({ failed with watcher := .off }, [], some (.watcher loopError)) ∧
       ¬ ∀ b ∈ failed.connections, Session.farewellTo b ∈ failed.stop.2.1) := by
  refine ⟨create_loopingSite, start_watchedSite, rfl, rfl, rfl, rfl, ?_⟩
  intro hall
  exact List.not_mem_nil (hall ⟨"a", false, false, false⟩ List.mem_cons_self)

end ContentBinding.LiveReload
