import Mathlib.Data.List.Nodup
import ContentBinding.LiveReload.Session

/-! The course of a session. While the watcher works on one change after the other, and while it
tells one browser after the other of a change, browsers come and go. A step is what happens between
two points at which the program may be interrupted; a course is any number of steps. -/

namespace ContentBinding.LiveReload

open Files (Path PathError World)

/-- A session at a point at which it may be interrupted. Browsers are known by their names, which
are never given out twice. -/
structure Course where
  session : Session
  /-- Changes that were reported and not worked on. -/
  waiting : List (Change × Path) := []
  /-- The path that browsers are being told. -/
  path : String := ""
  /-- The browsers that are still to be told. -/
  telling : List String := []
  /-- The browsers that ever came. -/
  known : List String := []

inductive Happening
  | came (name : String)
  | left (name : String)
  /-- The browser takes no messages any more, though it has not left. -/
  | closed (name : String)
  /-- From now on sending to the browser fails. -/
  | broke (name : String)
  | reported (changes : List (Change × Path))
  /-- There is nothing to tell of a change. -/
  | passed (w : World) (change : Change × Path)
  | begun (w : World) (change : Change × Path) (path : String)
  | told (name path : String) (arrived : Bool)
  /-- A change ends the watcher. -/
  | died (w : World) (change : Change × Path) (e : WatchError)

namespace Course

/-- The watcher can take a change up. -/
structure Ready (c : Course) (change : Change × Path) (rest : List (Change × Path)) : Prop where
  running : c.session.watcher = .running
  telling : c.telling = []
  waiting : c.waiting = change :: rest

/-- Sending fails for a browser that is broken. For one that closed or left in the meantime it may
fail or not. -/
def MayFail (c : Course) (name : String) (fails : Bool) : Prop :=
  ∀ b ∈ c.session.connections, b.name = name → b.isClosed = false → fails = b.isBroken

inductive Step : Course → Happening → Course → Prop
  | come {c : Course} {name : String} : name ∉ c.known →
    Step c (.came name)
      { c with session := (c.session.connect name).1, known := name :: c.known }
  | leave {c : Course} {name : String} :
    Step c (.left name) { c with session := c.session.leave name }
  | close {c : Course} {name : String} :
    Step c (.closed name) { c with session := c.session.closeHalf name }
  | break {c : Course} {name : String} :
    Step c (.broke name) { c with session := c.session.breakSends name }
  | report {c : Course} {changes : List (Change × Path)} :
    Step c (.reported changes) { c with waiting := c.waiting ++ changes }
  | pass {c : Course} {w : World} {change : Change × Path} {rest : List (Change × Path)} :
    c.Ready change rest → c.session.notice? w change = .ok none →
    Step c (.passed w change) { c with waiting := rest }
  | begin {c : Course} {w : World} {change : Change × Path} {rest : List (Change × Path)}
    {path : String} : c.Ready change rest → c.session.notice? w change = .ok (some path) →
    Step c (.begun w change path)
      { c with waiting := rest, path := path, telling := c.session.audience.map (·.name) }
  | tell {c : Course} {name : String} {fails : Bool} : name ∈ c.telling → c.MayFail name fails →
    Step c (.told name c.path !fails)
      { c with session := (c.session.tell c.path name fails).1, telling := c.telling.erase name }
  | die {c : Course} {w : World} {change : Change × Path} {rest : List (Change × Path)}
    {e : WatchError} : c.Ready change rest → c.session.notice? w change = .error e →
    Step c (.died w change e)
      { c with waiting := rest, session := { c.session with watcher := .failed e } }

/-- Steps one after the other; what happened first stands first. -/
inductive Steps : Course → List Happening → Course → Prop
  | refl (c : Course) : Steps c [] c
  | snoc {c c' c'' : Course} {t : List Happening} {h : Happening} :
    Steps c t c' → Step c' h c'' → Steps c (t ++ [h]) c''

variable {c c' c'' : Course} {t t' : List Happening} {h : Happening} {name path : String}

theorem Steps.single (hstep : Step c h c') : Steps c [h] c' :=
  .snoc (.refl c) hstep

theorem Steps.trans (hrun : Steps c t c') (hrun' : Steps c' t' c'') : Steps c (t ++ t') c'' := by
  induction hrun' with
  | refl => rwa [List.append_nil]
  | snoc _ hstep ih =>
    rw [← List.append_assoc]
    exact .snoc ih hstep

/-! What a course did -/

def takenOf : Happening → Option (World × (Change × Path))
  | .passed w change => some (w, change)
  | .begun w change _ => some (w, change)
  | .died w change _ => some (w, change)
  | _ => none

def takenIn (t : List Happening) : List (World × (Change × Path)) :=
  t.filterMap takenOf

def reportedOf : Happening → List (Change × Path)
  | .reported changes => changes
  | _ => []

def reportedIn (t : List Happening) : List (Change × Path) :=
  t.flatMap reportedOf

def pathOf : Happening → Option String
  | .begun _ _ path => some path
  | _ => none

def pathsIn (t : List Happening) : List String :=
  t.filterMap pathOf

def receivedOf (name : String) : Happening → Option String
  | .told n path true => if n = name then some path else none
  | _ => none

def receivedBy (name : String) (t : List Happening) : List String :=
  t.filterMap (receivedOf name)

def isAttempt (name : String) : Happening → Bool
  | .told n _ _ => n = name
  | _ => false

def attempts (name : String) (t : List Happening) : Nat :=
  t.countP (isAttempt name)

@[simp] theorem takenIn_append (t t' : List Happening) :
    takenIn (t ++ t') = takenIn t ++ takenIn t' :=
  List.filterMap_append

@[simp] theorem reportedIn_append (t t' : List Happening) :
    reportedIn (t ++ t') = reportedIn t ++ reportedIn t' :=
  List.flatMap_append

@[simp] theorem pathsIn_append (t t' : List Happening) :
    pathsIn (t ++ t') = pathsIn t ++ pathsIn t' :=
  List.filterMap_append

@[simp] theorem receivedBy_append (name : String) (t t' : List Happening) :
    receivedBy name (t ++ t') = receivedBy name t ++ receivedBy name t' :=
  List.filterMap_append

@[simp] theorem attempts_append (name : String) (t t' : List Happening) :
    attempts name (t ++ t') = attempts name t + attempts name t' :=
  List.countP_append

/-! What every step keeps -/

def Has (c : Course) (name : String) : Prop :=
  ∃ b ∈ c.session.connections, b.name = name

def HasOpen (c : Course) (name : String) : Prop :=
  ∃ b ∈ c.session.connections, b.name = name ∧ b.isClosed = false

theorem has_iff : c.Has name ↔ name ∈ c.session.connections.map (·.name) := by
  simp [Has]

theorem mem_audience_names : name ∈ c.session.audience.map (·.name) ↔ c.HasOpen name := by
  simp only [Session.audience, HasOpen, List.mem_map, List.mem_filter, Bool.not_eq_true']
  exact exists_congr fun b => and_assoc.trans (and_congr_right fun _ => and_comm)

theorem audience_names_sublist (s : Session) :
    (s.audience.map (·.name)).Sublist (s.connections.map (·.name)) :=
  List.filter_sublist.map _

theorem leave_names_sublist (s : Session) (name : String) :
    ((s.leave name).connections.map (·.name)).Sublist (s.connections.map (·.name)) :=
  List.filter_sublist.map _

theorem not_mem_leave_names (s : Session) (name : String) :
    name ∉ (s.leave name).connections.map (·.name) := by
  simp [Session.leave]

theorem updateConnection_names_sublist {f : Connection → Connection}
    (hf : ∀ b, (f b).name = b.name) (s : Session) (name : String) :
    ((s.updateConnection name f).connections.map (·.name)).Sublist
      (s.connections.map (·.name)) := by
  have hname : ∀ b ∈ s.connections, (if b.name = name then f b else b).name = b.name := by
    intro b _
    split
    · exact hf b
    · rfl
  rw [Session.updateConnection, List.map_map]
  exact List.map_congr_left hname ▸ .refl _

theorem Step.names (hstep : Step c h c') :
    (c'.session.connections.map (·.name)).Sublist (c.session.connections.map (·.name)) ∨
    ∃ name, h = .came name ∧ name ∉ c.known ∧
      c'.session.connections.map (·.name) = c.session.connections.map (·.name) ++ [name] := by
  cases hstep with
  | @come name hnew => exact .inr ⟨name, rfl, hnew, by simp [Session.connect]⟩
  | leave => exact .inl (leave_names_sublist _ _)
  | close => exact .inl (updateConnection_names_sublist (fun b => by rfl) _ _)
  | «break» => exact .inl (updateConnection_names_sublist (fun b => by rfl) _ _)
  | report => exact .inl (.refl _)
  | pass => exact .inl (.refl _)
  | «begin» => exact .inl (.refl _)
  | @tell name fails =>
    left
    cases fails with
    | true => exact leave_names_sublist _ _
    | false => exact .refl _
  | die => exact .inl (.refl _)

theorem Step.notice?_eq (hstep : Step c h c') (w : World) (change : Change × Path) :
    c'.session.notice? w change = c.session.notice? w change := by
  cases hstep with
  | @tell name fails => cases fails <;> rfl
  | _ => rfl

theorem Step.known (hstep : Step c h c') :
    c'.known = c.known ∨ ∃ name, h = .came name ∧ c'.known = name :: c.known := by
  cases hstep with
  | @come name hnew => exact .inr ⟨name, rfl, rfl⟩
  | _ => exact .inl rfl

theorem Step.telling (hstep : Step c h c') :
    c'.telling.Sublist c.telling ∨ c'.telling = c.session.audience.map (·.name) := by
  cases hstep with
  | «begin» => exact .inr rfl
  | tell => exact .inl List.erase_sublist
  | _ => exact .inl (.refl _)

/-- No name stands for two browsers, and nobody is told twice of a change. -/
structure Sound (c : Course) : Prop where
  nodup : (c.session.connections.map (·.name)).Nodup
  known : c.session.connections.map (·.name) ⊆ c.known
  telling_nodup : c.telling.Nodup
  telling_known : c.telling ⊆ c.known

theorem Step.known_subset (hstep : Step c h c') : c.known ⊆ c'.known := by
  rcases hstep.known with heq | ⟨name, -, heq⟩ <;> rw [heq]
  · exact List.Subset.refl _
  · exact List.subset_cons_self _ _

theorem Sound.step (hc : c.Sound) (hstep : Step c h c') : c'.Sound where
  nodup := by
    rcases hstep.names with hsub | ⟨name, -, hnew, heq⟩
    · exact hc.nodup.sublist hsub
    · rw [heq, ← List.concat_eq_append]
      exact hc.nodup.concat fun hmem => hnew (hc.known hmem)
  known := by
    rcases hstep.names with hsub | ⟨name, rfl, -, heq⟩
    · exact List.Subset.trans (List.Subset.trans hsub.subset hc.known) hstep.known_subset
    · have hcame : c'.known = name :: c.known := by cases hstep; rfl
      rw [heq, hcame]
      intro n hn
      rcases List.mem_append.mp hn with hold | hnew
      · exact List.mem_cons_of_mem _ (hc.known hold)
      · exact List.mem_cons.mpr (.inl (List.mem_singleton.mp hnew))
  telling_nodup := by
    rcases hstep.telling with hsub | heq
    · exact hc.telling_nodup.sublist hsub
    · rw [heq]
      exact hc.nodup.sublist (audience_names_sublist _)
  telling_known := by
    refine List.Subset.trans ?_ hstep.known_subset
    rcases hstep.telling with hsub | heq
    · exact List.Subset.trans hsub.subset hc.telling_known
    · rw [heq]
      exact List.Subset.trans (audience_names_sublist _).subset hc.known

theorem Sound.steps (hc : c.Sound) (hrun : Steps c t c') : c'.Sound := by
  induction hrun with
  | refl => exact hc
  | snoc _ hstep ih => exact ih.step hstep

/-! Changes -/

def noticeOf (s : Session) (taken : World × (Change × Path)) : Option String :=
  match s.notice? taken.1 taken.2 with
  | .ok notice => notice
  | .error _ => none

def Unresolved (taken : World × (Change × Path)) : Prop :=
  taken.2.1 ≠ .deleted ∧ ∃ e, taken.1.resolve taken.2.2 = .error e

theorem Steps.notice?_eq (hrun : Steps c t c') (w : World) (change : Change × Path) :
    c'.session.notice? w change = c.session.notice? w change := by
  induction hrun with
  | refl => rfl
  | snoc _ hstep ih => rw [hstep.notice?_eq, ih]

/-- Changes are worked on in the order in which they were reported. -/
theorem Steps.worked (hrun : Steps c t c') :
    (takenIn t).map (·.2) ++ c'.waiting = c.waiting ++ reportedIn t := by
  induction hrun with
  | refl => simp [takenIn, reportedIn]
  | snoc _ hstep ih =>
    rw [takenIn_append, reportedIn_append, List.map_append, ← List.append_assoc c.waiting, ← ih]
    cases hstep with
    | pass hready | «begin» hready | die hready =>
      simp [takenIn, takenOf, reportedIn, reportedOf, hready.waiting]
    | _ => simp [takenIn, takenOf, reportedIn, reportedOf]

theorem Steps.pathsIn_eq (hrun : Steps c t c') :
    pathsIn t = (takenIn t).filterMap (noticeOf c.session) := by
  induction hrun with
  | refl => rfl
  | snoc hrun hstep ih =>
    rw [pathsIn_append, takenIn_append, List.filterMap_append, ih]
    congr 1
    cases hstep with
    | pass _ hnotice | «begin» _ hnotice | die _ hnotice =>
      rw [hrun.notice?_eq] at hnotice
      simp [pathsIn, pathOf, takenIn, takenOf, noticeOf, hnotice]
    | _ => rfl

end Course
end ContentBinding.LiveReload
