import Mathlib.Data.List.Infix
import ContentBinding.Proofs.Source.Obstruction

/-! The clients of a source. A client that was passed in serves all requests and is left alone.
Without one a client is opened for the first request that finds none, and closed by the next close;
so there is one at a time, and each is closed once. -/

namespace ContentBinding.Source

inductive Call
  | fetch (env : Surroundings) (page : String)
  | close

def perform (s : Source) : Call → Source
  | .fetch env page => (s.fetch env page).source
  | .close => s.close

def eventsOf (s : Source) : Call → List ClientEvent
  | .fetch env page => (s.fetch env page).events
  | .close => s.release.2

def requestsOf (s : Source) : Call → List Request
  | .fetch env page => (s.fetch env page).requests
  | .close => []

def eventsIn : Source → List Call → List ClientEvent
  | _, [] => []
  | s, call :: rest => s.eventsOf call ++ eventsIn (s.perform call) rest

def requestsIn : Source → List Call → List Request
  | _, [] => []
  | s, call :: rest => s.requestsOf call ++ requestsIn (s.perform call) rest

/-- A client: the one that was passed in, or one that the source opened, by its number. -/
inductive Handle
  | given
  | own (number : Nat)
  deriving Repr, DecidableEq

inductive Deed
  | opened (c : Handle)
  | asked (c : Handle) (request : Request)
  | closed (c : Handle)
  deriving Repr, DecidableEq

/-- A source that has opened so many clients has the last of them in hand. -/
def handleOf (count : Nat) : Client → Handle
  | .given => .given
  | .own _ => .own (count - 1)

/-- What is done, by the numbers of the clients, when so many were opened before. -/
def deedsFrom (count : Nat) : List ClientEvent → List Deed
  | [] => []
  | .opened :: rest => .opened (.own count) :: deedsFrom (count + 1) rest
  | .asked c q :: rest => .asked (handleOf count c) q :: deedsFrom count rest
  | .closed c :: rest => .closed (handleOf count c) :: deedsFrom count rest

def past (r : Remote) (calls : List Call) : List Deed :=
  deedsFrom 0 (eventsIn (.remote r) calls)

def IsOpen (past : List Deed) (c : Handle) : Prop :=
  .opened c ∈ past ∧ .closed c ∉ past

variable {env : Surroundings} {r : Remote} {s : Source} {c c' : Handle} {held : Option Handle}
  {n : Nat} {p t : List Deed} {d : Deed} {q : Request} {page : String} {calls : List Call}

/-! The history of a source that opens its clients itself -/

/-- Deeds in order, with the client that they leave open and the number of those opened. -/
inductive Orderly : List Deed → Option Handle → Nat → Prop
  | start : Orderly [] none 0
  | opened {t : List Deed} {n : Nat} : Orderly t none n →
    Orderly (t ++ [.opened (.own n)]) (some (.own n)) (n + 1)
  | asked {t : List Deed} {c : Handle} {n : Nat} {q : Request} : Orderly t (some c) n →
    Orderly (t ++ [.asked c q]) (some c) n
  | closed {t : List Deed} {c : Handle} {n : Nat} : Orderly t (some c) n →
    Orderly (t ++ [.closed c]) none n

def Deed.Fits (held : Option Handle) (n : Nat) : Deed → Prop
  | .opened c => held = none ∧ c = .own n
  | .asked c _ => held = some c
  | .closed c => held = some c

namespace Orderly

theorem opened_iff (h : Orderly t held n) : .opened c ∈ t ↔ ∃ m < n, c = .own m := by
  induction h with
  | start => simp
  | @opened t n _ ih =>
    rw [List.mem_append, ih, List.mem_singleton, Deed.opened.injEq]
    constructor
    · rintro (⟨m, hm, rfl⟩ | rfl)
      · exact ⟨m, Nat.lt_succ_of_lt hm, rfl⟩
      · exact ⟨n, Nat.lt_succ_self n, rfl⟩
    · rintro ⟨m, hm, rfl⟩
      rcases Nat.lt_succ_iff_lt_or_eq.mp hm with hlt | rfl
      · exact .inl ⟨m, hlt, rfl⟩
      · exact .inr rfl
  | asked _ ih | closed _ ih => simpa using ih

/-- Open is the client that is held, and every other one that was opened was closed once. -/
theorem count_closed (h : Orderly t held n) : (∀ c, held = some c → .opened c ∈ t) ∧
    ∀ c, t.count (.closed c) = if .opened c ∈ t ∧ held ≠ some c then 1 else 0 := by
  induction h with
  | start => simp
  | @opened t n h ih =>
    -- the new handle is numbered past all that were opened
    have hnew : .opened (.own n) ∉ t := by
      rw [h.opened_iff]
      rintro ⟨m, hm, heq⟩
      obtain rfl := Handle.own.inj heq
      exact Nat.lt_irrefl _ hm
    refine ⟨fun c hc => ?_, fun c => ?_⟩
    · rw [← Option.some.inj hc]
      exact List.mem_append_right _ List.mem_cons_self
    · rw [List.count_append, ih.2 c]
      by_cases hc : c = .own n
      · subst hc
        simp [hnew]
      · simp [hc, Ne.symm hc]
  | @asked t c n q h ih =>
    refine ⟨fun c' hc' => List.mem_append_left _ (ih.1 c' hc'), fun c' => ?_⟩
    rw [List.count_append, ih.2 c']
    simp
  | @closed t c n h ih =>
    have hopened := ih.1 c rfl
    refine ⟨nofun, fun c' => ?_⟩
    rw [List.count_append, ih.2 c']
    by_cases hc : c' = c
    · subst hc
      simp [hopened]
    · simp [Ne.symm hc]

theorem isOpen_iff (h : Orderly t held n) : IsOpen t c ↔ held = some c := by
  obtain ⟨hheld, hcount⟩ := h.count_closed
  rw [IsOpen, ← List.count_eq_zero, hcount c]
  constructor
  · rintro ⟨hopened, hzero⟩
    by_contra hne
    rw [if_pos ⟨hopened, hne⟩] at hzero
    exact absurd hzero (by decide)
  · rintro rfl
    exact ⟨hheld c rfl, if_neg fun hnot => hnot.2 rfl⟩

theorem of_prefix (h : Orderly t held n) (hp : p <+: t) : ∃ held n, Orderly p held n := by
  induction h with
  | start =>
    rw [List.prefix_nil.mp hp]
    exact ⟨_, _, .start⟩
  | opened h ih =>
    rcases List.prefix_concat_iff.mp hp with rfl | hbefore
    · exact ⟨_, _, .opened h⟩
    · exact ih hbefore
  | asked h ih =>
    rcases List.prefix_concat_iff.mp hp with rfl | hbefore
    · exact ⟨_, _, .asked h⟩
    · exact ih hbefore
  | closed h ih =>
    rcases List.prefix_concat_iff.mp hp with rfl | hbefore
    · exact ⟨_, _, .closed h⟩
    · exact ih hbefore

theorem last (h : Orderly (p ++ [d]) held n) :
    ∃ before m, Orderly p before m ∧ d.Fits before m := by
  generalize heq : p ++ [d] = t at h
  cases h with
  | start => exact absurd heq (by simp)
  | opened h =>
    obtain ⟨rfl, hlast⟩ := List.append_inj' heq rfl
    obtain rfl := List.singleton_inj.mp hlast
    exact ⟨_, _, h, rfl, rfl⟩
  | asked h | closed h =>
    obtain ⟨rfl, hlast⟩ := List.append_inj' heq rfl
    obtain rfl := List.singleton_inj.mp hlast
    exact ⟨_, _, h, rfl⟩

end Orderly

/-- There is one client at a time: it is opened while there is none, asked and closed while it is
open, and closed once. -/
structure OneAtATime (past : List Deed) : Prop where
  unique : ∀ p, p <+: past → ∀ c c', IsOpen p c → IsOpen p c' → c = c'
  opened : ∀ p c, p ++ [.opened c] <+: past → .opened c ∉ p ∧ ∀ c', ¬ IsOpen p c'
  asked : ∀ p c q, p ++ [.asked c q] <+: past → IsOpen p c
  closed : ∀ p c, p ++ [.closed c] <+: past → IsOpen p c
  closed_once : ∀ c, .opened c ∈ past → ¬ IsOpen past c → past.count (.closed c) = 1

theorem Orderly.oneAtATime (h : Orderly t held n) : OneAtATime t where
  unique := by
    intro p hp c c' hc hc'
    obtain ⟨_, _, hbefore⟩ := h.of_prefix hp
    rw [hbefore.isOpen_iff] at hc hc'
    exact Option.some.inj (hc.symm.trans hc')
  opened := by
    intro p c hp
    obtain ⟨_, _, hnow⟩ := h.of_prefix hp
    obtain ⟨_, m, hbefore, rfl, rfl⟩ := hnow.last
    refine ⟨?_, fun c' hc' => absurd (hbefore.isOpen_iff.mp hc') nofun⟩
    rw [hbefore.opened_iff]
    rintro ⟨m', hm', heq⟩
    obtain rfl := Handle.own.inj heq
    exact Nat.lt_irrefl _ hm'
  asked := by
    intro p c q hp
    obtain ⟨_, _, hnow⟩ := h.of_prefix hp
    obtain ⟨_, m, hbefore, rfl⟩ := hnow.last
    exact hbefore.isOpen_iff.mpr rfl
  closed := by
    intro p c hp
    obtain ⟨_, _, hnow⟩ := h.of_prefix hp
    obtain ⟨_, m, hbefore, rfl⟩ := hnow.last
    exact hbefore.isOpen_iff.mpr rfl
  closed_once := by
    intro c hopened hnot
    rw [h.isOpen_iff] at hnot
    rw [h.count_closed.2 c, if_pos ⟨hopened, hnot⟩]

/-! Calls -/

/-- A fetch makes one request, for which a client is needed, or none because it has no time or no
address for it. -/
theorem fetch_cases (env : Surroundings) (r : Remote) (page : String) :
    (((remote r).fetch env page).events = [] ∧ ((remote r).fetch env page).source = .remote r ∧
      ((∃ e, Remote.timestamp env.clock = .error e) ∨ ∃ e, r.documentUrl page = .error e)) ∨
    ∃ q, ((remote r).fetch env page).events =
        (Remote.takeClient r.client).2 ++ [.asked (Remote.takeClient r.client).1 q] ∧
      ((remote r).fetch env page).source =
        .remote { r with client := (Remote.takeClient r.client).1 } := by
  change (fetchRemote env r page).events = [] ∧ (fetchRemote env r page).source = _ ∧ _ ∨
    ∃ q, (fetchRemote env r page).events = _ ∧ (fetchRemote env r page).source = _
  unfold fetchRemote
  split
  · next e htime => exact .inl ⟨rfl, rfl, .inl ⟨e, htime⟩⟩
  · split
    · next e hurl => exact .inl ⟨rfl, rfl, .inr ⟨e, hurl⟩⟩
    · exact .inr ⟨_, rfl, rfl⟩

def Deed.request? : Deed → Option Request
  | .asked _ q => some q
  | _ => none

theorem deedsFrom_append (n : Nat) (xs ys : List ClientEvent) :
    deedsFrom n (xs ++ ys) = deedsFrom n xs ++ deedsFrom (n + xs.count .opened) ys := by
  induction xs generalizing n with
  | nil => rfl
  | cons x xs ih =>
    cases x with
    | opened =>
      rw [List.cons_append, deedsFrom, deedsFrom, ih, List.count_cons_self, List.cons_append,
        Nat.add_right_comm, Nat.add_assoc]
    | asked c q | closed c =>
      rw [List.cons_append, deedsFrom, deedsFrom, ih, List.count_cons_of_ne ClientEvent.noConfusion,
        List.cons_append]

theorem request?_deedsFrom (n : Nat) (xs : List ClientEvent) :
    (deedsFrom n xs).filterMap Deed.request? = xs.filterMap ClientEvent.request? := by
  induction xs generalizing n with
  | nil => rfl
  | cons x xs ih =>
    cases x with
    | opened | closed c => exact ih _
    | asked c q => exact congrArg (q :: ·) (ih _)

theorem request?_eventsOf (s : Source) (call : Call) :
    (s.eventsOf call).filterMap ClientEvent.request? = s.requestsOf call := by
  cases call with
  | fetch env page => rfl
  | close =>
    cases s with
    | directory dir => rfl
    | remote r =>
      show r.release.2.filterMap ClientEvent.request? = []
      unfold Remote.release
      split <;> rfl

theorem request?_eventsIn (s : Source) (calls : List Call) :
    (eventsIn s calls).filterMap ClientEvent.request? = requestsIn s calls := by
  induction calls generalizing s with
  | nil => rfl
  | cons call rest ih =>
    rw [eventsIn, List.filterMap_append, request?_eventsOf, ih, requestsIn]

/-- After these deeds, in which so many clients were opened, the source is as it was made but for its
client, and what it says of the client is so. -/
structure Kept (r : Remote) (s : Source) (t : List Deed) (n : Nat) : Prop where
  given : r.client = .given → s = .remote r ∧ ∀ d ∈ t, ∃ q, d = .asked .given q
  own : r.client = .own false → ∃ isOpen, s = .remote { r with client := .own isOpen } ∧
    Orderly t (if isOpen then some (.own (n - 1)) else none) n

theorem Kept.start (r : Remote) : Kept r (.remote r) [] 0 where
  given _ := ⟨rfl, fun _ hd => absurd hd List.not_mem_nil⟩
  own hown := ⟨false, by rw [← hown], .start⟩

theorem Kept.fetch (h : Kept r s t n) (env : Surroundings) (page : String) :
    Kept r (s.fetch env page).source (t ++ deedsFrom n (s.fetch env page).events)
      (n + (s.fetch env page).events.count .opened) := by
  refine ⟨fun hgiven => ?_, fun hown => ?_⟩
  · obtain ⟨rfl, hasked⟩ := h.given hgiven
    rcases fetch_cases env r page with ⟨hevents, hsource, -⟩ | ⟨q, hevents, hsource⟩
    · rw [hevents, hsource, deedsFrom, List.append_nil]
      exact ⟨rfl, hasked⟩
    · rw [hgiven] at hevents hsource
      rw [hevents, hsource]
      refine ⟨congrArg (fun c => remote { r with client := c }) hgiven.symm, ?_⟩
      exact List.forall_mem_append.mpr ⟨hasked, List.forall_mem_singleton.mpr ⟨q, rfl⟩⟩
  · obtain ⟨isOpen, rfl, horderly⟩ := h.own hown
    rcases fetch_cases env { r with client := .own isOpen } page with
      ⟨hevents, hsource, -⟩ | ⟨q, hevents, hsource⟩
    · rw [hevents, hsource, deedsFrom, List.append_nil]
      exact ⟨isOpen, rfl, horderly⟩
    · rw [hevents, hsource]
      cases isOpen with
      | true => exact ⟨true, rfl, horderly.asked⟩
      | false =>
        refine ⟨true, rfl, ?_⟩
        have hdeeds := horderly.opened.asked (q := q)
        rw [List.append_assoc] at hdeeds
        exact hdeeds

theorem Kept.close (h : Kept r s t n) : Kept r s.close (t ++ deedsFrom n s.release.2)
    (n + s.release.2.count .opened) := by
  refine ⟨fun hgiven => ?_, fun hown => ?_⟩
  · obtain ⟨rfl, hasked⟩ := h.given hgiven
    have hrelease : (remote r).release = (remote r, []) := by
      simp only [release, Remote.release, hgiven]
    rw [Source.close, hrelease, deedsFrom, List.append_nil]
    exact ⟨rfl, hasked⟩
  · obtain ⟨isOpen, rfl, horderly⟩ := h.own hown
    cases isOpen with
    | true => exact ⟨false, rfl, horderly.closed⟩
    | false =>
      refine ⟨false, rfl, ?_⟩
      show Orderly (t ++ []) none n
      rwa [List.append_nil]

theorem Kept.perform (h : Kept r s t n) (call : Call) :
    Kept r (s.perform call) (t ++ deedsFrom n (s.eventsOf call))
      (n + (s.eventsOf call).count .opened) := by
  cases call with
  | fetch env page => exact h.fetch env page
  | close => exact h.close

theorem Kept.run (h : Kept r s t n) (calls : List Call) :
    Kept r (calls.foldl Source.perform s) (t ++ deedsFrom n (eventsIn s calls))
      (n + (eventsIn s calls).count .opened) := by
  induction calls generalizing s t n with
  | nil => simpa [eventsIn, deedsFrom] using h
  | cons call rest ih =>
    have hrest := ih (h.perform call)
    rw [eventsIn, deedsFrom_append, List.count_append, ← List.append_assoc, ← Nat.add_assoc]
    exact hrest

theorem Kept.exists_client (h : Kept r s t n) (hnew : r.client ≠ .own true) :
    ∃ client, s = .remote { r with client := client } := by
  cases hclient : r.client with
  | given => exact ⟨r.client, (h.given hclient).1⟩
  | own isOpen =>
    cases isOpen with
    | true => exact absurd hclient hnew
    | false =>
      obtain ⟨isOpen, hsource, -⟩ := h.own hclient
      exact ⟨_, hsource⟩

theorem eventsIn_of_closes (hs : s.release = (s, [])) (hcloses : ∀ call ∈ calls, call = .close) :
    eventsIn s calls = [] := by
  induction calls with
  | nil => rfl
  | cons call rest ih =>
    obtain ⟨rfl, hrest⟩ := List.forall_mem_cons.mp hcloses
    show s.release.2 ++ eventsIn s.release.1 rest = []
    rw [hs]
    exact ih hrest

theorem release_of_new (hnew : r.client ≠ .own true) : (remote r).release = (remote r, []) := by
  unfold release Remote.release
  dsimp only
  split
  · next hopen => exact absurd hopen hnew
  · rfl

/-! All of it -/

/-- What a source does with clients in a run of calls. -/
structure KeepsClients (r : Remote) (calls : List Call) : Prop where
  requests_eq : (past r calls).filterMap Deed.request? = requestsIn (.remote r) calls
  /-- A fetch that has a time and an address asks once, whatever comes of it. -/
  asks : ∀ env page, (∃ time, Remote.timestamp env.clock = .ok time) →
    (∃ u, r.documentUrl page = .ok u) →
    ∃ q, (calls.foldl perform (.remote r)).requestsOf (.fetch env page) = [q]
  /-- A client that was passed in is kept and asked, and nothing else is done with any client. -/
  given : r.client = .given → calls.foldl perform (.remote r) = .remote r ∧
    ∀ d ∈ past r calls, ∃ q, d = .asked .given q
  own : r.client = .own false → OneAtATime (past r calls)
  /-- What the source says of its client is so: open is the last that it opened, or none. -/
  isOpen_iff : r.client = .own false → ∃ isOpen,
    calls.foldl perform (.remote r) = .remote { r with client := .own isOpen } ∧
    ∀ c, IsOpen (past r calls) c ↔
      isOpen = true ∧ c = .own ((eventsIn (.remote r) calls).count .opened - 1)
  /-- Nothing is opened before the first fetch. -/
  unused : (∀ call ∈ calls, call = .close) → past r calls = []
  /-- After a close and until the next fetch nothing is open, and all that was opened was closed
  once. -/
  closed : r.client = .own false → ∀ before, calls = before ++ [.close] → ∀ c,
    ¬ IsOpen (past r calls) c ∧
      (.opened c ∈ past r calls → (past r calls).count (.closed c) = 1)

/-- Clients are neither left open nor closed for others, in any run of calls on a new source. -/
theorem clients_kept (hnew : r.client ≠ .own true) (calls : List Call) : KeepsClients r calls := by
  have hkept := (Kept.start r).run calls
  rw [List.nil_append, Nat.zero_add] at hkept
  exact {
    requests_eq := (request?_deedsFrom 0 _).trans (request?_eventsIn _ calls)
    asks := by
      rintro env page ⟨time, htime⟩ ⟨u, hurl⟩
      obtain ⟨client, hsource⟩ := hkept.exists_client hnew
      rw [hsource]
      rcases fetch_cases env { r with client := client } page with
        ⟨-, -, ⟨e, he⟩ | ⟨e, he⟩⟩ | ⟨q, hevents, -⟩
      · exact absurd (htime.symm.trans he) nofun
      · exact absurd (hurl.symm.trans he) nofun
      · refine ⟨q, ?_⟩
        show List.filterMap _ (fetch env (remote { r with client := client }) page).events = _
        rw [hevents, List.filterMap_append, Remote.filterMap_takeClient]
        rfl
    given := hkept.given
    own := fun hown => by
      obtain ⟨isOpen, -, horderly⟩ := hkept.own hown
      exact horderly.oneAtATime
    isOpen_iff := fun hown => by
      obtain ⟨isOpen, hsource, horderly⟩ := hkept.own hown
      refine ⟨isOpen, hsource, fun c => horderly.isOpen_iff.trans ?_⟩
      cases isOpen <;> simp [eq_comm]
    unused := fun hcloses => by
      rw [past, eventsIn_of_closes (release_of_new hnew) hcloses, deedsFrom]
    closed := by
      rintro hown before rfl c
      obtain ⟨isOpen, hsource, horderly⟩ := hkept.own hown
      obtain ⟨wasOpen, hbefore, -⟩ := ((Kept.start r).run before).own hown
      have hclosed : isOpen = false := by
        rw [List.foldl_append, hbefore] at hsource
        cases wasOpen <;> cases isOpen <;> first | rfl | exact absurd hsource nofun
      rw [hclosed, if_neg Bool.false_ne_true] at horderly
      have hnot : ¬ IsOpen (past r (before ++ [.close])) c := by
        rw [past, horderly.isOpen_iff]
        nofun
      exact ⟨hnot, fun hopened => horderly.oneAtATime.closed_once c hopened hnot⟩ }

/-! A source that cannot be reached, fetched from again after it was closed twice -/

def unreachable : Surroundings :=
  { files := {}, network := fun _ => .failed ⟨"ConnectError", ""⟩, clock := .finite ⟨false, 0, 0⟩ }

def farSource : Remote :=
  { base := { scheme := "http", host := "h", path := "/" } }

def homeRequest : Request :=
  ⟨{ scheme := "http", host := "h", path := "/content/home.json" }, 0⟩

def reopening : List Call :=
  [.fetch unreachable "home", .fetch unreachable "home", .close, .close,
    .fetch unreachable "home", .close]

def reopened : List Deed :=
  [.opened (.own 0), .asked (.own 0) homeRequest, .asked (.own 0) homeRequest, .closed (.own 0),
    .opened (.own 1), .asked (.own 1) homeRequest, .closed (.own 1)]

theorem clients_kept_reopening :
    farSource.client ≠ .own true ∧ past farSource reopening = reopened ∧
    OneAtATime reopened ∧ ∀ c, ¬ IsOpen reopened c ∧
      (.opened c ∈ reopened → reopened.count (.closed c) = 1) := by
  have hnew : farSource.client ≠ .own true := by decide
  have hpast : past farSource reopening = reopened := by decide +kernel
  have hkeeps := clients_kept hnew reopening
  have hclosed := hkeeps.closed rfl reopening.dropLast rfl
  have hone := hkeeps.own rfl
  rw [hpast] at hclosed hone
  exact ⟨hnew, hpast, hone, hclosed⟩

end ContentBinding.Source
