import Mathlib.Data.List.Induction
import ContentBinding.Files.World

/-! Following names link by link, with no bound on the number of links and no look at what is
there. A place that is reached this way from a settled one is settled: no link that can be seen
stands on the way to it. The system follows the names of such a place as they are. -/

namespace ContentBinding.Files

def Path.start (p : Path) (dir : List String) : List String :=
  if p.isAbsolute then [] else dir

namespace World

/-- The link at a place, as far as it can be seen from the root. -/
def link? (w : World) (names : List String) : Option String :=
  w.linkAt? (.absolute names)

/-- From a directory, names lead to a place in so many steps; a link stands for what its target
leads to. -/
inductive Leads (w : World) : Nat → List String → List String → List String → Prop
  | done (dir : List String) : Leads w 0 dir [] dir
  | up {n : Nat} {dir rest found : List String} :
    Leads w n dir.dropLast rest found → Leads w (n + 1) dir (".." :: rest) found
  | down {n : Nat} {dir rest found : List String} {name : String} :
    name ≠ ".." → w.link? (dir ++ [name]) = none →
    Leads w n (dir ++ [name]) rest found → Leads w (n + 1) dir (name :: rest) found
  | through {m n : Nat} {dir rest mid found : List String} {name target : String} :
    name ≠ ".." → w.link? (dir ++ [name]) = some target →
    Leads w m ((Path.ofString target).start dir) (Path.ofString target).names mid →
    Leads w n mid rest found → Leads w (m + n + 1) dir (name :: rest) found

/-- No link that can be seen stands on the way to the place, nor in it. -/
def Settled (w : World) (names : List String) : Prop :=
  ∀ dir name, dir ++ [name] <+: names → name ≠ ".." ∧ w.link? (dir ++ [name]) = none

def Ends (w : World) (p : Path) : Prop :=
  ∃ n found, w.Leads n (p.start w.current) p.names found

/-- No link leads back to itself: whatever names are followed, and from wherever, that comes to an
end. -/
def LoopFree (w : World) : Prop :=
  ∀ dir names, w.Settled dir → ∃ n found, w.Leads n dir names found

variable {w : World} {n n' : Nat} {dir names found found' : List String} {name target : String}

theorem Leads.unique (h : w.Leads n dir names found) (h' : w.Leads n' dir names found') :
    n = n' ∧ found = found' := by
  induction h generalizing n' found' with
  | done dir =>
    cases h'
    exact ⟨rfl, rfl⟩
  | up _ ih =>
    cases h' with
    | up hrest' =>
      obtain ⟨hn, hfound⟩ := ih hrest'
      exact ⟨congrArg (· + 1) hn, hfound⟩
    | down hname _ _ => exact absurd rfl hname
    | through hname _ _ _ => exact absurd rfl hname
  | down hname hlink _ ih =>
    cases h' with
    | up _ => exact absurd rfl hname
    | down _ _ hrest' =>
      obtain ⟨hn, hfound⟩ := ih hrest'
      exact ⟨congrArg (· + 1) hn, hfound⟩
    | through _ hlink' _ _ => exact absurd (hlink.symm.trans hlink') nofun
  | through hname hlink _ _ iht ihr =>
    cases h' with
    | up _ => exact absurd rfl hname
    | down _ hlink' _ => exact absurd (hlink'.symm.trans hlink) nofun
    | through _ hlink' htarget' hrest' =>
      obtain rfl := Option.some.inj (hlink.symm.trans hlink')
      -- the targets lead to one place, from which the rest goes on
      obtain ⟨hm, hmid⟩ := iht htarget'
      subst hmid
      obtain ⟨hn, hfound⟩ := ihr hrest'
      exact ⟨by rw [hm, hn], hfound⟩

theorem settled_nil (w : World) : w.Settled [] := by
  intro dir name h
  exact absurd (List.prefix_nil.mp h) (by simp)

theorem Settled.of_prefix (h : w.Settled names) (hdir : dir <+: names) : w.Settled dir :=
  fun _ _ hwithin => h _ _ (hwithin.trans hdir)

theorem Settled.append (h : w.Settled dir) (hname : name ≠ "..")
    (hlink : w.link? (dir ++ [name]) = none) : w.Settled (dir ++ [name]) := by
  intro d m hwithin
  rcases List.prefix_concat_iff.mp hwithin with heq | hwithin
  · obtain ⟨rfl, hm⟩ := List.append_inj' heq rfl
    rw [List.cons.injEq] at hm
    rw [hm.1]
    exact ⟨hname, hlink⟩
  · exact h d m hwithin

theorem Settled.start (h : w.Settled dir) (p : Path) : w.Settled (p.start dir) := by
  unfold Path.start
  split
  · exact w.settled_nil
  · exact h

theorem Leads.settled (h : w.Leads n dir names found) (hdir : w.Settled dir) : w.Settled found := by
  induction h with
  | done dir => exact hdir
  | up _ ih => exact ih (hdir.of_prefix (List.dropLast_prefix _))
  | down hname hlink _ ih => exact ih (hdir.append hname hlink)
  | through _ _ _ _ iht ihr => exact ihr (iht (hdir.start _))

theorem LoopFree.ends (h : w.LoopFree) {p : Path} (hp : p.isAbsolute = true) : w.Ends p := by
  refine h _ p.names ?_
  rw [Path.start, if_pos hp]
  exact w.settled_nil

/-! The way of the system -/

theorem intercalate_prefix (a b : List String) :
    ("/".intercalate a).toList <+: ("/".intercalate (a ++ b)).toList := by
  rw [String.toList_intercalate, String.toList_intercalate, List.map_append]
  generalize a.map String.toList = as
  generalize b.map String.toList = bs
  induction as with
  | nil => exact List.nil_prefix
  | cons x as ih =>
    have hcons : ∀ {l : List (List Char)}, l ≠ [] →
        "/".toList.intercalate (x :: l) = x ++ "/".toList ++ "/".toList.intercalate l :=
      List.intercalate_cons_of_ne_nil
    by_cases has : as = []
    · subst has
      rw [List.intercalate_singleton, List.singleton_append]
      by_cases hbs : bs = []
      · exact ⟨[], by rw [hbs, List.intercalate_singleton, List.append_nil]⟩
      · exact ⟨"/".toList ++ "/".toList.intercalate bs, by rw [hcons hbs, List.append_assoc]⟩
    · rw [List.cons_append, hcons has, hcons (List.append_ne_nil_of_left_ne_nil has bs)]
      exact (List.prefix_append_right_inj _).mpr ih

theorem isOverlong_of_isPrefix (h : dir <+: names) (hshort : isOverlong (.absolute names) = false) :
    isOverlong (.absolute dir) = false := by
  obtain ⟨rest, rfl⟩ := h
  obtain ⟨more, hmore⟩ := intercalate_prefix dir rest
  have hsize : ∀ ns : List String, (Path.absolute ns).toString = "/" ++ "/".intercalate ns :=
    fun _ => rfl
  have htext : "/".intercalate (dir ++ rest) = "/".intercalate dir ++ String.ofList more := by
    rw [← String.toList_inj, String.toList_append, String.toList_ofList, hmore]
  unfold isOverlong at hshort ⊢
  rw [hsize, decide_eq_false_iff_not] at hshort ⊢
  rw [htext, ← String.append_assoc, String.utf8ByteSize_append] at hshort
  omega

def Passes (w : World) (names : List String) : Prop :=
  ∀ followLast rest, rest ≠ [] →
    w.descend followLast [] (names ++ rest) = w.descend followLast names rest

def Stops (w : World) (names : List String) : Prop :=
  ∃ r, ∀ followLast rest, rest ≠ [] → w.descend followLast [] (names ++ rest) = .refused r

theorem link?_of_descend (hshort : isOverlong (.absolute names) = false)
    (h : w.descend false [] names = .at found (.link target)) : w.link? names = some target := by
  have hreach : w.reach false (.absolute names) = .ok (found, .link target) := by
    rw [reach, hshort, if_neg Bool.false_ne_true]
    show w.follow false maxLinks [] names = _
    rw [follow, h]
  rw [link?, linkAt?, hreach]

theorem Passes.step (h : w.Passes dir) (hname : name ≠ "..") (hlink : w.link? (dir ++ [name]) = none)
    (hshort : isOverlong (.absolute (dir ++ [name])) = false) :
    w.Passes (dir ++ [name]) ∨ w.Stops (dir ++ [name]) := by
  have hstep : ∀ followLast rest, w.descend followLast [] (dir ++ [name] ++ rest) =
      w.descend followLast dir (name :: rest) := by
    intro followLast rest
    rw [List.append_assoc]
    exact h followLast _ (List.cons_ne_nil _ _)
  unfold Passes Stops
  simp only [hstep]
  by_cases hdenied : w.denies .search dir
  · exact .inr ⟨.denied, fun _ _ _ => by rw [descend, if_pos hdenied]⟩
  by_cases hlong : maxNameBytes < name.utf8ByteSize
  · exact .inr ⟨.nameTooLong, fun _ _ _ => by
      rw [descend, if_neg hdenied, if_neg hname, if_pos hlong]⟩
  have hentry : ∀ followLast rest, w.descend followLast dir (name :: rest) = _ :=
    fun followLast rest => by rw [descend, if_neg hdenied, if_neg hname, if_neg hlong]
  simp only [hentry]
  cases hat : w.entry? (dir ++ [name]) with
  | none => exact .inr ⟨.notFound, fun _ _ _ => rfl⟩
  | some e =>
    cases e with
    | directory => exact .inl fun _ _ _ => rfl
    | file content =>
      refine .inr ⟨.notDirectory, fun _ rest hrest => ?_⟩
      simp [hrest]
    | link target =>
      have hseen : w.descend false [] (dir ++ [name]) = .at (dir ++ [name]) (.link target) := by
        rw [← List.append_nil (dir ++ [name]), hstep, hentry, hat]
        simp
      exact absurd (hlink.symm.trans (link?_of_descend hshort hseen)) nofun

theorem passes_or_stops (hplace : w.Settled names)
    (hshort : isOverlong (.absolute names) = false) : w.Passes names ∨ w.Stops names := by
  induction names using List.reverseRecOn with
  | nil => exact .inl fun _ _ _ => rfl
  | append_singleton dir name ih =>
    have hprefix : dir <+: dir ++ [name] := List.prefix_append _ _
    obtain ⟨hname, hlink⟩ := hplace dir name (List.prefix_refl _)
    rcases ih (hplace.of_prefix hprefix) (isOverlong_of_isPrefix hprefix hshort) with hpass | ⟨r, hstop⟩
    · exact hpass.step hname hlink hshort
    · refine .inr ⟨r, fun followLast rest _ => ?_⟩
      rw [List.append_assoc]
      exact hstop followLast ([name] ++ rest) (by simp)

theorem not_isOverlong_of_reach {followLast : Bool} {p : Path} {e : Entry}
    (h : w.reach followLast p = .ok (found, e)) : isOverlong p = false := by
  refine Bool.eq_false_iff.mpr fun hlong => ?_
  rw [reach, if_pos hlong] at h
  exact absurd h nofun

theorem reach_of_settled {followLast : Bool} {e : Entry} (hdir : w.Settled dir) (hname : name ≠ "..")
    (h : w.reach followLast (.absolute (dir ++ [name])) = .ok (found, e)) :
    w.entry? (dir ++ [name]) = some e ∧ found = dir ++ [name] ∨
      followLast = true ∧ ∃ target, w.link? (dir ++ [name]) = some target := by
  have hshort := not_isOverlong_of_reach h
  have hshorter := isOverlong_of_isPrefix (List.prefix_append dir [name]) hshort
  rw [reach, hshort, if_neg Bool.false_ne_true] at h
  change w.follow followLast maxLinks [] (dir ++ [name]) = _ at h
  rcases passes_or_stops hdir hshorter with hpass | ⟨r, hstop⟩
  · have hlast : ∀ b, w.descend b [] (dir ++ [name]) = w.descend b dir [name] :=
      fun b => hpass b [name] (List.cons_ne_nil _ _)
    rw [follow, hlast, descend] at h
    by_cases hdenied : w.denies .search dir
    · rw [if_pos hdenied] at h
      exact absurd h nofun
    by_cases hlong : maxNameBytes < name.utf8ByteSize
    · rw [if_neg hdenied, if_neg hname, if_pos hlong] at h
      exact absurd h nofun
    rw [if_neg hdenied, if_neg hname, if_neg hlong] at h
    cases hat : w.entry? (dir ++ [name]) with
    | none =>
      rw [hat] at h
      exact absurd h nofun
    | some e' =>
      rw [hat] at h
      cases e' with
      | directory =>
        dsimp only at h
        rw [descend, hat] at h
        obtain ⟨rfl, rfl⟩ := Prod.mk.inj (Except.ok.inj h)
        exact .inl ⟨rfl, rfl⟩
      | file content =>
        obtain ⟨rfl, rfl⟩ := Prod.mk.inj (Except.ok.inj h)
        exact .inl ⟨rfl, rfl⟩
      | link target =>
        cases followLast with
        | false =>
          obtain ⟨rfl, rfl⟩ := Prod.mk.inj (Except.ok.inj h)
          exact .inl ⟨rfl, rfl⟩
        | true =>
          have hseen : w.descend false [] (dir ++ [name]) = .at (dir ++ [name]) (.link target) := by
            rw [hlast, descend, if_neg hdenied, if_neg hname, if_neg hlong, hat]
            rfl
          exact .inr ⟨rfl, target, link?_of_descend hshort hseen⟩
  · rw [follow, hstop followLast [name] (List.cons_ne_nil _ _)] at h
    exact absurd h nofun

theorem entry?_of_link? (hdir : w.Settled dir) (hname : name ≠ "..")
    (h : w.link? (dir ++ [name]) = some target) : w.entry? (dir ++ [name]) = some (.link target) := by
  unfold link? linkAt? at h
  split at h
  · next hreach =>
    obtain rfl := Option.some.inj h
    rcases reach_of_settled hdir hname hreach with ⟨hentry, -⟩ | ⟨hfollow, -⟩
    · exact hentry
    · exact absurd hfollow Bool.false_ne_true
  · exact absurd h nofun

theorem eq_of_locate {e : Entry} (hplace : w.Settled names)
    (h : w.locate (.absolute names) = .ok (found, e)) : found = names := by
  rcases List.eq_nil_or_concat names with rfl | ⟨dir, name, rfl⟩
  · rw [locate, reach, not_isOverlong_of_reach h, if_neg Bool.false_ne_true] at h
    exact (congrArg Prod.fst (Except.ok.inj h)).symm
  · rw [List.concat_eq_append] at hplace h ⊢
    obtain ⟨hname, hlink⟩ := hplace dir name (List.prefix_refl _)
    rcases reach_of_settled (hplace.of_prefix (List.prefix_append _ _)) hname h with
      ⟨-, hfound⟩ | ⟨-, target, hseen⟩
    · exact hfound
    · exact absurd (hlink.symm.trans hseen) nofun

/-- Where links are concerned it is enough to follow their targets. -/
theorem loopFree_of_targets
    (h : ∀ dir name target, w.Settled dir → w.entry? (dir ++ [name]) = some (.link target) →
      ∃ n found, w.Leads n ((Path.ofString target).start dir) (Path.ofString target).names found) :
    w.LoopFree := by
  intro dir names hdir
  induction names generalizing dir with
  | nil => exact ⟨0, dir, .done dir⟩
  | cons name rest ih =>
    by_cases hname : name = ".."
    · obtain ⟨n, found, hrest⟩ := ih dir.dropLast (hdir.of_prefix (List.dropLast_prefix _))
      subst hname
      exact ⟨n + 1, found, .up hrest⟩
    · cases hlink : w.link? (dir ++ [name]) with
      | some target =>
        obtain ⟨m, mid, htarget⟩ := h dir name target hdir (entry?_of_link? hdir hname hlink)
        obtain ⟨n, found, hrest⟩ := ih mid (htarget.settled (hdir.start _))
        exact ⟨m + n + 1, found, .through hname hlink htarget hrest⟩
      | none =>
        obtain ⟨n, found, hrest⟩ := ih (dir ++ [name]) (hdir.append hname hlink)
        exact ⟨n + 1, found, .down hname hlink hrest⟩

end World
end ContentBinding.Files
