import Mathlib.Data.List.Perm.Subperm
import ContentBinding.Proofs.Files.Following

/-! Resolving a path finds the place that following it link by link leads to: where that comes to
an end no link is met while it is open, so that there are always links left to open. A place found
this way stands for itself when the system follows it. -/

namespace ContentBinding.Files.World

variable {w : World} {n fuel links : Nat} {dir names found : List String} {name : String}
  {opened : List (List String)} {p : Path}

def TargetTakes (w : World) (link : List String) (k : Nat) : Prop :=
  ∃ dir name target found, link = dir ++ [name] ∧ w.entry? link = some (.link target) ∧
    w.Leads k ((Path.ofString target).start dir) (Path.ofString target).names found

/-- The links that are open while `n` steps are left: none twice, and each takes as many. -/
structure Opened (w : World) (opened : List (List String)) (n : Nat) : Prop where
  nodup : opened.Nodup
  mem_keys : ∀ l ∈ opened, l ∈ w.entries.map Prod.fst
  le : ∀ l ∈ opened, ∀ k, w.TargetTakes l k → n ≤ k

theorem opened_nil (w : World) (n : Nat) : w.Opened [] n :=
  ⟨List.nodup_nil, fun _ h => absurd h List.not_mem_nil, fun _ h => absurd h List.not_mem_nil⟩

theorem Opened.mono {m : Nat} (h : w.Opened opened n) (hm : m ≤ n) : w.Opened opened m :=
  ⟨h.nodup, h.mem_keys, fun l hl k hk => Nat.le_trans hm (h.le l hl k hk)⟩

theorem Opened.length_le (h : w.Opened opened n) : opened.length ≤ w.entries.length := by
  have hsubset : opened ⊆ w.entries.map Prod.fst := h.mem_keys
  have hle := (h.nodup.subperm hsubset).length_le
  rwa [List.length_map] at hle

theorem mem_entries_of_entry? {e : Entry} (h : w.entry? (dir ++ [name]) = some e) :
    (dir ++ [name], e) ∈ w.entries := by
  unfold entry? at h
  split at h
  · rename_i heq
    exact absurd heq (by simp)
  · obtain ⟨before, after, heq, _⟩ := List.lookup_eq_some_iff.mp h
    rw [heq]
    simp

theorem Opened.push {m : Nat} {target : String} {mid : List String}
    (h : w.Opened opened n) (hlink : w.entry? (dir ++ [name]) = some (.link target))
    (htarget : w.Leads m ((Path.ofString target).start dir) (Path.ofString target).names mid)
    (hm : m < n) : dir ++ [name] ∉ opened ∧ w.Opened ((dir ++ [name]) :: opened) m := by
  -- were it open, its target would take `m` steps, fewer than are left
  have hnot : dir ++ [name] ∉ opened := fun hmem =>
    absurd (h.le _ hmem m ⟨dir, name, target, mid, rfl, hlink, htarget⟩) (Nat.not_le.mpr hm)
  refine ⟨hnot, List.nodup_cons.mpr ⟨hnot, h.nodup⟩, ?_, ?_⟩
  · intro l hl
    rcases List.mem_cons.mp hl with rfl | hl
    · exact List.mem_map.mpr ⟨_, mem_entries_of_entry? hlink, rfl⟩
    · exact h.mem_keys l hl
  · intro l hl k hk
    rcases List.mem_cons.mp hl with rfl | hl
    · obtain ⟨dir', name', target', found', heq, hlink', htarget'⟩ := hk
      obtain ⟨rfl, hname⟩ := List.append_inj' heq rfl
      rw [hlink, Option.some.injEq, Entry.link.injEq] at hlink'
      subst hlink'
      exact Nat.le_of_eq (htarget.unique htarget').1
    · exact Nat.le_trans (Nat.le_of_lt hm) (h.le l hl k hk)

/-- One pass over names that can be followed, with links left to open. -/
theorem foldl_resolveName (h : w.Leads n dir names found) :
    ∀ {fuel opened}, w.Settled dir → w.Opened opened n → fuel + opened.length = w.entries.length →
      names.foldl (w.resolveName (w.resolveFrom fuel) (opened.map .absolute))
        ⟨.absolute dir, true⟩ = ⟨.absolute found, true⟩ := by
  -- on the derivation; every step leaves fewer steps than the open links take
  induction h with
  | done dir =>
    intro fuel opened _ _ _
    rfl
  | @up _ dir _ _ _ ih =>
    intro fuel opened hdir hopened hfuel
    rw [List.foldl_cons, ← ih (hdir.of_prefix (List.dropLast_prefix _))
      (hopened.mono (Nat.le_succ _)) hfuel]
    rfl
  | @down _ dir _ _ name hname hlink _ ih =>
    intro fuel opened hdir hopened hfuel
    have hstep : w.resolveName (w.resolveFrom fuel) (opened.map .absolute) ⟨.absolute dir, true⟩ name =
        ⟨.absolute (dir ++ [name]), true⟩ := by
      unfold resolveName
      rw [if_neg (by simp), if_neg hname]
      have hlinkAt : w.linkAt? ((Path.absolute dir).child name) = none := hlink
      dsimp only
      rw [hlinkAt]
      rfl
    rw [List.foldl_cons, hstep]
    exact ih (hdir.append hname hlink) (hopened.mono (Nat.le_succ _)) hfuel
  | @through m n dir _ mid _ name target hname hlink htarget _ iht ihr =>
    intro fuel opened hdir hopened hfuel
    obtain ⟨hnot, hpush⟩ := hopened.push (entry?_of_link? hdir hname hlink) htarget (by omega)
    have hlength := hpush.length_le
    rw [List.length_cons] at hlength
    obtain ⟨fuel, rfl⟩ : ∃ k, fuel = k + 1 := ⟨fuel - 1, by omega⟩
    have hclosed : ¬ (opened.map Path.absolute).contains ((Path.absolute dir).child name) = true := by
      rw [List.contains_iff_mem, List.mem_map]
      rintro ⟨l, hl, heq⟩
      obtain rfl : l = dir ++ [name] := congrArg Path.names heq
      exact hnot hl
    have hstep : w.resolveName (w.resolveFrom (fuel + 1)) (opened.map .absolute)
        ⟨.absolute dir, true⟩ name = ⟨.absolute mid, true⟩ := by
      unfold resolveName
      rw [if_neg (by simp), if_neg hname]
      have hlinkAt : w.linkAt? ((Path.absolute dir).child name) = some target := hlink
      dsimp only
      rw [hlinkAt]
      dsimp only
      rw [if_neg hclosed, resolveFrom]
      have hstart : (if (Path.ofString target).isAbsolute then Path.absolute [] else .absolute dir) =
          .absolute ((Path.ofString target).start dir) := by
        unfold Path.start
        split <;> rfl
      rw [hstart]
      exact iht (hdir.start _) hpush (by rw [List.length_cons]; omega)
    rw [List.foldl_cons, hstep]
    exact ihr (htarget.settled (hdir.start _)) (hopened.mono (by omega)) hfuel

theorem resolveFrom_eq (hp : p.isAbsolute = true) (h : w.Leads n [] p.names found) :
    w.resolveFrom (w.entries.length + 1) [] .here p = ⟨.absolute found, true⟩ := by
  rw [resolveFrom, if_pos hp]
  exact foldl_resolveName h w.settled_nil (w.opened_nil n) (by rw [List.length_nil, Nat.add_zero])

theorem collapse_eq_self (h : ∀ name ∈ names, name ≠ "..") : collapse names = names := by
  have hall : ∀ out, names.foldl (fun out n => if n = ".." then out.dropLast else out ++ [n]) out =
      out ++ names := by
    induction names with
    | nil => exact fun out => (List.append_nil out).symm
    | cons name rest ih =>
      obtain ⟨hname, hrest⟩ := List.forall_mem_cons.mp h
      intro out
      rw [List.foldl_cons, if_neg hname, ih hrest, List.append_assoc, List.singleton_append]
  exact hall []

theorem Settled.ne_of_mem (h : w.Settled names) : ∀ name ∈ names, name ≠ ".." := by
  intro name hname
  obtain ⟨before, after, rfl⟩ := List.append_of_mem hname
  exact (h before name ⟨after, by simp⟩).1

theorem eq_of_resolve {q : Path} (h : w.resolve p = .ok q) : q = .absolute
    (collapse (w.absoluteNames (w.resolveFrom (w.entries.length + 1) [] .here p).path)) := by
  unfold resolve at h
  split at h
  · exact absurd h nofun
  · dsimp only at h
    split at h
    · exact absurd h nofun
    · exact (Except.ok.inj h).symm

theorem anchor_of_resolve {q : Path} (h : w.resolve p = .ok q) : q.anchor = .root := by
  rw [eq_of_resolve h]
  rfl

theorem settled_of_resolve {q : Path} (hp : p.isAbsolute = true) (hends : w.Ends p)
    (h : w.resolve p = .ok q) : w.Settled q.names := by
  obtain ⟨n, found, hleads⟩ := hends
  rw [Path.start, if_pos hp] at hleads
  have hfound := hleads.settled w.settled_nil
  rw [eq_of_resolve h, resolveFrom_eq hp hleads]
  change w.Settled (collapse found)
  rwa [collapse_eq_self hfound.ne_of_mem]

/-! What is at a path -/

theorem stat_eq_some_iff {e : Entry} : w.stat p = .ok (some e) ↔
    hasNull p = false ∧ ∃ real, w.locate p = .ok (real, e) := by
  unfold stat
  cases hasNull p with
  | true => simp
  | false =>
    rw [if_neg Bool.false_ne_true]
    rcases w.locate p with r | ⟨real, e'⟩
    · cases r <;> simp [Refusal.isAbsence]
    · simp

theorem stat_eq_error_iff {e : PathError} : w.stat p = .error e ↔ hasNull p = false ∧
    ∃ r, w.locate p = .error r ∧ r.isAbsence = false ∧ e = .system ⟨r, p.toString⟩ := by
  unfold stat
  cases hasNull p with
  | true => simp
  | false =>
    rw [if_neg Bool.false_ne_true]
    rcases w.locate p with r | ⟨real, e'⟩
    · dsimp only
      constructor
      · intro h
        split at h
        · exact absurd h nofun
        · next hr => exact ⟨rfl, r, rfl, Bool.eq_false_iff.mpr hr, (Except.error.inj h).symm⟩
      · rintro ⟨-, r', hr', hr, rfl⟩
        obtain rfl := Except.error.inj hr'
        rw [hr, if_neg Bool.false_ne_true]
    · simp

theorem isFile_iff : w.isFile p = .ok true ↔
    hasNull p = false ∧ ∃ real content, w.locate p = .ok (real, .file content) := by
  have hstat : w.isFile p = .ok true ↔ ∃ content, w.stat p = .ok (some (.file content)) := by
    unfold isFile
    rcases w.stat p with _ | _ | e
    · simp [Except.map]
    · simp [Except.map]
    · cases e <;> simp [Except.map]
  rw [hstat]
  constructor
  · rintro ⟨content, h⟩
    obtain ⟨hnull, real, hlocate⟩ := stat_eq_some_iff.mp h
    exact ⟨hnull, real, content, hlocate⟩
  · rintro ⟨hnull, real, content, hlocate⟩
    exact ⟨content, stat_eq_some_iff.mpr ⟨hnull, real, hlocate⟩⟩

theorem read_of_isFile (h : w.isFile p = .ok true) : (∃ content, w.read p = .ok content) ∨
    w.read p = .error (.system ⟨.denied, p.toString⟩) := by
  obtain ⟨hnull, real, content, hlocate⟩ := isFile_iff.mp h
  rw [read, hnull, if_neg Bool.false_ne_true, hlocate]
  dsimp only
  split
  · exact .inr rfl
  · exact .inl ⟨content, rfl⟩

end ContentBinding.Files.World
