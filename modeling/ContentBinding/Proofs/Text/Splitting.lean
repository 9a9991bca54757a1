import Mathlib.Data.List.Basic
import ContentBinding.Text.Blank

/-! Texts cut into pieces, as lists are at the elements of a kind. What stands before a cut and what
stands behind it are cut on their own; pieces without cuts, joined again, are what is found. -/

namespace ContentBinding.Text

variable {isCut : Char → Bool} {cs : List Char}

theorem splitOn_eq_splitOnP (isCut : Char → Bool) (cs : List Char) :
    splitOn isCut cs = cs.splitOnP isCut := by
  induction cs with
  | nil => rfl
  | cons c cs ih =>
    rw [splitOn, ih, List.splitOnP_cons_eq_if_modifyHead]
    split
    · rfl
    · cases h : cs.splitOnP isCut with
      | nil => exact absurd h (List.splitOnP_ne_nil _ _)
      | cons p more => rfl

theorem splitOn_eq_splitOn (d : Char) (cs : List Char) : splitOn (· = d) cs = cs.splitOn d :=
  (splitOn_eq_splitOnP _ cs).trans List.splitOn_eq_splitOnP.symm

theorem splitOn_ne_nil (isCut : Char → Bool) (cs : List Char) : splitOn isCut cs ≠ [] :=
  splitOn_eq_splitOnP isCut cs ▸ List.splitOnP_ne_nil isCut cs

theorem splitOn_append_cut {d : Char} (hd : isCut d = true) (u v : List Char) :
    splitOn isCut (u ++ d :: v) = splitOn isCut u ++ splitOn isCut v := by
  simp only [splitOn_eq_splitOnP, List.splitOnP_append_cons _ _ hd]

theorem splitOn_of_not_mem {d : Char} (h : d ∉ cs) : splitOn (· = d) cs = [cs] := by
  rw [splitOn_eq_splitOn, List.splitOn_eq_singleton h]

theorem intercalate_splitOn (d : Char) (cs : List Char) :
    [d].intercalate (splitOn (· = d) cs) = cs := by
  rw [splitOn_eq_splitOn, List.intercalate_splitOn]

theorem splitOn_intercalate {d : Char} {pieces : List (List Char)} (hne : pieces ≠ [])
    (h : ∀ piece ∈ pieces, d ∉ piece) : splitOn (· = d) ([d].intercalate pieces) = pieces := by
  rw [splitOn_eq_splitOn, List.splitOn_intercalate d h hne]

theorem exists_mem_splitOn {c : Char} (hc : isCut c = false) (cs : List Char) :
    (∃ piece ∈ splitOn isCut cs, c ∈ piece) ↔ c ∈ cs := by
  induction cs with
  | nil => simp [splitOn]
  | cons a cs ih =>
    rw [splitOn]
    split
    · rename_i hcut
      have hne : c ≠ a := by
        rintro rfl
        rw [hc] at hcut
        exact Bool.noConfusion hcut
      simp [hne, ih]
    · rw [List.mem_cons, ← ih]
      cases splitOn isCut cs with
      | nil => simp
      | cons p more => simp [or_assoc]

theorem not_isCut_of_mem_splitOn {piece : List Char} (h : piece ∈ splitOn isCut cs) :
    ∀ c ∈ piece, isCut c = false := by
  induction cs generalizing piece with
  | nil =>
    rw [splitOn, List.mem_singleton] at h
    simp [h]
  | cons a cs ih =>
    rw [splitOn] at h
    split at h
    · rcases List.mem_cons.mp h with rfl | hrest
      · simp
      · exact ih hrest
    · rename_i ha
      cases hcs : splitOn isCut cs with
      | nil => exact absurd hcs (splitOn_ne_nil isCut cs)
      | cons p more =>
        simp only [hcs, List.mem_cons] at h ih
        rcases h with rfl | hmore
        · exact List.forall_mem_cons.mpr ⟨Bool.eq_false_iff.mpr ha, ih (.inl rfl)⟩
        · exact ih (.inr hmore)

/-! Pieces joined -/

theorem mem_of_mem_intercalate {c : Char} {sep : List Char} {pieces : List (List Char)}
    (h : c ∈ sep.intercalate pieces) : c ∈ sep ∨ ∃ piece ∈ pieces, c ∈ piece := by
  induction pieces with
  | nil => exact absurd h List.not_mem_nil
  | cons piece rest ih =>
    by_cases hrest : rest = []
    · subst hrest
      rw [List.intercalate_singleton] at h
      exact .inr ⟨piece, List.mem_cons_self, h⟩
    · rw [List.intercalate_cons_of_ne_nil hrest, List.append_assoc, List.mem_append,
        List.mem_append] at h
      rcases h with h | h | h
      · exact .inr ⟨piece, List.mem_cons_self, h⟩
      · exact .inl h
      · exact (ih h).imp_right fun ⟨p, hp, hc⟩ => ⟨p, List.mem_cons_of_mem piece hp, hc⟩

theorem intercalate_append {sep : List Char} {front back : List (List Char)} (hfront : front ≠ [])
    (hback : back ≠ []) :
    sep.intercalate (front ++ back) = sep.intercalate front ++ sep ++ sep.intercalate back := by
  induction front with
  | nil => exact absurd rfl hfront
  | cons piece rest ih =>
    by_cases hrest : rest = []
    · subst hrest
      rw [List.singleton_append, List.intercalate_cons_of_ne_nil hback, List.intercalate_singleton]
    · rw [List.cons_append, List.intercalate_cons_of_ne_nil (by simp [hrest]), ih hrest,
        List.intercalate_cons_of_ne_nil hrest]
      simp only [List.append_assoc]

end ContentBinding.Text
