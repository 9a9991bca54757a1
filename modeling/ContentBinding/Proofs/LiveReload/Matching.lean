import Mathlib.Tactic.SplitIfs
import ContentBinding.LiveReload.Roots

/-! What becomes of the path of a change. It has an address that browsers are told if it resolves to
a place below a root where one of the patterns fits; patterns are tried in order, and a pattern
without names ends the search in an error. -/

namespace ContentBinding.LiveReload

open Files (Path PathError World)

variable {w : World} {roots : List Path} {names patterns : List String} {pattern url : String}
  {p q : Path}

/-- A pattern without names, of which nothing can be told. -/
def IsBlank (pattern : String) : Prop :=
  Path.ofString pattern = .here

instance (pattern : String) : Decidable (IsBlank pattern) :=
  inferInstanceAs (Decidable (_ = _))

theorem isBlank_iff : IsBlank pattern ↔
    (Path.ofString pattern).isAbsolute = false ∧ (Path.ofString pattern).names = [] := by
  unfold IsBlank
  obtain ⟨anchor, names⟩ := Path.ofString pattern
  cases anchor <;> simp [Path.here, Path.isAbsolute]

theorem matchPath_eq_none_iff : Pattern.matchPath pattern names = none ↔ IsBlank pattern := by
  rw [isBlank_iff]
  unfold Pattern.matchPath
  dsimp only
  split_ifs with habsolute hempty hshort <;> simp_all

theorem matchPath_nil (h : ¬ IsBlank pattern) : Pattern.matchPath pattern [] = some false := by
  rw [isBlank_iff] at h
  unfold Pattern.matchPath
  dsimp only
  split_ifs with habsolute hempty hshort
  · rfl
  · simp_all
  · rfl
  · exact absurd (List.length_pos_iff.mpr (by simpa using hempty)) hshort

/-- Patterns are tried as far as a blank one, because none before it fits. -/
inductive MeetsBlank (names : List String) : List String → Prop
  | blank {pattern : String} {rest : List String} :
    IsBlank pattern → MeetsBlank names (pattern :: rest)
  | later {pattern : String} {rest : List String} :
    Pattern.matchPath pattern names = some false → MeetsBlank names rest →
    MeetsBlank names (pattern :: rest)

theorem MeetsBlank.exists_blank (h : MeetsBlank names patterns) : ∃ p ∈ patterns, IsBlank p := by
  induction h with
  | blank hblank => exact ⟨_, List.mem_cons_self, hblank⟩
  | later _ _ ih =>
    obtain ⟨p, hp, hblank⟩ := ih
    exact ⟨p, List.mem_cons_of_mem _ hp, hblank⟩

theorem meetsBlank_nil_iff : MeetsBlank [] patterns ↔ ∃ p ∈ patterns, IsBlank p := by
  refine ⟨MeetsBlank.exists_blank, ?_⟩
  rintro ⟨p, hp, hblank⟩
  induction patterns with
  | nil => exact absurd hp List.not_mem_nil
  | cons pattern rest ih =>
    by_cases hfirst : IsBlank pattern
    · exact .blank hfirst
    · rcases List.mem_cons.mp hp with rfl | hrest
      · exact absurd hblank hfirst
      · exact .later (matchPath_nil hfirst) (ih hrest)

theorem fitsAny_error_iff : (∃ e, fitsAny names patterns = .error e) ↔ MeetsBlank names patterns := by
  induction patterns with
  | nil => exact ⟨nofun, nofun⟩
  | cons pattern rest ih =>
    rw [fitsAny]
    cases hmatch : Pattern.matchPath pattern names with
    | none =>
      exact iff_of_true ⟨_, rfl⟩ (.blank (matchPath_eq_none_iff.mp hmatch))
    | some fits =>
      have hnot : ¬ IsBlank pattern := fun hblank =>
        absurd (hmatch.symm.trans (matchPath_eq_none_iff.mpr hblank)) nofun
      cases fits with
      | true =>
        refine iff_of_false nofun fun hmeets => ?_
        cases hmeets with
        | blank hblank => exact hnot hblank
        | later hfalse _ => exact absurd (hmatch.symm.trans hfalse) nofun
      | false =>
        refine ih.trans ⟨.later hmatch, fun hmeets => ?_⟩
        cases hmeets with
        | blank hblank => exact absurd hblank hnot
        | later _ hrest => exact hrest

/-! Addresses -/

theorem urlPath_eq_some_iff : urlPath w roots patterns p = .ok (some url) ↔
    ∃ q names, w.resolve p = .ok q ∧ belowRoot? roots q = some names ∧
      fitsAny names patterns = .ok true ∧ url = urlPathOf names := by
  unfold urlPath
  cases w.resolve p with
  | error e => simp
  | ok q =>
    cases hroot : belowRoot? roots q with
    | none => simp [hroot]
    | some names =>
      rcases hfits : fitsAny names patterns with e | fits
      · simp [hroot, hfits, Except.map]
      · cases fits <;> simp [hroot, hfits, Except.map, eq_comm]

/-- A path has no answer if it cannot be resolved, or if a blank pattern is tried on what it
resolves to. -/
theorem urlPath_error_iff : (∃ e, urlPath w roots patterns p = .error e) ↔
    (∃ e, w.resolve p = .error e) ∨
      ∃ q names, w.resolve p = .ok q ∧ belowRoot? roots q = some names ∧
        MeetsBlank names patterns := by
  unfold urlPath
  cases w.resolve p with
  | error e => simp
  | ok q =>
    cases hroot : belowRoot? roots q with
    | none => simp [hroot]
    | some names =>
      simp only [← fitsAny_error_iff]
      cases hfits : fitsAny names patterns with
      | error e => simp [hroot, hfits, Except.map]
      | ok fits => simp [hroot, hfits, Except.map]

end ContentBinding.LiveReload
