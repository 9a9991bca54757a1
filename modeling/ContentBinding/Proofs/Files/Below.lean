import Mathlib.Data.List.Infix
import ContentBinding.Files.Path

/-! Paths that lie below others. The names that lead to a path from another are those that are
joined to get there, and of two paths above a third one lies below the other. -/

namespace ContentBinding.Files.Path

variable {p q base : Path} {names : List String}

theorem join_names (base : Path) (names : List String) :
    base.join ⟨.here, names⟩ = ⟨base.anchor, base.names ++ names⟩ := rfl

theorem below?_eq_some_iff : p.below? base = some names ↔ base.join ⟨.here, names⟩ = p := by
  rw [join_names, below?]
  constructor
  · intro h
    split at h
    · next hbelow =>
      rw [Bool.and_eq_true, decide_eq_true_iff, List.isPrefixOf_iff_prefix] at hbelow
      obtain ⟨hanchor, hprefix⟩ := hbelow
      rw [← Option.some.inj h, ← List.prefix_append_drop hprefix, ← hanchor]
    · exact absurd h nofun
  · rintro rfl
    simp

theorem below?_join (base : Path) (names : List String) :
    (base.join ⟨.here, names⟩).below? base = some names :=
  below?_eq_some_iff.mpr rfl

theorem isBelow_iff_join : p.isBelow base ↔ ∃ names, base.join ⟨.here, names⟩ = p := by
  simp only [isBelow, Option.isSome_iff_exists, below?_eq_some_iff]

theorem isBelow_iff_names : p.isBelow base ↔ p.anchor = base.anchor ∧ base.names <+: p.names := by
  simp only [isBelow_iff_join, join_names]
  constructor
  · rintro ⟨names, rfl⟩
    exact ⟨rfl, List.prefix_append _ _⟩
  · rintro ⟨hanchor, names, hnames⟩
    exact ⟨names, by rw [hnames, ← hanchor]⟩

theorem isBelow_self (p : Path) : p.isBelow p :=
  isBelow_iff_names.mpr ⟨rfl, List.prefix_refl _⟩

theorem isBelow_trans (hp : p.isBelow q) (hq : q.isBelow base) : p.isBelow base := by
  rw [isBelow_iff_names] at hp hq ⊢
  exact ⟨hp.1.trans hq.1, hq.2.trans hp.2⟩

theorem length_le_of_isBelow (h : p.isBelow base) : base.names.length ≤ p.names.length :=
  (isBelow_iff_names.mp h).2.length_le

theorem eq_of_isBelow (h : p.isBelow base) (hlength : p.names.length ≤ base.names.length) :
    p = base := by
  obtain ⟨hanchor, hprefix⟩ := isBelow_iff_names.mp h
  have hnames := hprefix.eq_of_length_le hlength
  cases p
  cases base
  simp_all

theorem isBelow_antisymm (hp : p.isBelow q) (hq : q.isBelow p) : p = q :=
  eq_of_isBelow hp (length_le_of_isBelow hq)

theorem isBelow_or_isBelow {a b : Path} (ha : p.isBelow a) (hb : p.isBelow b) :
    a.isBelow b ∨ b.isBelow a := by
  simp only [isBelow_iff_names] at ha hb ⊢
  have hanchor : a.anchor = b.anchor := ha.1.symm.trans hb.1
  rcases List.prefix_or_prefix_of_prefix ha.2 hb.2 with hab | hba
  · exact .inr ⟨hanchor.symm, hab⟩
  · exact .inl ⟨hanchor, hba⟩

end ContentBinding.Files.Path
