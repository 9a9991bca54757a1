import Mathlib.Algebra.Order.Field.Rat
import Mathlib.Tactic.Linarith
import Mathlib.Tactic.LinearCombination
import Mathlib.Tactic.Ring
import ContentBinding.Number.Double

/-! Which floating point number is nearest to a rational one. Around each number lies the interval
of what is rounded to it, from half way to the number below to half way to the number above; below a
power of two the number below is nearer. -/

namespace ContentBinding.Number

def leastPlace : ℚ :=
  (2 ^ 1074)⁻¹

theorem leastPlace_pos : 0 < leastPlace :=
  inv_pos.mpr (pow_pos two_pos _)

namespace Finite

def unit (v : Finite) : ℚ :=
  2 ^ v.exponent * leastPlace

def magnitude (v : Finite) : ℚ :=
  v.significand * v.unit

def value (v : Finite) : ℚ :=
  if v.negative then -v.magnitude else v.magnitude

/-- The one form of a value, however large the exponent is. -/
def Canonical (v : Finite) : Prop :=
  v.significand < significandLimit ∧ (v.exponent = 0 ∨ leadingBit ≤ v.significand)

theorem Normal.canonical {v : Finite} (h : v.Normal) : v.Canonical :=
  ⟨h.1, h.2.2⟩

def abs (v : Finite) : Finite :=
  { v with negative := false }

def neg (v : Finite) : Finite :=
  { v with negative := !v.negative }

def IsLeading (v : Finite) : Prop :=
  v.significand = leadingBit ∧ v.exponent ≠ 0

instance (v : Finite) : Decidable v.IsLeading := by
  unfold IsLeading; infer_instance

def gapBelow (v : Finite) : ℚ :=
  if v.IsLeading then v.unit / 2 else v.unit

end Finite

/-- The number that a rational number is rounded to: none is nearer, and if another one is as near,
its significand is even. Numbers beyond the greatest exponent count among the others. -/
structure IsNearest (x : ℚ) (v : Finite) : Prop where
  le : ∀ w : Finite, w.Canonical → |x - v.value| ≤ |x - w.value|
  even : ∀ w : Finite, w.Canonical → w.value ≠ v.value → |x - w.value| = |x - v.value| →
    v.significand % 2 = 0

variable {v w : Finite} {x : ℚ}

namespace Finite

theorem unit_pos (v : Finite) : 0 < v.unit :=
  mul_pos (pow_pos two_pos _) leastPlace_pos

theorem magnitude_nonneg (v : Finite) : 0 ≤ v.magnitude :=
  mul_nonneg (Nat.cast_nonneg _) v.unit_pos.le

theorem unit_le_magnitude (hne : v.significand ≠ 0) : v.unit ≤ v.magnitude :=
  le_mul_of_one_le_left v.unit_pos.le (Nat.one_le_cast.mpr (Nat.pos_of_ne_zero hne))

theorem magnitude_pos (hne : v.significand ≠ 0) : 0 < v.magnitude :=
  v.unit_pos.trans_le (unit_le_magnitude hne)

theorem gapBelow_pos (v : Finite) : 0 < v.gapBelow := by
  have := v.unit_pos
  unfold gapBelow
  split_ifs <;> linarith

theorem gapBelow_le_unit (v : Finite) : v.gapBelow ≤ v.unit := by
  have := v.unit_pos
  unfold gapBelow
  split_ifs <;> linarith

theorem abs_value (v : Finite) : |v.value| = v.magnitude := by
  unfold value
  split_ifs
  · rw [abs_neg, abs_of_nonneg v.magnitude_nonneg]
  · exact abs_of_nonneg v.magnitude_nonneg

/-! Distances between numbers -/

def places (v : Finite) : ℕ :=
  v.significand * 2 ^ v.exponent

theorem magnitude_eq (v : Finite) : v.magnitude = v.places * leastPlace := by
  unfold magnitude unit places
  push_cast
  ring

theorem two_mul_leadingBit : 2 * leadingBit = significandLimit := by decide

theorem places_lt_of_exponent_lt (hv : v.Canonical) (hw : w.Canonical)
    (h : w.exponent < v.exponent) : w.places < v.places :=
  calc w.places < significandLimit * 2 ^ w.exponent :=
        Nat.mul_lt_mul_of_pos_right hw.1 (Nat.two_pow_pos _)
    _ = leadingBit * 2 ^ (w.exponent + 1) := by rw [← two_mul_leadingBit, Nat.pow_succ]; ring
    _ ≤ leadingBit * 2 ^ v.exponent := Nat.mul_le_mul_left _ (Nat.pow_le_pow_right two_pos h)
    _ ≤ v.places := Nat.mul_le_mul_right _ (hv.2.resolve_left (by omega))

theorem places_add_le (hv : v.Canonical) (hw : w.Canonical) (h : v.places < w.places) :
    v.places + 2 ^ v.exponent ≤ w.places := by
  rcases Nat.lt_or_ge w.exponent v.exponent with hlt | hle
  · exact absurd (places_lt_of_exponent_lt hv hw hlt) h.le.not_gt
  · -- both are multiples of the same power of two
    obtain ⟨k, hk⟩ := Nat.exists_eq_add_of_le hle
    have hw' : w.places = w.significand * 2 ^ k * 2 ^ v.exponent := by
      rw [places, hk, Nat.pow_add]
      ring
    rw [hw'] at h ⊢
    have hsucc : v.significand + 1 ≤ w.significand * 2 ^ k := Nat.lt_of_mul_lt_mul_right h
    calc v.places + 2 ^ v.exponent = (v.significand + 1) * 2 ^ v.exponent := by
          rw [places]; ring
      _ ≤ w.significand * 2 ^ k * 2 ^ v.exponent := Nat.mul_le_mul_right _ hsucc

def next (v : Finite) : Finite :=
  if v.significand + 1 = significandLimit then ⟨false, leadingBit, v.exponent + 1⟩
  else ⟨false, v.significand + 1, v.exponent⟩

def previous (v : Finite) : Finite :=
  if v.IsLeading then ⟨false, significandLimit - 1, v.exponent - 1⟩
  else ⟨false, v.significand - 1, v.exponent⟩

theorem canonical_next (hv : v.Canonical) : v.next.Canonical := by
  have hlimit := two_mul_leadingBit
  have hpos : 0 < leadingBit := by decide
  unfold Canonical next at *
  split_ifs <;> dsimp only <;> omega

theorem value_next (v : Finite) : v.next.value = v.magnitude + v.unit := by
  unfold next
  split_ifs with h
  · have hlimit : ((v.significand + 1 : ℕ) : ℚ) = 2 * leadingBit := by
      rw [h, ← two_mul_leadingBit]
      push_cast
      rfl
    simp only [value, magnitude, unit, Bool.false_eq_true, if_false, pow_succ]
    push_cast at hlimit ⊢
    linear_combination -(2 ^ v.exponent * leastPlace) * hlimit
  · simp only [value, magnitude, unit, Bool.false_eq_true, if_false]
    push_cast
    ring

theorem canonical_previous (hv : v.Canonical) : v.previous.Canonical := by
  have hlimit := two_mul_leadingBit
  have hpos : 0 < leadingBit := by decide
  obtain ⟨hlt, hle⟩ := hv
  by_cases h : v.IsLeading
  · rw [previous, if_pos h]
    exact ⟨by dsimp only; omega, .inr (by dsimp only; omega)⟩
  · rw [previous, if_neg h]
    unfold IsLeading at h
    exact ⟨by dsimp only; omega, by dsimp only; omega⟩

theorem value_previous (hne : v.significand ≠ 0) :
    v.previous.value = v.magnitude - v.gapBelow := by
  unfold previous gapBelow
  split_ifs with h
  · obtain ⟨k, hk⟩ := Nat.exists_eq_succ_of_ne_zero h.2
    have hlimit : ((significandLimit - 1 : ℕ) : ℚ) = 2 * leadingBit - 1 := by
      rw [← two_mul_leadingBit, Nat.cast_sub (by decide)]
      push_cast
      rfl
    simp only [value, magnitude, unit, Bool.false_eq_true, if_false, h.1, hk, Nat.succ_eq_add_one,
      Nat.add_sub_cancel, pow_succ, hlimit]
    ring
  · obtain ⟨k, hk⟩ := Nat.exists_eq_succ_of_ne_zero hne
    simp only [value, magnitude, unit, Bool.false_eq_true, if_false, hk, Nat.succ_eq_add_one,
      Nat.add_sub_cancel]
    push_cast
    ring

theorem unit_previous (v : Finite) : v.previous.unit = v.gapBelow := by
  unfold previous gapBelow
  split_ifs with h
  · obtain ⟨k, hk⟩ := Nat.exists_eq_succ_of_ne_zero h.2
    simp only [unit, hk, Nat.succ_eq_add_one, Nat.add_sub_cancel, pow_succ]
    ring
  · rfl

theorem magnitude_add_unit_le (hv : v.Canonical) (hw : w.Canonical)
    (h : v.magnitude < w.magnitude) : v.magnitude + v.unit ≤ w.magnitude := by
  rw [magnitude_eq, magnitude_eq] at *
  have hplaces := places_add_le hv hw (Nat.cast_lt.mp (lt_of_mul_lt_mul_right h leastPlace_pos.le))
  rw [unit, ← add_mul]
  exact mul_le_mul_of_nonneg_right (by exact_mod_cast hplaces) leastPlace_pos.le

theorem magnitude_le_sub_gapBelow (hv : v.Canonical) (hne : v.significand ≠ 0) (hw : w.Canonical)
    (h : w.magnitude < v.magnitude) : w.magnitude ≤ v.magnitude - v.gapBelow := by
  have hprevious : v.previous.magnitude = v.magnitude - v.gapBelow := by
    rw [← value_previous hne]
    unfold previous
    split_ifs <;> rfl
  rw [← hprevious, ← not_lt]
  intro hlt
  have hnext := magnitude_add_unit_le (canonical_previous hv) hw hlt
  rw [hprevious, unit_previous] at hnext
  linarith

theorem eq_of_magnitude_eq (hv : v.Canonical) (hw : w.Canonical)
    (h : v.magnitude = w.magnitude) :
    v.significand = w.significand ∧ v.exponent = w.exponent := by
  have hplaces : v.places = w.places := by
    rw [magnitude_eq, magnitude_eq] at h
    exact_mod_cast mul_right_cancel₀ leastPlace_pos.ne' h
  have hexponent : v.exponent = w.exponent := by
    rcases Nat.lt_trichotomy v.exponent w.exponent with hlt | heq | hgt
    · exact absurd (places_lt_of_exponent_lt hw hv hlt) (by omega)
    · exact heq
    · exact absurd (places_lt_of_exponent_lt hv hw hgt) (by omega)
  rw [places, places, hexponent] at hplaces
  exact ⟨Nat.eq_of_mul_eq_mul_right (Nat.two_pow_pos _) hplaces, hexponent⟩

end Finite

/-! What is rounded to a number -/

def Finite.Attracts (v : Finite) (x : ℚ) : Prop :=
  if v.significand % 2 = 0 then
    v.magnitude - v.gapBelow / 2 ≤ x ∧ x ≤ v.magnitude + v.unit / 2
  else v.magnitude - v.gapBelow / 2 < x ∧ x < v.magnitude + v.unit / 2

namespace Finite

theorem Attracts.bounds (h : v.Attracts x) :
    v.magnitude - v.gapBelow / 2 ≤ x ∧ x ≤ v.magnitude + v.unit / 2 := by
  unfold Attracts at h
  split_ifs at h
  · exact h
  · exact ⟨h.1.le, h.2.le⟩

end Finite

theorem abs_sub_magnitude_le (hx : 0 ≤ x) (w : Finite) : |x - w.magnitude| ≤ |x - w.value| := by
  have h := abs_abs_sub_abs_le x w.value
  rwa [abs_of_nonneg hx, w.abs_value] at h

theorem abs_sub_le_abs_sub_iff_left {a b : ℚ} (h : a < b) :
    |x - a| ≤ |x - b| ↔ 2 * x ≤ a + b := by
  rcases abs_cases (x - a) with ⟨ha, _⟩ | ⟨ha, _⟩ <;>
    rcases abs_cases (x - b) with ⟨hb, _⟩ | ⟨hb, _⟩ <;>
      rw [ha, hb] <;> constructor <;> intro <;> linarith

theorem abs_sub_le_abs_sub_iff_right {a b : ℚ} (h : a < b) :
    |x - b| ≤ |x - a| ↔ a + b ≤ 2 * x := by
  rcases abs_cases (x - a) with ⟨ha, _⟩ | ⟨ha, _⟩ <;>
    rcases abs_cases (x - b) with ⟨hb, _⟩ | ⟨hb, _⟩ <;>
      rw [ha, hb] <;> constructor <;> intro <;> linarith

theorem IsNearest.attracts (hv : v.Canonical) (hne : v.significand ≠ 0)
    (hvalue : v.value = v.magnitude) (h : IsNearest x v) : v.Attracts x := by
  have hlow : v.magnitude - v.gapBelow < v.magnitude := sub_lt_self _ v.gapBelow_pos
  have hhigh : v.magnitude < v.magnitude + v.unit := lt_add_of_pos_right _ v.unit_pos
  have hnext := Finite.canonical_next hv
  have hprevious := Finite.canonical_previous hv
  have habove := h.le _ hnext
  have hbelow := h.le _ hprevious
  have hevenAbove := h.even _ hnext
  have hevenBelow := h.even _ hprevious
  rw [Finite.value_next, hvalue] at habove hevenAbove
  rw [Finite.value_previous hne, hvalue] at hbelow hevenBelow
  have hle := (abs_sub_le_abs_sub_iff_left hhigh).mp habove
  have hge := (abs_sub_le_abs_sub_iff_right hlow).mp hbelow
  unfold Finite.Attracts
  split_ifs with heven
  · exact ⟨by linarith, by linarith⟩
  · -- at an end the neighbour is as near
    refine ⟨lt_of_le_of_ne (by linarith) fun heq => heven ?_,
      lt_of_le_of_ne (by linarith) fun heq => heven ?_⟩
    · exact hevenBelow hlow.ne
        (le_antisymm ((abs_sub_le_abs_sub_iff_left hlow).mpr (by linarith)) hbelow)
    · exact hevenAbove hhigh.ne'
        (le_antisymm ((abs_sub_le_abs_sub_iff_right hhigh).mpr (by linarith)) habove)

namespace Finite

theorem Attracts.pos (h : v.Attracts x) (hne : v.significand ≠ 0) : 0 < x := by
  have hunit := v.unit_pos
  have hgapUnit := v.gapBelow_le_unit
  have hmagnitude := unit_le_magnitude hne
  linarith [h.bounds.1]

theorem Attracts.abs_sub_le (hv : v.Canonical) (hne : v.significand ≠ 0) (h : v.Attracts x)
    (hw : w.Canonical) : |x - v.magnitude| ≤ |x - w.magnitude| ∧
      (¬ v.significand % 2 = 0 → |x - w.magnitude| ≤ |x - v.magnitude| →
        w.magnitude = v.magnitude) := by
  obtain ⟨hge, hle⟩ := h.bounds
  have hinside : ¬ v.significand % 2 = 0 →
      v.magnitude - v.gapBelow / 2 < x ∧ x < v.magnitude + v.unit / 2 := by
    intro hodd
    rwa [Attracts, if_neg hodd] at h
  rcases lt_trichotomy w.magnitude v.magnitude with hlt | heq | hgt
  · have hgap := magnitude_le_sub_gapBelow hv hne hw hlt
    refine ⟨(abs_sub_le_abs_sub_iff_right hlt).mpr (by linarith), fun hodd hback => ?_⟩
    have hnear := (abs_sub_le_abs_sub_iff_left hlt).mp hback
    linarith [(hinside hodd).1]
  · exact ⟨by rw [heq], fun _ _ => heq⟩
  · have hgap := magnitude_add_unit_le hv hw hgt
    refine ⟨(abs_sub_le_abs_sub_iff_left hgt).mpr (by linarith), fun hodd hback => ?_⟩
    have hnear := (abs_sub_le_abs_sub_iff_right hgt).mp hback
    linarith [(hinside hodd).2]

theorem Attracts.isNearest (hv : v.Canonical) (hne : v.significand ≠ 0)
    (hvalue : v.value = v.magnitude) (h : v.Attracts x) : IsNearest x v := by
  have hx := h.pos hne
  refine ⟨fun w hw => ?_, fun w hw hother hsame => ?_⟩
  · rw [hvalue]
    exact (h.abs_sub_le hv hne hw).1.trans (abs_sub_magnitude_le hx.le w)
  · rw [hvalue] at hother hsame
    by_contra hodd
    have heq := (h.abs_sub_le hv hne hw).2 hodd ((abs_sub_magnitude_le hx.le w).trans_eq hsame)
    have hnegative : w.value = -v.magnitude := by
      unfold value at hother ⊢
      split_ifs at hother ⊢
      · rw [heq]
      · exact absurd heq hother
    have hpositive : 0 < v.magnitude := v.unit_pos.trans_le (unit_le_magnitude hne)
    rw [hnegative, sub_neg_eq_add, abs_of_pos (by linarith)] at hsame
    rcases abs_cases (x - v.magnitude) with ⟨habs, _⟩ | ⟨habs, _⟩ <;> linarith

end Finite

theorem isNearest_iff_attracts (hv : v.Canonical) (hne : v.significand ≠ 0)
    (hsign : v.negative = false) : IsNearest x v ↔ v.Attracts x := by
  have hvalue : v.value = v.magnitude := by rw [Finite.value, hsign, if_neg Bool.false_ne_true]
  exact ⟨fun h => h.attracts hv hne hvalue, fun h => h.isNearest hv hne hvalue⟩

/-! Only one number is nearest -/

theorem isNearest_self (v : Finite) : IsNearest v.value v where
  le w _ := by
    rw [sub_self, abs_zero]
    exact abs_nonneg _
  even w _ hother hsame := by
    rw [sub_self, abs_zero, abs_eq_zero] at hsame
    exact absurd (sub_eq_zero.mp hsame).symm hother

theorem Finite.value_neg (v : Finite) : v.neg.value = -v.value := by
  obtain ⟨negative, significand, exponent⟩ := v
  cases negative <;> simp [value, neg, magnitude, unit]

theorem IsNearest.neg (h : IsNearest x v) : IsNearest (-x) v.neg := by
  have hdistance : ∀ a b : ℚ, |-a - b| = |a - -b| := fun a b => by
    rw [← abs_neg, neg_sub, sub_neg_eq_add, sub_neg_eq_add, add_comm]
  refine ⟨fun w hw => ?_, fun w hw hother hsame => ?_⟩
  · have hle := h.le w.neg hw
    rwa [w.value_neg, ← hdistance, ← neg_neg v.value, ← v.value_neg, ← hdistance] at hle
  · rw [hdistance, hdistance, ← w.value_neg, v.value_neg, neg_neg] at hsame
    refine h.even w.neg hw (fun heq => hother ?_) hsame
    rw [v.value_neg, ← heq, w.value_neg, neg_neg]

theorem Finite.value_eq_magnitude (h : 0 ≤ v.value) : v.value = v.magnitude := by
  rw [← v.abs_value, abs_of_nonneg h]

theorem IsNearest.value_le (hv : v.Canonical) (hw : w.Canonical) (hx : 0 ≤ x)
    (h : IsNearest x v) (h' : IsNearest x w) : w.value ≤ v.value := by
  by_contra hlt
  rw [not_le] at hlt
  have hsame : |x - v.value| = |x - w.value| := le_antisymm (h.le w hw) (h'.le v hv)
  have heven := h.even w hw hlt.ne' hsame.symm
  have heven' := h'.even v hv hlt.ne hsame
  have hmiddle := (abs_sub_le_abs_sub_iff_right hlt).mp hsame.ge
  have hnonneg : 0 ≤ v.value := by
    by_contra hnegative
    have hzero := h.le ⟨false, 0, 0⟩ ⟨by decide, .inl rfl⟩
    have hvalue : (⟨false, 0, 0⟩ : Finite).value = 0 := by simp [Finite.value, Finite.magnitude]
    rw [hvalue, abs_sub_le_abs_sub_iff_left (not_le.mp hnegative)] at hzero
    linarith
  have hv' := Finite.value_eq_magnitude hnonneg
  have hw' := Finite.value_eq_magnitude (hnonneg.trans hlt.le)
  have hnext : v.next.value = w.value := by
    have hstep := Finite.magnitude_add_unit_le hv hw (by rwa [← hv', ← hw'])
    rw [← Finite.value_next, ← hw'] at hstep
    refine hstep.eq_of_not_lt fun hbetween => ?_
    have hcloser := h.le _ (Finite.canonical_next hv)
    have hbelow : v.value < v.next.value := by
      rw [Finite.value_next, hv']
      linarith [v.unit_pos]
    rw [abs_sub_le_abs_sub_iff_left hbelow] at hcloser
    linarith
  have hforms := Finite.eq_of_magnitude_eq (Finite.canonical_next hv) hw
    (by rw [← Finite.abs_value, ← Finite.abs_value, hnext])
  have hsignificand : v.next.significand = w.significand := hforms.1
  have hlimit : significandLimit % 2 = 0 := by decide
  unfold Finite.next at hsignificand
  split_ifs at hsignificand <;> dsimp only at hsignificand <;> omega

theorem IsNearest.unique (hv : v.Canonical) (hw : w.Canonical) (h : IsNearest x v)
    (h' : IsNearest x w) : v.value = w.value := by
  rcases le_total 0 x with hx | hx
  · exact le_antisymm (h'.value_le hw hv hx h) (h.value_le hv hw hx h')
  · have hx' : 0 ≤ -x := neg_nonneg.mpr hx
    have hle := IsNearest.value_le (v := w.neg) (w := v.neg) hw hv hx' h'.neg h.neg
    have hge := IsNearest.value_le (v := v.neg) (w := w.neg) hv hw hx' h.neg h'.neg
    rw [v.value_neg, w.value_neg] at hle hge
    exact le_antisymm (neg_le_neg_iff.mp hge) (neg_le_neg_iff.mp hle)

/-- Rounding keeps the order. -/
theorem IsNearest.value_le_of_lt {y : ℚ} (hv : v.Canonical) (hw : w.Canonical) (hxy : x < y)
    (h : IsNearest x v) (h' : IsNearest y w) : v.value ≤ w.value := by
  by_contra hlt
  rw [not_le] at hlt
  have hbelow := (abs_sub_le_abs_sub_iff_right hlt).mp (h.le w hw)
  have habove := (abs_sub_le_abs_sub_iff_left hlt).mp (h'.le v hv)
  linarith

theorem IsNearest.iff_value_eq (hv : v.Canonical) (h : IsNearest x v) (hw : w.Canonical) :
    IsNearest x w ↔ w.value = v.value := by
  constructor
  · exact fun h' => h'.unique hw hv h
  · intro heq
    have hsignificand : v.significand = w.significand :=
      (Finite.eq_of_magnitude_eq hv hw (by rw [← v.abs_value, ← w.abs_value, heq])).1
    refine ⟨fun u hu => heq ▸ h.le u hu, fun u hu hother hsame => hsignificand ▸ ?_⟩
    rw [heq] at hother hsame
    exact h.even u hu hother hsame

end ContentBinding.Number
