import ContentBinding.Proofs.Number.Fewest

/-! The shortest digits of whole numbers, and where the shortest digits begin. Below 2^53 the
shortest digits of a whole number are its own; above, other digits can be shorter. The digits of a
number begin below a power of ten just when the number is smaller than the one nearest to it. -/

namespace ContentBinding.Number

open Shortest (ten_zpow_pos digitCount_bounds isNearest_rational_iff attracts_ne_zero)

variable {v w : Finite} {d : Digits} {n : ℕ}

theorem Finite.value_abs (v : Finite) : v.abs.value = v.magnitude :=
  if_neg Bool.false_ne_true

/-! Digits and the numbers they stand for -/

namespace Digits

theorem rational_bounds (hne : d.value ≠ 0) :
    (10 : ℚ) ^ (d.point - 1) ≤ d.rational ∧ d.rational < 10 ^ d.point := by
  obtain ⟨hlow, hhigh⟩ := digitCount_bounds d.value hne
  have hpos : 1 ≤ Double.digitCount d.value := Nat.length_toDigits_pos
  have hstep := ten_zpow_pos (d.point - Double.digitCount d.value)
  have hfirst : (10 : ℚ) ^ (d.point - 1) =
      (10 ^ (Double.digitCount d.value - 1) : ℕ) * 10 ^ (d.point - Double.digitCount d.value) :=
    Shortest.first_eq_multiple d.point hpos
  have hbehind : (10 : ℚ) ^ d.point =
      (10 ^ Double.digitCount d.value : ℕ) * 10 ^ (d.point - Double.digitCount d.value) := by
    rw [← Shortest.ten_zpow_add_natCast, sub_add_cancel]
  rw [hfirst, hbehind]
  exact ⟨mul_le_mul_of_nonneg_right (Nat.cast_le.mpr hlow) hstep.le,
    mul_lt_mul_of_pos_right (Nat.cast_lt.mpr hhigh) hstep⟩

theorem rational_lt_iff_point_le (hne : d.value ≠ 0) (power : ℤ) :
    d.rational < 10 ^ power ↔ d.point ≤ power := by
  obtain ⟨hlow, hhigh⟩ := d.rational_bounds hne
  constructor
  · intro hlt
    have := (zpow_lt_zpow_iff_right₀ (by norm_num)).mp (hlow.trans_lt hlt)
    omega
  · exact fun hle => hhigh.trans_le (zpow_le_zpow_right₀ (by norm_num) hle)

theorem ten_mul_rational_le {power : ℤ} (hne : d.value ≠ 0) (hcount : Double.digitCount d.value = 1)
    (hlt : d.rational < 10 ^ power) : 10 * d.rational ≤ 9 * 10 ^ power := by
  have hpoint := (rational_lt_iff_point_le hne power).mp hlt
  have hdigit : (d.value : ℚ) ≤ 9 := by
    have := (digitCount_bounds d.value hne).2
    rw [hcount] at this
    exact_mod_cast (by omega : d.value ≤ 9)
  have hstep : (10 : ℚ) ^ power = 10 * 10 ^ (power - 1) := by
    rw [← zpow_one_add₀ (by norm_num), add_sub_cancel]
  have hle : d.rational ≤ 9 * 10 ^ (power - 1) := by
    rw [Digits.rational, hcount]
    exact mul_le_mul hdigit (zpow_le_zpow_right₀ (by norm_num) (by push_cast; omega))
      (ten_zpow_pos _).le (by norm_num)
  linarith

theorem rational_one (power : ℤ) : (Digits.mk 1 (power + 1)).rational = 10 ^ power := by
  rw [Shortest.rational_of_count (j := 1) _ rfl, Nat.cast_one, one_mul, Nat.cast_one,
    add_sub_cancel_right]

theorem rational_natCast (n : ℕ) : (Digits.mk n (Double.digitCount n)).rational = n := by
  rw [Digits.rational, sub_self, zpow_zero, mul_one]

theorem rational_of_count_le {k : ℕ} (h : d.point = Double.digitCount d.value + k) :
    d.rational = (d.value * 10 ^ k : ℕ) := by
  rw [Digits.rational, h, add_sub_cancel_left, zpow_natCast]
  push_cast
  rfl

theorem exists_of_rational_eq (hlast : d.value % 10 ≠ 0) (h : d.rational = n) :
    ∃ k : ℕ, d.point = Double.digitCount d.value + k ∧ n = d.value * 10 ^ k := by
  rcases le_or_gt (Double.digitCount d.value : ℤ) d.point with hle | hlt
  · obtain ⟨k, hk⟩ := Int.exists_add_of_le hle
    rw [rational_of_count_le hk] at h
    exact ⟨k, hk, (Nat.cast_injective h).symm⟩
  · obtain ⟨k, hk⟩ := Int.exists_eq_neg_ofNat (by omega : d.point - Double.digitCount d.value ≤ 0)
    rw [Digits.rational, hk, zpow_neg, zpow_natCast, ← div_eq_mul_inv,
      div_eq_iff (by positivity)] at h
    have hvalue : d.value = n * 10 ^ k := by exact_mod_cast h
    have hdvd : 10 ∣ d.value := hvalue ▸ Dvd.dvd.mul_left (dvd_pow_self 10 (by omega)) _
    exact absurd (Nat.mod_eq_zero_of_dvd hdvd) hlast

end Digits

/-! Whole numbers -/

namespace Finite

theorem unit_mul_two_pow {k : ℕ} (h : v.exponent + k = 1074) : 2 ^ k * v.unit = 1 := by
  rw [unit, ← mul_assoc, ← pow_add, add_comm, h, leastPlace]
  exact mul_inv_cancel₀ (pow_ne_zero _ two_ne_zero)

theorem eq_of_attracts_natCast (hexponent : v.exponent ≤ 1074) (h : v.Attracts n) :
    v.magnitude = n := by
  obtain ⟨k, hk⟩ := Nat.exists_eq_add_of_le hexponent
  have hscale := unit_mul_two_pow (v := v) hk.symm
  have hunit := v.unit_pos
  have hgap := v.gapBelow_le_unit
  obtain ⟨hlow, hhigh⟩ := h.bounds
  have hplaces : (n : ℚ) = (n * 2 ^ k : ℕ) * v.unit := by
    push_cast
    rw [mul_assoc, hscale, mul_one]
  rw [magnitude] at hlow hhigh ⊢
  rw [hplaces] at hlow hhigh ⊢
  have hle : v.significand < n * 2 ^ k + 1 := by
    have : (v.significand : ℚ) * v.unit < ((n * 2 ^ k : ℕ) + 1) * v.unit := by linarith
    exact_mod_cast lt_of_mul_lt_mul_right this hunit.le
  have hge : n * 2 ^ k < v.significand + 1 := by
    have : ((n * 2 ^ k : ℕ) : ℚ) * v.unit < (v.significand + 1) * v.unit := by linarith
    exact_mod_cast lt_of_mul_lt_mul_right this hunit.le
  rw [show v.significand = n * 2 ^ k by omega]

theorem unit_eq_two_pow {k : ℕ} (h : v.exponent = 1074 + k) : v.unit = 2 ^ k := by
  rw [unit, h, pow_add, mul_right_comm, leastPlace, mul_inv_cancel₀ (pow_ne_zero _ two_ne_zero),
    one_mul]

theorem exists_eq_natCast (hexponent : 1074 ≤ v.exponent) : ∃ n : ℕ, v.magnitude = n := by
  obtain ⟨k, hk⟩ := Nat.exists_eq_add_of_le hexponent
  refine ⟨v.significand * 2 ^ k, ?_⟩
  rw [magnitude, unit_eq_two_pow hk]
  push_cast
  rfl

theorem exponent_le_of_lt (hv : v.Normal) (hlt : v.magnitude < 2 ^ 53) : v.exponent ≤ 1074 := by
  by_contra hgt
  obtain ⟨k, hk⟩ := Nat.exists_eq_add_of_le (Nat.not_le.mp hgt)
  have hbit : leadingBit ≤ v.significand := hv.2.2.resolve_left (by omega)
  have hle : 2 ^ 53 ≤ v.significand * 2 ^ (k + 1) :=
    calc 2 ^ 53 = leadingBit * 2 ^ 1 := by decide
      _ ≤ v.significand * 2 ^ (k + 1) :=
        Nat.mul_le_mul hbit (Nat.pow_le_pow_right (by decide) (by omega))
  rw [magnitude, unit_eq_two_pow (show v.exponent = 1074 + (k + 1) by omega)] at hlt
  exact absurd (by exact_mod_cast hlt : v.significand * 2 ^ (k + 1) < 2 ^ 53) hle.not_gt

theorem magnitude_eq_natCast_iff :
    v.magnitude = n ↔ v.significand * pow2 v.exponent = n * pow2 1074 := by
  have hpos : ((pow2 1074 : ℕ) : ℚ) ≠ 0 := Nat.cast_ne_zero.mpr (Shortest.pow2_pos _).ne'
  rw [← Shortest.div_pow2_eq, div_eq_iff hpos, ← Nat.cast_mul, Nat.cast_inj]

theorem magnitude_eq_natAbs {m : ℤ} (h : v.value = m) : v.magnitude = m.natAbs := by
  rw [← v.abs_value, h, ← Int.cast_abs, Int.abs_eq_natAbs, Int.cast_natCast]

theorem isInteger_iff : v.isInteger = true ↔ ∃ n : ℕ, v.magnitude = n := by
  have hdvd : v.isInteger = true ↔ pow2 1074 ∣ v.significand * pow2 v.exponent := by
    unfold isInteger
    generalize pow2 1074 = den
    rw [decide_eq_true_eq, Nat.dvd_iff_mod_eq_zero]
  simp only [hdvd, magnitude_eq_natCast_iff, dvd_iff_exists_eq_mul_left]

theorem truncate_eq (h : v.magnitude = n) : v.truncate = if v.negative then -(n : ℤ) else n := by
  unfold truncate
  rw [magnitude_eq_natCast_iff.mp h, Nat.mul_div_cancel _ (Shortest.pow2_pos _)]

end Finite

/-! The shortest digits of whole numbers -/

theorem digitCount_ten_mul {m : ℕ} (hm : m ≠ 0) :
    Double.digitCount (10 * m) = Double.digitCount m + 1 := by
  obtain ⟨hlow, hhigh⟩ := digitCount_bounds m hm
  have hpos : 1 ≤ Double.digitCount m := Nat.length_toDigits_pos
  refine Shortest.digitCount_eq ?_ ?_ (by omega)
  · rw [Nat.add_sub_cancel, ← Nat.sub_add_cancel hpos, pow_succ, mul_comm]
    exact Nat.mul_le_mul_left 10 hlow
  · rw [pow_succ, mul_comm]
    exact Nat.mul_lt_mul_of_pos_right hhigh (by decide)

namespace IsShortest

variable (hv : v.Normal) (hne : v.significand ≠ 0) (h : IsShortest v d)
include hv hne h

theorem attracts : v.Attracts d.rational :=
  (isNearest_rational_iff hv hne d).mp h.rounds

theorem value_ne_zero : d.value ≠ 0 := by
  intro hzero
  have hattracts := h.attracts hv hne
  rw [Digits.rational, hzero, Nat.cast_zero, zero_mul] at hattracts
  exact attracts_ne_zero hne hattracts

theorem last_ne_zero : d.value % 10 ≠ 0 := by
  intro hzero
  obtain ⟨m, hm⟩ := Nat.dvd_of_mod_eq_zero hzero
  have hvalue := h.value_ne_zero hv hne
  have hcount := digitCount_ten_mul (by omega : m ≠ 0)
  have hsame : (Digits.mk m d.point).rational = d.rational := by
    rw [Digits.rational, Digits.rational, hm, hcount, ← sub_add_cancel (d.point - _ : ℤ) 1,
      zpow_add_one₀ (by norm_num)]
    push_cast
    rw [sub_sub]
    ring
  have hfewest := h.fewest ⟨m, d.point⟩ (hsame ▸ h.rounds)
  rw [hm, hcount] at hfewest
  exact Nat.not_succ_le_self _ hfewest

theorem digitCount_le (hexponent : v.exponent ≤ 1074) (hn : v.magnitude = n)
    (hfraction : d.point < Double.digitCount d.value) :
    Double.digitCount n ≤ Double.digitCount d.value := by
  have hunit : v.unit ≤ 1 := by
    obtain ⟨k, hk⟩ := Nat.exists_eq_add_of_le hexponent
    have hscale := Finite.unit_mul_two_pow (v := v) hk.symm
    have hpow : (1 : ℚ) ≤ 2 ^ k := one_le_pow₀ (by norm_num)
    nlinarith [v.unit_pos]
  have hbelow := (d.rational_bounds (h.value_ne_zero hv hne)).2
  have hnear : (n : ℚ) < 10 ^ d.point + 1 / 2 := by
    have := (h.attracts hv hne).bounds.1
    have := v.gapBelow_le_unit
    linarith
  have hone : (1 : ℚ) ≤ n := by
    have := Finite.magnitude_pos hne
    rw [hn] at this
    exact_mod_cast this
  have hpoint : 0 ≤ d.point := by
    by_contra hnegative
    have : (10 : ℚ) ^ d.point ≤ 10 ^ (-1 : ℤ) := zpow_le_zpow_right₀ (by norm_num) (by omega)
    norm_num at this
    linarith
  obtain ⟨k, hk⟩ := Int.eq_ofNat_of_zero_le hpoint
  rw [hk, zpow_natCast] at hnear
  have hlt : n < 10 ^ k + 1 := by
    have : (n : ℚ) < 10 ^ k + 1 := by linarith
    exact_mod_cast this
  have hcount : Double.digitCount n ≤ k + 1 := by
    refine (Nat.length_toDigits_le_iff (by decide) (by omega)).mpr ?_
    have : 1 ≤ 10 ^ k := Nat.one_le_pow _ _ (by decide)
    rw [pow_succ]
    omega
  omega

theorem rational_eq (hn : v.magnitude = n) (hsmall : n < 2 ^ 53) : d.rational = n := by
  have hexponent : v.exponent ≤ 1074 :=
    Finite.exponent_le_of_lt hv (by rw [hn]; exact_mod_cast hsmall)
  rcases le_or_gt (Double.digitCount d.value : ℤ) d.point with hle | hlt
  · obtain ⟨k, hk⟩ := Int.exists_add_of_le hle
    have hattracts := h.attracts hv hne
    rw [Digits.rational_of_count_le hk] at hattracts ⊢
    rw [← hn, Finite.eq_of_attracts_natCast hexponent hattracts]
  · -- its own digits are as few, and nothing is nearer
    have hown : IsNearest (Digits.mk n (Double.digitCount n)).rational v.abs := by
      rw [Digits.rational_natCast, ← hn, ← v.value_abs]
      exact isNearest_self _
    have hclosest := h.closest _ hown
      (le_antisymm (h.digitCount_le hv hne hexponent hn hlt) (h.fewest _ hown))
    rwa [Digits.rational_natCast, hn, sub_self, abs_zero, abs_nonpos_iff, sub_eq_zero] at hclosest

/-- A number that a power of ten is rounded to has no digits below that power: the power itself has
one digit, and is nearer. -/
theorem ten_zpow_le_rational {power : ℤ} (hnear : IsNearest (10 ^ power) v.abs)
    (hclose : 19 * 10 ^ power < 20 * v.magnitude) : 10 ^ power ≤ d.rational := by
  by_contra hlt
  have hone : IsNearest (Digits.mk 1 (power + 1)).rational v.abs := by
    rwa [Digits.rational_one]
  have hcount : Double.digitCount d.value = Double.digitCount 1 :=
    le_antisymm (h.fewest _ hone) Nat.length_toDigits_pos
  have hclosest := h.closest _ hone hcount.symm
  have hrational :=
    Digits.ten_mul_rational_le (h.value_ne_zero hv hne) hcount (not_le.mp hlt)
  rw [Digits.rational_one] at hclosest
  rcases abs_cases (10 ^ power - v.magnitude) with ⟨habs, _⟩ | ⟨habs, _⟩ <;>
    rcases abs_cases (d.rational - v.magnitude) with ⟨habs', _⟩ | ⟨habs', _⟩ <;> linarith

theorem rational_lt_iff {power : ℤ} (hw : w.Canonical) (hnear : IsNearest (10 ^ power) w)
    (hclose : 19 * 10 ^ power < 20 * w.value) :
    d.rational < 10 ^ power ↔ v.magnitude < w.value := by
  have hv' : v.abs.Canonical := hv.canonical
  rw [← v.value_abs, ← not_le, ← not_le, not_iff_not]
  constructor
  · intro hle
    rcases hle.eq_or_lt with heq | hlt
    · exact ((heq ▸ h.rounds).unique hv' hw hnear).ge
    · exact IsNearest.value_le_of_lt hw hv' hlt hnear h.rounds
  · intro hle
    by_contra hlt
    rcases hle.eq_or_lt with heq | hgt
    · have hsame := (IsNearest.iff_value_eq hw hnear hv').mpr heq.symm
      rw [heq, v.value_abs] at hclose
      exact hlt (h.ten_zpow_le_rational hv hne hsame hclose)
    · exact hgt.not_ge (IsNearest.value_le_of_lt hv' hw (not_le.mp hlt) h.rounds hnear)

end IsShortest

/-! Where numerals are plain -/

def leastPlain : Finite :=
  ⟨false, 4722366482869645, 1002⟩

def leastLarge : Finite :=
  ⟨false, 7629394531250000, 1091⟩

theorem value_leastLarge : leastLarge.value = 10 ^ 21 := by
  have hunit : leastLarge.unit = 2 ^ 17 := Finite.unit_eq_two_pow rfl
  rw [Finite.value, if_neg (by decide), Finite.magnitude, hunit]
  norm_num [leastLarge]

theorem unit_leastPlain : leastPlain.unit = 1 / 2 ^ 72 := by
  rw [eq_div_iff (by positivity), mul_comm]
  exact Finite.unit_mul_two_pow rfl

theorem value_leastPlain : leastPlain.value = 4722366482869645 / 2 ^ 72 := by
  rw [Finite.value, if_neg (by decide), Finite.magnitude, unit_leastPlain]
  norm_num [leastPlain]

theorem isNearest_leastPlain : IsNearest (10 ^ (-6 : ℤ)) leastPlain := by
  have hmagnitude : leastPlain.magnitude = 4722366482869645 / 2 ^ 72 := value_leastPlain
  rw [isNearest_iff_attracts ⟨by decide, .inr (by decide)⟩ (by decide) rfl,
    Finite.Attracts, if_neg (by decide), Finite.gapBelow, if_neg (by decide), hmagnitude,
    unit_leastPlain]
  norm_num

namespace IsShortest

variable (hv : v.Normal) (hne : v.significand ≠ 0) (h : IsShortest v d)
include hv hne h

theorem point_le_iff_large : d.point ≤ 21 ↔ v.magnitude < 10 ^ 21 := by
  rw [← Digits.rational_lt_iff_point_le (h.value_ne_zero hv hne),
    h.rational_lt_iff hv hne (w := leastLarge) ⟨by decide, .inr (by decide)⟩ ?_ ?_,
    value_leastLarge]
  · have hself := isNearest_self leastLarge
    rw [value_leastLarge] at hself
    exact_mod_cast hself
  · rw [value_leastLarge]
    norm_num

theorem point_le_iff_small : d.point ≤ -6 ↔ v.magnitude < leastPlain.value := by
  rw [← Digits.rational_lt_iff_point_le (h.value_ne_zero hv hne),
    h.rational_lt_iff hv hne ⟨by decide, .inr (by decide)⟩ isNearest_leastPlain ?_]
  rw [value_leastPlain]
  norm_num

end IsShortest
end ContentBinding.Number
