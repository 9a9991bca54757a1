import ContentBinding.Proofs.Number.Grid
import ContentBinding.Proofs.Number.Nearest

/-! Where the digits of a number begin, and the interval that the search for them looks at: it holds
what is rounded to the number. -/

namespace ContentBinding.Number.Shortest

variable {v : Finite}

/-! The place of the first digit -/

theorem pow_le_pow_of_mul_le {a b m n k l : ℕ} (hm : m ≠ 0) (hb : 0 < b) (hab : a ^ m ≤ b ^ n)
    (h : n * k ≤ m * l) : a ^ k ≤ b ^ l := by
  rw [← Nat.pow_le_pow_iff_left hm]
  calc (a ^ k) ^ m = (a ^ m) ^ k := by rw [← Nat.pow_mul, ← Nat.pow_mul, Nat.mul_comm]
    _ ≤ (b ^ n) ^ k := Nat.pow_le_pow_left hab k
    _ = b ^ (n * k) := (Nat.pow_mul b n k).symm
    _ ≤ b ^ (m * l) := Nat.pow_le_pow_right hb h
    _ = (b ^ l) ^ m := by rw [← Nat.pow_mul, Nat.mul_comm]

/-- The logarithm of two lies between 28/93 and 31/103, near enough for the exponents of doubles. -/
theorem two_pow_le_ten_pow {k l : ℕ} (h : 28 * k ≤ 93 * l) : 2 ^ k ≤ 10 ^ l :=
  pow_le_pow_of_mul_le (by decide) (by decide) (by norm_num) h

theorem ten_pow_le_two_pow {k l : ℕ} (h : 103 * k ≤ 31 * l) : 10 ^ k ≤ 2 ^ l :=
  pow_le_pow_of_mul_le (by decide) (by decide) (by norm_num) h

theorem two_zpow_le_ten_zpow {t b : ℤ} (h : 28 * t ≤ 93 * b) (h' : 31 * t ≤ 103 * b) :
    (2 : ℚ) ^ t ≤ 10 ^ b := by
  rcases le_total 0 b with hb | hb
  · rcases le_total 0 t with ht | ht
    · lift t to ℕ using ht
      lift b to ℕ using hb
      rw [zpow_natCast, zpow_natCast]
      exact_mod_cast two_pow_le_ten_pow (by exact_mod_cast h)
    · exact (zpow_le_one_of_nonpos₀ (by norm_num) ht).trans (one_le_zpow₀ (by norm_num) hb)
  · obtain ⟨s, rfl⟩ := Int.exists_eq_neg_ofNat (by omega : t ≤ 0)
    obtain ⟨c, rfl⟩ := Int.exists_eq_neg_ofNat hb
    rw [zpow_neg, zpow_neg, zpow_natCast, zpow_natCast]
    refine inv_anti₀ (by positivity) ?_
    exact_mod_cast ten_pow_le_two_pow (by omega)

theorem ten_zpow_le_two_zpow {t b : ℤ} (h : 103 * b ≤ 31 * t) (h' : 93 * b ≤ 28 * t) :
    (10 : ℚ) ^ b ≤ 2 ^ t := by
  rcases le_total 0 t with ht | ht
  · rcases le_total 0 b with hb | hb
    · lift t to ℕ using ht
      lift b to ℕ using hb
      rw [zpow_natCast, zpow_natCast]
      exact_mod_cast ten_pow_le_two_pow (by exact_mod_cast h)
    · exact (zpow_le_one_of_nonpos₀ (by norm_num) hb).trans (one_le_zpow₀ (by norm_num) ht)
  · obtain ⟨s, rfl⟩ := Int.exists_eq_neg_ofNat ht
    obtain ⟨c, rfl⟩ := Int.exists_eq_neg_ofNat (by omega : b ≤ 0)
    rw [zpow_neg, zpow_neg, zpow_natCast, zpow_natCast]
    refine inv_anti₀ (by positivity) ?_
    exact_mod_cast two_pow_le_ten_pow (by omega)

theorem div_lt_ten_zpow_iff {num den : ℕ} (hden : 0 < den) (power : ℤ) :
    (num / den : ℚ) < 10 ^ power ↔
      if power < 0 then num * pow10 power.natAbs < den else num < pow10 power.natAbs * den := by
  have hless :
      (if power < 0 then num * pow10 power.natAbs < den else num < pow10 power.natAbs * den) ↔
        num * tenDen power < tenNum power * den := by
    unfold tenDen tenNum
    split_ifs
    · rw [Nat.one_mul]
    · rw [Nat.mul_one]
  rw [hless, div_lt_iff₀ (Nat.cast_pos.mpr hden),
    ← mul_lt_mul_iff_left₀ (Nat.cast_pos.mpr (tenDen_pos power)), mul_right_comm,
    ten_zpow_mul_tenDen]
  exact_mod_cast Iff.rfl

theorem pointBelow_spec {num den : ℕ} (hden : 0 < den) (left : ℕ) {bound : ℤ}
    (h : (num / den : ℚ) < 10 ^ bound) :
    (num / den : ℚ) < 10 ^ pointBelow num den bound left ∧
      (pointBelow num den bound left = bound - left ∨
        (10 : ℚ) ^ (pointBelow num den bound left - 1) ≤ num / den) := by
  induction left generalizing bound with
  | zero => exact ⟨h, .inl (by simp [pointBelow])⟩
  | succ left ih =>
    rw [pointBelow]
    by_cases hsmall : (num / den : ℚ) < 10 ^ (bound - 1)
    · rw [if_pos (by simpa using (div_lt_ten_zpow_iff hden _).mp hsmall)]
      obtain ⟨hlt, hleast⟩ := ih hsmall
      exact ⟨hlt, hleast.imp_left fun heq => by rw [heq]; push_cast; ring⟩
    · rw [if_neg (by simpa using mt (div_lt_ten_zpow_iff hden _).mpr hsmall)]
      exact ⟨h, .inr (not_lt.mp hsmall)⟩

/-! The interval of a number -/

theorem pow2_cast (k : ℕ) : ((pow2 k : ℕ) : ℚ) = 2 ^ k := by
  rw [pow2, Nat.pow_eq, Nat.cast_pow, Nat.cast_ofNat]

theorem leastPlace_mul : leastPlace * (pow2 1074 : ℕ) = 1 := by
  rw [pow2_cast, leastPlace]
  exact inv_mul_cancel₀ (pow_ne_zero _ two_ne_zero)

theorem pow2_pos (k : ℕ) : 0 < pow2 k :=
  Nat.pow_pos (by decide)

theorem div_pow2_eq (v : Finite) :
    ((v.significand * pow2 v.exponent : ℕ) : ℚ) / (pow2 1074 : ℕ) = v.magnitude := by
  have hpos : ((pow2 1074 : ℕ) : ℚ) ≠ 0 := Nat.cast_ne_zero.mpr (pow2_pos _).ne'
  rw [div_eq_iff hpos, Finite.magnitude_eq, mul_assoc, leastPlace_mul, mul_one]
  rfl

theorem center_interval (v : Finite) : (interval v).center = v.magnitude := by
  rw [← div_pow2_eq, Interval.center]
  simp only [interval]
  push_cast
  rw [mul_assoc, mul_div_mul_left _ _ (by norm_num)]

theorem interval_den_pos (v : Finite) : 0 < (interval v).den :=
  Nat.mul_pos (by decide) (pow2_pos _)

theorem low_interval (hne : v.significand ≠ 0) :
    ((interval v).low : ℚ) * leastPlace = 4 * (v.magnitude - v.gapBelow / 2) := by
  by_cases hleading : v.IsLeading
  · have hlow : (interval v).low = (4 * v.significand - 1) * pow2 v.exponent :=
      congrArg (fun below => (4 * v.significand - below) * pow2 v.exponent) (if_pos hleading)
    rw [hlow, Finite.gapBelow, if_pos hleading, Nat.cast_mul, Nat.cast_sub (by omega), pow2_cast,
      Finite.magnitude, Finite.unit]
    push_cast
    ring
  · have hlow : (interval v).low = (4 * v.significand - 2) * pow2 v.exponent :=
      congrArg (fun below => (4 * v.significand - below) * pow2 v.exponent) (if_neg hleading)
    rw [hlow, Finite.gapBelow, if_neg hleading, Nat.cast_mul, Nat.cast_sub (by omega), pow2_cast,
      Finite.magnitude, Finite.unit]
    push_cast
    ring

theorem high_interval (v : Finite) :
    ((interval v).high : ℚ) * leastPlace = 4 * (v.magnitude + v.unit / 2) := by
  simp only [interval]
  rw [Nat.cast_mul, pow2_cast, Finite.magnitude, Finite.unit]
  push_cast
  ring

theorem holds_interval_iff (hne : v.significand ≠ 0) {x : ℚ} :
    (interval v).Holds x ↔ v.Attracts x := by
  have hden : x * ((interval v).den : ℚ) * leastPlace = 4 * x := by
    have hleast := leastPlace_mul
    simp only [interval]
    rw [Nat.cast_mul]
    linear_combination 4 * x * hleast
  have hlow := low_interval hne
  have hhigh := high_interval v
  have hpos := leastPlace_pos
  have hle : ∀ a b : ℚ, a ≤ b ↔ a * leastPlace ≤ b * leastPlace :=
    fun a b => (mul_le_mul_iff_left₀ hpos).symm
  have hlt : ∀ a b : ℚ, a < b ↔ a * leastPlace < b * leastPlace :=
    fun a b => (mul_lt_mul_iff_left₀ hpos).symm
  have hclosed : (interval v).closed = decide (v.significand % 2 = 0) := rfl
  unfold Interval.Holds Finite.Attracts
  rw [hclosed]
  by_cases heven : v.significand % 2 = 0
  · rw [if_pos heven, if_pos (decide_eq_true heven), hle ((interval v).low : ℚ),
      hle _ ((interval v).high : ℚ), hden, hlow, hhigh]
    constructor <;> rintro ⟨h, h'⟩ <;> constructor <;> linarith
  · rw [if_neg heven, if_neg (by simpa using heven), hlt ((interval v).low : ℚ),
      hlt _ ((interval v).high : ℚ), hden, hlow, hhigh]
    constructor <;> rintro ⟨h, h'⟩ <;> constructor <;> linarith

theorem holds_center_interval (hne : v.significand ≠ 0) :
    (interval v).Holds (interval v).center := by
  have hunit := v.unit_pos
  have hgap := v.gapBelow_pos
  rw [holds_interval_iff hne, center_interval]
  unfold Finite.Attracts
  split_ifs <;> constructor <;> linarith

/-! Where the digits begin -/

theorem magnitude_bounds (hne : v.significand ≠ 0) :
    (2 : ℚ) ^ ((v.significand.log2 + v.exponent : ℤ) - 1074) ≤ v.magnitude ∧
      v.magnitude < 2 ^ ((v.significand.log2 + v.exponent : ℤ) - 1073) := by
  have hscale : ∀ k : ℕ, (2 : ℚ) ^ ((k + v.exponent : ℤ) - 1074) = 2 ^ k * v.unit := fun k => by
    rw [Finite.unit, leastPlace, zpow_sub₀ two_ne_zero, zpow_add₀ two_ne_zero, zpow_natCast,
      zpow_natCast, div_eq_mul_inv, mul_assoc]
    rfl
  have hlow : (2 : ℚ) ^ v.significand.log2 ≤ v.significand := by
    exact_mod_cast Nat.log2_self_le hne
  have hhigh : (v.significand : ℚ) < 2 ^ (v.significand.log2 + 1) := by
    exact_mod_cast Nat.lt_log2_self
  constructor
  · rw [hscale]
    exact mul_le_mul_of_nonneg_right hlow v.unit_pos.le
  · have hnext := hscale (v.significand.log2 + 1)
    rw [show ((v.significand.log2 : ℤ) + v.exponent) - 1073 =
      ((v.significand.log2 + 1 : ℕ) + v.exponent : ℤ) - 1074 by push_cast; ring, hnext]
    exact mul_lt_mul_of_pos_right hhigh v.unit_pos

theorem pointOf_spec (hv : v.Normal) (hne : v.significand ≠ 0) :
    (10 : ℚ) ^ (pointOf v - 1) ≤ v.magnitude ∧ v.magnitude < 10 ^ pointOf v := by
  obtain ⟨hlow, hhigh⟩ := magnitude_bounds hne
  have hlog : v.significand.log2 < 53 := (Nat.log2_lt hne).mpr hv.1
  have hexponent : v.exponent ≤ 2045 := hv.2.1
  unfold pointOf
  dsimp only
  generalize hbound : ((v.significand.log2 + v.exponent : ℤ) - 1073) * 30103 / 100000 + 2 = bound
  -- the bound is too large by at most five powers, which are the tries that are left
  have hupper : v.magnitude < 10 ^ bound :=
    hhigh.trans_le (two_zpow_le_ten_zpow (by omega) (by omega))
  have hlower : (10 : ℚ) ^ (bound - 6) ≤ v.magnitude :=
    (ten_zpow_le_two_zpow (by omega) (by omega)).trans hlow
  rw [← div_pow2_eq] at hupper hlower ⊢
  obtain ⟨hlt, hleast⟩ := pointBelow_spec (pow2_pos 1074) 5 hupper
  refine ⟨hleast.elim (fun heq => ?_) id, hlt⟩
  rw [heq]
  exact (by push_cast; ring : bound - 6 = bound - (5 : ℕ) - 1) ▸ hlower

end ContentBinding.Number.Shortest
