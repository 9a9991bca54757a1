import Mathlib.Algebra.Order.Round
import Mathlib.Data.Nat.Digits.Defs
import Mathlib.Data.Nat.Prime.Basic
import Mathlib.Data.Rat.Floor
import ContentBinding.Proofs.Number.Place

/-! The fewest decimal digits that are rounded to a number. The search finds a multiple of the step
of the first place that has one, and no other digits are better: they are a multiple of the same
step, or begin below the first digit of the number and are farther away than a power of ten. -/

namespace ContentBinding.Number

def Digits.rational (d : Digits) : ℚ :=
  d.value * 10 ^ (d.point - Double.digitCount d.value)

/-- The digits that a number is written with: no fewer are rounded to it, of as many they are the
nearest, and of two that are as near the even ones. -/
structure IsShortest (v : Finite) (d : Digits) : Prop where
  rounds : IsNearest d.rational v.abs
  fewest : ∀ c : Digits, IsNearest c.rational v.abs →
    Double.digitCount d.value ≤ Double.digitCount c.value
  closest : ∀ c : Digits, IsNearest c.rational v.abs →
    Double.digitCount c.value = Double.digitCount d.value →
    |d.rational - v.magnitude| ≤ |c.rational - v.magnitude|
  even : ∀ c : Digits, IsNearest c.rational v.abs →
    Double.digitCount c.value = Double.digitCount d.value → c.rational ≠ d.rational →
    |c.rational - v.magnitude| = |d.rational - v.magnitude| → d.value % 2 = 0

theorem IsShortest.isNearest {v : Finite} {d : Digits} (h : IsShortest v d) :
    IsNearest (if v.negative then -d.rational else d.rational) v := by
  have hrounds := h.rounds
  obtain ⟨negative, significand, exponent⟩ := v
  cases negative with
  | true => exact hrounds.neg
  | false => exact hrounds

namespace Shortest

variable {v : Finite}

/-! The digits that are found -/

theorem step_lt_gapBelow (hv : v.Normal) {step : ℚ} (hstep : 10 ^ 16 * step ≤ v.magnitude) :
    step < v.gapBelow := by
  have hunit := v.unit_pos
  have hmagnitude : v.magnitude = v.significand * v.unit := rfl
  have hsignificand : (v.significand : ℚ) ≤ 2 ^ 53 - 1 := by
    have hlt : v.significand + 1 ≤ 2 ^ 53 := hv.1
    have hcast : ((v.significand + 1 : ℕ) : ℚ) ≤ (2 ^ 53 : ℕ) := Nat.cast_le.mpr hlt
    push_cast at hcast
    linarith
  unfold Finite.gapBelow
  split_ifs with hleading
  · -- the number below is half as far away, but the significand is the least one
    have hbit : (v.significand : ℚ) = 2 ^ 52 := by
      rw [hleading.1]
      exact_mod_cast rfl
    rw [hbit] at hmagnitude
    linarith
  · nlinarith

/-- Seventeen digits suffice: their step is less than the distance between numbers. -/
theorem exists_attracts (hv : v.Normal) (hne : v.significand ≠ 0) :
    ∃ m : ℕ, m ≠ 0 ∧ v.Attracts (m * 10 ^ (pointOf v - 17)) := by
  have hstep := ten_zpow_pos (pointOf v - 17)
  have hpoint : 10 ^ 16 * (10 : ℚ) ^ (pointOf v - 17) ≤ v.magnitude := by
    have hlow := (pointOf_spec hv hne).1
    rwa [show pointOf v - 1 = 16 + (pointOf v - 17) by ring, zpow_add₀ (by norm_num)] at hlow
  generalize (10 : ℚ) ^ (pointOf v - 17) = step at *
  have hgap := step_lt_gapBelow hv hpoint
  have hlarge : 1 ≤ v.magnitude / step := (one_le_div hstep).mpr (by linarith)
  have hround := abs_sub_round (v.magnitude / step)
  have hpos : 0 < round (v.magnitude / step) := by
    have := (abs_le.mp hround).2
    exact_mod_cast (by linarith : (0 : ℚ) < round (v.magnitude / step))
  obtain ⟨m, hm⟩ := Int.eq_ofNat_of_zero_le hpos.le
  refine ⟨m, by omega, ?_⟩
  have hnear : |v.magnitude - m * step| ≤ step / 2 := by
    have hscaled := mul_le_mul_of_nonneg_right hround hstep.le
    rw [← abs_of_pos hstep, ← abs_mul, sub_mul, abs_of_pos hstep, div_mul_cancel₀ _ hstep.ne', hm,
      Int.cast_natCast] at hscaled
    linarith
  obtain ⟨hlow, hhigh⟩ := abs_le.mp hnear
  have hgapUnit := v.gapBelow_le_unit
  unfold Finite.Attracts
  split_ifs <;> constructor <;> linarith

theorem digitCount_eq {n j : ℕ} (hlow : 10 ^ (j - 1) ≤ n) (hhigh : n < 10 ^ j) (hj : 1 ≤ j) :
    Double.digitCount n = j := by
  unfold Double.digitCount
  refine le_antisymm ((Nat.length_toDigits_le_iff (by decide) hj).mpr hhigh) ?_
  by_contra hlt
  rcases Nat.eq_or_lt_of_le hj with rfl | hj'
  · exact hlt (Nat.length_toDigits_pos)
  · have hfew : (Nat.toDigits 10 n).length ≤ j - 1 := by omega
    exact absurd ((Nat.length_toDigits_le_iff (by decide) (by omega)).mp hfew) hlow.not_gt

theorem digitCount_bounds (n : ℕ) (hne : n ≠ 0) :
    10 ^ (Double.digitCount n - 1) ≤ n ∧ n < 10 ^ Double.digitCount n := by
  have hpos : 0 < Double.digitCount n := Nat.length_toDigits_pos
  refine ⟨?_, (Nat.length_toDigits_le_iff (by decide) hpos).mp le_rfl⟩
  by_contra hlt
  rcases Nat.eq_zero_or_pos (Double.digitCount n - 1) with hzero | hpos'
  · rw [hzero] at hlt
    omega
  · have := (Nat.length_toDigits_le_iff (by decide) hpos').mpr (not_le.mp hlt)
    unfold Double.digitCount at *
    omega

theorem rational_of_count {n j : ℕ} (point : ℤ) (hcount : Double.digitCount n = j) :
    (Digits.mk n point).rational = n * 10 ^ (point - j) := by
  rw [Digits.rational, hcount]

/-- What the search finds: `n` steps of the place `j`, when no place before has a multiple of its
step that is rounded to the number. -/
structure Found (v : Finite) (j n : ℕ) : Prop where
  pos : 1 ≤ j
  hit : IsHit (interval v) (pointOf v - j) n
  none_before : ∀ l : ℕ, 1 ≤ l → l < j → ∀ m : ℕ, m ≠ 0 → ¬ v.Attracts (m * 10 ^ (pointOf v - l))
  digits : Double.digitCount n = j ∧ digits v = ⟨n, pointOf v⟩ ∨
    j = 1 ∧ n = 10 ∧ digits v = ⟨1, pointOf v + 1⟩

theorem hit_bounds (hv : v.Normal) (hne : v.significand ≠ 0) {j n : ℕ} (hj : 1 ≤ j)
    (hhit : IsHit (interval v) (pointOf v - j) n) : 10 ^ (j - 1) ≤ n ∧ n ≤ 10 ^ j := by
  obtain ⟨hlow, hhigh⟩ := pointOf_spec hv hne
  rw [← center_interval] at hlow hhigh
  have hstep := ten_zpow_pos (pointOf v - j)
  constructor
  · have hlt := hlow.trans_lt hhit.lt
    rw [show pointOf v - 1 = pointOf v - j + (j - 1 : ℕ) by omega, ten_zpow_add_natCast] at hlt
    exact Nat.lt_succ_iff.mp (by exact_mod_cast lt_of_mul_lt_mul_right hlt hstep.le)
  · have hlt := hhit.le.trans_lt (add_lt_add_left hhigh _)
    rw [show pointOf v = pointOf v - j + j by omega, ten_zpow_add_natCast, add_sub_cancel_right,
      ← add_one_mul] at hlt
    exact Nat.lt_succ_iff.mp (by exact_mod_cast lt_of_mul_lt_mul_right hlt hstep.le)

theorem exists_found (hv : v.Normal) (hne : v.significand ≠ 0) : ∃ j n, Found v j n := by
  obtain ⟨m, hm, hattracts⟩ := exists_attracts hv hne
  obtain ⟨j, n, hj, hsearch, hhit, hbefore⟩ := search_spec (interval_den_pos v)
    (holds_center_interval hne) (pointOf v) 17 1
    ⟨17, by decide, by decide, m, hm, (holds_interval_iff hne).mpr hattracts⟩
  simp only [holds_interval_iff hne] at hbefore
  obtain ⟨hge, hle⟩ := hit_bounds hv hne hj hhit
  have hdigits : digits v =
      ⟨stripZeros n 20, pointOf v - j + Double.digitCount n⟩ := by
    rw [digits, if_neg hne, hsearch]
  have hholds := (holds_interval_iff hne).mp hhit.holds
  refine ⟨j, n, hj, hhit, hbefore, ?_⟩
  by_cases hzero : n % 10 = 0
  · -- a last zero is that of ten, or there were fewer digits
    right
    have hj1 : j = 1 := by
      by_contra hj1
      refine hbefore (j - 1) (by omega) (by omega) (n / 10) (by have := hhit.ne_zero; omega) ?_
      rwa [show pointOf v - (j - 1 : ℕ) = pointOf v - j + (1 : ℕ) by omega,
        ten_zpow_add_natCast, ← mul_assoc,
        ← Nat.cast_mul, Nat.pow_one, Nat.div_mul_cancel (Nat.dvd_of_mod_eq_zero hzero)]
    subst hj1
    have hn : n = 10 := by
      have := hhit.ne_zero
      omega
    subst hn
    refine ⟨rfl, rfl, hdigits.trans (congrArg (Digits.mk 1) ?_)⟩
    rw [show Double.digitCount 10 = 2 from rfl]
    omega
  · left
    have hlt : n < 10 ^ j := lt_of_le_of_ne hle fun heq => hzero (by
      rw [heq]
      exact Nat.mod_eq_zero_of_dvd (dvd_pow_self 10 (by omega)))
    have hcount := digitCount_eq hge hlt hj
    refine ⟨hcount, ?_⟩
    rw [hdigits, hcount, stripZeros, if_neg hzero, sub_add_cancel]

/-! No other digits are better -/

theorem isNearest_rational_iff (hv : v.Normal) (hne : v.significand ≠ 0) (d : Digits) :
    IsNearest d.rational v.abs ↔ v.Attracts d.rational :=
  isNearest_iff_attracts (v := v.abs) hv.canonical hne rfl

theorem attracts_magnitude (v : Finite) : v.Attracts v.magnitude := by
  have hunit := v.unit_pos
  have hgap := v.gapBelow_pos
  unfold Finite.Attracts
  split_ifs <;> constructor <;> linarith

theorem attracts_ne_zero (hne : v.significand ≠ 0) : ¬ v.Attracts 0 := by
  intro h
  have := h.bounds.1
  have := v.gapBelow_le_unit
  have := Finite.unit_le_magnitude hne
  have := v.unit_pos
  linarith

theorem eq_multiple_or_lt (hne : v.significand ≠ 0) {c : Digits} (hc : v.Attracts c.rational) :
    (∃ m : ℕ, m ≠ 0 ∧ c.rational = m * 10 ^ (pointOf v - Double.digitCount c.value)) ∨
      c.rational < 10 ^ (pointOf v - 1) := by
  have hvalue : c.value ≠ 0 := by
    intro hzero
    rw [Digits.rational, hzero, Nat.cast_zero, zero_mul] at hc
    exact attracts_ne_zero hne hc
  -- a higher point only puts zeros behind the digits, a lower one makes the number too small
  rcases le_or_gt (pointOf v) c.point with hle | hlt
  · obtain ⟨k, hk⟩ := Int.exists_add_of_le hle
    refine .inl ⟨c.value * 10 ^ k, Nat.mul_ne_zero hvalue (by positivity), ?_⟩
    rw [Digits.rational, hk, add_sub_right_comm, zpow_add₀ (by norm_num), zpow_natCast]
    push_cast
    ring
  · right
    have hcount := Nat.cast_lt (α := ℚ).mpr (digitCount_bounds c.value hvalue).2
    have hstep := ten_zpow_pos (c.point - Double.digitCount c.value)
    calc c.rational < 10 ^ Double.digitCount c.value * 10 ^ (c.point - Double.digitCount c.value) :=
          mul_lt_mul_of_pos_right (by exact_mod_cast hcount) hstep
      _ = 10 ^ c.point := by
          rw [← zpow_natCast, ← zpow_add₀ (by norm_num), add_sub_cancel]
      _ ≤ 10 ^ (pointOf v - 1) := zpow_le_zpow_right₀ (by norm_num) (by omega)

theorem first_eq_multiple (point : ℤ) {l : ℕ} (hl : 1 ≤ l) :
    (10 : ℚ) ^ (point - 1) = (10 ^ (l - 1) : ℕ) * 10 ^ (point - l) := by
  rw [Nat.cast_pow, Nat.cast_ofNat, ← zpow_natCast, ← zpow_add₀ (by norm_num)]
  congr 1
  omega

theorem mul_ten_pow_ne (a : ℕ) {k : ℕ} (hk : k ≠ 0) (l : ℕ) :
    (2 * a * 10 ^ k : ℚ) ≠ 19 * 2 ^ l := by
  intro h
  have hnat : 2 * a * 10 ^ k = 19 * 2 ^ l := by exact_mod_cast h
  have hfive : 5 ∣ 19 * 2 ^ l := hnat ▸ Dvd.dvd.mul_left (dvd_pow (by decide : 5 ∣ 10) hk) _
  rcases (Nat.Prime.dvd_mul Nat.prime_five).mp hfive with h | h
  · exact absurd h (by decide)
  · exact absurd (Nat.prime_five.dvd_of_dvd_pow h) (by decide)

theorem not_half_way (hv : v.Normal) {power : ℤ} (hcenter : 2 * v.magnitude = 19 * 10 ^ power)
    (hunit : 10 ^ power ≤ v.unit) : False := by
  have hpower := ten_zpow_pos power
  have hmagnitude : v.magnitude = v.significand * v.unit := rfl
  have hfew : v.significand < 10 := by
    have hlt : (v.significand : ℚ) * v.unit < 10 * v.unit := by linarith
    exact_mod_cast lt_of_mul_lt_mul_right hlt v.unit_pos.le
  have hexponent : v.exponent = 0 := hv.2.2.resolve_right fun hle => by
    have : 10 ≤ leadingBit := by decide
    omega
  have hleast : v.unit = leastPlace := by
    rw [Finite.unit, hexponent, pow_zero, one_mul]
  rw [hleast] at hunit hmagnitude
  have hnegative : power < 0 := by
    by_contra hpos
    have hone : (1 : ℚ) ≤ 10 ^ power := one_le_zpow₀ (by norm_num) (not_lt.mp hpos)
    have hsmall : leastPlace < 1 := inv_lt_one_of_one_lt₀ (one_lt_pow₀ (by norm_num) (by norm_num))
    linarith
  obtain ⟨k, hk⟩ := Int.exists_eq_neg_ofNat hnegative.le
  rw [hmagnitude, leastPlace, hk, zpow_neg, zpow_natCast, ← div_eq_mul_inv, ← div_eq_mul_inv,
    mul_div_assoc', div_eq_div_iff (by positivity) (by positivity)] at hcenter
  exact mul_ten_pow_ne v.significand (by omega) 1074 hcenter

theorem attracts_of_between {x y z : ℚ} (hne : v.significand ≠ 0) (hx : v.Attracts x)
    (hz : v.Attracts z) (hxy : x ≤ y) (hyz : y ≤ z) : v.Attracts y :=
  (holds_interval_iff hne).mp
    (((holds_interval_iff hne).mpr hx).of_between ((holds_interval_iff hne).mpr hz) hxy hyz)

theorem ne_of_ten_closest (hv : v.Normal) (hne : v.significand ≠ 0) {power : ℤ} {n m : ℕ}
    (hn : n = 10) (hattracts : v.Attracts (n * 10 ^ power))
    (habove : v.magnitude < 10 ^ (power + 1))
    (hclosest : ∀ m : ℕ, m ≠ 0 → v.Attracts (m * 10 ^ power) →
      |n * 10 ^ power - v.magnitude| ≤ |m * 10 ^ power - v.magnitude|)
    (hm : v.Attracts (m * 10 ^ power)) (hother : m * (10 : ℚ) ^ power ≠ n * 10 ^ power) :
    |m * 10 ^ power - v.magnitude| ≠ |n * 10 ^ power - v.magnitude| := by
  intro htie
  subst hn
  rw [Nat.cast_ofNat] at *
  have hpower := ten_zpow_pos power
  have hhigh := hattracts.bounds.2
  have hdistance : 0 < 10 * 10 ^ power - v.magnitude := by
    rw [zpow_add_one₀ (by norm_num)] at habove
    linarith
  rw [abs_of_pos hdistance] at htie hclosest
  have hbelow : m * 10 ^ power - v.magnitude = -(10 * 10 ^ power - v.magnitude) :=
    ((abs_eq hdistance.le).mp htie).resolve_left fun heq => hother (by linarith)
  have hlt : m < 10 := by
    have : (m : ℚ) < 10 := lt_of_mul_lt_mul_right (by linarith) hpower.le
    exact_mod_cast this
  rcases Nat.lt_or_ge m 9 with hsmall | hlarge
  · -- nine would be nearer
    have hcast : (m : ℚ) * 10 ^ power ≤ 8 * 10 ^ power :=
      mul_le_mul_of_nonneg_right (by exact_mod_cast Nat.lt_succ_iff.mp hsmall) hpower.le
    have hnine := hclosest 9 (by decide)
      (attracts_of_between hne hm hattracts (by push_cast; linarith) (by push_cast; linarith))
    push_cast at hnine
    rw [abs_of_nonneg (by linarith)] at hnine
    linarith
  · obtain rfl : m = 9 := by omega
    push_cast at hbelow
    exact not_half_way hv (by linarith) (by linarith)

namespace Found

variable {j n : ℕ} {x : ℚ} (found : Found v j n)
include found

theorem rational : (Shortest.digits v).rational = n * 10 ^ (pointOf v - j) := by
  rcases found.digits with ⟨hcount, hdigits⟩ | ⟨rfl, rfl, hdigits⟩
  · rw [hdigits, rational_of_count _ hcount]
  · rw [hdigits, rational_of_count (j := 1) _ rfl, Nat.cast_one, one_mul,
      show pointOf v + 1 - (1 : ℕ) = pointOf v - (1 : ℕ) + 1 by push_cast; ring,
      zpow_add_one₀ (by norm_num)]
    push_cast
    ring

theorem count : Double.digitCount (Shortest.digits v).value = j := by
  rcases found.digits with ⟨hcount, hdigits⟩ | ⟨rfl, rfl, hdigits⟩ <;> rw [hdigits]
  · exact hcount
  · exact (rfl : Double.digitCount 1 = 1)

variable (hne : v.significand ≠ 0)
include hne

theorem attracts : v.Attracts (n * 10 ^ (pointOf v - j)) :=
  (holds_interval_iff hne).mp found.hit.holds

theorem closest (m : ℕ) (hm : m ≠ 0) (h : v.Attracts (m * 10 ^ (pointOf v - j))) :
    |n * 10 ^ (pointOf v - j) - v.magnitude| ≤ |m * 10 ^ (pointOf v - j) - v.magnitude| := by
  rw [← center_interval]
  exact found.hit.closest m hm ((holds_interval_iff hne).mpr h)

omit found in
theorem attracts_first (hv : v.Normal) (hx : v.Attracts x) (hlt : x < 10 ^ (pointOf v - 1)) :
    v.Attracts (10 ^ (pointOf v - 1)) :=
  attracts_of_between hne hx (attracts_magnitude v) hlt.le (pointOf_spec hv hne).1

theorem nearer (hv : v.Normal) (hx : v.Attracts x) (hlt : x < 10 ^ (pointOf v - 1)) :
    |n * 10 ^ (pointOf v - j) - v.magnitude| < |x - v.magnitude| := by
  have hlow := (pointOf_spec hv hne).1
  have hfirst := attracts_first hne hv hx hlt
  rw [first_eq_multiple _ found.pos] at hfirst hlow hlt
  refine (found.closest hne _ (by positivity) hfirst).trans_lt ?_
  rw [abs_of_nonpos (by linarith), abs_of_neg (by linarith)]
  linarith

end Found

/-- The digits of a number are the fewest that are rounded to it, and of these the nearest. -/
theorem isShortest_digits (hv : v.Normal) (hne : v.significand ≠ 0) : IsShortest v (digits v) := by
  obtain ⟨j, n, found⟩ := exists_found hv hne
  have hrounds := isNearest_rational_iff hv hne
  refine ⟨?_, fun c hc => ?_, fun c hc hsame => ?_, fun c hc hsame hother htie => ?_⟩
  · rw [hrounds, found.rational]
    exact found.attracts hne
  · rw [hrounds] at hc
    rw [found.count]
    by_contra hfewer
    have hpos : 1 ≤ Double.digitCount c.value := Nat.length_toDigits_pos
    -- as a multiple, or through the power of ten above it, it was found earlier
    have hnone := found.none_before _ hpos (not_le.mp hfewer)
    rcases eq_multiple_or_lt hne hc with ⟨m, hm, heq⟩ | hlt
    · exact hnone m hm (heq ▸ hc)
    · exact hnone _ (by positivity)
        (first_eq_multiple (pointOf v) hpos ▸ Found.attracts_first hne hv hc hlt)
  · rw [hrounds] at hc
    rw [found.rational]
    rcases eq_multiple_or_lt hne hc with ⟨m, hm, heq⟩ | hlt
    · rw [hsame, found.count] at heq
      rw [heq] at hc ⊢
      exact found.closest hne m hm hc
    · exact (found.nearer hne hv hc hlt).le
  · rw [hrounds] at hc
    rw [found.rational] at hother htie
    rcases eq_multiple_or_lt hne hc with ⟨m, hm, heq⟩ | hlt
    · rw [hsame, found.count] at heq
      rw [heq] at hc hother htie
      rcases found.digits with ⟨-, hdigits⟩ | ⟨rfl, hten, -⟩
      · rw [hdigits]
        exact found.hit.even m hm (fun heq => hother (by rw [heq]))
          ((holds_interval_iff hne).mpr hc) (by rwa [center_interval])
      · refine absurd htie (ne_of_ten_closest hv hne hten (found.attracts hne) ?_
          (found.closest hne) hc hother)
        rw [Nat.cast_one, sub_add_cancel]
        exact (pointOf_spec hv hne).2
    · exact absurd htie (found.nearer hne hv hc hlt).ne'

end Shortest
end ContentBinding.Number
