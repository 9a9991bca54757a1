import Mathlib.Algebra.Order.Field.Basic
import Mathlib.Algebra.Order.Field.Rat
import Mathlib.Tactic.FieldSimp
import Mathlib.Tactic.Linarith
import Mathlib.Tactic.Ring
import ContentBinding.Number.Shortest

/-! The multiples of a power of ten that lie in an interval. If there are any, one of the neighbours
of its middle is among them, and the search for the fewest digits stops at the first power that has
one. -/

namespace ContentBinding.Number.Shortest

def Interval.center (i : Interval) : ℚ :=
  i.num / i.den

def Interval.Holds (i : Interval) (x : ℚ) : Prop :=
  if i.closed then i.low ≤ x * i.den ∧ x * i.den ≤ i.high
  else i.low < x * i.den ∧ x * i.den < i.high

variable {i : Interval} {n : ℕ} {power : ℤ} {x y z : ℚ}

theorem ten_zpow_pos (power : ℤ) : (0 : ℚ) < 10 ^ power :=
  zpow_pos (by norm_num) power

theorem ten_zpow_add_natCast (power : ℤ) (k : ℕ) :
    (10 : ℚ) ^ (power + k) = (10 ^ k : ℕ) * 10 ^ power := by
  rw [add_comm, zpow_add₀ (by norm_num), zpow_natCast, Nat.cast_pow, Nat.cast_ofNat]

/-! A power of ten as a quotient of natural numbers -/

def tenNum (power : ℤ) : ℕ :=
  if power < 0 then 1 else pow10 power.natAbs

def tenDen (power : ℤ) : ℕ :=
  if power < 0 then pow10 power.natAbs else 1

theorem pow10_pos (k : ℕ) : 0 < pow10 k :=
  Nat.pow_pos (by decide)

theorem tenNum_pos (power : ℤ) : 0 < tenNum power := by
  unfold tenNum
  split_ifs
  · exact Nat.one_pos
  · exact pow10_pos _

theorem tenDen_pos (power : ℤ) : 0 < tenDen power := by
  unfold tenDen
  split_ifs
  · exact pow10_pos _
  · exact Nat.one_pos

theorem ten_zpow_mul_tenDen (power : ℤ) : (10 : ℚ) ^ power * tenDen power = tenNum power := by
  have hpow10 : ∀ k : ℕ, ((pow10 k : ℕ) : ℚ) = 10 ^ (k : ℤ) := fun k => by
    rw [zpow_natCast, pow10, Nat.pow_eq, Nat.cast_pow, Nat.cast_ofNat]
  unfold tenDen tenNum
  split_ifs with h
  · rw [hpow10, ← zpow_add₀ (by norm_num), Int.ofNat_natAbs_of_nonpos h.le, add_neg_cancel,
      zpow_zero, Nat.cast_one]
  · rw [hpow10, Int.natAbs_of_nonneg (not_lt.mp h), Nat.cast_one, mul_one]

theorem ite_eq_mul_tenDen (a : ℕ) :
    (if power < 0 then a * pow10 power.natAbs else a) = a * tenDen power := by
  rw [tenDen, mul_ite, mul_one]

theorem ite_eq_mul_tenNum (a : ℕ) :
    (if power < 0 then a else a * pow10 power.natAbs) = a * tenNum power := by
  rw [tenNum, mul_ite, mul_one]

theorem Interval.Holds.of_between (hx : i.Holds x) (hz : i.Holds z) (hxy : x ≤ y) (hyz : y ≤ z) :
    i.Holds y := by
  have hden : (0 : ℚ) ≤ i.den := Nat.cast_nonneg _
  have hlow := mul_le_mul_of_nonneg_right hxy hden
  have hhigh := mul_le_mul_of_nonneg_right hyz hden
  unfold Holds at *
  split_ifs at *
  · exact ⟨hx.1.trans hlow, hhigh.trans hz.2⟩
  · exact ⟨hx.1.trans_le hlow, hhigh.trans_lt hz.2⟩

theorem contains_iff : contains i n power = true ↔ i.Holds (n * 10 ^ power) := by
  have hscale := ten_zpow_mul_tenDen power
  have hden : (0 : ℚ) < tenDen power := Nat.cast_pos.mpr (tenDen_pos power)
  have hx : (if power < 0 then n * i.den else n * pow10 power.natAbs * i.den) =
      n * tenNum power * i.den := by
    rw [← ite_eq_mul_tenNum, ite_mul]
  have hcast : ((n * tenNum power * i.den : ℕ) : ℚ) = n * 10 ^ power * i.den * tenDen power := by
    push_cast
    rw [← hscale]
    ring
  have hlow : ∀ a : ℕ, a * tenDen power ≤ n * tenNum power * i.den ↔
      (a : ℚ) ≤ n * 10 ^ power * i.den := fun a => by
    rw [← mul_le_mul_iff_left₀ hden, ← hcast]
    exact_mod_cast Iff.rfl
  have hhigh : ∀ a : ℕ, n * tenNum power * i.den ≤ a * tenDen power ↔
      n * 10 ^ power * i.den ≤ (a : ℚ) := fun a => by
    rw [← mul_le_mul_iff_left₀ hden, ← hcast]
    exact_mod_cast Iff.rfl
  unfold contains Interval.Holds
  dsimp only
  rw [hx, ← tenDen]
  split_ifs <;> simp only [Bool.and_eq_true, decide_eq_true_eq, ← not_le, hlow, hhigh]

theorem scaled_spec (hden : 0 < i.den) (power : ℤ) :
    ∃ part : ℚ, 0 ≤ part ∧ part < 1 ∧
      i.center = ((scaled i power).1 + part) * 10 ^ power ∧
      ((scaled i power).2 = .lt ↔ 2 * part < 1) ∧ ((scaled i power).2 = .gt ↔ 1 < 2 * part) := by
  have hscale := ten_zpow_mul_tenDen power
  have ht := tenNum_pos power
  unfold scaled
  rw [ite_eq_mul_tenDen, ite_eq_mul_tenNum]
  dsimp only
  generalize tenDen power = s at *
  generalize tenNum power = t at *
  have hstep : 0 < i.den * t := Nat.mul_pos hden ht
  have hstep' : (0 : ℚ) < (i.den * t : ℕ) := Nat.cast_pos.mpr hstep
  have hdivision : ((i.num * s : ℕ) : ℚ) =
      (i.den * t : ℕ) * (i.num * s / (i.den * t) : ℕ) + (i.num * s % (i.den * t) : ℕ) := by
    exact_mod_cast (Nat.div_add_mod (i.num * s) (i.den * t)).symm
  have hrest : ((i.num * s % (i.den * t) : ℕ) : ℚ) < (i.den * t : ℕ) :=
    Nat.cast_lt.mpr (Nat.mod_lt _ hstep)
  have hless : ∀ a b : ℕ, (a < b ↔ (a : ℚ) < b) := fun a b => Nat.cast_lt.symm
  refine ⟨(i.num * s % (i.den * t) : ℕ) / (i.den * t : ℕ),
    div_nonneg (Nat.cast_nonneg _) hstep'.le, (div_lt_one hstep').mpr hrest, ?_, ?_, ?_⟩
  · have hquotient : ((i.num * s / (i.den * t) : ℕ) : ℚ) +
        (i.num * s % (i.den * t) : ℕ) / (i.den * t : ℕ) = (i.num * s : ℕ) / (i.den * t : ℕ) := by
      rw [hdivision, add_div, mul_div_cancel_left₀ _ hstep'.ne']
    have hden₀ : (i.den : ℚ) ≠ 0 := Nat.cast_ne_zero.mpr hden.ne'
    have ht₀ : (t : ℚ) ≠ 0 := Nat.cast_ne_zero.mpr ht.ne'
    rw [hquotient, Interval.center, Nat.cast_mul, Nat.cast_mul, div_mul_eq_mul_div,
      div_eq_div_iff hden₀ (mul_ne_zero hden₀ ht₀), ← hscale]
    ring
  · rw [Nat.compare_eq_lt, hless, mul_div_assoc', div_lt_one hstep']
    push_cast
    rfl
  · rw [Nat.compare_eq_gt, hless, mul_div_assoc', one_lt_div hstep']
    push_cast
    rfl

/-! The multiple that is taken -/

/-- A multiple of a power of ten in an interval, as near to its middle as any there. -/
structure IsHit (i : Interval) (power : ℤ) (n : ℕ) : Prop where
  ne_zero : n ≠ 0
  holds : i.Holds (n * 10 ^ power)
  closest : ∀ m : ℕ, m ≠ 0 → i.Holds (m * 10 ^ power) →
    |n * 10 ^ power - i.center| ≤ |m * 10 ^ power - i.center|
  even : ∀ m : ℕ, m ≠ 0 → m ≠ n → i.Holds (m * 10 ^ power) →
    |m * 10 ^ power - i.center| = |n * 10 ^ power - i.center| → n % 2 = 0
  lt : i.center < (n + 1) * 10 ^ power
  le : n * 10 ^ power ≤ i.center + 10 ^ power

section

variable {lo m : ℕ} {part : ℚ}

theorem abs_sub_of_le (hpart : 0 ≤ part) (h : m ≤ lo) :
    |(m : ℚ) - (lo + part)| = lo - m + part := by
  have hcast : (m : ℚ) ≤ lo := Nat.cast_le.mpr h
  rw [abs_of_nonpos (by linarith)]
  ring

theorem abs_sub_of_lt (hpart : part < 1) (h : lo < m) :
    |(m : ℚ) - (lo + part)| = m - lo - part := by
  have hcast : ((lo + 1 : ℕ) : ℚ) ≤ m := Nat.cast_le.mpr h
  push_cast at hcast
  rw [abs_of_nonneg (by linarith)]
  ring

theorem abs_mul_sub_center (hcenter : i.center = (lo + part) * 10 ^ power) (m : ℕ) :
    |m * 10 ^ power - i.center| = |(m : ℚ) - (lo + part)| * 10 ^ power := by
  rw [hcenter, ← sub_mul, abs_mul, abs_of_pos (ten_zpow_pos power)]

variable (h0 : 0 ≤ part) (h1 : part < 1) (hcenter : i.center = (lo + part) * 10 ^ power)
  (hmiddle : i.Holds i.center)
include h0 h1 hcenter hmiddle

omit h0 in
theorem holds_above_of_lt (h : lo < m) (hm : i.Holds (m * 10 ^ power)) :
    i.Holds ((lo + 1 : ℕ) * 10 ^ power) := by
  have hpos := (ten_zpow_pos power).le
  refine hmiddle.of_between hm ?_ (mul_le_mul_of_nonneg_right (Nat.cast_le.mpr h) hpos)
  rw [hcenter]
  push_cast
  exact mul_le_mul_of_nonneg_right (by linarith) hpos

omit h1 in
theorem holds_below_of_le (h : m ≤ lo) (hm : i.Holds (m * 10 ^ power)) :
    i.Holds (lo * 10 ^ power) := by
  have hpos := (ten_zpow_pos power).le
  refine hm.of_between hmiddle (mul_le_mul_of_nonneg_right (Nat.cast_le.mpr h) hpos) ?_
  rw [hcenter]
  exact mul_le_mul_of_nonneg_right (by linarith) hpos

theorem isHit_low (hne : lo ≠ 0) (hlow : i.Holds (lo * 10 ^ power))
    (hhigh : i.Holds ((lo + 1 : ℕ) * 10 ^ power) →
      2 * part ≤ 1 ∧ (2 * part = 1 → lo % 2 = 0)) : IsHit i power lo := by
  have hpos := ten_zpow_pos power
  refine ⟨hne, hlow, fun m hm hholds => ?_, fun m hm hother hholds hsame => ?_, ?_, ?_⟩
  · rw [abs_mul_sub_center hcenter, abs_mul_sub_center hcenter, abs_sub_of_le h0 le_rfl]
    refine mul_le_mul_of_nonneg_right ?_ hpos.le
    rcases Nat.lt_or_ge lo m with hlt | hle
    · have hcast : ((lo + 1 : ℕ) : ℚ) ≤ m := Nat.cast_le.mpr hlt
      have hhalf := (hhigh (holds_above_of_lt h1 hcenter hmiddle hlt hholds)).1
      push_cast at hcast
      rw [abs_sub_of_lt h1 hlt]
      linarith
    · have hcast : (m : ℚ) ≤ lo := Nat.cast_le.mpr hle
      rw [abs_sub_of_le h0 hle]
      linarith
  · rw [abs_mul_sub_center hcenter, abs_mul_sub_center hcenter, abs_sub_of_le h0 le_rfl] at hsame
    have hdistance := mul_right_cancel₀ hpos.ne' hsame
    rcases Nat.lt_or_ge lo m with hlt | hle
    · have hcast : ((lo + 1 : ℕ) : ℚ) ≤ m := Nat.cast_le.mpr hlt
      have hhalf := hhigh (holds_above_of_lt h1 hcenter hmiddle hlt hholds)
      push_cast at hcast
      rw [abs_sub_of_lt h1 hlt] at hdistance
      exact hhalf.2 (by linarith)
    · rw [abs_sub_of_le h0 hle] at hdistance
      exact absurd (Nat.cast_injective (R := ℚ) (by linarith : (m : ℚ) = lo)) hother
  · rw [hcenter]
    exact mul_lt_mul_of_pos_right (by linarith) hpos
  · rw [hcenter]
    nlinarith

theorem isHit_high (hhigh : i.Holds ((lo + 1 : ℕ) * 10 ^ power))
    (hlow : lo ≠ 0 → i.Holds (lo * 10 ^ power) →
      1 ≤ 2 * part ∧ (2 * part = 1 → (lo + 1) % 2 = 0)) : IsHit i power (lo + 1) := by
  have hpos := ten_zpow_pos power
  refine ⟨Nat.succ_ne_zero lo, hhigh, fun m hm hholds => ?_, fun m hm hother hholds hsame => ?_,
    ?_, ?_⟩
  · rw [abs_mul_sub_center hcenter, abs_mul_sub_center hcenter, abs_sub_of_lt h1 lo.lt_succ_self]
    refine mul_le_mul_of_nonneg_right ?_ hpos.le
    push_cast
    -- above, nothing is nearer than `lo + 1`; below, nothing is nearer than `lo`
    rcases Nat.lt_or_ge lo m with hlt | hle
    · have hcast : ((lo + 1 : ℕ) : ℚ) ≤ m := Nat.cast_le.mpr hlt
      push_cast at hcast
      rw [abs_sub_of_lt h1 hlt]
      linarith
    · have hcast : (m : ℚ) ≤ lo := Nat.cast_le.mpr hle
      have hhalf := (hlow (by omega) (holds_below_of_le h0 hcenter hmiddle hle hholds)).1
      rw [abs_sub_of_le h0 hle]
      linarith
  · rw [abs_mul_sub_center hcenter, abs_mul_sub_center hcenter,
      abs_sub_of_lt h1 lo.lt_succ_self] at hsame
    have hdistance := mul_right_cancel₀ hpos.ne' hsame
    push_cast at hdistance
    rcases Nat.lt_or_ge lo m with hlt | hle
    · rw [abs_sub_of_lt h1 hlt] at hdistance
      have hcast' : (m : ℚ) = (lo + 1 : ℕ) := by
        push_cast
        linarith
      exact absurd (Nat.cast_injective hcast') hother
    · have hcast : (m : ℚ) ≤ lo := Nat.cast_le.mpr hle
      have hhalf := hlow (by omega) (holds_below_of_le h0 hcenter hmiddle hle hholds)
      rw [abs_sub_of_le h0 hle] at hdistance
      exact hhalf.2 (by linarith)
  · rw [hcenter]
    push_cast
    exact mul_lt_mul_of_pos_right (by linarith) hpos
  · rw [hcenter]
    push_cast
    nlinarith

end

/-- What the search takes for a power is a hit, and it takes none only when there is none. -/
theorem nearestOnGrid_spec (hden : 0 < i.den) (hmiddle : i.Holds i.center) (power : ℤ) :
    match nearestOnGrid i power with
    | some n => IsHit i power n
    | none => ∀ m : ℕ, m ≠ 0 → ¬ i.Holds (m * 10 ^ power) := by
  obtain ⟨part, h0, h1, hcenter, hlt, hgt⟩ := scaled_spec hden power
  unfold nearestOnGrid
  generalize scaled i power = pair at *
  obtain ⟨lo, half⟩ := pair
  have hlow : (lo != 0 && contains i lo power) = true ↔ lo ≠ 0 ∧ i.Holds (lo * 10 ^ power) := by
    rw [Bool.and_eq_true, bne_iff_ne, contains_iff]
  have hhigh : contains i (lo + 1) power = true ↔ i.Holds ((lo + 1 : ℕ) * 10 ^ power) :=
    contains_iff
  dsimp only at hcenter hlt hgt ⊢
  by_cases hasLow : lo ≠ 0 ∧ i.Holds (lo * 10 ^ power) <;>
    by_cases hasHigh : i.Holds ((lo + 1 : ℕ) * 10 ^ power)
  · rw [hlow.mpr hasLow, hhigh.mpr hasHigh]
    cases half with
    | lt =>
      have hpart := hlt.mp rfl
      exact isHit_low h0 h1 hcenter hmiddle hasLow.1 hasLow.2 fun _ =>
        ⟨hpart.le, fun heq => absurd heq hpart.ne⟩
    | gt =>
      have hpart := hgt.mp rfl
      exact isHit_high h0 h1 hcenter hmiddle hasHigh fun _ _ =>
        ⟨hpart.le, fun heq => absurd heq hpart.ne'⟩
    | eq =>
      have hpart : 2 * part = 1 := le_antisymm (not_lt.mp fun h => absurd (hgt.mpr h) nofun)
        (not_lt.mp fun h => absurd (hlt.mpr h) nofun)
      by_cases heven : lo % 2 = 0
      · simp only [Bool.and_self, if_true, if_pos heven]
        exact isHit_low h0 h1 hcenter hmiddle hasLow.1 hasLow.2 fun _ => ⟨hpart.le, fun _ => heven⟩
      · simp only [Bool.and_self, if_true, if_neg heven]
        exact isHit_high h0 h1 hcenter hmiddle hasHigh fun _ _ => ⟨hpart.ge, fun _ => by omega⟩
  · rw [hlow.mpr hasLow, Bool.eq_false_iff.mpr (mt hhigh.mp hasHigh)]
    exact isHit_low h0 h1 hcenter hmiddle hasLow.1 hasLow.2 fun h => absurd h hasHigh
  · rw [Bool.eq_false_iff.mpr (mt hlow.mp hasLow), hhigh.mpr hasHigh]
    exact isHit_high h0 h1 hcenter hmiddle hasHigh fun hne h => absurd ⟨hne, h⟩ hasLow
  · rw [Bool.eq_false_iff.mpr (mt hlow.mp hasLow), Bool.eq_false_iff.mpr (mt hhigh.mp hasHigh)]
    intro m hm hholds
    rcases Nat.lt_or_ge lo m with hlt | hle
    · exact hasHigh (holds_above_of_lt h1 hcenter hmiddle hlt hholds)
    · exact hasLow ⟨by omega, holds_below_of_le h0 hcenter hmiddle hle hholds⟩

/-! The search -/

/-- The search ends at the first power that has a multiple in the interval. -/
theorem search_spec (hden : 0 < i.den) (hmiddle : i.Holds i.center) (point : ℤ) (left k : ℕ)
    (h : ∃ j, k ≤ j ∧ j < k + left ∧ ∃ m : ℕ, m ≠ 0 ∧ i.Holds (m * 10 ^ (point - j : ℤ))) :
    ∃ j n, k ≤ j ∧ search i point k left = (n, point - j) ∧ IsHit i (point - j) n ∧
      ∀ l, k ≤ l → l < j → ∀ m : ℕ, m ≠ 0 → ¬ i.Holds (m * 10 ^ (point - l : ℤ)) := by
  induction left generalizing k with
  | zero =>
    obtain ⟨j, hle, hlt, -⟩ := h
    omega
  | succ left ih =>
    have hspec := nearestOnGrid_spec hden hmiddle (point - k)
    rw [search]
    cases hgrid : nearestOnGrid i (point - k) with
    | some n =>
      rw [hgrid] at hspec
      exact ⟨k, n, le_rfl, by simp only, hspec, fun l hle hlt => absurd hlt hle.not_gt⟩
    | none =>
      rw [hgrid] at hspec
      obtain ⟨j, hle, hlt, m, hm, hholds⟩ := h
      have hne : k ≠ j := by
        rintro rfl
        exact hspec m hm hholds
      obtain ⟨j', n, hle', hsearch, hhit, hbefore⟩ :=
        ih (k + 1) ⟨j, by omega, by omega, m, hm, hholds⟩
      refine ⟨j', n, by omega, by simpa only [hgrid] using hsearch, hhit, fun l hl hlt' => ?_⟩
      rcases Nat.eq_or_lt_of_le hl with rfl | hlt''
      · exact hspec
      · exact hbefore l hlt'' hlt'

end ContentBinding.Number.Shortest
