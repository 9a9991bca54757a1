import Mathlib.Data.Nat.Log
import Mathlib.Tactic.Ring
import ContentBinding.Number.Double

/-! Integers beyond all doubles. The largest of them lies half a unit below 2^1024; from there on an
integer is rounded up to a power that has no place. -/

namespace ContentBinding.Number

theorem roundDiv_mul_left {k : Nat} (hk : 0 < k) (num den : Nat) :
    roundDiv (k * num) (k * den) = roundDiv num den := by
  have hless : ∀ a b : Nat, k * a < k * b ↔ a < b := fun a b => Nat.mul_lt_mul_left hk
  rw [roundDiv, roundDiv, Nat.mul_div_mul_left _ _ hk, Nat.mul_mod_mul_left, Nat.mul_left_comm 2 k]
  simp only [hless]

theorem roundDiv_eq_succ_iff {q num half : Nat} (hhalf : 0 < half) (hodd : q % 2 = 1)
    (hnum : num < (q + 1) * (2 * half)) :
    roundDiv num (2 * half) = q + 1 ↔ q * (2 * half) + half ≤ num := by
  have hsplit : num = num / (2 * half) * (2 * half) + num % (2 * half) := by
    rw [Nat.mul_comm]
    exact (Nat.div_add_mod num (2 * half)).symm
  have hrest : num % (2 * half) < 2 * half := Nat.mod_lt _ (by omega)
  have hquot : num / (2 * half) ≤ q := Nat.lt_succ_iff.mp (Nat.div_lt_of_lt_mul (by rwa [Nat.mul_comm]))
  rcases Nat.lt_or_eq_of_le hquot with hlt | heq
  · -- a smaller quotient is not rounded up so far
    have hmul : (num / (2 * half) + 1) * (2 * half) ≤ q * (2 * half) :=
      Nat.mul_le_mul_right _ hlt
    have hround : roundDiv num (2 * half) ≤ num / (2 * half) + 1 := by
      unfold roundDiv
      dsimp only
      split_ifs <;> omega
    rw [Nat.add_mul, Nat.one_mul] at hmul
    constructor
    · omega
    · omega
  · rw [heq] at hsplit
    unfold roundDiv
    dsimp only
    rw [heq]
    split_ifs <;> omega

theorem pow2_eq (n : Nat) : pow2 n = 2 ^ n :=
  rfl

theorem two_pow_of_eq {a b c : Nat} (h : a + (b + 1) = c) : 2 ^ c = 2 ^ a * (2 * 2 ^ b) := by
  rw [← h, Nat.pow_add, Nat.pow_succ']

theorem two_pow_sub_bounds {a b c : Nat} (hb : b ≤ a) (hc : a + 1 = c) :
    2 ^ a ≤ 2 ^ c - 2 ^ b ∧ 2 ^ c - 2 ^ b ≤ 2 ^ c := by
  have hle : 2 ^ b ≤ 2 ^ a := Nat.pow_le_pow_right Nat.two_pos hb
  rw [← hc, Nat.two_pow_succ]
  generalize 2 ^ a = top at hle ⊢
  generalize 2 ^ b = half at hle ⊢
  omega

theorem log2_mul_two_pow {n : Nat} (hn : n ≠ 0) (k : Nat) :
    Nat.log2 (n * 2 ^ k) = Nat.log2 n + k := by
  have hne : n * 2 ^ k ≠ 0 := Nat.mul_ne_zero hn (Nat.pos_iff_ne_zero.mp (Nat.two_pow_pos k))
  rw [Nat.log2_eq_iff hne, Nat.pow_add, Nat.add_right_comm, Nat.pow_add 2 (n.log2 + 1)]
  exact ⟨Nat.mul_le_mul_right _ (Nat.log2_self_le hn),
    Nat.mul_lt_mul_of_pos_right Nat.lt_log2_self (Nat.two_pow_pos k)⟩

namespace Double

/-- The least integer that is rounded to no finite number. -/
def overflowStart : Nat :=
  2 ^ 1024 - 2 ^ 970

theorem ofRatio_finite_iff (negative : Bool) (num den : Nat) :
    (∃ v, ofRatio negative num den = .finite v) ↔
      (if roundDiv (num * pow2 1074) (den * pow2 (exponentFor (num * pow2 1074) den)) =
          significandLimit
        then exponentFor (num * pow2 1074) den + 1
        else exponentFor (num * pow2 1074) den) ≤ maxExponent := by
  unfold ofRatio
  dsimp only
  split_ifs with hlimit hexponent hexponent <;> simp_all

theorem exponentFor_integer {n : Nat} (hn : n ≠ 0) :
    exponentFor (n * pow2 1074) 1 = n.log2 + 1022 := by
  rw [exponentFor, Nat.div_one, pow2_eq, log2_mul_two_pow hn, Nat.add_sub_assoc (by decide)]

/-- An integer with 1024 binary digits keeps its exponent unless it is rounded up to the next power. -/
theorem roundDiv_widest {n : Nat} (hn : n < 2 ^ 1024) :
    roundDiv (n * pow2 1074) (1 * pow2 2045) = significandLimit ↔ overflowStart ≤ n := by
  have hscale : pow2 2045 = pow2 1074 * (2 * 2 ^ 970) := by
    rw [pow2_eq, pow2_eq]
    exact two_pow_of_eq (by decide)
  have hlimit : significandLimit = 2 ^ 53 - 1 + 1 := by decide
  have hwhole : (2 ^ 53 - 1 + 1) * (2 * 2 ^ 970) = 2 ^ 1024 := by
    rw [show (2 : Nat) ^ 53 - 1 + 1 = 2 ^ 53 from rfl]
    exact (two_pow_of_eq (by decide)).symm
  have hstart : (2 ^ 53 - 1) * (2 * 2 ^ 970) + 2 ^ 970 = overflowStart := by
    rw [Nat.add_mul, Nat.one_mul] at hwhole
    rw [overflowStart]
    generalize (2 ^ 53 - 1) * (2 * 2 ^ 970) = below at hwhole ⊢
    generalize (2 : Nat) ^ 1024 = top at hwhole ⊢
    generalize (2 : Nat) ^ 970 = half at hwhole ⊢
    omega
  have hpos : ∀ k, 0 < 2 ^ k := fun _ => Nat.two_pow_pos _
  rw [Nat.one_mul, hscale, Nat.mul_comm n, pow2_eq, roundDiv_mul_left (hpos 1074), hlimit,
    roundDiv_eq_succ_iff (hpos 970) (by decide) (by rwa [hwhole]), hstart]

theorem exists_ofInt_eq_finite_iff (n : Nat) :
    (∃ v, ofInt n = .finite v) ↔ n < overflowStart := by
  have hofInt : ofInt n = ofRatio (decide ((n : Int) < 0)) n 1 := by
    rw [ofInt, Int.natAbs_natCast]
  have hbound : 2 ^ 1023 ≤ overflowStart ∧ overflowStart ≤ 2 ^ 1024 :=
    two_pow_sub_bounds (by decide) (by decide)
  rw [hofInt, ofRatio_finite_iff]
  by_cases hn : n = 0
  · subst hn
    refine iff_of_true ?_ (Nat.lt_of_lt_of_le (Nat.two_pow_pos _) hbound.1)
    rw [Nat.zero_mul]
    decide
  · rw [exponentFor_integer hn]
    have hlow := Nat.log2_self_le hn
    have hhigh := Nat.lt_log2_self (n := n)
    have hpow : ∀ k m, k ≤ m → 2 ^ k ≤ 2 ^ m := fun _ _ => Nat.pow_le_pow_right Nat.two_pos
    -- below the last exponent nothing overflows, in it the rounding decides, above it all do
    rcases Nat.lt_trichotomy n.log2 1023 with hlog | hlog | hlog
    · refine iff_of_true ?_ (Nat.lt_of_lt_of_le hhigh ((hpow _ 1023 hlog).trans hbound.1))
      split_ifs <;> simp only [maxExponent] <;> omega
    · simp only [hlog, Nat.reduceAdd] at hhigh ⊢
      have hwidest := roundDiv_widest (n := n) (by exact hhigh)
      rw [← Nat.not_le, ← hwidest]
      split_ifs with hlimit
      · exact iff_of_false (by decide) (fun h => h hlimit)
      · exact iff_of_true (by decide) hlimit
    · refine iff_of_false ?_ (Nat.not_lt.mpr (hbound.2.trans ((hpow 1024 _ hlog).trans hlow)))
      split_ifs <;> simp only [maxExponent] <;> omega

end Double
end ContentBinding.Number
