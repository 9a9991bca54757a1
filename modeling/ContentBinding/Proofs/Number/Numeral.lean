import ContentBinding.Proofs.Number.Grid
import ContentBinding.Proofs.Text.Splitting

/-! Decimal numerals, the numbers they stand for, and the one that a script writes for digits: plain
while the point stands near the digits, with an exponent elsewhere. -/

namespace ContentBinding.Number

def IsDigits (cs : List Char) : Prop :=
  cs ≠ [] ∧ ∀ c ∈ cs, c.isDigit = true

instance (cs : List Char) : Decidable (IsDigits cs) :=
  decidable_of_iff (cs ≠ [] ∧ cs.all Char.isDigit = true) (by rw [List.all_eq_true]; rfl)

namespace Numeral

/-! Reading -/

def valueOf (ds : List Char) : ℚ :=
  (Nat.ofDigitChars 10 ds 0 : ℕ)

def plain? (cs : List Char) : Option ℚ :=
  match Text.splitOn (· = '.') cs with
  | [whole] => if IsDigits whole then some (valueOf whole) else none
  | [whole, fraction] =>
    if IsDigits whole ∧ IsDigits fraction then
      some (valueOf (whole ++ fraction) * 10 ^ (-fraction.length : ℤ))
    else none
  | _ => none

def exponent? : List Char → Option ℤ
  | '-' :: ds => if IsDigits ds then some (-(Nat.ofDigitChars 10 ds 0 : ℕ)) else none
  | '+' :: ds => if IsDigits ds then some (Nat.ofDigitChars 10 ds 0 : ℕ) else none
  | ds => if IsDigits ds then some (Nat.ofDigitChars 10 ds 0 : ℕ) else none

def unsigned? (cs : List Char) : Option ℚ :=
  match Text.splitOn (· = 'e') cs with
  | [mantissa] => plain? mantissa
  | [mantissa, exponent] =>
    (plain? mantissa).bind fun m => (exponent? exponent).map fun e => m * 10 ^ e
  | _ => none

/-- The number that a numeral stands for. -/
def read? (text : List Char) : Option ℚ :=
  match text with
  | '-' :: cs => (unsigned? cs).map fun x => -x
  | cs => unsigned? cs

/-! Writing -/

def signText (negative : Bool) : List Char :=
  if negative then ['-'] else []

def mantissaText (ds : List Char) : List Char :=
  ds.take 1 ++ if ds.length = 1 then [] else '.' :: ds.drop 1

def exponentText (k : ℤ) : List Char :=
  (if 0 < k then '+' else '-') :: Nat.toDigits 10 k.natAbs

/-- The numeral of digits with the point behind the first `n` of them, as scripts write it. -/
def scriptDigits (ds : List Char) (n : ℤ) : List Char :=
  if ds.length ≤ n ∧ n ≤ 21 then ds ++ List.replicate (n.toNat - ds.length) '0'
  else if 0 < n ∧ n ≤ 21 then ds.take n.toNat ++ '.' :: ds.drop n.toNat
  else if -6 < n ∧ n ≤ 0 then '0' :: '.' :: (List.replicate n.natAbs '0' ++ ds)
  else mantissaText ds ++ 'e' :: exponentText (n - 1)

end Numeral

/-! Digits -/

namespace IsDigits

variable {ds more : List Char} {c : Char}

theorem toDigits (n : ℕ) : IsDigits (Nat.toDigits 10 n) :=
  ⟨Nat.toDigits_ne_nil, fun _ hc => Nat.isDigit_of_mem_toDigits (by decide) (by decide) hc⟩

theorem length_pos (h : IsDigits ds) : 0 < ds.length :=
  List.length_pos_iff.mpr h.1

theorem append (h : IsDigits ds) (hmore : ∀ c ∈ more, c.isDigit = true) : IsDigits (ds ++ more) :=
  ⟨List.append_ne_nil_of_left_ne_nil h.1 more, List.forall_mem_append.mpr ⟨h.2, hmore⟩⟩

theorem take (h : IsDigits ds) {n : ℕ} (hn : n ≠ 0) : IsDigits (ds.take n) :=
  ⟨by simpa [List.take_eq_nil_iff, hn] using h.1, fun c hc => h.2 c (List.mem_of_mem_take hc)⟩

theorem drop (h : IsDigits ds) {n : ℕ} (hn : n < ds.length) : IsDigits (ds.drop n) :=
  ⟨by simpa [List.drop_eq_nil_iff] using hn, fun c hc => h.2 c (List.mem_of_mem_drop hc)⟩

theorem zeros (k : ℕ) : ∀ c ∈ List.replicate k '0', c.isDigit = true :=
  fun _ hc => List.eq_of_mem_replicate hc ▸ by decide

theorem zeros_append (h : IsDigits ds) (k : ℕ) : IsDigits (List.replicate k '0' ++ ds) :=
  ⟨List.append_ne_nil_of_right_ne_nil _ h.1, List.forall_mem_append.mpr ⟨zeros k, h.2⟩⟩

theorem not_mem (h : IsDigits ds) (hc : c.isDigit = false) : c ∉ ds :=
  fun hmem => Bool.false_ne_true (hc.symm.trans (h.2 c hmem))

end IsDigits

namespace Numeral

variable {ds whole fraction mantissa exponent : List Char} {n k : ℤ} {x : ℚ}

theorem valueOf_toDigits (n : ℕ) : valueOf (Nat.toDigits 10 n) = n := by
  rw [valueOf, Nat.ofDigitChars_ten_toDigits]

theorem valueOf_append_zeros (ds : List Char) (k : ℕ) :
    valueOf (ds ++ List.replicate k '0') = valueOf ds * 10 ^ k := by
  rw [valueOf, valueOf, Nat.ofDigitChars_append, Nat.ofDigitChars_replicate_zero]
  push_cast
  ring

theorem valueOf_zeros_append (ds : List Char) (k : ℕ) :
    valueOf (List.replicate k '0' ++ ds) = valueOf ds := by
  rw [valueOf, valueOf, Nat.ofDigitChars_append, Nat.ofDigitChars_replicate_zero, Nat.mul_zero]

theorem toDigits_mul_ten_pow {m : ℕ} (hm : m ≠ 0) (k : ℕ) :
    Nat.toDigits 10 (m * 10 ^ k) = Nat.toDigits 10 m ++ List.replicate k '0' := by
  induction k with
  | zero => simp
  | succ k ih =>
    have hpos : 0 < m * 10 ^ k := by positivity
    rw [List.replicate_succ', ← List.append_assoc, ← ih,
      show m * 10 ^ (k + 1) = 10 * (m * 10 ^ k) + 0 by ring,
      ← Nat.toDigits_append_toDigits (by decide) hpos (by decide)]
    rfl

/-! The parts of a numeral -/

theorem plain?_of_isDigits (h : IsDigits ds) : plain? ds = some (valueOf ds) := by
  rw [plain?, Text.splitOn_of_not_mem (h.not_mem (by decide))]
  exact if_pos h

theorem plain?_of_point (hwhole : IsDigits whole) (hfraction : IsDigits fraction) :
    plain? (whole ++ '.' :: fraction) =
      some (valueOf (whole ++ fraction) * 10 ^ (-fraction.length : ℤ)) := by
  have hsplit : Text.splitOn (· = '.') (whole ++ '.' :: fraction) = [whole, fraction] := by
    rw [Text.splitOn_append_cut (by decide), Text.splitOn_of_not_mem (hwhole.not_mem (by decide)),
      Text.splitOn_of_not_mem (hfraction.not_mem (by decide)), List.singleton_append]
  rw [plain?, hsplit]
  exact if_pos ⟨hwhole, hfraction⟩

theorem unsigned?_of_not_mem (h : 'e' ∉ ds) : unsigned? ds = plain? ds := by
  rw [unsigned?, Text.splitOn_of_not_mem h]

theorem splitOn_exponent (hmantissa : 'e' ∉ mantissa) (hexponent : 'e' ∉ exponent) :
    Text.splitOn (· = 'e') (mantissa ++ 'e' :: exponent) = [mantissa, exponent] := by
  rw [Text.splitOn_append_cut (by decide), Text.splitOn_of_not_mem hmantissa,
    Text.splitOn_of_not_mem hexponent, List.singleton_append]

theorem unsigned?_of_exponent (hmantissa : 'e' ∉ mantissa) (hexponent : 'e' ∉ exponent) :
    unsigned? (mantissa ++ 'e' :: exponent) =
      (plain? mantissa).bind fun m => (exponent? exponent).map fun e => m * 10 ^ e := by
  rw [unsigned?, splitOn_exponent hmantissa hexponent]

theorem exponent?_exponentText (k : ℤ) : exponent? (exponentText k) = some k := by
  have hdigits := IsDigits.toDigits k.natAbs
  unfold exponentText
  split_ifs with hpos
  · rw [exponent?, if_pos hdigits, Nat.ofDigitChars_ten_toDigits, Int.natAbs_of_nonneg hpos.le]
  · rw [exponent?, if_pos hdigits, Nat.ofDigitChars_ten_toDigits,
      Int.ofNat_natAbs_of_nonpos (not_lt.mp hpos), neg_neg]

theorem e_not_mem_exponentText (k : ℤ) : 'e' ∉ exponentText k := by
  unfold exponentText
  rw [List.mem_cons]
  rintro (hsign | hdigit)
  · split_ifs at hsign <;> exact absurd hsign (by decide)
  · exact (IsDigits.toDigits _).not_mem (by decide) hdigit

theorem plain?_mantissaText (h : IsDigits ds) :
    plain? (mantissaText ds) = some (valueOf ds * 10 ^ (1 - ds.length : ℤ)) := by
  have hpos := h.length_pos
  unfold mantissaText
  by_cases hone : ds.length = 1
  · rw [if_pos hone, List.append_nil, List.take_of_length_le hone.le, plain?_of_isDigits h, hone,
      Nat.cast_one, sub_self, zpow_zero, mul_one]
  · rw [if_neg hone, plain?_of_point (h.take one_ne_zero) (h.drop (by omega)),
      List.take_append_drop, List.length_drop]
    congr 3
    omega

theorem e_not_mem_mantissaText (h : IsDigits ds) : 'e' ∉ mantissaText ds := by
  have hmem := h.not_mem (c := 'e') (by decide)
  unfold mantissaText
  rw [List.mem_append]
  rintro (htake | hdrop)
  · exact hmem (List.mem_of_mem_take htake)
  · split_ifs at hdrop
    · exact List.not_mem_nil hdrop
    · exact hmem (List.mem_of_mem_drop ((List.mem_cons.mp hdrop).resolve_left (by decide)))

/-! The numeral of digits -/

theorem scriptDigits_of_near (hlow : -6 < n) (hhigh : n ≤ 21) :
    scriptDigits ds n =
      if ds.length ≤ n then ds ++ List.replicate (n.toNat - ds.length) '0'
      else if 0 < n then ds.take n.toNat ++ '.' :: ds.drop n.toNat
      else '0' :: '.' :: (List.replicate n.natAbs '0' ++ ds) := by
  unfold scriptDigits
  split_ifs <;> first | rfl | omega

theorem scriptDigits_of_far (h : IsDigits ds) (hfar : ¬ (-6 < n ∧ n ≤ 21)) :
    scriptDigits ds n = mantissaText ds ++ 'e' :: exponentText (n - 1) := by
  have hpos := h.length_pos
  unfold scriptDigits
  rw [if_neg (by omega), if_neg (by omega), if_neg (by omega)]

theorem e_mem_scriptDigits_iff (h : IsDigits ds) :
    'e' ∈ scriptDigits ds n ↔ ¬ (-6 < n ∧ n ≤ 21) := by
  by_cases hnear : -6 < n ∧ n ≤ 21
  · have hmem := h.not_mem (c := 'e') (by decide)
    have htake : 'e' ∉ ds.take n.toNat := fun hc => hmem (List.mem_of_mem_take hc)
    have hdrop : 'e' ∉ ds.drop n.toNat := fun hc => hmem (List.mem_of_mem_drop hc)
    have hzeros : ∀ k, 'e' ∉ List.replicate k '0' := fun k hc =>
      Bool.false_ne_true (IsDigits.zeros k _ hc)
    have hplain : 'e' ∉ scriptDigits ds n := by
      rw [scriptDigits_of_near hnear.1 hnear.2]
      split_ifs <;> simp [hmem, htake, hdrop, hzeros]
    exact iff_of_false hplain (not_not.mpr hnear)
  · rw [scriptDigits_of_far h hnear]
    exact iff_of_true (by simp) hnear

theorem head?_scriptDigits (h : IsDigits ds) (n : ℤ) : (scriptDigits ds n).head? ≠ some '-' := by
  obtain ⟨c, rest, rfl⟩ := List.exists_cons_of_ne_nil h.1
  have hc : c ≠ '-' := by
    rintro rfl
    exact h.not_mem (by decide) List.mem_cons_self
  unfold scriptDigits mantissaText
  split_ifs with hpadded hinside hbehind
  · simpa using hc
  · obtain ⟨k, hk⟩ := Nat.exists_eq_succ_of_ne_zero (show n.toNat ≠ 0 by omega)
    simpa [hk] using hc
  · simp
  · simpa using hc
  · simpa using hc

theorem unsigned?_scriptDigits (h : IsDigits ds) (n : ℤ) :
    unsigned? (scriptDigits ds n) = some (valueOf ds * 10 ^ (n - ds.length)) := by
  by_cases hnear : -6 < n ∧ n ≤ 21
  · rw [unsigned?_of_not_mem (mt (e_mem_scriptDigits_iff h).mp (not_not.mpr hnear)),
      scriptDigits_of_near hnear.1 hnear.2]
    split_ifs with hpadded hinside
    · obtain ⟨k, hk⟩ := Int.exists_add_of_le hpadded
      rw [plain?_of_isDigits (h.append (IsDigits.zeros _)), valueOf_append_zeros,
        show n.toNat - ds.length = k by omega, show n - ds.length = (k : ℤ) by omega, zpow_natCast]
    · rw [plain?_of_point (h.take (by omega)) (h.drop (by omega)), List.take_append_drop,
        List.length_drop]
      congr 3
      omega
    · have hzero : IsDigits ['0'] := by decide
      have hpoint := plain?_of_point hzero (h.zeros_append n.natAbs)
      rw [List.singleton_append] at hpoint
      rw [hpoint, List.singleton_append, ← List.cons_append, ← List.replicate_succ,
        valueOf_zeros_append, List.length_append, List.length_replicate]
      congr 3
      omega
  · rw [scriptDigits_of_far h hnear,
      unsigned?_of_exponent (e_not_mem_mantissaText h) (e_not_mem_exponentText _),
      plain?_mantissaText h, exponent?_exponentText, Option.bind_some, Option.map_some, mul_assoc,
      ← zpow_add₀ (by norm_num)]
    congr 3
    ring

theorem unsigned?_toDigits (k : ℕ) : unsigned? (Nat.toDigits 10 k) = some (k : ℚ) := by
  have hdigits := IsDigits.toDigits k
  rw [unsigned?_of_not_mem (hdigits.not_mem (by decide)), plain?_of_isDigits hdigits,
    valueOf_toDigits]

theorem head?_toDigits (k : ℕ) : (Nat.toDigits 10 k).head? ≠ some '-' :=
  fun hhead => (IsDigits.toDigits k).not_mem (by decide) (List.mem_of_head? hhead)

theorem read?_signText (negative : Bool) (h : unsigned? ds = some x) (hhead : ds.head? ≠ some '-') :
    read? (signText negative ++ ds) = some (if negative then -x else x) := by
  cases negative with
  | true =>
    rw [signText, if_pos rfl, List.singleton_append, read?, h]
    rfl
  | false =>
    rw [signText, if_neg Bool.false_ne_true, List.nil_append, read?]
    · exact h
    · rintro cs rfl
      exact hhead rfl

end Numeral
end ContentBinding.Number
