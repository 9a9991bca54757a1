import ContentBinding.Binding.ScalarText
import ContentBinding.Proofs.Binding.Addressing
import ContentBinding.Proofs.Number.Numeral
import ContentBinding.Proofs.Number.Whole

/-! The numerals on a page. A whole number below 10^21 is written with all its digits, and any other
number as scripts write it: its document form has no exponent, or one that is read, taken away when
the point stands near the digits, and written again otherwise. Every numeral is read back as the
number it was written for. -/

namespace ContentBinding.Binding

open Number Number.Numeral

variable {v : Finite} {ds : List Char} {n : ℕ} {k : ℤ}

theorem toList_toString_int (k : ℤ) :
    (toString k).toList = signText (k < 0) ++ Nat.toDigits 10 k.natAbs := by
  cases k with
  | ofNat m =>
    rw [signText, if_neg (by simp)]
    exact String.toList_ofList
  | negSucc m =>
    rw [signText, if_pos (by simp)]
    exact (String.toList_append ..).trans (congrArg _ String.toList_ofList)

/-! The document form -/

theorem withExponent_document (h : IsDigits ds) (k : ℤ) :
    Layout.document.withExponent ds k =
      mantissaText ds ++ 'e' :: (if k - 1 < 0 then '-' else '+') ::
        Layout.padLeft 2 (Nat.toDigits 10 (k - 1).natAbs) := by
  cases ds with
  | nil => exact absurd rfl h.1
  | cons c rest =>
    cases rest with
    | nil => rfl
    | cons c' rest => rfl

theorem signedOf_document (k : ℤ) :
    signedOf ((if k < 0 then '-' else '+') :: Layout.padLeft 2 (Nat.toDigits 10 k.natAbs)) = k := by
  unfold Layout.padLeft
  split_ifs with hneg
  · rw [signedOf, Text.natOf_replicate_append, Text.natOf_toDigits,
      Int.ofNat_natAbs_of_nonpos hneg.le, neg_neg]
  · rw [signedOf, Text.natOf_replicate_append, Text.natOf_toDigits,
      Int.natAbs_of_nonneg (not_lt.mp hneg)]

theorem e_not_mem_document (k : ℤ) :
    'e' ∉ (if k < 0 then '-' else '+') :: Layout.padLeft 2 (Nat.toDigits 10 k.natAbs) := by
  have hdigits := (IsDigits.toDigits k.natAbs).zeros_append (2 - (Nat.toDigits 10 k.natAbs).length)
  rw [List.mem_cons]
  rintro (hsign | hdigit)
  · split_ifs at hsign <;> exact absurd hsign (by decide)
  · exact hdigits.not_mem (by decide) hdigit

theorem e_not_mem_signText (negative : Bool) : 'e' ∉ signText negative := by
  cases negative <;> decide

/-! Respelling -/

theorem plain_eq_scriptDigits {l : Layout} (h : IsDigits ds)
    (hpoint : l.keepsPoint = false ∨ k < ds.length) (hlow : -6 < k) (hhigh : k ≤ 21) :
    l.plain ds k = scriptDigits ds k := by
  have hpos := h.length_pos
  rw [scriptDigits_of_near hlow hhigh, Layout.plain]
  rcases le_or_gt k 0 with hle | hlt
  · rw [if_pos hle, if_neg (by omega), if_neg (by omega)]
    rfl
  · rw [if_neg (by omega), if_pos hlt]
    rcases le_or_gt (ds.length : ℤ) k with hpadded | hinside
    · have hkeeps : l.keepsPoint = false := hpoint.resolve_right (by omega)
      rw [if_pos hpadded, if_pos (by omega), hkeeps, if_neg Bool.false_ne_true, List.append_nil,
        show k.natAbs = k.toNat by omega]
    · rw [if_neg (by omega), if_neg (by omega), show k.natAbs = k.toNat by omega]

theorem ofMantissa_mantissaText (h : IsDigits ds) (hds : Nat.toDigits 10 (Text.natOf ds) = ds)
    (negative : Bool) (k : ℤ) :
    Decimal.ofMantissa (signText negative ++ mantissaText ds) k =
      ⟨negative, ds, k + 1 - ds.length⟩ := by
  obtain ⟨c, rest, rfl⟩ := List.exists_cons_of_ne_nil h.1
  have hc : c.isDigit = true := h.2 c List.mem_cons_self
  have hminus : c ≠ '-' := by
    rintro rfl
    exact Bool.false_ne_true hc
  have hpoint : c ≠ '.' := by
    rintro rfl
    exact Bool.false_ne_true hc
  have hmantissa : mantissaText (c :: rest) = c :: if rest = [] then [] else '.' :: rest := by
    simp [mantissaText]
  have hunsigned : (if (signText negative ++ mantissaText (c :: rest)).head? = some '-' then
      (signText negative ++ mantissaText (c :: rest)).drop 1
      else signText negative ++ mantissaText (c :: rest)) = mantissaText (c :: rest) := by
    cases negative <;> simp [signText, hmantissa, hminus]
  have hnegative : decide ((signText negative ++ mantissaText (c :: rest)).head? = some '-') =
      negative := by
    cases negative <;> simp [signText, hmantissa, hminus]
  unfold Decimal.ofMantissa
  dsimp only
  rw [hunsigned, hnegative, hmantissa]
  by_cases hrest : rest = []
  · subst hrest
    simp [hpoint, hds]
  · simp [hpoint, hds, hrest]

theorem respell_writeDigits (negative : Bool) (d : Digits)
    (hpoint : ¬ (d.point ≤ 16 ∧ Double.digitCount d.value ≤ d.point)) :
    respell (signText negative ++ Layout.document.writeDigits d) =
      signText negative ++ scriptDigits (Nat.toDigits 10 d.value) d.point := by
  have hdigits := IsDigits.toDigits d.value
  have hlength : (Nat.toDigits 10 d.value).length = Double.digitCount d.value := rfl
  have hds : Nat.toDigits 10 (Text.natOf (Nat.toDigits 10 d.value)) = Nat.toDigits 10 d.value := by
    rw [Text.natOf_toDigits]
  have hform : Layout.document.writeDigits d =
      if -4 < d.point ∧ d.point ≤ 16 then Layout.document.plain (Nat.toDigits 10 d.value) d.point
      else Layout.document.withExponent (Nat.toDigits 10 d.value) d.point := rfl
  rw [hform]
  generalize Nat.toDigits 10 d.value = ds at *
  -- the document writes plainly in a range of its own, which is not that of the script
  by_cases hplain : -4 < d.point ∧ d.point ≤ 16
  · rw [if_pos hplain, plain_eq_scriptDigits hdigits (.inr (by omega)) (by omega) (by omega)]
    have he : 'e' ∉ signText negative ++ scriptDigits ds d.point := by
      rw [List.mem_append, e_mem_scriptDigits_iff hdigits]
      exact not_or.mpr ⟨e_not_mem_signText negative, by omega⟩
    rw [respell, Text.splitOn_of_not_mem he]
  · -- the exponent is read from the text, and the digits from both sides of the point
    have he : 'e' ∉ signText negative ++ mantissaText ds := by
      rw [List.mem_append]
      exact not_or.mpr ⟨e_not_mem_signText negative, e_not_mem_mantissaText hdigits⟩
    rw [if_neg hplain, withExponent_document hdigits, ← List.append_assoc, respell,
      splitOn_exponent he (e_not_mem_document _)]
    dsimp only
    rw [signedOf_document, ofMantissa_mantissaText hdigits hds]
    by_cases hnear : -6 < d.point ∧ d.point ≤ 21
    · rw [if_pos (by omega), Decimal.write]
      dsimp only
      rw [show (ds.length : ℤ) + (d.point - 1 + 1 - ds.length) = d.point by ring,
        plain_eq_scriptDigits hdigits (.inl rfl) hnear.1 hnear.2]
      cases negative <;> rfl
    · rw [if_neg (by omega), scriptDigits_of_far hdigits hnear, List.append_assoc]
      rfl

/-! The text of a number -/

def KeepsDigits (v : Finite) : Prop :=
  ∃ n : ℕ, v.magnitude = n ∧ n < 10 ^ 21

theorem keepsDigits_iff :
    (v.isInteger && decide (v.truncate.natAbs < pow10 21)) = true ↔ KeepsDigits v := by
  have habs : ∀ n : ℕ, v.magnitude = n → v.truncate.natAbs = n := fun n hn => by
    rw [Finite.truncate_eq hn]
    split_ifs <;> simp
  rw [Bool.and_eq_true, Finite.isInteger_iff, decide_eq_true_eq]
  constructor
  · rintro ⟨⟨n, hn⟩, hlt⟩
    exact ⟨n, hn, habs n hn ▸ hlt⟩
  · rintro ⟨n, hn, hlt⟩
    exact ⟨⟨n, hn⟩, (habs n hn).symm ▸ hlt⟩

theorem significand_ne_zero (h : ¬ KeepsDigits v) : v.significand ≠ 0 := by
  intro hzero
  refine h ⟨0, ?_, by decide⟩
  rw [Finite.magnitude, hzero, Nat.cast_zero, zero_mul]

theorem toList_numberText_of_whole (hn : v.magnitude = n) (hlt : n < 10 ^ 21) :
    (numberText (.finite v)).toList = signText (v.negative && n ≠ 0) ++ Nat.toDigits 10 n := by
  have htruncate := Finite.truncate_eq hn
  have habs : v.truncate.natAbs = n := by
    rw [htruncate]
    split_ifs <;> simp
  have hsign : decide (v.truncate < 0) = (v.negative && decide (n ≠ 0)) := by
    rw [htruncate]
    cases v.negative <;> simp [Nat.pos_iff_ne_zero]
  rw [numberText, if_pos (keepsDigits_iff.mpr ⟨n, hn, hlt⟩), toList_toString_int, habs, hsign]

theorem toList_write (v : Finite) :
    (Layout.document.write (.finite v)).toList =
      signText v.negative ++ Layout.document.writeDigits (Shortest.digits v) := by
  rw [Layout.write, signText]
  cases v.negative with
  | true => exact (String.toList_append ..).trans (congrArg _ String.toList_ofList)
  | false => exact String.toList_ofList

theorem toList_numberText_of_not_keepsDigits (hv : v.Normal) (h : ¬ KeepsDigits v) :
    (numberText (.finite v)).toList = signText v.negative ++
      scriptDigits (Nat.toDigits 10 (Shortest.digits v).value) (Shortest.digits v).point := by
  have hne := significand_ne_zero h
  have hshortest := Shortest.isShortest_digits hv hne
  rw [numberText, if_neg (mt keepsDigits_iff.mp h), String.toList_ofList, toList_write]
  refine respell_writeDigits _ _ fun hpoint => ?_
  -- digits that end before a near point are a whole number, and so is what attracts it
  have hlarge := (hshortest.point_le_iff_large hv hne).mp (by omega)
  have hfraction : ∀ n : ℕ, v.magnitude ≠ n := fun n hn => by
    rw [hn] at hlarge
    exact h ⟨n, hn, by exact_mod_cast hlarge⟩
  obtain ⟨k, hk⟩ := Int.exists_add_of_le hpoint.2
  have hattracts := hshortest.attracts hv hne
  rw [Digits.rational_of_count_le hk] at hattracts
  rcases Nat.le_total v.exponent 1074 with hle | hge
  · exact hfraction _ (Finite.eq_of_attracts_natCast hle hattracts)
  · obtain ⟨n, hn⟩ := Finite.exists_eq_natCast hge
    exact hfraction n hn

/-! Reading the text back -/

theorem read?_toString_int (k : ℤ) : read? (toString k).toList = some (k : ℚ) := by
  rw [toList_toString_int, read?_signText _ (unsigned?_toDigits _) (head?_toDigits _)]
  congr 1
  by_cases hneg : k < 0
  · rw [decide_eq_true hneg, if_pos rfl, ← Int.cast_natCast, Int.ofNat_natAbs_of_nonpos hneg.le,
      Int.cast_neg, neg_neg]
  · rw [decide_eq_false hneg, if_neg Bool.false_ne_true, ← Int.cast_natCast,
      Int.natAbs_of_nonneg (not_lt.mp hneg)]

theorem rational_eq_valueOf (d : Digits) :
    d.rational = valueOf (Nat.toDigits 10 d.value) *
      10 ^ (d.point - (Nat.toDigits 10 d.value).length) := by
  rw [valueOf_toDigits]
  rfl

theorem exists_read_numberText (hv : v.Normal) :
    ∃ x, read? (numberText (.finite v)).toList = some x ∧ IsNearest x v := by
  by_cases h : KeepsDigits v
  · obtain ⟨n, hn, hlt⟩ := h
    refine ⟨v.value, ?_, isNearest_self v⟩
    rw [toList_numberText_of_whole hn hlt,
      read?_signText _ (unsigned?_toDigits n) (head?_toDigits n), Finite.value, hn]
    rcases Nat.eq_zero_or_pos n with rfl | hpos
    · simp
    · simp [hpos.ne']
  · have hshortest := Shortest.isShortest_digits hv (significand_ne_zero h)
    have hdigits := IsDigits.toDigits (Shortest.digits v).value
    refine ⟨_, ?_, hshortest.isNearest⟩
    rw [toList_numberText_of_not_keepsDigits hv h, rational_eq_valueOf]
    exact read?_signText _ (unsigned?_scriptDigits hdigits _) (head?_scriptDigits hdigits _)

theorem e_mem_numberText_iff (hv : v.Normal) :
    'e' ∈ (numberText (.finite v)).toList ↔
      10 ^ 21 ≤ v.magnitude ∨ 0 < v.magnitude ∧ v.magnitude < leastPlain.value := by
  by_cases h : KeepsDigits v
  · obtain ⟨n, hn, hlt⟩ := h
    have hplain : 'e' ∉ signText (v.negative && n ≠ 0) ++ Nat.toDigits 10 n := by
      rw [List.mem_append]
      exact not_or.mpr ⟨e_not_mem_signText _, (IsDigits.toDigits n).not_mem (by decide)⟩
    rw [toList_numberText_of_whole hn hlt, hn, value_leastPlain]
    refine iff_of_false hplain (not_or.mpr ⟨not_le.mpr (by exact_mod_cast hlt), ?_⟩)
    rintro ⟨hpos, hsmall⟩
    have hone : (1 : ℚ) ≤ n := by exact_mod_cast hpos
    norm_num at hsmall
    linarith
  · have hne := significand_ne_zero h
    have hshortest := Shortest.isShortest_digits hv hne
    have hpos := Finite.magnitude_pos hne
    rw [toList_numberText_of_not_keepsDigits hv h, List.mem_append,
      or_iff_right (e_not_mem_signText _), e_mem_scriptDigits_iff (IsDigits.toDigits _),
      ← not_lt (a := v.magnitude), ← hshortest.point_le_iff_large hv hne, and_iff_right hpos,
      ← hshortest.point_le_iff_small hv hne]
    omega

/-- No number is distorted: integers are written exactly, and floating point numbers so that only
they are nearest to what is written. -/
theorem numerals_read_back :
    (∀ n : ℤ, ∃ text, scalarText? (.int n) = some text ∧ read? text.toList = some (n : ℚ)) ∧
      IsNearest (10 ^ (-6 : ℤ)) leastPlain ∧
      ∀ v : Finite, v.Normal → ∃ text x,
        scalarText? (.double (.finite v)) = some text ∧ read? text.toList = some x ∧
        (∀ w : Finite, w.Normal → (IsNearest x w ↔ w.value = v.value)) ∧
        ('e' ∈ text.toList ↔
          10 ^ 21 ≤ |v.value| ∨ 0 < |v.value| ∧ |v.value| < leastPlain.value) := by
  refine ⟨fun n => ⟨_, rfl, read?_toString_int n⟩, isNearest_leastPlain, fun v hv => ?_⟩
  obtain ⟨x, hread, hnearest⟩ := exists_read_numberText hv
  refine ⟨_, x, rfl, hread, fun w hw => hnearest.iff_value_eq hv.canonical hw.canonical, ?_⟩
  rw [v.abs_value]
  exact e_mem_numberText_iff hv

theorem numerals_read_back_least :
    (⟨false, 1, 0⟩ : Finite).Normal ∧ ∃ text x,
      scalarText? (.double (.finite ⟨false, 1, 0⟩)) = some text ∧ read? text.toList = some x ∧
      (∀ w : Finite, w.Normal → (IsNearest x w ↔ w.value = (⟨false, 1, 0⟩ : Finite).value)) ∧
      ('e' ∈ text.toList ↔ 10 ^ 21 ≤ |(⟨false, 1, 0⟩ : Finite).value| ∨
        0 < |(⟨false, 1, 0⟩ : Finite).value| ∧
          |(⟨false, 1, 0⟩ : Finite).value| < leastPlain.value) :=
  ⟨by decide, numerals_read_back.2.2 ⟨false, 1, 0⟩ (by decide)⟩

/-- The number nearest to 10^-6 is below it and has no exponent. -/
theorem plain_below_millionth :
    leastPlain.Normal ∧ ∃ text, scalarText? (.double (.finite leastPlain)) = some text ∧
      0 < |leastPlain.value| ∧ |leastPlain.value| < 10 ^ (-6 : ℤ) ∧ 'e' ∉ text.toList := by
  have hnormal : leastPlain.Normal := by decide
  have hmagnitude : leastPlain.magnitude = 4722366482869645 / 2 ^ 72 := value_leastPlain
  refine ⟨hnormal, _, rfl, ?_, ?_, ?_⟩
  · rw [Finite.abs_value, hmagnitude]
    norm_num
  · rw [Finite.abs_value, hmagnitude]
    norm_num
  · rw [e_mem_numberText_iff hnormal, hmagnitude, value_leastPlain]
    norm_num

/-! The text of scripts -/

/-- The text that scripts write for a number. -/
def IsScriptText (v : Finite) (text : String) : Prop :=
  if v.significand = 0 then text = "0"
  else ∃ d, IsShortest v d ∧
    text.toList = signText v.negative ++ scriptDigits (Nat.toDigits 10 d.value) d.point

theorem scriptDigits_of_whole (hv : v.Normal) (hne : v.significand ≠ 0) {d : Digits}
    (h : IsShortest v d) (hn : v.magnitude = n) (hlt : n < 10 ^ 21) (hexact : d.rational = n) :
    scriptDigits (Nat.toDigits 10 d.value) d.point = Nat.toDigits 10 n := by
  obtain ⟨k, hpoint, hvalue⟩ := Digits.exists_of_rational_eq (h.last_ne_zero hv hne) hexact
  have hlarge := (h.point_le_iff_large hv hne).mpr (by rw [hn]; exact_mod_cast hlt)
  have hlength : (Nat.toDigits 10 d.value).length = Double.digitCount d.value := rfl
  rw [scriptDigits, if_pos (by omega), hvalue, toDigits_mul_ten_pow (h.value_ne_zero hv hne),
    show d.point.toNat - (Nat.toDigits 10 d.value).length = k by omega]

/-- A whole number below 10^21 has the text of scripts when its shortest digits stand for it. -/
theorem isScriptText_of_whole_iff (hv : v.Normal) (hne : v.significand ≠ 0)
    (hn : v.magnitude = n) (hlt : n < 10 ^ 21) :
    IsScriptText v (numberText (.finite v)) ↔ ∃ d, IsShortest v d ∧ d.rational = n := by
  have hpos : n ≠ 0 := by
    rintro rfl
    exact (Finite.magnitude_pos hne).ne' hn
  rw [IsScriptText, if_neg hne]
  refine exists_congr fun d => and_congr_right fun h => ?_
  rw [toList_numberText_of_whole hn hlt, decide_eq_true hpos, Bool.and_true,
    List.append_cancel_left_eq]
  constructor
  · intro htext
    have hread := unsigned?_scriptDigits (IsDigits.toDigits d.value) d.point
    rw [← htext, unsigned?_toDigits, ← rational_eq_valueOf] at hread
    exact (Option.some.inj hread).symm
  · exact fun hexact => (scriptDigits_of_whole hv hne h hn hlt hexact).symm

theorem isScriptText_of_not_keepsDigits (hv : v.Normal) (h : ¬ KeepsDigits v) :
    IsScriptText v (numberText (.finite v)) := by
  have hne := significand_ne_zero h
  rw [IsScriptText, if_neg hne]
  exact ⟨_, Shortest.isShortest_digits hv hne, toList_numberText_of_not_keepsDigits hv h⟩

theorem numberText_of_zero (hzero : v.significand = 0) : numberText (.finite v) = "0" := by
  have hmagnitude : v.magnitude = (0 : ℕ) := by
    rw [Finite.magnitude, hzero, Nat.cast_zero, zero_mul]
  rw [← String.toList_inj, toList_numberText_of_whole hmagnitude (by decide)]
  cases v.negative <;> rfl

/-- The text is that of scripts, but for whole numbers from 2^53 to 10^21 whose shortest digits
stand for another number: of these all digits are kept. -/
theorem isScriptText_iff_exact (hv : v.Normal) :
    ∃ text, scalarText? (.double (.finite v)) = some text ∧
      (IsScriptText v text ↔ ∀ n : ℤ, v.value = n → 2 ^ 53 ≤ |n| → |n| < 10 ^ 21 →
        ∃ d, IsShortest v d ∧ d.rational = |v.value|) := by
  refine ⟨_, rfl, ?_⟩
  rw [v.abs_value]
  by_cases hzero : v.significand = 0
  · have hvalue : v.value = 0 := by
      rw [← abs_eq_zero, v.abs_value, Finite.magnitude, hzero, Nat.cast_zero, zero_mul]
    refine iff_of_true ?_ fun n hn hlarge => ?_
    · rw [IsScriptText, if_pos hzero]
      exact numberText_of_zero hzero
    · rw [hvalue] at hn
      rw [Int.cast_eq_zero.mp hn.symm] at hlarge
      norm_num at hlarge
  by_cases h : KeepsDigits v
  · obtain ⟨n, hn, hlt⟩ := h
    rw [isScriptText_of_whole_iff hv hzero hn hlt, hn]
    refine ⟨fun h _ _ _ _ => h, fun h => ?_⟩
    rcases Nat.lt_or_ge n (2 ^ 53) with hsmall | hlarge
    · have hshortest := Shortest.isShortest_digits hv hzero
      exact ⟨_, hshortest, hshortest.rational_eq hv hzero hn hsmall⟩
    · -- only here may the shortest digits stand for another number
      have habs : |if v.negative then -(n : ℤ) else n| = n := by
        split_ifs <;> simp
      refine h (if v.negative then -(n : ℤ) else n) ?_ ?_ ?_
      · rw [Finite.value, hn]
        split_ifs <;> push_cast <;> rfl
      · rw [habs]
        exact_mod_cast hlarge
      · rw [habs]
        exact_mod_cast hlt
  · refine iff_of_true (isScriptText_of_not_keepsDigits hv h) fun n hn _ hlt => ?_
    rw [Int.abs_eq_natAbs] at hlt
    exact absurd ⟨_, Finite.magnitude_eq_natAbs hn, by exact_mod_cast hlt⟩ h

theorem isScriptText_iff_exact_seven :
    (⟨false, 7 * pow2 50, 1024⟩ : Finite).Normal ∧
      ∃ text, scalarText? (.double (.finite ⟨false, 7 * pow2 50, 1024⟩)) = some text ∧
        (IsScriptText ⟨false, 7 * pow2 50, 1024⟩ text ↔
          ∀ n : ℤ, (⟨false, 7 * pow2 50, 1024⟩ : Finite).value = n → 2 ^ 53 ≤ |n| → |n| < 10 ^ 21 →
            ∃ d, IsShortest ⟨false, 7 * pow2 50, 1024⟩ d ∧
              d.rational = |(⟨false, 7 * pow2 50, 1024⟩ : Finite).value|) :=
  ⟨by decide, isScriptText_iff_exact (by decide)⟩

/-- All digits of 2^55 are kept, where scripts write a zero for the last one. -/
theorem two_pow_55_keeps_digits :
    (⟨false, leadingBit, 1077⟩ : Finite).Normal ∧
      scalarText? (.double (.finite ⟨false, leadingBit, 1077⟩)) = some "36028797018963968" ∧
      ¬ IsScriptText ⟨false, leadingBit, 1077⟩ "36028797018963968" ∧
      IsScriptText ⟨false, leadingBit, 1077⟩ "36028797018963970" := by
  have hnormal : (⟨false, leadingBit, 1077⟩ : Finite).Normal := by decide
  have hne : (⟨false, leadingBit, 1077⟩ : Finite).significand ≠ 0 := by decide
  have hdigits : Shortest.digits ⟨false, leadingBit, 1077⟩ = ⟨3602879701896397, 17⟩ := by
    decide +kernel
  have hshortest := Shortest.isShortest_digits hnormal hne
  rw [hdigits] at hshortest
  have hmagnitude : (⟨false, leadingBit, 1077⟩ : Finite).magnitude = (2 ^ 55 : ℕ) :=
    Finite.magnitude_eq_natCast_iff.mpr (by decide +kernel)
  have htext : numberText (.finite ⟨false, leadingBit, 1077⟩) = "36028797018963968" := by
    rw [← String.toList_inj, toList_numberText_of_whole hmagnitude (by decide)]
    decide +kernel
  refine ⟨hnormal, congrArg some htext, ?_, ?_⟩
  · rw [← htext, isScriptText_of_whole_iff hnormal hne hmagnitude (by decide)]
    rintro ⟨d, h, hexact⟩
    obtain ⟨k, -, hvalue⟩ := Digits.exists_of_rational_eq (h.last_ne_zero hnormal hne) hexact
    -- no power of two ends in a zero, so that all its digits are needed
    have hk : k = 0 := by
      by_contra hk
      have hfive : 5 ∣ 2 ^ 55 := hvalue ▸ Dvd.dvd.mul_left (dvd_pow (by decide : 5 ∣ 10) hk) _
      exact absurd hfive (by decide)
    rw [hk, pow_zero, mul_one] at hvalue
    have hfewest := h.fewest _ hshortest.rounds
    rw [← hvalue] at hfewest
    exact absurd hfewest (by decide +kernel)
  · rw [IsScriptText, if_neg hne]
    exact ⟨_, hshortest, by decide +kernel⟩

end ContentBinding.Binding
