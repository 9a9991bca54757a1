import Mathlib.Logic.Basic
import ContentBinding.Text.Bytes

/-! UTF-8 read after it was written. The bytes of a text decode to that text, and no byte of a
character outside of ASCII is an ASCII one. -/

namespace ContentBinding.Text

variable {a b c d : UInt8} {n : Nat} {ch : Char}

theorem toNat_byte (h : n < 256) : (byte n).toNat = n :=
  UInt8.toNat_ofNat_of_lt' h

theorem isContinuation_iff : isContinuation b = true ↔ 0x80 ≤ b.toNat ∧ b.toNat < 0xC0 := by
  simp [isContinuation, UInt8.le_iff_toNat_le, UInt8.lt_iff_toNat_lt]

theorem isSecondOfThree_iff : isSecondOfThree a b = true ↔ isContinuation b = true ∧
    (a.toNat = 0xE0 → 0xA0 ≤ b.toNat) ∧ (a.toNat = 0xED → b.toNat < 0xA0) := by
  simp only [isSecondOfThree, Bool.and_eq_true, Bool.or_eq_true, bne_iff_ne, decide_eq_true_eq,
    ne_eq, ← UInt8.toNat_inj, UInt8.le_iff_toNat_le, UInt8.lt_iff_toNat_lt, ← imp_iff_not_or,
    and_assoc]
  exact Iff.rfl

theorem isSecondOfFour_iff : isSecondOfFour a b = true ↔ isContinuation b = true ∧
    (a.toNat = 0xF0 → 0x90 ≤ b.toNat) ∧ (a.toNat = 0xF4 → b.toNat < 0x90) := by
  simp only [isSecondOfFour, Bool.and_eq_true, Bool.or_eq_true, bne_iff_ne, decide_eq_true_eq,
    ne_eq, ← UInt8.toNat_inj, UInt8.le_iff_toNat_le, UInt8.lt_iff_toNat_lt, ← imp_iff_not_or,
    and_assoc]
  exact Iff.rfl

/-! Sequences of one to four bytes -/

theorem decodeUtf8_one (ha : a.toNat < 0x80) (pos : Nat) (rest : Bytes) :
    decodeUtf8 false pos (a :: rest) =
      cons (Char.ofNat a.toNat) (decodeUtf8 false (pos + 1) rest) := by
  have hlead : a < 0x80 := UInt8.lt_iff_toNat_lt.mpr ha
  rw [decodeUtf8.eq_def]
  simp only [if_pos hlead]

theorem not_lt_of_le (h : c.toNat ≤ a.toNat) : ¬a < c :=
  fun hlt => absurd (UInt8.lt_iff_toNat_lt.mp hlt) (Nat.not_lt.mpr h)

theorem decodeUtf8_two (ha : 0xC2 ≤ a.toNat) (ha' : a.toNat < 0xE0)
    (hb : isContinuation b = true) (pos : Nat) (rest : Bytes) :
    decodeUtf8 false pos (a :: b :: rest) =
      cons (join2 a b) (decodeUtf8 false (pos + 2) rest) := by
  have hone : ¬a < 0x80 := not_lt_of_le (Nat.le_trans (by decide) ha)
  have hlow : ¬a < 0xC2 := not_lt_of_le ha
  have hlead : a < 0xE0 := UInt8.lt_iff_toNat_lt.mpr ha'
  rw [decodeUtf8.eq_def]
  simp only [if_neg hone, if_neg hlow, if_pos hlead, if_pos hb]

theorem decodeUtf8_three (ha : 0xE0 ≤ a.toNat) (ha' : a.toNat < 0xF0)
    (hb : isSecondOfThree a b = true) (hc : isContinuation c = true) (pos : Nat) (rest : Bytes) :
    decodeUtf8 false pos (a :: b :: c :: rest) =
      cons (join3 a b c) (decodeUtf8 false (pos + 3) rest) := by
  have hone : ¬a < 0x80 := not_lt_of_le (Nat.le_trans (by decide) ha)
  have hlow : ¬a < 0xC2 := not_lt_of_le (Nat.le_trans (by decide) ha)
  have htwo : ¬a < 0xE0 := not_lt_of_le ha
  have hlead : a < 0xF0 := UInt8.lt_iff_toNat_lt.mpr ha'
  rw [decodeUtf8.eq_def]
  simp only [if_neg hone, if_neg hlow, if_neg htwo, if_pos hlead, if_pos hb, if_pos hc]

theorem decodeUtf8_four (ha : 0xF0 ≤ a.toNat) (ha' : a.toNat < 0xF5)
    (hb : isSecondOfFour a b = true) (hc : isContinuation c = true) (hd : isContinuation d = true)
    (pos : Nat) (rest : Bytes) :
    decodeUtf8 false pos (a :: b :: c :: d :: rest) =
      cons (join4 a b c d) (decodeUtf8 false (pos + 4) rest) := by
  have hone : ¬a < 0x80 := not_lt_of_le (Nat.le_trans (by decide) ha)
  have hlow : ¬a < 0xC2 := not_lt_of_le (Nat.le_trans (by decide) ha)
  have htwo : ¬a < 0xE0 := not_lt_of_le (Nat.le_trans (by decide) ha)
  have hthree : ¬a < 0xF0 := not_lt_of_le ha
  have hlead : a < 0xF5 := UInt8.lt_iff_toNat_lt.mpr ha'
  rw [decodeUtf8.eq_def]
  simp only [if_neg hone, if_neg hlow, if_neg htwo, if_neg hthree, if_pos hlead, if_pos hb,
    if_pos hc, if_pos hd]

/-! Characters -/

theorem toNat_bounds (c : Char) : c.toNat < 0xD800 ∨ 0xDFFF < c.toNat ∧ c.toNat < 0x110000 :=
  c.valid

theorem toNat_continuation (n : Nat) : (byte (0x80 + n % 64)).toNat = 0x80 + n % 64 :=
  toNat_byte (by omega)

theorem isContinuation_byte (n : Nat) : isContinuation (byte (0x80 + n % 64)) = true := by
  rw [isContinuation_iff, toNat_continuation]
  omega

theorem ofNat_eq (ch : Char) (h : n = ch.toNat) : Char.ofNat n = ch := by
  rw [h, Char.ofNat_toNat]

theorem decodeUtf8_encodeChar_two (hge : 0x80 ≤ ch.toNat) (hlt : ch.toNat < 0x800) (pos : Nat)
    (rest : Bytes) :
    decodeUtf8 false pos (encodeChar ch ++ rest) = cons ch (decodeUtf8 false (pos + 2) rest) := by
  have hlead : (byte (0xC0 + ch.toNat / 64)).toNat = 0xC0 + ch.toNat / 64 := toNat_byte (by omega)
  simp only [encodeChar, if_neg (Nat.not_lt.mpr hge), if_pos hlt, List.cons_append,
    List.nil_append]
  rw [decodeUtf8_two (by omega) (by omega) (isContinuation_byte _), join2, hlead,
    toNat_continuation, ofNat_eq ch (by omega)]

theorem decodeUtf8_encodeChar_three (hge : 0x800 ≤ ch.toNat) (hlt : ch.toNat < 0x10000) (pos : Nat)
    (rest : Bytes) :
    decodeUtf8 false pos (encodeChar ch ++ rest) = cons ch (decodeUtf8 false (pos + 3) rest) := by
  have hvalid := toNat_bounds ch
  have hone : ¬ch.toNat < 0x80 := by omega
  have hlead : (byte (0xE0 + ch.toNat / 4096)).toNat = 0xE0 + ch.toNat / 4096 :=
    toNat_byte (by omega)
  have hsecond : isSecondOfThree (byte (0xE0 + ch.toNat / 4096))
      (byte (0x80 + ch.toNat / 64 % 64)) = true := by
    rw [isSecondOfThree_iff, hlead, toNat_continuation]
    exact ⟨isContinuation_byte _, by omega, by omega⟩
  simp only [encodeChar, if_neg hone, if_neg (Nat.not_lt.mpr hge), if_pos hlt, List.cons_append,
    List.nil_append]
  rw [decodeUtf8_three (by omega) (by omega) hsecond (isContinuation_byte _), join3, hlead,
    toNat_continuation, toNat_continuation, ofNat_eq ch (by omega)]

theorem decodeUtf8_encodeChar_four (hge : 0x10000 ≤ ch.toNat) (pos : Nat) (rest : Bytes) :
    decodeUtf8 false pos (encodeChar ch ++ rest) = cons ch (decodeUtf8 false (pos + 4) rest) := by
  have hvalid := toNat_bounds ch
  have hone : ¬ch.toNat < 0x80 := by omega
  have htwo : ¬ch.toNat < 0x800 := by omega
  have hlead : (byte (0xF0 + ch.toNat / 262144)).toNat = 0xF0 + ch.toNat / 262144 :=
    toNat_byte (by omega)
  have hsecond : isSecondOfFour (byte (0xF0 + ch.toNat / 262144))
      (byte (0x80 + ch.toNat / 4096 % 64)) = true := by
    rw [isSecondOfFour_iff, hlead, toNat_continuation]
    exact ⟨isContinuation_byte _, by omega, by omega⟩
  simp only [encodeChar, if_neg hone, if_neg htwo, if_neg (Nat.not_lt.mpr hge), List.cons_append,
    List.nil_append]
  rw [decodeUtf8_four (by omega) (by omega) hsecond (isContinuation_byte _)
    (isContinuation_byte _), join4, hlead, toNat_continuation, toNat_continuation,
    toNat_continuation, ofNat_eq ch (by omega)]

theorem decodeUtf8_encodeChar (ch : Char) (pos : Nat) (rest : Bytes) :
    ∃ next, decodeUtf8 false pos (encodeChar ch ++ rest) = cons ch (decodeUtf8 false next rest) := by
  by_cases hone : ch.toNat < 0x80
  · have hlead : (byte ch.toNat).toNat = ch.toNat := toNat_byte (by omega)
    refine ⟨pos + 1, ?_⟩
    simp only [encodeChar, if_pos hone, List.singleton_append]
    rw [decodeUtf8_one (by omega), hlead, Char.ofNat_toNat]
  by_cases htwo : ch.toNat < 0x800
  · exact ⟨pos + 2, decodeUtf8_encodeChar_two (Nat.not_lt.mp hone) htwo pos rest⟩
  by_cases hthree : ch.toNat < 0x10000
  · exact ⟨pos + 3, decodeUtf8_encodeChar_three (Nat.not_lt.mp htwo) hthree pos rest⟩
  · exact ⟨pos + 4, decodeUtf8_encodeChar_four (Nat.not_lt.mp hthree) pos rest⟩

theorem decodeUtf8_flatMap (cs : List Char) (pos : Nat) :
    decodeUtf8 false pos (cs.flatMap encodeChar) = .ok cs := by
  induction cs generalizing pos with
  | nil => rfl
  | cons c cs ih =>
    obtain ⟨next, hread⟩ := decodeUtf8_encodeChar c pos (cs.flatMap encodeChar)
    rw [List.flatMap_cons, hread, ih]
    rfl

theorem decodeUtf8_encodeUtf8 (s : String) (pos : Nat) :
    decodeUtf8 false pos (encodeUtf8 s) = .ok s.toList :=
  decodeUtf8_flatMap s.toList pos

theorem encodeUtf8_append (a b : String) : encodeUtf8 (a ++ b) = encodeUtf8 a ++ encodeUtf8 b := by
  rw [encodeUtf8, String.toList_append, List.flatMap_append, encodeUtf8, encodeUtf8]

/-! ASCII -/

theorem encodeChar_ascii {c : Char} (h : c.toNat < 0x80) : encodeChar c = [byte c.toNat] :=
  if_pos h

theorem le_of_mem_encodeChar {c : Char} (h : 0x80 ≤ c.toNat) (hb : b ∈ encodeChar c) :
    0x80 ≤ b.toNat := by
  have hvalid := toNat_bounds c
  have hhigh {n : Nat} (hle : 0x80 ≤ n) (hlt : n < 256) : 0x80 ≤ (byte n).toNat := by
    rwa [toNat_byte hlt]
  unfold encodeChar at hb
  dsimp only at hb
  rw [if_neg (Nat.not_lt.mpr h)] at hb
  split at hb
  · simp only [List.mem_cons, List.not_mem_nil, or_false] at hb
    rcases hb with rfl | rfl <;> exact hhigh (by omega) (by omega)
  split at hb
  · simp only [List.mem_cons, List.not_mem_nil, or_false] at hb
    rcases hb with rfl | rfl | rfl <;> exact hhigh (by omega) (by omega)
  · simp only [List.mem_cons, List.not_mem_nil, or_false] at hb
    rcases hb with rfl | rfl | rfl | rfl <;> exact hhigh (by omega) (by omega)

end ContentBinding.Text
