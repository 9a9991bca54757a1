import Mathlib
import ContentBinding.Proofs.Text.Splitting
import ContentBinding.Url.Basic

/-! The characters that parts of an address are written in. Escapes bring percent signs and digits
in, names beyond ASCII letters and digits; neither brings in a control, nor a mark that would end
the authority. -/

namespace ContentBinding.Url

variable {isSafe : Char → Bool} {cs h : List Char} {c : Char} {host : String}

def IsInner (c : Char) : Prop :=
  isControl c = false ∧ c ≠ '/' ∧ c ≠ '?' ∧ c ≠ '#'

instance (c : Char) : Decidable (IsInner c) :=
  inferInstanceAs (Decidable (_ ∧ _ ∧ _ ∧ _))

theorem isInner_of_toNat (hbelow : 0x20 ≤ c.toNat) (hdelete : c.toNat ≠ 0x7F)
    (hslash : c.toNat ≠ 47) (hquestion : c.toNat ≠ 63) (hhash : c.toNat ≠ 35) : IsInner c := by
  refine ⟨?_, ?_, ?_, ?_⟩
  · unfold isControl
    simp only [Bool.or_eq_false_iff, decide_eq_false_iff_not]
    omega
  · rintro rfl
    exact hslash rfl
  · rintro rfl
    exact hquestion rfl
  · rintro rfl
    exact hhash rfl

/-! Escapes -/

theorem mem_percent {b : UInt8} (hc : c ∈ percent b) :
    c = '%' ∨ ∃ d < 16, c = (Nat.digitChar d).toUpper := by
  have hlt : b.toNat < 256 := b.toNat_lt
  unfold percent Text.hexByte at hc
  rw [String.toList_ofList] at hc
  rcases List.mem_cons.mp hc with rfl | hc
  · exact .inl rfl
  · obtain ⟨digit, hdigit, rfl⟩ := List.mem_map.mp hc
    rcases List.mem_pair.mp hdigit with rfl | rfl
    · exact .inr ⟨b.toNat / 16, by omega, rfl⟩
    · exact .inr ⟨b.toNat % 16, by omega, rfl⟩

theorem forall_mem_escape {P : Char → Prop} (hsafe : ∀ c ∈ cs, isSafe c = true → P c)
    (hpercent : P '%') (hdigit : ∀ d < 16, P (Nat.digitChar d).toUpper) :
    ∀ c ∈ cs.flatMap (escapeChar isSafe), P c := by
  intro c hc
  obtain ⟨a, ha, hc⟩ := List.mem_flatMap.mp hc
  unfold escapeChar at hc
  split at hc
  · next hsafe' =>
    rw [List.mem_singleton] at hc
    exact hc ▸ hsafe a ha hsafe'
  · obtain ⟨b, -, hc⟩ := List.mem_flatMap.mp hc
    rcases mem_percent hc with rfl | ⟨d, hd, rfl⟩
    · exact hpercent
    · exact hdigit d hd

theorem escapeChar_of_safe (hsafe : isSafe c = true) : escapeChar isSafe c = [c] :=
  if_pos hsafe

theorem flatMap_escapeChar_of_safe (hsafe : ∀ c ∈ cs, isSafe c = true) :
    cs.flatMap (escapeChar isSafe) = cs := by
  induction cs with
  | nil => rfl
  | cons c cs ih =>
    obtain ⟨hc, hcs⟩ := List.forall_mem_cons.mp hsafe
    rw [List.flatMap_cons, escapeChar_of_safe hc, ih hcs]
    rfl

theorem escape_of_safe (hsafe : ∀ c ∈ cs, isSafe c = true) :
    escape isSafe cs = String.ofList cs := by
  rw [escape, flatMap_escapeChar_of_safe hsafe]

theorem isInner_of_userinfoSafe (hc : userinfoSafe c = true) : IsInner c := by
  unfold userinfoSafe pathSafe querySafe isGraphic at hc
  simp only [Bool.and_eq_true, decide_eq_true_eq, Bool.not_eq_true', List.contains_eq_mem,
    decide_eq_false_iff_not, List.mem_cons, not_or] at hc
  obtain ⟨⟨⟨⟨hlow, hhigh⟩, -, hhash, -⟩, hquestion, -⟩, hslash, -⟩ := hc
  refine ⟨?_, hslash, hquestion, hhash⟩
  unfold isControl
  simp only [Bool.or_eq_false_iff, decide_eq_false_iff_not]
  omega

theorem forall_ascii {P : Char → Prop} (h : ∀ n < 128, P (Char.ofNat n)) (hc : c.toNat < 128) :
    P c := by
  rw [← Char.ofNat_toNat c]
  exact h c.toNat hc

theorem toNat_of_isAlphanum (hc : c.isAlphanum = true) : 48 ≤ c.toNat ∧ c.toNat ≤ 57 ∨
    65 ≤ c.toNat ∧ c.toNat ≤ 90 ∨ 97 ≤ c.toNat ∧ c.toNat ≤ 122 := by
  simp only [Char.isAlphanum, Char.isAlpha, Char.isUpper, Char.isLower, Char.isDigit,
    Bool.or_eq_true, Bool.and_eq_true, decide_eq_true_eq, ge_iff_le, UInt32.le_iff_toNat_le] at hc
  change (65 ≤ c.toNat ∧ c.toNat ≤ 90 ∨ 97 ≤ c.toNat ∧ c.toNat ≤ 122) ∨
    48 ≤ c.toNat ∧ c.toNat ≤ 57 at hc
  omega

theorem isInner_of_isAlphanum (hc : c.isAlphanum = true) : IsInner c := by
  have hranges := toNat_of_isAlphanum hc
  exact isInner_of_toNat (by omega) (by omega) (by omega) (by omega) (by omega)

theorem isInner_of_hostSafe (hc : hostSafe c = true) : IsInner c := by
  have hmarks : ∀ d ∈ "-._~!$&'()*+,;=\"\x60\x7b\x7d%|\\".toList, IsInner d := by
    simp [IsInner, isControl]
  rcases Bool.or_eq_true_iff.mp hc with halnum | hmark
  · exact isInner_of_isAlphanum halnum
  · exact hmarks c (List.contains_iff_mem.mp hmark)

theorem isInner_of_mem_escape (hsafe : ∀ c, isSafe c = true → IsInner c)
    (hc : c ∈ (escape isSafe cs).toList) : IsInner c := by
  rw [escape, String.toList_ofList] at hc
  exact forall_mem_escape (fun a _ => hsafe a) (by decide) (by decide) c hc

/-! Names of hosts -/

theorem toNat_ofNat_of_lt {n : Nat} (hn : n < 0xD800) : (Char.ofNat n).toNat = n := by
  have hvalid : n.isValidChar := Or.inl hn
  unfold Char.ofNat
  rw [dif_pos hvalid]
  show (UInt32.ofNatLT n _).toNat = n
  simp

theorem isInner_toLower (hc : IsInner c) : IsInner c.toLower := by
  cases halpha : c.isAlpha with
  | true =>
    rw [← Char.isAlpha_toLower_eq_isAlpha] at halpha
    exact isInner_of_isAlphanum (Bool.or_eq_true_iff.mpr (.inl halpha))
  | false =>
    have hupper : ¬ c.isUpper := by
      intro hupper
      simp [Char.isAlpha, hupper] at halpha
    rwa [Char.toLower_eq_of_not_isUpper hupper]

theorem isInner_lowerChar (hc : IsInner c) : IsInner (lowerChar c) := by
  have hbeyond : ∀ n, 128 ≤ n → n < 0xD800 → IsInner (Char.ofNat n) := by
    intro n hlow hhigh
    have hn := toNat_ofNat_of_lt hhigh
    exact isInner_of_toNat (by omega) (by omega) (by omega) (by omega) (by omega)
  unfold lowerChar
  dsimp only
  split
  · exact isInner_toLower hc
  split
  · next hrange =>
    simp only [Bool.or_eq_true, Bool.and_eq_true, decide_eq_true_eq] at hrange
    exact hbeyond _ (by omega) (by omega)
  split
  · next hrange =>
    simp only [Bool.and_eq_true, decide_eq_true_eq] at hrange
    exact hbeyond _ (by omega) (by omega)
  · exact hc

namespace Punycode

theorem isInner_digit {n : Nat} (hn : n < 36) : IsInner (digit n) := by
  have hall : ∀ n < 36, IsInner (digit n) := by decide
  exact hall n hn

theorem threshold_le (bias k : Nat) : threshold bias k ≤ 26 := by
  unfold threshold
  split
  · omega
  split <;> omega

theorem isInner_of_mem_digits {bias fuel k q : Nat} (hc : c ∈ digits bias fuel k q) :
    IsInner c := by
  induction fuel generalizing k q with
  | zero => exact absurd hc List.not_mem_nil
  | succ fuel ih =>
    have hle := threshold_le bias k
    rw [digits] at hc
    split at hc
    · rw [List.mem_singleton.mp hc]
      exact isInner_digit (by omega)
    · rcases List.mem_cons.mp hc with rfl | hc
      · have hmod := Nat.mod_lt (q - threshold bias k) (show 0 < 36 - threshold bias k by omega)
        exact isInner_digit (by omega)
      · exact ih hc

theorem visit_inner {n : Nat} {s : State} {a : Char} (hs : ∀ c ∈ s.out, IsInner c) :
    ∀ c ∈ (visit n s a).out, IsInner c := by
  unfold visit
  split
  · exact hs
  split
  · intro c hc
    rcases List.mem_append.mp hc with hc | hc
    · exact hs c hc
    · exact isInner_of_mem_digits hc
  · exact hs

theorem visits_inner {label : List Char} {n : Nat} {s : State} (hs : ∀ c ∈ s.out, IsInner c) :
    ∀ c ∈ (label.foldl (visit n) s).out, IsInner c := by
  induction label generalizing s with
  | nil => exact hs
  | cons a label ih => exact ih (visit_inner hs)

theorem insertAll_inner {label : List Char} {n : Nat} {s : State} {ms : List Nat}
    (hs : ∀ c ∈ s.out, IsInner c) : ∀ c ∈ (insertAll label n s ms).out, IsInner c := by
  induction ms generalizing n s with
  | nil => exact hs
  | cons m ms ih =>
    exact ih (visits_inner hs)

theorem encode_inner {label : List Char} (hlabel : ∀ c ∈ label, IsInner c) :
    ∀ c ∈ encode label, IsInner c := by
  intro c hc
  unfold encode at hc
  rcases List.mem_append.mp hc with hc | hc
  · split at hc
    · exact absurd hc List.not_mem_nil
    · rcases List.mem_append.mp hc with hc | hc
      · exact hlabel c (List.mem_of_mem_filter hc)
      · rw [List.mem_singleton.mp hc]
        decide
  · exact insertAll_inner (fun _ h => absurd h List.not_mem_nil) c hc

end Punycode

theorem encodeLabel_inner (hcs : ∀ c ∈ cs, IsInner c) : ∀ c ∈ encodeLabel cs, IsInner c := by
  have hmark : ∀ c ∈ "xn--".toList, IsInner c := by simp [IsInner, isControl]
  unfold encodeLabel
  split
  · exact hcs
  · intro c hc
    rcases List.mem_append.mp hc with hc | hc
    · exact hmark c hc
    · exact Punycode.encode_inner hcs c hc

theorem isInner_of_encodeHost (hcs : ∀ c ∈ cs, IsInner c) (henc : encodeHost cs = .ok host) :
    ∀ c ∈ host.toList, IsInner c := by
  unfold encodeHost at henc
  dsimp only at henc
  split at henc
  · obtain rfl := Except.ok.inj henc
    exact nofun
  split at henc
  · split at henc
    · obtain rfl := Except.ok.inj henc
      rwa [String.toList_ofList]
    · exact absurd henc nofun
  split at henc
  · split at henc
    · obtain rfl := Except.ok.inj henc
      rw [String.toList_ofList]
      exact fun c hc => hcs c (List.mem_of_mem_drop (List.mem_of_mem_dropLast hc))
    · exact absurd henc nofun
  split at henc
  · obtain rfl := Except.ok.inj henc
    exact fun c => isInner_of_mem_escape fun _ => isInner_of_hostSafe
  split at henc
  · exact absurd henc nofun
  · -- a name goes label by label: lowered, cut at the full stops and joined with them again
    obtain rfl := Except.ok.inj henc
    have hlower : ∀ c ∈ cs.map lowerChar, IsInner c := by
      intro c hc
      obtain ⟨a, ha, rfl⟩ := List.mem_map.mp hc
      exact isInner_lowerChar (hcs a ha)
    intro c hc
    rw [String.toList_intercalate, List.map_map] at hc
    rcases Text.mem_of_mem_intercalate hc with hc | ⟨piece, hpiece, hc⟩
    · rw [show c = '.' by simpa using hc]
      decide
    · obtain ⟨label, hlabel, rfl⟩ := List.mem_map.mp hpiece
      rw [Function.comp_apply, String.toList_ofList] at hc
      refine encodeLabel_inner (fun d hd => ?_) c hc
      refine hlower d ((Text.exists_mem_splitOn ?_ _).mp ⟨label, hlabel, hd⟩)
      exact Text.not_isCut_of_mem_splitOn hlabel d hd

end ContentBinding.Url
