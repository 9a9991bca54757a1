import Mathlib.Data.Bool.AllAny
import Mathlib.Data.List.TakeWhile
import ContentBinding.Markup.Construct.Document
import ContentBinding.Proofs.Markup.Escaping

/-! What the tokenizer makes of rendered markup. Text and attribute values come back without their
escapes, and a tag or a comment is one token, whatever stands behind it. -/

namespace ContentBinding.Markup

open Markup.Tree (escapeChar)

theorem normalizeLines_append {cs : List Char} (h : '\r' ∉ cs) (rest : List Char) :
    normalizeLines (cs ++ rest) = cs ++ normalizeLines rest := by
  induction cs with
  | nil => rfl
  | cons c cs ih =>
    rw [List.mem_cons, not_or] at h
    have hstep : ∀ ds, normalizeLines (c :: ds) = c :: normalizeLines ds := by
      intro ds
      rw [normalizeLines, if_neg (Ne.symm h.1)]
      exact fun _ hc => absurd hc (Ne.symm h.1)
    rw [List.cons_append, hstep, ih h.2, List.cons_append]

theorem normalizeLines_of_not_mem {cs : List Char} (h : '\r' ∉ cs) : normalizeLines cs = cs := by
  simpa [normalizeLines] using normalizeLines_append h []

/-! References -/

namespace CharRef

def reference (c : Char) : List Char :=
  match c with
  | '&' => "amp;".toList
  | '<' => "lt;".toList
  | '>' => "gt;".toList
  | _ => "quot;".toList

def escaped : List Char :=
  ['&', '<', '>', '"']

theorem take_reference {c : Char} (hc : c ∈ escaped) (inAttribute : Bool) (rest : List Char) :
    take inAttribute (reference c ++ rest) = some ⟨[c], (reference c).length⟩ := by
  simp only [escaped, List.mem_cons, List.not_mem_nil, or_false] at hc
  rcases hc with rfl | rfl | rfl | rfl <;> cases inAttribute <;> rfl

theorem takePiece_reference {c : Char} (hc : c ∈ escaped) (rest : List Char) :
    takePiece (reference c ++ rest) = ⟨[c], (reference c).length⟩ := by
  simp only [escaped, List.mem_cons, List.not_mem_nil, or_false] at hc
  rcases hc with rfl | rfl | rfl | rfl <;> rfl

theorem takePiece_of_none {cs : List Char} (h : take false cs = none) :
    takePiece cs = ⟨'&' :: cs.take (reach cs), reach cs⟩ := by
  simp [takePiece, h]

def IsEscaping (f : Char → List Char) : Prop :=
  ∀ c, (c ≠ '&' ∧ f c = [c]) ∨ (c ∈ escaped ∧ f c = '&' :: reference c)

theorem decode_cons {c : Char} (hc : c ≠ '&') (inAttribute : Bool) (rest : List Char) :
    decode inAttribute (c :: rest) = c :: decode inAttribute rest := by
  rw [decode]
  exact fun h => hc h

theorem decode_reference {c : Char} (hc : c ∈ escaped) (inAttribute : Bool) (rest : List Char) :
    decode inAttribute ('&' :: (reference c ++ rest)) = c :: decode inAttribute rest := by
  rw [decode, take_reference hc]
  simp

theorem decode_flatMap {f : Char → List Char} (hf : IsEscaping f) (inAttribute : Bool)
    (cs : List Char) : decode inAttribute (cs.flatMap f) = cs := by
  induction cs with
  | nil => rw [List.flatMap_nil, decode]
  | cons c cs ih =>
    rw [List.flatMap_cons]
    rcases hf c with ⟨hne, heq⟩ | ⟨hmem, heq⟩
    · rw [heq, List.singleton_append, decode_cons hne, ih]
    · rw [heq, List.cons_append, decode_reference hmem, ih]

theorem not_isSpace_of_escaped {c : Char} (hc : c ∈ escaped) : isSpace c = false := by
  have hall : ∀ d ∈ escaped, isSpace d = false := List.all_iff_forall_prop.mp (by decide)
  exact hall c hc

end CharRef

open CharRef (IsEscaping escaped reference)

theorem isEscaping_escapeChar : IsEscaping escapeChar := by
  intro c
  by_cases hamp : c = '&'
  · subst hamp
    exact .inr ⟨by decide, rfl⟩
  by_cases hlt : c = '<'
  · subst hlt
    exact .inr ⟨by decide, rfl⟩
  by_cases hgt : c = '>'
  · subst hgt
    exact .inr ⟨by decide, rfl⟩
  exact .inl ⟨hamp, Tree.escapeChar_of_ne hamp hlt hgt⟩

theorem escaped_of_escapeChar_ne {c : Char} (h : escapeChar c ≠ [c]) : c ∈ escaped :=
  (isEscaping_escapeChar c).elim (fun hc => absurd hc.2 h) And.left

theorem ne_amp_of_escapeChar {c : Char} (h : escapeChar c = [c]) : c ≠ '&' := by
  rintro rfl
  exact absurd h (by decide)

theorem span_flatMap {f : Char → List Char} (hf : IsEscaping f) {p q : Char → Bool}
    (hamp : p '&' = false) (hsame : ∀ c, f c = [c] → p c = q c)
    (hother : ∀ c, f c ≠ [c] → q c = false) (cs : List Char) :
    (cs.flatMap f).takeWhile p = cs.takeWhile q ∧
      (cs.flatMap f).dropWhile p = (cs.dropWhile q).flatMap f := by
  induction cs with
  | nil => exact ⟨rfl, rfl⟩
  | cons c cs ih =>
    by_cases hself : f c = [c]
    · rw [List.flatMap_cons, hself, List.singleton_append, List.takeWhile_cons,
        List.dropWhile_cons, List.takeWhile_cons, List.dropWhile_cons, hsame c hself]
      cases q c with
      | true => exact ⟨congrArg _ ih.1, ih.2⟩
      | false => simp [hself]
    · have hescaped : f c = '&' :: reference c :=
        (hf c).elim (fun h => absurd h.2 hself) And.right
      simp [hescaped, hamp, hother c hself]

namespace Tokenizer

/-! Text -/

/-- Tokens that make up a text: runs of spaces, and runs that begin with another character. -/
inductive Spells : List Token → List Char → Prop
  | nil : Spells [] []
  | spaces {cs rest : List Char} {ts : List Token} : cs ≠ [] → (∀ c ∈ cs, isSpace c = true) →
    Spells ts rest → Spells (.spaces cs :: ts) (cs ++ rest)
  | characters {c : Char} {cs rest : List Char} {ts : List Token} : isSpace c = false →
    c ≠ '\x00' → Spells ts rest → Spells (.characters (c :: cs) :: ts) (c :: cs ++ rest)

theorem textTokens_reference (nul : Char → Char) {c : Char} (hc : c ∈ escaped)
    (rest : List Char) : textTokens nul ('&' :: (reference c ++ rest)) =
      .characters [c] :: textTokens nul rest := by
  have hspace : isSpace c = false := CharRef.not_isSpace_of_escaped hc
  rw [textTokens, if_pos rfl, CharRef.takePiece_reference hc]
  simp [ofReference, hspace]

theorem textTokens_spaces (nul : Char → Char) {c : Char} (hc : isSpace c = true)
    (rest : List Char) : textTokens nul (c :: rest) =
      .spaces (c :: rest.takeWhile isSpace) :: textTokens nul (rest.dropWhile isSpace) := by
  have hamp : c ≠ '&' := by
    rintro rfl
    exact absurd hc (by decide)
  have hnul : c ≠ '\x00' := by
    rintro rfl
    exact absurd hc (by decide)
  rw [textTokens, if_neg hamp, if_neg hnul, if_pos hc]

theorem textTokens_characters (nul : Char → Char) {c : Char} (hamp : c ≠ '&')
    (hnul : c ≠ '\x00') (hc : isSpace c = false) (rest : List Char) :
    textTokens nul (c :: rest) =
      .characters (c :: rest.takeWhile fun d => d != '&' && d != '\x00') ::
        textTokens nul (rest.dropWhile fun d => d != '&' && d != '\x00') := by
  rw [textTokens, if_neg hamp, if_neg hnul, hc, if_neg Bool.false_ne_true]

theorem length_dropWhile_lt {c : Char} (q : Char → Bool) (rest : List Char) :
    (rest.dropWhile q).length < (c :: rest).length :=
  Nat.lt_succ_of_le (List.dropWhile_sublist q).length_le

/-- A character that runs on in text. -/
def isPlain (c : Char) : Bool :=
  decide (escapeChar c = [c]) && c != '\x00'

/-- Escaped text is read as what it was. -/
theorem spells_textTokens (nul : Char → Char) {cs : List Char} (hclean : '\x00' ∉ cs) :
    Spells (textTokens nul (cs.flatMap escapeChar)) cs := by
  match cs with
  | [] =>
    rw [List.flatMap_nil, textTokens]
    exact .nil
  | c :: rest =>
    rw [List.mem_cons, not_or] at hclean
    have hrest : ∀ q : Char → Bool, '\x00' ∉ rest.dropWhile q :=
      fun q h => hclean.2 ((List.dropWhile_sublist q).subset h)
    -- the first character stands for itself and its run is taken whole, or it is a reference
    rw [List.flatMap_cons]
    rcases isEscaping_escapeChar c with ⟨hne, heq⟩ | ⟨hmem, heq⟩
    · rw [heq, List.singleton_append]
      by_cases hspace : isSpace c = true
      · obtain ⟨htake, hdrop⟩ := span_flatMap isEscaping_escapeChar (q := isSpace) rfl
          (fun _ _ => rfl)
          (fun d hd => CharRef.not_isSpace_of_escaped (escaped_of_escapeChar_ne hd)) rest
        rw [textTokens_spaces nul hspace, htake, hdrop]
        have hrun : ∀ d ∈ c :: rest.takeWhile isSpace, isSpace d = true :=
          List.forall_mem_cons.mpr ⟨hspace, fun d hd => List.mem_takeWhile_imp hd⟩
        have htext := Spells.spaces (List.cons_ne_nil _ _) hrun
          (spells_textTokens nul (hrest isSpace))
        rwa [List.cons_append, List.takeWhile_append_dropWhile] at htext
      · rw [Bool.not_eq_true] at hspace
        obtain ⟨htake, hdrop⟩ := span_flatMap isEscaping_escapeChar
          (p := fun d => d != '&' && d != '\x00') (q := isPlain) rfl
          (fun d hd => by simp [isPlain, hd, ne_amp_of_escapeChar hd])
          (fun d hd => by simp [isPlain, hd]) rest
        rw [textTokens_characters nul hne (Ne.symm hclean.1) hspace, htake, hdrop]
        have htext := @Spells.characters c (rest.takeWhile isPlain) _ _ hspace (Ne.symm hclean.1)
          (spells_textTokens nul (hrest isPlain))
        rwa [List.cons_append, List.takeWhile_append_dropWhile] at htext
    · rw [heq, List.cons_append, textTokens_reference nul hmem]
      exact @Spells.characters c [] _ _ (CharRef.not_isSpace_of_escaped hmem) (Ne.symm hclean.1)
        (spells_textTokens nul hclean.2)
termination_by cs.length
decreasing_by
  all_goals first | exact length_dropWhile_lt _ _ | exact Nat.lt_succ_self _

def holdsNoReference : List Char → Bool
  | [] => true
  | c :: rest => (c != '&' || (CharRef.take false rest).isNone) && holdsNoReference rest

theorem holdsNoReference_suffix {cs ds : List Char} (hsuffix : ds <:+ cs)
    (h : holdsNoReference cs = true) : holdsNoReference ds = true := by
  induction cs with
  | nil => rwa [List.suffix_nil.mp hsuffix]
  | cons c cs ih =>
    rcases List.suffix_cons_iff.mp hsuffix with rfl | hmore
    · exact h
    · rw [holdsNoReference, Bool.and_eq_true] at h
      exact ih hmore h.2

theorem ofReference_amp (cs : List Char) : ofReference ('&' :: cs) = .characters ('&' :: cs) := by
  cases cs <;> rfl

theorem spells_textTokens_raw (nul : Char → Char) {cs : List Char} (hclean : '\x00' ∉ cs)
    (h : holdsNoReference cs = true) : Spells (textTokens nul cs) cs := by
  fun_induction textTokens nul cs with
  | case1 => exact .nil
  | case2 rest piece ih =>
    rw [List.mem_cons, not_or] at hclean
    rw [holdsNoReference, Bool.and_eq_true] at h
    have hnone : CharRef.take false rest = none := by simpa using h.1
    have hpiece : piece = ⟨'&' :: rest.take (CharRef.reach rest), CharRef.reach rest⟩ :=
      CharRef.takePiece_of_none hnone
    have hsuffix := List.drop_suffix (CharRef.reach rest) rest
    rw [hpiece] at ih ⊢
    have hspells := @Spells.characters '&' (rest.take (CharRef.reach rest)) _ _ rfl (by decide)
      (ih (fun hmem => hclean.2 (hsuffix.subset hmem)) (holdsNoReference_suffix hsuffix h.2))
    rw [List.cons_append, List.take_append_drop] at hspells
    rwa [ofReference_amp]
  | case3 c rest => exact absurd List.mem_cons_self hclean
  | case4 c rest hamp hnul hspace ih =>
    rw [List.mem_cons, not_or] at hclean
    rw [holdsNoReference, Bool.and_eq_true] at h
    have hsuffix := List.dropWhile_suffix isSpace (l := rest)
    have hrun : ∀ d ∈ c :: rest.takeWhile isSpace, isSpace d = true :=
      List.forall_mem_cons.mpr ⟨hspace, fun d hd => List.mem_takeWhile_imp hd⟩
    have hspells := Spells.spaces (List.cons_ne_nil _ _) hrun
      (ih (fun hmem => hclean.2 (hsuffix.subset hmem)) (holdsNoReference_suffix hsuffix h.2))
    rwa [List.cons_append, List.takeWhile_append_dropWhile] at hspells
  | case5 c rest hamp hnul hspace ordinary ih =>
    rw [List.mem_cons, not_or] at hclean
    rw [holdsNoReference, Bool.and_eq_true] at h
    have hsuffix := List.dropWhile_suffix ordinary (l := rest)
    have hspells := @Spells.characters c (rest.takeWhile ordinary) _ _
      (Bool.eq_false_iff.mpr hspace) hnul
      (ih (fun hmem => hclean.2 (hsuffix.subset hmem)) (holdsNoReference_suffix hsuffix h.2))
    rwa [List.cons_append, List.takeWhile_append_dropWhile] at hspells

/-- Written so, the text is read back where markup is read: no tag begins in it, and its tokens make
the text up. -/
structure IsWrittenAs (written text : List Char) : Prop where
  lt_not_mem : '<' ∉ written
  spells : Spells (textTokens id written) text

/-- Text that may stand where no escapes are written, though markup is read there. -/
def isUnescaped (text : String) : Bool :=
  !text.toList.contains '<' && holdsNoReference text.toList

theorem isWrittenAs_self {text : String} (hclean : '\x00' ∉ text.toList)
    (h : isUnescaped text = true) : IsWrittenAs text.toList text.toList := by
  rw [isUnescaped, Bool.and_eq_true] at h
  exact ⟨by simpa using h.1, spells_textTokens_raw id hclean h.2⟩

/-! Tags -/

/-- A character that does not end a name. -/
def isNameChar (c : Char) : Bool :=
  !isSpace c && c != '>' && c != '/' && c != '\x00'

def isTagName (name : String) : Bool :=
  (name.toList.head?.any isLetter) && name.toList.all isNameChar

/-- Only the first character may be an equals sign. -/
def isAttrName (name : String) : Bool :=
  !name.toList.isEmpty && name.toList.all isNameChar && (name.toList.drop 1).all (· != '=')

/-- Neither line ends that are read as others nor zero characters. -/
def isClean (text : String) : Bool :=
  text.toList.all fun c => c != '\r' && c != '\x00'

theorem showNul_of_ne {c : Char} (h : c ≠ '\x00') : showNul c = c :=
  if_neg h

theorem isNameChar_iff {c : Char} :
    isNameChar c = true ↔ isSpace c = false ∧ c ≠ '>' ∧ c ≠ '/' ∧ c ≠ '\x00' := by
  simp [isNameChar, and_assoc]

theorem scanTag_name {cs : List Char} (hcs : ∀ c ∈ cs, isNameChar c = true) (t : OpenTag)
    (rest : List Char) : scanTag .name t (cs ++ rest) =
      scanTag .name { t with name := cs.reverse ++ t.name } rest := by
  induction cs generalizing t with
  | nil => rfl
  | cons c cs ih =>
    rw [List.forall_mem_cons, isNameChar_iff] at hcs
    obtain ⟨⟨hspace, hgt, hslash, hnul⟩, hcs⟩ := hcs
    have hstep : tagStep .name t c = .go .name { t with name := c :: t.name } := by
      simp [tagStep, hspace, hgt, hslash, OpenTag.pushName, showNul_of_ne hnul]
    rw [List.cons_append, scanTag, hstep]
    dsimp only
    rw [ih hcs, List.reverse_cons, List.append_assoc, List.singleton_append]

theorem scanTag_attrName {cs : List Char}
    (hcs : ∀ c ∈ cs, isNameChar c = true ∧ c ≠ '=') (tag n v : List Char)
    (more : List (List Char × List Char)) (rest : List Char) :
    scanTag .attrName ⟨tag, (n, v) :: more⟩ (cs ++ rest) =
      scanTag .attrName ⟨tag, (cs.reverse ++ n, v) :: more⟩ rest := by
  induction cs generalizing n with
  | nil => rfl
  | cons c cs ih =>
    rw [List.forall_mem_cons, isNameChar_iff] at hcs
    obtain ⟨⟨⟨hspace, hgt, hslash, hnul⟩, heq⟩, hcs⟩ := hcs
    have hstep : tagStep .attrName ⟨tag, (n, v) :: more⟩ c =
        .go .attrName ⟨tag, (c :: n, v) :: more⟩ := by
      simp [tagStep, hspace, hgt, hslash, heq, OpenTag.pushAttrName, showNul_of_ne hnul]
    rw [List.cons_append, scanTag, hstep]
    dsimp only
    rw [ih hcs, List.reverse_cons, List.append_assoc, List.singleton_append]

theorem scanTag_quoted {q : Char} {cs : List Char} (hq : q ∉ cs) (tag n v : List Char)
    (more : List (List Char × List Char)) (rest : List Char) :
    scanTag (.quoted q) ⟨tag, (n, v) :: more⟩ (cs ++ q :: rest) =
      scanTag .afterValue ⟨tag, (n, cs.reverse ++ v) :: more⟩ rest := by
  induction cs generalizing v with
  | nil =>
    rw [List.nil_append, scanTag]
    simp [tagStep]
  | cons c cs ih =>
    rw [List.mem_cons, not_or] at hq
    have hstep : tagStep (.quoted q) ⟨tag, (n, v) :: more⟩ c =
        .go (.quoted q) ⟨tag, (n, c :: v) :: more⟩ := by
      simp [tagStep, Ne.symm hq.1, OpenTag.pushValue]
    rw [List.cons_append, scanTag, hstep]
    dsimp only
    rw [ih hq.2, List.reverse_cons, List.append_assoc, List.singleton_append]

def TagState.IsBetween (s : TagState) : Prop :=
  s = .name ∨ s = .afterValue

theorem scanTag_attr {s : TagState} (hs : s.IsBetween) {name value : List Char} {q : Char}
    (hne : name ≠ []) (hname : ∀ c ∈ name, isNameChar c = true)
    (heq : ∀ c ∈ name.drop 1, c ≠ '=') (hq : q = '"' ∨ q = '\'') (hvalue : q ∉ value)
    (t : OpenTag) (rest : List Char) :
    scanTag s t (' ' :: (name ++ '=' :: q :: (value ++ q :: rest))) =
      scanTag .afterValue { t with attrs := (name.reverse, value.reverse) :: t.attrs } rest := by
  obtain ⟨tag, attrs⟩ := t
  cases name with
  | nil => exact absurd rfl hne
  | cons c cs =>
    rw [List.forall_mem_cons, isNameChar_iff] at hname
    obtain ⟨⟨hspace, hgt, hslash, hnul⟩, hname⟩ := hname
    have hgap : tagStep s ⟨tag, attrs⟩ ' ' = .go .beforeAttr ⟨tag, attrs⟩ := by
      rcases hs with rfl | rfl <;> rfl
    have hfirst : tagStep .beforeAttr ⟨tag, attrs⟩ c = .go .attrName ⟨tag, ([c], []) :: attrs⟩ := by
      simp [tagStep, beforeAttrStep, hspace, hgt, hslash, OpenTag.newAttr, showNul_of_ne hnul]
    have hequals : ∀ t : OpenTag, tagStep .attrName t '=' = .go .beforeValue t := fun _ => rfl
    have hquote : ∀ t : OpenTag, tagStep .beforeValue t q = .go (.quoted q) t := by
      intro t
      rcases hq with rfl | rfl <;> rfl
    rw [scanTag, hgap]
    dsimp only
    rw [List.cons_append, scanTag, hfirst]
    dsimp only
    rw [scanTag_attrName fun d hd => ⟨hname d hd, heq d hd⟩, scanTag, hequals]
    dsimp only
    rw [scanTag, hquote]
    dsimp only
    rw [scanTag_quoted hvalue, List.append_nil, List.reverse_cons]

/-! Attribute values -/

def escapeQuoted (c : Char) : List Char :=
  if c = '"' then '&' :: reference c else escapeChar c

theorem isEscaping_escapeQuoted : IsEscaping escapeQuoted := by
  intro c
  by_cases hquote : c = '"'
  · exact .inr ⟨by simp [hquote, escaped], if_pos hquote⟩
  · rw [escapeQuoted, if_neg hquote]
    exact isEscaping_escapeChar c

theorem quote_not_mem_escapeQuoted (cs : List Char) : '"' ∉ cs.flatMap escapeQuoted := by
  rw [List.mem_flatMap]
  rintro ⟨c, -, hc⟩
  rcases isEscaping_escapeQuoted c with ⟨-, heq⟩ | ⟨hmem, heq⟩
  · obtain rfl : '"' = c := by simpa [heq] using hc
    exact absurd heq (by decide)
  · have hnone : ∀ d ∈ escaped, '"' ∉ '&' :: reference d :=
      List.all_iff_forall_prop.mp (by decide)
    exact hnone c hmem (heq ▸ hc)

theorem flatMap_escapeQuoted (cs : List Char) :
    (cs.flatMap escapeChar).flatMap (fun c => if c = '"' then "&quot;".toList else [c]) =
      cs.flatMap escapeQuoted := by
  rw [List.flatMap_assoc]
  refine List.flatMap_congr fun c _ => ?_
  rcases isEscaping_escapeChar c with ⟨-, heq⟩ | ⟨hmem, heq⟩
  · by_cases hquote : c = '"'
    · subst hquote
      rfl
    · rw [heq, escapeQuoted, if_neg hquote, heq, List.flatMap_singleton, if_neg hquote]
  · have hall : ∀ d ∈ escaped, escapeChar d = '&' :: reference d →
        (escapeChar d).flatMap (fun c => if c = '"' then "&quot;".toList else [c]) =
          escapeQuoted d := List.all_iff_forall_prop.mp (by decide)
    exact hall c hmem heq

theorem exists_quote_escape (v : String) : ∃ q content, (q = '"' ∨ q = '\'') ∧ q ∉ content ∧
    (Tree.quote (Tree.escape v)).toList = q :: (content ++ [q]) ∧
    CharRef.decodeAttribute content = v.toList := by
  have hescape : (Tree.escape v).toList = v.toList.flatMap escapeChar := String.toList_ofList
  unfold Tree.quote
  rw [hescape]
  by_cases hdouble : (v.toList.flatMap escapeChar).contains '"' = true
  · by_cases hsingle : (v.toList.flatMap escapeChar).contains '\'' = true
    · refine ⟨'"', v.toList.flatMap escapeQuoted, .inl rfl, quote_not_mem_escapeQuoted _, ?_,
        CharRef.decode_flatMap isEscaping_escapeQuoted true _⟩
      rw [if_pos hdouble, if_pos hsingle, flatMap_escapeQuoted]
      simp
    · refine ⟨'\'', v.toList.flatMap escapeChar, .inr rfl, by simpa using hsingle, ?_,
        CharRef.decode_flatMap isEscaping_escapeChar true _⟩
      rw [if_pos hdouble, if_neg hsingle, String.toList_append, String.toList_append, hescape]
      rfl
  · refine ⟨'"', v.toList.flatMap escapeChar, .inl rfl, by simpa using hdouble, ?_,
      CharRef.decode_flatMap isEscaping_escapeChar true _⟩
    rw [if_neg hdouble, String.toList_append, String.toList_append, hescape]
    rfl

/-! Whole tags -/

def writtenAttrs (attrs : List (String × String)) : List Char :=
  (String.join (attrs.map Tree.renderAttr)).toList

def isWritable (a : String × String) : Bool :=
  isAttrName a.1 && isClean a.2

def lowerAttr (a : String × String) : String × String :=
  (lowerString a.1, a.2)

theorem writtenAttrs_cons (a : String × String) (attrs : List (String × String)) :
    writtenAttrs (a :: attrs) = ' ' :: (a.1.toList ++
      '=' :: (Tree.quote (Tree.escape a.2)).toList) ++ writtenAttrs attrs := by
  simp [writtenAttrs, Tree.renderAttr, String.join_cons]

theorem startTag_eq (e : Element) : (Tree.startTag e).toList =
    '<' :: (e.name.toList ++ (writtenAttrs (e.attrs.mergeSort Tree.attrLe) ++ ['>'])) := by
  simp [Tree.startTag, writtenAttrs]

theorem attrLe_trans (a b c : String × String) (hab : Tree.attrLe a b = true)
    (hbc : Tree.attrLe b c = true) : Tree.attrLe a c = true :=
  decide_eq_true (String.le_trans (of_decide_eq_true hab) (of_decide_eq_true hbc))

theorem attrLe_total (a b : String × String) : (Tree.attrLe a b || Tree.attrLe b a) = true := by
  rw [Bool.or_eq_true]
  exact (String.le_total a.1 b.1).imp decide_eq_true decide_eq_true

theorem not_mem_of_isClean {s : String} (h : isClean s = true) :
    '\r' ∉ s.toList ∧ '\x00' ∉ s.toList := by
  rw [isClean, List.all_eq_true] at h
  constructor <;> intro hmem <;> simpa using h _ hmem

theorem map_showNul {cs : List Char} (h : '\x00' ∉ cs) : cs.map showNul = cs := by
  conv_rhs => rw [← List.map_id cs]
  refine List.map_congr_left fun c hc => ?_
  exact showNul_of_ne fun heq => h (heq ▸ hc)

theorem scanTag_attrs {attrs : List (String × String)}
    (hattrs : ∀ a ∈ attrs, isAttrName a.1 = true ∧ '\x00' ∉ a.2.toList) :
    ∃ raw : List (List Char × List Char),
      raw.map (fun a => (String.ofList (lower a.1.reverse), finishValue a.2)) =
        attrs.map lowerAttr ∧
      ∀ s t rest, TagState.IsBetween s → scanTag s t (writtenAttrs attrs ++ '>' :: rest) =
        some (OpenTag.finish { t with attrs := raw.reverse ++ t.attrs } false, rest) := by
  induction attrs with
  | nil =>
    refine ⟨[], rfl, fun s t rest hs => ?_⟩
    rcases hs with rfl | rfl <;> rfl
  | cons a attrs ih =>
    rw [List.forall_mem_cons, isAttrName] at hattrs
    obtain ⟨⟨hname, hclean⟩, hattrs⟩ := hattrs
    simp only [Bool.and_eq_true, Bool.not_eq_true', List.isEmpty_eq_false_iff, List.all_eq_true,
      bne_iff_ne] at hname
    obtain ⟨⟨hne, hchars⟩, hequals⟩ := hname
    obtain ⟨raw, hraw, hscan⟩ := ih hattrs
    obtain ⟨q, content, hq, hcontent, hquote, hdecode⟩ := exists_quote_escape a.2
    refine ⟨(a.1.toList.reverse, content.reverse) :: raw, ?_, fun s t rest hs => ?_⟩
    · have hvalue : finishValue content.reverse = a.2 := by
        rw [finishValue, List.reverse_reverse, hdecode, map_showNul hclean, String.ofList_toList]
      rw [List.map_cons, List.map_cons, hraw, hvalue, List.reverse_reverse]
      rfl
    · have hread := scanTag_attr hs hne hchars hequals hq hcontent t
        (writtenAttrs attrs ++ '>' :: rest)
      rw [writtenAttrs_cons, hquote]
      simp only [List.cons_append, List.append_assoc, List.nil_append] at hread ⊢
      rw [hread, hscan _ _ _ (.inr rfl)]
      simp

theorem keepFirst_of_nodup {attrs : List (String × String)} (h : (attrs.map (·.1)).Nodup) :
    keepFirst attrs = attrs := by
  induction attrs with
  | nil => rfl
  | cons a attrs ih =>
    rw [List.map_cons, List.nodup_cons] at h
    have hnone : ∀ b ∈ attrs, (b.1 != a.1) = true :=
      fun b hb => bne_iff_ne.mpr fun heq => h.1 (heq ▸ List.mem_map_of_mem hb)
    rw [keepFirst, ih h.2, List.filter_eq_self.mpr hnone]

/-- A tag is read as it is written, but for the case of letters; of equal names the first counts. -/
theorem scanTag_written {name : String} (hname : name.toList.all isNameChar = true)
    {attrs : List (String × String)}
    (hattrs : ∀ a ∈ attrs, isAttrName a.1 = true ∧ '\x00' ∉ a.2.toList) (rest : List Char) :
    scanTag .name {} (name.toList ++ (writtenAttrs attrs ++ '>' :: rest)) =
      some (⟨lowerString name, keepFirst (attrs.map lowerAttr), false⟩, rest) := by
  obtain ⟨raw, hraw, hscan⟩ := scanTag_attrs hattrs
  rw [scanTag_name (List.all_eq_true.mp hname), hscan _ _ _ (.inl rfl)]
  simp only [OpenTag.finish, List.append_nil, List.reverse_reverse]
  rw [hraw]
  rfl

theorem scanMarkup_of_isLetter {c : Char} (hc : isLetter c = true) (cdata : Bool)
    (cs : List Char) : scanMarkup cdata (c :: cs) =
      match scanTag .name {} (c :: cs) with
      | some (t, rest) => ([.startTag t], rest)
      | none => ([], []) := by
  have hletter : ∀ d ∈ ['!', '/', '>', '?'], isLetter d = false :=
    List.all_iff_forall_prop.mp (by decide)
  have hnot : ∀ d ∈ ['!', '/', '>', '?'], c ≠ d := by
    rintro d hd rfl
    exact Bool.false_ne_true ((hletter c hd).symm.trans hc)
  simp only [List.mem_cons, List.not_mem_nil, or_false, forall_eq_or_imp, forall_eq] at hnot
  obtain ⟨hbang, hslash, hgt, hquestion⟩ := hnot
  unfold scanMarkup
  split
  · next heq => exact absurd (List.cons.inj heq).1 hbang
  · next heq => exact absurd (List.cons.inj heq).1 hslash
  · next heq => exact absurd (List.cons.inj heq).1 hgt
  · next heq => exact absurd (List.cons.inj heq).1 hquestion
  · next heq =>
    obtain ⟨rfl, rfl⟩ := List.cons.inj heq
    exact if_pos hc
  · next heq => exact absurd heq (List.cons_ne_nil _ _)

theorem scanMarkup_slash {c : Char} (hc : isLetter c = true) (cdata : Bool) (cs : List Char) :
    scanMarkup cdata ('/' :: c :: cs) =
      match scanTag .name {} (c :: cs) with
      | some (t, rest) => ([.endTag t], rest)
      | none => ([], []) := by
  have hgt : c ≠ '>' := by
    rintro rfl
    exact absurd hc (by decide)
  cases hscan : scanTag .name {} (c :: cs) with
  | none => simp only [scanMarkup, hc, if_true, hscan]
  | some r => simp only [scanMarkup, hc, if_true, hscan]

theorem exists_cons_of_isTagName {name : String} (h : isTagName name = true) :
    (∃ c cs, name.toList = c :: cs ∧ isLetter c = true) ∧ name.toList.all isNameChar = true := by
  rw [isTagName, Bool.and_eq_true] at h
  refine ⟨?_, h.2⟩
  cases hlist : name.toList with
  | nil => exact absurd h.1 (by rw [hlist]; decide)
  | cons c cs => exact ⟨c, cs, rfl, by simpa [hlist] using h.1⟩

theorem next_written {name : String} (hname : isTagName name = true)
    {attrs : List (String × String)}
    (hattrs : ∀ a ∈ attrs, isAttrName a.1 = true ∧ '\x00' ∉ a.2.toList) (cdata : Bool)
    (rest : List Char) :
    next .data cdata ('<' :: (name.toList ++ (writtenAttrs attrs ++ '>' :: rest))) =
      ([.startTag ⟨lowerString name, keepFirst (attrs.map lowerAttr), false⟩], .data, rest) := by
  obtain ⟨⟨c, cs, hlist, hc⟩, hchars⟩ := exists_cons_of_isTagName hname
  have hscan := scanTag_written hchars hattrs rest
  rw [hlist, List.cons_append] at hscan ⊢
  simp only [next, scanMarkup_of_isLetter hc, hscan]

theorem next_startTag {name : String} (hname : isTagName name = true)
    {attrs : List (String × String)} (hattrs : ∀ a ∈ attrs, isWritable a = true)
    (hdistinct : (attrs.map fun a => lowerString a.1).Nodup) (cdata : Bool) (rest : List Char) :
    next .data cdata ('<' :: (name.toList ++ (writtenAttrs attrs ++ '>' :: rest))) =
      ([.startTag ⟨lowerString name, attrs.map lowerAttr, false⟩], .data, rest) := by
  have hclean : ∀ a ∈ attrs, isAttrName a.1 = true ∧ '\x00' ∉ a.2.toList := fun a ha =>
    (Bool.and_eq_true_iff.mp (hattrs a ha)).imp_right fun h => (not_mem_of_isClean h).2
  have hnodup : ((attrs.map lowerAttr).map (·.1)).Nodup := by
    rwa [List.map_map]
  rw [next_written hname hclean, keepFirst_of_nodup hnodup]

theorem next_endTag {name : String} (hname : isTagName name = true) (cdata : Bool)
    (rest : List Char) : next .data cdata ('<' :: '/' :: (name.toList ++ '>' :: rest)) =
      ([.endTag ⟨lowerString name, [], false⟩], .data, rest) := by
  obtain ⟨⟨c, cs, hlist, hc⟩, hchars⟩ := exists_cons_of_isTagName hname
  have hscan : scanTag .name {} (name.toList ++ '>' :: rest) =
      some (⟨lowerString name, [], false⟩, rest) :=
    @scanTag_written name hchars [] (by simp) rest
  rw [hlist, List.cons_append] at hscan ⊢
  simp only [next, scanMarkup_slash hc, hscan]

/-! Text and comments -/

def IsCut (rest : List Char) : Prop :=
  rest = [] ∨ rest.head? = some '<'

theorem span_of_isCut {cs rest : List Char} (hcs : '<' ∉ cs) (hrest : IsCut rest) :
    (cs ++ rest).takeWhile (· != '<') = cs ∧ (cs ++ rest).dropWhile (· != '<') = rest := by
  have hall : ∀ c ∈ cs, (c != '<') = true := fun c hc => bne_iff_ne.mpr fun h => hcs (h ▸ hc)
  rw [List.takeWhile_append_of_pos hall, List.dropWhile_append_of_pos hall]
  rcases hrest with rfl | hhead
  · simp
  · cases rest with
    | nil => exact absurd hhead nofun
    | cons d rest =>
      obtain rfl : d = '<' := Option.some.inj hhead
      simp

theorem lt_not_mem_flatMap_escapeChar (cs : List Char) : '<' ∉ cs.flatMap escapeChar := by
  rw [List.mem_flatMap]
  rintro ⟨c, -, hc⟩
  exact Tree.lt_not_mem_escapeChar c hc

theorem isWrittenAs_escaped {cs : List Char} (h : '\x00' ∉ cs) :
    IsWrittenAs (cs.flatMap escapeChar) cs :=
  ⟨lt_not_mem_flatMap_escapeChar cs, spells_textTokens id h⟩

theorem next_text {cs : List Char} (hne : cs ≠ []) (hlt : '<' ∉ cs) (cdata : Bool)
    {rest : List Char} (hrest : IsCut rest) :
    next .data cdata (cs ++ rest) = (textTokens id cs, .data, rest) := by
  obtain ⟨htake, hdrop⟩ := span_of_isCut hlt hrest
  obtain ⟨c, ds, rfl⟩ := List.exists_cons_of_ne_nil hne
  have hc : c ≠ '<' := fun heq => hlt (heq ▸ List.mem_cons_self)
  rw [List.cons_append] at htake hdrop ⊢
  unfold next
  dsimp only
  split
  · next heq => exact absurd (List.cons.inj heq).1 hc
  · rw [htake, hdrop]

/-- A comment that is read back as it is written. -/
def isComment (text : String) : Bool :=
  isClean text && (scanComment .start (text ++ "-->").toList = (text.toList, []))

theorem scanComment_append (s : CommentState) (cs rest : List Char) :
    scanComment s (cs ++ '-' :: '-' :: '>' :: rest) =
      ((scanComment s (cs ++ ['-', '-', '>'])).1,
        (scanComment s (cs ++ ['-', '-', '>'])).2 ++ rest) := by
  induction cs generalizing s with
  | nil => cases s <;> simp [scanComment, prepend]
  | cons c cs ih =>
    cases s <;> simp only [List.cons_append, scanComment] <;> split_ifs <;>
      simp [ih, prepend]

theorem next_comment {text : String} (htext : isComment text = true) (cdata : Bool)
    (rest : List Char) :
    next .data cdata ('<' :: '!' :: '-' :: '-' :: (text.toList ++ '-' :: '-' :: '>' :: rest)) =
      ([.comment text], .data, rest) := by
  rw [isComment, Bool.and_eq_true, decide_eq_true_eq, String.toList_append] at htext
  have hend : scanComment .start (text.toList ++ ['-', '-', '>']) = (text.toList, []) := htext.2
  have hscan : scanComment .start (text.toList ++ '-' :: '-' :: '>' :: rest) =
      (text.toList, rest) := by
    rw [scanComment_append, hend, List.nil_append]
  simp [next, scanMarkup, scanDeclaration, hscan]

/-! Text up to an end tag -/

def endTagText (name : List Char) : List Char :=
  '<' :: '/' :: (name ++ ['>'])

theorem dropWord_append {word cs : List Char} (h : word.length ≤ cs.length) (rest : List Char) :
    dropWord word (cs ++ rest) = (dropWord word cs).map (· ++ rest) := by
  induction word generalizing cs with
  | nil => simp [dropWord]
  | cons w word ih =>
    cases cs with
    | nil => exact absurd h (by simp)
    | cons c cs =>
      rw [List.cons_append, dropWord, dropWord, ih (Nat.le_of_succ_le_succ h)]
      split <;> rfl

theorem length_dropWord {word cs after : List Char} (h : dropWord word cs = some after) :
    cs.length = word.length + after.length := by
  induction word generalizing cs with
  | nil =>
    obtain rfl : cs = after := Option.some.inj h
    simp
  | cons w word ih =>
    cases cs with
    | nil => exact absurd h nofun
    | cons c cs =>
      rw [dropWord] at h
      split at h
      · rw [List.length_cons, List.length_cons, ih h]
        omega
      · exact absurd h nofun

theorem dropWord_self {word : List Char} (hlower : ∀ c ∈ word, c.toLower = c)
    (rest : List Char) : dropWord word (word ++ rest) = some rest := by
  induction word with
  | nil => rfl
  | cons w word ih =>
    rw [List.forall_mem_cons] at hlower
    rw [List.cons_append, dropWord, if_pos hlower.1, ih hlower.2]

theorem length_of_endTagAt? {name cs after : List Char} (h : endTagAt? name cs = some after) :
    name.length + 3 ≤ cs.length := by
  unfold endTagAt? at h
  split at h
  · next rest =>
    split at h
    · next c after' hdrop =>
      have hlen := length_dropWord hdrop
      simp only [List.length_cons] at hlen ⊢
      omega
    · exact absurd h nofun
  · exact absurd h nofun

theorem endTagAt?_tag (name cs : List Char) : endTagAt? name ('<' :: '/' :: cs) =
    (dropWord name cs).bind fun after =>
      if after.head?.any ScriptState.endsWord then some after else none := by
  simp only [endTagAt?]
  cases dropWord name cs with
  | none => rfl
  | some after =>
    cases after with
    | nil => rfl
    | cons c after => simp [ScriptState.endsWord]

theorem endTagAt?_other (name : List Char) {a b : Char} (h : ¬ (a = '<' ∧ b = '/'))
    (cs : List Char) : endTagAt? name (a :: b :: cs) = none := by
  unfold endTagAt?
  split
  · next heq =>
    obtain ⟨rfl, htail⟩ := List.cons.inj heq
    exact absurd ⟨rfl, (List.cons.inj htail).1⟩ h
  · rfl

/-- Whether an end tag begins is seen from as many characters as it has. -/
theorem endTagAt?_append {name cs : List Char} (h : name.length + 3 ≤ cs.length)
    (rest : List Char) : endTagAt? name (cs ++ rest) = (endTagAt? name cs).map (· ++ rest) := by
  match cs with
  | [] | [_] => exact absurd h (by simp)
  | a :: b :: cs =>
    by_cases htag : a = '<' ∧ b = '/'
    · obtain ⟨rfl, rfl⟩ := htag
      have hlen : name.length + 1 ≤ cs.length := by
        simp only [List.length_cons] at h
        omega
      rw [List.cons_append, List.cons_append, endTagAt?_tag, endTagAt?_tag,
        dropWord_append (by omega)]
      cases hdrop : dropWord name cs with
      | none => rfl
      | some after =>
        cases after with
        | nil =>
          have hall := length_dropWord hdrop
          rw [List.length_nil] at hall
          omega
        | cons c after =>
          simp only [Option.map_some, Option.bind_some, List.cons_append, List.head?_cons,
            Option.any_some]
          by_cases hends : ScriptState.endsWord c = true <;> simp [hends]
    · rw [List.cons_append, List.cons_append, endTagAt?_other name htag,
        endTagAt?_other name htag]
      rfl

theorem splitAtEndTag_of_some {name cs after : List Char} {c : Char}
    (h : endTagAt? name (c :: cs) = some after) :
    splitAtEndTag name (c :: cs) = ([], some after) := by
  rw [splitAtEndTag, h]

theorem splitAtEndTag_of_none {name cs : List Char} {c : Char}
    (h : endTagAt? name (c :: cs) = none) : splitAtEndTag name (c :: cs) =
      (c :: (splitAtEndTag name cs).1, (splitAtEndTag name cs).2) := by
  rw [splitAtEndTag, h]

theorem length_of_splitAtEndTag {name cs after : List Char}
    (h : (splitAtEndTag name cs).2 = some after) : name.length + 3 ≤ cs.length := by
  induction cs with
  | nil => exact absurd h nofun
  | cons c cs ih =>
    cases hend : endTagAt? name (c :: cs) with
    | some found => exact length_of_endTagAt? hend
    | none =>
      rw [splitAtEndTag_of_none hend] at h
      exact (ih h).trans (Nat.le_succ _)

theorem splitAtEndTag_append {name cs after : List Char}
    (h : (splitAtEndTag name cs).2 = some after) (rest : List Char) :
    splitAtEndTag name (cs ++ rest) = ((splitAtEndTag name cs).1, some (after ++ rest)) := by
  have hlen := length_of_splitAtEndTag h
  induction cs with
  | nil => exact absurd h nofun
  | cons c cs ih =>
    have happend := endTagAt?_append hlen rest
    cases hend : endTagAt? name (c :: cs) with
    | some found =>
      rw [hend] at happend
      rw [splitAtEndTag_of_some hend] at h ⊢
      obtain rfl : found = after := Option.some.inj h
      exact splitAtEndTag_of_some happend
    | none =>
      rw [hend, List.cons_append] at happend
      rw [splitAtEndTag_of_none hend] at h ⊢
      rw [List.cons_append, splitAtEndTag_of_none happend, ih h (length_of_splitAtEndTag h)]

theorem splitScript_of_some {s : ScriptState} {cs after : List Char} {c : Char}
    (h : (if (s.step c).mayEnd then endTagAt? "script".toList (c :: cs) else none) = some after) :
    splitScript s (c :: cs) = ([], some after) := by
  simp only [splitScript]
  rw [h]

theorem splitScript_of_none {s : ScriptState} {cs : List Char} {c : Char}
    (h : (if (s.step c).mayEnd then endTagAt? "script".toList (c :: cs) else none) = none) :
    splitScript s (c :: cs) =
      (c :: (splitScript (s.step c) cs).1, (splitScript (s.step c) cs).2) := by
  simp only [splitScript]
  rw [h]

theorem length_of_splitScript {s : ScriptState} {cs after : List Char}
    (h : (splitScript s cs).2 = some after) : "script".toList.length + 3 ≤ cs.length := by
  induction cs generalizing s with
  | nil => exact absurd h nofun
  | cons c cs ih =>
    cases hend : (if (s.step c).mayEnd then endTagAt? "script".toList (c :: cs) else none) with
    | some found =>
      split at hend
      · exact length_of_endTagAt? hend
      · exact absurd hend nofun
    | none =>
      rw [splitScript_of_none hend] at h
      exact (ih h).trans (Nat.le_succ _)

theorem splitScript_append {s : ScriptState} {cs after : List Char}
    (h : (splitScript s cs).2 = some after) (rest : List Char) :
    splitScript s (cs ++ rest) = ((splitScript s cs).1, some (after ++ rest)) := by
  have hlen := length_of_splitScript h
  induction cs generalizing s with
  | nil => exact absurd h nofun
  | cons c cs ih =>
    have happend : (if (s.step c).mayEnd then endTagAt? "script".toList (c :: cs ++ rest)
        else none) = (if (s.step c).mayEnd then endTagAt? "script".toList (c :: cs)
        else none).map (· ++ rest) := by
      rw [endTagAt?_append hlen rest]
      split <;> rfl
    cases hend : (if (s.step c).mayEnd then endTagAt? "script".toList (c :: cs) else none) with
    | some found =>
      rw [hend] at happend
      rw [splitScript_of_some hend] at h ⊢
      obtain rfl : found = after := Option.some.inj h
      exact splitScript_of_some happend
    | none =>
      rw [hend, List.cons_append] at happend
      rw [splitScript_of_none hend] at h ⊢
      rw [List.cons_append, splitScript_of_none happend, ih h (length_of_splitScript h)]

theorem lower_of_forall {cs : List Char} (h : ∀ c ∈ cs, c.toLower = c) : lower cs = cs := by
  conv_rhs => rw [← List.map_id cs]
  exact List.map_congr_left h

theorem endTagAt?_endTagText {name : List Char} (hlower : ∀ c ∈ name, c.toLower = c)
    (rest : List Char) : endTagAt? name (endTagText name ++ rest) = some ('>' :: rest) := by
  have hdrop := dropWord_self hlower ('>' :: rest)
  simp only [endTagText, List.cons_append, List.append_assoc, List.nil_append]
  rw [endTagAt?_tag, hdrop]
  rfl

theorem splitAtEndTag_of_not_mem {cs name : List Char} (hcs : '<' ∉ cs)
    (hlower : ∀ c ∈ name, c.toLower = c) (rest : List Char) :
    splitAtEndTag name (cs ++ (endTagText name ++ rest)) = (cs, some ('>' :: rest)) := by
  induction cs with
  | nil =>
    have hend := endTagAt?_endTagText hlower rest
    rw [endTagText, List.cons_append] at hend
    rw [List.nil_append, endTagText, List.cons_append]
    exact splitAtEndTag_of_some hend
  | cons c cs ih =>
    rw [List.mem_cons, not_or] at hcs
    have hnone : endTagAt? name (c :: (cs ++ (endTagText name ++ rest))) = none := by
      cases htail : cs ++ (endTagText name ++ rest) with
      | nil => exact absurd htail (by simp [endTagText])
      | cons d ds => exact endTagAt?_other name (fun h => hcs.1 h.1.symm) ds
    rw [List.cons_append, splitAtEndTag_of_none hnone, ih hcs.2]

theorem closeText_gt {name : String} (hlower : ∀ c ∈ name.toList, c.toLower = c)
    (text : List Token) (rest : List Char) :
    closeText name.toList text (some ('>' :: rest)) =
      (text ++ [.endTag ⟨name, [], false⟩], rest) := by
  have hfinish : OpenTag.finish ⟨name.toList.reverse, []⟩ false = ⟨name, [], false⟩ := by
    rw [OpenTag.finish, List.reverse_reverse, lower_of_forall hlower, String.ofList_toList]
    rfl
  simp [closeText, scanTag, tagStep, hfinish, show isSpace '>' = false from rfl]

def modelName? : ContentModel → Option String
  | .references name => some name
  | .raw name => some name
  | .script => some "script"
  | .data | .plain => none

def writtenText (m : ContentModel) (text : List Char) : List Char :=
  match m with
  | .references _ => text.flatMap escapeChar
  | _ => text

/-- The end tag of the element is the first that its text is read up to. -/
def isEnded (m : ContentModel) (text : List Char) : Bool :=
  match m with
  | .raw name => splitAtEndTag name.toList (text ++ endTagText name.toList) = (text, some ['>'])
  | .script =>
    splitScript .plain (text ++ endTagText "script".toList) = (text, some ['>'])
  | _ => true

def contentTokens (m : ContentModel) (text : List Char) : List Token :=
  match m with
  | .references _ => textTokens showNul (text.flatMap escapeChar)
  | _ => rawTokens text

theorem next_content {m : ContentModel} {name : String} (hm : modelName? m = some name)
    (hlower : ∀ c ∈ name.toList, c.toLower = c) {text : List Char}
    (hended : isEnded m text = true) (cdata : Bool) (rest : List Char) :
    next m cdata (writtenText m text ++ (endTagText name.toList ++ rest)) =
      (contentTokens m text ++ [.endTag ⟨name, [], false⟩], .data, rest) := by
  cases m with
  | data => exact absurd hm nofun
  | plain => exact absurd hm nofun
  | references n =>
    obtain rfl : n = name := Option.some.inj hm
    have hsplit := splitAtEndTag_of_not_mem (lt_not_mem_flatMap_escapeChar text) hlower rest
    simp only [next, writtenText, contentTokens, hsplit, closeText_gt hlower]
  | raw n =>
    obtain rfl : n = name := Option.some.inj hm
    have hsplit : splitAtEndTag n.toList (text ++ endTagText n.toList) = (text, some ['>']) := by
      simpa [isEnded] using hended
    have hmore := splitAtEndTag_append (congrArg Prod.snd hsplit) rest
    rw [hsplit, List.append_assoc] at hmore
    simp only [next, writtenText, contentTokens, hmore]
    exact congrArg (fun r => (r.1, ContentModel.data, r.2)) (closeText_gt hlower _ rest)
  | script =>
    obtain rfl : "script" = name := Option.some.inj hm
    have hsplit : splitScript .plain (text ++ endTagText "script".toList) =
        (text, some ['>']) := by
      simpa [isEnded] using hended
    have hmore := splitScript_append (congrArg Prod.snd hsplit) rest
    rw [hsplit, List.append_assoc] at hmore
    simp only [next, writtenText, contentTokens, hmore]
    exact congrArg (fun r => (r.1, ContentModel.data, r.2)) (closeText_gt hlower _ rest)

end Tokenizer
end ContentBinding.Markup
