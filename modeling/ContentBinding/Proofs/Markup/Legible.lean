import Mathlib
import ContentBinding.Proofs.Markup.Attributes
import ContentBinding.Proofs.Markup.Lexing
import ContentBinding.Proofs.Text.Splitting

/-! What a start tag can be read from when it is written. The names in every tag that the tokenizer
reads are in lower case and hold no character that would end them, and no value holds a zero
character; so a tag that is written from them is one tag again. -/

namespace ContentBinding.Markup

open Tokenizer (isAttrName isNameChar isNameChar_iff isTagName)

/-! Lower case -/

theorem toLower_ne {c d : Char} (hd : d.isAlpha = false) (h : c ≠ d) : c.toLower ≠ d := by
  intro heq
  cases halpha : c.isAlpha with
  | true =>
    rw [← Char.isAlpha_toLower_eq_isAlpha, heq, hd] at halpha
    exact Bool.false_ne_true halpha
  | false =>
    have hupper : ¬ c.isUpper := by
      intro hc
      simp [Char.isAlpha, hc] at halpha
    rw [Char.toLower_eq_of_not_isUpper hupper] at heq
    exact h heq

def nameEnds : List Char := [' ', '\t', '\n', '\x0c', '\r', '>', '/', '\x00']

theorem isNameChar_iff_not_mem {c : Char} : isNameChar c = true ↔ c ∉ nameEnds := by
  simp [isNameChar_iff, isSpace, nameEnds, and_assoc]

theorem isNameChar_toLower {c : Char} (h : isNameChar c = true) : isNameChar c.toLower = true := by
  have hall : ∀ d ∈ nameEnds, d.isAlpha = false := List.all_iff_forall_prop.mp (by decide)
  rw [isNameChar_iff_not_mem] at h ⊢
  intro hmem
  have hne : c ≠ c.toLower := fun heq => h (heq ▸ hmem)
  exact toLower_ne (hall _ hmem) hne rfl

theorem lower_lower (cs : List Char) : lower (lower cs) = lower cs := by
  rw [lower, lower, List.map_map]
  exact List.map_congr_left fun c _ => Char.toLower_toLower_eq_toLower c

theorem lowerString_ofList_lower (cs : List Char) :
    lowerString (String.ofList (lower cs)) = String.ofList (lower cs) := by
  rw [lowerString, String.toList_ofList, lower_lower]

theorem isNameChar_showNul {c : Char} (hspace : isSpace c = false) (hgt : c ≠ '>')
    (hslash : c ≠ '/') : isNameChar (showNul c) = true := by
  by_cases hnul : c = '\x00'
  · subst hnul
    decide
  · rw [Tokenizer.showNul_of_ne hnul]
    exact isNameChar_iff.mpr ⟨hspace, hgt, hslash, hnul⟩

theorem showNul_ne {c d : Char} (h : c ≠ d) (hd : d ≠ replacementChar) : showNul c ≠ d := by
  unfold showNul
  split
  · exact Ne.symm hd
  · exact h

theorem nul_not_mem_map_showNul (cs : List Char) : '\x00' ∉ cs.map showNul := by
  rw [List.mem_map]
  rintro ⟨c, -, hc⟩
  unfold showNul at hc
  split at hc
  · exact absurd hc (by decide)
  · next hne => exact hne hc

/-! Names as they are read -/

namespace Tokenizer

/-- The characters of an attribute's name, the last one first. -/
structure IsOpenName (n : List Char) : Prop where
  ne_nil : n ≠ []
  chars : ∀ c ∈ n, isNameChar c = true
  equals : ∀ c ∈ n.dropLast, c ≠ '='

theorem IsOpenName.isAttrName {n : List Char} (h : IsOpenName n) :
    isAttrName (String.ofList (lower n.reverse)) = true := by
  simp only [Tokenizer.isAttrName, String.toList_ofList, Bool.and_eq_true, Bool.not_eq_true',
    List.isEmpty_eq_false_iff, List.all_eq_true, bne_iff_ne, lower, List.map_eq_nil_iff.not,
    ← List.map_drop, List.forall_mem_map, List.drop_one, List.tail_reverse, List.mem_reverse]
  refine ⟨⟨by simpa using h.ne_nil, fun c hc => isNameChar_toLower (h.chars c hc)⟩, ?_⟩
  exact fun c hc => toLower_ne (by decide) (h.equals c hc)

theorem isOpenName_singleton {c : Char} (h : isNameChar c = true) : IsOpenName [c] where
  ne_nil := List.cons_ne_nil c []
  chars _ hd := List.mem_singleton.mp hd ▸ h
  equals _ hd := absurd hd List.not_mem_nil

theorem IsOpenName.cons {c : Char} {n : List Char} (h : IsOpenName n) (hc : isNameChar c = true)
    (heq : c ≠ '=') : IsOpenName (c :: n) where
  ne_nil := List.cons_ne_nil c n
  chars := List.forall_mem_cons.mpr ⟨hc, h.chars⟩
  equals := by
    rw [List.dropLast_cons_of_ne_nil h.ne_nil]
    exact List.forall_mem_cons.mpr ⟨heq, h.equals⟩

/-- A tag that is being read: its name begins with a letter, and no name holds its own end. -/
structure IsOpenTag (t : OpenTag) : Prop where
  letter : (t.name.getLast?.any isLetter) = true
  chars : ∀ c ∈ t.name, isNameChar c = true
  attrs : ∀ a ∈ t.attrs, IsOpenName a.1

namespace IsOpenTag

variable {t : OpenTag} {c : Char}

theorem pushName (h : IsOpenTag t) (hc : isNameChar (showNul c) = true) :
    IsOpenTag (t.pushName c) where
  letter := by
    have hne : t.name ≠ [] := by
      intro hnil
      have hletter := h.letter
      rw [hnil] at hletter
      exact absurd hletter (by decide)
    rw [OpenTag.pushName, List.getLast?_cons_of_ne_nil hne]
    exact h.letter
  chars := List.forall_mem_cons.mpr ⟨hc, h.chars⟩
  attrs := h.attrs

theorem newAttr (h : IsOpenTag t) (hc : isNameChar (showNul c) = true) :
    IsOpenTag (t.newAttr c) :=
  { h with attrs := List.forall_mem_cons.mpr ⟨isOpenName_singleton hc, h.attrs⟩ }

theorem pushAttrName (h : IsOpenTag t) (hc : isNameChar (showNul c) = true) (heq : c ≠ '=') :
    IsOpenTag (t.pushAttrName c) := by
  unfold OpenTag.pushAttrName
  split
  · next n v more hattrs =>
    obtain ⟨hfirst, hmore⟩ := List.forall_mem_cons.mp (hattrs ▸ h.attrs)
    have hne : showNul c ≠ '=' := showNul_ne heq (by decide)
    exact { h with attrs := List.forall_mem_cons.mpr ⟨hfirst.cons hc hne, hmore⟩ }
  · exact h

theorem pushValue (h : IsOpenTag t) : IsOpenTag (t.pushValue c) := by
  unfold OpenTag.pushValue
  split
  · next n v more hattrs =>
    obtain ⟨hfirst, hmore⟩ := List.forall_mem_cons.mp (hattrs ▸ h.attrs)
    exact { h with attrs := List.forall_mem_cons.mpr ⟨hfirst, hmore⟩ }
  · exact h

theorem beforeAttrStep {s : TagState} {t' : OpenTag} (h : IsOpenTag t)
    (hstep : Tokenizer.beforeAttrStep t c = .go s t') : IsOpenTag t' := by
  unfold Tokenizer.beforeAttrStep at hstep
  split_ifs at hstep with hspace hgt hslash
  · cases hstep
    exact h
  · cases hstep
    exact h
  · cases hstep
    exact h.newAttr (isNameChar_showNul (by simpa using hspace) hgt hslash)

theorem tagStep {s s' : TagState} {t' : OpenTag} (h : IsOpenTag t)
    (hstep : Tokenizer.tagStep s t c = .go s' t') : IsOpenTag t' := by
  have hchar (hspace : ¬ isSpace c = true) (hgt : c ≠ '>') (hslash : c ≠ '/') :
      isNameChar (showNul c) = true :=
    isNameChar_showNul (Bool.eq_false_iff.mpr hspace) hgt hslash
  cases s with
  | name =>
    simp only [Tokenizer.tagStep] at hstep
    split_ifs at hstep with hspace hgt hslash <;> cases hstep
    · exact h
    · exact h
    · exact h.pushName (hchar hspace hgt hslash)
  | beforeAttr => exact h.beforeAttrStep hstep
  | attrName =>
    simp only [Tokenizer.tagStep] at hstep
    split_ifs at hstep with heq hgt hspace hslash <;> cases hstep
    · exact h
    · exact h
    · exact h
    · exact h.pushAttrName (hchar hspace hgt hslash) heq
  | afterAttrName =>
    simp only [Tokenizer.tagStep] at hstep
    split_ifs at hstep with hspace heq hgt hslash <;> cases hstep
    · exact h
    · exact h
    · exact h
    · exact h.newAttr (hchar hspace hgt hslash)
  | beforeValue =>
    simp only [Tokenizer.tagStep] at hstep
    split_ifs at hstep <;> cases hstep
    · exact h
    · exact h
    · exact h.pushValue
  | quoted q =>
    simp only [Tokenizer.tagStep] at hstep
    split_ifs at hstep <;> cases hstep
    · exact h
    · exact h.pushValue
  | unquoted =>
    simp only [Tokenizer.tagStep] at hstep
    split_ifs at hstep <;> cases hstep
    · exact h
    · exact h.pushValue
  | afterValue =>
    simp only [Tokenizer.tagStep] at hstep
    split_ifs at hstep
    · cases hstep
      exact h
    · cases hstep
      exact h
    · exact h.beforeAttrStep hstep
  | selfClosing =>
    simp only [Tokenizer.tagStep] at hstep
    split_ifs at hstep
    exact h.beforeAttrStep hstep

end IsOpenTag

end Tokenizer

/-! Tags and elements -/

/-- Names of attributes that are not in lower case. -/
def Foreign.respelled : List String :=
  "definitionURL" :: svgAttrNames

/-- An attribute that is read as it was when it is written. -/
structure Attribute.IsLegible (a : String × String) : Prop where
  name : isAttrName a.1 = true
  value : '\x00' ∉ a.2.toList
  spelling : lowerString a.1 = a.1 ∨ a.1 ∈ Foreign.respelled

/-- A name and attributes that make one start tag when they are written. -/
structure IsLegible (name : String) (attrs : List (String × String)) : Prop where
  name : isTagName name = true
  attrs : ∀ a ∈ attrs, Attribute.IsLegible a

abbrev Tag.IsLegible (t : Tag) : Prop :=
  Markup.IsLegible t.name t.attrs

abbrev Element.IsLegible (e : Element) : Prop :=
  Markup.IsLegible e.name e.attrs

/-- Of the tokens only start tags put elements on a page. -/
def Token.IsLegible : Token → Prop
  | .startTag t => t.IsLegible
  | _ => True

theorem isLegible_named {name : String} (h : isTagName name = true) : IsLegible name [] where
  name := h
  attrs _ ha := absurd ha List.not_mem_nil

theorem IsLegible.of_subset {name name' : String} {attrs attrs' : List (String × String)}
    (h : IsLegible name attrs) (hname : isTagName name' = true) (hattrs : attrs' ⊆ attrs) :
    IsLegible name' attrs' where
  name := hname
  attrs a ha := h.attrs a (hattrs ha)

theorem IsLegible.concat {name : String} {attrs : List (String × String)} {a : String × String}
    (h : IsLegible name attrs) (ha : Attribute.IsLegible a) : IsLegible name (attrs ++ [a]) where
  name := h.name
  attrs := List.forall_mem_append.mpr ⟨h.attrs, List.forall_mem_singleton.mpr ha⟩

namespace Tokenizer

variable {t : OpenTag} {tag : Tag} {cs rest : List Char}

theorem keepFirst_subset (attrs : List (String × String)) : keepFirst attrs ⊆ attrs := by
  induction attrs with
  | nil => exact List.Subset.refl []
  | cons a attrs ih =>
    refine List.cons_subset_cons _ fun b hb => ?_
    exact ih (List.mem_filter.mp hb).1

theorem IsOpenTag.isTagName (h : IsOpenTag t) :
    isTagName (String.ofList (lower t.name.reverse)) = true := by
  rw [Tokenizer.isTagName, String.toList_ofList, Bool.and_eq_true]
  constructor
  · rw [lower, List.head?_map, List.head?_reverse, Option.any_map]
    refine Eq.trans ?_ h.letter
    congr 1
    funext c
    exact Char.isAlpha_toLower_eq_isAlpha c
  · rw [lower, List.all_map, List.all_eq_true]
    exact fun c hc => isNameChar_toLower (h.chars c (List.mem_reverse.mp hc))

theorem IsOpenTag.finish (h : IsOpenTag t) (selfClosing : Bool) :
    (t.finish selfClosing).IsLegible where
  name := h.isTagName
  attrs a ha := by
    obtain ⟨⟨n, v⟩, hopen, rfl⟩ := List.mem_map.mp (keepFirst_subset _ ha)
    have hname : IsOpenName n := h.attrs _ (List.mem_reverse.mp hopen)
    refine ⟨hname.isAttrName, ?_, .inl (lowerString_ofList_lower _)⟩
    simp only [finishValue, String.toList_ofList]
    exact nul_not_mem_map_showNul _

theorem IsOpenTag.scanTag {s : TagState} (h : IsOpenTag t)
    (hscan : Tokenizer.scanTag s t cs = some (tag, rest)) : tag.IsLegible := by
  induction cs generalizing s t with
  | nil => exact absurd hscan nofun
  | cons c cs ih =>
    rw [Tokenizer.scanTag] at hscan
    cases hstep : Tokenizer.tagStep s t c with
    | go s' t' =>
      rw [hstep] at hscan
      exact ih (h.tagStep hstep) hscan
    | close selfClosing =>
      rw [hstep] at hscan
      cases hscan
      exact h.finish selfClosing

theorem isLegible_scanTag {c : Char} (hc : isLetter c = true)
    (hscan : scanTag .name {} (c :: cs) = some (tag, rest)) : tag.IsLegible := by
  have hchar : isNameChar c = true := by
    have hall : ∀ d ∈ nameEnds, isLetter d = false := List.all_iff_forall_prop.mp (by decide)
    rw [isNameChar_iff_not_mem]
    exact fun hmem => Bool.false_ne_true ((hall c hmem).symm.trans hc)
  have hscan' : scanTag .name ⟨[c], []⟩ cs = some (tag, rest) := by
    rw [← hscan]
    exact (@scanTag_name [c] (List.forall_mem_singleton.mpr hchar) {} cs).symm
  refine IsOpenTag.scanTag ⟨?_, ?_, ?_⟩ hscan'
  · exact hc
  · exact List.forall_mem_singleton.mpr hchar
  · exact fun a ha => absurd ha List.not_mem_nil

/-! Tokens -/

theorem isLegible_ofReference (cs : List Char) : (ofReference cs).IsLegible := by
  unfold ofReference
  split
  · split <;> trivial
  · trivial

theorem isLegible_textTokens (nul : Char → Char) (cs : List Char) :
    ∀ t ∈ textTokens nul cs, t.IsLegible := by
  fun_induction textTokens nul cs with
  | case1 => exact fun _ ht => absurd ht List.not_mem_nil
  | case2 rest piece ih =>
    exact List.forall_mem_cons.mpr ⟨isLegible_ofReference piece.text, ih⟩
  | case3 rest _ ih => exact List.forall_mem_cons.mpr ⟨trivial, ih⟩
  | case4 c rest _ _ _ ih => exact List.forall_mem_cons.mpr ⟨trivial, ih⟩
  | case5 c rest _ _ _ ordinary ih => exact List.forall_mem_cons.mpr ⟨trivial, ih⟩

theorem isLegible_rawTokens (cs : List Char) : ∀ t ∈ rawTokens cs, t.IsLegible := by
  unfold rawTokens
  split
  · exact nofun
  · exact List.forall_mem_singleton.mpr trivial

theorem isLegible_scanDeclaration (cdata : Bool) (cs : List Char) :
    ∀ t ∈ (scanDeclaration cdata cs).1, t.IsLegible := by
  unfold scanDeclaration
  split
  · exact List.forall_mem_singleton.mpr trivial
  · split
    · exact List.forall_mem_singleton.mpr trivial
    · split
      · exact isLegible_rawTokens _
      · exact List.forall_mem_singleton.mpr trivial

theorem isLegible_scanMarkup (cdata : Bool) (cs : List Char) :
    ∀ t ∈ (scanMarkup cdata cs).1, t.IsLegible := by
  unfold scanMarkup
  split
  · exact isLegible_scanDeclaration cdata _
  · split
    · exact List.forall_mem_singleton.mpr trivial
    · exact nofun
    · split
      · split
        · exact List.forall_mem_singleton.mpr trivial
        · exact nofun
      · exact List.forall_mem_singleton.mpr trivial
  · exact List.forall_mem_singleton.mpr trivial
  · exact List.forall_mem_singleton.mpr trivial
  · split
    · next hletter =>
      split
      · next tag _ hscan =>
        have htag : tag.IsLegible := isLegible_scanTag hletter hscan
        exact List.forall_mem_singleton.mpr htag
      · exact nofun
    · exact List.forall_mem_singleton.mpr trivial
  · exact List.forall_mem_singleton.mpr trivial

theorem isLegible_closeText (name : List Char) {text : List Token}
    (h : ∀ t ∈ text, t.IsLegible) (after : Option (List Char)) :
    ∀ t ∈ (closeText name text after).1, t.IsLegible := by
  unfold closeText
  split
  · exact h
  · split
    · exact List.forall_mem_append.mpr ⟨h, List.forall_mem_singleton.mpr trivial⟩
    · exact h

theorem isLegible_next (m : ContentModel) (cdata : Bool) (cs : List Char) :
    ∀ t ∈ (next m cdata cs).1, t.IsLegible := by
  cases m with
  | data =>
    unfold next
    dsimp only
    split
    · exact isLegible_scanMarkup cdata _
    · exact isLegible_textTokens id _
  | references name => exact isLegible_closeText _ (isLegible_textTokens showNul _) _
  | raw name => exact isLegible_closeText _ (isLegible_rawTokens _) _
  | script => exact isLegible_closeText _ (isLegible_rawTokens _) _
  | plain => exact isLegible_rawTokens cs

end Tokenizer

/-! Values that are kept in another form -/

namespace Attribute

theorem mem_of_mem_wordsFrom {w : String} {c : Char} {current cs : List Char}
    (hw : w ∈ Text.wordsFrom current cs) (hc : c ∈ w.toList) : c ∈ current ∨ c ∈ cs := by
  induction cs generalizing current with
  | nil =>
    rw [Text.wordsFrom] at hw
    split at hw
    · exact absurd hw List.not_mem_nil
    · rw [List.mem_singleton.mp hw, String.toList_ofList, List.mem_reverse] at hc
      exact .inl hc
  | cons d cs ih =>
    have hlater : ∀ {n : List Char}, w ∈ Text.wordsFrom n cs → c ∈ n ∨ c ∈ d :: cs :=
      fun hw => (ih hw).imp_right (List.mem_cons_of_mem d)
    rw [Text.wordsFrom] at hw
    split at hw
    · split at hw
      · exact .inr ((hlater hw).resolve_left List.not_mem_nil)
      · rcases List.mem_cons.mp hw with rfl | hw
        · rw [String.toList_ofList, List.mem_reverse] at hc
          exact .inl hc
        · exact .inr ((hlater hw).resolve_left List.not_mem_nil)
    · rcases hlater hw with hmem | hmem
      · rcases List.mem_cons.mp hmem with rfl | hmem
        · exact .inr List.mem_cons_self
        · exact .inl hmem
      · exact .inr hmem

theorem nul_not_mem_joinWords {value : String} (h : '\x00' ∉ value.toList) :
    '\x00' ∉ (joinWords value).toList := by
  intro hmem
  rw [joinWords, String.toList_intercalate] at hmem
  rcases Text.mem_of_mem_intercalate hmem with hspace | ⟨piece, hpiece, hc⟩
  · exact absurd hspace (by decide)
  · obtain ⟨w, hw, rfl⟩ := List.mem_map.mp hpiece
    exact h ((mem_of_mem_wordsFrom hw hc).resolve_left List.not_mem_nil)

theorem nul_not_mem_rewriteCharset {s : CharsetState} {cs : List Char} (h : '\x00' ∉ cs) :
    '\x00' ∉ rewriteCharset s cs := by
  induction cs generalizing s with
  | nil =>
    rw [rewriteCharset]
    exact List.not_mem_nil
  | cons c cs ih =>
    rw [List.mem_cons, not_or] at h
    have hkept (s : CharsetState) : '\x00' ∉ c :: rewriteCharset s cs := by
      rw [List.mem_cons, not_or]
      exact ⟨h.1, ih h.2⟩
    cases s with
    | text lineStart =>
      rw [rewriteCharset]
      split_ifs <;> exact hkept _
    | mark left =>
      rw [rewriteCharset]
      split_ifs
      · have hencoding : '\x00' ∉ pageEncoding.toList := by decide
        simp [h.1, hencoding, ih h.2]
      · exact hkept _
    | value =>
      rw [rewriteCharset]
      split_ifs
      · exact hkept _
      · exact hkept _
      · exact ih h.2

theorem nul_not_mem_normalizeValue {element name value : String} (h : '\x00' ∉ value.toList) :
    '\x00' ∉ (normalizeValue element name value).toList := by
  unfold normalizeValue
  split
  · exact nul_not_mem_joinWords h
  · exact h

end Attribute

namespace IsLegible

variable {name : String} {attrs : List (String × String)}

theorem map_values (h : IsLegible name attrs) {f : String × String → String × String}
    (hname : ∀ a, (f a).1 = a.1)
    (hvalue : ∀ a : String × String, '\x00' ∉ a.2.toList → '\x00' ∉ (f a).2.toList) :
    IsLegible name (attrs.map f) where
  name := h.name
  attrs := by
    rw [List.forall_mem_map]
    intro a ha
    obtain ⟨hattr, hclean, hspelling⟩ := h.attrs a ha
    refine ⟨?_, hvalue a hclean, ?_⟩
    · rw [hname]
      exact hattr
    · rw [hname]
      exact hspelling

theorem declareEncoding (h : IsLegible name attrs) :
    IsLegible name (Attribute.declareEncoding attrs) := by
  have hencoding : '\x00' ∉ Attribute.pageEncoding.toList := by decide
  unfold Attribute.declareEncoding
  split
  · refine h.map_values (fun a => ?_) fun a ha => ?_
    · dsimp only
      split <;> rfl
    · dsimp only
      split
      · exact hencoding
      · exact ha
  · split
    · refine h.map_values (fun a => ?_) fun a ha => ?_
      · dsimp only
        split <;> rfl
      · dsimp only
        split
        · rw [String.toList_ofList]
          exact Attribute.nul_not_mem_rewriteCharset ha
        · exact ha
    · exact h

theorem normalize (h : IsLegible name attrs) (element : String) :
    IsLegible name (Attribute.normalize element attrs) := by
  have hjoined : IsLegible name (attrs.map fun a =>
      if Attribute.isWordList (lowerString element) a.1 then (a.1, Attribute.joinWords a.2)
      else (a.1, a.2)) := by
    refine h.map_values (fun a => ?_) fun a ha => ?_
    · split <;> rfl
    · split
      · exact Attribute.nul_not_mem_joinWords ha
      · exact ha
  unfold Attribute.normalize
  dsimp only
  split
  · exact hjoined.declareEncoding
  · exact hjoined

end IsLegible

/-! Tags of foreign elements -/

namespace Foreign

variable {t : Tag}

theorem respell_mem_or_eq (names : List String) (name : String) :
    respell names name ∈ names ∨ respell names name = name := by
  unfold respell
  cases hfind : names.find? fun n => lowerString n = name with
  | none => exact .inr rfl
  | some n => exact .inl (List.mem_of_find?_eq_some hfind)

theorem isAttrName_of_mem_respelled {name : String} (h : name ∈ respelled) :
    isAttrName name = true := by
  have hall : ∀ n ∈ respelled, isAttrName n = true := List.all_iff_forall_prop.mp (by decide +kernel)
  exact hall name h

theorem isLegible_respellAttrs {names : List String} (hnames : names ⊆ respelled)
    (h : t.IsLegible) : (respellAttrs names t).IsLegible where
  name := h.name
  attrs := by
    refine List.forall_mem_map.mpr fun a ha => ?_
    obtain ⟨hattr, hclean, hspelling⟩ := h.attrs a ha
    rcases respell_mem_or_eq names a.1 with hmem | heq
    · exact ⟨isAttrName_of_mem_respelled (hnames hmem), hclean, .inr (hnames hmem)⟩
    · dsimp only
      rw [heq]
      exact ⟨hattr, hclean, hspelling⟩

theorem isLegible_adjustAttrs (h : t.IsLegible) (d : Dialect) : (adjustAttrs d t).IsLegible := by
  cases d with
  | html => exact h
  | svg => exact isLegible_respellAttrs (List.subset_cons_self _ _) h
  | math => exact isLegible_respellAttrs (List.cons_subset_cons _ (List.nil_subset _)) h

theorem isLegible_adjustTag (h : t.IsLegible) (d : Dialect) : (adjustTag d t).IsLegible := by
  have hattrs := isLegible_adjustAttrs h d
  cases d with
  | html => exact hattrs
  | math => exact hattrs
  | svg =>
    have hall : ∀ n ∈ svgElementNames, isTagName n = true :=
      List.all_iff_forall_prop.mp (by decide +kernel)
    have hname : isTagName (respell svgElementNames (adjustAttrs .svg t).name) = true := by
      rcases respell_mem_or_eq svgElementNames (adjustAttrs .svg t).name with hmem | heq
      · exact hall _ hmem
      · rw [heq]
        exact hattrs.name
    exact ⟨hname, hattrs.attrs⟩

end Foreign

/-! Attributes that are set -/

namespace Element

variable {e : Element} {name value : String}

theorem IsLegible.setAttr (h : e.IsLegible) (ha : Attribute.IsLegible (name, value)) :
    (e.setAttr name value).IsLegible where
  name := by
    rw [name_setAttr]
    exact h.name
  attrs := by
    unfold Element.setAttr
    split
    · refine List.forall_mem_map.mpr fun a hmem => ?_
      split
      · exact ha
      · exact h.attrs a hmem
    · exact List.forall_mem_append.mpr ⟨h.attrs, List.forall_mem_singleton.mpr ha⟩

theorem IsLegible.addAttrs (h : e.IsLegible) {attrs : List (String × String)}
    (hattrs : ∀ a ∈ attrs, Attribute.IsLegible a) :
    (attrs.foldl (fun e (k, v) =>
      if e.hasAttr k then e else e.setAttr k (Attribute.normalizeValue e.name k v)) e).IsLegible := by
  induction attrs generalizing e with
  | nil => exact h
  | cons a attrs ih =>
    obtain ⟨ha, hattrs⟩ := List.forall_mem_cons.mp hattrs
    refine ih ?_ hattrs
    dsimp only
    split
    · exact h
    · exact h.setAttr { ha with value := Attribute.nul_not_mem_normalizeValue ha.value }

end Element

end ContentBinding.Markup
