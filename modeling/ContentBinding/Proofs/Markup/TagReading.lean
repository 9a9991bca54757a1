import ContentBinding.Proofs.Markup.Legible

/-! Reading a start tag from what it is written as. The tag has the attributes of the element, sorted
by name; an attribute is found in it under its name, whatever stands in its value. -/

namespace ContentBinding.Markup

namespace Tokenizer

variable {e : Element} {name : String}

def readTag (e : Element) : Tag where
  name := lowerString e.name
  attrs := keepFirst ((e.attrs.mergeSort Tree.attrLe).map lowerAttr)

theorem next_readTag (he : e.IsLegible) (cdata : Bool) (rest : List Char) :
    next .data cdata ((Tree.startTag e).toList ++ rest) = ([.startTag (readTag e)], .data, rest) := by
  have hattrs : ∀ a ∈ e.attrs.mergeSort Tree.attrLe, isAttrName a.1 = true ∧ '\x00' ∉ a.2.toList :=
    fun a ha =>
      have hlegible := he.attrs a (List.mem_mergeSort.mp ha)
      ⟨hlegible.name, hlegible.value⟩
  rw [startTag_eq]
  simp only [List.cons_append, List.append_assoc, List.nil_append]
  exact next_written he.name hattrs cdata rest

/-! Attributes of the tag -/

theorem lookup_eq_head? (attrs : List (String × String)) (name : String) :
    attrs.lookup name = (attrs.filter fun a => a.1 = name).head?.map (·.2) := by
  induction attrs with
  | nil => rfl
  | cons a attrs ih =>
    rw [List.lookup_cons, ih]
    by_cases h : a.1 = name
    · simp [h]
    · have hne : (name == a.1) = false := by simpa using Ne.symm h
      simp [h, hne]

theorem lookup_keepFirst (attrs : List (String × String)) (name : String) :
    (keepFirst attrs).lookup name = attrs.lookup name := by
  induction attrs with
  | nil => rfl
  | cons a attrs ih =>
    rw [keepFirst, List.lookup_cons, List.lookup_cons]
    cases h : name == a.1 with
    | true => rfl
    | false =>
      have hne : name ≠ a.1 := by simpa using h
      have hfilter : ((keepFirst attrs).filter fun b => b.1 != a.1).filter (fun b => b.1 = name) =
          (keepFirst attrs).filter fun b => b.1 = name := by
        rw [List.filter_filter]
        refine List.filter_congr fun b _ => ?_
        by_cases hb : b.1 = name
        · simp [hb, hne]
        · simp [hb]
      dsimp only
      rw [← ih, lookup_eq_head?, lookup_eq_head? (keepFirst attrs), hfilter]

theorem filter_mergeSort (attrs : List (String × String)) (name : String) :
    (attrs.mergeSort Tree.attrLe).filter (fun a => a.1 = name) =
      attrs.filter fun a => a.1 = name := by
  have hsorted : (attrs.filter fun a => a.1 = name).Pairwise fun a b => Tree.attrLe a b = true := by
    rw [List.pairwise_filter]
    refine List.pairwise_of_forall fun a b ha hb => ?_
    have hab : a.1 = b.1 := (of_decide_eq_true ha).trans (of_decide_eq_true hb).symm
    exact decide_eq_true (hab ▸ String.le_refl a.1)
  have hsub := (List.sublist_mergeSort attrLe_trans attrLe_total hsorted List.filter_sublist).filter
    fun a => a.1 = name
  have htwice : ((attrs.filter fun a => a.1 = name).filter fun a => a.1 = name) =
      attrs.filter fun a => a.1 = name :=
    List.filter_eq_self.mpr fun a ha => (List.mem_filter.mp ha).2
  rw [htwice] at hsub
  have hlen := ((List.mergeSort_perm attrs Tree.attrLe).filter fun a => a.1 = name).length_eq
  exact (hsub.eq_of_length hlen.symm).symm

theorem lookup_mergeSort (attrs : List (String × String)) (name : String) :
    (attrs.mergeSort Tree.attrLe).lookup name = attrs.lookup name := by
  rw [lookup_eq_head?, filter_mergeSort, ← lookup_eq_head?]

def isPlainName (name : String) : Bool :=
  lowerString name = name && !(Foreign.respelled.map lowerString).contains name

theorem lowerString_eq_iff {a : String × String} (ha : Attribute.IsLegible a)
    (hname : isPlainName name = true) : lowerString a.1 = name ↔ a.1 = name := by
  rw [isPlainName, Bool.and_eq_true, decide_eq_true_eq, Bool.not_eq_true', ← Bool.not_eq_true,
    List.contains_iff_mem] at hname
  obtain ⟨hlower, hforeign⟩ := hname
  rcases ha.spelling with hsame | hmem
  · rw [hsame]
  · have hne : lowerString a.1 ≠ name := fun heq => hforeign (heq ▸ List.mem_map_of_mem hmem)
    refine ⟨fun heq => absurd heq hne, fun heq => ?_⟩
    rw [heq, hlower]

theorem lookup_map_lowerAttr {attrs : List (String × String)}
    (hattrs : ∀ a ∈ attrs, Attribute.IsLegible a) (hname : isPlainName name = true) :
    (attrs.map lowerAttr).lookup name = attrs.lookup name := by
  induction attrs with
  | nil => rfl
  | cons a attrs ih =>
    obtain ⟨ha, hattrs⟩ := List.forall_mem_cons.mp hattrs
    have heq : (name == lowerString a.1) = (name == a.1) := by
      rw [Bool.eq_iff_iff, beq_iff_eq, beq_iff_eq, eq_comm, lowerString_eq_iff ha hname, eq_comm]
    rw [List.map_cons, List.lookup_cons, List.lookup_cons, ih hattrs, lowerAttr, heq]

theorem attr?_readTag (he : e.IsLegible) (hname : isPlainName name = true) :
    (readTag e).attr? name = e.attr? name := by
  have hattrs : ∀ a ∈ e.attrs.mergeSort Tree.attrLe, Attribute.IsLegible a :=
    fun a ha => he.attrs a (List.mem_mergeSort.mp ha)
  rw [readTag, Tag.attr?, lookup_keepFirst, lookup_map_lowerAttr hattrs hname, lookup_mergeSort]
  rfl

theorem exists_of_mem_readTag {a : String × String} (ha : a ∈ (readTag e).attrs) :
    ∃ b ∈ e.attrs, lowerAttr b = a := by
  obtain ⟨b, hb, heq⟩ := List.mem_map.mp (keepFirst_subset _ ha)
  exact ⟨b, List.mem_mergeSort.mp hb, heq⟩

end Tokenizer
end ContentBinding.Markup
