import ContentBinding.Markup.Page

/-! Setting attributes of an element: the one that is set has the value, the others keep theirs, and
an element that has the value already stays as it is. -/

namespace ContentBinding.Markup.Element

/-- No attribute is given twice. -/
def NamesDistinct (e : Element) : Prop :=
  (e.attrs.map (·.1)).Nodup

/-- The attributes of that name. -/
def entries (e : Element) (key : String) : List (String × String) :=
  e.attrs.filter fun a => a.1 = key

variable {e : Element} {name key value : String}

theorem hasAttr_eq_isEmpty : e.hasAttr name = !(e.entries name).isEmpty := by
  unfold entries hasAttr
  induction e.attrs with
  | nil => rfl
  | cons a rest ih => by_cases ha : a.1 = name <;> simp [ha, ih]

theorem entries_setAttr_ne (h : key ≠ name) :
    (e.setAttr name value).entries key = e.entries key := by
  unfold setAttr
  split
  · unfold entries
    induction e.attrs with
    | nil => rfl
    | cons a rest ih =>
      rw [List.map_cons, List.filter_cons, List.filter_cons, ih]
      by_cases ha : a.1 = name
      · simp [ha, Ne.symm h]
      · simp [ha]
  · simp [entries, Ne.symm h]

def setEntries (name value : String) (l : List (String × String)) : List (String × String) :=
  if l.isEmpty then [(name, value)] else l.map fun _ => (name, value)

theorem entries_setAttr_self :
    (e.setAttr name value).entries name = setEntries name value (e.entries name) := by
  unfold setAttr setEntries
  rw [hasAttr_eq_isEmpty]
  cases h : (e.entries name).isEmpty with
  | true =>
    have hnone : e.attrs.filter (fun a => a.1 = name) = [] := List.isEmpty_iff.mp h
    simp [entries, hnone]
  | false =>
    rw [Bool.not_false, if_pos rfl, if_neg Bool.false_ne_true]
    unfold entries
    induction e.attrs with
    | nil => rfl
    | cons a rest ih => by_cases ha : a.1 = name <;> simp [ha, ih]

theorem setEntries_setEntries (value' : String) (l : List (String × String)) :
    setEntries name value' (setEntries name value l) = setEntries name value' l := by
  cases l <;> simp [setEntries]

theorem eq_of_mem_setEntries {a : String × String} {name value : String}
    {l : List (String × String)} (h : a ∈ setEntries name value l) : a = (name, value) := by
  unfold setEntries at h
  split at h
  · exact List.mem_singleton.mp h
  · obtain ⟨-, -, heq⟩ := List.mem_map.mp h
    exact heq.symm

/-! Values -/

theorem attr?_eq_entries (e : Element) (key : String) :
    e.attr? key = (e.entries key).head?.map (·.2) := by
  unfold attr? entries
  induction e.attrs with
  | nil => rfl
  | cons a rest ih =>
    rw [List.lookup_cons, List.filter_cons]
    by_cases ha : a.1 = key
    · simp [ha]
    · have hne : (key == a.1) = false := by simpa using Ne.symm ha
      rw [hne, if_neg (by simpa using ha)]
      exact ih

theorem hasAttr_eq_isSome (e : Element) (name : String) : e.hasAttr name = (e.attr? name).isSome := by
  rw [hasAttr_eq_isEmpty, attr?_eq_entries, Option.isSome_map]
  cases e.entries name <;> rfl

theorem head?_setEntries (name value : String) (l : List (String × String)) :
    (setEntries name value l).head? = some (name, value) := by
  cases l <;> rfl

theorem attr?_setAttr (e : Element) (name value key : String) :
    (e.setAttr name value).attr? key = if key = name then some value else e.attr? key := by
  rw [attr?_eq_entries]
  by_cases hkey : key = name
  · rw [if_pos hkey, hkey, entries_setAttr_self, head?_setEntries]
    rfl
  · rw [if_neg hkey, entries_setAttr_ne hkey, attr?_eq_entries]

variable (e name value)

theorem names_setAttr (h : e.attr? name ≠ none) :
    (e.setAttr name value).attrs.map (·.1) = e.attrs.map (·.1) := by
  unfold setAttr
  rw [hasAttr_eq_isSome, if_pos (Option.isSome_iff_ne_none.mpr h), List.map_map]
  refine List.map_congr_left fun a _ => ?_
  by_cases ha : a.1 = name <;> simp [ha]

@[simp] theorem name_setAttr : (e.setAttr name value).name = e.name := by
  unfold setAttr
  split <;> rfl

@[simp] theorem dialect_setAttr : (e.setAttr name value).dialect = e.dialect := by
  unfold setAttr
  split <;> rfl

theorem eq_of_lookup_eq {l l' : List (String × String)} (hnames : l.map (·.1) = l'.map (·.1))
    (hnodup : (l.map (·.1)).Nodup) (h : ∀ key, l.lookup key = l'.lookup key) : l = l' := by
  induction l generalizing l' with
  | nil => exact (List.map_eq_nil_iff.mp hnames.symm).symm
  | cons a rest ih =>
    cases l' with
    | nil => exact absurd hnames (by simp)
    | cons b rest' =>
      rw [List.map_cons, List.map_cons] at hnames
      obtain ⟨hab, hrest⟩ := List.cons.inj hnames
      rw [List.map_cons, List.nodup_cons] at hnodup
      have hvalue : a.2 = b.2 := by
        have hkey := h a.1
        rw [List.lookup_cons, List.lookup_cons, hab] at hkey
        simpa using hkey
      have htail : rest = rest' := by
        refine ih hrest hnodup.2 fun key => ?_
        by_cases hk : key = a.1
        · have hnone : ∀ {l : List (String × String)}, a.1 ∉ l.map (·.1) → l.lookup a.1 = none :=
            fun hl => List.lookup_eq_none_iff.mpr fun p hp => by
              have hne : a.1 ≠ p.1 := fun he => hl (he ▸ List.mem_map_of_mem hp)
              simpa using hne
          rw [hk, hnone hnodup.1, hnone (hrest ▸ hnodup.1)]
        · have hne : (key == a.1) = false := by simpa using hk
          have hkey := h key
          rw [List.lookup_cons, List.lookup_cons, ← hab, hne] at hkey
          exact hkey
      rw [htail, Prod.ext hab hvalue]

theorem perm_attrs {e e' : Element} (h : ∀ key, e.entries key = e'.entries key) :
    e.attrs.Perm e'.attrs := by
  classical
  refine List.perm_iff_count.mpr fun a => ?_
  have hcount : ∀ e : Element, (e.entries a.1).count a = e.attrs.count a := fun e =>
    List.count_filter (by simp)
  rw [← hcount, ← hcount, h]

end ContentBinding.Markup.Element
