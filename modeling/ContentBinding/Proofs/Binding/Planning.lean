import Mathlib.Data.List.DropRight
import ContentBinding.Proofs.Binding.Targets

/-! What each binding contributes to a plan. A plan is put together from the plans of its bindings
alone, so that none of them depends on another; and every binding is accounted for, by its writes or
by the reason why it has none. -/

namespace ContentBinding.Text

/-- There is something, and no white space at either end. -/
structure Trimmed (s : String) : Prop where
  ne_empty : s ≠ ""
  head : ∀ c, s.toList.head? = some c → isBlank c = false
  last : ∀ c, s.toList.getLast? = some c → isBlank c = false

theorem trimmed_trim {s : String} (h : trim s ≠ "") : Trimmed (trim s) := by
  have hcs : (trim s).toList = (trimLeft s.toList).rdropWhile isBlank := String.toList_ofList
  refine ⟨h, fun c hc => ?_, fun c hc => ?_⟩
  · rw [hcs] at hc
    obtain ⟨more, hmore⟩ := List.rdropWhile_prefix isBlank (trimLeft s.toList)
    have hleft : (s.toList.dropWhile isBlank).head? = some c := by
      change (trimLeft s.toList).head? = some c
      rw [← hmore, List.head?_append, hc, Option.some_or]
    have hhead := List.head?_dropWhile_not isBlank s.toList
    rwa [hleft] at hhead
  · rw [hcs] at hc
    have hne : (trimLeft s.toList).rdropWhile isBlank ≠ [] := by
      intro hnil
      rw [hnil] at hc
      exact absurd hc.symm (Option.some_ne_none c)
    rw [List.getLast?_eq_some_getLast hne] at hc
    have hlast := List.rdropWhile_last_not isBlank (trimLeft s.toList) hne
    rw [← Option.some.inj hc]
    simpa using hlast

end ContentBinding.Text

namespace ContentBinding.Binding

open Json (Value)

variable {ε : Type} {document : Value}

/-- The places of a picture that are there, each with what is written to it, in the order of
writing. -/
def ImageSlots.targets (slots : ImageSlots ε) : List (ε × Field) :=
  slots.avif.toList.map (·, .srcset) ++ slots.webp.toList.map (·, .srcset) ++
    slots.img.toList.map (·, .src)

def Scan.singles (s : Scan ε) : List (Scan ε) :=
  s.texts.map (fun b => { texts := [b] }) ++ s.images.map (fun b => { images := [b] }) ++
    s.projects.map fun item => { projects := [item] }

/-- The project list has an entry at the position of the item, and the item has a heading that is
free for it. -/
def ProjectItem.Paired (document : Value) (item : ProjectItem ε) : Prop :=
  ∃ projects, document.get? "projects" = some (.arr projects) ∧ item.index < projects.length ∧
    item.heading ≠ none ∧ item.headingBound = false

namespace Plan

/-- The diagnostics name the binding's path, and the kinds for what is missing and what is null are
told exactly when the path leads nowhere or to null. -/
structure Diagnosed (document : Value) (path : String) (p : Plan ε) : Prop where
  path_eq : ∀ s ∈ p.skips, s.path = path
  missing_iff : (∃ s ∈ p.skips, s.kind = "resolution-miss") ↔ resolve document path = none
  null_iff : (∃ s ∈ p.skips, s.kind = "null-value") ↔ resolve document path = some .null

/-- A text binding comes to one write to its element, or to one diagnostic. -/
structure AccountsForText (document : Value) (b : TextBinding ε) (p : Plan ε) : Prop where
  single : p.skips = [] ∧ p.writes.map (·.element) = [b.element] ∨
    p.writes = [] ∧ p.skips.length = 1
  diagnosed : p.Diagnosed document b.path

/-- An image binding comes to one write to every slot that is there, or to one diagnostic. -/
structure AccountsForImage (document : Value) (b : ImageBinding ε) (p : Plan ε) : Prop where
  single : p.skips = [] ∧ p.writes.map (fun w => (w.element, w.field)) = b.slots.targets ∨
    p.writes = [] ∧ p.skips.length = 1
  diagnosed : p.Diagnosed document b.path

/-- A project item that is paired with an entry comes to one write to its heading, or to one
diagnostic; any other item comes to nothing. -/
structure AccountsForProject (document : Value) (item : ProjectItem ε) (p : Plan ε) : Prop where
  single : item.Paired document → p.writes.length + p.skips.length = 1
  nothing : ¬ item.Paired document → p.writes = [] ∧ p.skips = []
  heading : ∀ w ∈ p.writes, item.heading = some w.element

/-! One binding -/

theorem diagnosed_skip {path : String} {s : Skip} (hpath : s.path = path)
    (hmissing : s.kind = "resolution-miss" ↔ resolve document path = none)
    (hnull : s.kind = "null-value" ↔ resolve document path = some .null) :
    (skip s : Plan ε).Diagnosed document path := by
  refine ⟨fun u hu => ?_, ?_, ?_⟩
  · rw [List.mem_singleton.mp hu, hpath]
  · simpa [skip] using hmissing
  · simpa [skip] using hnull

theorem diagnosed_unfit {path : String} {v : Value} {s : Skip} (hpath : s.path = path)
    (hv : resolve document path = some v) (hnull : v ≠ .null)
    (hkind : s.kind = "empty-value" ∨ s.kind = "structural-mismatch") :
    (skip s : Plan ε).Diagnosed document path := by
  refine diagnosed_skip hpath ?_ ?_
  · rcases hkind with hkind | hkind <;> simp [hkind, hv]
  · rcases hkind with hkind | hkind <;> simp [hkind, hv, hnull]

theorem diagnosed_of_skips {path : String} {v : Value} {p : Plan ε} (hskips : p.skips = [])
    (hv : resolve document path = some v) (hnull : v ≠ .null) : p.Diagnosed document path := by
  refine ⟨?_, ?_, ?_⟩ <;> simp [hskips, hv, hnull]

theorem ofTextValue_cases (element : ε) (path : String) (v : Value) :
    (∃ s, Text.trim s ≠ "" ∧ ofTextValue element path v = write element .text (Text.trim s)) ∨
      ∃ s : Skip, (s.kind = "empty-value" ∨ s.kind = "structural-mismatch") ∧ s.path = path ∧
        ofTextValue element path v = skip s := by
  unfold ofTextValue
  split
  · rename_i s _
    split
    · exact Or.inr ⟨_, Or.inl rfl, rfl, rfl⟩
    · rename_i hne
      refine Or.inl ⟨s, fun h => hne ?_, rfl⟩
      rw [h]
      rfl
  · exact Or.inr ⟨_, Or.inr rfl, rfl, rfl⟩

theorem accountsForText_skip {b : TextBinding ε} {s : Skip}
    (h : (skip s : Plan ε).Diagnosed document b.path) :
    (skip s : Plan ε).AccountsForText document b :=
  ⟨Or.inr ⟨rfl, rfl⟩, h⟩

theorem accountsForText_write {b : TextBinding ε} {v : Value} (field : Field) (value : String)
    (hv : resolve document b.path = some v) (hnull : v ≠ .null) :
    (write b.element field value).AccountsForText document b :=
  ⟨Or.inl ⟨rfl, rfl⟩, diagnosed_of_skips rfl hv hnull⟩

theorem accountsForText_ofText (document : Value) (b : TextBinding ε) :
    (ofText document b).AccountsForText document b := by
  unfold ofText
  split
  · rename_i hnone
    exact accountsForText_skip (diagnosed_skip rfl (by simp [Skip.kind, hnone])
      (by simp [Skip.kind, hnone]))
  · rename_i hnull
    exact accountsForText_skip (diagnosed_skip rfl (by simp [Skip.kind, hnull])
      (by simp [Skip.kind, hnull]))
  · rename_i v hnull hv
    split
    · split
      · exact accountsForText_write .html _ hv hnull
      · exact accountsForText_skip (diagnosed_unfit rfl hv hnull (Or.inr rfl))
    · rcases ofTextValue_cases b.element b.path v with ⟨s, _, heq⟩ | ⟨s, hkind, hpath, heq⟩
      · rw [heq]
        exact accountsForText_write .text _ hv hnull
      · rw [heq]
        exact accountsForText_skip (diagnosed_unfit hpath hv hnull hkind)

theorem map_toSlot (slot : Option ε) (field : Field) (value : String) :
    (toSlot slot field value).map (fun w => (w.element, w.field)) =
      slot.toList.map (·, field) := by
  cases slot <;> rfl

theorem targets_ofReference (slots : ImageSlots ε) (r : ImageReference) :
    (ofReference slots r).writes.map (fun w => (w.element, w.field)) = slots.targets := by
  rw [ofReference, List.map_append, List.map_append, map_toSlot, map_toSlot, map_toSlot,
    ImageSlots.targets]

theorem accountsForImage_skip {b : ImageBinding ε} {s : Skip}
    (h : (skip s : Plan ε).Diagnosed document b.path) :
    (skip s : Plan ε).AccountsForImage document b :=
  ⟨Or.inr ⟨rfl, rfl⟩, h⟩

theorem accountsForImage_ofImage (document : Value) (b : ImageBinding ε) :
    (ofImage document b).AccountsForImage document b := by
  unfold ofImage
  split
  · rename_i hnone
    exact accountsForImage_skip (diagnosed_skip rfl (by simp [Skip.kind, hnone])
      (by simp [Skip.kind, hnone]))
  · rename_i hnull
    exact accountsForImage_skip (diagnosed_skip rfl (by simp [Skip.kind, hnull])
      (by simp [Skip.kind, hnull]))
  · rename_i base hv
    split
    · exact accountsForImage_skip (diagnosed_unfit rfl hv nofun (Or.inl rfl))
    · exact ⟨Or.inl ⟨rfl, targets_ofReference _ _⟩, diagnosed_of_skips rfl hv nofun⟩
  · rename_i v hnull _ hv
    exact accountsForImage_skip (diagnosed_unfit rfl hv hnull (Or.inr rfl))

theorem projectsOf?_eq_some_iff {projects : List Value} :
    projectsOf? document = some projects ↔ document.get? "projects" = some (.arr projects) := by
  unfold projectsOf?
  split
  · rename_i items h
    rw [h]
    simp
  · rename_i h
    exact ⟨nofun, fun heq => absurd heq (h projects)⟩

theorem ofProject_single {projects : List Value} {item : ProjectItem ε}
    (hindex : item.index < projects.length) (hheading : item.heading ≠ none)
    (hbound : item.headingBound = false) :
    (ofProject projects item).writes.length + (ofProject projects item).skips.length = 1 := by
  obtain ⟨heading, hheading⟩ := Option.ne_none_iff_exists'.mp hheading
  unfold ofProject
  rw [List.getElem?_eq_getElem hindex, hheading, hbound]
  dsimp only
  split
  · rfl
  · split
    · rfl
    · rfl
    · rename_i v _ _
      rcases ofTextValue_cases heading (titlePath item.index) v with ⟨s, _, heq⟩ | ⟨s, _, _, heq⟩
      · rw [heq]
        rfl
      · rw [heq]
        rfl
  · rfl

theorem paired_of_ofProject_ne {projects : List Value} {item : ProjectItem ε}
    (hprojects : projectsOf? document = some projects) (h : ofProject projects item ≠ {}) :
    item.Paired document := by
  unfold ofProject at h
  split at h
  · rename_i project heading hproject hheading hbound
    refine ⟨projects, projectsOf?_eq_some_iff.mp hprojects, ?_, ?_, hbound⟩
    · exact (List.getElem?_eq_some_iff.mp hproject).1
    · rw [hheading]
      exact Option.some_ne_none heading
  · exact absurd rfl h

theorem accountsForProject_ofProject {projects : List Value}
    (hprojects : projectsOf? document = some projects) (item : ProjectItem ε) :
    (ofProject projects item).AccountsForProject document item := by
  refine ⟨?_, fun hnot => ?_, fun w hw => (of_mem_writes_ofProject hw).2.1⟩
  · rintro ⟨entries, hentries, hindex, hheading, hbound⟩
    obtain rfl : projects = entries :=
      Option.some.inj (hprojects.symm.trans (projectsOf?_eq_some_iff.mpr hentries))
    exact ofProject_single hindex hheading hbound
  · have hnothing : ofProject projects item = {} := by
      by_contra hne
      exact hnot (paired_of_ofProject_ne hprojects hne)
    rw [hnothing]
    exact ⟨rfl, rfl⟩

/-! A whole scan -/

theorem concat_singleton (p : Plan ε) : concat [p] = p := by
  obtain ⟨writes, skips⟩ := p
  simp [concat, append]

theorem ofScan_of_not_null (s : Scan ε) (h : document.isNull = false) : ofScan s document =
    concat (s.texts.map (ofText document) ++ s.images.map (ofImage document) ++
      ofProjects document s.projects) := by
  rw [ofScan, h, if_neg Bool.false_ne_true]

theorem ofProjects_nil (document : Value) :
    ofProjects document ([] : List (ProjectItem ε)) = [] := by
  unfold ofProjects
  split <;> rfl

theorem ofScan_text (h : document.isNull = false) (b : TextBinding ε) :
    ofScan { texts := [b] } document = ofText document b := by
  rw [ofScan_of_not_null _ h, ofProjects_nil]
  exact concat_singleton _

theorem ofScan_image (h : document.isNull = false) (b : ImageBinding ε) :
    ofScan { images := [b] } document = ofImage document b := by
  rw [ofScan_of_not_null _ h, ofProjects_nil]
  exact concat_singleton _

theorem ofScan_project (h : document.isNull = false) (item : ProjectItem ε) :
    ofScan { projects := [item] } document = concat (ofProjects document [item]) :=
  ofScan_of_not_null _ h

theorem accountsForProject_ofScan (h : document.isNull = false) (item : ProjectItem ε) :
    (ofScan { projects := [item] } document).AccountsForProject document item := by
  rw [ofScan_project h, ofProjects]
  cases hprojects : projectsOf? document with
  | none =>
    refine ⟨?_, fun _ => ⟨rfl, rfl⟩, fun w hw => absurd hw List.not_mem_nil⟩
    rintro ⟨projects, hlist, _⟩
    rw [projectsOf?_eq_some_iff.mpr hlist] at hprojects
    exact absurd hprojects (Option.some_ne_none _)
  | some projects =>
    change (concat [ofProject projects item]).AccountsForProject document item
    rw [concat_singleton]
    exact accountsForProject_ofProject hprojects item

theorem flatMap_ofProjects {α : Type} (f : Plan ε → List α) (items : List (ProjectItem ε)) :
    (ofProjects document items).flatMap f =
      items.flatMap fun item => (ofProjects document [item]).flatMap f := by
  unfold ofProjects
  cases projectsOf? document with
  | none => simp
  | some projects => simp [List.flatMap_map]

/-- What is collected from the plan of a scan is collected from its bindings one by one. -/
theorem collect_ofScan {α : Type} (f : Plan ε → List α)
    (hf : ∀ ps, f (concat ps) = ps.flatMap f) (h : document.isNull = false) (s : Scan ε) :
    f (ofScan s document) = s.singles.flatMap fun t => f (ofScan t document) := by
  rw [ofScan_of_not_null s h, hf, Scan.singles]
  -- the list of projects is looked up once for all items, and again for each alone
  simp only [List.flatMap_append, List.flatMap_map, ofScan_text h, ofScan_image h,
    ofScan_project h, hf]
  rw [flatMap_ofProjects]

/-! Texts -/

theorem trimmed_of_mem_ofTextValue {element : ε} {path : String} {v : Value} {w : Write ε}
    (h : w ∈ (ofTextValue element path v).writes) : Text.Trimmed w.value := by
  rcases ofTextValue_cases element path v with ⟨s, hne, heq⟩ | ⟨s, _, _, heq⟩
  · rw [heq] at h
    rw [List.mem_singleton.mp h]
    exact Text.trimmed_trim hne
  · rw [heq] at h
    exact absurd h List.not_mem_nil

theorem trimmed_of_mem_ofText {b : TextBinding ε} {w : Write ε}
    (h : w ∈ (ofText document b).writes) (hfield : w.field = .text) : Text.Trimmed w.value := by
  unfold ofText at h
  split at h
  · exact absurd h List.not_mem_nil
  · exact absurd h List.not_mem_nil
  · split at h
    · split at h
      · rw [List.mem_singleton.mp h] at hfield
        exact Field.noConfusion hfield
      · exact absurd h List.not_mem_nil
    · exact trimmed_of_mem_ofTextValue h

theorem trimmed_of_mem_ofProject {projects : List Value} {item : ProjectItem ε} {w : Write ε}
    (h : w ∈ (ofProject projects item).writes) : Text.Trimmed w.value := by
  unfold ofProject at h
  split at h
  · split at h
    · exact absurd h List.not_mem_nil
    · split at h
      · exact absurd h List.not_mem_nil
      · exact absurd h List.not_mem_nil
      · exact trimmed_of_mem_ofTextValue h
    · exact absurd h List.not_mem_nil
  · exact absurd h List.not_mem_nil

theorem trimmed_of_mem_ofScan {s : Scan ε} {w : Write ε} (h : w ∈ (ofScan s document).writes)
    (hfield : w.field = .text) : Text.Trimmed w.value := by
  rw [writes_ofScan, List.mem_append, List.mem_append] at h
  rcases h with (h | h) | h
  · obtain ⟨b, _, hb⟩ := List.mem_flatMap.mp h
    exact trimmed_of_mem_ofText hb hfield
  · obtain ⟨b, _, hb⟩ := List.mem_flatMap.mp h
    rcases of_mem_writes_ofImage hb with ⟨himage, _⟩ | ⟨himage, _⟩
    · rw [hfield] at himage
      exact Field.noConfusion himage
    · rw [hfield] at himage
      exact Field.noConfusion himage
  · obtain ⟨projects, _, item, _, hw⟩ := mem_projectWrites h
    exact trimmed_of_mem_ofProject hw

/-- The plan of a scan is what its bindings come to alone, one after the other; each of them is
accounted for, and no text is written with white space around it. -/
theorem ofScan_accounts (s : Scan ε) {document : Value} (hdocument : document.isNull = false) :
    (ofScan s document).writes = (s.singles.flatMap fun t => (ofScan t document).writes) ∧
    (ofScan s document).skips = (s.singles.flatMap fun t => (ofScan t document).skips) ∧
    (∀ b : TextBinding ε, (ofScan { texts := [b] } document).AccountsForText document b) ∧
    (∀ b : ImageBinding ε, (ofScan { images := [b] } document).AccountsForImage document b) ∧
    (∀ item : ProjectItem ε,
      (ofScan { projects := [item] } document).AccountsForProject document item) ∧
    ∀ w ∈ (ofScan s document).writes, w.field = .text → Text.Trimmed w.value := by
  refine ⟨collect_ofScan _ writes_concat hdocument s, collect_ofScan _ skips_concat hdocument s,
    fun b => ?_, fun b => ?_, accountsForProject_ofScan hdocument,
    fun w hw => trimmed_of_mem_ofScan hw⟩
  · rw [ofScan_text hdocument]
    exact accountsForText_ofText document b
  · rw [ofScan_image hdocument]
    exact accountsForImage_ofImage document b

end Plan
end ContentBinding.Binding
