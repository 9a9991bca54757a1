import ContentBinding.Proofs.Markup.Linked
import ContentBinding.Proofs.Text.Splitting

/-! Where the writes of a plan go: text bindings to the elements that carry the marker, images to
the slots of their picture, projects to headings that carry no marker. -/

namespace ContentBinding.Binding

open Json (Value)
open Markup

/-! The parts of a plan -/

namespace Plan

variable {ε : Type}

def textWrites (s : Scan ε) (document : Value) : List (Write ε) :=
  s.texts.flatMap fun b => (ofText document b).writes

def pictureWrites (s : Scan ε) (document : Value) : List (Write ε) :=
  s.images.flatMap fun b => (ofImage document b).writes

def projectWrites (s : Scan ε) (document : Value) : List (Write ε) :=
  (ofProjects document s.projects).flatMap (·.writes)

theorem concat_eq (ps : List (Plan ε)) :
    concat ps = ⟨ps.flatMap (·.writes), ps.flatMap (·.skips)⟩ := by
  induction ps with
  | nil => rfl
  | cons p ps ih =>
    rw [List.flatMap_cons, List.flatMap_cons, concat, List.foldr_cons, ← concat, ih]
    rfl

theorem writes_concat (ps : List (Plan ε)) : (concat ps).writes = ps.flatMap (·.writes) := by
  rw [concat_eq]

theorem skips_concat (ps : List (Plan ε)) : (concat ps).skips = ps.flatMap (·.skips) := by
  rw [concat_eq]

theorem resolve_null (path : String) : resolve .null path = none := by
  unfold resolve Path.pieces
  cases h : Text.splitOn (· = '.') path.toList with
  | nil => exact absurd h (Text.splitOn_ne_nil _ _)
  | cons piece rest =>
    have hpiece : Path.followPiece .null piece = none := by
      unfold Path.followPiece
      split
      · rfl
      · cases Path.stepOf piece <;> rfl
    rw [List.foldlM_cons, hpiece]
    rfl

theorem writes_ofScan (s : Scan ε) (document : Value) : (ofScan s document).writes =
    textWrites s document ++ pictureWrites s document ++ projectWrites s document := by
  unfold ofScan
  split
  · rename_i hnull
    obtain rfl : document = .null := by
      cases document <;> first | rfl | exact Bool.noConfusion hnull
    have htext : textWrites s .null = [] := by
      refine List.flatMap_eq_nil_iff.mpr fun b _ => ?_
      rw [ofText, resolve_null]
      rfl
    have himage : pictureWrites s .null = [] := by
      refine List.flatMap_eq_nil_iff.mpr fun b _ => ?_
      rw [ofImage, resolve_null]
      rfl
    rw [htext, himage]
    rfl
  · rw [writes_concat, List.flatMap_append, List.flatMap_append, List.flatMap_map, List.flatMap_map]
    rfl

theorem writes_ofTextValue (element : ε) (path : String) (v : Value) :
    (ofTextValue element path v).writes = [] ∨
      ∃ value, (ofTextValue element path v).writes = [⟨element, .text, value⟩] := by
  unfold ofTextValue
  split
  · split
    · exact Or.inl rfl
    · exact Or.inr ⟨_, rfl⟩
  · exact Or.inl rfl

theorem writes_ofText (document : Value) (b : TextBinding ε) :
    (ofText document b).writes = [] ∨
      (∃ value, (ofText document b).writes = [⟨b.element, .text, value⟩]) ∨
      (∃ members, b.path = contactPath ∧ resolve document b.path = some (.obj members) ∧
        (ofText document b).writes = [⟨b.element, .html, contactMarkup members⟩]) := by
  unfold ofText
  split
  · exact Or.inl rfl
  · exact Or.inl rfl
  · rename_i v hnull hv
    split
    · rename_i hpath
      split
      · exact Or.inr (Or.inr ⟨_, hpath, hv, rfl⟩)
      · exact Or.inl rfl
    · exact (writes_ofTextValue _ _ _).imp_right Or.inl

theorem element_of_mem_ofText {document : Value} {b : TextBinding ε} {w : Write ε}
    (h : w ∈ (ofText document b).writes) : w.element = b.element := by
  rcases writes_ofText document b with hnil | ⟨value, hone⟩ | ⟨members, _, _, hone⟩
  · rw [hnil] at h
    exact absurd h List.not_mem_nil
  · rw [hone, List.mem_singleton] at h
    rw [h]
  · rw [hone, List.mem_singleton] at h
    rw [h]

theorem mem_toSlot {slot : Option ε} {field : Field} {value : String} {w : Write ε} :
    w ∈ toSlot slot field value ↔ ∃ e, slot = some e ∧ w = ⟨e, field, value⟩ := by
  cases slot <;> simp [toSlot]

theorem of_mem_writes_ofImage {document : Value} {b : ImageBinding ε} {w : Write ε}
    (h : w ∈ (ofImage document b).writes) :
    (w.field = .srcset ∧ (b.slots.avif = some w.element ∨ b.slots.webp = some w.element)) ∨
      (w.field = .src ∧ b.slots.img = some w.element) := by
  unfold ofImage at h
  split at h
  · exact absurd h List.not_mem_nil
  · exact absurd h List.not_mem_nil
  · split at h
    · exact absurd h List.not_mem_nil
    · simp only [ofReference, List.mem_append, mem_toSlot] at h
      rcases h with (⟨e, he, rfl⟩ | ⟨e, he, rfl⟩) | ⟨e, he, rfl⟩
      · exact Or.inl ⟨rfl, Or.inl he⟩
      · exact Or.inl ⟨rfl, Or.inr he⟩
      · exact Or.inr ⟨rfl, he⟩
  · exact absurd h List.not_mem_nil

theorem of_mem_writes_ofProject {projects : List Value} {item : ProjectItem ε} {w : Write ε}
    (h : w ∈ (ofProject projects item).writes) :
    w.field = .text ∧ item.heading = some w.element ∧ item.headingBound = false := by
  unfold ofProject at h
  split at h
  · rename_i project heading hproject hheading hbound
    split at h
    · exact absurd h List.not_mem_nil
    · split at h
      · exact absurd h List.not_mem_nil
      · exact absurd h List.not_mem_nil
      · rename_i v _ _
        rcases writes_ofTextValue heading (titlePath item.index) v with hnil | ⟨value, hone⟩
        · rw [hnil] at h
          exact absurd h List.not_mem_nil
        · rw [hone, List.mem_singleton] at h
          subst h
          exact ⟨rfl, hheading, hbound⟩
    · exact absurd h List.not_mem_nil
  · exact absurd h List.not_mem_nil

theorem mem_projectWrites {s : Scan ε} {document : Value} {w : Write ε}
    (h : w ∈ projectWrites s document) :
    ∃ projects, projectsOf? document = some projects ∧
      ∃ item ∈ s.projects, w ∈ (ofProject projects item).writes := by
  unfold projectWrites ofProjects at h
  split at h
  · rename_i projects hprojects
    rw [List.flatMap_map, List.mem_flatMap] at h
    exact ⟨projects, hprojects, h⟩
  · exact absurd h List.not_mem_nil

end Plan

/-! The scan of a page -/

section Scan

variable {p : Page} {n : NodeId}

theorem isElement_of_hasMarker {marker : String} (h : Discovery.hasMarker p marker n) :
    p.isElement n := by
  unfold Discovery.hasMarker at h
  split at h
  · rename_i e he
    rw [Page.isElement, he]
    rfl
  · exact Bool.noConfusion h

theorem isElement_of_isNamed {name : String} (h : Discovery.isNamed p name n) : p.isElement n := by
  unfold Discovery.isNamed at h
  split at h
  · rename_i e he
    rw [Page.isElement, he]
    rfl
  · exact Bool.noConfusion h

theorem isElement_of_isSource {type : String} (h : Discovery.isSource p type n) :
    p.isElement n := by
  unfold Discovery.isSource at h
  split at h
  · rename_i e he
    rw [Page.isElement, he]
    rfl
  · exact Bool.noConfusion h

theorem of_firstBelow? (hp : p.Linked) {test : NodeId → Bool} {m : NodeId}
    (h : Discovery.firstBelow? p n test = some m) : p.Above n m ∧ test m :=
  ⟨hp.mem_descendants.mp (List.mem_of_find?_eq_some h), List.find?_some h⟩

theorem mem_texts (hp : p.Linked) {b : TextBinding NodeId} : b ∈ (scan p).texts ↔
    p.Attached b.element ∧ Discovery.hasMarker p textMarker b.element ∧
      b.path = Discovery.markerPath p textMarker b.element := by
  change b ∈ Discovery.textBindings p ↔ _
  unfold Discovery.textBindings
  rw [List.mem_map]
  constructor
  · rintro ⟨n, hn, rfl⟩
    rw [List.mem_filter, hp.mem_elements] at hn
    exact ⟨hn.1.1, hn.2, rfl⟩
  · rintro ⟨hattached, hmarker, hpath⟩
    refine ⟨b.element, ?_, ?_⟩
    · rw [List.mem_filter, hp.mem_elements]
      exact ⟨⟨hattached, isElement_of_hasMarker hmarker⟩, hmarker⟩
    · rw [← hpath]

theorem of_mem_images (hp : p.Linked) {b : ImageBinding NodeId} (h : b ∈ (scan p).images) :
    p.Attached b.element ∧ b = ⟨b.element, Discovery.markerPath p imageMarker b.element,
      Discovery.slotsOf p b.element⟩ := by
  change b ∈ Discovery.imageBindings p at h
  unfold Discovery.imageBindings at h
  obtain ⟨n, hn, rfl⟩ := List.mem_map.mp h
  rw [List.mem_filter, hp.mem_elements] at hn
  exact ⟨hn.1.1, rfl⟩

theorem of_mem_projects (hp : p.Linked) {item : ProjectItem NodeId} (h : item ∈ (scan p).projects) :
    p.Attached item.element ∧ item = Discovery.projectItem p item.index item.element := by
  change item ∈ Discovery.projectItems p at h
  unfold Discovery.projectItems at h
  obtain ⟨i, hi, rfl⟩ := List.mem_mapIdx.mp h
  have hmem := List.getElem_mem hi
  rw [List.mem_filter, hp.mem_elements] at hmem
  exact ⟨hmem.1.1, rfl⟩

end Scan

/-! Targets on a page -/

section Targets

variable {p : Page} {document : Value} {w : Write NodeId}

theorem isElement_of_mem_textWrites (h : w ∈ Plan.textWrites (scan p) document) :
    p.isElement w.element := by
  obtain ⟨b, hb, hw⟩ := List.mem_flatMap.mp h
  obtain ⟨n, hn, rfl⟩ := List.mem_map.mp (show b ∈ Discovery.textBindings p from hb)
  rw [Plan.element_of_mem_ofText hw]
  exact isElement_of_hasMarker (List.mem_filter.mp hn).2

theorem isElement_of_mem_pictureWrites (h : w ∈ Plan.pictureWrites (scan p) document) :
    p.isElement w.element := by
  obtain ⟨b, hb, hw⟩ := List.mem_flatMap.mp h
  obtain ⟨n, -, rfl⟩ := List.mem_map.mp (show b ∈ Discovery.imageBindings p from hb)
  rcases Plan.of_mem_writes_ofImage hw with ⟨-, hslot | hslot⟩ | ⟨-, hslot⟩
  · exact isElement_of_isSource (List.find?_some hslot)
  · exact isElement_of_isSource (List.find?_some hslot)
  · exact isElement_of_isNamed (List.find?_some hslot)

theorem isElement_of_mem_projectWrites (h : w ∈ Plan.projectWrites (scan p) document) :
    p.isElement w.element := by
  obtain ⟨projects, -, item, hitem, hw⟩ := Plan.mem_projectWrites h
  obtain ⟨i, hi, rfl⟩ := List.mem_mapIdx.mp (show item ∈ Discovery.projectItems p from hitem)
  obtain ⟨-, hheading, -⟩ := Plan.of_mem_writes_ofProject hw
  exact isElement_of_isNamed (List.find?_some hheading)

/-- Every write of a plan goes to an element, whatever the links of the page are. -/
theorem isElement_of_mem_writes (h : w ∈ (Plan.ofScan (scan p) document).writes) :
    p.isElement w.element := by
  rw [Plan.writes_ofScan, List.mem_append, List.mem_append] at h
  rcases h with (h | h) | h
  · exact isElement_of_mem_textWrites h
  · exact isElement_of_mem_pictureWrites h
  · exact isElement_of_mem_projectWrites h

theorem of_mem_textWrites (hp : p.Linked) (h : w ∈ Plan.textWrites (scan p) document) :
    p.Attached w.element ∧ Discovery.hasMarker p textMarker w.element ∧
      w ∈ (Plan.ofText document ⟨w.element, Discovery.markerPath p textMarker w.element⟩).writes := by
  obtain ⟨b, hb, hw⟩ := List.mem_flatMap.mp h
  obtain ⟨hattached, hmarker, hpath⟩ := (mem_texts hp).mp hb
  rw [Plan.element_of_mem_ofText hw, ← hpath]
  exact ⟨hattached, hmarker, hw⟩

theorem of_mem_pictureWrites (hp : p.Linked) (h : w ∈ Plan.pictureWrites (scan p) document) :
    p.Attached w.element ∧ p.isElement w.element ∧ (w.field = .srcset ∨ w.field = .src) := by
  obtain ⟨b, hb, hw⟩ := List.mem_flatMap.mp h
  obtain ⟨hattached, hslots⟩ := of_mem_images hp hb
  rw [hslots] at hw
  rcases Plan.of_mem_writes_ofImage hw with ⟨hfield, hslot | hslot⟩ | ⟨hfield, hslot⟩
  · obtain ⟨habove, hsource⟩ := of_firstBelow? hp hslot
    exact ⟨hattached.trans habove, isElement_of_isSource hsource, Or.inl hfield⟩
  · obtain ⟨habove, hsource⟩ := of_firstBelow? hp hslot
    exact ⟨hattached.trans habove, isElement_of_isSource hsource, Or.inl hfield⟩
  · obtain ⟨habove, hnamed⟩ := of_firstBelow? hp hslot
    exact ⟨hattached.trans habove, isElement_of_isNamed hnamed, Or.inr hfield⟩

theorem of_mem_projectWrites (hp : p.Linked) (h : w ∈ Plan.projectWrites (scan p) document) :
    p.Attached w.element ∧ p.isElement w.element ∧ w.field = .text ∧
      ¬ Discovery.hasMarker p textMarker w.element := by
  obtain ⟨projects, _, item, hitem, hw⟩ := Plan.mem_projectWrites h
  obtain ⟨hattached, heq⟩ := of_mem_projects hp hitem
  obtain ⟨hfield, hheading, hbound⟩ := Plan.of_mem_writes_ofProject hw
  rw [heq] at hheading hbound
  obtain ⟨habove, hnamed⟩ := of_firstBelow? hp hheading
  refine ⟨hattached.trans habove, isElement_of_isNamed hnamed, hfield, ?_⟩
  change Option.any _ (Discovery.firstBelow? _ _ _) = false at hbound
  rw [show Discovery.firstBelow? p item.element (Discovery.isNamed p headingName) =
    some w.element from hheading] at hbound
  simpa using hbound

theorem attached_of_mem_writes (hp : p.Linked) (h : w ∈ (Plan.ofScan (scan p) document).writes) :
    p.Attached w.element ∧ p.isElement w.element := by
  refine ⟨?_, isElement_of_mem_writes h⟩
  rw [Plan.writes_ofScan, List.mem_append, List.mem_append] at h
  rcases h with (h | h) | h
  · exact (of_mem_textWrites hp h).1
  · exact (of_mem_pictureWrites hp h).1
  · exact (of_mem_projectWrites hp h).1

end Targets
end ContentBinding.Binding
