import ContentBinding.Proofs.Binding.Effects
import ContentBinding.Proofs.Binding.Targets

/-! Which writes of a plan are seen on the page afterwards: those whose element is not inside an
element that gets new content, as far as no later write to the same place says something else. -/

namespace ContentBinding.Binding

open Json (Value)
open Markup

/-- The element of the write is on the page and has what it was to get. -/
def Write.Visible (p : Page) (w : Write NodeId) : Prop :=
  p.Attached w.element ∧ w.effect.HoldsAt p w.element

section Visible

variable {p : Page} {ws : List (Write NodeId)} {w u : Write NodeId}

theorem visible_apply_iff (hp : p.Linked)
    (hws : ∀ u ∈ ws, p.Attached u.element ∧ p.isElement u.element) (hw : w ∈ ws) :
    w.Visible (apply p ws) ↔
      (∀ u ∈ ws, u.effect.slot = none → ¬ p.Above u.element w.element) ∧
      ∀ u, lastTo? ws w.element w.effect.slot = some u → u.effect = w.effect := by
  have h := written_apply hp fun u hu => (hws u hu).2
  obtain ⟨hattached, helement⟩ := hws w hw
  rw [Write.Visible, h.attached_iff hp (Page.lt_size_of_isElement helement),
    h.holdsAt_iff helement hw]
  refine and_congr_left fun _ => ?_
  constructor
  · rintro ⟨_, hnone⟩ u hu hslot
    exact hnone u.element ⟨u, hu, rfl, hslot⟩
  · intro hnone
    refine ⟨hattached, ?_⟩
    rintro b ⟨u, hu, rfl, hslot⟩
    exact hnone u hu hslot

variable {document : Value}

theorem eq_of_mem_writes_ofText {b : TextBinding NodeId} (hw : w ∈ (Plan.ofText document b).writes)
    (hu : u ∈ (Plan.ofText document b).writes) : u = w := by
  rcases Plan.writes_ofText document b with hnil | ⟨value, hone⟩ | ⟨members, _, _, hone⟩
  · rw [hnil] at hw
    exact absurd hw List.not_mem_nil
  · rw [hone, List.mem_singleton] at hw hu
    rw [hw, hu]
  · rw [hone, List.mem_singleton] at hw hu
    rw [hw, hu]

theorem slot_of_mem_textWrites (hp : p.Linked) (h : w ∈ Plan.textWrites (scan p) document) :
    w.effect.slot = none := by
  obtain ⟨_, _, hw⟩ := of_mem_textWrites hp h
  rcases Plan.writes_ofText document ⟨w.element, Discovery.markerPath p textMarker w.element⟩ with
    hnil | ⟨value, hone⟩ | ⟨members, _, _, hone⟩
  · rw [hnil] at hw
    exact absurd hw List.not_mem_nil
  · rw [hone, List.mem_singleton] at hw
    rw [hw]
    rfl
  · rw [hone, List.mem_singleton] at hw
    rw [hw]
    rfl

theorem slot_of_mem_pictureWrites (hp : p.Linked) (h : w ∈ Plan.pictureWrites (scan p) document) :
    w.effect.slot ≠ none := by
  obtain ⟨_, _, hfield⟩ := of_mem_pictureWrites hp h
  unfold Write.effect
  rcases hfield with hfield | hfield <;> rw [hfield] <;> exact Option.some_ne_none _

theorem eq_of_mem_textWrites (hp : p.Linked) (hw : w ∈ Plan.textWrites (scan p) document)
    (hu : u ∈ (Plan.ofScan (scan p) document).writes) (helement : u.element = w.element)
    (hslot : u.effect.slot = none) : u = w := by
  obtain ⟨_, hmarker, hwrite⟩ := of_mem_textWrites hp hw
  rw [Plan.writes_ofScan, List.mem_append, List.mem_append] at hu
  rcases hu with (hu | hu) | hu
  · obtain ⟨_, _, huwrite⟩ := of_mem_textWrites hp hu
    rw [helement] at huwrite
    exact eq_of_mem_writes_ofText hwrite huwrite
  · exact absurd hslot (slot_of_mem_pictureWrites hp hu)
  · obtain ⟨_, _, _, hbound⟩ := of_mem_projectWrites hp hu
    rw [helement] at hbound
    exact absurd hmarker hbound

theorem effect_lastTo?_of_mem_textWrites (hp : p.Linked)
    (hw : w ∈ Plan.textWrites (scan p) document)
    (hu : lastTo? (Plan.ofScan (scan p) document).writes w.element w.effect.slot = some u) :
    u.effect = w.effect := by
  obtain ⟨hmem, helement, hslot⟩ := mem_of_lastTo? hu
  rw [slot_of_mem_textWrites hp hw] at hslot
  rw [eq_of_mem_textWrites hp hw hmem helement hslot]

end Visible

/-- A planned write is visible afterwards exactly when the plan replaces the content of no element
above its own, and the last write to the same place says the same. The writes of text bindings
always meet the second condition. -/
theorem visible_inject_iff {p : Page} (hp : p.Linked) (document : Value) {w : Write NodeId}
    (hw : w ∈ (inject p document).2.writes) :
    (w.Visible (inject p document).1 ↔
      (∀ u ∈ (inject p document).2.writes, u.effect.slot = none → ¬ p.Above u.element w.element) ∧
      ∀ u, lastTo? (inject p document).2.writes w.element w.effect.slot = some u →
        u.effect = w.effect) ∧
    (w ∈ Plan.textWrites (scan p) document →
      ∀ u, lastTo? (inject p document).2.writes w.element w.effect.slot = some u →
        u.effect = w.effect) :=
  ⟨visible_apply_iff hp (fun _ hu => attached_of_mem_writes hp hu) hw,
    fun htext _ hu => effect_lastTo?_of_mem_textWrites hp htext hu⟩

/-! Two ways to lose a write -/

def nestedMarkers : Page :=
  .ofTrees [.element { name := "p", attrs := [("data-content", "a")] }
    [.element { name := "b", attrs := [("data-content", "b")] } [.text "x"]]]

def nestedDocument : Value :=
  .obj [("a", .str "A"), ("b", .str "B")]

/-- A project item inside a project item: they have one heading. -/
def nestedItems : Page :=
  .ofTrees [.element { name := "div", attrs := [("class", "project-item")] }
    [.element { name := "div", attrs := [("class", "project-item")] }
      [.element { name := "h4" } [.text "x"]]]]

def twoProjects : Value :=
  .obj [("projects", .arr [.obj [("title", .str "A")], .obj [("title", .str "B")]])]

theorem visible_inject_iff_nestedMarkers :
    nestedMarkers.Linked ∧
    (⟨1, .text, "A"⟩ : Write NodeId) ∈ (inject nestedMarkers nestedDocument).2.writes ∧
    (⟨1, .text, "A"⟩ : Write NodeId).Visible (inject nestedMarkers nestedDocument).1 := by
  have hp : nestedMarkers.Linked := Page.linked_ofTrees _
  have hw : (⟨1, .text, "A"⟩ : Write NodeId) ∈ (inject nestedMarkers nestedDocument).2.writes := by
    decide
  obtain ⟨hiff, htext⟩ := visible_inject_iff hp nestedDocument hw
  refine ⟨hp, hw, hiff.mpr ⟨fun u hu _ habove => ?_, htext (by decide)⟩⟩
  have hparent : nestedMarkers.parent? 1 = some Page.root := by decide
  have hne : ∀ u ∈ (inject nestedMarkers nestedDocument).2.writes, u.element ≠ Page.root := by
    decide
  rcases habove.above_parent hparent with hroot | hroot
  · exact hne u hu hroot
  · exact hp.not_above_root hroot

/-- A write inside an element that gets a text, and a write to a heading that two items share. -/
theorem write_lost_of_nested :
    (nestedMarkers.Linked ∧ ¬ ∀ w ∈ (inject nestedMarkers nestedDocument).2.writes,
      w.Visible (inject nestedMarkers nestedDocument).1) ∧
    (nestedItems.Linked ∧ ¬ ∀ w ∈ (inject nestedItems twoProjects).2.writes,
      w.Visible (inject nestedItems twoProjects).1) := by
  refine ⟨⟨Page.linked_ofTrees _, fun h => ?_⟩, ⟨Page.linked_ofTrees _, fun h => ?_⟩⟩
  · have hw := h ⟨2, .text, "B"⟩ (by decide)
    obtain ⟨m, hm, _⟩ := hw.1.parent
    have hnone : (inject nestedMarkers nestedDocument).1.parent? 2 = none := by decide
    rw [hnone] at hm
    exact Option.some_ne_none _ hm.symm
  · have hfirst := (h ⟨3, .text, "A"⟩ (by decide)).2
    have hsecond := (h ⟨3, .text, "B"⟩ (by decide)).2
    have heffect := Effect.eq_of_holdsAt hfirst hsecond rfl
    simp [Write.effect] at heffect

end ContentBinding.Binding
