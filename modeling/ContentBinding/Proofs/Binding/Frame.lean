import ContentBinding.Proofs.Binding.Visibility

/-! What writes leave alone. A list of writes changes the children of the elements whose content it
replaces and the attributes that it sets; everything else, on the page and off it, stays as it was,
and what comes of it is a tree again. -/

namespace ContentBinding.Binding

open Markup

def Sets (ws : List (Write NodeId)) (n : NodeId) (key : String) : Prop :=
  ∃ w ∈ ws, w.element = n ∧ w.effect.slot = some key

section Attributes

variable {ws : List (Write NodeId)} {w : Write NodeId} {n : NodeId} {key : String} {e : Element}

theorem sets_append_singleton :
    Sets (ws ++ [w]) n key ↔ Sets ws n key ∨ (w.element = n ∧ w.effect.slot = some key) := by
  simp [Sets, or_and_right, exists_or]

theorem foldl_attributed_of_not_sets (h : ∀ key, ¬ Sets ws n key) :
    ws.foldl (Write.attributed n) e = e := by
  induction ws using List.reverseRecOn with
  | nil => rfl
  | append_singleton ws w ih =>
    have hboth : ∀ key, ¬ Sets ws n key ∧ ¬ (w.element = n ∧ w.effect.slot = some key) :=
      fun key => not_or.mp (mt sets_append_singleton.mpr (h key))
    rw [List.foldl_concat, ih fun key => (hboth key).1]
    cases heffect : w.effect with
    | content ts => exact Write.attributed_of_content e heffect
    | attr name value =>
      refine Write.attributed_of_ne e fun hn => (hboth name).2 ⟨hn, ?_⟩
      rw [heffect]
      rfl

theorem lastTo?_of_not_sets (h : ¬ Sets ws n key) : lastTo? ws n (some key) = none := by
  refine Option.eq_none_iff_forall_ne_some.mpr fun w hw => h ?_
  obtain ⟨hmem, hn, hslot⟩ := mem_of_lastTo? hw
  exact ⟨w, hmem, hn, hslot⟩

end Attributes

/-- `q` is a page as good as `p` and differs from it only in what the writes are to. -/
structure Confined (p : Page) (ws : List (Write NodeId)) (q : Page) : Prop where
  linked : q.Linked
  parent_unique : ∀ a b c, c ∈ q.children a → c ∈ q.children b → a = b
  /-- Texts, comments and doctypes stay. -/
  content : ∀ n < p.size, p.isElement n = false → q.content? n = p.content? n
  children : ∀ n < p.size, ¬ Replaces ws n → q.children n = p.children n
  /-- A node is taken off its parent only with all that the parent held. -/
  parent : ∀ n < p.size, ∀ a, q.parent? n = some a ↔ p.parent? n = some a ∧ ¬ Replaces ws a
  /-- New nodes stand in elements that got new content, or in new nodes. -/
  new : ∀ n, p.size ≤ n → ∀ a < p.size, q.parent? n = some a → Replaces ws a
  element : ∀ n, p.isElement n → (∀ key, ¬ Sets ws n key) → q.element? n = p.element? n
  attrs : ∀ n e, p.element? n = some e → ∃ e', q.element? n = some e' ∧ e'.name = e.name ∧
    e'.dialect = e.dialect ∧ ∀ key, ¬ Sets ws n key → e'.entries key = e.entries key

/-- Writes to elements of a page, in any number and order and wherever the elements stand, change
nothing but what they are to, and keep the page a tree. -/
theorem confined_apply {p : Page} (hp : p.Linked) {ws : List (Write NodeId)}
    (hws : ∀ w ∈ ws, p.isElement w.element) : Confined p ws (apply p ws) := by
  have h := written_apply hp hws
  refine
    { linked := h.linked
      parent_unique := fun a b c ha hb => ?parent_unique
      content := h.content
      children := h.children
      parent := h.parent
      new := fun n hn a ha hparent => ?new
      element := fun n hn hsets => ?element
      attrs := fun n e he => ?attrs }
  case parent_unique =>
    have hparent := h.linked.parent_of_mem ha
    rw [h.linked.parent_of_mem hb] at hparent
    exact (Option.some.inj hparent).symm
  case new =>
    -- a parent whose content is not replaced keeps its children, and they were there before
    by_contra hnot
    have hmem := h.linked.mem_of_parent hparent
    rw [h.children a ha hnot] at hmem
    exact absurd (Page.lt_size_of_parent? (hp.parent_of_mem hmem)) (Nat.not_lt.mpr hn)
  case element =>
    obtain ⟨e, he⟩ := Option.isSome_iff_exists.mp hn
    rw [h.element n (Page.lt_size_of_isElement hn), he, Option.map_some,
      foldl_attributed_of_not_sets hsets]
  case attrs =>
    have hn := Page.lt_size_of_content? (Page.content?_of_element? he)
    obtain ⟨hname, hdialect⟩ := name_foldl_attributed (n := n) ws e
    refine ⟨ws.foldl (Write.attributed n) e, ?_, hname, hdialect, fun key hkey => ?_⟩
    · rw [h.element n hn, he, Option.map_some]
    · rw [entries_foldl_attributed, lastTo?_of_not_sets hkey]

/-- Writes to an element and to one inside it, which the first of them takes off the page. -/
def crossingWrites : List (Write NodeId) :=
  [⟨1, .text, "A"⟩, ⟨2, .html, "<i>x</i>"⟩, ⟨2, .src, "x.webp"⟩, ⟨1, .text, "B"⟩]

theorem confined_apply_crossingWrites : nestedMarkers.Linked ∧
    (∀ w ∈ crossingWrites, nestedMarkers.isElement w.element) ∧
    Confined nestedMarkers crossingWrites (apply nestedMarkers crossingWrites) := by
  have hp : nestedMarkers.Linked := Page.linked_ofTrees _
  have hws : ∀ w ∈ crossingWrites, nestedMarkers.isElement w.element := by decide
  exact ⟨hp, hws, confined_apply hp hws⟩

end ContentBinding.Binding
