import ContentBinding.Proofs.Binding.Frame

/-! When a list of writes leaves the tree of a page as it is: exactly when every write that is
visible afterwards was visible before. -/

namespace ContentBinding.Binding

open Markup

/-! Attributes that have their value already -/

def AttrsPresent (ws : List (Write NodeId)) (n : NodeId) (e : Element) : Prop :=
  ∀ w ∈ ws, w.element = n → ∀ name value, w.effect = .attr name value → e.attr? name ≠ none

theorem names_foldl {ws : List (Write NodeId)} {n : NodeId} {e : Element}
    (h : AttrsPresent ws n e) :
    (ws.foldl (Write.attributed n) e).attrs.map (·.1) = e.attrs.map (·.1) ∧
      ∀ name, e.attr? name ≠ none → (ws.foldl (Write.attributed n) e).attr? name ≠ none := by
  induction ws using List.reverseRecOn with
  | nil => exact ⟨rfl, fun _ hname => hname⟩
  | append_singleton ws u ih =>
    obtain ⟨hnames, hpresent⟩ := ih fun w hw => h w (List.mem_append_left _ hw)
    rw [List.foldl_concat]
    by_cases hn : u.element = n
    · cases heffect : u.effect with
      | content ts =>
        rw [Write.attributed_of_content _ heffect]
        exact ⟨hnames, hpresent⟩
      | attr key value =>
        have hu := h u (List.mem_append_right _ (List.mem_singleton_self u)) hn key value heffect
        rw [Write.attributed_of_attr _ hn heffect]
        refine ⟨(Element.names_setAttr _ _ _ (hpresent key hu)).trans hnames, fun name hname => ?_⟩
        rw [Element.attr?_setAttr]
        split
        · exact Option.some_ne_none _
        · exact hpresent name hname
    · rw [Write.attributed_of_ne _ hn]
      exact ⟨hnames, hpresent⟩

theorem foldl_attributed_eq {ws : List (Write NodeId)} {n : NodeId} {e : Element}
    (hdistinct : (∃ w ∈ ws, w.element = n ∧ w.effect.slot ≠ none) → e.NamesDistinct)
    (h : ∀ name u, lastTo? ws n (some name) = some u →
      ∀ value, u.effect = .attr name value → e.attr? name = some value) :
    ws.foldl (Write.attributed n) e = e := by
  have hlookup : ∀ name, (ws.foldl (Write.attributed n) e).attr? name = e.attr? name := by
    intro name
    cases hu : lastTo? ws n (some name) with
    | none => exact attr?_foldl_of_none e hu
    | some u =>
      obtain ⟨value, heffect, hvalue⟩ := attr?_foldl_of_lastTo? e hu
      rw [hvalue, h name u hu value heffect]
  -- looking up does not see the order of the attributes, so that their names are needed too
  by_cases hset : ∃ w ∈ ws, w.element = n ∧ w.effect.slot ≠ none
  · have hpresent : AttrsPresent ws n e := by
      intro w hw hn name value heffect
      obtain ⟨u, hu⟩ := exists_lastTo? hw
      rw [hn, heffect] at hu
      obtain ⟨v, huv, _⟩ := attr?_foldl_of_lastTo? e hu
      rw [h name u hu v huv]
      exact Option.some_ne_none _
    have hattrs : (ws.foldl (Write.attributed n) e).attrs = e.attrs := by
      have hnames := (names_foldl hpresent).1
      exact Element.eq_of_lookup_eq hnames (hnames ▸ hdistinct hset) hlookup
    obtain ⟨hname, hdialect⟩ := name_foldl_attributed (n := n) ws e
    generalize ws.foldl (Write.attributed n) e = e' at *
    cases e'
    cases e
    simp_all
  · refine foldl_attributed_of_not_sets fun key ⟨w, hw, hn, hslot⟩ => hset ⟨w, hw, hn, ?_⟩
    rw [hslot]
    exact Option.some_ne_none _

/-! From the whole tree to its elements -/

theorem length_treesOf {p : Page} (hp : p.Linked) {n m : NodeId} (h : p.parent? n = some m) :
    (p.treesOf n).length = 1 := by
  have hlt := Page.lt_size_of_parent? h
  rw [hp.treesOf_eq]
  split
  · rename_i hnone
    exact absurd hlt (Nat.not_lt.mpr ((p.content?_eq_none_iff n).mp hnone))
  · rename_i hdocument
    rw [hp.eq_root n hdocument, hp.parent_root] at h
    exact absurd h.symm (Option.some_ne_none _)
  all_goals rfl

theorem eq_of_flatMap_eq {α β : Type} {cs : List α} {f g : α → List β}
    (h : cs.flatMap f = cs.flatMap g) (hlength : ∀ c ∈ cs, (f c).length = (g c).length) :
    ∀ c ∈ cs, f c = g c := by
  induction cs with
  | nil => exact fun c hc => absurd hc List.not_mem_nil
  | cons a cs ih =>
    rw [List.flatMap_cons, List.flatMap_cons] at h
    obtain ⟨ha, hrest⟩ := List.append_inj h (hlength a (List.mem_cons_self ..))
    intro c hc
    rcases List.mem_cons.mp hc with rfl | hc
    · exact ha
    · exact ih hrest (fun c hc => hlength c (List.mem_cons_of_mem _ hc)) c hc

namespace Written

variable {p q : Page} {ws : List (Write NodeId)} {w : Write NodeId} {n : NodeId}

theorem same_of_trees_eq (h : Written p ws q) (hp : p.Linked)
    (htrees : q.trees Page.root = p.trees Page.root) (hn : n < p.size) (hattached : q.Attached n)
    (helement : p.isElement n) :
    q.element? n = p.element? n ∧ q.trees n = p.trees n := by
  have hstep : ∀ {a c : NodeId}, q.parent? c = some a → c < p.size → p.isElement c →
      q.trees a = p.trees a → q.element? c = p.element? c ∧ q.trees c = p.trees c := by
    intro a c hqc hc hce hsame
    obtain ⟨hpc, hnot⟩ := (h.parent c hc a).mp hqc
    have hchildren := h.children a (hp.parent_lt_size hpc) hnot
    rw [Page.trees_eq, Page.trees_eq, hchildren] at hsame
    have htree : q.treesOf c = p.treesOf c := by
      refine eq_of_flatMap_eq hsame (fun k hk => ?_) c (hp.mem_of_parent hpc)
      rw [length_treesOf hp (hp.parent_of_mem hk),
        length_treesOf h.linked (h.linked.parent_of_mem (hchildren ▸ hk))]
    obtain ⟨e, he⟩ := Option.isSome_iff_exists.mp hce
    obtain ⟨e', he'⟩ := Option.isSome_iff_exists.mp ((h.isElement_eq hc).trans hce)
    rw [h.linked.treesOf_element he', hp.treesOf_element he] at htree
    obtain ⟨rfl, hts⟩ := Tree.element.inj (List.cons.inj htree).1
    exact ⟨he'.trans he.symm, hts⟩
  induction hattached with
  | single hc => exact hstep hc hn helement htrees
  | @tail b c _ hc ih =>
    obtain ⟨hpc, _⟩ := (h.parent _ hn _).mp hc
    have hparent := hp.parent_lt_size hpc
    refine hstep hc hn helement ?_
    by_cases hroot : b = Page.root
    · rw [hroot]
      exact htrees
    · exact (ih hparent (hp.isElement_of_ne_root hpc hroot)).2

section Visible

variable (hvisible : ∀ w ∈ ws, w.Visible q → w.Visible p)
include hvisible

theorem holdsAt_of_visible (h : Written p ws q) (helement : p.isElement n) (hattached : q.Attached n)
    {s : Option String} {u : Write NodeId} (hu : lastTo? ws n s = some u) :
    u.effect.HoldsAt p n := by
  obtain ⟨hmem, hun, _⟩ := mem_of_lastTo? hu
  have hafter : u.Visible q := by
    refine ⟨hun ▸ hattached, ?_⟩
    rw [hun]
    exact h.holdsAt_lastTo? helement hu
  exact hun ▸ (hvisible u hmem hafter).2

theorem element?_eq_of_visible (h : Written p ws q)
    (hdistinct : ∀ w ∈ ws, q.Attached w.element →
      ∀ e, p.element? w.element = some e → e.NamesDistinct)
    (hn : n < p.size) (hattached : q.Attached n) {e : Element} (he : p.element? n = some e) :
    q.element? n = some e := by
  have helement : p.isElement n := Option.isSome_iff_exists.mpr ⟨e, he⟩
  rw [h.element n hn, he, Option.map_some, foldl_attributed_eq]
  · rintro ⟨w, hw, hwn, _⟩
    exact hdistinct w hw (hwn ▸ hattached) e (hwn ▸ he)
  · intro name u hu value heffect
    have hbefore := h.holdsAt_of_visible hvisible helement hattached hu
    rw [heffect, Effect.HoldsAt, he] at hbefore
    exact hbefore

theorem trees_eq_of_visible (h : Written p ws q) (helement : p.isElement n)
    (hattached : q.Attached n) (hreplaces : Replaces ws n) : q.trees n = p.trees n := by
  obtain ⟨w, hw, hwn, hslot⟩ := hreplaces
  obtain ⟨u, hu⟩ := exists_lastTo? hw
  rw [hwn, hslot] at hu
  have hbefore := h.holdsAt_of_visible hvisible helement hattached hu
  have hafter := h.holdsAt_lastTo? helement hu
  have huslot := (mem_of_lastTo? hu).2.2
  cases heffect : u.effect with
  | content ts =>
    rw [heffect] at hbefore hafter
    exact hafter.trans hbefore.symm
  | attr name value =>
    rw [heffect] at huslot
    exact absurd huslot (Option.some_ne_none _)

end Visible

/-- When all that is visible now was visible before, the trees are the same. -/
theorem treesOf_eq_of_visible (h : Written p ws q) (hp : p.Linked)
    (hws : ∀ w ∈ ws, p.isElement w.element)
    (hdistinct : ∀ w ∈ ws, q.Attached w.element →
      ∀ e, p.element? w.element = some e → e.NamesDistinct)
    (hvisible : ∀ w ∈ ws, w.Visible q → w.Visible p) (n : NodeId) :
    n < p.size → n = Page.root ∨ q.Attached n → q.treesOf n = p.treesOf n := by
  -- from the leaves up: the children of a node that is kept are the same, and still attached
  induction n using hp.induction with
  | step n ih =>
    intro hn hattached
    have hkeep : ¬ Replaces ws n → q.trees n = p.trees n := by
      intro hnot
      have hchildren := h.children n hn hnot
      rw [Page.trees_eq, Page.trees_eq, hchildren]
      refine List.flatMap_congr fun c hc => ?_
      have hqc := h.linked.parent_of_mem (hchildren ▸ hc)
      refine ih c hc (Page.lt_size_of_parent? (hp.parent_of_mem hc)) (Or.inr ?_)
      rcases hattached with rfl | hattached
      · exact .of_parent hqc
      · exact hattached.trans (.of_parent hqc)
    by_cases helement : p.isElement n
    · have hroot : n ≠ Page.root := by
        rintro rfl
        rw [Page.isElement, Page.element?, hp.content_root] at helement
        exact Bool.noConfusion helement
      have hattached := hattached.resolve_left hroot
      obtain ⟨e, he⟩ := Option.isSome_iff_exists.mp helement
      have hsame := h.element?_eq_of_visible hvisible hdistinct hn hattached he
      have htrees : q.trees n = p.trees n := by
        by_cases hreplaces : Replaces ws n
        · exact h.trees_eq_of_visible hvisible helement hattached hreplaces
        · exact hkeep hreplaces
      rw [h.linked.treesOf_element hsame, hp.treesOf_element he, htrees]
    · have hne : p.isElement n = false := by simpa using helement
      have hnot : ¬ Replaces ws n := by
        rintro ⟨w, hw, rfl, _⟩
        exact helement (hws w hw)
      rw [h.linked.treesOf_eq, hp.treesOf_eq, h.content n hn hne, hkeep hnot]

end Written

theorem trees_apply_eq_iff {p : Page} (hp : p.Linked) {ws : List (Write NodeId)}
    (hws : ∀ w ∈ ws, p.isElement w.element)
    (hdistinct : ∀ w ∈ ws, (apply p ws).Attached w.element →
      ∀ e, p.element? w.element = some e → e.NamesDistinct) :
    (apply p ws).trees Page.root = p.trees Page.root ↔
      ∀ w ∈ ws, w.Visible (apply p ws) → w.Visible p := by
  have h := written_apply hp hws
  constructor
  · rintro htrees w hw ⟨hattached, hholds⟩
    have helement := hws w hw
    have hlt := Page.lt_size_of_isElement helement
    obtain ⟨hsame, hcontent⟩ := h.same_of_trees_eq hp htrees hlt hattached helement
    refine ⟨((h.attached_iff hp hlt).mp hattached).1, ?_⟩
    cases heffect : w.effect with
    | content ts =>
      rw [heffect] at hholds
      exact hcontent.symm.trans hholds
    | attr name value =>
      rw [heffect, Effect.HoldsAt, hsame] at hholds
      exact hholds
  · intro hvisible
    have hroot := h.treesOf_eq_of_visible hp hws hdistinct hvisible Page.root hp.root_lt_size
      (Or.inl rfl)
    rw [h.linked.treesOf_eq, hp.treesOf_eq, h.linked.content_root, hp.content_root] at hroot
    exact hroot

end ContentBinding.Binding
