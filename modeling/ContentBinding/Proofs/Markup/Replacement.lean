import ContentBinding.Proofs.Markup.Growth

/-! Replacing what stands below a node. The former children lose their parent and keep everything
else; all that stands below the node afterwards is new. -/

namespace ContentBinding.Markup.Page

variable {p q : Page} {n m c : NodeId}

theorem linked_clear (hp : p.Linked) (n : NodeId) : (p.clear n).Linked := by
  refine (hp.joined.clear n).joined.linked (fun m hm => ?_) fun m hm => ?_
  · rw [content?_clear] at hm
    exact hp.eq_root m hm
  · refine hp.not_above_self m (hm.mono fun k b hk => ?_)
    rw [parent?_clear] at hk
    split at hk
    · exact absurd hk.symm (Option.some_ne_none _)
    · exact hk

mutual

theorem content?_graft {p : Page} (hm : m < p.size) (n : NodeId) (t : Tree) :
    (p.graft n t).content? m = p.content? m := by
  cases t with
  | doctype s => exact content?_addChild_ne _ hm.ne
  | comment s => exact content?_addChild_ne _ hm.ne
  | text s => exact content?_addChild_ne _ hm.ne
  | element e ts =>
    have hlt : m < (p.addChild n (.element e)).size := by
      rw [size_addChild]
      exact Nat.lt_succ_of_lt hm
    exact (content?_graftAll hlt _ ts).trans (content?_addChild_ne _ hm.ne)

theorem content?_graftAll {p : Page} (hm : m < p.size) (n : NodeId) (ts : List Tree) :
    (p.graftAll n ts).content? m = p.content? m := by
  cases ts with
  | nil => rfl
  | cons t ts =>
    have hgraft := content?_graft hm n t
    have hlt : m < (p.graft n t).size := by
      rw [← Nat.not_le, ← content?_eq_none_iff, hgraft, content?_eq_none_iff, Nat.not_le]
      exact hm
    exact (content?_graftAll hlt n ts).trans hgraft

end

theorem content?_setContentTrees (hm : m < p.size) (n : NodeId) (ts : List Tree) :
    (p.setContentTrees n ts).content? m = p.content? m := by
  have hlt : m < (p.clear n).size := by rwa [size_clear]
  exact (content?_graftAll hlt n ts).trans content?_clear

/-- `q` is `p` with the trees `ts`, and nothing else, below `n`. -/
structure Replaced (p q : Page) (n : NodeId) (ts : List Tree) : Prop where
  linked : q.Linked
  size_le : p.size ≤ q.size
  content : ∀ m < p.size, q.content? m = p.content? m
  parent : ∀ m < p.size, q.parent? m = if p.parent? m = some n then none else p.parent? m
  children : ∀ m < p.size, m ≠ n → q.children m = p.children m
  trees : q.trees n = ts

theorem replaced_setContentTrees (hp : p.Linked) (hn : p.IsInner n) (ts : List Tree) :
    Replaced p (p.setContentTrees n ts) n ts := by
  have hclear := linked_clear hp n
  have hinner : (p.clear n).IsInner n := hn.imp_right fun he => by
    rwa [isElement_congr content?_clear]
  obtain ⟨hgrown, htrees⟩ := graftAll_grown ts hclear hinner
  have hsize : (p.clear n).size = p.size := size_clear
  refine
    { linked := hgrown.linked
      size_le := hsize ▸ hgrown.size_le
      content := fun m hm => content?_setContentTrees hm n ts
      parent := fun m hm => ?parent
      children := fun m hm hne =>
        (hgrown.children m (hsize ▸ hm) hne).trans (children_clear_ne hne)
      trees := ?trees }
  case parent =>
    rw [setContentTrees, hgrown.parent m (hsize ▸ hm), parent?_clear]
    simp only [hp.mem_children]
  case trees =>
    rw [setContentTrees, htrees, trees_eq, children_clear_self]
    rfl

namespace Replaced

variable {ts : List Tree}

theorem size_le_of_mem (h : Replaced p q n ts) (hp : p.Linked) (hm : m = n ∨ p.size ≤ m)
    (hc : c ∈ q.children m) : p.size ≤ c := by
  refine Nat.le_of_not_lt fun hlt => ?_
  have hparent := h.linked.parent_of_mem hc
  rw [h.parent c hlt] at hparent
  split at hparent
  · exact absurd hparent.symm (Option.some_ne_none _)
  · rename_i hne
    rcases hm with rfl | hm
    · exact hne hparent
    · exact absurd (hp.parent_lt_size hparent) (Nat.not_lt.mpr hm)

end Replaced

/-! Attributes -/

theorem setAttr_of_element? {e : Element} (h : p.element? n = some e) (name value : String) :
    p.setAttr n name value = p.setContent n (.element (e.setAttr name value)) := by
  unfold setAttr updateElement
  rw [h]

theorem content?_setAttr_ne {n : NodeId} (h : m ≠ n) (name value : String) :
    (p.setAttr n name value).content? m = p.content? m := by
  unfold setAttr updateElement
  split
  · exact content?_setContent_ne p _ h
  · rfl

theorem linked_setContent_element (hp : p.Linked) (hn : p.isElement n) (e : Element) :
    (p.setContent n (.element e)).Linked := by
  refine (hp.joined.setElement hn e).joined.linked (fun m hm => ?_) fun m hm => ?_
  · by_cases h : m = n
    · rw [h, content?_setContent_self p _ (lt_size_of_isElement hn)] at hm
      exact Content.noConfusion (Option.some.inj hm)
    · rw [content?_setContent_ne p _ h] at hm
      exact hp.eq_root m hm
  · exact hp.not_above_self m (hm.mono fun k b hk => by rwa [parent?_setContent] at hk)

/-! Pages made of trees -/

theorem linked_empty : empty.Linked := by
  refine joined_empty.linked (fun n hn => ?_) fun n hn => ?_
  · cases n with
    | zero => rfl
    | succ n => exact absurd hn.symm (Option.some_ne_none _)
  · obtain ⟨m, hm, _⟩ := hn.parent
    rw [parent?_empty] at hm
    exact Option.some_ne_none _ hm.symm

def ofTrees (ts : List Tree) : Page :=
  empty.graftAll root ts

theorem linked_ofTrees (ts : List Tree) : (ofTrees ts).Linked :=
  (graftAll_grown ts linked_empty (Or.inl rfl)).1.linked

theorem trees_ofTrees (ts : List Tree) : (ofTrees ts).trees root = ts := by
  have h := (graftAll_grown ts linked_empty (Or.inl rfl)).2
  rwa [trees_eq empty] at h

end ContentBinding.Markup.Page
