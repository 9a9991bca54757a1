import ContentBinding.Proofs.Markup.Linked

/-! Pages whose parents and children agree. Nodes that were taken off such a page may stand in a
circle, but none that the document leads to does. So whatever moves on a page keeps it joined, with
no regard to what stands above what. -/

namespace ContentBinding.Markup.Page

variable {p q r : Page} {a n m c t : NodeId}

/-- A node that may have children. -/
def IsInner (p : Page) (n : NodeId) : Prop :=
  n = root ∨ p.isElement n

theorem isInner_addChild (e : Element) : (p.addChild n (.element e)).IsInner p.size := by
  refine Or.inr ?_
  rw [addChild, isElement_congr (content?_append _ _ _ _)]
  exact isElement_create e

/-- Parents and children agree, and only elements and the document have children. -/
structure Joined (p : Page) : Prop where
  content_root : p.content? root = some .document
  parent_root : p.parent? root = none
  mem_children : ∀ n c, c ∈ p.children n ↔ p.parent? c = some n
  children_nodup : ∀ n, (p.children n).Nodup
  inner : ∀ n c, p.parent? c = some n → p.IsInner n

/-- What is done to a page leaves it joined, and what was an element stays one. -/
structure Reworked (p q : Page) : Prop where
  joined : q.Joined
  element : ∀ n, p.isElement n → q.isElement n

namespace Reworked

theorem refl (hp : p.Joined) : Reworked p p :=
  ⟨hp, fun _ => id⟩

theorem trans (h : Reworked p q) (h' : Reworked q r) : Reworked p r :=
  ⟨h'.joined, fun n hn => h'.element n (h.element n hn)⟩

theorem of_content (hq : q.Joined) (h : ∀ m, q.content? m = p.content? m) : Reworked p q where
  joined := hq
  element n hn := by rwa [isElement_congr (h n)]

theorem isInner (h : Reworked p q) (hn : p.IsInner n) : q.IsInner n :=
  hn.imp_right (h.element n)

end Reworked

theorem Linked.joined (hp : p.Linked) : p.Joined :=
  ⟨hp.content_root, hp.parent_root, hp.mem_children, hp.children_nodup, hp.inner⟩

namespace Joined

theorem linked (hp : p.Joined) (heq : ∀ n, p.content? n = some .document → n = root)
    (hself : ∀ n, ¬ p.Above n n) : p.Linked :=
  ⟨hp.content_root, hp.parent_root, heq, hp.mem_children, hp.children_nodup, hp.inner, hself⟩

theorem root_lt_size (hp : p.Joined) : root < p.size :=
  lt_size_of_content? hp.content_root

theorem inner_lt_size (hp : p.Joined) (hn : p.IsInner n) : n < p.size := by
  rcases hn with rfl | hn
  · exact hp.root_lt_size
  · exact lt_size_of_isElement hn

theorem ne_root (hp : p.Joined) (hn : p.isElement n) : n ≠ root := by
  rintro rfl
  obtain ⟨e, he⟩ := Option.isSome_iff_exists.mp hn
  have hroot := hp.content_root
  rw [content?_of_element? he] at hroot
  exact Content.noConfusion (Option.some.inj hroot)

/-! What the document leads to -/

theorem not_above_root (hp : p.Joined) : ¬ p.Above a root := by
  intro h
  obtain ⟨m, hm, _⟩ := h.parent
  rw [hp.parent_root] at hm
  exact Option.some_ne_none _ hm.symm

theorem not_above_self (hp : p.Joined) (h : p.Attached n) : ¬ p.Above n n := by
  induction h with
  | single hn =>
    intro hself
    obtain ⟨m, hm, habove⟩ := hself.parent
    obtain rfl := Option.some.inj (hn.symm.trans hm)
    rcases habove with rfl | habove
    · exact hp.not_above_root (.of_parent hn)
    · exact hp.not_above_root habove
  | tail _ hn ih =>
    intro hself
    obtain ⟨m, hm, habove⟩ := hself.parent
    obtain rfl := Option.some.inj (hn.symm.trans hm)
    rcases habove with rfl | habove
    · exact ih (.of_parent hn)
    · exact ih (.trans (.of_parent hn) habove)

theorem attached_of_parent (hn : n = root ∨ p.Attached n) (hc : p.parent? c = some n) :
    p.Attached c := by
  rcases hn with rfl | hn
  · exact .of_parent hc
  · exact hn.trans (.of_parent hc)

theorem eq_of_siblings (hp : p.Joined) (hn : n = root ∨ p.Attached n) (ha : p.parent? a = some n)
    (hc : p.parent? c = some n) (hat : a = t ∨ p.Above a t) (hct : c = t ∨ p.Above c t) :
    a = c := by
  have habove {a c : NodeId} (ha : p.parent? a = some n) (hc : p.parent? c = some n) :
      ¬ p.Above a c := by
    intro hac
    refine hp.not_above_self (attached_of_parent hn ha) ?_
    rcases hac.above_parent hc with rfl | han
    · exact .of_parent ha
    · exact han.trans (.of_parent ha)
  rcases hct with rfl | hct
  · exact hat.resolve_right (habove ha hc)
  · rcases hct.total hat with heq | hac | hca
    · exact heq
    · exact absurd hac (habove ha hc)
    · exact absurd hca (habove hc ha)

theorem height_lt (hp : p.Joined) (hn : n = root ∨ p.Attached n) (hc : p.parent? c = some n) :
    p.height c < p.height n :=
  height_lt_of_not_above hc (hp.not_above_self (attached_of_parent hn hc))

/-! Moving nodes -/

theorem children_detach (hp : p.Joined) : (p.detach n).children m =
    (p.children m).filter (· != n) := by
  have hkept (h : n ∉ p.children m) : p.children m = (p.children m).filter (· != n) := by
    refine (List.filter_eq_self.mpr fun c hc => bne_iff_ne.mpr ?_).symm
    rintro rfl
    exact h hc
  unfold detach
  split
  · next hparent =>
    refine hkept fun hmem => ?_
    rw [hp.mem_children, hparent] at hmem
    exact Option.some_ne_none _ hmem.symm
  · next above hparent =>
    rw [children_setParent]
    by_cases hm : m = above
    · subst hm
      exact children_setChildren_self p _ (lt_size_of_mem_children ((hp.mem_children m n).mpr hparent))
    · rw [children_setChildren_ne p _ hm]
      refine hkept fun hmem => hm ?_
      rw [hp.mem_children, hparent] at hmem
      exact (Option.some.inj hmem).symm

theorem detach (hp : p.Joined) (n : NodeId) : Reworked p (p.detach n) := by
  refine .of_content
    { content_root := by rw [content?_detach, hp.content_root]
      parent_root := by rw [parent?_detach, hp.parent_root, ite_self]
      mem_children := fun m c => ?mem_children
      children_nodup := fun m => by
        rw [hp.children_detach]
        exact (hp.children_nodup m).filter _
      inner := fun m c hc => ?inner } fun m => content?_detach p n m
  case mem_children =>
    rw [hp.children_detach, List.mem_filter, hp.mem_children, parent?_detach, bne_iff_ne]
    by_cases hc : c = n
    · simp [hc]
    · simp [hc]
  case inner =>
    rw [parent?_detach] at hc
    split at hc
    · exact absurd hc.symm (Option.some_ne_none _)
    · rw [IsInner, isElement_congr (content?_detach p n m)]
      exact hp.inner m c hc

theorem place (hp : p.Joined) (hloose : p.parent? n = none) (hroot : n ≠ root) (hlt : n < p.size)
    (ht : p.IsInner t) {ids : List NodeId} (hids : ids.Perm (n :: p.children t)) :
    ((p.setChildren t ids).setParent n (some t)).Joined := by
  have htlt := hp.inner_lt_size ht
  have hparent (m : NodeId) : ((p.setChildren t ids).setParent n (some t)).parent? m =
      if m = n then some t else p.parent? m := by
    split
    · next hm =>
      rw [hm, parent?_setParent_self]
      rwa [size_setChildren]
    · next hm => rw [parent?_setParent_ne _ _ hm, parent?_setChildren]
  have hchildren (m : NodeId) : ((p.setChildren t ids).setParent n (some t)).children m =
      if m = t then ids else p.children m := by
    rw [children_setParent]
    split
    · next hm => rw [hm, children_setChildren_self p ids htlt]
    · next hm => rw [children_setChildren_ne p ids hm]
  have hnew (m : NodeId) : n ∉ p.children m := fun hmem => by
    rw [hp.mem_children, hloose] at hmem
    exact Option.some_ne_none _ hmem.symm
  refine
    { content_root := by rw [content?_setParent, content?_setChildren, hp.content_root]
      parent_root := by rw [hparent, if_neg hroot.symm, hp.parent_root]
      mem_children := fun m c => ?mem_children
      children_nodup := fun m => ?children_nodup
      inner := fun m c hc => ?inner }
  case mem_children =>
    rw [hparent, hchildren]
    by_cases hm : m = t
    · subst hm
      rw [if_pos rfl, hids.mem_iff, List.mem_cons, hp.mem_children]
      by_cases hc : c = n <;> simp [hc]
    · rw [if_neg hm]
      by_cases hc : c = n
      · subst hc
        rw [if_pos rfl]
        exact iff_of_false (hnew m) fun h => hm (Option.some.inj h).symm
      · rw [if_neg hc, hp.mem_children]
  case children_nodup =>
    rw [hchildren]
    split
    · exact hids.nodup_iff.mpr (List.nodup_cons.mpr ⟨hnew t, hp.children_nodup t⟩)
    · exact hp.children_nodup m
  case inner =>
    have hcontent (k : NodeId) :
        ((p.setChildren t ids).setParent n (some t)).content? k = p.content? k := by
      rw [content?_setParent, content?_setChildren]
    rw [IsInner, isElement_congr (hcontent m)]
    rw [hparent] at hc
    split at hc
    · exact Option.some.inj hc ▸ ht
    · exact hp.inner m c hc

theorem append (hp : p.Joined) (ht : p.IsInner t) (hroot : n ≠ root) (hlt : n < p.size) :
    Reworked p (p.append t n) := by
  refine .of_content ?_ fun m => content?_append p n m t
  have hdetach := hp.detach n
  refine hdetach.joined.place ?_ hroot (by rwa [size_detach]) (hdetach.isInner ht)
    List.perm_append_comm
  rw [parent?_detach, if_pos rfl]

theorem insertInto_perm (ref n : NodeId) (ids : List NodeId) : (insertInto ref n ids).Perm (n :: ids) := by
  induction ids with
  | nil => exact .refl _
  | cons c ids ih =>
    rw [insertInto]
    split
    · exact .refl _
    · exact (ih.cons c).trans (.swap n c ids)

theorem insertBefore (hp : p.Joined) (ht : p.IsInner t) (ref : NodeId) (hroot : n ≠ root)
    (hlt : n < p.size) : Reworked p (p.insertBefore t ref n) := by
  refine .of_content ?_ fun m => content?_insertBefore p n m t ref
  have hdetach := hp.detach n
  refine hdetach.joined.place ?_ hroot (by rwa [size_detach]) (hdetach.isInner ht)
    (insertInto_perm ref n _)
  rw [parent?_detach, if_pos rfl]

theorem moveChildren (hp : p.Joined) (hne : n ≠ t) (ht : p.IsInner t) :
    Reworked p (p.moveChildren n t) := by
  -- parents decide: whose parent was `n` now has the parent `t`, the others keep theirs
  have htlt := hp.inner_lt_size ht
  have hparent (m : NodeId) : (p.moveChildren n t).parent? m =
      if p.parent? m = some n then some t else p.parent? m := by
    simp only [parent?_moveChildren, hp.mem_children]
    by_cases hm : p.parent? m = some n
    · rw [if_pos ⟨hm, lt_size_of_parent? hm⟩, if_pos hm]
    · rw [if_neg fun h => hm h.1, if_neg hm]
  refine .of_content
    { content_root := by rw [content?_moveChildren, hp.content_root]
      parent_root := ?parent_root
      mem_children := fun m c => ?mem_children
      children_nodup := fun m => ?children_nodup
      inner := fun m c hc => ?inner } fun m => content?_moveChildren p n m t
  case parent_root =>
    rw [hparent, hp.parent_root]
    rfl
  case mem_children =>
    rw [hparent]
    by_cases hmt : m = t
    · subst hmt
      rw [children_moveChildren_target htlt, List.mem_append, hp.mem_children, hp.mem_children]
      by_cases hc : p.parent? c = some n <;> simp [hc]
    · by_cases hmn : m = n
      · subst hmn
        rw [children_moveChildren_source hne]
        by_cases hc : p.parent? c = some m <;> simp [hc, hne.symm]
      · rw [children_moveChildren_ne hmn hmt, hp.mem_children]
        by_cases hc : p.parent? c = some n
        · simp [hc, Ne.symm hmn, Ne.symm hmt]
        · rw [if_neg hc]
  case children_nodup =>
    by_cases hmt : m = t
    · subst hmt
      rw [children_moveChildren_target htlt]
      refine List.nodup_append.mpr ⟨hp.children_nodup m, hp.children_nodup n, ?_⟩
      rintro c hc d hd rfl
      rw [hp.mem_children] at hc hd
      exact hne (Option.some.inj (hd.symm.trans hc))
    · by_cases hmn : m = n
      · rw [hmn, children_moveChildren_source hne]
        exact List.nodup_nil
      · rw [children_moveChildren_ne hmn hmt]
        exact hp.children_nodup m
  case inner =>
    rw [IsInner, isElement_congr (content?_moveChildren p n m t)]
    rw [hparent] at hc
    split at hc
    · exact Option.some.inj hc ▸ ht
    · exact hp.inner m c hc

theorem clear (hp : p.Joined) (n : NodeId) : Reworked p (p.clear n) := by
  have hparent (m : NodeId) : (p.clear n).parent? m =
      if p.parent? m = some n then none else p.parent? m := by
    simp only [parent?_clear, hp.mem_children]
  refine .of_content
    { content_root := by rw [content?_clear, hp.content_root]
      parent_root := by rw [hparent, hp.parent_root, ite_self]
      mem_children := fun m c => ?mem_children
      children_nodup := fun m => ?children_nodup
      inner := fun m c hc => ?inner } fun m => content?_clear
  case mem_children =>
    rw [hparent]
    by_cases hm : m = n
    · subst hm
      rw [children_clear_self]
      by_cases hc : p.parent? c = some m <;> simp [hc]
    · rw [children_clear_ne hm, hp.mem_children]
      by_cases hc : p.parent? c = some n
      · simp [hc, Ne.symm hm]
      · rw [if_neg hc]
  case children_nodup =>
    by_cases hm : m = n
    · rw [hm, children_clear_self]
      exact List.nodup_nil
    · rw [children_clear_ne hm]
      exact hp.children_nodup m
  case inner =>
    rw [hparent] at hc
    split at hc
    · exact absurd hc.symm (Option.some_ne_none _)
    · rw [IsInner, isElement_congr content?_clear]
      exact hp.inner m c hc

/-! New content -/

theorem create (hp : p.Joined) (c : Content) : Reworked p (p.create c).1 := by
  have hkept (m : NodeId) (hm : p.isElement m) : (p.create c).1.isElement m := by
    rwa [isElement_congr (content?_create_ne p c (lt_size_of_isElement hm).ne)]
  refine ⟨?_, hkept⟩
  exact
    { content_root := by rw [content?_create_ne p c hp.root_lt_size.ne, hp.content_root]
      parent_root := by rw [parent?_create, hp.parent_root]
      mem_children := fun m k => by rw [children_create, parent?_create, hp.mem_children]
      children_nodup := fun m => by
        rw [children_create]
        exact hp.children_nodup m
      inner := fun m k hk => by
        rw [parent?_create] at hk
        exact (hp.inner m k hk).imp_right (hkept m) }

theorem addChild (hp : p.Joined) (ht : p.IsInner t) (c : Content) : Reworked p (p.addChild t c) := by
  have hcreate := hp.create c
  exact hcreate.trans (hcreate.joined.append (hcreate.isInner ht) hp.root_lt_size.ne'
    (p.size_lt_size_create c))

theorem setContent (hp : p.Joined) {c : Content} (hroot : n ≠ root)
    (hkind : p.isElement n → (p.setContent n c).isElement n) : Reworked p (p.setContent n c) := by
  have hkept (m : NodeId) (hm : p.isElement m) : (p.setContent n c).isElement m := by
    by_cases hmn : m = n
    · subst hmn
      exact hkind hm
    · rwa [isElement_congr (content?_setContent_ne p c hmn)]
  refine ⟨?_, hkept⟩
  exact
    { content_root := by rw [content?_setContent_ne p c hroot.symm, hp.content_root]
      parent_root := by rw [parent?_setContent, hp.parent_root]
      mem_children := fun m k => by rw [children_setContent, parent?_setContent, hp.mem_children]
      children_nodup := fun m => by
        rw [children_setContent]
        exact hp.children_nodup m
      inner := fun m k hk => by
        rw [parent?_setContent] at hk
        exact (hp.inner m k hk).imp_right (hkept m) }

theorem setText (hp : p.Joined) {s : String} (h : p.text? n = some s) (s' : String) :
    Reworked p (p.setContent n (.text s')) := by
  refine hp.setContent ?_ fun hn => ?_
  · rintro rfl
    rw [text?, hp.content_root] at h
    cases h
  · obtain ⟨e, he⟩ := Option.isSome_iff_exists.mp hn
    rw [text?, content?_of_element? he] at h
    cases h

theorem setElement (hp : p.Joined) (hn : p.isElement n) (e : Element) :
    Reworked p (p.setContent n (.element e)) := by
  refine hp.setContent (hp.ne_root hn) fun _ => ?_
  rw [isElement, element?, content?_setContent_self p _ (lt_size_of_isElement hn)]
  rfl

theorem updateElement (hp : p.Joined) (n : NodeId) (g : Element → Element) :
    Reworked p (p.updateElement n g) := by
  unfold Page.updateElement
  split
  · next e he => exact hp.setElement (Option.isSome_iff_exists.mpr ⟨e, he⟩) _
  · exact .refl hp

mutual

theorem graft {p : Page} {n : NodeId} (hp : p.Joined) (hn : p.IsInner n) (t : Tree) :
    Reworked p (p.graft n t) := by
  cases t with
  | doctype s => exact hp.addChild hn (.doctype s)
  | comment s => exact hp.addChild hn (.comment s)
  | text s => exact hp.addChild hn (.text s)
  | element e ts =>
    have hadd := hp.addChild hn (.element e)
    exact hadd.trans (graftAll hadd.joined (isInner_addChild e) ts)

theorem graftAll {p : Page} {n : NodeId} (hp : p.Joined) (hn : p.IsInner n) (ts : List Tree) :
    Reworked p (p.graftAll n ts) := by
  cases ts with
  | nil => exact .refl hp
  | cons t ts =>
    have hfirst := graft hp hn t
    exact hfirst.trans (graftAll hfirst.joined (hfirst.isInner hn) ts)

end

theorem setContentTrees (hp : p.Joined) (hn : p.IsInner n) (ts : List Tree) :
    Reworked p (p.setContentTrees n ts) := by
  have hclear := hp.clear n
  exact hclear.trans (hclear.joined.graftAll (hclear.isInner hn) ts)

end Joined

/-! The page without content -/

theorem parent?_empty (n : NodeId) : empty.parent? n = none := by
  cases n <;> rfl

theorem children_empty (n : NodeId) : empty.children n = [] := by
  cases n <;> rfl

theorem joined_empty : empty.Joined where
  content_root := rfl
  parent_root := rfl
  mem_children n c := by
    rw [children_empty, parent?_empty]
    exact iff_of_false List.not_mem_nil (Option.some_ne_none _).symm
  children_nodup n := by
    rw [children_empty]
    exact List.nodup_nil
  inner n c hc := by
    rw [parent?_empty] at hc
    exact absurd hc.symm (Option.some_ne_none _)

end ContentBinding.Markup.Page
