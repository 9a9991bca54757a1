import ContentBinding.Binding.Injection

/-! What each operation on a page does to the content, the parent and the children of its nodes. -/

namespace ContentBinding.Markup.Page

variable (p : Page) (n m : NodeId)

def size : Nat := p.nodes.size

theorem node?_eq_none_iff : p.node? n = none ↔ p.size ≤ n :=
  Array.getElem?_eq_none_iff

theorem node?_modify (f : Node → Node) :
    (p.modify n f).node? m = if n = m then (p.node? m).map f else p.node? m :=
  Array.getElem?_modify ..

@[simp] theorem size_modify (f : Node → Node) : (p.modify n f).size = p.size :=
  Array.size_modify

theorem content?_eq_none_iff : p.content? n = none ↔ p.size ≤ n := by
  rw [← node?_eq_none_iff, content?, Option.map_eq_none_iff]

theorem children_eq : p.children n = ((p.node? n).map (·.children)).getD [] := by
  unfold children
  cases p.node? n <;> rfl

theorem parent?_eq : p.parent? n = (p.node? n).bind (·.parent) := rfl

theorem content?_eq : p.content? n = (p.node? n).map (·.content) := rfl

variable {p n m}

theorem children_of_size_le (h : p.size ≤ n) : p.children n = [] := by
  rw [children_eq, (p.node?_eq_none_iff n).mpr h]
  rfl

theorem parent?_of_size_le (h : p.size ≤ n) : p.parent? n = none := by
  rw [parent?_eq, (p.node?_eq_none_iff n).mpr h]
  rfl

theorem lt_size_of_parent? (h : p.parent? n = some m) : n < p.size := by
  refine Nat.lt_of_not_le fun hn => ?_
  rw [parent?_of_size_le hn] at h
  exact Option.some_ne_none _ h.symm

theorem lt_size_of_mem_children (h : m ∈ p.children n) : n < p.size := by
  refine Nat.lt_of_not_le fun hn => ?_
  rw [children_of_size_le hn] at h
  exact List.not_mem_nil h

theorem lt_size_of_content? {c : Content} (h : p.content? n = some c) : n < p.size := by
  refine Nat.lt_of_not_le fun hn => ?_
  rw [(p.content?_eq_none_iff n).mpr hn] at h
  exact Option.some_ne_none _ h.symm

theorem content?_of_element? {e : Element} (h : p.element? n = some e) :
    p.content? n = some (.element e) := by
  unfold element? at h
  split at h
  · rename_i hc
    rw [hc, Option.some.inj h]
  · exact absurd h.symm (Option.some_ne_none _)

theorem element?_congr {q : Page} (h : q.content? n = p.content? n) :
    q.element? n = p.element? n := by
  unfold element?
  rw [h]

theorem isElement_congr {q : Page} (h : q.content? n = p.content? n) :
    q.isElement n = p.isElement n := by
  unfold isElement
  rw [element?_congr h]

theorem lt_size_of_isElement (h : p.isElement n) : n < p.size := by
  obtain ⟨e, he⟩ := Option.isSome_iff_exists.mp h
  exact lt_size_of_content? (content?_of_element? he)

variable (p n m)

/-! Operations on one node -/

@[simp] theorem size_setChildren (ids : List NodeId) : (p.setChildren n ids).size = p.size :=
  size_modify ..

@[simp] theorem content?_setChildren (ids : List NodeId) :
    (p.setChildren n ids).content? m = p.content? m := by
  rw [content?_eq, setChildren, node?_modify]
  split
  · rw [Option.map_map]
    rfl
  · rfl

@[simp] theorem parent?_setChildren (ids : List NodeId) :
    (p.setChildren n ids).parent? m = p.parent? m := by
  rw [parent?_eq, parent?_eq, setChildren, node?_modify]
  split
  · cases p.node? m <;> rfl
  · rfl

theorem children_setChildren_self {n : NodeId} (ids : List NodeId) (h : n < p.size) :
    (p.setChildren n ids).children n = ids := by
  rw [children_eq, setChildren, node?_modify, if_pos rfl, Option.map_map]
  cases hd : p.node? n with
  | none => exact absurd h (Nat.not_lt.mpr ((p.node?_eq_none_iff n).mp hd))
  | some d => rfl

theorem children_setChildren_ne {n m : NodeId} (ids : List NodeId) (h : m ≠ n) :
    (p.setChildren n ids).children m = p.children m := by
  rw [children_eq, children_eq, setChildren, node?_modify, if_neg h.symm]

@[simp] theorem size_setParent (x : Option NodeId) : (p.setParent n x).size = p.size :=
  size_modify ..

@[simp] theorem content?_setParent (x : Option NodeId) :
    (p.setParent n x).content? m = p.content? m := by
  rw [content?_eq, setParent, node?_modify]
  split
  · rw [Option.map_map]
    rfl
  · rfl

@[simp] theorem children_setParent (x : Option NodeId) :
    (p.setParent n x).children m = p.children m := by
  rw [children_eq, children_eq, setParent, node?_modify]
  split
  · rw [Option.map_map]
    rfl
  · rfl

theorem parent?_setParent_self {n : NodeId} (x : Option NodeId) (h : n < p.size) :
    (p.setParent n x).parent? n = x := by
  rw [parent?_eq, setParent, node?_modify, if_pos rfl]
  cases hd : p.node? n with
  | none => exact absurd h (Nat.not_lt.mpr ((p.node?_eq_none_iff n).mp hd))
  | some d => rfl

theorem parent?_setParent_ne {n m : NodeId} (x : Option NodeId) (h : m ≠ n) :
    (p.setParent n x).parent? m = p.parent? m := by
  rw [parent?_eq, parent?_eq, setParent, node?_modify, if_neg h.symm]

@[simp] theorem size_setContent (c : Content) : (p.setContent n c).size = p.size :=
  size_modify ..

@[simp] theorem children_setContent (c : Content) :
    (p.setContent n c).children m = p.children m := by
  rw [children_eq, children_eq, setContent, node?_modify]
  split
  · rw [Option.map_map]
    rfl
  · rfl

@[simp] theorem parent?_setContent (c : Content) :
    (p.setContent n c).parent? m = p.parent? m := by
  rw [parent?_eq, parent?_eq, setContent, node?_modify]
  split
  · cases p.node? m <;> rfl
  · rfl

theorem content?_setContent_self {n : NodeId} (c : Content) (h : n < p.size) :
    (p.setContent n c).content? n = some c := by
  rw [content?_eq, setContent, node?_modify, if_pos rfl, Option.map_map]
  cases hd : p.node? n with
  | none => exact absurd h (Nat.not_lt.mpr ((p.node?_eq_none_iff n).mp hd))
  | some d => rfl

theorem content?_setContent_ne {n m : NodeId} (c : Content) (h : m ≠ n) :
    (p.setContent n c).content? m = p.content? m := by
  rw [content?_eq, content?_eq, setContent, node?_modify, if_neg h.symm]

/-! Nodes that are moved -/

@[simp] theorem content?_detach : (p.detach n).content? m = p.content? m := by
  unfold detach
  split
  · rfl
  · rw [content?_setParent, content?_setChildren]

@[simp] theorem size_detach : (p.detach n).size = p.size := by
  unfold detach
  split
  · rfl
  · rw [size_setParent, size_setChildren]

theorem parent?_detach : (p.detach n).parent? m = if m = n then none else p.parent? m := by
  unfold detach
  split
  · next hparent =>
    by_cases hm : m = n
    · rw [if_pos hm, hm, hparent]
    · rw [if_neg hm]
  · next q hparent =>
    by_cases hm : m = n
    · subst hm
      rw [if_pos rfl, parent?_setParent_self]
      rw [size_setChildren]
      exact lt_size_of_parent? hparent
    · rw [if_neg hm, parent?_setParent_ne _ _ hm, parent?_setChildren]

@[simp] theorem content?_append (parent : NodeId) :
    (p.append parent n).content? m = p.content? m := by
  rw [append, content?_setParent, content?_setChildren, content?_detach]

@[simp] theorem content?_insertBefore (parent ref : NodeId) :
    (p.insertBefore parent ref n).content? m = p.content? m := by
  rw [insertBefore, content?_setParent, content?_setChildren, content?_detach]

/-! New nodes -/

def addChild (parent : NodeId) (c : Content) : Page :=
  (p.create c).1.append parent p.size

@[simp] theorem size_create (c : Content) : (p.create c).1.size = p.size + 1 :=
  Array.size_push ..

theorem size_lt_size_create (c : Content) : p.size < (p.create c).1.size := by
  rw [size_create]
  exact Nat.lt_succ_self _

theorem node?_create (c : Content) :
    (p.create c).1.node? m = if m = p.size then some { content := c } else p.node? m := by
  unfold create node? size
  rw [Array.getElem?_push]

@[simp] theorem parent?_create (c : Content) : (p.create c).1.parent? m = p.parent? m := by
  rw [parent?_eq, node?_create]
  split
  · rename_i h
    rw [parent?_of_size_le (Nat.le_of_eq h.symm)]
    rfl
  · rfl

@[simp] theorem children_create (c : Content) : (p.create c).1.children m = p.children m := by
  rw [children_eq, node?_create]
  split
  · rename_i h
    rw [children_of_size_le (Nat.le_of_eq h.symm)]
    rfl
  · rw [children_eq]

theorem content?_create_ne {m : NodeId} (c : Content) (h : m ≠ p.size) :
    (p.create c).1.content? m = p.content? m := by
  rw [content?_eq, node?_create, if_neg h]
  rfl

theorem content?_create_self (c : Content) : (p.create c).1.content? p.size = some c := by
  rw [content?_eq, node?_create, if_pos rfl]
  rfl

theorem addChild_eq (c : Content) : p.addChild n c =
    ((p.create c).1.setChildren n (p.children n ++ [p.size])).setParent p.size (some n) := by
  have hparent : (p.create c).1.parent? p.size = none := by
    rw [parent?_create, parent?_of_size_le (Nat.le_refl _)]
  have hdetach : (p.create c).1.detach p.size = (p.create c).1 := by
    unfold detach
    rw [hparent]
  unfold addChild append
  simp only [hdetach, children_create]

variable {p n m}

theorem isElement_create (e : Element) : (p.create (.element e)).1.isElement p.size := by
  rw [isElement, element?, content?_create_self]
  rfl

@[simp] theorem size_addChild (c : Content) : (p.addChild n c).size = p.size + 1 := by
  rw [addChild_eq, size_setParent, size_setChildren, size_create]

theorem size_lt_size_addChild (c : Content) : p.size < (p.addChild n c).size := by
  rw [size_addChild]
  exact Nat.lt_succ_self _

theorem content?_addChild_self (c : Content) : (p.addChild n c).content? p.size = some c := by
  rw [addChild_eq, content?_setParent, content?_setChildren, content?_create_self]

theorem content?_addChild_ne (c : Content) (h : m ≠ p.size) :
    (p.addChild n c).content? m = p.content? m := by
  rw [addChild_eq, content?_setParent, content?_setChildren, content?_create_ne p c h]

theorem parent?_addChild_self (c : Content) : (p.addChild n c).parent? p.size = some n := by
  rw [addChild_eq, parent?_setParent_self]
  rw [size_setChildren, size_create]
  exact Nat.lt_succ_self _

theorem parent?_addChild_ne (c : Content) (h : m ≠ p.size) :
    (p.addChild n c).parent? m = p.parent? m := by
  rw [addChild_eq, parent?_setParent_ne _ _ h, parent?_setChildren, parent?_create]

theorem children_addChild_self (c : Content) (h : n < p.size) :
    (p.addChild n c).children n = p.children n ++ [p.size] := by
  rw [addChild_eq, children_setParent, children_setChildren_self]
  rw [size_create]
  exact Nat.lt_succ_of_lt h

theorem children_addChild_ne (c : Content) (h : m ≠ n) :
    (p.addChild n c).children m = p.children m := by
  rw [addChild_eq, children_setParent, children_setChildren_ne _ _ h, children_create]

theorem node?_addChild (c : Content) (h : n < p.size) (m : NodeId) :
    (p.addChild n c).node? m =
      if m = p.size then some { content := c, parent := some n }
      else (p.node? m).map fun d =>
        if m = n then { d with children := p.children n ++ [p.size] } else d := by
  rw [addChild_eq, setParent, setChildren, node?_modify, node?_modify, node?_create]
  by_cases hm : m = p.size
  · rw [hm, if_pos rfl, if_pos rfl, if_neg (Nat.ne_of_lt h), if_pos rfl]
    rfl
  · rw [if_neg (Ne.symm hm), if_neg hm, if_neg hm]
    by_cases hn : n = m
    · rw [if_pos hn, hn]
      simp
    · rw [if_neg hn]
      simp [Ne.symm hn]

theorem ext_node? {q : Page} (h : ∀ m, p.node? m = q.node? m) : p = q :=
  congrArg Page.mk (Array.ext_getElem? h)

theorem setContent_addChild (c c' : Content) (h : n < p.size) :
    (p.addChild n c).setContent p.size c' = p.addChild n c' := by
  refine ext_node? fun m => ?_
  rw [setContent, node?_modify, node?_addChild c h, node?_addChild c' h]
  by_cases hm : m = p.size
  · rw [if_pos hm.symm, if_pos hm, if_pos hm]
    rfl
  · rw [if_neg (Ne.symm hm), if_neg hm, if_neg hm]

/-! Taking all children from a node, or handing them over -/

theorem setParent_foldl (x : Option NodeId) (cs : List NodeId) :
    let q := cs.foldl (fun p c => p.setParent c x) p
    q.size = p.size ∧ q.content? m = p.content? m ∧ q.children m = p.children m ∧
      q.parent? m = if m ∈ cs ∧ m < p.size then x else p.parent? m := by
  induction cs generalizing p with
  | nil => simp
  | cons c cs ih =>
    obtain ⟨hsize, hcontent, hchildren, hparent⟩ := ih (p := p.setParent c x)
    refine ⟨by simpa using hsize, by simpa using hcontent, by simpa using hchildren, ?_⟩
    rw [List.foldl_cons, hparent, size_setParent]
    by_cases hlt : m < p.size
    · by_cases hm : m = c
      · subst hm
        rw [parent?_setParent_self p x hlt, ite_self, if_pos ⟨List.mem_cons_self, hlt⟩]
      · rw [parent?_setParent_ne p x hm]
        simp [hm]
    · rw [if_neg fun h => hlt h.2, if_neg fun h => hlt h.2]
      have hle : p.size ≤ m := Nat.not_lt.mp hlt
      rw [parent?_of_size_le hle, parent?_of_size_le (by rwa [size_setParent])]

@[simp] theorem size_clear : (p.clear n).size = p.size := by
  rw [clear, (setParent_foldl (m := n) none _).1, size_setChildren]

@[simp] theorem content?_clear : (p.clear n).content? m = p.content? m := by
  rw [clear, (setParent_foldl none _).2.1, content?_setChildren]

theorem children_clear_self : (p.clear n).children n = [] := by
  rw [clear, (setParent_foldl none _).2.2.1]
  by_cases h : n < p.size
  · exact children_setChildren_self p [] h
  · exact children_of_size_le (by rw [size_setChildren]; exact Nat.not_lt.mp h)

theorem children_clear_ne (h : m ≠ n) : (p.clear n).children m = p.children m := by
  rw [clear, (setParent_foldl none _).2.2.1, children_setChildren_ne p [] h]

theorem parent?_clear :
    (p.clear n).parent? m = if m ∈ p.children n then none else p.parent? m := by
  rw [clear, (setParent_foldl none _).2.2.2, parent?_setChildren, size_setChildren]
  by_cases hlt : m < p.size
  · simp [hlt]
  · rw [if_neg fun h => hlt h.2, parent?_of_size_le (Nat.not_lt.mp hlt), ite_self]

@[simp] theorem content?_moveChildren (p : Page) (n m target : NodeId) :
    (p.moveChildren n target).content? m = p.content? m := by
  rw [moveChildren, (setParent_foldl _ _).2.1, content?_setChildren, content?_setChildren]

theorem children_moveChildren_target {target : NodeId} (h : target < p.size) :
    (p.moveChildren n target).children target = p.children target ++ p.children n := by
  rw [moveChildren, (setParent_foldl _ _).2.2.1, children_setChildren_self]
  rwa [size_setChildren]

theorem children_moveChildren_source {target : NodeId} (h : n ≠ target) :
    (p.moveChildren n target).children n = [] := by
  rw [moveChildren, (setParent_foldl _ _).2.2.1, children_setChildren_ne _ _ h]
  by_cases hlt : n < p.size
  · exact children_setChildren_self p [] hlt
  · exact children_of_size_le (by rw [size_setChildren]; exact Nat.not_lt.mp hlt)

theorem children_moveChildren_ne {target : NodeId} (h : m ≠ n) (h' : m ≠ target) :
    (p.moveChildren n target).children m = p.children m := by
  rw [moveChildren, (setParent_foldl _ _).2.2.1, children_setChildren_ne _ _ h',
    children_setChildren_ne _ _ h]

theorem parent?_moveChildren (target : NodeId) : (p.moveChildren n target).parent? m =
    if m ∈ p.children n ∧ m < p.size then some target else p.parent? m := by
  rw [moveChildren, (setParent_foldl _ _).2.2.2, parent?_setChildren, parent?_setChildren,
    size_setChildren, size_setChildren]

end ContentBinding.Markup.Page
