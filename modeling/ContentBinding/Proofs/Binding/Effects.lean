import ContentBinding.Proofs.Markup.Attributes
import ContentBinding.Proofs.Markup.Replacement

/-! What a list of writes leaves on a page. A write replaces the content of its element or sets one
of its attributes; of several writes to the same place the last one counts, and what is new below
an element is not reached by the others. -/

namespace ContentBinding.Binding

open Markup

/-- What a write brings about at its element. -/
inductive Effect
  | content (ts : List Tree)
  | attr (name value : String)

namespace Effect

def slot : Effect → Option String
  | content _ => none
  | attr name _ => some name

def perform (p : Page) (n : NodeId) : Effect → Page
  | content ts => p.setContentTrees n ts
  | attr name value => p.setAttr n name value

/-- The element has what the write was to give it. -/
def HoldsAt (p : Page) (n : NodeId) : Effect → Prop
  | content ts => p.trees n = ts
  | attr name value => (p.element? n).bind (·.attr? name) = some value

end Effect

namespace Write

def effect (w : Write NodeId) : Effect :=
  match w.field with
  | .text => .content [.text w.value]
  | .html => .content (Page.parseFragment w.value)
  | .srcset => .attr "srcset" w.value
  | .src => .attr "src" w.value

def attributed (n : NodeId) (e : Element) (w : Write NodeId) : Element :=
  if w.element = n then
    match w.effect with
    | .content _ => e
    | .attr name value => e.setAttr name value
  else e

end Write

namespace Write

variable {w : Write NodeId} {n : NodeId}

theorem attributed_of_ne (e : Element) (h : w.element ≠ n) : attributed n e w = e :=
  if_neg h

theorem attributed_of_content (e : Element) {ts : List Tree} (h : w.effect = .content ts) :
    attributed n e w = e := by
  unfold attributed
  rw [h, ite_self]

theorem attributed_of_attr (e : Element) {name value : String} (hn : w.element = n)
    (h : w.effect = .attr name value) : attributed n e w = e.setAttr name value := by
  unfold attributed
  rw [if_pos hn, h]

theorem value_of_effect {name value : String} (h : w.effect = .attr name value) :
    value = w.value := by
  obtain ⟨n, field, v⟩ := w
  cases field <;> cases h <;> rfl

end Write

/-- The last write to a place of an element. -/
def lastTo? (ws : List (Write NodeId)) (n : NodeId) (slot : Option String) : Option (Write NodeId) :=
  (ws.filter fun w => w.element = n && w.effect.slot = slot).getLast?

def Replaces (ws : List (Write NodeId)) (n : NodeId) : Prop :=
  ∃ w ∈ ws, w.element = n ∧ w.effect.slot = none

theorem Write.perform_eq (p : Page) (w : Write NodeId) :
    w.perform p = w.effect.perform p w.element := by
  obtain ⟨n, field, value⟩ := w
  cases field <;> rfl

theorem apply_append_singleton (p : Page) (ws : List (Write NodeId)) (w : Write NodeId) :
    apply p (ws ++ [w]) = w.effect.perform (apply p ws) w.element := by
  rw [apply, List.foldl_concat, Write.perform_eq, apply]

section Elements

variable {p : Page} {n : NodeId} {e : Element}

theorem Write.element?_perform (he : p.element? n = some e) (w : Write NodeId) :
    (w.perform p).element? n = some (w.attributed n e) := by
  have hn : n < p.size := Page.lt_size_of_content? (Page.content?_of_element? he)
  rw [Write.perform_eq]
  cases heffect : w.effect with
  | content ts =>
    rw [attributed_of_content e heffect, ← he]
    exact Page.element?_congr (Page.content?_setContentTrees hn w.element ts)
  | attr name value =>
    by_cases hw : w.element = n
    · rw [attributed_of_attr e hw heffect, hw, Effect.perform, Page.setAttr_of_element? he,
        Page.element?, Page.content?_setContent_self p _ hn]
    · rw [attributed_of_ne e hw, ← he]
      exact Page.element?_congr (Page.content?_setAttr_ne (Ne.symm hw) name value)

theorem element?_apply (he : p.element? n = some e) (ws : List (Write NodeId)) :
    (apply p ws).element? n = some (ws.foldl (Write.attributed n) e) := by
  induction ws generalizing p e with
  | nil => exact he
  | cons w ws ih => exact ih (w.element?_perform he)

end Elements

section Places

variable {ws : List (Write NodeId)} {w u : Write NodeId} {n : NodeId} {s : Option String}

theorem lastTo?_append_singleton : lastTo? (ws ++ [w]) n s =
    if w.element = n ∧ w.effect.slot = s then some w else lastTo? ws n s := by
  unfold lastTo?
  rw [List.filter_append]
  split
  · rename_i h
    rw [List.filter_cons_of_pos (by simpa using h), List.filter_nil, List.getLast?_concat]
  · rename_i h
    rw [List.filter_cons_of_neg (by simpa using h), List.filter_nil, List.append_nil]

theorem mem_of_lastTo? (h : lastTo? ws n s = some w) :
    w ∈ ws ∧ w.element = n ∧ w.effect.slot = s := by
  have hmem := List.mem_of_getLast? h
  rw [List.mem_filter] at hmem
  simpa using hmem

theorem exists_lastTo? (h : w ∈ ws) : ∃ u, lastTo? ws w.element w.effect.slot = some u := by
  refine Option.ne_none_iff_exists'.mp fun hnone => ?_
  have hnil := List.getLast?_eq_none_iff.mp hnone
  have hnot := List.filter_eq_nil_iff.mp hnil w h
  simp at hnot

theorem replaces_append_singleton :
    Replaces (ws ++ [w]) n ↔ Replaces ws n ∨ (w.element = n ∧ w.effect.slot = none) := by
  simp [Replaces, or_and_right, exists_or]

theorem replaces_of_lastTo? (h : lastTo? ws n none = some w) : Replaces ws n := by
  obtain ⟨hmem, hn, hs⟩ := mem_of_lastTo? h
  exact ⟨w, hmem, hn, hs⟩

end Places

/-! The page after a list of writes -/

/-- `q` is what the writes `ws` make of `p`. -/
structure Written (p : Page) (ws : List (Write NodeId)) (q : Page) : Prop where
  linked : q.Linked
  size_le : p.size ≤ q.size
  content : ∀ m < p.size, p.isElement m = false → q.content? m = p.content? m
  element : ∀ m < p.size, q.element? m = (p.element? m).map (ws.foldl (Write.attributed m))
  children : ∀ m < p.size, ¬ Replaces ws m → q.children m = p.children m
  parent : ∀ m < p.size, ∀ a, q.parent? m = some a ↔ p.parent? m = some a ∧ ¬ Replaces ws a
  /-- Below what was replaced, and below new nodes, all is new. -/
  new : ∀ m, Replaces ws m ∨ p.size ≤ m → ∀ c ∈ q.children m, p.size ≤ c
  trees : ∀ m < p.size, ∀ w, lastTo? ws m none = some w → w.effect.HoldsAt q m

namespace Written

variable {p q r : Page} {ws : List (Write NodeId)} {w : Write NodeId} {a m : NodeId}

theorem nil (hp : p.Linked) : Written p [] p where
  linked := hp
  size_le := Nat.le_refl _
  content _ _ _ := rfl
  element m _ := by cases p.element? m <;> rfl
  children _ _ _ := rfl
  parent m _ a := by simp [Replaces]
  new m hm c hc := by
    rcases hm with ⟨w, hw, _⟩ | hm
    · exact absurd hw List.not_mem_nil
    · exact absurd (Page.lt_size_of_mem_children hc) (Nat.not_lt.mpr hm)
  trees m _ w hw := absurd hw.symm (Option.some_ne_none _)

theorem isElement_eq (h : Written p ws q) (hm : m < p.size) : q.isElement m = p.isElement m := by
  rw [Page.isElement, Page.isElement, h.element m hm, Option.isSome_map]

theorem size_le_of_above (h : Written p ws q) (ha : p.size ≤ a) (hm : q.Above a m) : p.size ≤ m := by
  induction hm with
  | single hc => exact h.new a (Or.inr ha) _ (h.linked.mem_of_parent hc)
  | tail _ hc ih => exact h.new _ (Or.inr ih) _ (h.linked.mem_of_parent hc)

theorem size_le_of_above_replaced (h : Written p ws q) (ha : Replaces ws a) (hm : q.Above a m) :
    p.size ≤ m := by
  obtain ⟨c, hc, hcm⟩ := Relation.TransGen.head'_iff.mp hm
  have hnew := h.new a (Or.inl ha) c (h.linked.mem_of_parent hc)
  rcases Relation.reflTransGen_iff_eq_or_transGen.mp hcm with rfl | hcm
  · exact hnew
  · exact h.size_le_of_above hnew hcm

theorem holdsAt_of_frame (h : Written p ws q) (hr : r.Linked) (ha : a < p.size) (hm : m < p.size)
    (hchildren : r.children m = q.children m)
    (hframe : ∀ k < q.size, k ≠ a → r.content? k = q.content? k ∧ r.children k = q.children k)
    (hw : lastTo? ws m none = some w) : w.effect.HoldsAt r m := by
  have hreplaces := replaces_of_lastTo? hw
  -- what stands below a replaced element is new, so `a` is not among it
  have hkeep : r.trees m = q.trees m := by
    rw [Page.trees_eq, Page.trees_eq, hchildren]
    refine List.flatMap_congr fun c hc => Page.treesOf_congr h.linked hr fun k hk => ?_
    have hmc : q.Above m c := .of_parent (h.linked.parent_of_mem hc)
    have hmk : q.Above m k := by
      rcases hk with rfl | hk
      · exact hmc
      · exact hmc.trans hk
    have hnew : p.size ≤ k := h.size_le_of_above_replaced hreplaces hmk
    exact hframe k hmk.lt_size (ha.trans_le hnew).ne'
  have hbefore := h.trees m hm w hw
  have hslot := (mem_of_lastTo? hw).2.2
  cases heffect : w.effect with
  | content ts =>
    rw [heffect] at hbefore
    exact hkeep.trans hbefore
  | attr name value =>
    rw [heffect] at hslot
    exact absurd hslot (Option.some_ne_none _)

theorem snoc_content (h : Written p ws q) (hw : p.isElement w.element)
    {ts : List Tree} (hts : w.effect = .content ts) :
    Written p (ws ++ [w]) (q.setContentTrees w.element ts) := by
  have hlt := Page.lt_size_of_isElement hw
  have hslot : w.effect.slot = none := by rw [hts]; rfl
  have hinner : q.IsInner w.element := Or.inr (by rwa [h.isElement_eq hlt])
  have hr := Page.replaced_setContentTrees h.linked hinner ts
  have hold : ∀ {m}, m < p.size → m < q.size := fun hm => hm.trans_le h.size_le
  refine
    { linked := hr.linked
      size_le := h.size_le.trans hr.size_le
      content := fun m hm he => ?content
      element := fun m hm => ?element
      children := fun m hm hn => ?children
      parent := fun m hm a => ?parent
      new := fun m hm c hc => ?new
      trees := fun m hm u hu => ?trees }
  case content =>
    rw [hr.content m (hold hm), h.content m hm he]
  case element =>
    rw [Page.element?_congr (hr.content m (hold hm)), h.element m hm]
    congr 1
    funext e
    rw [List.foldl_concat, Write.attributed_of_content _ hts]
  case children =>
    rw [replaces_append_singleton, not_or] at hn
    have hne : m ≠ w.element := fun he => hn.2 ⟨he.symm, hslot⟩
    rw [hr.children m (hold hm) hne, h.children m hm hn.1]
  case parent =>
    rw [hr.parent m (hold hm), replaces_append_singleton]
    by_cases hq : q.parent? m = some w.element
    · have hpw := ((h.parent m hm _).mp hq).1
      rw [if_pos hq, hpw]
      refine ⟨fun hnone => absurd hnone.symm (Option.some_ne_none _), fun ⟨ha, hna⟩ => ?_⟩
      exact absurd (Or.inr ⟨Option.some.inj ha, hslot⟩) hna
    · rw [if_neg hq, h.parent m hm]
      refine and_congr_right fun ha => ?_
      rw [not_or]
      refine ⟨fun hna => ⟨hna, fun he => hq ?_⟩, And.left⟩
      rw [h.parent m hm, he.1]
      exact ⟨ha, hna⟩
  case new =>
    by_cases hnew : m = w.element ∨ q.size ≤ m
    · exact h.size_le.trans (hr.size_le_of_mem h.linked hnew hc)
    · rw [not_or, Nat.not_le] at hnew
      rw [hr.children m hnew.2 hnew.1] at hc
      refine h.new m (hm.imp_left fun hm => ?_) c hc
      rw [replaces_append_singleton] at hm
      exact hm.resolve_right fun he => hnew.1 he.1.symm
  case trees =>
    rw [lastTo?_append_singleton] at hu
    split at hu
    · rename_i he
      obtain rfl := Option.some.inj hu
      rw [hts, ← he.1]
      exact hr.trees
    · rename_i hne
      have hmw : m ≠ w.element := fun he => hne ⟨he.symm, hslot⟩
      exact h.holdsAt_of_frame hr.linked hlt hm (hr.children m (hold hm) hmw)
        (fun k hk hkw => ⟨hr.content k hk, hr.children k hk hkw⟩) hu

theorem snoc_attr (h : Written p ws q) (hw : p.isElement w.element) {name value : String}
    (hattr : w.effect = .attr name value) :
    Written p (ws ++ [w]) (q.setAttr w.element name value) := by
  have hlt := Page.lt_size_of_isElement hw
  have hslot : w.effect.slot ≠ none := by
    rw [hattr]
    exact Option.some_ne_none _
  -- an attribute replaces no content, so that only the element itself is another one
  have hreplaces : ∀ {m}, Replaces (ws ++ [w]) m ↔ Replaces ws m := by
    intro m
    rw [replaces_append_singleton]
    exact or_iff_left fun he => hslot he.2
  have hq : q.isElement w.element := by rwa [h.isElement_eq hlt]
  obtain ⟨e, he⟩ := Option.isSome_iff_exists.mp hq
  rw [Page.setAttr_of_element? he]
  have hlinked := Page.linked_setContent_element h.linked hq (e.setAttr name value)
  refine
    { linked := hlinked
      size_le := by simpa using h.size_le
      content := fun m hm hne => ?content
      element := fun m hm => ?element
      children := fun m hm hn => ?children
      parent := fun m hm a => ?parent
      new := fun m hm c hc => ?new
      trees := fun m hm u hu => ?trees }
  case content =>
    have hmw : m ≠ w.element := by
      rintro rfl
      rw [hw] at hne
      exact Bool.noConfusion hne
    rw [Page.content?_setContent_ne q _ hmw, h.content m hm hne]
  case element =>
    by_cases hmw : m = w.element
    · have hbefore := h.element m hm
      rw [hmw, he] at hbefore
      obtain ⟨e₀, he₀, hfold⟩ := Option.map_eq_some_iff.mp hbefore.symm
      rw [hmw, Page.element?, Page.content?_setContent_self q _ (hlt.trans_le h.size_le), he₀,
        Option.map_some, List.foldl_concat, Write.attributed_of_attr _ rfl hattr, hfold]
    · rw [Page.element?_congr (Page.content?_setContent_ne q _ hmw), h.element m hm]
      congr 1
      funext e'
      rw [List.foldl_concat, Write.attributed_of_ne _ (Ne.symm hmw)]
  case children =>
    rw [Page.children_setContent]
    exact h.children m hm (mt hreplaces.mpr hn)
  case parent =>
    rw [Page.parent?_setContent, hreplaces]
    exact h.parent m hm a
  case new =>
    rw [Page.children_setContent] at hc
    exact h.new m (hm.imp_left hreplaces.mp) c hc
  case trees =>
    rw [lastTo?_append_singleton, if_neg fun he => hslot he.2] at hu
    exact h.holdsAt_of_frame hlinked hlt hm (Page.children_setContent ..)
      (fun k _ hkw => ⟨Page.content?_setContent_ne q _ hkw, Page.children_setContent ..⟩) hu

end Written

theorem written_apply {p : Page} (hp : p.Linked) {ws : List (Write NodeId)}
    (hws : ∀ w ∈ ws, p.isElement w.element) : Written p ws (apply p ws) := by
  induction ws using List.reverseRecOn with
  | nil => exact .nil hp
  | append_singleton ws w ih =>
    have hbefore := ih fun u hu => hws u (List.mem_append_left _ hu)
    have hw := hws w (List.mem_append_right _ (List.mem_singleton_self w))
    rw [apply_append_singleton]
    cases heffect : w.effect with
    | content ts => exact hbefore.snoc_content hw heffect
    | attr name value => exact hbefore.snoc_attr hw heffect

namespace Written

variable {p q : Page} {ws : List (Write NodeId)} {w : Write NodeId} {a n m : NodeId}

theorem attached_iff (h : Written p ws q) (hp : p.Linked) :
    n < p.size → (q.Attached n ↔ p.Attached n ∧ ∀ b, Replaces ws b → ¬ p.Above b n) := by
  intro hn
  constructor
  · intro hq
    induction hq with
    | single hc =>
      obtain ⟨hpc, hroot⟩ := (h.parent _ hn _).mp hc
      refine ⟨.of_parent hpc, fun b hb hbn => ?_⟩
      rcases hbn.above_parent hpc with rfl | habove
      · exact hroot hb
      · exact hp.not_above_root habove
    | tail _ hc ih =>
      obtain ⟨hpc, hm⟩ := (h.parent _ hn _).mp hc
      obtain ⟨hattached, hnone⟩ := ih (hp.parent_lt_size hpc)
      refine ⟨hattached.trans (.of_parent hpc), fun b hb hbn => ?_⟩
      rcases hbn.above_parent hpc with rfl | habove
      · exact hm hb
      · exact hnone b hb habove
  · rintro ⟨hattached, hnone⟩
    induction hattached with
    | single hc =>
      exact .of_parent ((h.parent _ hn _).mpr ⟨hc, fun hb => hnone _ hb (.of_parent hc)⟩)
    | tail _ hc ih =>
      have habove := ih (hp.parent_lt_size hc) fun b hb hbm => hnone b hb (hbm.trans (.of_parent hc))
      exact habove.trans (.of_parent
        ((h.parent _ hn _).mpr ⟨hc, fun hb => hnone _ hb (.of_parent hc)⟩))

end Written

/-! What holds afterwards -/

section Attributes

variable {ws : List (Write NodeId)} {n : NodeId} {key : String} {e : Element}

theorem Write.name_attributed (e : Element) (w : Write NodeId) :
    (attributed n e w).name = e.name ∧ (attributed n e w).dialect = e.dialect := by
  unfold attributed
  split_ifs
  · cases w.effect <;> simp
  · exact ⟨rfl, rfl⟩

theorem name_foldl_attributed (ws : List (Write NodeId)) (e : Element) :
    (ws.foldl (Write.attributed n) e).name = e.name ∧
      (ws.foldl (Write.attributed n) e).dialect = e.dialect := by
  induction ws generalizing e with
  | nil => exact ⟨rfl, rfl⟩
  | cons w ws ih =>
    obtain ⟨hname, hdialect⟩ := Write.name_attributed (n := n) e w
    rw [List.foldl_cons, (ih _).1, (ih _).2]
    exact ⟨hname, hdialect⟩

theorem entries_foldl_attributed (ws : List (Write NodeId)) (e : Element) :
    (ws.foldl (Write.attributed n) e).entries key =
      match lastTo? ws n (some key) with
      | some w => Element.setEntries key w.value (e.entries key)
      | none => e.entries key := by
  induction ws using List.reverseRecOn with
  | nil => rfl
  | append_singleton ws w ih =>
    rw [List.foldl_concat, lastTo?_append_singleton]
    cases heffect : w.effect with
    | content ts =>
      rw [Write.attributed_of_content _ heffect, ih, if_neg fun h => Option.some_ne_none _ h.2.symm]
    | attr name value =>
      have hvalue : value = w.value := Write.value_of_effect heffect
      by_cases hn : w.element = n
      · rw [Write.attributed_of_attr _ hn heffect]
        by_cases hkey : key = name
        · subst hkey
          rw [if_pos ⟨hn, rfl⟩, Element.entries_setAttr_self, ih, hvalue]
          cases lastTo? ws n (some key) with
          | none => rfl
          | some u => exact Element.setEntries_setEntries ..
        · rw [if_neg fun h => hkey (Option.some.inj h.2).symm, Element.entries_setAttr_ne hkey, ih]
      · rw [Write.attributed_of_ne _ hn, if_neg fun h => hn h.1, ih]

theorem attr?_foldl_attributed (ws : List (Write NodeId)) (e : Element) (key : String) :
    (ws.foldl (Write.attributed n) e).attr? key =
      match lastTo? ws n (some key) with
      | some w => some w.value
      | none => e.attr? key := by
  rw [Element.attr?_eq_entries, entries_foldl_attributed]
  cases lastTo? ws n (some key) with
  | some w =>
    dsimp only
    rw [Element.head?_setEntries]
    rfl
  | none => exact (Element.attr?_eq_entries e key).symm

theorem attr?_foldl_of_none (e : Element) (h : lastTo? ws n (some key) = none) :
    (ws.foldl (Write.attributed n) e).attr? key = e.attr? key := by
  rw [attr?_foldl_attributed, h]

theorem attr?_foldl_of_lastTo? {w : Write NodeId} (e : Element)
    (h : lastTo? ws n (some key) = some w) : ∃ value, w.effect = .attr key value ∧
      (ws.foldl (Write.attributed n) e).attr? key = some value := by
  obtain ⟨-, -, hslot⟩ := mem_of_lastTo? h
  cases heffect : w.effect with
  | content ts =>
    rw [heffect] at hslot
    exact absurd hslot.symm (Option.some_ne_none _)
  | attr name value =>
    rw [heffect] at hslot
    obtain rfl : name = key := Option.some.inj hslot
    refine ⟨value, rfl, ?_⟩
    rw [attr?_foldl_attributed, h, Write.value_of_effect heffect]

end Attributes

theorem Effect.eq_of_holdsAt {p : Page} {n : NodeId} {e e' : Effect} (h : e.HoldsAt p n)
    (h' : e'.HoldsAt p n) (hslot : e.slot = e'.slot) : e = e' := by
  cases e with
  | content ts =>
    cases e' with
    | content ts' =>
      have hts : ts = ts' := h.symm.trans h'
      rw [hts]
    | attr name value => exact absurd hslot.symm (Option.some_ne_none _)
  | attr name value =>
    cases e' with
    | content ts' => exact absurd hslot (Option.some_ne_none _)
    | attr name' value' =>
      obtain rfl : name = name' := Option.some.inj hslot
      have hvalue : some value = some value' := h.symm.trans h'
      rw [Option.some.inj hvalue]

namespace Written

variable {p q : Page} {ws : List (Write NodeId)} {w u : Write NodeId}

/-- The last write to a place has its effect, on the page or off it. -/
theorem holdsAt_lastTo? (h : Written p ws q) {n : NodeId} (hn : p.isElement n) {s : Option String}
    (hu : lastTo? ws n s = some u) : u.effect.HoldsAt q n := by
  have hlt := Page.lt_size_of_isElement hn
  cases s with
  | none => exact h.trees n hlt u hu
  | some name =>
    obtain ⟨e, he⟩ := Option.isSome_iff_exists.mp hn
    obtain ⟨value, heffect, hvalue⟩ := attr?_foldl_of_lastTo? e hu
    rw [heffect, Effect.HoldsAt, h.element n hlt, he]
    exact hvalue

theorem holdsAt_iff (h : Written p ws q) (hn : p.isElement w.element) (hw : w ∈ ws) :
    w.effect.HoldsAt q w.element ↔
      ∀ u, lastTo? ws w.element w.effect.slot = some u → u.effect = w.effect := by
  constructor
  · intro hold u hu
    exact Effect.eq_of_holdsAt (h.holdsAt_lastTo? hn hu) hold (mem_of_lastTo? hu).2.2
  · intro hlast
    obtain ⟨u, hu⟩ := exists_lastTo? hw
    rw [← hlast u hu]
    exact h.holdsAt_lastTo? hn hu

end Written
end ContentBinding.Binding
