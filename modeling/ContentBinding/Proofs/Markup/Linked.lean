import Mathlib.Data.Finset.Card
import Mathlib.Logic.Relation
import ContentBinding.Proofs.Markup.Views

/-! Pages that are trees. Reading a page goes down to a depth; in a page that is linked the depth
that is used reaches every node, so the trees below a node satisfy equations without depths. -/

namespace ContentBinding.Markup.Page

/-- `a` stands above `n`. -/
def Above (p : Page) (a n : NodeId) : Prop :=
  Relation.TransGen (fun a c => p.parent? c = some a) a n

/-- Parents and children agree, only elements and the document have children, and nothing stands
above itself. Nodes that were taken off the page count as well. -/
structure Linked (p : Page) : Prop where
  content_root : p.content? root = some .document
  parent_root : p.parent? root = none
  eq_root : ∀ n, p.content? n = some .document → n = root
  mem_children : ∀ n c, c ∈ p.children n ↔ p.parent? c = some n
  children_nodup : ∀ n, (p.children n).Nodup
  inner : ∀ n c, p.parent? c = some n → n = root ∨ p.isElement n
  not_above_self : ∀ n, ¬ p.Above n n

def Attached (p : Page) (n : NodeId) : Prop :=
  p.Above root n

variable {p q : Page} {a b c n m : NodeId}

theorem Above.of_parent (h : p.parent? c = some n) : p.Above n c :=
  Relation.TransGen.single h

theorem Above.trans (h : p.Above a b) (h' : p.Above b c) : p.Above a c :=
  Relation.TransGen.trans h h'

theorem Above.lt_size (h : p.Above a n) : n < p.size := by
  cases h with
  | single h => exact lt_size_of_parent? h
  | tail _ h => exact lt_size_of_parent? h

theorem Above.parent (h : p.Above a n) : ∃ m, p.parent? n = some m ∧ (a = m ∨ p.Above a m) := by
  cases h with
  | single h => exact ⟨a, h, Or.inl rfl⟩
  | tail hm h => exact ⟨_, h, Or.inr hm⟩

theorem Above.mono (h : p.Above a n) (hpq : ∀ m b, p.parent? m = some b → q.parent? m = some b) :
    q.Above a n :=
  Relation.TransGen.mono (fun b m hb => hpq m b hb) a n h

theorem Above.above_parent (h : p.Above a n) (hm : p.parent? n = some m) : a = m ∨ p.Above a m := by
  obtain ⟨m', hm', ha⟩ := h.parent
  rw [hm] at hm'
  rwa [Option.some.inj hm']

theorem Above.total (hb : p.Above b n) (ha : a = n ∨ p.Above a n) :
    a = b ∨ p.Above a b ∨ p.Above b a := by
  rcases ha with rfl | ha
  · exact .inr (.inr hb)
  · induction hb with
    | single hm =>
      rcases ha.above_parent hm with rfl | ha
      · exact .inl rfl
      · exact .inr (.inl ha)
    | tail hb hm ih =>
      rcases ha.above_parent hm with rfl | ha
      · exact .inr (.inr hb)
      · exact ih ha

namespace Linked

theorem root_lt_size (hp : p.Linked) : root < p.size :=
  lt_size_of_content? hp.content_root

theorem parent_of_mem (hp : p.Linked) (h : c ∈ p.children n) : p.parent? c = some n :=
  (hp.mem_children n c).mp h

theorem mem_of_parent (hp : p.Linked) (h : p.parent? c = some n) : c ∈ p.children n :=
  (hp.mem_children n c).mpr h

theorem parent_lt_size (hp : p.Linked) (h : p.parent? c = some n) : n < p.size :=
  lt_size_of_mem_children (hp.mem_of_parent h)

theorem above_lt_size (hp : p.Linked) (h : p.Above a n) : a < p.size := by
  induction h with
  | single h => exact hp.parent_lt_size h
  | tail _ _ ih => exact ih

theorem isElement_of_ne_root (hp : p.Linked) (h : p.parent? c = some n) (hn : n ≠ root) :
    p.isElement n :=
  (hp.inner n c h).resolve_left hn

theorem not_above_root (hp : p.Linked) : ¬ p.Above a root := by
  intro h
  obtain ⟨m, hm, _⟩ := h.parent
  rw [hp.parent_root] at hm
  exact Option.some_ne_none _ hm.symm

end Linked

/-! Heights -/

open Classical in
noncomputable def height (p : Page) (n : NodeId) : Nat :=
  ((Finset.range p.size).filter (p.Above n)).card

theorem height_le (p : Page) (n : NodeId) : p.height n ≤ p.size := by
  classical
  calc p.height n ≤ (Finset.range p.size).card := Finset.card_filter_le ..
    _ = p.size := Finset.card_range _

theorem height_lt_of_not_above (h : p.parent? c = some n) (hself : ¬ p.Above c c) :
    p.height c < p.height n := by
  classical
  apply Finset.card_lt_card
  rw [Finset.ssubset_iff_of_subset]
  · -- the child itself is below its parent and not below itself
    refine ⟨c, ?_, ?_⟩
    · rw [Finset.mem_filter, Finset.mem_range]
      exact ⟨lt_size_of_parent? h, .of_parent h⟩
    · rw [Finset.mem_filter]
      exact fun hc => hself hc.2
  · intro m hm
    rw [Finset.mem_filter] at hm ⊢
    exact ⟨hm.1, Above.trans (.of_parent h) hm.2⟩

theorem Linked.height_lt (hp : p.Linked) (h : p.parent? c = some n) :
    p.height c < p.height n :=
  height_lt_of_not_above h (hp.not_above_self c)

/-- What holds of a node when it holds of its children, holds of all nodes. -/
theorem Linked.induction (hp : p.Linked) {motive : NodeId → Prop}
    (step : ∀ n, (∀ c ∈ p.children n, motive c) → motive n) (n : NodeId) : motive n := by
  induction hk : p.height n using Nat.strong_induction_on generalizing n with
  | _ k ih =>
    refine step n fun c hc => ih (p.height c) ?_ c rfl
    rw [← hk]
    exact hp.height_lt (hp.parent_of_mem hc)

/-! Trees without depths -/

def treesOf (p : Page) (n : NodeId) : List Tree :=
  p.treesAt (p.size + 1) n

theorem trees_eq (p : Page) (n : NodeId) : p.trees n = (p.children n).flatMap p.treesOf := rfl

theorem treesAt_succ (p : Page) (d : Nat) (n : NodeId) :
    p.treesAt (d + 1) n = match p.content? n with
      | none => []
      | some .document => (p.children n).flatMap (p.treesAt d)
      | some (.doctype s) => [.doctype s]
      | some (.comment s) => [.comment s]
      | some (.text s) => [.text s]
      | some (.element e) => [.element e ((p.children n).flatMap (p.treesAt d))] := by
  rw [treesAt, content?_eq, children_eq]
  cases p.node? n with
  | none => rfl
  | some d =>
    obtain ⟨content, parent, children⟩ := d
    cases content <;> rfl

theorem Linked.treesAt_eq_of_height_lt (hp : p.Linked) {d d' : Nat} (h : p.height n < d)
    (h' : p.height n < d') : p.treesAt d n = p.treesAt d' n := by
  induction d generalizing d' n with
  | zero => exact absurd h (Nat.not_lt_zero _)
  | succ d ih =>
    cases d' with
    | zero => exact absurd h' (Nat.not_lt_zero _)
    | succ d' =>
      have hchildren : (p.children n).flatMap (p.treesAt d) =
          (p.children n).flatMap (p.treesAt d') := by
        refine List.flatMap_congr fun c hc => ?_
        have hlt := hp.height_lt (hp.parent_of_mem hc)
        exact ih (by omega) (by omega)
      rw [treesAt_succ, treesAt_succ, hchildren]

theorem Linked.treesOf_eq (hp : p.Linked) (n : NodeId) :
    p.treesOf n = match p.content? n with
      | none => []
      | some .document => p.trees n
      | some (.doctype s) => [.doctype s]
      | some (.comment s) => [.comment s]
      | some (.text s) => [.text s]
      | some (.element e) => [.element e (p.trees n)] := by
  have hchildren : (p.children n).flatMap (p.treesAt p.size) = p.trees n := by
    refine List.flatMap_congr fun c hc => ?_
    have hlt := hp.height_lt (hp.parent_of_mem hc)
    have hle := p.height_le n
    exact hp.treesAt_eq_of_height_lt (by omega) (Nat.lt_succ_of_le (p.height_le c))
  rw [treesOf, treesAt_succ, hchildren]

theorem Linked.treesOf_element (hp : p.Linked) {e : Element} (h : p.element? n = some e) :
    p.treesOf n = [.element e (p.trees n)] := by
  rw [hp.treesOf_eq, content?_of_element? h]

theorem treesOf_congr (hp : p.Linked) (hq : q.Linked) {n : NodeId}
    (h : ∀ m, m = n ∨ p.Above n m → q.content? m = p.content? m ∧ q.children m = p.children m) :
    q.treesOf n = p.treesOf n := by
  induction n using hp.induction with
  | step n ih =>
    obtain ⟨hcontent, hchildren⟩ := h n (Or.inl rfl)
    have htrees : q.trees n = p.trees n := by
      rw [trees_eq, trees_eq, hchildren]
      refine List.flatMap_congr fun c hc => ih c hc fun m hm => h m (Or.inr ?_)
      have hnc : p.Above n c := .of_parent (hp.parent_of_mem hc)
      rcases hm with rfl | hm
      · exact hnc
      · exact hnc.trans hm
    rw [hq.treesOf_eq, hp.treesOf_eq, hcontent, htrees]

/-! Nodes below a node -/

theorem Linked.mem_below_iff (hp : p.Linked) {d : Nat} (h : p.height n ≤ d) :
    m ∈ p.below d n ↔ p.Above n m := by
  induction d generalizing n with
  | zero =>
    rw [below]
    refine ⟨fun hm => absurd hm List.not_mem_nil, fun hm => ?_⟩
    exfalso
    obtain ⟨c, hc, _⟩ := Relation.TransGen.head'_iff.mp hm
    have hlt := hp.height_lt hc
    omega
  | succ d ih =>
    rw [below, List.mem_flatMap]
    constructor
    · rintro ⟨c, hc, hm⟩
      have hnc := hp.parent_of_mem hc
      have hlt := hp.height_lt hnc
      rcases List.mem_cons.mp hm with rfl | hm
      · exact .of_parent hnc
      · exact .trans (.of_parent hnc) ((ih (by omega)).mp hm)
    · intro hm
      obtain ⟨c, hc, hcm⟩ := Relation.TransGen.head'_iff.mp hm
      have hlt := hp.height_lt hc
      refine ⟨c, hp.mem_of_parent hc, ?_⟩
      rcases Relation.reflTransGen_iff_eq_or_transGen.mp hcm with rfl | hcm
      · exact List.mem_cons_self ..
      · exact List.mem_cons_of_mem _ ((ih (by omega)).mpr hcm)

theorem Linked.mem_descendants (hp : p.Linked) : m ∈ p.descendants n ↔ p.Above n m :=
  hp.mem_below_iff (p.height_le n)

theorem Linked.mem_elements (hp : p.Linked) : m ∈ p.elements ↔ p.Attached m ∧ p.isElement m := by
  rw [elements, List.mem_filter, hp.mem_descendants]
  rfl

theorem Linked.children_eq_nil (hp : p.Linked) (h : p.height n = 0) : p.children n = [] := by
  refine List.eq_nil_iff_forall_not_mem.mpr fun c hc => ?_
  have hlt := hp.height_lt (hp.parent_of_mem hc)
  omega

theorem Linked.below_eq_of_height_le (hp : p.Linked) {d k : Nat} (h : p.height n ≤ d)
    (h' : p.height n ≤ k) : p.below d n = p.below k n := by
  induction d generalizing k n with
  | zero =>
    cases k with
    | zero => rfl
    | succ k => rw [below, below, hp.children_eq_nil (by omega), List.flatMap_nil]
  | succ d ih =>
    cases k with
    | zero => rw [below, below, hp.children_eq_nil (by omega), List.flatMap_nil]
    | succ k =>
      rw [below, below]
      refine List.flatMap_congr fun c hc => ?_
      have hlt := hp.height_lt (hp.parent_of_mem hc)
      rw [ih (k := k) (by omega) (by omega)]

theorem Linked.descendants_eq (hp : p.Linked) (n : NodeId) :
    p.descendants n = (p.children n).flatMap fun c => c :: p.descendants c := by
  have hstep : p.descendants n = p.below (p.size + 1) n :=
    hp.below_eq_of_height_le (p.height_le n) (Nat.le_succ_of_le (p.height_le n))
  rw [hstep, below]
  rfl

end ContentBinding.Markup.Page
