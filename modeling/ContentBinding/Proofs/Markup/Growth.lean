import ContentBinding.Proofs.Markup.Joined

/-! Putting trees into a page. The nodes that were there keep their content and their parent, and
the trees below the node that receives them are the trees that were put there. -/

namespace ContentBinding.Markup.Page

variable {p q r : Page} {n m k : NodeId}

theorem IsInner.lt_size (hp : p.Linked) (h : p.IsInner n) : n < p.size :=
  hp.joined.inner_lt_size h

/-- `q` is `p` with new nodes below `n`. -/
structure Grown (p q : Page) (n : NodeId) : Prop where
  linked : q.Linked
  size_le : p.size ≤ q.size
  content : ∀ m < p.size, q.content? m = p.content? m
  parent : ∀ m < p.size, q.parent? m = p.parent? m
  children : ∀ m < p.size, m ≠ n → q.children m = p.children m

namespace Grown

theorem refl (hp : p.Linked) : Grown p p n :=
  ⟨hp, Nat.le_refl _, fun _ _ => rfl, fun _ _ => rfl, fun _ _ _ => rfl⟩

theorem trans (h : Grown p q n) (h' : Grown q r n) : Grown p r n where
  linked := h'.linked
  size_le := h.size_le.trans h'.size_le
  content m hm := by rw [h'.content m (hm.trans_le h.size_le), h.content m hm]
  parent m hm := by rw [h'.parent m (hm.trans_le h.size_le), h.parent m hm]
  children m hm hn := by rw [h'.children m (hm.trans_le h.size_le) hn, h.children m hm hn]

theorem trans_new (h : Grown p q n) (hk : p.size ≤ k) (h' : Grown q r k) : Grown p r n where
  linked := h'.linked
  size_le := h.size_le.trans h'.size_le
  content m hm := by rw [h'.content m (hm.trans_le h.size_le), h.content m hm]
  parent m hm := by rw [h'.parent m (hm.trans_le h.size_le), h.parent m hm]
  children m hm hn := by
    have hmk : m ≠ k := (hm.trans_le hk).ne
    rw [h'.children m (hm.trans_le h.size_le) hmk, h.children m hm hn]

theorem isInner (h : Grown p q n) (hp : p.Linked) (hm : p.IsInner m) : q.IsInner m := by
  have hlt := hm.lt_size hp
  refine hm.imp_right fun he => ?_
  rwa [isElement_congr (h.content m hlt)]

theorem treesOf (h : Grown p q n) (hp : p.Linked) (hm : m < p.size)
    (hne : m ≠ n) (hnot : ¬ p.Above m n) : q.treesOf m = p.treesOf m := by
  refine treesOf_congr hp h.linked fun k hk => ?_
  have hlt : k < p.size := by
    rcases hk with rfl | hk
    · exact hm
    · exact hk.lt_size
  refine ⟨h.content k hlt, h.children k hlt ?_⟩
  rintro rfl
  rcases hk with rfl | hk
  · exact hne rfl
  · exact hnot hk

end Grown

/-! New nodes -/

theorem above_of_above_addChild (hp : p.Linked) (c : Content) {a b : NodeId}
    (h : (p.addChild n c).Above a b) : b ≠ p.size → p.Above a b := by
  induction h with
  | single h =>
    intro hb
    rw [parent?_addChild_ne c hb] at h
    exact .of_parent h
  | tail _ h ih =>
    intro hb
    rw [parent?_addChild_ne c hb] at h
    exact (ih (hp.parent_lt_size h).ne).trans (.of_parent h)

theorem linked_addChild (hp : p.Linked) (hn : p.IsInner n) {c : Content} (hc : c ≠ .document) :
    (p.addChild n c).Linked := by
  refine (hp.joined.addChild hn c).joined.linked (fun m hm => ?_) fun m hm => ?_
  · by_cases h : m = p.size
    · rw [h, content?_addChild_self] at hm
      exact absurd (Option.some.inj hm) hc
    · rw [content?_addChild_ne c h] at hm
      exact hp.eq_root m hm
  · by_cases h : m = p.size
    · subst h
      obtain ⟨k, hk, hmk⟩ := hm.parent
      rw [parent?_addChild_self] at hk
      have hne : k ≠ p.size := by
        rw [← Option.some.inj hk]
        exact (hn.lt_size hp).ne
      have habove := above_of_above_addChild hp c (hmk.resolve_left hne.symm) hne
      exact Nat.lt_irrefl _ (hp.above_lt_size habove)
    · exact hp.not_above_self m (above_of_above_addChild hp c hm h)

theorem grown_addChild (hp : p.Linked) (hn : p.IsInner n) {c : Content} (hc : c ≠ .document) :
    Grown p (p.addChild n c) n where
  linked := linked_addChild hp hn hc
  size_le := by
    rw [size_addChild]
    exact Nat.le_succ _
  content m hm := content?_addChild_ne c hm.ne
  parent m hm := parent?_addChild_ne c hm.ne
  children m _ hne := children_addChild_ne c hne

theorem Grown.trees_addChild (hp : p.Linked) (h : Grown p q n)
    (hchildren : q.children n = p.children n ++ [p.size]) {t : Tree}
    (ht : q.treesOf p.size = [t]) : q.trees n = p.trees n ++ [t] := by
  have hold : (p.children n).flatMap q.treesOf = (p.children n).flatMap p.treesOf := by
    refine List.flatMap_congr fun k hk => ?_
    have hkn := hp.parent_of_mem hk
    refine h.treesOf hp (lt_size_of_parent? hkn) ?_ ?_
    · rintro rfl
      exact hp.not_above_self k (.of_parent hkn)
    · exact fun habove => hp.not_above_self k (habove.trans (.of_parent hkn))
  rw [trees_eq, hchildren, List.flatMap_append, List.flatMap_singleton, ht, hold, ← trees_eq]

theorem graft_leaf (hp : p.Linked) (hn : p.IsInner n) {c : Content} (hc : c ≠ .document) {t : Tree}
    (ht : (p.addChild n c).treesOf p.size = [t]) :
    Grown p (p.addChild n c) n ∧ (p.addChild n c).trees n = p.trees n ++ [t] :=
  have h := grown_addChild hp hn hc
  ⟨h, h.trees_addChild hp (children_addChild_self c (hn.lt_size hp)) ht⟩

theorem graft_inner (hp : p.Linked) (hn : p.IsInner n) {e : Element} {ts : List Tree}
    (h : Grown (p.addChild n (.element e)) q p.size)
    (hts : q.trees p.size = (p.addChild n (.element e)).trees p.size ++ ts) :
    Grown p q n ∧ q.trees n = p.trees n ++ [.element e ts] := by
  have hlt := hn.lt_size hp
  have hadd : Grown p (p.addChild n (.element e)) n :=
    grown_addChild hp hn fun h => Content.noConfusion h
  have hall := hadd.trans_new (Nat.le_refl _) h
  refine ⟨hall, hall.trees_addChild hp ?_ ?_⟩
  · rw [h.children n (hlt.trans_le hadd.size_le) hlt.ne, children_addChild_self _ hlt]
  · have hnew : p.size < (p.addChild n (.element e)).size := size_lt_size_addChild _
    have hnone : (p.addChild n (.element e)).trees p.size = [] := by
      rw [trees_eq, children_addChild_ne _ hlt.ne', children_of_size_le (Nat.le_refl _)]
      rfl
    rw [h.linked.treesOf_eq, h.content p.size hnew, content?_addChild_self, hts, hnone,
      List.nil_append]

mutual

theorem graft_grown : (t : Tree) → ∀ {p : Page} {n : NodeId}, p.Linked → p.IsInner n →
    Grown p (p.graft n t) n ∧ (p.graft n t).trees n = p.trees n ++ [t]
  | .doctype s, p, n, hp, hn => by
    refine graft_leaf (c := .doctype s) hp hn (fun h => Content.noConfusion h) ?_
    rw [(linked_addChild hp hn fun h => Content.noConfusion h).treesOf_eq, content?_addChild_self]
  | .comment s, p, n, hp, hn => by
    refine graft_leaf (c := .comment s) hp hn (fun h => Content.noConfusion h) ?_
    rw [(linked_addChild hp hn fun h => Content.noConfusion h).treesOf_eq, content?_addChild_self]
  | .text s, p, n, hp, hn => by
    refine graft_leaf (c := .text s) hp hn (fun h => Content.noConfusion h) ?_
    rw [(linked_addChild hp hn fun h => Content.noConfusion h).treesOf_eq, content?_addChild_self]
  | .element e children, p, n, hp, hn => by
    have hadd : (p.addChild n (.element e)).Linked :=
      linked_addChild hp hn fun h => Content.noConfusion h
    obtain ⟨hgrown, htrees⟩ := graftAll_grown children hadd (isInner_addChild e)
    exact graft_inner hp hn hgrown htrees

theorem graftAll_grown : (ts : List Tree) → ∀ {p : Page} {n : NodeId}, p.Linked → p.IsInner n →
    Grown p (p.graftAll n ts) n ∧ (p.graftAll n ts).trees n = p.trees n ++ ts
  | [], _, _, hp, _ => ⟨.refl hp, by rw [graftAll, List.append_nil]⟩
  | t :: rest, p, n, hp, hn => by
    obtain ⟨hfirst, htree⟩ := graft_grown t hp hn
    obtain ⟨hrest, htrees⟩ := graftAll_grown rest hfirst.linked (hfirst.isInner hp hn)
    refine ⟨hfirst.trans hrest, ?_⟩
    rw [graftAll, htrees, htree, List.append_assoc, List.singleton_append]

end

def contentOf : Tree → Content
  | .doctype s => .doctype s
  | .comment s => .comment s
  | .text s => .text s
  | .element e _ => .element e

theorem graft_last (hp : p.Linked) (hn : p.IsInner n) (t : Tree) :
    (p.graft n t).children n = p.children n ++ [p.size] ∧
      (p.graft n t).content? p.size = some (contentOf t) := by
  have hlt := hn.lt_size hp
  cases t with
  | doctype s => exact ⟨children_addChild_self _ hlt, content?_addChild_self _⟩
  | comment s => exact ⟨children_addChild_self _ hlt, content?_addChild_self _⟩
  | text s => exact ⟨children_addChild_self _ hlt, content?_addChild_self _⟩
  | element e children =>
    have hadd : Grown p (p.addChild n (.element e)) n :=
      grown_addChild hp hn fun h => Content.noConfusion h
    have hgrown := (graftAll_grown children hadd.linked (isInner_addChild e)).1
    constructor
    · exact (hgrown.children n (hlt.trans_le hadd.size_le) hlt.ne).trans
        (children_addChild_self _ hlt)
    · exact (hgrown.content p.size (size_lt_size_addChild _)).trans (content?_addChild_self _)

end ContentBinding.Markup.Page
