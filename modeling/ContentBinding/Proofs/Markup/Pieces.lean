import ContentBinding.Proofs.Markup.Joined

/-! The markup of a page in pieces, each of which belongs to a node. The pieces of an element stand
around those of what is in it, in document order; so every element that is not written without end
tag has one start tag and one end tag, with its content between them. -/

namespace ContentBinding.Markup

/-- What a piece of markup is to its node. -/
inductive Part
  | opening | closing | whole
  deriving Repr, DecidableEq

structure Piece where
  node : NodeId
  part : Part
  text : String
  deriving Repr, DecidableEq

namespace Piece

variable {n : NodeId} {ps : List Piece}

def join : List Piece → String
  | [] => ""
  | x :: rest => x.text ++ join rest

def starts (ps : List Piece) : List NodeId :=
  (ps.filter (·.part = .opening)).map (·.node)

theorem join_append (ps qs : List Piece) : join (ps ++ qs) = join ps ++ join qs := by
  induction ps with
  | nil => exact String.empty_append.symm
  | cons x ps ih => rw [List.cons_append, join, join, ih, String.append_assoc]

theorem starts_append (ps qs : List Piece) : starts (ps ++ qs) = starts ps ++ starts qs := by
  rw [starts, List.filter_append, List.map_append]
  rfl

theorem starts_flatMap {α : Type} (f : α → List Piece) (l : List α) :
    starts (l.flatMap f) = l.flatMap fun a => starts (f a) := by
  induction l with
  | nil => rfl
  | cons a l ih => rw [List.flatMap_cons, List.flatMap_cons, starts_append, ih]

theorem mem_starts : n ∈ starts ps ↔ ∃ x ∈ ps, x.part = .opening ∧ x.node = n := by
  simp [starts, and_assoc]

/-- The pieces hold one start tag and one end tag of the element, around those of its content. -/
structure Enclosed (t : NodeId) (e : Element) (ps front inside back : List Piece) : Prop where
  pieces_eq : ps = front ++ ⟨t, .opening, Tree.startTag e⟩ ::
    (inside ++ ⟨t, .closing, Tree.endTag e⟩ :: back)
  others : ∀ x ∈ front ++ (inside ++ back), x.node ≠ t

namespace Enclosed

variable {t : NodeId} {e : Element} {ps qs front inside back : List Piece}

theorem ne_nil (h : Enclosed t e ps front inside back) : ps ≠ [] := by
  rw [h.pieces_eq]
  exact List.append_ne_nil_of_right_ne_nil _ (List.cons_ne_nil _ _)

theorem prepend (h : Enclosed t e ps front inside back) (hqs : ∀ x ∈ qs, x.node ≠ t) :
    Enclosed t e (qs ++ ps) (qs ++ front) inside back where
  pieces_eq := by rw [h.pieces_eq, List.append_assoc]
  others x hx := by
    rw [List.append_assoc] at hx
    exact (List.mem_append.mp hx).elim (hqs x) (h.others x)

theorem append (h : Enclosed t e ps front inside back) (hqs : ∀ x ∈ qs, x.node ≠ t) :
    Enclosed t e (ps ++ qs) front inside (back ++ qs) where
  pieces_eq := by simp only [h.pieces_eq, List.append_assoc, List.cons_append]
  others x hx := by
    rw [← List.append_assoc inside, ← List.append_assoc front] at hx
    exact (List.mem_append.mp hx).elim (h.others x) (hqs x)

end Enclosed
end Piece

namespace Page

open Piece (Enclosed join starts)

def enclose (n : NodeId) (e : Element) (inside : List Piece) : List Piece :=
  if Tree.voidNames.contains e.name && inside.isEmpty then [⟨n, .opening, Tree.startTag e⟩]
  else ⟨n, .opening, Tree.startTag e⟩ :: (inside ++ [⟨n, .closing, Tree.endTag e⟩])

/-- The pieces at a node, to a depth; the document stands for its children. -/
def piecesAt (p : Page) : Nat → Bool → NodeId → List Piece
  | 0, _, _ => []
  | depth + 1, raw, n =>
    match p.content? n with
    | none => []
    | some .document => (p.children n).flatMap (p.piecesAt depth raw)
    | some (.doctype s) => [⟨n, .whole, Tree.render raw (.doctype s)⟩]
    | some (.comment s) => [⟨n, .whole, Tree.render raw (.comment s)⟩]
    | some (.text s) => [⟨n, .whole, Tree.render raw (.text s)⟩]
    | some (.element e) =>
      enclose n e ((p.children n).flatMap (p.piecesAt depth (Tree.isRawName e.name)))

def pieces (p : Page) : List Piece :=
  (p.children root).flatMap (p.piecesAt (p.nodes.size + 1) false)

variable {p : Page} {n m t : NodeId} {d k : Nat} {raw : Bool} {e : Element} {inside : List Piece}
  {x : Piece}

/-! The pieces make up the markup -/

theorem renderAll_append (raw : Bool) (ts us : List Tree) :
    Tree.renderAll raw (ts ++ us) = Tree.renderAll raw ts ++ Tree.renderAll raw us := by
  induction ts with
  | nil => exact String.empty_append.symm
  | cons t ts ih => rw [List.cons_append, Tree.renderAll, Tree.renderAll, ih, String.append_assoc]

theorem enclose_ne_nil : enclose n e inside ≠ [] := by
  unfold enclose
  split <;> exact List.cons_ne_nil _ _

theorem piecesAt_eq_nil_iff (p : Page) (d : Nat) (raw : Bool) (n : NodeId) :
    p.piecesAt d raw n = [] ↔ p.treesAt d n = [] := by
  induction d generalizing raw n with
  | zero => exact iff_of_true rfl rfl
  | succ d ih =>
    rw [piecesAt, treesAt_succ]
    cases p.content? n with
    | none => exact iff_of_true rfl rfl
    | some content =>
      cases content with
      | document =>
        dsimp only
        rw [List.flatMap_eq_nil_iff, List.flatMap_eq_nil_iff]
        exact forall₂_congr fun c _ => ih raw c
      | element e => exact iff_of_false enclose_ne_nil (List.cons_ne_nil _ _)
      | _ => exact iff_of_false (List.cons_ne_nil _ _) (List.cons_ne_nil _ _)

theorem join_flatMap {f : NodeId → List Piece} {g : NodeId → List Tree}
    (h : ∀ n, join (f n) = Tree.renderAll raw (g n)) (ns : List NodeId) :
    join (ns.flatMap f) = Tree.renderAll raw (ns.flatMap g) := by
  induction ns with
  | nil => rfl
  | cons n ns ih =>
    rw [List.flatMap_cons, List.flatMap_cons, Piece.join_append, renderAll_append, h, ih]

theorem join_enclose {ts : List Tree} (hnil : inside = [] ↔ ts = [])
    (hjoin : join inside = Tree.renderAll (Tree.isRawName e.name) ts) :
    join (enclose n e inside) = Tree.renderAll raw [.element e ts] := by
  have hempty : inside.isEmpty = ts.isEmpty := by
    rw [Bool.eq_iff_iff, List.isEmpty_iff, List.isEmpty_iff, hnil]
  rw [Tree.renderAll, Tree.renderAll, String.append_empty, Tree.render, enclose, hempty]
  split
  · rw [join, join, String.append_empty]
  · rw [join, Piece.join_append, join, join, String.append_empty, hjoin]

theorem join_piecesAt (p : Page) (d : Nat) (raw : Bool) (n : NodeId) :
    join (p.piecesAt d raw n) = Tree.renderAll raw (p.treesAt d n) := by
  induction d generalizing raw n with
  | zero => rfl
  | succ d ih =>
    rw [piecesAt, treesAt_succ]
    cases p.content? n with
    | none => rfl
    | some content =>
      cases content with
      | document => exact join_flatMap (ih raw) _
      | element e =>
        refine join_enclose ?_ (join_flatMap (ih _) _)
        rw [List.flatMap_eq_nil_iff, List.flatMap_eq_nil_iff]
        exact forall₂_congr fun c _ => p.piecesAt_eq_nil_iff d _ c
      | _ => rfl

/-- The pieces of a page are its markup. -/
theorem join_pieces (p : Page) : join p.pieces = p.render :=
  join_flatMap (p.join_piecesAt _ false) _

/-! The pieces at a node -/

theorem piecesAt_element (h : p.element? n = some e) (d : Nat) (raw : Bool) :
    p.piecesAt (d + 1) raw n =
      enclose n e ((p.children n).flatMap (p.piecesAt d (Tree.isRawName e.name))) := by
  rw [piecesAt, content?_of_element? h]

theorem enclose_eq (h : Tree.voidNames.contains e.name = false ∨ inside ≠ []) :
    enclose n e inside =
      ⟨n, .opening, Tree.startTag e⟩ :: (inside ++ [⟨n, .closing, Tree.endTag e⟩]) := by
  rw [enclose, if_neg]
  rw [Bool.and_eq_true, List.isEmpty_iff, not_and_or, Bool.not_eq_true]
  exact h

theorem mem_enclose (hx : x ∈ enclose n e inside) : x.node = n ∨ x ∈ inside := by
  unfold enclose at hx
  split at hx
  · rw [List.mem_singleton.mp hx]
    exact .inl rfl
  · rcases List.mem_cons.mp hx with rfl | hx
    · exact .inl rfl
    · rcases List.mem_append.mp hx with hx | hx
      · exact .inr hx
      · rw [List.mem_singleton.mp hx]
        exact .inl rfl

theorem starts_enclose : starts (enclose n e inside) = n :: starts inside := by
  unfold enclose
  split
  · next h =>
    rw [Bool.and_eq_true, List.isEmpty_iff] at h
    rw [h.2]
    rfl
  · rw [← List.singleton_append, Piece.starts_append, Piece.starts_append]
    exact congrArg (n :: ·) (List.append_nil _)

namespace Joined

theorem eq_or_above_of_mem_piecesAt (hp : p.Joined) (hx : x ∈ p.piecesAt d raw n) :
    n = x.node ∨ p.Above n x.node := by
  induction d generalizing raw n with
  | zero => exact absurd hx List.not_mem_nil
  | succ d ih =>
    have hbelow {raw : Bool} (h : x ∈ (p.children n).flatMap (p.piecesAt d raw)) :
        n = x.node ∨ p.Above n x.node := by
      obtain ⟨c, hc, hxc⟩ := List.mem_flatMap.mp h
      have hnc : p.Above n c := .of_parent ((hp.mem_children n c).mp hc)
      rcases ih hxc with rfl | habove
      · exact .inr hnc
      · exact .inr (hnc.trans habove)
    rw [piecesAt] at hx
    cases hcontent : p.content? n with
    | none =>
      rw [hcontent] at hx
      exact absurd hx List.not_mem_nil
    | some content =>
      rw [hcontent] at hx
      cases content with
      | document => exact hbelow hx
      | element e =>
        rcases mem_enclose hx with heq | hx
        · exact .inl heq.symm
        · exact hbelow hx
      | _ => exact .inl (congrArg Piece.node (List.mem_singleton.mp hx)).symm

theorem children_eq_nil_of_content (hp : p.Joined) (hroot : n ≠ root) (h : p.isElement n = false) :
    p.children n = [] := by
  refine List.eq_nil_iff_forall_not_mem.mpr fun c hc => ?_
  rcases hp.inner n c ((hp.mem_children n c).mp hc) with hn | hn
  · exact hroot hn
  · exact absurd (hn.symm.trans h) Bool.noConfusion

theorem ne_root_of_attached (hp : p.Joined) (hn : p.Attached n) : n ≠ root := by
  rintro rfl
  exact hp.not_above_root hn

theorem isElement_of_above (hp : p.Joined) (hn : p.Attached n) (h : p.Above n t) :
    p.isElement n := by
  obtain ⟨c, hc, _⟩ := Relation.TransGen.head'_iff.mp h
  exact (hp.inner n c hc).resolve_left (hp.ne_root_of_attached hn)

theorem attached_of_mem_pieces (hp : p.Joined) (hx : x ∈ p.pieces) : p.Attached x.node := by
  obtain ⟨c, hc, hxc⟩ := List.mem_flatMap.mp hx
  have hroot : p.Attached c := .of_parent ((hp.mem_children root c).mp hc)
  rcases hp.eq_or_above_of_mem_piecesAt hxc with rfl | habove
  · exact hroot
  · exact hroot.trans habove

/-! Document order -/

theorem children_eq_nil_of_height (hp : p.Joined) (hn : n = root ∨ p.Attached n)
    (h : p.height n = 0) : p.children n = [] := by
  refine List.eq_nil_iff_forall_not_mem.mpr fun c hc => ?_
  have hlt := hp.height_lt hn ((hp.mem_children n c).mp hc)
  omega

theorem starts_inside (hp : p.Joined) (hn : n = root ∨ p.Attached n) (hk : p.height n ≤ k)
    (ih : ∀ c j, p.parent? c = some n → p.height c ≤ j →
      starts (p.piecesAt d raw c) = (c :: p.below j c).filter p.isElement) :
    starts ((p.children n).flatMap (p.piecesAt d raw)) = (p.below k n).filter p.isElement := by
  rw [Piece.starts_flatMap]
  cases k with
  | zero =>
    rw [hp.children_eq_nil_of_height hn (Nat.le_zero.mp hk)]
    rfl
  | succ k =>
    rw [below, List.filter_flatMap]
    refine List.flatMap_congr fun c hc => ?_
    have hparent := (hp.mem_children n c).mp hc
    have hlt := hp.height_lt hn hparent
    exact ih c k hparent (by omega)

theorem starts_piecesAt (hp : p.Joined) (hn : p.Attached n) (hd : p.height n < d)
    (hk : p.height n ≤ k) : starts (p.piecesAt d raw n) = (n :: p.below k n).filter p.isElement := by
  induction d generalizing k raw n with
  | zero => exact absurd hd (Nat.not_lt_zero _)
  | succ d ih =>
    have hinside (raw : Bool) : starts ((p.children n).flatMap (p.piecesAt d raw)) =
        (p.below k n).filter p.isElement := by
      refine hp.starts_inside (.inr hn) hk fun c j hc hj => ?_
      have hlt := hp.height_lt (.inr hn) hc
      exact ih (attached_of_parent (.inr hn) hc) (by omega) hj
    by_cases helement : p.isElement n
    · obtain ⟨e, he⟩ := Option.isSome_iff_exists.mp helement
      rw [piecesAt_element he, starts_enclose, hinside, List.filter_cons_of_pos helement]
    · have hnil : p.children n = [] :=
        hp.children_eq_nil_of_content (hp.ne_root_of_attached hn) (Bool.not_eq_true _ ▸ helement)
      rw [List.filter_cons_of_neg helement, ← hinside raw, hnil, piecesAt]
      split
      · rfl
      · rw [hnil]
      · rfl
      · rfl
      · rfl
      · next e he =>
        refine absurd ?_ helement
        rw [isElement, element?, he]
        rfl

theorem starts_pieces (hp : p.Joined) : starts p.pieces = p.elements := by
  refine hp.starts_inside (.inl rfl) (p.height_le root) fun c j hc hj => ?_
  have hle := p.height_le c
  exact hp.starts_piecesAt (attached_of_parent (.inl rfl) hc) (Nat.lt_succ_of_le hle) hj

theorem attached_of_mem_elements (hp : p.Joined) (hn : n ∈ p.elements) : p.Attached n := by
  rw [← hp.starts_pieces, Piece.mem_starts] at hn
  obtain ⟨x, hx, _, rfl⟩ := hn
  exact hp.attached_of_mem_pieces hx

/-! The tags of one element -/

theorem exists_enclosed_children (hp : p.Joined) (hm : m = root ∨ p.Attached m)
    (hmt : p.Above m t) (ih : ∀ c, p.parent? c = some m → c = t ∨ p.Above c t →
      ∃ front inside back, Enclosed t e (p.piecesAt d raw c) front inside back) :
    ∃ front inside back,
      Enclosed t e ((p.children m).flatMap (p.piecesAt d raw)) front inside back := by
  obtain ⟨c, hc, hct⟩ := Relation.TransGen.head'_iff.mp hmt
  have hct : c = t ∨ p.Above c t := (Relation.reflTransGen_iff_eq_or_transGen.mp hct).imp_left Eq.symm
  obtain ⟨before, after, hchildren⟩ := List.append_of_mem ((hp.mem_children m c).mpr hc)
  have hnodup := hp.children_nodup m
  rw [hchildren] at hnodup
  have hothers {cs : List NodeId} (hcs : ∀ k ∈ cs, k ∈ p.children m ∧ k ≠ c) :
      ∀ x ∈ cs.flatMap (p.piecesAt d raw), x.node ≠ t := by
    rintro x hx rfl
    obtain ⟨k, hk, hxk⟩ := List.mem_flatMap.mp hx
    obtain ⟨hkm, hkc⟩ := hcs k hk
    exact hkc (hp.eq_of_siblings hm ((hp.mem_children m k).mp hkm) hc
      (hp.eq_or_above_of_mem_piecesAt hxk) hct)
  have hbefore : ∀ k ∈ before, k ∈ p.children m ∧ k ≠ c := by
    refine fun k hk => ⟨hchildren ▸ List.mem_append_left _ hk, ?_⟩
    exact (List.nodup_append.mp hnodup).2.2 k hk c List.mem_cons_self
  have hafter : ∀ k ∈ after, k ∈ p.children m ∧ k ≠ c := by
    refine fun k hk => ⟨hchildren ▸ List.mem_append_right _ (List.mem_cons_of_mem c hk), ?_⟩
    rintro rfl
    exact (List.nodup_cons.mp (List.nodup_append.mp hnodup).2.1).1 hk
  obtain ⟨front, inside, back, h⟩ := ih c hc hct
  rw [hchildren, List.flatMap_append, List.flatMap_cons]
  exact ⟨_, inside, _, (h.append (hothers hafter)).prepend (hothers hbefore)⟩

theorem exists_enclosed_piecesAt (hp : p.Joined) (ht : p.Attached t) (he : p.element? t = some e)
    (hvoid : Tree.voidNames.contains e.name = false) (hm : p.Attached m)
    (hmt : m = t ∨ p.Above m t) (hd : p.height m < d) :
    ∃ front inside back, Enclosed t e (p.piecesAt d raw m) front inside back := by
  induction d generalizing raw m with
  | zero => exact absurd hd (Nat.not_lt_zero _)
  | succ d ih =>
    rcases hmt with rfl | hmt
    · rw [piecesAt_element he, enclose_eq (.inl hvoid)]
      refine ⟨[], _, [], rfl, ?_⟩
      -- a piece of `m` among those inside would put `m` above itself
      rintro x hx rfl
      rw [List.nil_append, List.append_nil] at hx
      obtain ⟨c, hc, hxc⟩ := List.mem_flatMap.mp hx
      have hparent : p.Above x.node c := .of_parent ((hp.mem_children _ c).mp hc)
      refine hp.not_above_self ht ?_
      rcases hp.eq_or_above_of_mem_piecesAt hxc with rfl | habove
      · exact hparent
      · exact hparent.trans habove
    · -- the way down leads through one child; the tags of `m` are not of `t`
      have hne : m ≠ t := by
        rintro rfl
        exact hp.not_above_self ht hmt
      obtain ⟨e', he'⟩ := Option.isSome_iff_exists.mp (hp.isElement_of_above hm hmt)
      have hchildren : ∃ front inside back, Enclosed t e ((p.children m).flatMap
          (p.piecesAt d (Tree.isRawName e'.name))) front inside back := by
        refine hp.exists_enclosed_children (.inr hm) hmt fun c hc hct => ?_
        have hlt := hp.height_lt (.inr hm) hc
        exact ih (attached_of_parent (.inr hm) hc) hct (by omega)
      obtain ⟨front, inside, back, h⟩ := hchildren
      rw [piecesAt_element he', enclose_eq (.inr h.ne_nil), ← List.singleton_append]
      have htags {part : Part} {text : String} : ∀ x ∈ [Piece.mk m part text], x.node ≠ t := by
        intro x hx
        rw [List.mem_singleton.mp hx]
        exact hne
      exact ⟨_, inside, _, (h.append htags).prepend htags⟩

/-- An element of the page that is never written without end tag has one of each tag. -/
theorem exists_enclosed_pieces (hp : p.Joined) (ht : p.Attached t) (he : p.element? t = some e)
    (hvoid : Tree.voidNames.contains e.name = false) :
    ∃ front inside back, Enclosed t e p.pieces front inside back := by
  refine hp.exists_enclosed_children (.inl rfl) ht fun c hc hct => ?_
  exact hp.exists_enclosed_piecesAt ht he hvoid (attached_of_parent (.inl rfl) hc) hct
    (Nat.lt_succ_of_le (p.height_le c))

end Joined
end Page
end ContentBinding.Markup
