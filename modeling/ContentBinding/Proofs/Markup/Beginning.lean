import Mathlib
import ContentBinding.Proofs.Markup.Invariants
import ContentBinding.Proofs.Markup.Views

/-! How a page begins. The first child of the document is a doctype, a comment or the outermost
element, and no step of the builder puts anything before it or takes it away; so the markup of a
page that was read begins with a tag, whatever text it was read from. -/

set_option mvcgen.warning false

namespace ContentBinding.Markup

def Content.isLead : Content → Bool
  | .doctype _ => true
  | .comment _ => true
  | .element e => e.name = "html"
  | _ => false

namespace Page

/-- The page begins with the node. -/
structure LedBy (p : Page) (f : NodeId) : Prop where
  root_eq : p.content? root = some .document
  children_eq : ∃ rest, p.children root = f :: rest
  content_eq : ∃ c, p.content? f = some c ∧ c.isLead = true

namespace LedBy

variable {p q : Page} {f n m : NodeId}

theorem root_lt_size (h : p.LedBy f) : root < p.size :=
  lt_size_of_content? h.root_eq

theorem lt_size (h : p.LedBy f) : f < p.size := by
  obtain ⟨c, hc, -⟩ := h.content_eq
  exact lt_size_of_content? hc

theorem unique {g : NodeId} (h : p.LedBy f) (hg : p.LedBy g) : f = g := by
  obtain ⟨rest, hrest⟩ := h.children_eq
  obtain ⟨others, hothers⟩ := hg.children_eq
  exact (List.cons.inj (hrest.symm.trans hothers)).1

theorem congr (h : p.LedBy f) (hroot : q.content? root = p.content? root)
    (hchildren : q.children root = p.children root) (hcontent : q.content? f = p.content? f) :
    q.LedBy f where
  root_eq := hroot.trans h.root_eq
  children_eq := hchildren ▸ h.children_eq
  content_eq := hcontent ▸ h.content_eq

theorem nameOf_ne (h : p.LedBy f) {name : String} (hname : name ≠ "html") (hne : name ≠ "") :
    p.nameOf f ≠ name := by
  obtain ⟨c, hc, hlead⟩ := h.content_eq
  unfold nameOf element?
  rw [hc]
  cases c with
  | element e => exact fun heq => hname (heq ▸ of_decide_eq_true hlead)
  | _ => exact hne.symm

theorem ne_root_of_isElement (h : p.LedBy f) (hn : p.isElement n) : n ≠ root := by
  intro hroot
  subst hroot
  unfold isElement element? at hn
  rw [h.root_eq] at hn
  exact Bool.false_ne_true hn

theorem text?_root (h : p.LedBy f) : p.text? root = none := by
  unfold text?
  rw [h.root_eq]

theorem text?_eq (h : p.LedBy f) : p.text? f = none := by
  obtain ⟨c, hc, hlead⟩ := h.content_eq
  unfold text?
  rw [hc]
  cases c with
  | text s => exact absurd hlead Bool.false_ne_true
  | _ => rfl

theorem create (h : p.LedBy f) (c : Content) : (p.create c).1.LedBy f :=
  h.congr (content?_create_ne p c (Nat.ne_of_lt h.root_lt_size)) (children_create ..)
    (content?_create_ne p c (Nat.ne_of_lt h.lt_size))

theorem setChildren (h : p.LedBy f) (n : NodeId) {ids : List NodeId}
    (hids : n = root → ∃ rest, ids = f :: rest) : (p.setChildren n ids).LedBy f where
  root_eq := by
    rw [content?_setChildren]
    exact h.root_eq
  children_eq := by
    by_cases hn : n = root
    · subst hn
      rw [children_setChildren_self p ids h.root_lt_size]
      exact hids rfl
    · rw [children_setChildren_ne p ids (Ne.symm hn)]
      exact h.children_eq
  content_eq := by
    rw [content?_setChildren]
    exact h.content_eq

theorem setParent (h : p.LedBy f) (n : NodeId) (x : Option NodeId) : (p.setParent n x).LedBy f :=
  h.congr (content?_setParent ..) (children_setParent ..) (content?_setParent ..)

theorem detach (h : p.LedBy f) (hn : n ≠ f) : (p.detach n).LedBy f := by
  unfold Page.detach
  split
  · exact h
  · refine (h.setChildren _ fun hroot => ?_).setParent _ _
    obtain ⟨rest, hrest⟩ := h.children_eq
    have hkeep : (f != n) = true := bne_iff_ne.mpr hn.symm
    rw [hroot, hrest, List.filter_cons, if_pos hkeep]
    exact ⟨_, rfl⟩

theorem append (h : p.LedBy f) (hn : n ≠ f) (parent : NodeId) : (p.append parent n).LedBy f := by
  refine ((h.detach hn).setChildren _ fun hroot => ?_).setParent _ _
  obtain ⟨rest, hrest⟩ := (h.detach hn).children_eq
  rw [hroot, hrest]
  exact ⟨_, rfl⟩

theorem insertBefore (h : p.LedBy f) (hn : n ≠ f) (hm : m ≠ f) (parent : NodeId) :
    (p.insertBefore parent m n).LedBy f := by
  refine ((h.detach hn).setChildren _ fun hroot => ?_).setParent _ _
  obtain ⟨rest, hrest⟩ := (h.detach hn).children_eq
  rw [hroot, hrest, insertInto, if_neg hm.symm]
  exact ⟨_, rfl⟩

theorem setContent_of_ne (h : p.LedBy f) (hn : n ≠ f) (hroot : n ≠ root) (c : Content) :
    (p.setContent n c).LedBy f :=
  h.congr (content?_setContent_ne p c hroot.symm) (children_setContent ..)
    (content?_setContent_ne p c hn.symm)

theorem setContent_text (h : p.LedBy f) {s : String} (hn : p.text? n = some s) (c : Content) :
    (p.setContent n c).LedBy f := by
  refine h.setContent_of_ne (fun heq => ?_) (fun heq => ?_) c
  · rw [heq, h.text?_eq] at hn
    cases hn
  · rw [heq, h.text?_root] at hn
    cases hn

theorem updateElement (h : p.LedBy f) (n : NodeId) {g : Element → Element}
    (hg : ∀ e, (g e).name = e.name) : (p.updateElement n g).LedBy f := by
  unfold Page.updateElement
  split
  · next e he =>
    have hroot : n ≠ root := h.ne_root_of_isElement (Option.isSome_iff_exists.mpr ⟨e, he⟩)
    by_cases hn : n = f
    · subst hn
      obtain ⟨c, hc, hlead⟩ := h.content_eq
      obtain rfl := Option.some.inj (hc.symm.trans (content?_of_element? he))
      refine ⟨?_, ?_, .element (g e), content?_setContent_self p _ h.lt_size, ?_⟩
      · rw [content?_setContent_ne p _ hroot.symm]
        exact h.root_eq
      · rw [children_setContent]
        exact h.children_eq
      · rw [Content.isLead, hg]
        exact hlead
    · exact h.setContent_of_ne hn hroot _
  · exact h

theorem moveChildren (h : p.LedBy f) (hn : n ≠ root) (m : NodeId) :
    (p.moveChildren n m).LedBy f := by
  have hfold (cs : List NodeId) (q : Page) (hq : q.LedBy f) :
      (cs.foldl (fun p c => p.setParent c (some m)) q).LedBy f := by
    induction cs generalizing q with
    | nil => exact hq
    | cons c cs ih => exact ih _ (hq.setParent c (some m))
  refine hfold _ _ ((h.setChildren n fun hroot => absurd hroot hn).setChildren m fun hroot => ?_)
  obtain ⟨rest, hrest⟩ := h.children_eq
  rw [hroot, hrest]
  exact ⟨_, rfl⟩

end LedBy
end Page

namespace Build

open Std.Do

/-- The page begins with the node, which stays where it is: among the open elements only the
outermost can be this node, and none is the document. -/
structure Guards (f : NodeId) (p : Page) (stack : List NodeId) (head : Option NodeId) : Prop where
  page : p.LedBy f
  inner : ∀ n ∈ stack.reverse.tail, n ≠ f
  opened : ∀ n ∈ stack, n ≠ Page.root
  head : ∀ n ∈ head, n ≠ f ∧ n ≠ Page.root

theorem mem_tail_replaceFirst {n m k : NodeId} {s : List NodeId}
    (h : k ∈ (replaceFirst n m s).tail) : k ∈ s.tail ∨ k = m := by
  cases s with
  | nil => exact absurd h List.not_mem_nil
  | cons a s =>
    rw [replaceFirst] at h
    split at h
    · exact .inl h
    · exact mem_replaceFirst h

namespace Guards

variable {f n : NodeId} {p : Page} {stack s : List NodeId} {head : Option NodeId}

theorem of_sublist (h : Guards f p stack head) (hs : s.Sublist stack) : Guards f p s head where
  page := h.page
  inner n hn := h.inner n (hs.reverse.tail.subset hn)
  opened n hn := h.opened n (hs.subset hn)
  head := h.head

theorem push (h : Guards f p stack head) (hn : n ≠ f) (hroot : n ≠ Page.root) :
    Guards f p (n :: stack) head where
  page := h.page
  inner m hm := by
    rw [List.reverse_cons] at hm
    cases hs : stack.reverse with
    | nil =>
      rw [hs] at hm
      exact absurd hm List.not_mem_nil
    | cons k ks =>
      rw [hs, List.cons_append, List.tail_cons] at hm
      rcases List.mem_append.mp hm with hm | hm
      · exact h.inner m (hs ▸ hm)
      · exact List.mem_singleton.mp hm ▸ hn
  opened m hm := by
    rcases List.mem_cons.mp hm with rfl | hm
    · exact hroot
    · exact h.opened m hm
  head := h.head

theorem setPage (h : Guards f p stack head) {q : Page} (hq : q.LedBy f) : Guards f q stack head :=
  { h with page := hq }

/-! The open elements, outermost first -/

theorem erase (h : Guards f p s.reverse head) : Guards f p (s.erase n).reverse head :=
  h.of_sublist List.erase_sublist.reverse

theorem replaceFirst (h : Guards f p s.reverse head) {m : NodeId} (hm : m ≠ f)
    (hroot : m ≠ Page.root) : Guards f p (replaceFirst n m s).reverse head where
  page := h.page
  inner k hk := by
    rw [List.reverse_reverse] at hk
    rcases mem_tail_replaceFirst hk with hk | rfl
    · exact h.inner k (by rwa [List.reverse_reverse])
    · exact hm
  opened k hk := by
    rcases mem_replaceFirst (List.mem_reverse.mp hk) with hk | rfl
    · exact h.opened k (List.mem_reverse.mpr hk)
    · exact hroot
  head := h.head

theorem insert (h : Guards f p s.reverse head) {m : NodeId} (hm : m ≠ f) (hroot : m ≠ Page.root)
    (i : Nat) : Guards f p (s.take (i + 1) ++ m :: s.drop (i + 1)).reverse head where
  page := h.page
  inner k hk := by
    rw [List.reverse_reverse] at hk
    cases s with
    | nil => exact absurd hk List.not_mem_nil
    | cons a s =>
      rw [List.take_succ_cons, List.drop_succ_cons, List.cons_append, List.tail_cons] at hk
      rw [List.mem_append, List.mem_cons, or_left_comm, ← List.mem_append,
        List.take_append_drop] at hk
      rcases hk with rfl | hk
      · exact hm
      · exact h.inner k (by rwa [List.reverse_reverse])
  opened k hk := by
    rw [List.mem_reverse, List.mem_append, List.mem_cons, or_left_comm, ← List.mem_append,
      List.take_append_drop] at hk
    rcases hk with rfl | hk
    · exact hroot
    · exact h.opened k (List.mem_reverse.mpr hk)
  head := h.head

theorem split (h : Guards f p s.reverse head) {block : NodeId} (hblock : block ≠ Page.root)
    (c : Content) (i : Nat) :
    Guards f (((p.create c).1.moveChildren block p.size).append block p.size)
      (s.take (i + 1) ++ p.size :: s.drop (i + 1)).reverse head := by
  have hnew := Nat.ne_of_gt h.page.lt_size
  have hled := ((h.page.create c).moveChildren hblock p.size).append hnew block
  exact Guards.insert { h with page := hled } hnew (Nat.ne_of_gt h.page.root_lt_size) i

end Guards

def Led (b : Builder) : Prop :=
  ∃ f, Guards f b.page b.stack b.head

theorem Led.setPage {b : Builder} (h : Led b) {p : Page}
    (hp : ∀ f, b.page.LedBy f → p.LedBy f) : Led { b with page := p } :=
  h.imp fun f h => { h with page := hp f h.page }

abbrev Keeps {α : Type} (step : Build α) : Prop :=
  ⦃fun b => ⌜Led b⌝⦄ step ⦃⇓ _ b => ⌜Led b⌝⦄

section Steps

variable {f n : NodeId} {b : Builder} {t : Tag} {name : String} {mode : Mode}

/-! Insertion -/

theorem ledBy_appendText {p : Page} (h : p.LedBy f) (s : String) : (appendText p n s).LedBy f := by
  have hnew : p.size ≠ f := Nat.ne_of_gt h.lt_size
  unfold appendText
  split
  · split
    · next htext => exact h.setContent_text htext _
    · exact (h.create _).append hnew n
  · exact (h.create _).append hnew n

theorem ledBy_insertTextBefore {p : Page} (h : p.LedBy f) {m : NodeId} (hm : m ≠ f) (s : String) :
    (insertTextBefore p n m s).LedBy f := by
  have hnew : p.size ≠ f := Nat.ne_of_gt h.lt_size
  have hfresh := (h.create (.text s)).insertBefore hnew hm n
  unfold insertTextBefore
  dsimp only
  split
  · split
    · next htext => exact h.setContent_text htext _
    · exact hfresh
  · exact hfresh

theorem ledBy_placeText {p : Page} (h : p.LedBy f) {before : Option NodeId}
    (hbefore : ∀ m ∈ before, m ≠ f) (s : String) : (placeText p n before s).LedBy f := by
  cases before with
  | none => exact ledBy_appendText h s
  | some m => exact ledBy_insertTextBefore h (hbefore m rfl) s

theorem ledBy_placeNode {p : Page} (h : p.LedBy f) {before : Option NodeId} {m : NodeId}
    (hm : m ≠ f) (hbefore : ∀ m ∈ before, m ≠ f) : (placeNode p n before m).LedBy f := by
  cases before with
  | none => exact h.append hm n
  | some ref => exact h.insertBefore hm (hbefore ref rfl) n

theorem fosterPlace_ne (h : b.page.LedBy f) : ∀ m ∈ (fosterPlace b).2, m ≠ f := by
  intro m hm heq
  subst heq
  unfold fosterPlace at hm
  split at hm
  · next table outer hdrop =>
    have htable : b.page.nameOf table = "table" := by
      have hhead := List.head?_dropWhile_not (fun n => b.page.nameOf n != "table") b.stack
      rw [hdrop] at hhead
      simpa using hhead
    split at hm
    · obtain rfl := Option.some.inj hm
      exact h.nameOf_ne (by decide) (by decide) htable
    · cases hm
  · cases hm

theorem insertionPlace_ne (h : b.page.LedBy f) (fosters : Bool) (n : NodeId) :
    ∀ m ∈ (if fosters then fosterPlace b else (n, none)).2, m ≠ f := by
  cases fosters with
  | true => exact fosterPlace_ne h
  | false => exact nofun

theorem spec_insertionPlace : ⦃fun b => ⌜Led b⌝⦄ insertionPlace
    ⦃⇓ place b => ⌜Led b ∧ ∀ f, b.page.LedBy f → ∀ m ∈ place.2, m ≠ f⌝⦄ := by
  mvcgen [insertionPlace]
  next h _ => exact ⟨h, fun f hf => insertionPlace_ne hf _ _⟩

theorem keeps_insertText (cs : List Char) : Keeps (insertText cs) := by
  mvcgen [insertText, setPage, spec_insertionPlace]
  next h _ => exact h.1.setPage fun f hf => ledBy_placeText hf (h.2 f hf) _

theorem keeps_insertComment (s : String) : Keeps (insertComment n s) := by
  mvcgen [insertComment, setPage]
  next h _ =>
    exact h.setPage fun f hf => (hf.create _).append (Nat.ne_of_gt hf.lt_size) _

theorem spec_insertNode (e : Element) : ⦃fun b => ⌜Led b⌝⦄ insertNode e
    ⦃⇓ _ b => ⌜Led b ∧ ∀ m ∈ b.stack.head?, ∀ f, b.page.LedBy f → m ≠ f ∧ m ≠ Page.root⌝⦄ := by
  mvcgen [insertNode, setPage, push, spec_insertionPlace]
  next place b h _ _ =>
    obtain ⟨⟨f, hguards⟩, hbefore⟩ := h
    have hnew := Nat.ne_of_gt hguards.page.lt_size
    have hroot := Nat.ne_of_gt hguards.page.root_lt_size
    have hled : (placeNode (b.page.create (.element e)).1 place.1 place.2 b.page.size).LedBy f :=
      ledBy_placeNode (hguards.page.create _) hnew (hbefore f hguards.page)
    refine ⟨⟨f, Guards.push { hguards with page := hled } hnew hroot⟩, fun m hm g hg => ?_⟩
    obtain rfl := Option.some.inj hm
    exact ⟨hled.unique hg ▸ hnew, hroot⟩

theorem keeps_insertNode (e : Element) : Keeps (insertNode e) := by
  mvcgen [spec_insertNode]
  exact fun h _ => h

theorem keeps_insertElement (d : Dialect) : Keeps (insertElement t d) := by
  mvcgen [insertElement, keeps_insertNode]

theorem keeps_openHead : Keeps (openHead t) := by
  mvcgen [openHead, -Invariant.insertElement, insertElement, spec_insertNode]
  next h _ =>
    obtain ⟨⟨f, hguards⟩, hhead⟩ := h
    exact ⟨f, { hguards with head := fun m hm => hhead m hm f hguards.page }⟩

theorem keeps_openRoot : Keeps openRoot := by
  mvcgen [openRoot, setMode, setPage, push]
  next b h _ _ _ =>
    obtain ⟨f, hguards⟩ := h
    have hnew := Nat.ne_of_gt hguards.page.lt_size
    have hled : ((b.page.create (.element { name := "html" })).1.append Page.root b.page.size).LedBy
        f := (hguards.page.create _).append hnew _
    exact ⟨f, Guards.push { hguards with page := hled } hnew (Nat.ne_of_gt hguards.page.root_lt_size)⟩

theorem name_addAttrs (attrs : List (String × String)) (e : Element) :
    (attrs.foldl (fun e (k, v) =>
      if e.hasAttr k then e else e.setAttr k (Attribute.normalizeValue e.name k v)) e).name =
      e.name := by
  induction attrs generalizing e with
  | nil => rfl
  | cons a attrs ih =>
    rw [List.foldl_cons, ih]
    dsimp only
    split
    · rfl
    · exact Element.name_setAttr ..

theorem keeps_addAttrs (attrs : List (String × String)) : Keeps (addAttrs n attrs) := by
  mvcgen [addAttrs, setPage]
  next h _ _ => exact h.setPage fun f hf => hf.updateElement n (name_addAttrs attrs)

/-! Formatting elements -/

theorem keeps_reopenEach (ns : List NodeId) : Keeps (reopenEach ns) := by
  induction ns with
  | nil => mvcgen [reopenEach]
  | cons n ns ih => mvcgen [reopenEach, keeps_insertNode, ih]

theorem keeps_reopenFormatting : Keeps reopenFormatting := by
  mvcgen [reopenFormatting, keeps_reopenEach]

theorem keeps_addFormatting : Keeps (addFormatting t) := by
  mvcgen [addFormatting, keeps_insertNode]

/-! Adoption -/

def Splits (a : Adoption) (b : Builder) : Prop :=
  ∃ f, Guards f b.page b.stack b.head ∧ Guards f b.page a.opened.reverse b.head ∧ a.last ≠ f

theorem spec_adoptInner (formatEl block : NodeId) (steps index : Nat) (a : Adoption) :
    ⦃fun b => ⌜Splits a b⌝⦄ adoptInner formatEl block steps index a
    ⦃⇓ a b => ⌜Splits a b⌝⦄ := by
  induction steps generalizing index a with
  | zero => mvcgen [adoptInner]
  | succ steps ih =>
    mvcgen [adoptInner, cloneNode, setPage, ih]
    · next b h =>
      obtain ⟨f, hguards, hopened, hlast⟩ := h
      exact ⟨f, hguards, hopened.erase, hlast⟩
    · next b h _ _ _ =>
      obtain ⟨f, hguards, hopened, hlast⟩ := h
      have hnew := Nat.ne_of_gt hguards.page.lt_size
      have hroot := Nat.ne_of_gt hguards.page.root_lt_size
      have hled (c : Content) := (hguards.page.create c).append hlast b.page.size
      exact ⟨f, { hguards with page := hled _ },
        Guards.replaceFirst { hopened with page := hled _ } hnew hroot, hnew⟩

theorem keeps_adopt (formatEl block : NodeId) :
    ⦃fun b => ⌜Led b ∧ block ∈ b.stack.reverse.tail⌝⦄ adopt formatEl block
    ⦃⇓ _ b => ⌜Led b⌝⦄ := by
  mvcgen [adopt, spec_adoptInner, setStack, setPage, cloneNode]
  · next b h _ _ =>
    obtain ⟨⟨f, hguards⟩, hblock⟩ := h
    have hopened : Guards f b.page b.stack.reverse.reverse b.head := by
      rwa [List.reverse_reverse]
    exact ⟨f, hguards, hopened, hguards.inner block hblock⟩
  · next b₀ h _ ancestor a b hsplits _ _ _ _ _ _ _ _ _ _ =>
    obtain ⟨⟨_, hguards₀⟩, hmem⟩ := h
    obtain ⟨f, hguards, hopened, hlast⟩ := hsplits
    have hblock : block ≠ Page.root :=
      hguards₀.opened block (List.mem_reverse.mp (List.mem_of_mem_tail hmem))
    have hbefore := insertionPlace_ne (b := { b with stack := a.opened.reverse }) hguards.page
      (tableParts.contains (b.page.nameOf ancestor)) ancestor
    exact ⟨f, Guards.split (hopened.erase.setPage (ledBy_placeNode (hguards.page.detach hlast) hlast
      hbefore)) hblock _ _⟩

/-- How a page begins depends on no step but those that put something on it. -/
theorem invariant_led : Invariant fun p s h _ => ∃ f, Guards f p s h where
  narrow h hs _ := h.imp fun _ h => h.of_sublist hs
  reopenHead h hhead := by
    obtain ⟨f, hguards⟩ := h
    obtain ⟨hne, hroot⟩ := hguards.head _ hhead
    exact ⟨f, hguards.push hne hroot⟩
  detach h hn := h.imp fun _ h => h.setPage (h.page.detach (h.inner _ hn))
  doctype d h := by
    refine h.imp fun f h => h.setPage ?_
    exact (h.page.create _).append (Nat.ne_of_gt h.page.lt_size) _
  insertText := keeps_insertText
  insertComment _ text b h := keeps_insertComment text b h.1
  insertElement _ := keeps_insertElement
  addAttrs _ t _ := keeps_addAttrs _
  openRoot := keeps_openRoot
  openHead _ := keeps_openHead
  reopenFormatting := keeps_reopenFormatting
  addFormatting _ := keeps_addFormatting
  adopt formatEl block b h := keeps_adopt formatEl block b ⟨h.1, h.2.2⟩

end Steps

end Build

end ContentBinding.Markup
