import Mathlib
import ContentBinding.Proofs.Markup.Invariants
import ContentBinding.Proofs.Markup.Views

/-! Pages whose start tags can all be read from when they are written. Every page that was read from
a text is one, since no step of the builder makes a name or a value of its own. -/

set_option mvcgen.warning false

namespace ContentBinding.Markup

/-- Only the start tags of elements hold names and values. -/
def Content.IsLegible : Content → Prop
  | .element e => e.IsLegible
  | _ => True

namespace Page

variable {p q r : Page} {n m : NodeId}

def IsLegible (p : Page) : Prop :=
  ∀ n c, p.content? n = some c → c.IsLegible

theorem IsLegible.element (h : p.IsLegible) {e : Element} (he : p.element? n = some e) :
    e.IsLegible :=
  h n _ (content?_of_element? he)

/-- The step from one page to the other writes nothing that cannot be read, and what was an element
stays one. -/
structure Legibly (p q : Page) : Prop where
  legible : p.IsLegible → q.IsLegible
  element : ∀ n, p.isElement n → q.isElement n

namespace Legibly

theorem refl (p : Page) : p.Legibly p :=
  ⟨id, fun _ => id⟩

theorem trans (h : p.Legibly q) (h' : q.Legibly r) : p.Legibly r :=
  ⟨fun hp => h'.legible (h.legible hp), fun n hn => h'.element n (h.element n hn)⟩

theorem of_content (h : ∀ m, q.content? m = p.content? m) : p.Legibly q where
  legible hp n c hc := hp n c (h n ▸ hc)
  element n hn := by
    rw [isElement_congr (h n)]
    exact hn

theorem create (p : Page) {c : Content} (hc : c.IsLegible) : p.Legibly (p.create c).1 where
  legible hp m d hd := by
    by_cases hm : m = p.size
    · rw [hm, content?_create_self] at hd
      exact Option.some.inj hd ▸ hc
    · rw [content?_create_ne p c hm] at hd
      exact hp m d hd
  element m hm := by
    rw [isElement_congr (content?_create_ne p c (lt_size_of_isElement hm).ne)]
    exact hm

theorem setContent (n : NodeId) {c : Content} (hc : c.IsLegible)
    (hkind : p.isElement n → (p.setContent n c).isElement n) : p.Legibly (p.setContent n c) where
  legible hp m d hd := by
    by_cases hm : m = n
    · subst hm
      have hlt : m < p.size := size_setContent p m c ▸ lt_size_of_content? hd
      rw [content?_setContent_self p c hlt] at hd
      exact Option.some.inj hd ▸ hc
    · rw [content?_setContent_ne p c hm] at hd
      exact hp m d hd
  element m hm := by
    by_cases hmn : m = n
    · subst hmn
      exact hkind hm
    · rw [isElement_congr (content?_setContent_ne p c hmn)]
      exact hm

theorem setText {s : String} (h : p.text? n = some s) (s' : String) :
    p.Legibly (p.setContent n (.text s')) := by
  refine setContent n trivial fun hn => absurd hn ?_
  intro hn
  obtain ⟨e, he⟩ := Option.isSome_iff_exists.mp hn
  rw [text?, content?_of_element? he] at h
  cases h

theorem updateElement (hp : p.IsLegible) (n : NodeId) {g : Element → Element}
    (hg : ∀ e, e.IsLegible → (g e).IsLegible) : p.Legibly (p.updateElement n g) := by
  unfold Page.updateElement
  split
  · next e he =>
    refine setContent n (hg e (hp.element he)) fun hn => ?_
    have hlt : n < p.size := lt_size_of_isElement hn
    rw [isElement, element?, content?_setContent_self p _ hlt]
    rfl
  · exact .refl p

theorem append (parent n : NodeId) : p.Legibly (p.append parent n) :=
  of_content fun m => content?_append p n m parent

theorem insertBefore (parent ref n : NodeId) : p.Legibly (p.insertBefore parent ref n) :=
  of_content fun m => content?_insertBefore p n m parent ref

theorem detach (n : NodeId) : p.Legibly (p.detach n) :=
  of_content fun m => content?_detach p n m

theorem moveChildren (n target : NodeId) : p.Legibly (p.moveChildren n target) :=
  of_content fun m => content?_moveChildren p n m target

theorem addLeaf {c : Content} (hc : c.IsLegible) (parent : NodeId) :
    p.Legibly ((p.create c).1.append parent p.size) :=
  (create p hc).trans (append parent _)

end Legibly
end Page

/-! Steps of the builder -/

namespace Build

open Page (Legibly)
open Std.Do

variable {p q : Page} {f : List (Option NodeId)} {n m : NodeId} {e : Element}

theorem legibly_appendText (s : String) : p.Legibly (appendText p n s) := by
  unfold appendText
  split
  · split
    · next htext => exact .setText htext _
    · exact .addLeaf (c := .text s) trivial n
  · exact .addLeaf (c := .text s) trivial n

theorem legibly_insertTextBefore (s : String) : p.Legibly (insertTextBefore p n m s) := by
  have hfresh : p.Legibly ((p.create (.text s)).1.insertBefore n m p.size) :=
    (Legibly.create p (c := .text s) trivial).trans (.insertBefore ..)
  unfold insertTextBefore
  dsimp only
  split
  · split
    · next htext => exact .setText htext _
    · exact hfresh
  · exact hfresh

theorem legibly_placeText (before : Option NodeId) (s : String) :
    p.Legibly (placeText p n before s) := by
  cases before with
  | none => exact legibly_appendText s
  | some m => exact legibly_insertTextBefore s

theorem legibly_placeNode (before : Option NodeId) : p.Legibly (placeNode p n before m) := by
  cases before with
  | none => exact .append n m
  | some ref => exact .insertBefore n ref m

/-- The page can be written and read, and the nodes that may be opened again are elements of it. -/
structure Legible (p : Page) (f : List (Option NodeId)) : Prop where
  page : p.IsLegible
  active : ∀ n, some n ∈ f → p.isElement n

namespace Legible

theorem setPage (h : Legible p f) (hq : p.Legibly q) : Legible q f where
  page := hq.legible h.page
  active n hn := hq.element n (h.active n hn)

theorem of_subset {f' : List (Option NodeId)} (h : Legible p f)
    (hf : ∀ n, some n ∈ f' → some n ∈ f) : Legible p f' where
  page := h.page
  active n hn := h.active n (hf n hn)

theorem cons (h : Legible p f) (hn : p.isElement n) : Legible p (some n :: f) where
  page := h.page
  active m hm := by
    rcases List.mem_cons.mp hm with heq | hm
    · exact Option.some.inj heq ▸ hn
    · exact h.active m hm

theorem concat (h : Legible p f) (hn : p.isElement n) : Legible p (f ++ [some n]) :=
  (h.cons hn).of_subset fun m hm => by
    rcases List.mem_append.mp hm with hm | hm
    · exact List.mem_cons_of_mem _ hm
    · exact List.mem_cons.mpr (.inl (List.mem_singleton.mp hm))

theorem insert (h : Legible p f) (he : e.IsLegible) (parent : NodeId) (before : Option NodeId) :
    Legible (placeNode (p.create (.element e)).1 parent before p.size) (f ++ [some p.size]) := by
  have hcreate : p.Legibly (p.create (.element e)).1 := .create p he
  exact ((h.setPage hcreate).concat (Page.isElement_create e)).setPage (legibly_placeNode before)

theorem element?_getD (h : Legible p f) (hn : some n ∈ f) :
    ((p.element? n).getD { name := "" }).IsLegible := by
  obtain ⟨e, he⟩ := Option.isSome_iff_exists.mp (h.active n hn)
  rw [he]
  exact h.page.element he

theorem clone (h : Legible p f) (hn : some n ∈ f) :
    Legible (p.create ((p.content? n).getD .document)).1 (some p.size :: f) := by
  obtain ⟨e, he⟩ := Option.isSome_iff_exists.mp (h.active n hn)
  have hcontent : p.content? n = some (.element e) := Page.content?_of_element? he
  rw [hcontent, Option.getD_some]
  exact (h.setPage (.create p (c := .element e) (h.page.element he))).cons (Page.isElement_create e)

end Legible

/-- The property of the builder. -/
abbrev IsLegible : Property := fun p _ _ f => Legible p f

theorem legible_insertText (cs : List Char) : Preserves IsLegible (insertText cs) := by
  mvcgen [insertText, insertionPlace, setPage]
  all_goals exact Legible.setPage ‹_› (legibly_placeText _ _)

theorem legible_insertComment (n : NodeId) (s : String) :
    Preserves IsLegible (insertComment n s) := by
  mvcgen [insertComment, setPage]
  next h _ => exact h.setPage (.addLeaf (c := .comment s) trivial n)

theorem legible_insertNode (he : e.IsLegible) : Preserves IsLegible (insertNode e) := by
  mvcgen [insertNode, insertionPlace, setPage, push]
  next h _ _ _ => exact (h.insert he _ _).of_subset fun m hm => List.mem_append_left _ hm

theorem legible_insertElement {t : Tag} (ht : t.IsLegible) (d : Dialect) :
    Preserves IsLegible (insertElement t d) := by
  have hnode := legible_insertNode (e := ⟨t.name, d, Attribute.normalize t.name t.attrs⟩)
    (ht.normalize t.name)
  mvcgen [insertElement, hnode]

theorem legible_openHead {t : Tag} (ht : t.IsLegible) : Preserves IsLegible (openHead t) := by
  have hhead := legible_insertElement ht .html
  mvcgen [openHead, hhead]

theorem legible_openRoot : Preserves IsLegible openRoot := by
  have hroot : Element.IsLegible { name := "html" } := isLegible_named (by decide)
  mvcgen [openRoot, setMode, setPage, push]
  next h _ _ _ => exact h.setPage (.addLeaf (c := .element { name := "html" }) hroot _)

theorem legible_addAttrs {t : Tag} (ht : t.IsLegible) :
    Preserves IsLegible (addAttrs n t.attrs) := by
  mvcgen [addAttrs, setPage]
  next h _ _ =>
    exact h.setPage (.updateElement h.page n fun e he => he.addAttrs ht.attrs)

/-! Formatting elements -/

theorem legible_addFormatting {t : Tag} (ht : t.IsLegible) :
    Preserves IsLegible (addFormatting t) := by
  mvcgen [addFormatting, insertNode, insertionPlace, setPage, push]
  next h _ _ _ _ => exact h.insert (ht.normalize t.name) _ _

theorem legible_reopenEach {b : Builder} {ns : List NodeId} (h : Legible b.page (f ++ ns.map some)) :
    Legible ((reopenEach ns).run b).2.page (f ++ ((reopenEach ns).run b).1.map some) := by
  induction ns generalizing b f with
  | nil => exact h
  | cons n ns ih =>
    have he : ((b.page.element? n).getD { name := "" }).IsLegible :=
      h.element?_getD (List.mem_append_right f List.mem_cons_self)
    let b' := ((insertNode ((b.page.element? n).getD { name := "" })).run b).2
    have hrun : (reopenEach (n :: ns)).run b =
        (b.page.size :: ((reopenEach ns).run b').1, ((reopenEach ns).run b').2) := rfl
    have hnew : Legible b'.page ((f ++ [some b.page.size]) ++ ns.map some) := by
      refine (h.insert he _ _).of_subset fun m hm => ?_
      simp only [List.map_cons, List.mem_append, List.mem_cons, List.not_mem_nil, or_false] at hm ⊢
      tauto
    have hrest := ih hnew
    rw [List.append_assoc] at hrest
    rw [hrun]
    exact hrest

theorem mem_of_mem_splitReopen {stack : List NodeId} {active : List (Option NodeId)}
    (h : some n ∈ (splitReopen stack active).1 ++ (splitReopen stack active).2.map some) :
    some n ∈ active := by
  rcases List.mem_append.mp h with hkept | hclosed
  · exact List.mem_of_mem_take hkept
  · obtain ⟨m, hm, hmn⟩ := List.mem_map.mp hclosed
    obtain ⟨x, hx, hsome⟩ := List.mem_filterMap.mp hm
    obtain rfl : x = some n := hsome.trans hmn
    exact List.mem_reverse.mp ((List.takeWhile_sublist _).subset (List.mem_reverse.mp hx))

theorem legible_reopenFormatting : Preserves IsLegible reopenFormatting := by
  intro b h
  let split := splitReopen b.stack b.formatting
  have hrun : reopenFormatting.run b = (if split.2.isEmpty then pure () else do
      let opened ← reopenEach split.2
      modify fun b => { b with formatting := split.1 ++ opened.map some } : Build Unit).run b := rfl
  show Holds IsLegible (reopenFormatting.run b).2
  rw [hrun]
  split_ifs
  · exact h
  · refine legible_reopenEach (Legible.of_subset h fun n hn => ?_)
    exact mem_of_mem_splitReopen hn

/-- While elements are adopted, the one that is split can be copied, and so can those in it. -/
structure Adopts (formatEl : NodeId) (a : Adoption) (b : Builder) : Prop where
  legible : Legible b.page (some formatEl :: a.formatting)

theorem adopts_adoptInner (formatEl block : NodeId) (steps index : Nat) (a : Adoption) :
    ⦃fun b => ⌜Adopts formatEl a b⌝⦄ adoptInner formatEl block steps index a
    ⦃⇓ a b => ⌜Adopts formatEl a b⌝⦄ := by
  induction steps generalizing index a with
  | zero => mvcgen [adoptInner]
  | succ steps ih =>
    mvcgen [adoptInner, cloneNode, setPage, ih]
    · next h => exact ⟨h.legible⟩
    · next node _ hactive _ _ b h _ _ _ =>
      have hmem : some node ∈ a.formatting := by simpa using hactive
      have hclone := h.legible.clone (List.mem_cons_of_mem _ hmem)
      refine ⟨(hclone.setPage (.append _ _)).of_subset fun m hm => ?_⟩
      rcases List.mem_cons.mp hm with heq | hm
      · exact List.mem_cons_of_mem _ (List.mem_cons.mpr (.inl heq))
      · rcases mem_replaceFirst hm with hm | heq
        · exact List.mem_cons_of_mem _ (List.mem_cons_of_mem _ hm)
        · exact List.mem_cons.mpr (.inl heq)

theorem Legible.split (h : Legible p (some n :: f)) (parent last block : NodeId)
    (before : Option NodeId) (k : Nat) :
    let q := placeNode (p.detach last) parent before last
    Legible (((q.create ((q.content? n).getD .document)).1.moveChildren block q.size).append block
      q.size) ((f.erase (some n)).take k ++ some q.size :: (f.erase (some n)).drop k) := by
  intro q
  have hq : Legible q (some n :: f) := h.setPage ((Legibly.detach last).trans (legibly_placeNode _))
  have hclone := hq.clone List.mem_cons_self
  refine (hclone.setPage ((Legibly.moveChildren ..).trans (.append ..))).of_subset fun m hm => ?_
  rcases List.mem_append.mp hm with hm | hm
  · exact List.mem_cons_of_mem _
      (List.mem_cons_of_mem _ (List.mem_of_mem_erase (List.mem_of_mem_take hm)))
  · rcases List.mem_cons.mp hm with heq | hm
    · exact List.mem_cons.mpr (.inl heq)
    · exact List.mem_cons_of_mem _
        (List.mem_cons_of_mem _ (List.mem_of_mem_erase (List.mem_of_mem_drop hm)))

theorem legible_adopt (formatEl block : NodeId) :
    ⦃fun b => ⌜Holds IsLegible b ∧ some formatEl ∈ b.formatting⌝⦄
      adopt formatEl block ⦃⇓ _ b => ⌜Holds IsLegible b⌝⦄ := by
  mvcgen [adopt, adopts_adoptInner, setStack, setPage, cloneNode]
  · next h _ _ => exact ⟨h.1.cons (h.1.active formatEl h.2)⟩
  · next h _ _ _ _ _ _ _ _ _ _ => exact h.legible.split _ _ _ _ _

/-- Every step of the builder writes what can be read. -/
theorem invariant_legible : Invariant IsLegible where
  narrow h _ hf := h.of_subset hf
  reopenHead h _ := h
  detach h _ := h.setPage (.detach _)
  doctype d h := h.setPage (.addLeaf (c := .doctype d) trivial _)
  insertText := legible_insertText
  insertComment n text b h := legible_insertComment n text b h.1
  insertElement := legible_insertElement
  addAttrs _ _ ht := legible_addAttrs ht
  openRoot := legible_openRoot
  openHead := legible_openHead
  reopenFormatting := legible_reopenFormatting
  addFormatting := legible_addFormatting
  adopt formatEl block b h := legible_adopt formatEl block b ⟨h.1, h.2.1⟩

end Build

namespace Page

theorem isLegible_empty : empty.IsLegible := by
  intro n c hc
  have hlt : n < empty.size := lt_size_of_content? hc
  obtain rfl : n = root := Nat.lt_one_iff.mp hlt
  obtain rfl : .document = c := Option.some.inj hc
  trivial

theorem isLegible_parse (html : String) : (parse html).IsLegible := by
  have hempty : Build.Legible .empty [] := ⟨isLegible_empty, fun _ hn => absurd hn List.not_mem_nil⟩
  obtain ⟨s, h, f, hlegible⟩ := @Build.Invariant.holds_parse _ Build.invariant_legible hempty html
  exact hlegible.page

end Page

end ContentBinding.Markup
