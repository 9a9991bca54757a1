import Mathlib
import ContentBinding.Proofs.Binding.Targets
import ContentBinding.Proofs.Markup.Invariants
import ContentBinding.Proofs.Markup.Joined

/-! Pages that are read are joined. Each step of the builder puts nodes into the document, an open
element or the parent of one, so that whatever has children is an element; that formatting elements
are torn apart and put together again changes nothing in this. -/

set_option mvcgen.warning false

namespace ContentBinding.Markup
namespace Build

open Page (Reworked)
open Std.Do

variable {p q : Page} {s s' : List NodeId} {h : Option NodeId} {f f' : List (Option NodeId)}
  {n m t : NodeId} {b : Builder} {e : Element}

/-! What is put into a page -/

theorem reworked_appendText (hp : p.Joined) (ht : p.IsInner t) (text : String) :
    Reworked p (appendText p t text) := by
  unfold appendText
  split
  · split
    · next htext => exact hp.setText htext _
    · exact hp.addChild ht (.text text)
  · exact hp.addChild ht (.text text)

theorem reworked_insertTextBefore (hp : p.Joined) (ht : p.IsInner t) (ref : NodeId) (text : String) :
    Reworked p (insertTextBefore p t ref text) := by
  have hcreate := hp.create (.text text)
  have hfresh : Reworked p ((p.create (.text text)).1.insertBefore t ref p.size) :=
    hcreate.trans (hcreate.joined.insertBefore (hcreate.isInner ht) ref hp.root_lt_size.ne'
      (p.size_lt_size_create _))
  unfold insertTextBefore
  dsimp only
  split
  · split
    · next htext => exact hp.setText htext _
    · exact hfresh
  · exact hfresh

theorem reworked_placeText (hp : p.Joined) {place : NodeId × Option NodeId}
    (ht : p.IsInner place.1) (text : String) : Reworked p (placeText p place.1 place.2 text) := by
  obtain ⟨t, before⟩ := place
  cases before with
  | none => exact reworked_appendText hp ht text
  | some ref => exact reworked_insertTextBefore hp ht ref text

theorem reworked_placeNode (hp : p.Joined) {place : NodeId × Option NodeId}
    (ht : p.IsInner place.1) (hroot : n ≠ Page.root) (hlt : n < p.size) :
    Reworked p (placeNode p place.1 place.2 n) := by
  obtain ⟨t, before⟩ := place
  cases before with
  | none => exact hp.append ht hroot hlt
  | some ref => exact hp.insertBefore ht ref hroot hlt

/-! The open elements -/

/-- The page is joined, and the nodes at hand are elements of it. -/
structure Upright (p : Page) (s : List NodeId) (h : Option NodeId) (f : List (Option NodeId)) :
    Prop where
  page : p.Joined
  opened : ∀ n ∈ s, p.isElement n
  head : ∀ n ∈ h, p.isElement n
  active : ∀ n, some n ∈ f → p.isElement n

namespace Upright

theorem setPage (hu : Upright p s h f) (hq : Reworked p q) : Upright q s h f where
  page := hq.joined
  opened n hn := hq.element n (hu.opened n hn)
  head n hn := hq.element n (hu.head n hn)
  active n hn := hq.element n (hu.active n hn)

theorem of_subset (hu : Upright p s h f) (hs : ∀ n ∈ s', n ∈ s) (hf : ∀ n, some n ∈ f' → some n ∈ f) :
    Upright p s' h f' :=
  ⟨hu.page, fun n hn => hu.opened n (hs n hn), hu.head, fun n hn => hu.active n (hf n hn)⟩

theorem push (hu : Upright p s h f) (hn : p.isElement n) : Upright p (n :: s) h f :=
  ⟨hu.page, List.forall_mem_cons.mpr ⟨hn, hu.opened⟩, hu.head, hu.active⟩

theorem concat (hu : Upright p s h f) (hn : p.isElement n) : Upright p s h (f ++ [some n]) := by
  refine ⟨hu.page, hu.opened, hu.head, fun m hm => ?_⟩
  rcases List.mem_append.mp hm with hm | hm
  · exact hu.active m hm
  · exact Option.some.inj (List.mem_singleton.mp hm) ▸ hn

theorem isInner (hu : Upright p s h f) (hn : n = Page.root ∨ n ∈ s) : p.IsInner n :=
  hn.imp_right (hu.opened n)

theorem isInner_fosterPlace (hu : Upright b.page b.stack h f) :
    b.page.IsInner (fosterPlace b).1 := by
  unfold fosterPlace
  split
  · next table outer hdrop =>
    have houter : ∀ n ∈ outer, n ∈ b.stack := fun n hn => by
      have hmem : n ∈ b.stack.dropWhile fun n => b.page.nameOf n != "table" :=
        hdrop ▸ List.mem_cons_of_mem table hn
      exact (List.dropWhile_sublist _).subset hmem
    split
    · next above habove => exact hu.page.inner above table habove
    · refine hu.isInner ?_
      rw [List.headD_eq_head?_getD]
      exact (Invariant.head_eq_root_or_mem outer).imp_right (houter _)
  · exact hu.isInner (Invariant.last_eq_root_or_mem b.stack)

theorem isInner_place (hu : Upright b.page b.stack h f) (fosters : Bool) (hn : b.page.IsInner n) :
    b.page.IsInner (if fosters then fosterPlace b else (n, none)).1 := by
  cases fosters with
  | true => exact hu.isInner_fosterPlace
  | false => exact hn

theorem isInner_headD (hu : Upright p s h f) : p.IsInner (s.headD Page.root) := by
  rw [List.headD_eq_head?_getD]
  exact hu.isInner (Invariant.head_eq_root_or_mem s)

theorem insert (hu : Upright p s h f) {place : NodeId × Option NodeId} (ht : p.IsInner place.1)
    (e : Element) : Upright (placeNode (p.create (.element e)).1 place.1 place.2 p.size)
      (p.size :: s) h (f ++ [some p.size]) := by
  have hcreate := hu.page.create (.element e)
  have hnew : (p.create (.element e)).1.isElement p.size := Page.isElement_create e
  have hplace := reworked_placeNode hcreate.joined (hcreate.isInner ht) hu.page.root_lt_size.ne'
    (p.size_lt_size_create _)
  exact (((hu.setPage hcreate).push hnew).concat hnew).setPage hplace

theorem clone (hu : Upright p s h f) (hn : p.isElement n) :
    Upright (p.create ((p.content? n).getD .document)).1 (p.size :: s) h (f ++ [some p.size]) := by
  obtain ⟨e, he⟩ := Option.isSome_iff_exists.mp hn
  rw [Page.content?_of_element? he, Option.getD_some]
  have hnew : (p.create (.element e)).1.isElement p.size := Page.isElement_create e
  exact ((hu.setPage (hu.page.create (.element e))).push hnew).concat hnew

theorem append (hu : Upright p s h f) (ht : t ∈ s) (hn : n ∈ s) : Upright (p.append t n) s h f := by
  have helement := hu.opened n hn
  exact hu.setPage (hu.page.append (.inr (hu.opened t ht)) (hu.page.ne_root helement)
    (Page.lt_size_of_isElement helement))

end Upright

theorem getD_eq_root_or_mem (s : List NodeId) (i : Nat) :
    s.getD i Page.root = Page.root ∨ s.getD i Page.root ∈ s := by
  rw [List.getD_eq_getElem?_getD]
  cases h : s[i]? with
  | none => exact .inl rfl
  | some n => exact .inr (List.mem_of_getElem? h)

/-! Steps -/

abbrev IsUpright : Property := Upright

theorem upright_insertText (cs : List Char) : Preserves IsUpright (insertText cs) := by
  mvcgen [insertText, insertionPlace, setPage]
  next b hu _ _ =>
    exact hu.setPage (reworked_placeText hu.page (hu.isInner_place _ hu.isInner_headD) _)

theorem upright_insertComment (n : NodeId) (text : String) :
    ⦃fun b => ⌜Holds IsUpright b ∧ (n = Page.root ∨ n ∈ b.stack)⌝⦄
      insertComment n text ⦃⇓ _ b => ⌜Holds IsUpright b⌝⦄ := by
  mvcgen [insertComment, setPage]
  next hu _ => exact hu.1.setPage (hu.1.page.addChild (hu.1.isInner hu.2) (.comment text))

theorem upright_insertNode (e : Element) : Preserves IsUpright (insertNode e) := by
  mvcgen [insertNode, insertionPlace, setPage, push]
  next b hu _ _ _ =>
    refine (hu.insert (hu.isInner_place _ hu.isInner_headD) e).of_subset (fun n hn => hn) fun n hn => ?_
    exact List.mem_append_left _ hn

theorem upright_openRoot : Preserves IsUpright openRoot := by
  mvcgen [openRoot, setMode, setPage, push]
  next b hu _ _ _ =>
    have hroot : b.page.IsInner ((Page.root, none) : NodeId × Option NodeId).1 := .inl rfl
    exact (hu.insert hroot { name := "html" }).of_subset (fun n hn => hn) fun n hn =>
      List.mem_append_left _ hn

theorem upright_insertElement (t : Tag) (d : Dialect) : Preserves IsUpright (insertElement t d) := by
  have hnode := upright_insertNode ⟨t.name, d, Attribute.normalize t.name t.attrs⟩
  mvcgen [insertElement, hnode]

theorem upright_openHead (t : Tag) : Preserves IsUpright (openHead t) := by
  have hinsert := upright_insertElement t .html
  mvcgen [openHead, hinsert]
  next hu _ =>
    exact ⟨hu.page, hu.opened, fun n hn => hu.opened n (List.mem_of_mem_head? hn), hu.active⟩

theorem upright_addAttrs (n : NodeId) (attrs : List (String × String)) :
    Preserves IsUpright (addAttrs n attrs) := by
  mvcgen [addAttrs, setPage]
  next hu _ _ => exact hu.setPage (hu.page.updateElement n _)

/-! Formatting elements -/

theorem upright_addFormatting (t : Tag) : Preserves IsUpright (addFormatting t) := by
  mvcgen [addFormatting, insertNode, insertionPlace, setPage, push]
  next hu _ _ _ _ => exact hu.insert (hu.isInner_place _ hu.isInner_headD) _

theorem upright_reopenEach {ns : List NodeId} (hu : Upright b.page b.stack b.head f) :
    Upright ((reopenEach ns).run b).2.page ((reopenEach ns).run b).2.stack
      ((reopenEach ns).run b).2.head (f ++ ((reopenEach ns).run b).1.map some) := by
  induction ns generalizing b f with
  | nil =>
    show Upright b.page b.stack b.head (f ++ [])
    rwa [List.append_nil]
  | cons n ns ih =>
    let b' := ((insertNode ((b.page.element? n).getD { name := "" })).run b).2
    have hrun : (reopenEach (n :: ns)).run b =
        (b.page.size :: ((reopenEach ns).run b').1, ((reopenEach ns).run b').2) := rfl
    have hnew : Upright b'.page b'.stack b'.head (f ++ [some b.page.size]) :=
      hu.insert (hu.isInner_place _ hu.isInner_headD) _
    have hrest := ih hnew
    rw [List.append_assoc] at hrest
    rw [hrun]
    exact hrest

theorem upright_reopenFormatting : Preserves IsUpright reopenFormatting := by
  intro b hu
  let split := splitReopen b.stack b.formatting
  have hrun : reopenFormatting.run b = (if split.2.isEmpty then pure () else do
      let opened ← reopenEach split.2
      modify fun b => { b with formatting := split.1 ++ opened.map some } : Build Unit).run b := rfl
  show Holds IsUpright (reopenFormatting.run b).2
  rw [hrun]
  split_ifs
  · exact hu
  · exact upright_reopenEach (Upright.of_subset hu (fun n hn => hn) fun n hn => List.mem_of_mem_take hn)

/-- While elements are adopted, the nodes at hand are elements: those that were open before, those
that are to be open, the one that is moved next and the one that is split. -/
structure AtHand (formatEl : NodeId) (opened : List NodeId) (a : Adoption) (b : Builder) : Prop where
  upright : Upright b.page (a.last :: (opened ++ a.opened)) b.head (some formatEl :: a.formatting)

theorem atHand_adoptInner (formatEl block : NodeId) (opened : List NodeId) (steps index : Nat)
    (a : Adoption) :
    ⦃fun b => ⌜AtHand formatEl opened a b⌝⦄ adoptInner formatEl block steps index a
    ⦃⇓ a b => ⌜AtHand formatEl opened a b⌝⦄ := by
  induction steps generalizing index a with
  | zero => mvcgen [adoptInner]
  | succ steps ih =>
    mvcgen [adoptInner, cloneNode, setPage, ih]
    · next ha =>
      refine ⟨ha.upright.of_subset (fun n hn => ?_) fun n hn => hn⟩
      simp only [List.mem_cons, List.mem_append] at hn ⊢
      exact hn.imp_right (Or.imp_right List.mem_of_mem_erase)
    · next node _ hactive _ _ b ha _ _ _ =>
      have hu := ha.upright
      have hmem : some node ∈ a.formatting := by simpa using hactive
      have hclone := hu.clone (hu.active node (List.mem_cons_of_mem _ hmem))
      have hmoved := hclone.append (t := b.page.size) List.mem_cons_self
        (List.mem_cons_of_mem _ List.mem_cons_self)
      refine ⟨hmoved.of_subset (fun n hn => ?_) fun n hn => ?_⟩
      · simp only [List.mem_cons, List.mem_append] at hn ⊢
        rcases hn with rfl | hn | hn
        · exact .inl rfl
        · exact .inr (.inr (.inl hn))
        · rcases mem_replaceFirst hn with hn | rfl
          · exact .inr (.inr (.inr hn))
          · exact .inl rfl
      · simp only [List.mem_cons, List.mem_append, List.not_mem_nil, or_false] at hn ⊢
        rcases hn with heq | hn
        · exact .inl (.inl heq)
        · exact (mem_replaceFirst hn).imp_left .inr

theorem Upright.split (hu : Upright p s h f) {last block : NodeId} {place : NodeId × Option NodeId}
    (ht : p.IsInner place.1) (hlast : last ∈ s) (hblock : block ∈ s) (hn : some n ∈ f) :
    let q := placeNode (p.detach last) place.1 place.2 last
    Upright (((q.create ((q.content? n).getD .document)).1.moveChildren block q.size).append block
      q.size) (q.size :: s) h (f ++ [some q.size]) := by
  intro q
  have hdetach := hu.page.detach last
  have helement := hdetach.element last (hu.opened last hlast)
  have hq : Upright q s h f := (hu.setPage hdetach).setPage (reworked_placeNode hdetach.joined
    (hdetach.isInner ht) (hu.page.ne_root (hu.opened last hlast)) (Page.lt_size_of_isElement helement))
  have hclone := hq.clone (hq.active n hn)
  have hne : block ≠ q.size := (Page.lt_size_of_isElement (hq.opened block hblock)).ne
  have hmove := hclone.page.moveChildren hne (.inr (hclone.opened _ List.mem_cons_self))
  exact (hclone.setPage hmove).append (List.mem_cons_of_mem _ hblock) List.mem_cons_self

theorem eq_or_mem_of_mem_put {α : Type} {l : List α} {x y : α} {i : Nat}
    (hy : y ∈ l.take i ++ x :: l.drop i) : y = x ∨ y ∈ l := by
  rwa [List.mem_append, List.mem_cons, or_left_comm, ← List.mem_append,
    List.take_append_drop] at hy

theorem upright_adopt (formatEl block : NodeId) :
    ⦃fun b => ⌜Holds IsUpright b ∧ some formatEl ∈ b.formatting ∧ block ∈ b.stack.reverse.tail⌝⦄
      adopt formatEl block ⦃⇓ _ b => ⌜Holds IsUpright b⌝⦄ := by
  mvcgen [adopt, atHand_adoptInner, setStack, setPage, cloneNode]
  · next h _ _ =>
    -- at first the nodes at hand are the open elements
    refine ⟨h.1.of_subset (fun n hn => ?_) fun n hn => ?_⟩
    · simp only [List.mem_cons, List.mem_append, or_self] at hn
      rcases hn with rfl | hn
      · exact List.mem_reverse.mp (List.mem_of_mem_tail h.2.2)
      · exact List.mem_reverse.mp hn
    · rcases List.mem_cons.mp hn with heq | hn
      · exact heq ▸ h.2.1
      · exact hn
  · next h _ ancestor a b ha _ _ _ _ _ _ kept opened after _ =>
    have hu := ha.upright
    have hancestor : b.page.IsInner ancestor := by
      refine hu.isInner (Or.imp_right (fun hmem => ?_) (getD_eq_root_or_mem _ _))
      exact List.mem_cons_of_mem _ (List.mem_append_left _ hmem)
    have hopened : Upright b.page a.opened.reverse b.head a.formatting :=
      hu.of_subset
        (fun n hn => List.mem_cons_of_mem _ (List.mem_append_right _ (List.mem_reverse.mp hn)))
        fun n hn => List.mem_cons_of_mem _ hn
    have hplace := Upright.isInner_place (b := { b with stack := a.opened.reverse }) hopened
      (tableParts.contains (b.page.nameOf ancestor)) hancestor
    have hblock := List.mem_of_mem_tail h.2.2
    -- all that is new afterwards is the copy of the element that is split
    have hsplit := hu.split hplace List.mem_cons_self
      (List.mem_cons_of_mem _ (List.mem_append_left _ hblock)) List.mem_cons_self
    refine hsplit.of_subset (fun n hn => ?_) fun n hn => ?_
    · rcases eq_or_mem_of_mem_put (List.mem_reverse.mp hn) with rfl | hn
      · exact List.mem_cons_self
      · have hmem : n ∈ a.opened := List.mem_of_mem_erase hn
        exact List.mem_cons_of_mem _ (List.mem_cons_of_mem _ (List.mem_append_right _ hmem))
    · rcases eq_or_mem_of_mem_put hn with heq | hn
      · exact List.mem_append_right _ (List.mem_singleton.mpr heq)
      · have hmem : some n ∈ a.formatting := List.mem_of_mem_erase hn
        exact List.mem_append_left _ (List.mem_cons_of_mem _ hmem)

/-- Every step of the builder leaves the page joined. -/
theorem invariant_upright : Invariant IsUpright where
  narrow hu hs hf := hu.of_subset (fun _ hn => hs.subset hn) hf
  reopenHead hu hhead := hu.push (hu.head _ hhead)
  detach hu _ := hu.setPage (hu.page.detach _)
  doctype d hu := hu.setPage (hu.page.addChild (.inl rfl) (.doctype d))
  insertText := upright_insertText
  insertComment := upright_insertComment
  insertElement {t} _ := upright_insertElement t
  addAttrs n _ _ := upright_addAttrs n _
  openRoot := upright_openRoot
  openHead {t} _ := upright_openHead t
  reopenFormatting := upright_reopenFormatting
  addFormatting {t} _ := upright_addFormatting t
  adopt := upright_adopt

end Build

namespace Page

theorem joined_parse (html : String) : (parse html).Joined := by
  have hempty : Build.Upright .empty [] none [] := ⟨joined_empty, nofun, nofun, nofun⟩
  obtain ⟨s, h, f, hupright⟩ := @Build.Invariant.holds_parse _ Build.invariant_upright hempty html
  exact hupright.page

/-! Filling in -/

namespace Joined

theorem perform {p : Page} (hp : p.Joined) {w : Binding.Write NodeId} (hw : p.isElement w.element) :
    Reworked p (w.perform p) := by
  unfold Binding.Write.perform
  split
  · exact hp.setContentTrees (.inr hw) _
  · exact hp.setContentTrees (.inr hw) _
  · exact hp.updateElement _ _
  · exact hp.updateElement _ _

theorem apply {p : Page} (hp : p.Joined) {ws : List (Binding.Write NodeId)}
    (hws : ∀ w ∈ ws, p.isElement w.element) : (Binding.apply p ws).Joined := by
  unfold Binding.apply
  induction ws generalizing p with
  | nil => exact hp
  | cons w ws ih =>
    have hfirst := hp.perform (hws w List.mem_cons_self)
    exact ih hfirst.joined fun u hu => hfirst.element _ (hws u (List.mem_cons_of_mem w hu))

theorem inject {p : Page} (hp : p.Joined) (document : Json.Value) :
    (Binding.inject p document).1.Joined :=
  hp.apply fun _ hw => Binding.isElement_of_mem_writes hw

end Joined
end Page
end ContentBinding.Markup
