import Mathlib
import ContentBinding.Proofs.Markup.Legible

/-! Properties that every step of the builder preserves. A step does little that such a property
can depend on: it puts text, comments and elements on the page, opens the formatting elements again
and closes open elements. A property that those few steps preserve is preserved by every step, so
that it holds of every page that is read. -/

set_option mvcgen.warning false
-- The instance is in scope of every step: `mvcgen` finds the invariant by it.
set_option linter.unusedSectionVars false

namespace ContentBinding.Markup
namespace Build

open Std.Do
open Tokenizer (isTagName)

/-- A property of the page, of the open elements, innermost first, of the head and of the active
formatting elements. -/
abbrev Property := Page → List NodeId → Option NodeId → List (Option NodeId) → Prop

abbrev Holds (I : Property) (b : Builder) : Prop :=
  I b.page b.stack b.head b.formatting

abbrev Preserves (I : Property) {α : Type} (step : Build α) : Prop :=
  ⦃fun b => ⌜Holds I b⌝⦄ step ⦃⇓ _ b => ⌜Holds I b⌝⦄

/-- A property that holds whatever elements are closed, and that the steps preserve which put
something on the page. -/
class Invariant (I : outParam Property) : Prop where
  narrow {p : Page} {s s' : List NodeId} {h : Option NodeId} {f f' : List (Option NodeId)} :
    I p s h f → s'.Sublist s → (∀ n, some n ∈ f' → some n ∈ f) → I p s' h f'
  reopenHead {p : Page} {s : List NodeId} {h : Option NodeId} {f : List (Option NodeId)}
    {n : NodeId} : I p s h f → h = some n → I p (n :: s) h f
  /-- What stands inside the outermost element may be taken off the page. -/
  detach {p : Page} {s : List NodeId} {h : Option NodeId} {f : List (Option NodeId)} {n : NodeId} :
    I p s h f → n ∈ s.reverse.tail → I (p.detach n) s h f
  doctype {p : Page} {s : List NodeId} {h : Option NodeId} {f : List (Option NodeId)} (d : String) :
    I p s h f → I ((p.create (.doctype d)).1.append Page.root p.nodes.size) s h f
  insertText (cs : List Char) : Preserves I (insertText cs)
  /-- A comment stands in the document or in an open element. -/
  insertComment (n : NodeId) (text : String) :
    ⦃fun b => ⌜Holds I b ∧ (n = Page.root ∨ n ∈ b.stack)⌝⦄
      insertComment n text ⦃⇓ _ b => ⌜Holds I b⌝⦄
  insertElement {t : Tag} (ht : t.IsLegible) (d : Dialect) : Preserves I (insertElement t d)
  addAttrs (n : NodeId) {t : Tag} (ht : t.IsLegible) : Preserves I (addAttrs n t.attrs)
  openRoot : Preserves I openRoot
  openHead {t : Tag} (ht : t.IsLegible) : Preserves I (openHead t)
  reopenFormatting : Preserves I reopenFormatting
  addFormatting {t : Tag} (ht : t.IsLegible) : Preserves I (addFormatting t)
  adopt (formatEl block : NodeId) :
    ⦃fun b => ⌜Holds I b ∧ some formatEl ∈ b.formatting ∧ block ∈ b.stack.reverse.tail⌝⦄
      adopt formatEl block ⦃⇓ _ b => ⌜Holds I b⌝⦄

@[spec] theorem spec_discard {α : Type} {x : Build α} {Q : PostCond PUnit (.arg Builder .pure)} :
    ⦃wp⟦x⟧ (fun _ => Q.1 ⟨⟩, Q.2)⦄ discard x ⦃Q⦄ :=
  Spec.map

theorem popThrough_sublist (stop : NodeId → Bool) (s : List NodeId) :
    (popThrough stop s).Sublist s := by
  induction s with
  | nil => exact .slnil
  | cons n s ih =>
    rw [popThrough]
    split
    · exact List.sublist_cons_self n s
    · exact ih.cons n

theorem mem_replaceFirst {α : Type} [DecidableEq α] {n m k : α} {s : List α}
    (h : k ∈ replaceFirst n m s) :
    k ∈ s ∨ k = m := by
  induction s with
  | nil => exact absurd h List.not_mem_nil
  | cons a s ih =>
    rw [replaceFirst] at h
    split at h
    · rcases List.mem_cons.mp h with rfl | h
      · exact .inr rfl
      · exact .inl (List.mem_cons_of_mem a h)
    · rcases List.mem_cons.mp h with rfl | h
      · exact .inl List.mem_cons_self
      · exact (ih h).imp_left (List.mem_cons_of_mem a)

theorem mem_tail_reverse {n m : NodeId} {s : List NodeId} (hn : n ∈ s)
    (hm : m ∈ s.takeWhile (· != n)) : m ∈ s.reverse.tail := by
  have hsplit : s.reverse = (s.dropWhile (· != n)).reverse ++ (s.takeWhile (· != n)).reverse := by
    rw [← List.reverse_append, List.takeWhile_append_dropWhile]
  cases hdrop : (s.dropWhile (· != n)).reverse with
  | nil =>
    have hall := List.dropWhile_eq_nil_iff.mp (List.reverse_eq_nil_iff.mp hdrop) n hn
    simp at hall
  | cons a rest =>
    rw [hsplit, hdrop, List.cons_append, List.tail_cons]
    exact List.mem_append_right _ (List.mem_reverse.mpr hm)

namespace Invariant

attribute [scoped spec] insertText insertComment insertElement addAttrs openRoot openHead
  reopenFormatting addFormatting

variable {I : Property} [Invariant I] {n : NodeId} {t : Tag} {name : String} {mode : Mode}

/-! Steps that put nothing on the page -/

theorem preserves_modify {g : Builder → Builder} (h : ∀ b, Holds I b → Holds I (g b)) :
    Preserves I (modify g) := by
  mvcgen
  next hI _ => exact h _ hI

theorem sublist {p : Page} {s s' : List NodeId} {h : Option NodeId}
    {f : List (Option NodeId)} (hI : I p s h f) (hs : s'.Sublist s) : I p s' h f :=
  narrow hI hs fun _ hn => hn

theorem active {p : Page} {s : List NodeId} {h : Option NodeId}
    {f f' : List (Option NodeId)} (hI : I p s h f) (hf : ∀ n, some n ∈ f' → some n ∈ f) :
    I p s h f' :=
  narrow hI (List.Sublist.refl s) hf

@[scoped spec] theorem preserves_setMode : Preserves I (setMode mode) := by
  mvcgen [setMode]

@[scoped spec] theorem preserves_setModel (m : ContentModel) : Preserves I (setModel m) := by
  mvcgen [setModel]

@[scoped spec] theorem preserves_noFrameset : Preserves I noFrameset := by
  mvcgen [noFrameset]

@[scoped spec] theorem preserves_pop : Preserves I pop :=
  preserves_modify fun _ h => sublist h (List.tail_sublist _)

@[scoped spec] theorem preserves_popName : Preserves I (popName name) :=
  preserves_modify fun _ h => sublist h (popThrough_sublist _ _)

@[scoped spec] theorem preserves_popNode : Preserves I (popNode n) :=
  preserves_modify fun _ h => sublist h (popThrough_sublist _ _)

@[scoped spec] theorem preserves_popToOneOf (names : List String) : Preserves I (popToOneOf names) :=
  preserves_modify fun _ h => sublist h (List.dropWhile_sublist _)

@[scoped spec] theorem preserves_closeImplied (kept : String) : Preserves I (closeImplied kept) :=
  preserves_modify fun _ h => sublist h (List.dropWhile_sublist _)

@[scoped spec] theorem preserves_currentName : Preserves I currentName := by
  mvcgen [currentName]

@[scoped spec] theorem preserves_current : Preserves I current := by
  mvcgen [current, current?]

@[scoped spec] theorem preserves_outermost : Preserves I outermost := by
  mvcgen [outermost]

@[scoped spec] theorem preserves_second? : Preserves I second? := by
  mvcgen [second?]

@[scoped spec] theorem preserves_pushMarker : Preserves I pushMarker :=
  preserves_modify fun _ h => active h fun n hn => by simpa using hn

@[scoped spec] theorem preserves_clearToMarker : Preserves I clearToMarker := by
  refine preserves_modify fun b h => active h fun n hn => ?_
  have hdrop := List.mem_of_mem_drop (List.mem_reverse.mp hn)
  exact List.mem_reverse.mp ((List.dropWhile_sublist _).subset hdrop)

@[scoped spec] theorem preserves_dropFormatting : Preserves I (dropFormatting n) :=
  preserves_modify fun _ h => active h fun _ hm => List.mem_of_mem_erase hm

@[scoped spec] theorem preserves_activeNamed? : Preserves I (activeNamed? name) := by
  mvcgen [activeNamed?]

/-! Elements -/

@[scoped spec] theorem preserves_insertEmpty (ht : t.IsLegible) : Preserves I (insertEmpty t) := by
  mvcgen [insertEmpty]

@[scoped spec] theorem preserves_insertNamed (h : isTagName name = true) :
    Preserves I (insertNamed name) := by
  mvcgen [insertNamed]
  exact fun _ _ => isLegible_named h

@[scoped spec] theorem preserves_mergeHtmlAttrs (ht : t.IsLegible) : Preserves I (mergeHtmlAttrs t) := by
  mvcgen [mergeHtmlAttrs]
  exact fun _ _ => ht

@[scoped spec] theorem preserves_openText (ht : t.IsLegible) (m : ContentModel) :
    Preserves I (openText t m) := by
  mvcgen [openText]

@[scoped spec] theorem preserves_closeOther : Preserves I (closeOther name) := by
  mvcgen [closeOther]

theorem mem_formatting_of_find? {formatting : List (Option NodeId)} {p : NodeId → Bool} {n : NodeId}
    (h : ((formatting.reverse.takeWhile Option.isSome).filterMap id).find? p = some n) :
    some n ∈ formatting := by
  obtain ⟨m, hm, hsome⟩ := List.mem_filterMap.mp (List.mem_of_find?_eq_some h)
  obtain rfl : m = some n := hsome
  exact List.mem_reverse.mp ((List.takeWhile_sublist _).subset hm)

@[scoped spec] theorem preserves_closeFormatting (rounds : Nat) :
    Preserves I (closeFormatting name rounds) := by
  have hadopt := adopt (I := I)
  induction rounds with
  | zero => mvcgen [closeFormatting]
  | succ rounds ih =>
    mvcgen [closeFormatting, inScope, -preserves_activeNamed?, activeNamed?, hadopt, ih]
    next b hI active formatEl hactive hopen _ inside block hfind =>
    have hmem : block ∈ b.stack.takeWhile _ := List.mem_reverse.mp (List.mem_of_find?_eq_some hfind)
    exact ⟨hI, mem_formatting_of_find? hactive, mem_tail_reverse (by simpa using hopen) hmem⟩

/-! End tags -/

@[scoped spec] theorem preserves_inScope (s : Scope) : Preserves I (inScope name s) := by
  mvcgen [inScope]

@[scoped spec] theorem preserves_nodeInScope : Preserves I (nodeInScope n) := by
  mvcgen [nodeInScope]

@[scoped spec] theorem preserves_anyInScope (names : List String) (s : Scope) :
    Preserves I (anyInScope names s) := by
  unfold anyInScope
  induction names with
  | nil => mvcgen [List.anyM]
  | cons name names ih => mvcgen [List.anyM, ih]

@[scoped spec] theorem preserves_closeHead : Preserves I closeHead := by
  mvcgen [closeHead]

@[scoped spec] theorem preserves_openBody : Preserves I openBody := by
  mvcgen [openBody]

@[scoped spec] theorem preserves_closeHeadNoscript : Preserves I closeHeadNoscript := by
  mvcgen [closeHeadNoscript]

@[scoped spec] theorem preserves_beginOldPage : Preserves I beginOldPage := by
  mvcgen [beginOldPage]

@[scoped spec] theorem preserves_closeParagraph : Preserves I closeParagraph := by
  mvcgen [closeParagraph]

@[scoped spec] theorem preserves_endParagraph : Preserves I endParagraph := by
  mvcgen [endParagraph]

@[scoped spec] theorem preserves_closeBlock : Preserves I (closeBlock name) := by
  mvcgen [closeBlock]

@[scoped spec] theorem preserves_closeForm : Preserves I closeForm := by
  mvcgen [closeForm]
  next hI _ => exact sublist hI List.erase_sublist

@[scoped spec] theorem preserves_closeItem : Preserves I (closeItem name) := by
  mvcgen [closeItem]

@[scoped spec] theorem preserves_closeHeading : Preserves I closeHeading := by
  mvcgen [closeHeading]
  all_goals next hI _ => exact sublist hI (popThrough_sublist _ _)

@[scoped spec] theorem preserves_closeObject : Preserves I (closeObject name) := by
  mvcgen [closeObject]

@[scoped spec] theorem preserves_endInBody : Preserves I (endInBody name) := by
  have hbreak : IsLegible "br" [] := isLegible_named (by decide)
  mvcgen [endInBody]

@[scoped spec] theorem preserves_resetMode : Preserves I resetMode := by
  mvcgen [resetMode]

@[scoped spec] theorem preserves_closeTable : Preserves I closeTable := by
  mvcgen [closeTable]

@[scoped spec] theorem preserves_endInTable : Preserves I (endInTable name) := by
  mvcgen [endInTable, fostered]

@[scoped spec] theorem preserves_closeCaption : Preserves I closeCaption := by
  mvcgen [closeCaption]

@[scoped spec] theorem preserves_endInCaption : Preserves I (endInCaption name) := by
  mvcgen [endInCaption]

@[scoped spec] theorem preserves_closeColumnGroup : Preserves I closeColumnGroup := by
  mvcgen [closeColumnGroup]

@[scoped spec] theorem preserves_endInColumnGroup : Preserves I (endInColumnGroup name) := by
  mvcgen [endInColumnGroup]

@[scoped spec] theorem preserves_closeRowGroup : Preserves I closeRowGroup := by
  mvcgen [closeRowGroup, toRowGroup]

@[scoped spec] theorem preserves_endInTableBody : Preserves I (endInTableBody name) := by
  mvcgen [endInTableBody, toRowGroup]

@[scoped spec] theorem preserves_closeRow : Preserves I closeRow := by
  mvcgen [closeRow, toRow]

@[scoped spec] theorem preserves_endInRow : Preserves I (endInRow name) := by
  mvcgen [endInRow]

@[scoped spec] theorem preserves_closeCellNamed : Preserves I (closeCellNamed name) := by
  mvcgen [closeCellNamed]

@[scoped spec] theorem preserves_closeCell : Preserves I closeCell := by
  mvcgen [closeCell]

@[scoped spec] theorem preserves_endInCell : Preserves I (endInCell name) := by
  mvcgen [endInCell]

@[scoped spec] theorem preserves_closeSelect : Preserves I closeSelect := by
  mvcgen [closeSelect]

@[scoped spec] theorem preserves_endInSelect : Preserves I (endInSelect name) := by
  mvcgen [endInSelect]

@[scoped spec] theorem preserves_endInSelectInTable : Preserves I (endInSelectInTable name) := by
  mvcgen [endInSelectInTable]

@[scoped spec] theorem preserves_insertBodyText (cs : List Char) : Preserves I (insertBodyText cs) := by
  mvcgen [insertBodyText]

@[scoped spec] theorem preserves_flushTableText : Preserves I (flushTableText insertBodyText) := by
  mvcgen [flushTableText, fostered]

@[scoped spec] theorem preserves_endTagIn : Preserves I (endTagIn mode name) := by
  have hhead : IsLegible "head" [] := isLegible_named (by decide)
  mvcgen [endTagIn]

/-! Start tags -/

section StartTags

variable (ht : t.IsLegible)
include ht

@[scoped spec] theorem preserves_startInHead : Preserves I (startInHead t) := by
  mvcgen [startInHead]

@[scoped spec] theorem preserves_startBody : Preserves I (startBody t) := by
  mvcgen [startBody]
  all_goals exact fun _ _ => ht

@[scoped spec] theorem preserves_startFrameset : Preserves I (startFrameset t) := by
  mvcgen [startFrameset, second?, setPage]
  · next hI n hn _ _ =>
    rw [← List.getElem?_tail] at hn
    exact detach hI (List.mem_of_getElem? hn)

@[scoped spec] theorem preserves_startBlock : Preserves I (startBlock t) := by
  mvcgen [startBlock]
  all_goals exact fun _ _ => ht

@[scoped spec] theorem preserves_startHeading : Preserves I (startHeading t) := by
  mvcgen [startHeading]
  all_goals exact fun _ _ => ht

@[scoped spec] theorem preserves_startPreformatted : Preserves I (startPreformatted t) := by
  mvcgen [startPreformatted]

@[scoped spec] theorem preserves_startForm : Preserves I (startForm t) := by
  mvcgen [startForm]

@[scoped spec] theorem preserves_startItem : Preserves I (startItem t) := by
  mvcgen [startItem]
  all_goals exact fun _ _ => ht

@[scoped spec] theorem preserves_startPlaintext : Preserves I (startPlaintext t) := by
  mvcgen [startPlaintext]

@[scoped spec] theorem preserves_startAnchor : Preserves I (startAnchor t) := by
  mvcgen [startAnchor]
  · next hI _ => exact narrow hI List.erase_sublist fun _ hm => List.mem_of_mem_erase hm
  all_goals exact fun _ _ => ht

@[scoped spec] theorem preserves_startFormatting : Preserves I (startFormatting t) := by
  mvcgen [startFormatting]
  all_goals exact fun _ _ => ht

@[scoped spec] theorem preserves_startNobr : Preserves I (startNobr t) := by
  mvcgen [startNobr]
  all_goals exact fun _ _ => ht

@[scoped spec] theorem preserves_startButton : Preserves I (startButton t) := by
  mvcgen [startButton]

@[scoped spec] theorem preserves_startObject : Preserves I (startObject t) := by
  mvcgen [startObject]

@[scoped spec] theorem preserves_startXmp : Preserves I (startXmp t) := by
  mvcgen [startXmp]
  all_goals exact fun _ _ => ht

@[scoped spec] theorem preserves_startTable : Preserves I (startTable t) := by
  mvcgen [startTable]

@[scoped spec] theorem preserves_startVoid : Preserves I (startVoid t) := by
  mvcgen [startVoid]

@[scoped spec] theorem preserves_startInput : Preserves I (startInput t) := by
  mvcgen [startInput]

@[scoped spec] theorem preserves_startRule : Preserves I (startRule t) := by
  mvcgen [startRule]

@[scoped spec] theorem preserves_startOther : Preserves I (startOther t) := by
  mvcgen [startOther]
  all_goals exact fun _ _ => ht

@[scoped spec] theorem preserves_startIndex : Preserves I (startIndex t) := by
  have hform : IsLegible "form" (t.attrs.filter fun p => p.1 = "action") :=
    ht.of_subset (by decide) (List.filter_subset_self _)
  have hrule : IsLegible "hr" [] := isLegible_named (by decide)
  have hlabel : IsLegible "label" [] := isLegible_named (by decide)
  have hinput : IsLegible "input" t.attrs := ht.of_subset (by decide) (List.Subset.refl _)
  mvcgen [startIndex]
  refine IsLegible.concat (hinput.of_subset hinput.name (List.filter_subset_self _)) ?_
  exact ⟨by decide, by decide, .inl (by decide)⟩

@[scoped spec] theorem preserves_startTextarea : Preserves I (startTextarea t) := by
  mvcgen [startTextarea]

@[scoped spec] theorem preserves_startRaw : Preserves I (startRaw t) := by
  mvcgen [startRaw]
  all_goals exact fun _ _ => ht

@[scoped spec] theorem preserves_startOption : Preserves I (startOption t) := by
  mvcgen [startOption]
  all_goals exact fun _ _ => ht

@[scoped spec] theorem preserves_startSelect : Preserves I (startSelect t) := by
  mvcgen [startSelect]

@[scoped spec] theorem preserves_startRuby : Preserves I (startRuby t) := by
  mvcgen [startRuby]
  all_goals exact fun _ _ => ht

@[scoped spec] theorem preserves_startForeign (d : Dialect) : Preserves I (startForeign d t) := by
  have hattrs := Foreign.isLegible_adjustAttrs ht d
  mvcgen [startForeign]

@[scoped spec] theorem preserves_startInBody : Preserves I (startInBody t) := by
  have himage : IsLegible "img" t.attrs := ht.of_subset (by decide) (List.Subset.refl _)
  mvcgen [startInBody]
  all_goals exact fun _ _ => ht

@[scoped spec] theorem preserves_openInTable : Preserves I (openInTable t mode) := by
  mvcgen [openInTable, toTable]

@[scoped spec] theorem preserves_startFormInTable : Preserves I (startFormInTable t) := by
  mvcgen [startFormInTable]
  · next hI _ => exact sublist hI (List.tail_sublist _)

@[scoped spec] theorem preserves_startInTable : Preserves I (startInTable t) := by
  have hgroup : IsLegible "colgroup" [] := isLegible_named (by decide)
  have hrows : IsLegible "tbody" [] := isLegible_named (by decide)
  mvcgen [startInTable, toTable, fostered]

@[scoped spec] theorem preserves_startInCaption : Preserves I (startInCaption t) := by
  mvcgen [startInCaption]
  all_goals exact fun _ _ => ht

@[scoped spec] theorem preserves_startInColumnGroup : Preserves I (startInColumnGroup t) := by
  mvcgen [startInColumnGroup]

@[scoped spec] theorem preserves_openRow : Preserves I (openRow t) := by
  mvcgen [openRow, toRowGroup]

@[scoped spec] theorem preserves_startInTableBody : Preserves I (startInTableBody t) := by
  have hrow : IsLegible "tr" [] := isLegible_named (by decide)
  mvcgen [startInTableBody]
  all_goals exact fun _ _ => ht

@[scoped spec] theorem preserves_startInRow : Preserves I (startInRow t) := by
  mvcgen [startInRow, toRow]
  all_goals exact fun _ _ => ht

@[scoped spec] theorem preserves_startInCell : Preserves I (startInCell t) := by
  mvcgen [startInCell]
  all_goals exact fun _ _ => ht

@[scoped spec] theorem preserves_startInSelect : Preserves I (startInSelect t) := by
  mvcgen [startInSelect]

@[scoped spec] theorem preserves_startInSelectInTable : Preserves I (startInSelectInTable t) := by
  mvcgen [startInSelectInTable]
  all_goals exact fun _ _ => ht

@[scoped spec] theorem preserves_startAfterHead : Preserves I (startAfterHead t) := by
  mvcgen [startAfterHead, push]
  all_goals first
    | next hI _ hhead _ => exact reopenHead hI hhead
    | next hI _ => exact sublist hI List.erase_sublist

@[scoped spec] theorem preserves_startTagIn : Preserves I (startTagIn mode t) := by
  have hhead : IsLegible "head" [] := isLegible_named (by decide)
  mvcgen [startTagIn]
  all_goals exact fun _ _ => ht

end StartTags

/-! Tokens -/

@[scoped spec] theorem preserves_insertBodySpaces (cs : List Char) : Preserves I (insertBodySpaces cs) := by
  mvcgen [insertBodySpaces]

@[scoped spec] theorem preserves_spacesIn (mode : Mode) (cs : List Char) : Preserves I (spacesIn mode cs) := by
  mvcgen [spacesIn, beginTableText]

@[scoped spec] theorem preserves_charactersIn (mode : Mode) (cs : List Char) :
    Preserves I (charactersIn mode cs) := by
  have hhead : IsLegible "head" [] := isLegible_named (by decide)
  mvcgen [charactersIn, beginTableText]

theorem head_eq_root_or_mem (s : List NodeId) :
    s.head?.getD Page.root = Page.root ∨ s.head?.getD Page.root ∈ s := by
  cases s with
  | nil => exact .inl rfl
  | cons n s => exact .inr List.mem_cons_self

theorem last_eq_root_or_mem (s : List NodeId) :
    s.getLastD Page.root = Page.root ∨ s.getLastD Page.root ∈ s := by
  rw [List.getLastD_eq_getLast?]
  cases h : s.getLast? with
  | none => exact .inl rfl
  | some n => exact .inr (List.mem_of_getLast? h)

@[scoped spec] theorem preserves_commentIn (mode : Mode) (s : String) : Preserves I (commentIn mode s) := by
  mvcgen [commentIn, -preserves_current, current, current?, -preserves_outermost, outermost]
  case vc5.h_5.pre b hI => exact ⟨hI, last_eq_root_or_mem b.stack⟩
  case vc7.h_7.pre b hI => exact ⟨hI, head_eq_root_or_mem b.stack⟩
  all_goals exact ⟨‹_›, .inl trivial⟩

@[scoped spec] theorem preserves_doctypeIn (mode : Mode) (d : Doctype) : Preserves I (doctypeIn mode d) := by
  mvcgen [doctypeIn, setPage]
  next hI _ _ => exact doctype _ hI

@[scoped spec] theorem preserves_startTagForeign (ht : t.IsLegible) (e : Element) :
    Preserves I (startTagForeign e t) := by
  have htag := Foreign.isLegible_adjustTag ht e.dialect
  mvcgen [startTagForeign]
  next hI _ => exact sublist hI (List.dropWhile_sublist _)

@[scoped spec] theorem preserves_endTagForeign (tag : Tag) : Preserves I (endTagForeign tag) := by
  mvcgen [endTagForeign]

@[scoped spec] theorem preserves_charactersForeign (cs : List Char) : Preserves I (charactersForeign cs) := by
  mvcgen [charactersForeign]

variable {token : Token}

@[scoped spec] theorem preserves_stepHtml (ht : token.IsLegible) : Preserves I (stepHtml mode token) := by
  cases token <;> mvcgen [stepHtml]
  all_goals exact fun _ _ => ht

@[scoped spec] theorem preserves_stepForeign (ht : token.IsLegible) (e : Element) :
    Preserves I (stepForeign e token) := by
  cases token <;> mvcgen [stepForeign, -preserves_current, current, current?]
  all_goals first
    | exact fun _ _ => ht
    | exact ⟨‹_›, head_eq_root_or_mem _⟩

@[scoped spec] theorem preserves_step (ht : token.IsLegible) : Preserves I (step token) := by
  mvcgen [step, current?]

/-! Whole pages -/

theorem preserves_process (ht : token.IsLegible) (fuel : Nat) :
    Preserves I (process fuel token) := by
  induction fuel with
  | zero => mvcgen [process]
  | succ fuel ih => mvcgen [process, ih]

theorem preserves_processTokens {ts : List Token} (hts : ∀ t ∈ ts, t.IsLegible) :
    Preserves I (processTokens ts) := by
  induction ts with
  | nil => mvcgen [processTokens]
  | cons t ts ih =>
    obtain ⟨ht, hts⟩ := List.forall_mem_cons.mp hts
    have hrest := ih hts
    mvcgen [processTokens, processToken, preserves_process, hrest]

theorem preserves_consume (fuel : Nat) (cs : List Char) : Preserves I (consume fuel cs) := by
  induction fuel generalizing cs with
  | zero => mvcgen [consume]
  | succ fuel ih =>
    cases cs with
    | nil => mvcgen [consume]
    | cons c cs =>
      mvcgen [consume, inForeign, preserves_processTokens, ih]
      all_goals exact Tokenizer.isLegible_next _ _ _

theorem preserves_finish (fuel : Nat) : Preserves I (finish fuel) := by
  have hhead : IsLegible "head" [] := isLegible_named (by decide)
  induction fuel with
  | zero => mvcgen [finish]
  | succ fuel ih => mvcgen [finish, ih]

/-- What holds of the empty page holds of every page that is read. -/
theorem holds_parse (hempty : I .empty [] none []) (html : String) :
    ∃ s h f, I (Page.parse html) s h f := by
  have hconsume := preserves_consume (I := I) (normalizeLines html.toList).length
    (normalizeLines html.toList) {} hempty
  have hfinish := preserves_finish (I := I) 16 _ hconsume
  exact ⟨_, _, _, hfinish⟩

end Invariant

end Build
end ContentBinding.Markup
