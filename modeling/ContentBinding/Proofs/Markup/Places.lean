import ContentBinding.Proofs.Markup.Growth
import ContentBinding.Proofs.Markup.Nesting

/-! The builder in a place of a page. While a page is read whose elements stand where their tags put
them, the stack of open elements, the active formatting elements and the insertion mode are those
that the place asks for. -/

namespace ContentBinding.Markup

/-! Steps -/

namespace Build

variable {α β : Type} {b b₁ b₂ : Builder} {x y : Build α} {a : α}

def Does (x : Build α) (b : Builder) (a : α) (b' : Builder) : Prop :=
  x.run b = (a, b')

namespace Does

theorem bind {f : α → Build β} {c : β} (h : Does x b a b₁) (h' : Does (f a) b₁ c b₂) :
    Does (x >>= f) b c b₂ := by
  unfold Does at *
  rw [StateT.run_bind, h]
  exact h'

theorem pure (a : α) (b : Builder) : Does (Pure.pure a) b a b :=
  rfl

theorem get (b : Builder) : Does MonadState.get b b b :=
  rfl

theorem modify (f : Builder → Builder) (b : Builder) : Does (modify f) b () (f b) :=
  rfl

theorem discard (h : Does x b a b₁) : Does (discard x) b () b₁ := by
  unfold Does at *
  exact congrArg (fun r => ((), r.2)) h

theorem ite_true {p : Prop} [Decidable p] (hp : p) (h : Does x b a b₁) :
    Does (if p then x else y) b a b₁ := by
  rwa [if_pos hp]

theorem ite_false {p : Prop} [Decidable p] (hp : ¬ p) (h : Does y b a b₁) :
    Does (if p then x else y) b a b₁ := by
  rwa [if_neg hp]

end Does

theorem does_insertionPlace {n : NodeId} (hfostering : b.fostering = false)
    (hhead : b.stack.headD Page.root = n) : Does insertionPlace b (n, none) b := by
  have hrun : insertionPlace.run b =
      (if b.fostering && tableParts.contains (b.page.nameOf (b.stack.headD Page.root))
        then fosterPlace b else (b.stack.headD Page.root, none), b) := rfl
  rw [Does, hrun, hfostering, hhead]
  rfl

theorem does_insertNode {n : NodeId} (hfostering : b.fostering = false)
    (hhead : b.stack.headD Page.root = n) (e : Element) :
    Does (insertNode e) b b.page.size { b with
      page := b.page.addChild n (.element e)
      stack := b.page.size :: b.stack } :=
  (does_insertionPlace hfostering hhead).bind rfl

end Build

namespace Nesting

open Build (Does Scope)

/-- Open elements, the innermost first: their nodes, and what they are. -/
abbrev Opened := List (NodeId × Element)

def placeOf (os : Opened) : Place :=
  os.map (·.2)

def nodesOf (os : Opened) : List NodeId :=
  os.map (·.1)

def formattingOf : Opened → List (Option NodeId)
  | [] => []
  | (n, e) :: rest =>
    formattingOf rest ++
      if isMarker e then [none] else if isFormatting e then [some n] else []

def formOf : Opened → Option NodeId
  | [] => none
  | (n, e) :: rest => if isNamed "form" e then some n else formOf rest

/-- The builder stands where exactly these elements are open. -/
structure At (old : Bool) (b : Builder) (os : Opened) : Prop where
  linked : b.page.Linked
  stack_eq : b.stack = nodesOf os
  element : ∀ o ∈ os, b.page.element? o.1 = some o.2
  nodup : (nodesOf os).Nodup
  formatting_eq : b.formatting = formattingOf os
  form_eq : b.form = formOf os
  mode_eq : b.mode = modeAt (placeOf os)
  model_eq : b.model = .data
  fostering_eq : b.fostering = false
  oldPage_eq : b.oldPage = old

variable {old : Bool} {b b' : Builder} {os : Opened} {n : NodeId} {e : Element} {name : String}

theorem nameOf_eq {p : Page} (h : p.element? n = some e) : p.nameOf n = e.name := by
  rw [Page.nameOf, h]

theorem dialectOf_eq {p : Page} (h : p.element? n = some e) : p.dialectOf n = e.dialect := by
  rw [Page.dialectOf, h]

namespace At

theorem head (h : At old b ((n, e) :: os)) : b.page.element? n = some e :=
  h.element _ List.mem_cons_self

theorem headD (h : At old b ((n, e) :: os)) : b.stack.headD Page.root = n := by
  rw [h.stack_eq]
  rfl

theorem isInner (h : At old b ((n, e) :: os)) : b.page.IsInner n :=
  .inr (by rw [Page.isElement, h.head]; rfl)

theorem lt_size (h : At old b os) {o : NodeId × Element} (ho : o ∈ os) : o.1 < b.page.size :=
  Page.lt_size_of_content? (Page.content?_of_element? (h.element o ho))

/-! Looking at the open elements -/

theorem searchScope_eq {p : Page} (s : Scope) (name : String)
    (h : ∀ o ∈ os, p.element? o.1 = some o.2) :
    Build.searchScope p s (fun n => p.dialectOf n = .html && p.nameOf n = name) (nodesOf os) =
      inScope s name (placeOf os) := by
  induction os with
  | nil => rfl
  | cons o os ih =>
    rw [List.forall_mem_cons] at h
    have hrest := ih h.2
    simp only [nodesOf, placeOf, List.map_cons, Build.searchScope, inScope, isNamed,
      nameOf_eq h.1, dialectOf_eq h.1] at hrest ⊢
    rw [hrest]
    cases hwanted : (decide (o.2.dialect = .html) && decide (o.2.name = name)) <;>
      cases s.endsAt o.2.dialect o.2.name <;> simp

theorem does_inScope (h : At old b os) (name : String) (s : Scope) :
    Does (Build.inScope name s) b (inScope s name (placeOf os)) b := by
  rw [← searchScope_eq s name h.element, ← h.stack_eq]
  rfl

theorem does_currentName (h : At old b os) :
    Does Build.currentName b (currentName (placeOf os)) b := by
  refine Does.bind (.get b) ?_
  rw [h.stack_eq]
  cases os with
  | nil => exact .pure "" b
  | cons o os =>
    rw [show currentName (placeOf (o :: os)) = o.2.name from rfl, ← nameOf_eq h.head]
    exact .pure _ b

theorem does_endParagraph (h : At old b os) (hp : hasParagraph (placeOf os) = false) :
    Does Build.endParagraph b () b := by
  refine (h.does_inScope "p" .button).bind (.ite_false ?_ (.pure () b))
  rw [← hasParagraph, hp]
  exact Bool.false_ne_true

theorem mem_nodesOf_of_formattingOf (h : some n ∈ formattingOf os) : n ∈ nodesOf os := by
  induction os with
  | nil => exact absurd h List.not_mem_nil
  | cons o os ih =>
    rw [formattingOf, List.mem_append] at h
    rcases h with hold | hnew
    · exact List.mem_cons_of_mem _ (ih hold)
    · split_ifs at hnew
      · exact absurd hnew (by simp)
      · simp only [List.mem_singleton, Option.some.injEq] at hnew
        exact hnew ▸ List.mem_cons_self
      · exact absurd hnew List.not_mem_nil

theorem does_reopenFormatting (h : At old b os) : Does Build.reopenFormatting b () b := by
  have hclosed : (Build.splitReopen b.stack b.formatting).2 = [] := by
    have hopen : ∀ m, some m ∈ b.formatting.reverse → m ∈ b.stack := by
      intro m hm
      rw [List.mem_reverse, h.formatting_eq] at hm
      rw [h.stack_eq]
      exact mem_nodesOf_of_formattingOf hm
    unfold Build.splitReopen
    cases hlist : b.formatting.reverse with
    | nil => rfl
    | cons entry rest =>
      cases entry with
      | none => rfl
      | some m =>
        have hm := hopen m (hlist ▸ List.mem_cons_self)
        simp [hm]
  obtain ⟨kept, hsplit⟩ : ∃ kept, Build.splitReopen b.stack b.formatting = (kept, []) :=
    ⟨_, Prod.ext rfl hclosed⟩
  unfold Build.reopenFormatting
  refine .bind (.get b) ?_
  dsimp only
  rw [hsplit]
  exact .pure () b

def activeNodes : Opened → List NodeId
  | [] => []
  | (n, e) :: rest =>
    if isMarker e then [] else if isFormatting e then n :: activeNodes rest else activeNodes rest

theorem activeNodes_eq (os : Opened) :
    ((formattingOf os).reverse.takeWhile Option.isSome).filterMap id = activeNodes os := by
  induction os with
  | nil => rfl
  | cons o os ih =>
    rw [formattingOf, activeNodes, List.reverse_append]
    split_ifs
    · rfl
    · simpa using ih
    · simpa using ih

theorem does_activeNamed? (h : At old b os) (name : String) :
    Does (Build.activeNamed? name) b
      ((activeNodes os).find? fun n => b.page.nameOf n = name) b := by
  rw [← activeNodes_eq, ← h.formatting_eq]
  rfl

theorem find?_activeNodes {p : Page} (h : ∀ o ∈ os, p.element? o.1 = some o.2)
    (hnone : name ∉ active (placeOf os)) :
    ((activeNodes os).find? fun n => p.nameOf n = name) = none := by
  induction os with
  | nil => rfl
  | cons o os ih =>
    rw [List.forall_mem_cons] at h
    simp only [placeOf, List.map_cons, active, activeNodes] at hnone ih ⊢
    split_ifs at hnone ⊢
    · rfl
    · rw [List.mem_cons, not_or] at hnone
      rw [List.find?_cons_of_neg, ih h.2 hnone.2]
      simpa [nameOf_eq h.1] using Ne.symm hnone.1
    · exact ih h.2 hnone

/-! Going in and out -/

/-- Everything that a place determines is the same, except for the page. -/
structure Agrees (b b' : Builder) : Prop where
  stack_eq : b'.stack = b.stack
  formatting_eq : b'.formatting = b.formatting
  form_eq : b'.form = b.form
  mode_eq : b'.mode = b.mode
  model_eq : b'.model = b.model
  fostering_eq : b'.fostering = b.fostering
  oldPage_eq : b'.oldPage = b.oldPage

theorem Agrees.trans {b₁ : Builder} (h : Agrees b b₁) (h' : Agrees b₁ b') : Agrees b b' where
  stack_eq := h'.stack_eq.trans h.stack_eq
  formatting_eq := h'.formatting_eq.trans h.formatting_eq
  form_eq := h'.form_eq.trans h.form_eq
  mode_eq := h'.mode_eq.trans h.mode_eq
  model_eq := h'.model_eq.trans h.model_eq
  fostering_eq := h'.fostering_eq.trans h.fostering_eq
  oldPage_eq := h'.oldPage_eq.trans h.oldPage_eq

theorem grow {m : NodeId} (h : At old b os) (hgrown : Page.Grown b.page b'.page m)
    (hagrees : Agrees b b') : At old b' os where
  linked := hgrown.linked
  stack_eq := hagrees.stack_eq.trans h.stack_eq
  element o ho := by
    rw [Page.element?_congr (hgrown.content _ (h.lt_size ho)), h.element o ho]
  nodup := h.nodup
  formatting_eq := hagrees.formatting_eq.trans h.formatting_eq
  form_eq := hagrees.form_eq.trans h.form_eq
  mode_eq := hagrees.mode_eq.trans h.mode_eq
  model_eq := hagrees.model_eq.trans h.model_eq
  fostering_eq := hagrees.fostering_eq.trans h.fostering_eq
  oldPage_eq := hagrees.oldPage_eq.trans h.oldPage_eq

theorem grown_addChild {c : Element} (h : At old b ((n, c) :: os)) (e : Element) :
    Page.Grown b.page (b.page.addChild n (.element e)) n :=
  Page.grown_addChild h.linked h.isInner fun h => Content.noConfusion h

theorem descend {c : Element} (h : At old b ((n, c) :: os)) (e : Element)
    (hpage : b'.page = b.page.addChild n (.element e)) (hstack : b'.stack = b.page.size :: b.stack)
    (hformatting : b'.formatting = formattingOf ((b.page.size, e) :: (n, c) :: os))
    (hform : b'.form = formOf ((b.page.size, e) :: (n, c) :: os))
    (hmode : b'.mode = modeAt (e :: placeOf ((n, c) :: os))) (hmodel : b'.model = .data)
    (hfostering : b'.fostering = false) (hold : b'.oldPage = old) :
    At old b' ((b.page.size, e) :: (n, c) :: os) where
  linked := hpage ▸ (h.grown_addChild e).linked
  stack_eq := by
    rw [hstack, h.stack_eq]
    rfl
  element o ho := by
    rcases List.mem_cons.mp ho with rfl | hold
    · rw [hpage, Page.element?, Page.content?_addChild_self]
    · rw [hpage, Page.element?_congr ((h.grown_addChild e).content _ (h.lt_size hold)),
        h.element o hold]
  nodup := by
    refine List.nodup_cons.mpr ⟨fun hmem => ?_, h.nodup⟩
    obtain ⟨o, ho, heq⟩ := List.mem_map.mp hmem
    exact absurd (h.lt_size ho) (heq ▸ Nat.lt_irrefl _)
  formatting_eq := hformatting
  form_eq := hform
  mode_eq := hmode
  model_eq := hmodel
  fostering_eq := hfostering
  oldPage_eq := hold

theorem ascend {o : NodeId × Element} (h : At old b (o :: os)) (hpage : b'.page = b.page)
    (hstack : b'.stack = nodesOf os) (hformatting : b'.formatting = formattingOf os)
    (hform : b'.form = formOf os) (hmode : b'.mode = modeAt (placeOf os))
    (hmodel : b'.model = .data) (hfostering : b'.fostering = false) (hold : b'.oldPage = old) :
    At old b' os where
  linked := hpage ▸ h.linked
  stack_eq := hstack
  element o ho := by
    rw [hpage]
    exact h.element o (List.mem_cons_of_mem _ ho)
  nodup := (List.nodup_cons.mp h.nodup).2
  formatting_eq := hformatting
  form_eq := hform
  mode_eq := hmode
  model_eq := hmodel
  fostering_eq := hfostering
  oldPage_eq := hold

/-! Inserting -/

theorem does_insertNode {c : Element} (h : At old b ((n, c) :: os)) (e : Element) :
    Does (Build.insertNode e) b b.page.size { b with
      page := b.page.addChild n (.element e)
      stack := b.page.size :: b.stack } :=
  Build.does_insertNode h.fostering_eq h.headD e

theorem does_insertElement {c : Element} (h : At old b ((n, c) :: os)) (t : Tag) (d : Dialect) :
    Does (Build.insertElement t d) b () { b with
      page := b.page.addChild n (.element (opened d t))
      stack := b.page.size :: b.stack } :=
  (h.does_insertNode _).discard

theorem does_insertEmpty {c : Element} (h : At old b ((n, c) :: os)) (t : Tag) :
    Does (Build.insertEmpty t) b ()
      { b with page := b.page.addChild n (.element (opened .html t)) } :=
  (h.does_insertElement t .html).bind rfl

/-! Closing the innermost element -/

theorem does_closeImplied (h : At old b ((n, e) :: os)) {kept : String}
    (hkept : Build.impliedEnds.contains e.name = false ∨ e.name = kept) :
    Does (Build.closeImplied kept) b () b := by
  have hstay : (Build.impliedEnds.contains (b.page.nameOf n) && b.page.nameOf n != kept) = false := by
    rw [nameOf_eq h.head]
    rcases hkept with hnot | heq
    · rw [hnot, Bool.false_and]
    · simp [heq]
  have hrun : Does (Build.closeImplied kept) b () { b with
      stack := b.stack.dropWhile fun n =>
        Build.impliedEnds.contains (b.page.nameOf n) && b.page.nameOf n != kept } := rfl
  have hstack : (b.stack.dropWhile fun n =>
      Build.impliedEnds.contains (b.page.nameOf n) && b.page.nameOf n != kept) = b.stack := by
    rw [h.stack_eq, nodesOf, List.map_cons, List.dropWhile_cons_of_neg]
    rw [hstay]
    exact Bool.false_ne_true
  rwa [hstack] at hrun

theorem does_popName (h : At old b ((n, e) :: os)) :
    Does (Build.popName e.name) b () { b with stack := nodesOf os } := by
  have hrun : Does (Build.popName e.name) b () { b with
      stack := Build.popThrough (fun n => b.page.nameOf n = e.name) b.stack } := rfl
  have hstack : Build.popThrough (fun n => b.page.nameOf n = e.name) b.stack = nodesOf os := by
    rw [h.stack_eq, nodesOf, List.map_cons, Build.popThrough]
    simp [nameOf_eq h.head]
    rfl
  rwa [hstack] at hrun

theorem does_popNode (h : At old b ((n, e) :: os)) :
    Does (Build.popNode n) b () { b with stack := nodesOf os } := by
  have hrun : Does (Build.popNode n) b () { b with
      stack := Build.popThrough (fun m => m = n) b.stack } := rfl
  have hstack : Build.popThrough (fun m => m = n) b.stack = nodesOf os := by
    rw [h.stack_eq, nodesOf, List.map_cons, Build.popThrough]
    simp
    rfl
  rwa [hstack] at hrun

theorem does_pop (h : At old b ((n, e) :: os)) :
    Does Build.pop b () { b with stack := nodesOf os } := by
  have hrun : Does Build.pop b () { b with stack := b.stack.tail } := rfl
  rwa [h.stack_eq] at hrun

theorem inScope_head {e : Element} (h : e.dialect = .html) (s : Scope) (place : Place) :
    inScope s e.name (e :: place) = true := by
  simp [inScope, isNamed, h]

end At
end Nesting
end ContentBinding.Markup
