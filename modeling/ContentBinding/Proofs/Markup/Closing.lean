import ContentBinding.Proofs.Markup.Admission

/-! End tags. The end tag of the innermost element closes that element and leaves the place in which
it was opened. -/

namespace ContentBinding.Markup

namespace Build

variable {b : Builder}

theorem does_anyInScope {names : List String} {s : Scope} {found : String → Bool}
    (h : ∀ name, Does (inScope name s) b (found name) b) :
    Does (anyInScope names s) b (names.any found) b := by
  unfold anyInScope
  induction names with
  | nil => exact .pure false b
  | cons name names ih =>
    rw [List.anyM, List.any_cons]
    refine (h name).bind ?_
    cases found name with
    | true => exact .pure true b
    | false => exact ih

end Build

namespace Nesting

open Build (BodyTag Does bodyTag)

variable {old : Bool} {b b' : Builder} {os : Opened} {n m : NodeId} {c e : Element}
  {place : Place} {α : Type}

def Closes (old : Bool) (b : Builder) (os : Opened) (x : Build α) (a : α) : Prop :=
  ∃ b', Does x b a b' ∧ At old b' os ∧ b'.page = b.page

theorem Closes.andThen {x : Build Unit} (h : Closes old b os x ()) :
    Closes old b os (do x; return false) false := by
  obtain ⟨b', hdoes, hrest⟩ := h
  exact ⟨b', hdoes.bind (.pure false b'), hrest⟩

theorem Closes.ite_true {p : Prop} [Decidable p] {x y : Build α} {a : α} (hp : p)
    (h : Closes old b os x a) : Closes old b os (if p then x else y) a := by
  rwa [if_pos hp]

theorem Closes.ite_false {p : Prop} [Decidable p] {x y : Build α} {a : α} (hp : ¬ p)
    (h : Closes old b os y a) : Closes old b os (if p then x else y) a := by
  rwa [if_neg hp]

namespace At

theorem ascend_plain (h : At old b ((m, e) :: os)) (hmarker : isMarker e = false)
    (hformatting : isFormatting e = false) (hform : isNamed "form" e = false)
    (hmode : modeAt (e :: placeOf os) = modeAt (placeOf os)) (hpage : b'.page = b.page)
    (hagrees : Agrees { b with stack := nodesOf os } b') : At old b' os := by
  refine h.ascend hpage hagrees.stack_eq ?_ ?_ ?_ (hagrees.model_eq.trans h.model_eq)
    (hagrees.fostering_eq.trans h.fostering_eq) (hagrees.oldPage_eq.trans h.oldPage_eq)
  · have hlist : formattingOf ((m, e) :: os) = formattingOf os := by
      rw [formattingOf, hmarker, hformatting]
      exact List.append_nil _
    exact hagrees.formatting_eq.trans (h.formatting_eq.trans hlist)
  · have hfound : formOf ((m, e) :: os) = formOf os := by
      rw [formOf, hform]
      rfl
    exact hagrees.form_eq.trans (h.form_eq.trans hfound)
  · exact hagrees.mode_eq.trans (h.mode_eq.trans hmode)

theorem ascend_untraced (h : At old b ((m, e) :: os)) (hhead : modeAt (placeOf os) ≠ .inHead)
    (hk : bodyTag e.name ∉ traced) (hpage : b'.page = b.page)
    (hagrees : Agrees { b with stack := nodesOf os } b') : At old b' os := by
  have hnot : ∀ ks : List BodyTag, ks ⊆ traced → bodyTag e.name ∉ ks :=
    fun ks hks hmem => hk (hks hmem)
  exact h.ascend_plain (isMarker_eq_false (hnot _ (by decide)))
    (isFormatting_eq_false (hnot _ (by decide)))
    (isForm_eq_false fun heq => hnot [.form] (by decide) (List.mem_singleton.mpr heq))
    (modeAt_cons hhead (hnot _ (by decide))) hpage hagrees

/-! One rule of the body after the other -/

theorem does_inScope_head (h : At old b ((m, e) :: os)) (hd : e.dialect = .html)
    (s : Build.Scope) :
    Does (Build.inScope e.name s) b true b := by
  have hscope := h.does_inScope e.name s
  rwa [placeOf, List.map_cons, inScope_head hd] at hscope

theorem does_closeBlock (h : At old b ((m, e) :: os)) (hd : e.dialect = .html)
    (himplied : Build.impliedEnds.contains e.name = false) :
    ∃ d, Does (Build.closeBlock e.name) b () { b with stack := nodesOf os, dropNewline := d } := by
  have hrest : ∀ d, Does (do
      if ← Build.inScope e.name then
        Build.closeImplied
        Build.popName e.name) { b with dropNewline := d } ()
        { b with stack := nodesOf os, dropNewline := d } := by
    intro d
    have h' : At old { b with dropNewline := d } ((m, e) :: os) :=
      h.of_agrees rfl ⟨rfl, rfl, rfl, rfl, rfl, rfl, rfl⟩
    exact (h'.does_inScope_head hd .standard).bind
      (.ite_true rfl ((h'.does_closeImplied (.inl himplied)).bind h'.does_popName))
  by_cases hpre : e.name = "pre"
  · exact ⟨false, .ite_true hpre (.bind rfl (hrest false))⟩
  · exact ⟨b.dropNewline, .ite_false hpre (hrest b.dropNewline)⟩

theorem does_closeParagraph (h : At old b ((m, e) :: os)) (hp : e.name = "p") :
    Does Build.closeParagraph b () { b with stack := nodesOf os } := by
  have hpop := h.does_popName
  rw [hp] at hpop
  exact (h.does_closeImplied (.inr hp)).bind hpop

theorem does_closeItem (h : At old b ((m, e) :: os)) (hd : e.dialect = .html) :
    Does (Build.closeItem e.name) b () { b with stack := nodesOf os } :=
  (h.does_inScope_head hd _).bind
    (.ite_true rfl ((h.does_closeImplied (.inr rfl)).bind h.does_popName))

theorem does_closeHeading (h : At old b ((m, e) :: os)) (hd : e.dialect = .html)
    (hname : e.name ∈ Build.headings) :
    Does Build.closeHeading b () { b with stack := nodesOf os } := by
  have hany : Does (Build.anyInScope Build.headings) b true b := by
    have hfound : Does (Build.anyInScope Build.headings) b (Build.headings.any _) b :=
      Build.does_anyInScope fun name => h.does_inScope name .standard
    rwa [List.any_eq_true.mpr ⟨e.name, hname, inScope_head hd .standard _⟩] at hfound
  have himplied : Build.impliedEnds.contains e.name = false := by
    have hall : ∀ name ∈ Build.headings, Build.impliedEnds.contains name = false := by decide
    exact hall _ hname
  have hpop : Does (modify fun b => { b with
      stack := Build.popThrough (fun n => Build.headings.contains (b.page.nameOf n)) b.stack })
      b () { b with stack := nodesOf os } := by
    have hstack : Build.popThrough (fun n => Build.headings.contains (b.page.nameOf n)) b.stack =
        nodesOf os := by
      rw [h.stack_eq, nodesOf, List.map_cons, Build.popThrough, if_pos]
      · rfl
      · rw [nameOf_eq h.head]
        exact List.contains_iff_mem.mpr hname
    exact congrArg (fun s => ((), { b with stack := s })) hstack
  exact hany.bind (.ite_true rfl ((h.does_closeImplied (.inl himplied)).bind
    (hany.bind (.ite_true rfl hpop))))

theorem does_closeOther (h : At old b ((m, e) :: os)) :
    Does (Build.closeOther e.name) b () { b with stack := nodesOf os } := by
  have hfind : b.stack.find? (fun n => b.page.nameOf n = e.name || Build.nodeIsSpecial b.page n) =
      some m := by
    rw [h.stack_eq, nodesOf, List.map_cons, List.find?_cons_of_pos]
    simp [nameOf_eq h.head]
  unfold Build.closeOther
  refine .bind (.get b) ?_
  dsimp only
  rw [hfind]
  exact .ite_true (nameOf_eq h.head) ((h.does_closeImplied (.inr rfl)).bind h.does_popNode)

theorem does_closeForm (h : At old b ((m, e) :: os)) (hform : isNamed "form" e = true) :
    Does Build.closeForm b () { b with stack := nodesOf os, form := none } := by
  have hfound : b.form = some m := by
    rw [h.form_eq, formOf, hform]
    rfl
  have hname : e.name = "form" := of_decide_eq_true (Bool.and_eq_true_iff.mp hform).2
  have hscope : Does (Build.nodeInScope m) { b with form := none } true { b with form := none } := by
    have hsearch : Build.searchScope b.page .standard (fun n => n = m) b.stack = true := by
      rw [h.stack_eq, nodesOf, List.map_cons, Build.searchScope]
      simp
    rw [← hsearch]
    rfl
  have himplied : Does (Build.closeImplied) { b with form := none } () { b with form := none } := by
    have hnot : Build.impliedEnds.contains e.name = false := by
      rw [hname]
      decide
    have hrun : Does (Build.closeImplied "") b () b := h.does_closeImplied (.inl hnot)
    exact congrArg (fun r : Unit × Builder => (r.1, { r.2 with form := none })) hrun
  have herase : b.stack.erase m = nodesOf os := by
    rw [h.stack_eq, nodesOf, List.map_cons, List.erase_cons_head]
    rfl
  refine .bind (.get b) (.bind rfl ?_)
  dsimp only
  rw [hfound]
  refine hscope.bind (.ite_true rfl (himplied.bind ?_))
  exact congrArg (fun s => ((), { b with stack := s, form := none })) herase

theorem erase_formattingOf (h : At old b ((m, e) :: os)) (hmarker : isMarker e = false)
    (hformatting : isFormatting e = true) : b.formatting.erase (some m) = formattingOf os := by
  have hnot : some m ∉ formattingOf os :=
    fun hmem => (List.nodup_cons.mp h.nodup).1 (mem_nodesOf_of_formattingOf hmem)
  rw [h.formatting_eq, formattingOf, hmarker, hformatting, if_neg Bool.false_ne_true, if_pos rfl,
    List.erase_append_right _ hnot, List.erase_cons_head, List.append_nil]

theorem does_closeFormatting (h : At old b ((m, e) :: os)) (hd : e.dialect = .html)
    (hmarker : isMarker e = false) (hformatting : isFormatting e = true) (rounds : Nat) :
    Does (Build.closeFormatting e.name (rounds + 1)) b ()
      { b with stack := nodesOf os, formatting := formattingOf os } := by
  have hactive : Does (Build.activeNamed? e.name) b (some m) b := by
    have hfound := h.does_activeNamed? e.name
    rwa [activeNodes, hmarker, hformatting, if_neg Bool.false_ne_true, if_pos rfl,
      List.find?_cons_of_pos (by simp [nameOf_eq h.head])] at hfound
  have hopen : b.stack.contains m = true := by
    rw [h.stack_eq]
    simp [nodesOf]
  have hinside : b.stack.takeWhile (· != m) = [] := by
    rw [h.stack_eq]
    simp [nodesOf]
  unfold Build.closeFormatting
  refine hactive.bind (.bind (.get b) (.ite_false (by rw [hopen]; decide) ?_))
  refine (h.does_inScope_head hd .standard).bind (.ite_false Bool.false_ne_true ?_)
  rw [hinside]
  refine h.does_popNode.bind ?_
  exact congrArg (fun f => ((), { b with stack := nodesOf os, formatting := f }))
    (h.erase_formattingOf hmarker hformatting)

theorem does_clearToMarker (h : At old b ((m, e) :: os)) (hmarker : isMarker e = true)
    (hb : b'.formatting = b.formatting) :
    Does Build.clearToMarker b' () { b' with formatting := formattingOf os } := by
  have hclear : ((b'.formatting.reverse.dropWhile Option.isSome).drop 1).reverse =
      formattingOf os := by
    rw [hb, h.formatting_eq, formattingOf, hmarker]
    simp
  exact congrArg (fun f => ((), { b' with formatting := f })) hclear

theorem does_closeObject (h : At old b ((m, e) :: os)) (hd : e.dialect = .html)
    (hmarker : isMarker e = true) (himplied : Build.impliedEnds.contains e.name = false) :
    Does (Build.closeObject e.name) b ()
      { b with stack := nodesOf os, formatting := formattingOf os } :=
  (h.does_inScope_head hd .standard).bind (.ite_true rfl
    ((h.does_closeImplied (.inl himplied)).bind
      (h.does_popName.bind (h.does_clearToMarker hmarker rfl))))

def closable : List BodyTag :=
  [.block, .heading, .preformatted, .form, .item, .anchor, .formatting, .nobr, .button, .object,
    .ruby, .option, .other, .textarea]

theorem closes_untraced {x : Build α} {a : α} (h : At old b ((m, e) :: os))
    (hhead : modeAt (placeOf os) ≠ .inHead) (hk : bodyTag e.name ∉ traced)
    (hdoes : Does x b a b') (hpage : b'.page = b.page)
    (hagrees : Agrees { b with stack := nodesOf os } b') : Closes old b os x a :=
  ⟨b', hdoes, h.ascend_untraced hhead hk hpage hagrees, hpage⟩

theorem closes_form (h : At old b ((m, e) :: os)) (hhead : modeAt (placeOf os) ≠ .inHead)
    (hname : isNamed "form" e = true) (hform : formOf os = none) :
    Closes old b os Build.closeForm () := by
  have htag : bodyTag e.name = .form := (bodyTag_of_isNamed hname).trans (by decide)
  have hmarker : isMarker e = false := isMarker_eq_false (by rw [htag]; decide)
  have hformatting : isFormatting e = false := isFormatting_eq_false (by rw [htag]; decide)
  refine ⟨_, h.does_closeForm hname, h.ascend rfl rfl ?_ hform.symm ?_ h.model_eq h.fostering_eq
    h.oldPage_eq, rfl⟩
  · rw [h.formatting_eq, formattingOf, hmarker, hformatting]
    exact List.append_nil _
  · rw [h.mode_eq]
    exact modeAt_cons hhead (by rw [htag]; decide)

theorem closes_listed {x : Build α} {a : α} (h : At old b ((m, e) :: os))
    (hhead : modeAt (placeOf os) ≠ .inHead) (hform : isNamed "form" e = false)
    (hk : bodyTag e.name ∉ [.table, .select, .frameset, .misplaced])
    (hdoes : Does x b a { b with stack := nodesOf os, formatting := formattingOf os }) :
    Closes old b os x a := by
  refine ⟨_, hdoes, h.ascend rfl rfl rfl ?_ ?_ h.model_eq h.fostering_eq h.oldPage_eq, rfl⟩
  · rw [h.form_eq, formOf, hform]
    rfl
  · rw [h.mode_eq]
    exact modeAt_cons hhead hk

theorem closes_paragraph (h : At old b ((m, e) :: os)) (hd : e.dialect = .html)
    (hhead : modeAt (placeOf os) ≠ .inHead) (hp : e.name = "p") :
    Closes old b os (do
      if !(← Build.inScope "p" .button) then
        Build.insertNamed "p"
      Build.closeParagraph
      return false) false := by
  have huntraced : bodyTag e.name ∉ traced := by
    rw [hp]
    decide
  have hscope : Does (Build.inScope "p" .button) b true b := hp ▸ h.does_inScope_head hd .button
  refine ⟨{ b with stack := nodesOf os }, hscope.bind ?_,
    h.ascend_untraced hhead huntraced rfl ⟨rfl, rfl, rfl, rfl, rfl, rfl, rfl⟩, rfl⟩
  exact .ite_false Bool.false_ne_true ((h.does_closeParagraph hp).bind (.pure false _))

theorem untraced_of_closable (hk : bodyTag e.name ∈ closable) (hform : e.name ≠ "form")
    (hformatting : ¬ (decide (e.name = "a") || decide (e.name = "nobr") ||
      Build.formattingNames.contains e.name) = true)
    (hobject : ¬ ["applet", "marquee", "object"].contains e.name = true) :
    bodyTag e.name ∉ traced := by
  intro htraced
  have hall : ∀ k ∈ traced, k ∈ closable → namesOf k ≠ [] ∧ ∀ name ∈ namesOf k,
      name = "form" ∨ (decide (name = "a") || decide (name = "nobr") ||
        Build.formattingNames.contains name) = true ∨
      ["applet", "marquee", "object"].contains name = true := by decide
  obtain ⟨hsome, hnames⟩ := hall _ htraced hk
  rcases hnames _ (mem_namesOf rfl hsome) with hname | hname | hname
  · exact hform hname
  · exact hformatting hname
  · exact hobject hname

-- One rule after the other, in the order in which the body tries them.
theorem closes_endInBody (h : At old b ((m, e) :: os)) (hd : e.dialect = .html)
    (hhead : modeAt (placeOf os) ≠ .inHead) (hk : bodyTag e.name ∈ closable)
    (hform : isNamed "form" e = true → formOf os = none) :
    Closes old b os (Build.endInBody e.name) false := by
  have hne : ∀ name, bodyTag name ∉ closable → e.name ≠ name :=
    fun name hname heq => hname (heq ▸ hk)
  have hagrees : ∀ d, Agrees { b with stack := nodesOf os }
      { b with stack := nodesOf os, dropNewline := d } :=
    fun _ => ⟨rfl, rfl, rfl, rfl, rfl, rfl, rfl⟩
  unfold Build.endInBody
  refine .ite_false (hne _ (by decide)) (.ite_false (hne _ (by decide)) ?_)
  by_cases hblock : Build.blockEnds.contains e.name = true
  · have hall : ∀ name ∈ Build.blockEnds,
        bodyTag name ∉ traced ∧ Build.impliedEnds.contains name = false := by decide
    obtain ⟨huntraced, himplied⟩ := hall _ (List.contains_iff_mem.mp hblock)
    obtain ⟨d, hdoes⟩ := h.does_closeBlock hd himplied
    exact .ite_true hblock (h.closes_untraced hhead huntraced hdoes rfl (hagrees d)).andThen
  refine .ite_false hblock ?_
  by_cases hisForm : e.name = "form"
  · have hnamed : isNamed "form" e = true := by simp [isNamed, hd, hisForm]
    exact .ite_true hisForm (h.closes_form hhead hnamed (hform hnamed)).andThen
  refine .ite_false hisForm ?_
  have hnotForm : isNamed "form" e = false := by simp [isNamed, hisForm]
  by_cases hp : e.name = "p"
  · exact .ite_true hp (h.closes_paragraph hd hhead hp)
  refine .ite_false hp ?_
  by_cases hitem : ["dd", "dt", "li"].contains e.name = true
  · have hall : ∀ name ∈ ["dd", "dt", "li"], bodyTag name ∉ traced := by decide
    have huntraced := hall _ (List.contains_iff_mem.mp hitem)
    exact .ite_true hitem
      (h.closes_untraced hhead huntraced (h.does_closeItem hd) rfl (hagrees _)).andThen
  refine .ite_false hitem ?_
  by_cases hheading : Build.headings.contains e.name = true
  · have hmem := List.contains_iff_mem.mp hheading
    have hall : ∀ name ∈ Build.headings, bodyTag name ∉ traced := by decide
    exact .ite_true hheading (h.closes_untraced hhead (hall _ hmem)
      (h.does_closeHeading hd hmem) rfl (hagrees _)).andThen
  refine .ite_false hheading ?_
  by_cases hformatting : (decide (e.name = "a") || decide (e.name = "nobr") ||
      Build.formattingNames.contains e.name) = true
  · have htraced : isFormatting e = true := by
      simpa [isFormatting, hd] using hformatting
    have htag := bodyTag_of_isFormatting htraced
    have hnot : ∀ ks : List BodyTag, (∀ k ∈ [.anchor, .nobr, .formatting], k ∉ ks) →
        bodyTag e.name ∉ ks := fun ks hks => hks _ htag
    exact .ite_true hformatting (h.closes_listed hhead hnotForm (hnot _ (by decide))
      (h.does_closeFormatting hd (isMarker_eq_false (hnot _ (by decide))) htraced 7)).andThen
  refine .ite_false hformatting ?_
  by_cases hobject : ["applet", "marquee", "object"].contains e.name = true
  · have hall : ∀ name ∈ ["applet", "marquee", "object"], Build.impliedEnds.contains name = false ∧
        ["applet", "marquee", "object", "caption", "td", "th"].contains name = true ∧
        bodyTag name ∉ [.table, .select, .frameset, .misplaced] := by decide
    obtain ⟨himplied, hname, htag⟩ := hall _ (List.contains_iff_mem.mp hobject)
    have hmarker : isMarker e = true := by simp only [isMarker, hd, hname]; rfl
    exact .ite_true hobject (h.closes_listed hhead hnotForm htag
      (h.does_closeObject hd hmarker himplied)).andThen
  refine .ite_false hobject (.ite_false (hne _ (by decide)) ?_)
  have huntraced := untraced_of_closable hk hisForm hformatting hobject
  exact (h.closes_untraced hhead huntraced h.does_closeOther rfl (hagrees _)).andThen

end At

end Nesting
end ContentBinding.Markup
