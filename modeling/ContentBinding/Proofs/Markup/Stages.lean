import ContentBinding.Proofs.Markup.Rereading

/-! The stages of a page: before its outermost element, around its head and its body or its frames,
and after them. In each of them the builder stands in an insertion mode of its own, and no formatting
element or form is open. -/

namespace ContentBinding.Markup.Nesting

open Build (Does Reads)
open Tokenizer (IsCut isComment)

variable {old : Bool} {mode : Mode} {b b' : Builder} {os : Opened} {n k m : NodeId}
  {c e root : Element} {t : Token} {cs : List Char} {P : List Char → Prop}

/-- The builder stands beside the content of a page, where these elements are open. -/
structure Stage (old : Bool) (mode : Mode) (b : Builder) (os : Opened) : Prop where
  linked : b.page.Linked
  stack_eq : b.stack = nodesOf os
  element : ∀ o ∈ os, b.page.element? o.1 = some o.2
  html : ∀ o ∈ os, o.2.dialect = .html
  nodup : (nodesOf os).Nodup
  formatting_eq : b.formatting = []
  form_eq : b.form = none
  mode_eq : b.mode = mode
  model_eq : b.model = .data
  fostering_eq : b.fostering = false
  oldPage_eq : b.oldPage = old

theorem dialect_merged (attrs : List (String × String)) (e : Element) :
    (merged e attrs).dialect = e.dialect := by
  unfold merged
  induction attrs generalizing e with
  | nil => rfl
  | cons a attrs ih =>
    rw [List.foldl_cons, ih]
    dsimp only [Element.setAttr]
    split_ifs <;> rfl

namespace Stage

theorem isInner (h : Stage old mode b os) {o : NodeId × Element} (ho : o ∈ os) :
    b.page.IsInner o.1 :=
  .inr (by rw [Page.isElement, h.element o ho]; rfl)

theorem lt_size (h : Stage old mode b os) {o : NodeId × Element} (ho : o ∈ os) :
    o.1 < b.page.size :=
  Page.lt_size_of_content? (Page.content?_of_element? (h.element o ho))

theorem does_step (h : Stage old mode b os) {again : Bool}
    (hdoes : Does (Build.stepHtml mode t) b again b') : Does (Build.step t) b again b' := by
  have hcurrent : Foreign.isHtmlContent
      ((b.stack.head?.bind b.page.element?).getD { name := "" }) t = true := by
    rw [h.stack_eq]
    cases os with
    | nil => rfl
    | cons o os =>
      rw [nodesOf, List.map_cons, List.head?_cons, Option.bind_some,
        h.element o List.mem_cons_self]
      exact isHtmlContent_html (h.html o List.mem_cons_self) t
  have hrun : (Build.step t).run b = (if Foreign.isHtmlContent
      ((b.stack.head?.bind b.page.element?).getD { name := "" }) t then Build.stepHtml b.mode t
      else Build.stepForeign ((b.stack.head?.bind b.page.element?).getD { name := "" }) t).run b :=
    rfl
  rw [Does, hrun, hcurrent, if_pos rfl, h.mode_eq]
  exact hdoes

theorem reads (h : Stage old mode b os) (hne : cs ≠ [])
    (hnext : ∀ cdata rest, P rest → Tokenizer.next .data cdata (cs ++ rest) = ([t], .data, rest))
    (hdoes : Does (Build.processToken t) b () b') : Reads P cs b b' := by
  have hsame : { b with model := .data } = b := by rw [← h.model_eq]
  have hround : ∀ cdata rest, P rest →
      Tokenizer.next b.model cdata (cs ++ rest) = ([t], .data, rest) := by
    rw [h.model_eq]
    exact hnext
  exact Build.reads_round hne hround (hsame.symm ▸ does_processTokens_single hdoes)

theorem grow (h : Stage old mode b os) (hgrown : Page.Grown b.page b'.page m)
    (hagrees : At.Agrees b b') : Stage old mode b' os where
  linked := hgrown.linked
  stack_eq := hagrees.stack_eq.trans h.stack_eq
  element o ho := by
    rw [Page.element?_congr (hgrown.content _ (h.lt_size ho)), h.element o ho]
  html := h.html
  nodup := h.nodup
  formatting_eq := hagrees.formatting_eq.trans h.formatting_eq
  form_eq := hagrees.form_eq.trans h.form_eq
  mode_eq := hagrees.mode_eq.trans h.mode_eq
  model_eq := hagrees.model_eq.trans h.model_eq
  fostering_eq := hagrees.fostering_eq.trans h.fostering_eq
  oldPage_eq := hagrees.oldPage_eq.trans h.oldPage_eq

theorem push (h : Stage old mode b os) (hm : b.page.IsInner m) (hd : e.dialect = .html)
    (hpage : b'.page = b.page.addChild m (.element e)) (hstack : b'.stack = b.page.size :: b.stack)
    {mode' : Mode} (hagrees : At.Agrees { b with stack := b'.stack, mode := mode' } b') :
    Stage old mode' b' ((b.page.size, e) :: os) where
  linked := hpage ▸ Page.linked_addChild h.linked hm fun h => Content.noConfusion h
  stack_eq := by
    rw [hstack, h.stack_eq]
    rfl
  element o ho := by
    rcases List.mem_cons.mp ho with rfl | hold
    · rw [hpage, Page.element?, Page.content?_addChild_self]
    · have hlt := h.lt_size hold
      rw [hpage, Page.element?_congr (Page.content?_addChild_ne _ hlt.ne), h.element o hold]
  html := List.forall_mem_cons.mpr ⟨hd, h.html⟩
  nodup := by
    refine List.nodup_cons.mpr ⟨fun hmem => ?_, h.nodup⟩
    obtain ⟨o, ho, heq⟩ := List.mem_map.mp hmem
    exact absurd (h.lt_size ho) (heq ▸ Nat.lt_irrefl _)
  formatting_eq := hagrees.formatting_eq.trans h.formatting_eq
  form_eq := hagrees.form_eq.trans h.form_eq
  mode_eq := hagrees.mode_eq
  model_eq := hagrees.model_eq.trans h.model_eq
  fostering_eq := hagrees.fostering_eq.trans h.fostering_eq
  oldPage_eq := hagrees.oldPage_eq.trans h.oldPage_eq

theorem pop {o : NodeId × Element} (h : Stage old mode b (o :: os)) (mode' : Mode) :
    Stage old mode' { b with stack := nodesOf os, mode := mode' } os :=
  { h with
    stack_eq := rfl
    element := fun o ho => h.element o (List.mem_cons_of_mem _ ho)
    html := fun o ho => h.html o (List.mem_cons_of_mem _ ho)
    nodup := (List.nodup_cons.mp h.nodup).2
    mode_eq := rfl }

theorem setMode (h : Stage old mode b os) (mode' : Mode) :
    Stage old mode' { b with mode := mode' } os :=
  { h with mode_eq := rfl }

/-! Comments -/

def noteParent (mode : Mode) (os : Opened) : NodeId :=
  match mode with
  | .initial | .beforeHtml | .afterAfterBody | .afterAfterFrameset => Page.root
  | .afterBody => (nodesOf os).getLastD Page.root
  | _ => (nodesOf os).head?.getD Page.root

theorem isInner_noteParent (h : Stage old mode b os) : b.page.IsInner (noteParent mode os) := by
  have hall : ∀ n ∈ Page.root :: nodesOf os, b.page.IsInner n := by
    intro n hn
    rcases List.mem_cons.mp hn with rfl | hn
    · exact .inl rfl
    · obtain ⟨o, ho, rfl⟩ := List.mem_map.mp hn
      exact h.isInner ho
  unfold noteParent
  split
  case h_1 | h_2 | h_3 | h_4 => exact .inl rfl
  case h_5 => exact hall _ List.getLastD_mem_cons
  case h_6 =>
    cases hlist : nodesOf os with
    | nil => exact .inl rfl
    | cons n rest => exact hall n (by simp [hlist])

def stageModes : List Mode :=
  [.initial, .beforeHtml, .afterAfterBody, .afterAfterFrameset, .beforeHead, .afterHead,
    .afterFrameset, .afterBody]

theorem does_comment (h : Stage old mode b os) (hmode : mode ∈ stageModes) (s : String) :
    Does (Build.commentIn mode s) b false
      { b with page := b.page.addChild (noteParent mode os) (.comment s) } := by
  have hlast : noteParent .afterBody os = b.stack.getLastD Page.root := by
    rw [h.stack_eq]
    rfl
  have hfirst : ∀ mode, mode ∈ [Mode.beforeHead, .afterHead, .afterFrameset] →
      noteParent mode os = b.stack.head?.getD Page.root := by
    intro mode hmem
    simp only [List.mem_cons, List.not_mem_nil, or_false] at hmem
    rcases hmem with rfl | rfl | rfl <;> rw [h.stack_eq] <;> rfl
  simp only [stageModes, List.mem_cons, List.not_mem_nil, or_false] at hmode
  rcases hmode with rfl | rfl | rfl | rfl | hmode
  iterate 4 rfl
  rcases hmode with rfl | rfl | rfl | rfl
  iterate 3
    rw [hfirst _ (by decide)]
    rfl
  rw [hlast]
  rfl

theorem reads_comment (h : Stage old mode b os) (hmode : mode ∈ stageModes) {s : String}
    (hs : isComment s = true) :
    ∃ b', Reads anything (commentMarkup s) b b' ∧ Stage old mode b' os ∧
      b'.page = b.page.addChild (noteParent mode os) (.comment s) := by
  have hgrown : Page.Grown b.page (b.page.addChild (noteParent mode os) (.comment s))
      (noteParent mode os) :=
    Page.grown_addChild h.linked h.isInner_noteParent fun h => Content.noConfusion h
  have hstep := h.does_step (t := .comment s) (h.does_comment hmode s)
  refine ⟨{ b with page := b.page.addChild (noteParent mode os) (.comment s) },
    h.reads (List.cons_ne_nil _ _) (fun cdata rest _ => ?_) (Build.does_processToken_last hstep),
    h.grow hgrown ⟨rfl, rfl, rfl, rfl, rfl, rfl, rfl⟩, rfl⟩
  have hnext := Tokenizer.next_comment hs cdata rest
  simpa [commentMarkup] using hnext

theorem reads_notes (hmode : mode ∈ stageModes) {ts : List Tree} (h : Stage old mode b os)
    (hts : ts.all isNote = true) :
    ∃ b', Reads anything (Tree.renderAll false ts).toList b b' ∧ Stage old mode b' os ∧
      b'.page = b.page.graftAll (noteParent mode os) (writtenTrees ts) := by
  induction ts generalizing b with
  | nil => exact ⟨b, .nil _ b, h, rfl⟩
  | cons t ts ih =>
    rw [List.all_cons, Bool.and_eq_true] at hts
    cases t with
    | comment s =>
      obtain ⟨b₁, hread, hstage, hpage⟩ := h.reads_comment hmode hts.1
      obtain ⟨b', hread', hstage', hpage'⟩ := ih hstage hts.2
      refine ⟨b', ?_, hstage', ?_⟩
      · rw [toList_renderAll, toList_render_comment]
        exact hread.append hread' fun _ _ => trivial
      · rw [hpage', hpage]
        rfl
    | _ => exact absurd hts.1 Bool.false_ne_true

/-! The outermost element -/

theorem does_mergeHtmlAttrs (hlast : b.stack.getLastD Page.root = n) (t : Tag) :
    Does (Build.mergeHtmlAttrs t) b ()
      { b with page := b.page.updateElement n fun e => merged e t.attrs } := by
  subst hlast
  rfl

theorem updateElement_addChild {p : Page} (hn : n < p.size) (f : Element → Element) :
    (p.addChild n (.element e)).updateElement p.size f = p.addChild n (.element (f e)) := by
  have helement : (p.addChild n (.element e)).element? p.size = some e := by
    rw [Page.element?, Page.content?_addChild_self]
  rw [Page.updateElement, helement]
  exact Page.setContent_addChild _ _ hn

def begun (b : Builder) (e : Element) : Builder :=
  { b with
    page := b.page.addChild Page.root (.element e)
    stack := b.page.size :: b.stack
    mode := .beforeHead }

theorem begin (h : Stage old .beforeHtml b []) (hd : e.dialect = .html) :
    Stage old .beforeHead (begun b e) [(b.page.size, e)] :=
  h.push (.inl rfl) hd rfl rfl ⟨rfl, rfl, rfl, rfl, rfl, rfl, rfl⟩

theorem of_isRoot (he : isRoot e = true) : isReadable e = true ∧ e.name = "html" ∧
    merged { name := "html" } (tagOf e).attrs = written e ∧ e.dialect = .html := by
  simp only [isRoot, Bool.and_eq_true, decide_eq_true_eq] at he
  obtain ⟨⟨hreadable, hname⟩, hmerged⟩ := he
  have hd : (written e).dialect = .html := hmerged ▸ dialect_merged _ _
  exact ⟨hreadable, hname, hmerged, hd⟩

theorem runs_root (h : Stage old .beforeHtml b []) (he : isRoot e = true) :
    Build.Runs (.startTag (tagOf e)) 2 b (begun b (written e)) ∧
      Stage old .beforeHead (begun b (written e)) [(b.page.size, written e)] := by
  obtain ⟨-, hname, hmerged, hd⟩ := of_isRoot he
  have htag : (tagOf e).name = "html" := by
    rw [show (tagOf e).name = lowerString e.name from rfl, hname]
    decide
  have hopen : Does (Build.stepHtml .beforeHtml (.startTag (tagOf e))) b true
      (begun b { name := "html" }) := rfl
  have hlast : (begun b { name := "html" }).stack.getLastD Page.root = b.page.size := by
    rw [begun, h.stack_eq]
    rfl
  have hmerge := does_mergeHtmlAttrs hlast (tagOf e)
  rw [show (begun b { name := "html" }).page = b.page.addChild Page.root
    (.element { name := "html" }) from rfl, updateElement_addChild h.linked.root_lt_size,
    hmerged] at hmerge
  have hstep : Does (Build.stepHtml .beforeHead (.startTag (tagOf e)))
      (begun b { name := "html" }) false (begun b (written e)) := by
    have hcase : Build.stepHtml .beforeHead (.startTag (tagOf e)) = do
        Build.mergeHtmlAttrs (tagOf e)
        return false := by
      simp only [Build.stepHtml, Build.startTagIn, htag]
    rw [hcase]
    exact hmerge.bind (.pure false _)
  exact ⟨.again (h.does_step hopen) (.last ((h.begin rfl).does_step hstep)), h.begin hd⟩

theorem reads_rootStart (h : Stage old .beforeHtml b []) (he : isRoot e = true) :
    ∃ b', Reads anything (startMarkup e) b b' ∧
      Stage old .beforeHead b' [(b.page.size, written e)] ∧
      b'.page = b.page.addChild Page.root (.element (written e)) := by
  obtain ⟨hruns, hstage⟩ := h.runs_root he
  exact ⟨_, h.reads (by simp [startMarkup_eq])
    (fun cdata rest _ => next_startMarkup (of_isRoot he).1 cdata rest)
    (hruns.does_processToken (by decide)), hstage, rfl⟩

/-- Without a doctype the page is an old one. -/
theorem reads_firstStart (h : Stage old .initial b []) (he : isRoot e = true) :
    ∃ b', Reads anything (startMarkup e) b b' ∧
      Stage true .beforeHead b' [(b.page.size, written e)] ∧
      b'.page = b.page.addChild Page.root (.element (written e)) := by
  have hbegin : Stage true .beforeHtml { b with oldPage := true, mode := .beforeHtml } [] :=
    { h with mode_eq := rfl, oldPage_eq := rfl }
  obtain ⟨hruns, hstage⟩ := hbegin.runs_root he
  have hstep : Does (Build.step (.startTag (tagOf e))) b true
      { b with oldPage := true, mode := .beforeHtml } := h.does_step rfl
  exact ⟨_, h.reads (by simp [startMarkup_eq])
    (fun cdata rest _ => next_startMarkup (of_isRoot he).1 cdata rest)
    ((Build.Runs.again hstep hruns).does_processToken (by decide)), hstage, rfl⟩

/-! Head and body -/

def frameNames : List String :=
  ["html", "head", "body", "frameset"]

theorem untraced_of_name (h : e.name ∈ frameNames) :
    isMarker e = false ∧ isFormatting e = false ∧ isNamed "form" e = false := by
  simp only [frameNames, List.mem_cons, List.not_mem_nil, or_false] at h
  rcases h with h | h | h | h <;> simp [isMarker, isFormatting, isNamed, Build.formattingNames, h]

theorem formattingOf_frame (hos : ∀ o ∈ os, o.2.name ∈ frameNames) :
    formattingOf os = [] ∧ formOf os = none := by
  induction os with
  | nil => exact ⟨rfl, rfl⟩
  | cons o os ih =>
    rw [List.forall_mem_cons] at hos
    obtain ⟨hmarker, hformatting, hform⟩ := untraced_of_name hos.1
    obtain ⟨hnone, hnone'⟩ := ih hos.2
    simp [formattingOf, formOf, hmarker, hformatting, hform, hnone, hnone']

theorem toAt (h : Stage old mode b os) (hos : ∀ o ∈ os, o.2.name ∈ frameNames)
    (hmode : mode = modeAt (placeOf os)) : At old b os where
  linked := h.linked
  stack_eq := h.stack_eq
  element := h.element
  nodup := h.nodup
  formatting_eq := h.formatting_eq.trans (formattingOf_frame hos).1.symm
  form_eq := h.form_eq.trans (formattingOf_frame hos).2.symm
  mode_eq := h.mode_eq.trans hmode
  model_eq := h.model_eq
  fostering_eq := h.fostering_eq
  oldPage_eq := h.oldPage_eq

theorem ofAt (h : At old b os) (hos : ∀ o ∈ os, o.2.name ∈ frameNames)
    (hhtml : ∀ o ∈ os, o.2.dialect = .html) : Stage old b.mode b os where
  linked := h.linked
  stack_eq := h.stack_eq
  element := h.element
  html := hhtml
  nodup := h.nodup
  formatting_eq := h.formatting_eq.trans (formattingOf_frame hos).1
  form_eq := h.form_eq.trans (formattingOf_frame hos).2
  mode_eq := rfl
  model_eq := h.model_eq
  fostering_eq := h.fostering_eq
  oldPage_eq := h.oldPage_eq

theorem does_insertElement (h : Stage old mode b ((k, c) :: os)) (t : Tag) :
    Does (Build.insertElement t) b () { b with
      page := b.page.addChild k (.element (opened .html t))
      stack := b.page.size :: b.stack } :=
  (Build.does_insertNode h.fostering_eq (by rw [h.stack_eq]; rfl) _).discard

theorem of_isPart {name : String} (h : isPart name e = true) :
    isReadable e = true ∧ e.name = name ∧ opened .html (tagOf e) = written e ∧
      (tagOf e).name = name ∧ e.dialect = .html := by
  simp only [isPart, Bool.and_eq_true, decide_eq_true_eq] at h
  obtain ⟨⟨hreadable, hname⟩, hkept⟩ := h
  obtain ⟨hopened, htag, hd⟩ := opened_of_isKeptHtml hkept
  exact ⟨hreadable, hname, hopened, htag.trans hname, hd⟩

theorem name_mem_frameNames {name : String} (hroot : root.name = "html") (hname : e.name = name)
    (hmem : name ∈ frameNames) : ∀ o ∈ [(m, written e), (k, root)], o.2.name ∈ frameNames := by
  intro o ho
  rcases List.mem_cons.mp ho with rfl | ho
  · rwa [show (written e).name = e.name from rfl, hname]
  · rw [List.mem_singleton.mp ho, hroot]
    decide

theorem modeAt_root (hroot : root.name = "html") : modeAt [root] = .inBody := by
  simp only [modeAt, hroot]
  exact ite_self _

theorem modeAt_part (hroot : root.name = "html") (hd : e.dialect = .html) :
    modeAt [written e, root] = modeAt [{ name := e.name }] := by
  have hdialect : (written e).dialect = .html := hd
  rw [modeAt, if_pos hdialect, modeAt_root hroot]
  rfl

theorem reads_partStart {name : String} (h : Stage old mode b [(k, root)])
    (hroot : root.name = "html") (he : isPart name e = true) (hmem : name ∈ frameNames)
    (hstep : ∃ b', Does (Build.stepHtml mode (.startTag (tagOf e))) b false b' ∧
      b'.page = b.page.addChild k (.element (opened .html (tagOf e))) ∧
      b'.stack = b.page.size :: b.stack ∧
      At.Agrees { b with stack := b'.stack, mode := modeAt [{ name := name }] } b') :
    ∃ b', Reads anything (startMarkup e) b b' ∧ At old b' [(b.page.size, written e), (k, root)] ∧
      b'.page = b.page.addChild k (.element (written e)) := by
  obtain ⟨hreadable, hname, hopened, -, hd⟩ := of_isPart he
  obtain ⟨b', hdoes, hpage, hstack, hagrees⟩ := hstep
  rw [hopened] at hpage
  have hwritten : (written e).dialect = .html := hd
  have hpush : Stage old (modeAt [{ name := name }]) b' [(b.page.size, written e), (k, root)] :=
    h.push (h.isInner List.mem_cons_self) hwritten hpage hstack hagrees
  refine ⟨b', h.reads (by simp [startMarkup_eq])
    (fun cdata rest _ => next_startMarkup hreadable cdata rest)
    (Build.does_processToken_last (h.does_step hdoes)), ?_, hpage⟩
  refine hpush.toAt (name_mem_frameNames hroot hname hmem) ?_
  rw [placeOf, List.map_cons, List.map_singleton, modeAt_part hroot hd, hname]

theorem reads_headStart (h : Stage old .beforeHead b [(k, root)]) (hroot : root.name = "html")
    (he : isPart "head" e = true) :
    ∃ b', Reads anything (startMarkup e) b b' ∧ At old b' [(b.page.size, written e), (k, root)] ∧
      b'.page = b.page.addChild k (.element (written e)) := by
  have hcase : Build.stepHtml .beforeHead (.startTag (tagOf e)) = do
      Build.openHead (tagOf e)
      return false := by
    simp only [Build.stepHtml, Build.startTagIn, (of_isPart he).2.2.2.1]
  refine h.reads_partStart hroot he (by decide) ?_
  rw [hcase]
  exact ⟨_, Does.bind ((h.does_insertElement (tagOf e)).bind (.modify _ _)) (.pure false _), rfl,
    rfl, ⟨rfl, rfl, rfl, rfl, rfl, rfl, rfl⟩⟩

theorem reads_bodyStart (h : Stage old .afterHead b [(k, root)]) (hroot : root.name = "html")
    (he : isPart "body" e = true) :
    ∃ b', Reads anything (startMarkup e) b b' ∧ At old b' [(b.page.size, written e), (k, root)] ∧
      b'.page = b.page.addChild k (.element (written e)) := by
  have hcase : Build.stepHtml .afterHead (.startTag (tagOf e)) = do
      Build.noFrameset
      Build.insertElement (tagOf e)
      Build.setMode .inBody
      return false := by
    simp only [Build.stepHtml, Build.startTagIn, Build.startAfterHead, (of_isPart he).2.2.2.1]
  have hstage : Stage old .afterHead { b with framesetOk := false } [(k, root)] := { h with }
  refine h.reads_partStart hroot he (by decide) ?_
  rw [hcase]
  exact ⟨_, Does.bind rfl ((hstage.does_insertElement (tagOf e)).bind (.bind rfl (.pure false _))),
    rfl, rfl, ⟨rfl, rfl, rfl, rfl, rfl, rfl, rfl⟩⟩

theorem reads_framesStart (h : Stage old .afterHead b [(k, root)]) (hroot : root.name = "html")
    (he : isPart "frameset" e = true) :
    ∃ b', Reads anything (startMarkup e) b b' ∧ At old b' [(b.page.size, written e), (k, root)] ∧
      b'.page = b.page.addChild k (.element (written e)) := by
  have hcase : Build.stepHtml .afterHead (.startTag (tagOf e)) = do
      Build.insertElement (tagOf e)
      Build.setMode .inFrameset
      return false := by
    simp only [Build.stepHtml, Build.startTagIn, Build.startAfterHead, (of_isPart he).2.2.2.1]
  refine h.reads_partStart hroot he (by decide) ?_
  rw [hcase]
  exact ⟨_, (h.does_insertElement (tagOf e)).bind (.bind rfl (.pure false _)), rfl, rfl,
    ⟨rfl, rfl, rfl, rfl, rfl, rfl, rfl⟩⟩

theorem reads_partEnd {name : String} {p : Page} {mode' : Mode} {os' : Opened}
    (h : Stands old m (written e) [(k, root)] b p) (hroot : root.name = "html")
    (hdialect : root.dialect = .html) (he : isPart name e = true) (hmem : name ∈ frameNames)
    (hstep : ∀ b₁, Stage old (modeAt [{ name := name }]) b₁ [(m, written e), (k, root)] →
      ∃ b', Does (Build.endTagIn (modeAt [{ name := name }]) name) b₁ false b' ∧
        Stage old mode' b' os' ∧ b'.page = b₁.page) :
    ∃ b', Reads anything (endMarkup e) b b' ∧ Stage old mode' b' os' ∧ b'.page = p := by
  obtain ⟨hreadable, hname, -, htag, hd⟩ := of_isPart he
  refine h.exists_reads (t := .endTag ⟨lowerString e.name, [], false⟩) (by simp [endMarkup_eq])
    (fun cdata rest _ => next_endMarkup hreadable cdata rest) rfl fun b₁ hat hpage => ?_
  have hstage := ofAt hat (name_mem_frameNames hroot hname hmem)
    (List.forall_mem_cons.mpr ⟨hd, by simpa using hdialect⟩)
  rw [hat.mode_eq, placeOf, List.map_cons, List.map_singleton, modeAt_part hroot hd, hname] at hstage
  obtain ⟨b', hdoes, hstage', hpage'⟩ := hstep b₁ hstage
  refine ⟨b', hstage.does_step ?_, hstage', hpage'.trans hpage⟩
  rw [show lowerString e.name = name from htag]
  exact hdoes

theorem reads_headEnd {p : Page} (h : Stands old m (written e) [(k, root)] b p)
    (hroot : root.name = "html") (hdialect : root.dialect = .html) (he : isPart "head" e = true) :
    ∃ b', Reads anything (endMarkup e) b b' ∧ Stage old .afterHead b' [(k, root)] ∧
      b'.page = p := by
  refine reads_partEnd h hroot hdialect he (by decide) fun b₁ hstage => ?_
  have hpop : Does Build.pop b₁ () { b₁ with stack := b₁.stack.tail } := rfl
  rw [hstage.stack_eq] at hpop
  exact ⟨_, Does.bind (hpop.bind rfl) (.pure false _), hstage.pop .afterHead, rfl⟩

theorem reads_bodyEnd {p : Page} (h : Stands old m (written e) [(k, root)] b p)
    (hroot : root.name = "html") (hdialect : root.dialect = .html) (he : isPart "body" e = true) :
    ∃ b', Reads anything (endMarkup e) b b' ∧
      Stage old .afterBody b' [(m, written e), (k, root)] ∧ b'.page = p := by
  obtain ⟨-, hname, -, -, hd⟩ := of_isPart he
  refine reads_partEnd h hroot hdialect he (by decide) fun b₁ hstage => ?_
  have hat := hstage.toAt (name_mem_frameNames hroot hname (by decide)) (by
    rw [placeOf, List.map_cons, List.map_singleton, modeAt_part hroot hd, hname])
  have hscope := hat.does_inScope_head hd .standard
  rw [show (written e).name = "body" from hname] at hscope
  have hend : Does (do
      if ← Build.inScope "body" then Build.setMode .afterBody
      return false) b₁ false { b₁ with mode := .afterBody } :=
    hscope.bind (.ite_true rfl (.bind rfl (.pure false _)))
  exact ⟨_, hend, hstage.setMode .afterBody, rfl⟩

theorem does_currentName {o : NodeId × Element} (h : Stage old mode b (o :: os)) :
    Does Build.currentName b o.2.name b := by
  refine Does.bind (.get b) ?_
  rw [h.stack_eq, ← nameOf_eq (h.element o List.mem_cons_self)]
  exact .pure _ b

theorem reads_framesEnd {p : Page} (h : Stands old m (written e) [(k, root)] b p)
    (hroot : root.name = "html") (hdialect : root.dialect = .html)
    (he : isPart "frameset" e = true) :
    ∃ b', Reads anything (endMarkup e) b b' ∧ Stage old .afterFrameset b' [(k, root)] ∧
      b'.page = p := by
  have hname : (written e).name = "frameset" := (of_isPart he).2.1
  refine reads_partEnd h hroot hdialect he (by decide) fun b₁ hstage => ?_
  have hpop : Does Build.pop b₁ () { b₁ with stack := b₁.stack.tail } := rfl
  rw [hstage.stack_eq] at hpop
  have hpopped := hstage.pop .inFrameset
  have hmode : { b₁ with stack := nodesOf [(k, root)], mode := .inFrameset } =
      { b₁ with stack := nodesOf [(k, root)] } := by
    rw [← show b₁.mode = .inFrameset from hstage.mode_eq]
  rw [hmode] at hpopped
  have hinside : ((written e).name != "html") = true := by
    rw [hname]
    decide
  have houtside : (root.name != "frameset") = true := by
    rw [hroot]
    decide
  have hend : Does (do
      if (← Build.currentName) != "html" then Build.pop
      if (← Build.currentName) != "frameset" then Build.setMode .afterFrameset
      return false) b₁ false
      { b₁ with stack := nodesOf [(k, root)], mode := .afterFrameset } :=
    hstage.does_currentName.bind (.ite_true hinside (hpop.bind
      (hpopped.does_currentName.bind (.ite_true houtside (.bind rfl (.pure false _))))))
  exact ⟨_, hend, hstage.pop .afterFrameset, rfl⟩

theorem reads_rootEnd (h : Stage old mode b os) (hmode : mode ∈ [.afterBody, .afterFrameset])
    (he : isRoot e = true) :
    ∃ b' mode', Reads anything (endMarkup e) b b' ∧ Stage old mode' b' os ∧
      mode' ∈ [.afterAfterBody, .afterAfterFrameset] ∧ b'.page = b.page := by
  obtain ⟨hreadable, hname, -⟩ := of_isRoot he
  have htag : lowerString e.name = "html" := by
    rw [hname]
    decide
  have hend : ∀ mode', Does (Build.stepHtml mode (.endTag ⟨lowerString e.name, [], false⟩)) b false
      { b with mode := mode' } → Reads anything (endMarkup e) b { b with mode := mode' } :=
    fun mode' hstep => h.reads (by simp [endMarkup_eq])
      (fun cdata rest _ => next_endMarkup hreadable cdata rest)
      (Build.does_processToken_last (h.does_step hstep))
  simp only [List.mem_cons, List.not_mem_nil, or_false] at hmode
  rcases hmode with rfl | rfl
  · exact ⟨_, _, hend .afterAfterBody (by rw [htag]; rfl), h.setMode _, by decide, rfl⟩
  · exact ⟨_, _, hend .afterAfterFrameset (by rw [htag]; rfl), h.setMode _, by decide, rfl⟩

/-! Spaces -/

def spacedModes : List Mode :=
  [.afterHead, .afterFrameset]

theorem does_spaces (h : Stage old mode b [(k, root)]) (hmode : mode ∈ spacedModes)
    (hopen : b.page.IsOpen k) {ts : List Token} (hspells : Tokenizer.Spells ts cs)
    (hspace : ∀ d ∈ cs, isSpace d = true) (done : List Char) :
    Does (Build.processTokens ts) { b with page := b.page.withText k done } ()
      { b with page := b.page.withText k (done ++ cs) } := by
  induction hspells generalizing done with
  | nil => exact (List.append_nil done).symm ▸ .pure () _
  | @spaces run rest ts hne _ _ ih =>
    have hinner := h.isInner List.mem_cons_self
    have hstage : Stage old mode { b with page := b.page.withText k done } [(k, root)] :=
      h.grow (Page.grown_withText h.linked hinner done) ⟨rfl, rfl, rfl, rfl, rfl, rfl, rfl⟩
    have hinsert : Does (Build.insertText run) { b with page := b.page.withText k done } ()
        { b with page := Build.appendText (b.page.withText k done) k (String.ofList run) } :=
      (Build.does_insertionPlace hstage.fostering_eq (by rw [hstage.stack_eq]; rfl)).bind rfl
    rw [Page.appendText_withText (h.lt_size List.mem_cons_self) hopen done hne] at hinsert
    have hcase : Build.stepHtml mode (.spaces run) = do Build.insertText run; return false := by
      simp only [spacedModes, List.mem_cons, List.not_mem_nil, or_false] at hmode
      rcases hmode with rfl | rfl <;> rfl
    have hstep := hstage.does_step (t := .spaces run) (hcase ▸ hinsert.bind (.pure false _))
    have hrest := ih (fun d hd => hspace d (List.mem_append_right _ hd)) (done ++ run)
    rw [← List.append_assoc]
    exact (Build.does_processToken_last hstep).bind hrest
  | characters hd => exact absurd (hspace _ (by simp)) (Bool.eq_false_iff.mp hd)

theorem reads_spaces (h : Stage old mode b [(k, root)]) (hmode : mode ∈ spacedModes)
    (hopen : b.page.IsOpen k) {s : String} (hne : s ≠ "") (hclean : Tokenizer.isClean s = true)
    (hspace : s.toList.all isSpace = true) :
    ∃ b', Reads IsCut (s.toList.flatMap Tree.escapeChar) b b' ∧
      Stage old mode b' [(k, root)] ∧ b'.page = b.page.addChild k (.text s) := by
  have hlist : s.toList ≠ [] := by simpa using hne
  have hwritten := Tokenizer.isWrittenAs_escaped (Tokenizer.not_mem_of_isClean hclean).2
  have hdoes := h.does_spaces hmode hopen hwritten.spells (List.all_eq_true.mp hspace) []
  rw [List.nil_append, Page.withText_of_ne hlist, String.ofList_toList] at hdoes
  have hgrown : Page.Grown b.page (b.page.addChild k (.text s)) k :=
    Page.grown_addChild h.linked (h.isInner List.mem_cons_self) fun h => Content.noConfusion h
  exact ⟨_, Build.reads_run h.model_eq hwritten.lt_not_mem hdoes,
    h.grow hgrown ⟨rfl, rfl, rfl, rfl, rfl, rfl, rfl⟩, rfl⟩

/-! What is shown without frames -/

theorem opensText_noframes (h : Stage old .afterFrameset b [(k, root)])
    (he : isPart "noframes" e = true) :
    OpensText b k (written e) (.raw e.name)
      (Build.stepHtml .afterFrameset (.startTag (tagOf e))) false := by
  obtain ⟨-, hname, hopened, htag, -⟩ := of_isPart he
  have hinsert := h.does_insertElement (tagOf e)
  rw [hopened] at hinsert
  have hcase : Build.stepHtml .afterFrameset (.startTag (tagOf e)) = do
      discard <| Build.startInHead (tagOf e)
      return false := by
    simp only [Build.stepHtml, Build.startTagIn, htag]
  have hhead : Build.startInHead (tagOf e) = do
      Build.openText (tagOf e) (.raw e.name)
      return false := by
    simp only [Build.startInHead, htag, hname]
  have hopen : Does (Build.openText (tagOf e) (.raw e.name)) b () { b with
      page := b.page.addChild k (.element (written e))
      stack := b.page.size :: b.stack
      model := .raw e.name
      textReturn := b.mode
      mode := .text } := hinsert.bind rfl
  have hdoes : Does (Build.startInHead (tagOf e)) b false _ := hhead ▸ hopen.bind (.pure false _)
  rw [hcase]
  exact ⟨_, hdoes.discard.bind (.pure false _), ⟨rfl, rfl, rfl, rfl, rfl, rfl, rfl⟩, rfl, rfl⟩

theorem reads_noframes (h : Stage old .afterFrameset b [(k, root)])
    (he : isPart "noframes" e = true) {text : String}
    (htext : isTextContent (.raw e.name) e text = true) :
    ∃ b', Reads anything (startMarkup e ++ (textMarkup e text ++ endMarkup e)) b b' ∧
      Stage old .afterFrameset b' [(k, root)] ∧
      b'.page = (b.page.addChild k (.element (written e))).withText b.page.size text.toList := by
  obtain ⟨hreadable, hname, -, -, hd⟩ := of_isPart he
  have hm : textModel? e = some (.raw e.name) := by
    rw [textModel?_eq hd, hname]
    rfl
  have hinner := h.isInner List.mem_cons_self
  obtain ⟨b₁, hdoes, hagrees, hpage, hreturn⟩ := h.opensText_noframes he
  have hstart : Reads anything (startMarkup e) b b₁ :=
    h.reads (by simp [startMarkup_eq])
      (fun cdata rest _ => next_startMarkup hreadable cdata rest)
      (Build.does_processToken_last (h.does_step hdoes))
  have hround := reads_textContent hm htext hagrees.model_eq hagrees.mode_eq hagrees.stack_eq
    (hagrees.fostering_eq.trans h.fostering_eq)
    (by rw [hpage, Page.size_addChild]; exact Nat.lt_succ_self _)
    (by rw [hpage]; exact isOpen_new h.linked hinner (written e))
    (by rw [hpage, Page.element?, Page.content?_addChild_self])
  rw [hpage] at hround
  have hgrown : Page.Grown b.page (b.page.addChild k (.element (written e))) k :=
    Page.grown_addChild h.linked hinner fun h => Content.noConfusion h
  have hfilled := Page.grown_withText hgrown.linked (Page.isInner_addChild (written e)) text.toList
  refine ⟨_, hstart.append hround fun _ _ => trivial, ?_, rfl⟩
  exact h.grow (hgrown.trans_new (Nat.le_refl _) hfilled) ⟨rfl, hagrees.formatting_eq,
    hagrees.form_eq, hreturn, h.model_eq.symm, hagrees.fostering_eq, hagrees.oldPage_eq⟩

/-! The doctype -/

theorem reads_lineEnd (h : Stage old .beforeHtml b []) : Reads IsCut ['\n'] b b := by
  have htokens : Tokenizer.textTokens id ['\n'] = [.spaces ['\n']] := by
    rw [Tokenizer.textTokens_spaces id (by decide)]
    simp [Tokenizer.textTokens]
  have hstep : Does (Build.step (.spaces ['\n'])) b false b := h.does_step rfl
  refine h.reads (by decide) (fun cdata rest hrest => ?_) (Build.does_processToken_last hstep)
  have hnext := Tokenizer.next_text (List.cons_ne_nil '\n' []) (by decide) cdata hrest
  rwa [htokens] at hnext

theorem reads_doctype (h : Stage old .initial b []) {s : String}
    (hs : Tokenizer.isDeclaration s = true) :
    ∃ b', Reads IsCut (Tree.render false (.doctype s)).toList b b' ∧
      Stage (Tokenizer.readDoctype s).isOld .beforeHtml b' [] ∧
      b'.page = b.page.addChild Page.root (.doctype s) := by
  have hdeclared : (Tokenizer.readDoctype s).declared = s := by
    simp only [Tokenizer.isDeclaration, Bool.and_eq_true, decide_eq_true_eq] at hs
    exact hs.2
  have hdoes : Does (Build.stepHtml .initial (.doctype (Tokenizer.readDoctype s))) b false { b with
      page := b.page.addChild Page.root (.doctype s)
      oldPage := (Tokenizer.readDoctype s).isOld
      mode := .beforeHtml } := by
    have hadd : b.page.addChild Page.root (.doctype s) =
        b.page.addChild Page.root (.doctype (Tokenizer.readDoctype s).declared) := by
      rw [hdeclared]
    rw [hadd]
    rfl
  have hstage : Stage (Tokenizer.readDoctype s).isOld .beforeHtml { b with
      page := b.page.addChild Page.root (.doctype s)
      oldPage := (Tokenizer.readDoctype s).isOld
      mode := .beforeHtml } [] :=
    { h with
      linked := Page.linked_addChild h.linked (.inl rfl) fun h => Content.noConfusion h
      element := fun o ho => absurd ho List.not_mem_nil
      mode_eq := rfl
      oldPage_eq := rfl }
  have hread : Reads anything
      ('<' :: '!' :: ("DOCTYPE".toList ++ ' ' :: (s.toList ++ ['>']))) b _ :=
    h.reads (List.cons_ne_nil _ _) (fun cdata rest _ => by
      have hnext := Tokenizer.next_doctype hs cdata rest
      simpa using hnext) (Build.does_processToken_last (h.does_step hdoes))
  have hmarkup : (Tree.render false (.doctype s)).toList =
      '<' :: '!' :: ("DOCTYPE".toList ++ ' ' :: (s.toList ++ ['>'])) ++ ['\n'] := by
    simp [Tree.render]
  rw [hmarkup]
  exact ⟨_, hread.append hstage.reads_lineEnd fun _ _ => trivial, hstage, rfl⟩

end Stage

end ContentBinding.Markup.Nesting
