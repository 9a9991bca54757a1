import ContentBinding.Proofs.Markup.Stages

/-! Reading a whole page again. A page whose parts fit is read from its own markup as the same page,
with the attributes of each element in the order in which they are written; so it is written as the
same markup once more. -/

namespace ContentBinding.Markup

namespace Nesting

open Build (Does Reads)
open Tokenizer (IsCut)

variable {old : Bool} {mode : Mode} {b b' : Builder} {os : Opened} {k m : NodeId}
  {e root : Element} {ts rest children : List Tree}

/-! Head and body -/

def pageParts : List String :=
  ["head", "body", "frameset"]

theorem reads_part {name : String} {mode' : Mode} {os' : Opened} (hroot : root.name = "html")
    (hdialect : root.dialect = .html) (he : isPart name e = true) (hmem : name ∈ pageParts)
    (hseparate : areSeparate children = true)
    (hfits : fitsAll old false [written e, root] children = true)
    (h : Stage old mode b [(k, root)])
    (hstart : ∃ b₁, Reads anything (startMarkup e) b b₁ ∧
      At old b₁ [(b.page.size, written e), (k, root)] ∧
      b₁.page = b.page.addChild k (.element (written e)))
    (hend : ∀ {b₂ : Builder} {p : Page}, Stands old b.page.size (written e) [(k, root)] b₂ p →
      ∃ b₃, Reads anything (endMarkup e) b₂ b₃ ∧ Stage old mode' b₃ os' ∧ b₃.page = p) :
    ∃ b', Reads anything (Tree.render false (.element e children)).toList b b' ∧
      Stage old mode' b' os' ∧ b'.page = b.page.graft k (writtenTree (.element e children)) := by
  obtain ⟨-, hname, -, -, hd⟩ := Stage.of_isPart he
  have hnames : ∀ name ∈ pageParts, Tree.voidNames.contains name = false ∧
      Tree.isRawName name = false ∧ ["pre", "listing", "textarea"].contains name = false := by
    decide
  obtain ⟨hvoid, hraw, hkeeps⟩ := hnames _ hmem
  rw [← hname] at hvoid hraw hkeeps
  have hinner := h.isInner List.mem_cons_self
  have hregular : isRegular [written e, root] = true := by
    have hwritten : (written e).dialect = .html := hd
    simp [isRegular, isNamed, hroot, hdialect, Stage.modeAt_root hroot, hwritten]
  obtain ⟨b₁, hopen, hat, hpage⟩ := hstart
  have hstands : Stands old b.page.size (written e) [(k, root)] b₁
      (b.page.addChild k (.element (written e))) := hpage ▸ .settled hat
  have hawaits : Awaits old b.page.size (written e) [(k, root)] b₁
      (b.page.addChild k (.element (written e))) children :=
    fun s rest _ => ⟨hat, hpage, isOpen_new h.linked hinner _, fun hdrops =>
      absurd (hkeeps.symm.trans hdrops.2.1) Bool.false_ne_true⟩
  obtain ⟨b₂, hread, hstands'⟩ := reads_all children hseparate hawaits hstands hregular hfits
  obtain ⟨b₃, hclose, hstage, hpage'⟩ := hend hstands'
  refine ⟨b₃, ?_, hstage, hpage'⟩
  rw [toList_render_element false (by rw [hvoid, Bool.false_and]), hraw]
  refine hopen.append (hread.append hclose fun rest _ => ?_) fun _ _ => trivial
  rw [endMarkup_eq]
  exact .inr rfl

def ReadsTo (P : List Char → Prop) (old : Bool) (modes : List Mode) (b : Builder) (k : NodeId)
    (ts : List Tree) : Prop :=
  ∃ b' mode os, Reads P (Tree.renderAll false ts).toList b b' ∧ Stage old mode b' os ∧
    mode ∈ modes ∧ b'.page = b.page.graftAll k (writtenTrees ts)

namespace ReadsTo

variable {P Q : List Char → Prop} {modes : List Mode} {b₁ : Builder} {t : Tree} {s : String}

theorem cons (hread : Reads Q (Tree.render false t).toList b b₁)
    (hpage : b₁.page = b.page.graft k (writtenTree t)) (hrest : ReadsTo P old modes b₁ k rest)
    (hP : ∀ more, P more → Q ((Tree.renderAll false rest).toList ++ more)) :
    ReadsTo P old modes b k (t :: rest) := by
  obtain ⟨b', mode, os, hread', hstage, hmode, hpage'⟩ := hrest
  refine ⟨b', mode, os, ?_, hstage, hmode, ?_⟩
  · rw [toList_renderAll]
    exact hread.append hread' hP
  · rw [hpage', hpage]
    rfl

theorem comment (hread : Reads anything (commentMarkup s) b b₁)
    (hpage : b₁.page = b.page.addChild k (.comment s)) (hrest : ReadsTo P old modes b₁ k rest) :
    ReadsTo P old modes b k (.comment s :: rest) :=
  .cons ((toList_render_comment false s).symm ▸ hread) hpage hrest fun _ _ => trivial

-- After a text nothing that follows is a text, so that the place need not be open for one.
theorem spaces (h : Stage old mode b [(k, root)]) (hmode : mode ∈ Stage.spacedModes)
    (hopen : b.page.IsOpen k) (hseparate : areSeparate (.text s :: rest) = true)
    (hs : ((s ≠ "" ∧ Tokenizer.isClean s = true) ∧ s.toList.all isSpace = true))
    (hrest : ∀ b₁, Stage old mode b₁ [(k, root)] →
      (∀ s' rest', rest = .text s' :: rest' → b₁.page.IsOpen k) → ReadsTo IsCut old modes b₁ k rest) :
    ReadsTo IsCut old modes b k (.text s :: rest) := by
  have hnot : ∀ s' rest', rest ≠ .text s' :: rest' := by
    rintro s' rest' rfl
    exact Bool.false_ne_true hseparate
  obtain ⟨b₁, hread, hstage, hpage⟩ := h.reads_spaces hmode hopen hs.1.1 hs.1.2 hs.2
  rw [← toList_render_text] at hread
  exact .cons hread hpage (hrest b₁ hstage fun s' rest' heq => absurd heq (hnot s' rest'))
    fun more hmore => isCut_append hnot false hmore

end ReadsTo

theorem reads_behindFrames (h : Stage old .afterFrameset b [(k, root)])
    (hseparate : areSeparate ts = true)
    (hopen : ∀ s rest, ts = .text s :: rest → b.page.IsOpen k)
    (hfits : fitsBehindFrames ts = true) :
    ReadsTo IsCut old [.afterBody, .afterFrameset] b k ts := by
  induction ts generalizing b with
  | nil => exact ⟨b, _, _, .nil IsCut b, h, by decide, rfl⟩
  | cons t rest ih =>
    have hinner := h.isInner List.mem_cons_self
    have hseparate' := areSeparate_of_cons hseparate
    cases t with
    | doctype s => exact absurd hfits Bool.false_ne_true
    | comment s =>
      rw [fitsBehindFrames, Bool.and_eq_true] at hfits
      obtain ⟨b₁, hread, hstage, hpage⟩ := h.reads_comment (by decide) hfits.1
      exact .comment hread hpage (ih hstage hseparate'
        (fun _ _ _ => hpage ▸ isOpen_graft (t := .comment s) h.linked hinner nofun) hfits.2)
    | text s =>
      simp only [fitsBehindFrames, Bool.and_eq_true, bne_iff_ne] at hfits
      exact .spaces h (by decide) (hopen s rest rfl) hseparate hfits.1
        fun b₁ hstage hopen' => ih hstage hseparate' hopen' hfits.2
    | element e children =>
      simp only [fitsBehindFrames, Bool.and_eq_true] at hfits
      obtain ⟨⟨he, hcontent⟩, hrest⟩ := hfits
      obtain ⟨text, htext, hcontent⟩ := exists_of_any hcontent
      obtain ⟨-, hname, -, -, hd⟩ := Stage.of_isPart he
      have hm : textModel? e = some (.raw e.name) := by
        rw [textModel?_eq hd, hname]
        rfl
      obtain ⟨b₁, hread, hstage, hpage⟩ := h.reads_noframes he hcontent
      rw [← graftAll_of_textOf? htext] at hpage
      rw [← toList_render_textElement false hm htext] at hread
      exact .cons hread hpage (ih hstage hseparate' (fun _ _ _ => hpage ▸ isOpen_graft
        (t := .element e children) h.linked hinner nofun) hrest) fun _ _ => trivial

theorem reads_body (hroot : root.name = "html") (hdialect : root.dialect = .html)
    (h : Stage old .afterHead b [(k, root)]) (hseparate : areSeparate ts = true)
    (hopen : ∀ s rest, ts = .text s :: rest → b.page.IsOpen k)
    (hfits : fitsBody old root ts = true) :
    ReadsTo IsCut old [.afterBody, .afterFrameset] b k ts := by
  induction ts generalizing b with
  | nil => exact absurd hfits Bool.false_ne_true
  | cons t rest ih =>
    have hinner := h.isInner List.mem_cons_self
    have hseparate' := areSeparate_of_cons hseparate
    cases t with
    | doctype s => exact absurd hfits Bool.false_ne_true
    | comment s =>
      rw [fitsBody, Bool.and_eq_true] at hfits
      obtain ⟨b₁, hread, hstage, hpage⟩ := h.reads_comment (by decide) hfits.1
      exact .comment hread hpage (ih hstage hseparate'
        (fun _ _ _ => hpage ▸ isOpen_graft (t := .comment s) h.linked hinner nofun) hfits.2)
    | text s =>
      simp only [fitsBody, Bool.and_eq_true, bne_iff_ne] at hfits
      exact .spaces h (by decide) (hopen s rest rfl) hseparate hfits.1
        fun b₁ hstage hopen' => ih hstage hseparate' hopen' hfits.2
    | element e children =>
      simp only [fitsBody, Bool.and_eq_true, Bool.or_eq_true] at hfits
      obtain ⟨⟨hchildren, hall⟩, ⟨he, hrest⟩ | ⟨he, hrest⟩⟩ := hfits
      · obtain ⟨b₁, hread, hstage, hpage⟩ := reads_part hroot hdialect he (by decide) hchildren
          hall h (h.reads_bodyStart hroot he)
          fun hstands => Stage.reads_bodyEnd hstands hroot hdialect he
        obtain ⟨b', hread', hstage', hpage'⟩ := Stage.reads_notes (by decide) hstage hrest
        exact .cons hread hpage ⟨b', _, _, hread'.mono fun _ _ => trivial, hstage', by decide,
          hpage'⟩ fun _ _ => trivial
      · obtain ⟨b₁, hread, hstage, hpage⟩ := reads_part hroot hdialect he (by decide) hchildren
          hall h (h.reads_framesStart hroot he)
          fun hstands => Stage.reads_framesEnd hstands hroot hdialect he
        exact .cons hread hpage (reads_behindFrames hstage hseparate' (fun _ _ _ => hpage ▸
          isOpen_graft (t := .element e children) h.linked hinner nofun) hrest) fun _ _ => trivial

theorem reads_head (hroot : root.name = "html") (hdialect : root.dialect = .html)
    (h : Stage old .beforeHead b [(k, root)]) (hfits : fitsHead old root ts = true) :
    ReadsTo IsCut old [.afterBody, .afterFrameset] b k ts := by
  induction ts generalizing b with
  | nil => exact absurd hfits Bool.false_ne_true
  | cons t rest ih =>
    cases t with
    | comment s =>
      rw [fitsHead, Bool.and_eq_true] at hfits
      obtain ⟨b₁, hread, hstage, hpage⟩ := h.reads_comment (by decide) hfits.1
      exact .comment hread hpage (ih hstage hfits.2)
    | element e children =>
      simp only [fitsHead, Bool.and_eq_true] at hfits
      obtain ⟨⟨⟨⟨he, hchildren⟩, hall⟩, hseparate⟩, hbody⟩ := hfits
      obtain ⟨b₁, hread, hstage, hpage⟩ := reads_part hroot hdialect he (by decide) hchildren hall h
        (h.reads_headStart hroot he) fun hstands => Stage.reads_headEnd hstands hroot hdialect he
      have hopen : b₁.page.IsOpen k := hpage ▸ isOpen_graft (t := .element e children) h.linked
        (h.isInner List.mem_cons_self) nofun
      exact .cons hread hpage (reads_body hroot hdialect hstage hseparate (fun _ _ _ => hopen) hbody)
        fun _ _ => trivial
    | _ => exact absurd hfits Bool.false_ne_true

/-! The whole page -/

def lastModes : List Mode :=
  [.afterAfterBody, .afterAfterFrameset]

theorem reads_root (he : isRoot e = true)
    (hstart : ∃ b₁, Reads anything (startMarkup e) b b₁ ∧
      Stage old .beforeHead b₁ [(b.page.size, written e)] ∧
      b₁.page = b.page.addChild Page.root (.element (written e)))
    (hfits : fitsHead old (written e) children = true) (hnotes : rest.all isNote = true) :
    ReadsTo anything old lastModes b Page.root (.element e children :: rest) := by
  obtain ⟨-, hname, -, hdialect⟩ := Stage.of_isRoot he
  obtain ⟨b₁, hopen, hstage, hpage⟩ := hstart
  have hroot : (written e).name = "html" := hname
  obtain ⟨b₂, mode, os, hread, hstage₂, hmode, hpage₂⟩ := reads_head hroot hdialect hstage hfits
  obtain ⟨b₃, mode', hclose, hstage₃, hmode', hpage₃⟩ := hstage₂.reads_rootEnd hmode he
  have hlast : mode' ∈ Stage.stageModes ∧ Stage.noteParent mode' os = Page.root := by
    simp only [List.mem_cons, List.not_mem_nil, or_false] at hmode'
    rcases hmode' with rfl | rfl <;> exact ⟨by decide, rfl⟩
  obtain ⟨b₄, hread₄, hstage₄, hpage₄⟩ := Stage.reads_notes hlast.1 hstage₃ hnotes
  rw [hlast.2] at hpage₄
  have helement : Reads anything (Tree.render false (.element e children)).toList b b₃ := by
    rw [toList_render_element false (by rw [hname]; rfl), hname]
    refine hopen.append (hread.append hclose fun more _ => ?_) fun _ _ => trivial
    rw [endMarkup_eq]
    exact .inr rfl
  have hgrafted : b₃.page = b.page.graft Page.root (writtenTree (.element e children)) := by
    rw [hpage₃, hpage₂, hpage]
    rfl
  exact .cons helement hgrafted ⟨b₄, mode', os, hread₄, hstage₄, hmode', hpage₄⟩ fun _ _ => trivial

theorem reads_behindDoctype (h : Stage old .beforeHtml b []) (hfits : fitsRoot old ts = true) :
    ReadsTo anything old lastModes b Page.root ts := by
  induction ts generalizing b with
  | nil => exact absurd hfits Bool.false_ne_true
  | cons t rest ih =>
    cases t with
    | comment s =>
      rw [fitsRoot, Bool.and_eq_true] at hfits
      obtain ⟨b₁, hread, hstage, hpage⟩ := h.reads_comment (by decide) hfits.1
      exact .comment hread hpage (ih hstage hfits.2)
    | element e children =>
      simp only [fitsRoot, Bool.and_eq_true] at hfits
      exact reads_root hfits.1.1 (h.reads_rootStart hfits.1.1) hfits.1.2 hfits.2
    | _ => exact absurd hfits Bool.false_ne_true

-- A doctype tells whether the page is an old one; without a doctype it is.
theorem reads_page (h : Stage old .initial b []) (hfits : fitsPage ts = true) :
    ∃ old', ReadsTo anything old' lastModes b Page.root ts := by
  induction ts generalizing b with
  | nil => exact absurd hfits Bool.false_ne_true
  | cons t rest ih =>
    cases t with
    | comment s =>
      rw [fitsPage, Bool.and_eq_true] at hfits
      obtain ⟨b₁, hread, hstage, hpage⟩ := h.reads_comment (by decide) hfits.1
      obtain ⟨old', hrest⟩ := ih hstage hfits.2
      exact ⟨old', .comment hread hpage hrest⟩
    | doctype s =>
      rw [fitsPage, Bool.and_eq_true] at hfits
      obtain ⟨b₁, hread, hstage, hpage⟩ := h.reads_doctype hfits.1
      refine ⟨_, .cons hread hpage (reads_behindDoctype hstage hfits.2) fun more _ => ?_⟩
      refine isCut_renderAll ?_ ?_ false more
      · rintro rfl
        exact Bool.false_ne_true hfits.2
      · rintro text more' rfl
        exact Bool.false_ne_true hfits.2
    | text s => exact absurd hfits Bool.false_ne_true
    | element e children =>
      simp only [fitsPage, fitsRoot, Bool.and_eq_true] at hfits
      exact ⟨true, reads_root hfits.1.1 (h.reads_firstStart hfits.1.1) hfits.1.2 hfits.2⟩

/-! Line ends -/

theorem cr_not_mem_escape {cs : List Char} (h : '\r' ∉ cs) : '\r' ∉ cs.flatMap Tree.escapeChar := by
  rw [List.mem_flatMap]
  rintro ⟨c, hc, hmem⟩
  rcases isEscaping_escapeChar c with ⟨-, heq⟩ | ⟨hescaped, heq⟩
  · rw [heq, List.mem_singleton] at hmem
    exact h (hmem ▸ hc)
  · have hnone : ∀ c ∈ CharRef.escaped, '\r' ∉ '&' :: CharRef.reference c :=
      List.all_iff_forall_prop.mp (by decide)
    exact hnone c hescaped (heq ▸ hmem)

theorem cr_not_mem_quote {s : String} (h : '\r' ∉ s.toList) : '\r' ∉ (Tree.quote s).toList := by
  have hentity : '\r' ∉ s.toList.flatMap fun c => if c = '"' then "&quot;".toList else [c] := by
    rw [List.mem_flatMap]
    rintro ⟨c, hc, hmem⟩
    split_ifs at hmem
    · exact absurd hmem (by decide)
    · exact h (List.mem_singleton.mp hmem ▸ hc)
  unfold Tree.quote
  dsimp only
  split_ifs
  · rw [← String.toList_ofList (l := s.toList.flatMap _)] at hentity
    rw [String.toList_append, String.toList_append, List.mem_append, List.mem_append, not_or, not_or]
    exact ⟨⟨by decide, hentity⟩, by decide⟩
  all_goals
    rw [String.toList_append, String.toList_append, List.mem_append, List.mem_append, not_or, not_or]
    exact ⟨⟨by decide, h⟩, by decide⟩

theorem cr_not_mem_name {name : List Char} (h : name.all Tokenizer.isNameChar = true) :
    '\r' ∉ name := by
  intro hmem
  have hchar := List.all_eq_true.mp h _ hmem
  exact absurd hchar (by decide)

theorem cr_not_mem_attrs {attrs : List (String × String)}
    (h : ∀ a ∈ attrs, Tokenizer.isWritable a = true) : '\r' ∉ Tokenizer.writtenAttrs attrs := by
  induction attrs with
  | nil => exact List.not_mem_nil
  | cons a attrs ih =>
    rw [List.forall_mem_cons, Tokenizer.isWritable, Tokenizer.isAttrName, Bool.and_eq_true,
      Bool.and_eq_true, Bool.and_eq_true] at h
    obtain ⟨⟨⟨⟨-, hname⟩, -⟩, hclean⟩, hrest⟩ := h
    have hvalue : '\r' ∉ (Tree.escape a.2).toList := by
      rw [Tree.escape, String.toList_ofList]
      exact cr_not_mem_escape (Tokenizer.not_mem_of_isClean hclean).1
    rw [Tokenizer.writtenAttrs_cons]
    simp only [List.cons_append, List.append_assoc, List.mem_cons, List.mem_append, not_or]
    exact ⟨by decide, cr_not_mem_name hname, by decide, cr_not_mem_quote hvalue, ih hrest⟩

theorem cr_not_mem_element (he : isReadable e = true) {raw : Bool}
    (h : '\r' ∉ (Tree.renderAll (Tree.isRawName e.name) children).toList) :
    '\r' ∉ (Tree.render raw (.element e children)).toList := by
  simp only [isReadable, Tokenizer.isTagName, Bool.and_eq_true] at he
  obtain ⟨⟨⟨-, hname⟩, hattrs⟩, -⟩ := he
  have hstart : '\r' ∉ startMarkup e := by
    rw [startMarkup_eq]
    simp only [List.mem_cons, List.mem_append, List.not_mem_nil, not_or]
    exact ⟨by decide, cr_not_mem_name hname, cr_not_mem_attrs (List.all_eq_true.mp hattrs),
      by decide, not_false⟩
  have hend : '\r' ∉ endMarkup e := by
    rw [endMarkup_eq]
    simp only [List.mem_cons, List.mem_append, List.not_mem_nil, not_or]
    exact ⟨by decide, by decide, cr_not_mem_name hname, by decide, not_false⟩
  cases hvoid : Tree.voidNames.contains e.name && children.isEmpty with
  | true =>
    rw [Tree.render, hvoid]
    exact hstart
  | false =>
    rw [toList_render_element raw hvoid, List.mem_append, List.mem_append, not_or, not_or]
    exact ⟨hstart, h, hend⟩

theorem cr_not_mem_cons {raw : Bool} {t : Tree} (ht : '\r' ∉ (Tree.render raw t).toList)
    (hrest : '\r' ∉ (Tree.renderAll raw rest).toList) :
    '\r' ∉ (Tree.renderAll raw (t :: rest)).toList := by
  rw [toList_renderAll, List.mem_append, not_or]
  exact ⟨ht, hrest⟩

theorem cr_not_mem_comment {s : String} (h : Tokenizer.isComment s = true) (raw : Bool) :
    '\r' ∉ (Tree.render raw (.comment s)).toList := by
  rw [Tokenizer.isComment, Bool.and_eq_true] at h
  have hclean := (Tokenizer.not_mem_of_isClean h.1).1
  rw [Tree.render, String.toList_append, String.toList_append, List.mem_append, List.mem_append,
    not_or, not_or]
  exact ⟨⟨by decide, hclean⟩, by decide⟩

theorem cr_not_mem_text {s : String} (h : Tokenizer.isClean s = true) (raw : Bool) :
    '\r' ∉ (Tree.render raw (.text s)).toList := by
  have hclean := (Tokenizer.not_mem_of_isClean h).1
  rw [Tree.render]
  split_ifs
  · exact hclean
  · rw [Tree.escape, String.toList_ofList]
    exact cr_not_mem_escape hclean

theorem cr_not_mem_textOf? {m : ContentModel}
    (h : (textOf? children).any (isTextContent m e) = true) (raw : Bool) :
    '\r' ∉ (Tree.renderAll raw children).toList := by
  obtain ⟨text, htext, hcontent⟩ := exists_of_any h
  rw [isTextContent, Bool.and_eq_true, Bool.and_eq_true] at hcontent
  rcases textOf?_eq htext with ⟨rfl, -⟩ | ⟨rfl, -⟩
  · exact List.not_mem_nil
  · exact cr_not_mem_cons (cr_not_mem_text hcontent.1.1 _) List.not_mem_nil

mutual

theorem cr_not_mem_render : (t : Tree) → ∀ {old raw : Bool} {place : Place},
    fits old raw place t = true → '\r' ∉ (Tree.render raw t).toList
  | .doctype s, _, _, _, h => by
    rw [fits] at h
    cases h
  | .comment s, _, raw, _, h => by
    rw [fits] at h
    exact cr_not_mem_comment h raw
  | .text s, _, raw, _, h => by
    simp only [fits, Bool.and_eq_true] at h
    exact cr_not_mem_text h.1.1.2 raw
  | .element e children, old, raw, place, h => by
    rw [fits, Bool.and_eq_true, Bool.and_eq_true, Bool.and_eq_true] at h
    obtain ⟨⟨⟨hreadable, -⟩, -⟩, hcontent⟩ := h
    refine cr_not_mem_element hreadable ?_
    cases hm : textModel? e with
    | some m =>
      rw [hm] at hcontent
      exact cr_not_mem_textOf? hcontent _
    | none =>
      rw [hm] at hcontent
      dsimp only at hcontent
      split_ifs at hcontent
      · rw [List.isEmpty_iff.mp hcontent]
        exact List.not_mem_nil
      · rw [Bool.and_eq_true] at hcontent
        exact cr_not_mem_renderAll children hcontent.2

theorem cr_not_mem_renderAll : (ts : List Tree) → ∀ {old raw : Bool} {place : Place},
    fitsAll old raw place ts = true → '\r' ∉ (Tree.renderAll raw ts).toList
  | [], _, _, _, _ => List.not_mem_nil
  | t :: rest, _, _, _, h => by
    rw [fitsAll, Bool.and_eq_true] at h
    exact cr_not_mem_cons (cr_not_mem_render t h.1) (cr_not_mem_renderAll rest h.2)

end

theorem cr_not_mem_notes (h : ts.all isNote = true) (raw : Bool) :
    '\r' ∉ (Tree.renderAll raw ts).toList := by
  induction ts with
  | nil => exact List.not_mem_nil
  | cons t rest ih =>
    rw [List.all_cons, Bool.and_eq_true] at h
    refine cr_not_mem_cons ?_ (ih h.2)
    cases t with
    | comment s => exact cr_not_mem_comment h.1 raw
    | _ => exact absurd h.1 Bool.false_ne_true

theorem cr_not_mem_part {name : String} (he : isPart name e = true)
    (hmem : name ∈ pageParts) (h : fitsAll old false [written e, root] children = true) :
    '\r' ∉ (Tree.render false (.element e children)).toList := by
  obtain ⟨hreadable, hname, -⟩ := Stage.of_isPart he
  have hnames : ∀ name ∈ pageParts, Tree.isRawName name = false := by decide
  refine cr_not_mem_element hreadable ?_
  rw [hname, hnames name hmem]
  exact cr_not_mem_renderAll children h

theorem cr_not_mem_behindFrames (h : fitsBehindFrames ts = true) :
    '\r' ∉ (Tree.renderAll false ts).toList := by
  induction ts with
  | nil => exact List.not_mem_nil
  | cons t rest ih =>
    cases t with
    | doctype s => exact absurd h Bool.false_ne_true
    | comment s =>
      rw [fitsBehindFrames, Bool.and_eq_true] at h
      exact cr_not_mem_cons (cr_not_mem_comment h.1 false) (ih h.2)
    | text s =>
      simp only [fitsBehindFrames, Bool.and_eq_true] at h
      exact cr_not_mem_cons (cr_not_mem_text h.1.1.2 false) (ih h.2)
    | element e children =>
      rw [fitsBehindFrames, Bool.and_eq_true, Bool.and_eq_true] at h
      obtain ⟨⟨he, hcontent⟩, hrest⟩ := h
      exact cr_not_mem_cons (cr_not_mem_element (Stage.of_isPart he).1
        (cr_not_mem_textOf? hcontent _)) (ih hrest)

theorem cr_not_mem_body (h : fitsBody old root ts = true) :
    '\r' ∉ (Tree.renderAll false ts).toList := by
  induction ts with
  | nil => exact List.not_mem_nil
  | cons t rest ih =>
    cases t with
    | doctype s => exact absurd h Bool.false_ne_true
    | comment s =>
      rw [fitsBody, Bool.and_eq_true] at h
      exact cr_not_mem_cons (cr_not_mem_comment h.1 false) (ih h.2)
    | text s =>
      simp only [fitsBody, Bool.and_eq_true] at h
      exact cr_not_mem_cons (cr_not_mem_text h.1.1.2 false) (ih h.2)
    | element e children =>
      simp only [fitsBody, Bool.and_eq_true, Bool.or_eq_true] at h
      obtain ⟨⟨-, hall⟩, ⟨he, hrest⟩ | ⟨he, hrest⟩⟩ := h
      · exact cr_not_mem_cons (cr_not_mem_part he (by decide) hall) (cr_not_mem_notes hrest false)
      · exact cr_not_mem_cons (cr_not_mem_part he (by decide) hall) (cr_not_mem_behindFrames hrest)

theorem cr_not_mem_head (h : fitsHead old root ts = true) :
    '\r' ∉ (Tree.renderAll false ts).toList := by
  induction ts with
  | nil => exact List.not_mem_nil
  | cons t rest ih =>
    cases t with
    | comment s =>
      rw [fitsHead, Bool.and_eq_true] at h
      exact cr_not_mem_cons (cr_not_mem_comment h.1 false) (ih h.2)
    | element e children =>
      simp only [fitsHead, Bool.and_eq_true] at h
      exact cr_not_mem_cons (cr_not_mem_part h.1.1.1.1 (by decide) h.1.1.2) (cr_not_mem_body h.2)
    | _ => exact absurd h Bool.false_ne_true

theorem cr_not_mem_root (h : fitsRoot old ts = true) :
    '\r' ∉ (Tree.renderAll false ts).toList := by
  induction ts with
  | nil => exact List.not_mem_nil
  | cons t rest ih =>
    cases t with
    | comment s =>
      rw [fitsRoot, Bool.and_eq_true] at h
      exact cr_not_mem_cons (cr_not_mem_comment h.1 false) (ih h.2)
    | element e children =>
      simp only [fitsRoot, Bool.and_eq_true] at h
      obtain ⟨hreadable, hname, -⟩ := Stage.of_isRoot h.1.1
      refine cr_not_mem_cons (cr_not_mem_element hreadable ?_) (cr_not_mem_notes h.2 false)
      rw [hname]
      exact cr_not_mem_head h.1.2
    | _ => exact absurd h Bool.false_ne_true

theorem cr_not_mem_page (h : fitsPage ts = true) : '\r' ∉ (Tree.renderAll false ts).toList := by
  induction ts with
  | nil => exact List.not_mem_nil
  | cons t rest ih =>
    cases t with
    | comment s =>
      rw [fitsPage, Bool.and_eq_true] at h
      exact cr_not_mem_cons (cr_not_mem_comment h.1 false) (ih h.2)
    | doctype s =>
      rw [fitsPage, Bool.and_eq_true, Tokenizer.isDeclaration, Bool.and_eq_true,
        Bool.and_eq_true] at h
      refine cr_not_mem_cons ?_ (cr_not_mem_root h.2)
      have hclean := (Tokenizer.not_mem_of_isClean h.1.1.1).1
      rw [Tree.render, String.toList_append, String.toList_append, List.mem_append, List.mem_append,
        not_or, not_or]
      exact ⟨⟨by decide, hclean⟩, by decide⟩
    | text s => exact absurd h Bool.false_ne_true
    | element e children =>
      have hroot : fitsRoot true (.element e children :: rest) = true := h
      exact cr_not_mem_root hroot

end Nesting

namespace Page

open Nesting

theorem stage_empty : Stage false .initial {} [] where
  linked := linked_empty
  stack_eq := rfl
  element _ ho := absurd ho List.not_mem_nil
  html _ ho := absurd ho List.not_mem_nil
  nodup := List.nodup_nil
  formatting_eq := rfl
  form_eq := rfl
  mode_eq := rfl
  model_eq := rfl
  fostering_eq := rfl
  oldPage_eq := rfl

/-- A page whose parts fit is read from its markup as a page of the same trees. -/
theorem parse_render {p : Page} (h : fitsPage (p.trees root) = true) :
    parse p.render = ofTrees (writtenTrees (p.trees root)) := by
  obtain ⟨old, b, mode, os, hread, hstage, hmode, hpage⟩ := reads_page stage_empty h
  obtain ⟨fuel, -, hrun⟩ := hread [] trivial _ (Nat.le_refl _)
  rw [List.append_nil] at hrun
  have hlines : normalizeLines p.render.toList = (Tree.renderAll false (p.trees root)).toList :=
    normalizeLines_of_not_mem (cr_not_mem_page h)
  have hconsume : Build.Does (Build.consume p.render.toList.length p.render.toList) {} () b := by
    refine hrun.trans ?_
    cases fuel <;> rfl
  have hfinish : Build.Does (Build.finish 16) b () b := by
    refine .bind (.get b) ?_
    rw [hstage.mode_eq]
    simp only [lastModes, List.mem_cons, List.not_mem_nil, or_false] at hmode
    rcases hmode with rfl | rfl <;> exact .pure () b
  have hwhole : Build.Does (do
      Build.consume p.render.toList.length p.render.toList
      Build.finish 16) {} () b := hconsume.bind hfinish
  have hparse : parse p.render = b.page := by
    unfold parse
    rw [show normalizeLines p.render.toList = p.render.toList from hlines]
    exact congrArg (fun r => r.2.page) hwhole
  exact hparse.trans hpage

/-- A page whose parts fit is rendered again as it was: what is read from its markup are the same
trees, with the attributes of each element in the order in which they are written. -/
theorem render_parse_render (markup : String)
    (h : fitsPage ((parse markup).trees root) = true) :
    (parse (parse markup).render).render = (parse markup).render ∧
      (parse (parse markup).render).trees root = writtenTrees ((parse markup).trees root) := by
  have htrees : (parse (parse markup).render).trees root =
      writtenTrees ((parse markup).trees root) := by
    rw [parse_render h, trees_ofTrees]
  refine ⟨?_, htrees⟩
  rw [render, htrees, renderAll_writtenTrees, ← render]

def tablePage : String :=
  "<!DOCTYPE html><p class=\" a c\">x<table><tr><td>&lt;</table>"

theorem render_parse_render_table : fitsPage ((parse tablePage).trees root) = true ∧
    (parse (parse tablePage).render).render = (parse tablePage).render := by
  have h : fitsPage ((parse tablePage).trees root) = true := by decide +kernel
  exact ⟨h, (render_parse_render tablePage h).1⟩

/-- Each time that preformatted text is read, it loses a line feed at its start. -/
theorem render_parse_drops_newline :
    (parse (parse "<pre>\n\nx</pre>").render).render ≠ (parse "<pre>\n\nx</pre>").render := by
  have hfirst : (parse "<pre>\n\nx</pre>").render =
      "<html><head></head><body><pre>\nx</pre></body></html>" := by decide +kernel
  have hsecond : (parse "<html><head></head><body><pre>\nx</pre></body></html>").render =
      "<html><head></head><body><pre>x</pre></body></html>" := by decide +kernel
  rw [hfirst, hsecond]
  decide

end Page
end ContentBinding.Markup
