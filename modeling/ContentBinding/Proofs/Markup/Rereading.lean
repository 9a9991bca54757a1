import ContentBinding.Proofs.Markup.Reading

/-! Whole trees. By induction on a tree, its markup is read as the tree where it fits; below an
element the induction goes on one place further in. Trees come back with their attributes in the order
in which they are written. -/

namespace ContentBinding.Markup.Nesting

open Build (BodyTag Does Reads bodyTag)
open Tokenizer (IsCut)

variable {old raw : Bool} {b b' : Builder} {os : Opened} {n : NodeId} {c e : Element}
  {place : Place} {p : Page} {t : Tree} {ts : List Tree}

/-! Trees as they are written -/

mutual

/-- The tree with the attributes of each element in the order in which they are written. -/
def writtenTree : Tree → Tree
  | .doctype s => .doctype s
  | .comment s => .comment s
  | .text s => .text s
  | .element e children => .element (written e) (writtenTrees children)

def writtenTrees : List Tree → List Tree
  | [] => []
  | t :: rest => writtenTree t :: writtenTrees rest

end

theorem startTag_written (e : Element) : Tree.startTag (written e) = Tree.startTag e :=
  congrArg (fun w : Element => "<" ++ e.name ++ String.join (w.attrs.map Tree.renderAttr) ++ ">")
    (written_written e)

theorem isEmpty_writtenTrees (ts : List Tree) : (writtenTrees ts).isEmpty = ts.isEmpty := by
  cases ts <;> rfl

mutual

theorem render_writtenTree (raw : Bool) : (t : Tree) →
    Tree.render raw (writtenTree t) = Tree.render raw t
  | .doctype _ | .comment _ | .text _ => rfl
  | .element e children => by
    have hall := renderAll_writtenTrees (Tree.isRawName e.name) children
    simp only [writtenTree, Tree.render, startTag_written, isEmpty_writtenTrees]
    rw [show Tree.isRawName (written e).name = Tree.isRawName e.name from rfl, hall]
    rfl

theorem renderAll_writtenTrees (raw : Bool) : (ts : List Tree) →
    Tree.renderAll raw (writtenTrees ts) = Tree.renderAll raw ts
  | [] => rfl
  | t :: rest => by
    rw [writtenTrees, Tree.renderAll, Tree.renderAll, render_writtenTree raw t,
      renderAll_writtenTrees raw rest]

end

/-! Markup -/

theorem toList_renderAll (raw : Bool) (t : Tree) (rest : List Tree) :
    (Tree.renderAll raw (t :: rest)).toList =
      (Tree.render raw t).toList ++ (Tree.renderAll raw rest).toList := by
  rw [Tree.renderAll, String.toList_append]

theorem toList_render_comment (raw : Bool) (s : String) :
    (Tree.render raw (.comment s)).toList = commentMarkup s := by
  simp [Tree.render, commentMarkup]

theorem toList_render_text (s : String) :
    (Tree.render false (.text s)).toList = s.toList.flatMap Tree.escapeChar :=
  String.toList_ofList

theorem isWrittenAs_render {s : String} (hclean : Tokenizer.isClean s = true)
    (h : raw = false ∨ Tokenizer.isUnescaped s = true) :
    Tokenizer.IsWrittenAs (Tree.render raw (.text s)).toList s.toList := by
  have hnul := (Tokenizer.not_mem_of_isClean hclean).2
  cases raw with
  | false =>
    rw [toList_render_text]
    exact Tokenizer.isWrittenAs_escaped hnul
  | true => exact Tokenizer.isWrittenAs_self hnul (h.resolve_left Bool.noConfusion)

theorem toList_render_void (raw : Bool) (h : Tree.voidNames.contains e.name = true) :
    (Tree.render raw (.element e [])).toList = startMarkup e := by
  rw [Tree.render, h]
  rfl

theorem toList_render_element (raw : Bool)
    (h : (Tree.voidNames.contains e.name && ts.isEmpty) = false) :
    (Tree.render raw (.element e ts)).toList =
      startMarkup e ++ ((Tree.renderAll (Tree.isRawName e.name) ts).toList ++ endMarkup e) := by
  rw [Tree.render, h, if_neg Bool.false_ne_true, String.toList_append, String.toList_append]
  rfl

theorem contains_voidNames (h : isVoid e = true) : Tree.voidNames.contains e.name = true := by
  by_cases hpart : e.name ∈ ["col", "frame"]
  · have hall : ∀ name ∈ ["col", "frame"], Tree.voidNames.contains name = true := by decide
    exact hall _ hpart
  rcases void_cases h hpart with hhead | hk
  · have hall : ∀ name ∈ headVoids, Tree.voidNames.contains name = true := by decide
    exact hall _ hhead
  · have hall : ∀ k ∈ [BodyTag.void, .hollow, .input, .rule],
        namesOf k ≠ [] ∧ ∀ name ∈ namesOf k, Tree.voidNames.contains name = true := by decide
    obtain ⟨hne, hnames⟩ := hall _ hk
    exact hnames _ (mem_namesOf rfl hne)

theorem isCut_render (hnot : ∀ s, t ≠ .text s) (raw : Bool) (rest : List Char) :
    IsCut ((Tree.render raw t).toList ++ rest) := by
  cases t with
  | doctype s => exact .inr (by simp [Tree.render])
  | comment s => exact .inr (by rw [toList_render_comment]; rfl)
  | text s => exact absurd rfl (hnot s)
  | element e children =>
    have hstart : ∃ cs, (Tree.render raw (.element e children)).toList = startMarkup e ++ cs := by
      cases hvoid : Tree.voidNames.contains e.name && children.isEmpty with
      | true => exact ⟨[], by rw [Tree.render, hvoid, List.append_nil]; rfl⟩
      | false => exact ⟨_, toList_render_element raw hvoid⟩
    obtain ⟨cs, hcs⟩ := hstart
    rw [hcs, startMarkup_eq]
    exact .inr rfl

theorem isCut_renderAll (hne : ts ≠ []) (hnot : ∀ s rest, ts ≠ .text s :: rest) (raw : Bool)
    (rest : List Char) : IsCut ((Tree.renderAll raw ts).toList ++ rest) := by
  cases ts with
  | nil => exact absurd rfl hne
  | cons t more =>
    rw [toList_renderAll, List.append_assoc]
    refine isCut_render ?_ raw _
    rintro s rfl
    exact hnot s more rfl

theorem isCut_append (hnot : ∀ s rest, ts ≠ .text s :: rest) (raw : Bool) {rest : List Char}
    (hrest : IsCut rest) : IsCut ((Tree.renderAll raw ts).toList ++ rest) := by
  by_cases hne : ts = []
  · rw [hne]
    exact hrest
  · exact isCut_renderAll hne hnot raw rest

/-! Elements that hold text -/

theorem textOf?_eq {text : String} (h : textOf? ts = some text) :
    (ts = [] ∧ text = "") ∨ (ts = [.text text] ∧ text ≠ "") := by
  unfold textOf? at h
  split at h
  · exact .inl ⟨rfl, (Option.some.inj h).symm⟩
  · split_ifs at h with hne
    obtain rfl := Option.some.inj h
    exact .inr ⟨rfl, hne⟩
  · cases h

theorem exists_of_any {m : ContentModel} (h : (textOf? ts).any (isTextContent m e) = true) :
    ∃ text, textOf? ts = some text ∧ isTextContent m e text = true := by
  cases htext : textOf? ts with
  | none => simp [htext] at h
  | some text => exact ⟨text, rfl, by simpa [htext] using h⟩

theorem toList_render_textElement {m : ContentModel} {text : String} (raw : Bool)
    (hm : textModel? e = some m) (h : textOf? ts = some text) :
    (Tree.render raw (.element e ts)).toList =
      startMarkup e ++ (textMarkup e text ++ endMarkup e) := by
  have hvoid : Tree.voidNames.contains e.name = false := (of_textModel? hm).2.2.2.1
  rw [toList_render_element raw (by rw [hvoid, Bool.false_and])]
  rcases textOf?_eq h with ⟨rfl, rfl⟩ | ⟨rfl, -⟩
  · simp [Tree.renderAll, textMarkup]
  · cases hraw : Tree.isRawName e.name <;>
      simp [Tree.renderAll, Tree.render, textMarkup, hraw, Tree.escape]

theorem graftAll_of_textOf? {k : NodeId} {text : String} (h : textOf? ts = some text) :
    p.graftAll k (writtenTrees ts) = p.withText k text.toList := by
  rcases textOf?_eq h with ⟨rfl, rfl⟩ | ⟨rfl, hne⟩
  · rfl
  · rw [Page.withText_of_ne (by simpa using hne), String.ofList_toList]
    rfl

theorem startsWithNewline_of_textOf? {text : String} (h : textOf? ts = some text)
    (hnot : startsWithNewline ts = false) : text.toList.head? ≠ some '\n' := by
  rcases textOf?_eq h with ⟨rfl, rfl⟩ | ⟨rfl, -⟩
  · simp
  · exact of_decide_eq_false hnot

/-! Places further in -/

theorem modeAt_of_preformatted (h : ["pre", "listing", "textarea"].contains e.name = true) :
    modeAt (e :: place) = modeAt place := by
  simp only [List.contains_iff_mem, List.mem_cons, List.not_mem_nil, or_false] at h
  rcases h with hname | hname | hname <;>
  · simp only [modeAt, hname]
    exact ite_self _

theorem not_body_of_admits (h : admits old place e = true) : isNamed "body" e = false := by
  by_contra hnamed
  rw [Bool.not_eq_false, isNamed, Bool.and_eq_true, decide_eq_true_eq, decide_eq_true_eq] at hnamed
  obtain ⟨hd, hname⟩ := hnamed
  have hhtml := admitsHtml_of_admits hd h
  have htag : bodyTag e.name = .body := by
    rw [hname]
    decide
  have hitem : isTableItem e = false := by simp [isTableItem, hname]
  unfold admitsHtml at hhtml
  split at hhtml
  case h_1 | h_2 | h_3 =>
    rw [htag] at hhtml
    simp [admitsTag] at hhtml
  all_goals simp [hname, hitem] at hhtml

/-- Foreign content begins where the body admits it. -/
theorem mode_of_foreign (hd : e.dialect ≠ .html) (hadmits : admits old place e = true)
    (hregular : isRegular place = true) : modeAt place ∈ bodyModes := by
  unfold admits at hadmits
  split at hadmits
  · have hkept : isKeptHtml e ≠ true := fun h => hd (opened_of_isKeptHtml h).2.2
    unfold admitsHtml at hadmits
    split at hadmits
    case h_1 heq | h_2 heq | h_3 heq =>
      rw [heq]
      decide
    all_goals simp [hkept] at hadmits
  · rw [Bool.and_eq_true, decide_eq_true_eq] at hadmits
    cases place with
    | nil => exact absurd hadmits.1 hd
    | cons c rest =>
      have hc : c.dialect ≠ .html := fun h => hd (hadmits.1.trans h)
      simp only [isRegular, Bool.and_eq_true, Bool.or_eq_true, decide_eq_true_eq, hc, false_or,
        List.contains_iff_mem] at hregular
      rw [modeAt, if_neg hc]
      exact hregular.1.2

theorem isRegular_cons (hadmits : admits old place e = true) (hregular : isRegular place = true) :
    isRegular (written e :: place) = true := by
  have hnamed : isNamed "body" (written e) = false := @not_body_of_admits old e place hadmits
  have hforeign : (decide ((written e).dialect = .html) ||
      bodyModes.contains (modeAt place)) = true := by
    by_cases hd : e.dialect = .html
    · exact Bool.or_eq_true_iff.mpr (.inl (decide_eq_true hd))
    · exact Bool.or_eq_true_iff.mpr
        (.inr (List.contains_iff_mem.mpr (mode_of_foreign hd hadmits hregular)))
  rw [isRegular, hnamed, hforeign, hregular]
  rfl

theorem Stands.linked (h : Stands old n c os b p) : p.Linked := by
  cases h with
  | settled hat => exact hat.linked
  | waiting hat => exact (Page.grown_withText hat.linked hat.isInner _).linked

theorem Stands.isInner (h : Stands old n c os b p) : p.IsInner n := by
  cases h with
  | settled hat => exact hat.isInner
  | waiting hat => exact (Page.grown_withText hat.linked hat.isInner _).isInner hat.linked hat.isInner

/-- A text that comes next can be read at once. -/
def Awaits (old : Bool) (n : NodeId) (c : Element) (os : Opened) (b : Builder) (p : Page)
    (ts : List Tree) : Prop :=
  ∀ s rest, ts = .text s :: rest → At old b ((n, c) :: os) ∧ b.page = p ∧ p.IsOpen n ∧
    (DropsAt b n c (placeOf ((n, c) :: os)) → s.toList.head? ≠ some '\n')

theorem areSeparate_of_cons (h : areSeparate (t :: ts) = true) : areSeparate ts = true := by
  unfold areSeparate at h
  split at h
  · cases h
  · next heq => exact (List.cons.inj heq).2 ▸ h
  · exact absurd ‹_› (List.cons_ne_nil _ _)

theorem isOpen_graft (hp : p.Linked) (hn : p.IsInner n) (hnot : ∀ s, t ≠ .text s) :
    (p.graft n (writtenTree t)).IsOpen n := by
  obtain ⟨hchildren, hcontent⟩ := Page.graft_last hp hn (writtenTree t)
  intro k hk
  rw [hchildren, List.getLast?_concat] at hk
  rw [← Option.some.inj hk, Page.text?, hcontent]
  cases t with
  | text s => exact absurd rfl (hnot s)
  | _ => rfl

theorem awaits_graft (h : Stands old n c os b p) (hat : At old b' ((n, c) :: os))
    (hpage : b'.page = p.graft n (writtenTree t)) (hnot : ∀ s, t ≠ .text s) :
    Awaits old n c os b' (p.graft n (writtenTree t)) ts := by
  refine fun s rest _ => ⟨hat, hpage, isOpen_graft h.linked h.isInner hnot, fun hdrops => ?_⟩
  have hnone := hdrops.2.2
  rw [hpage, (Page.graft_last h.linked h.isInner (writtenTree t)).1] at hnone
  exact absurd hnone (by simp)

theorem awaits_content (h : Stands old n c os b p)
    (hat : At old b' ((p.size, written e) :: (n, c) :: os))
    (hpage : b'.page = p.addChild n (.element (written e)))
    (hnewline : dropsNewline (placeOf ((n, c) :: os)) e = false ∨ startsWithNewline ts = false) :
    Awaits old p.size (written e) ((n, c) :: os) b' (p.addChild n (.element (written e))) ts := by
  intro s rest hs
  refine ⟨hat, hpage, isOpen_new h.linked h.isInner _, fun hdrops => ?_⟩
  have hmode : modeAt (placeOf ((n, c) :: os)) = .inBody :=
    (@modeAt_of_preformatted (written e) _ hdrops.2.1).symm.trans hdrops.1
  have hnot := hnewline.resolve_left (by
    rw [dropsNewline, decide_eq_true hmode, Bool.and_true, Bool.not_eq_false]
    exact hdrops.2.1)
  subst hs
  exact of_decide_eq_false hnot

mutual

/-- A tree that is no text is read where it fits. -/
theorem reads_tree : (t : Tree) → ∀ {old raw : Bool} {n : NodeId} {c : Element} {os : Opened}
    {b : Builder} {p : Page}, (∀ s, t ≠ .text s) → Stands old n c os b p →
    isRegular (placeOf ((n, c) :: os)) = true → fits old raw (placeOf ((n, c) :: os)) t = true →
    ∃ b', Reads anything (Tree.render raw t).toList b b' ∧ At old b' ((n, c) :: os) ∧
      b'.page = p.graft n (writtenTree t)
  | .doctype s, _, _, _, _, _, _, _, _, _, _, hfits => by
    rw [fits] at hfits
    cases hfits
  | .text s, _, _, _, _, _, _, _, hnot, _, _, _ => absurd rfl (hnot s)
  | .comment s, _, raw, _, _, _, _, _, _, h, _, hfits => by
    rw [fits] at hfits
    rw [toList_render_comment]
    exact reads_comment h hfits
  | .element e children, old, raw, n, c, os, b, p, _, h, hregular, hfits => by
    rw [fits, Bool.and_eq_true, Bool.and_eq_true, Bool.and_eq_true, Bool.not_eq_true',
      Bool.and_eq_false_iff] at hfits
    obtain ⟨⟨⟨hreadable, hadmits⟩, hnewline⟩, hcontent⟩ := hfits
    cases hm : textModel? e with
    | some m =>
      rw [hm] at hcontent
      dsimp only at hcontent
      obtain ⟨text, htext, hcontent⟩ := exists_of_any hcontent
      rw [toList_render_textElement raw hm htext]
      have hpage : p.graft n (writtenTree (.element e children)) =
          (p.addChild n (.element (written e))).withText p.size text.toList :=
        graftAll_of_textOf? htext
      rw [hpage]
      by_cases harea : e.name = "textarea"
      · refine reads_textarea h hreadable hadmits hregular hm harea hcontent fun hbody => ?_
        refine startsWithNewline_of_textOf? htext (hnewline.resolve_left ?_)
        simp [dropsNewline, harea, hbody]
      · exact reads_textElement h hreadable hadmits hm harea hcontent
    | none =>
      rw [hm] at hcontent
      dsimp only at hcontent
      cases hv : isVoid e with
      | true =>
        rw [hv, if_pos rfl, List.isEmpty_iff] at hcontent
        subst hcontent
        rw [toList_render_void raw (contains_voidNames hv)]
        exact reads_void h hreadable hadmits hm hv
      | false =>
        rw [hv, if_neg Bool.false_ne_true, Bool.and_eq_true, Bool.and_eq_true,
          Bool.not_eq_true'] at hcontent
        obtain ⟨⟨hvoid, hseparate⟩, hall⟩ := hcontent
        rw [toList_render_element raw hvoid]
        obtain ⟨b₁, hstart, hat, hpage⟩ := reads_opening h hreadable hadmits hm hv
        have hstands : Stands old p.size (written e) ((n, c) :: os) b₁
            (p.addChild n (.element (written e))) := hpage ▸ .settled hat
        have hawaits := awaits_content h hat hpage hnewline
        obtain ⟨b₂, hread, hstands'⟩ := reads_all children hseparate hawaits hstands
          (isRegular_cons hadmits hregular) hall
        obtain ⟨b₃, hend, hback, hpage'⟩ :=
          reads_closing hstands' hreadable hadmits hregular (.inl hm) hv
        refine ⟨b₃, ?_, hback, hpage'⟩
        refine hstart.append (hread.append hend fun rest _ => ?_) fun _ _ => trivial
        rw [endMarkup_eq]
        exact .inr rfl

theorem reads_all : (ts : List Tree) → ∀ {old raw : Bool} {n : NodeId} {c : Element} {os : Opened}
    {b : Builder} {p : Page}, areSeparate ts = true → Awaits old n c os b p ts →
    Stands old n c os b p → isRegular (placeOf ((n, c) :: os)) = true →
    fitsAll old raw (placeOf ((n, c) :: os)) ts = true →
    ∃ b', Reads IsCut (Tree.renderAll raw ts).toList b b' ∧
      Stands old n c os b' (p.graftAll n (writtenTrees ts))
  | [], _, _, _, _, _, b, _, _, _, h, _, _ => ⟨b, .nil IsCut b, h⟩
  | t :: rest, old, raw, n, c, os, b, p, hseparate, hawaits, h, hregular, hfits => by
    rw [fitsAll, Bool.and_eq_true] at hfits
    obtain ⟨hfirst, hrest⟩ := hfits
    rw [toList_renderAll]
    by_cases htext : ∃ s, t = .text s
    · obtain ⟨s, rfl⟩ := htext
      rw [fits, Bool.and_eq_true, Bool.and_eq_true, Bool.and_eq_true, bne_iff_ne, Bool.or_eq_true,
        Bool.not_eq_true'] at hfirst
      obtain ⟨⟨⟨hne, hclean⟩, hraw⟩, hadmits⟩ := hfirst
      obtain ⟨hat, rfl, hopen, hkeep⟩ := hawaits s rest rfl
      obtain ⟨b₁, hread, hstands⟩ := reads_text hat hopen hne (isWrittenAs_render hclean hraw)
        hadmits hregular hkeep
      have hnot : ∀ s' rest', rest ≠ .text s' :: rest' := by
        rintro s' rest' rfl
        exact Bool.false_ne_true hseparate
      obtain ⟨b', hread', hstands'⟩ := reads_all rest (areSeparate_of_cons hseparate)
        (fun s' rest' heq => absurd heq (hnot s' rest')) hstands hregular hrest
      exact ⟨b', hread.append hread' fun more hmore => isCut_append hnot raw hmore, hstands'⟩
    · rw [not_exists] at htext
      obtain ⟨b₁, hread, hat, hpage⟩ := reads_tree t htext h hregular hfirst
      obtain ⟨b', hread', hstands'⟩ := reads_all rest (areSeparate_of_cons hseparate)
        (awaits_graft h hat hpage htext) (hpage ▸ .settled hat) hregular hrest
      exact ⟨b', hread.append hread' fun _ _ => trivial, hstands'⟩

end

end ContentBinding.Markup.Nesting
