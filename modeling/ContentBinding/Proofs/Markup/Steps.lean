import ContentBinding.Proofs.Markup.Parts

/-! Steps of the builder in a place: what one start tag, one end tag, one comment and one text do to
the page when the place admits them. -/

namespace ContentBinding.Markup.Nesting

open Build (BodyTag Does bodyTag)

variable {old : Bool} {b b' : Builder} {os : Opened} {n m : NodeId} {c e : Element}
  {place : Place}

/-! Written elements -/

theorem pairwise_mergeSort_attrs (attrs : List (String × String)) :
    (attrs.mergeSort Tree.attrLe).Pairwise fun a b => Tree.attrLe a b = true :=
  List.pairwise_mergeSort Tokenizer.attrLe_trans Tokenizer.attrLe_total attrs

theorem written_written (e : Element) : written (written e) = written e := by
  unfold written
  rw [List.mergeSort_of_pairwise (pairwise_mergeSort_attrs e.attrs)]

theorem tagOf_written (e : Element) : tagOf (written e) = tagOf e := by
  unfold tagOf
  rw [written_written]
  rfl

theorem admitsHtml_written (old : Bool) (place : Place) (e : Element) :
    admitsHtml old place (written e) = admitsHtml old place e := by
  unfold admitsHtml isKeptHtml isKeptRoot isTableItem
  rw [tagOf_written, written_written]
  rfl

theorem Starts.congr {x y : Build Bool} (h : Starts old b n os e x) (hrun : y.run b = x.run b) :
    Starts old b n os e y := by
  unfold Starts OpensArea OpensText Adds Opens Does at *
  rwa [hrun]

theorem Closes.congr {x y : Build Bool} (h : Closes old b os x false) (hrun : y.run b = x.run b) :
    Closes old b os y false := by
  unfold Closes Does at *
  rwa [hrun]

theorem admitsHtml_of_admits (hd : e.dialect = .html) (h : admits old place e = true) :
    admitsHtml old place e = true := by
  unfold admits at h
  split at h
  · exact h
  · next hc =>
    rw [Bool.and_eq_true, decide_eq_true_eq] at h
    rw [Foreign.isHtmlContent, ← h.1, hd] at hc
    exact absurd rfl hc

theorem isKeptHtml_of_admitsHtml (hd : e.dialect = .html) (h : admitsHtml old place e = true) :
    isKeptHtml e = true := by
  have hroot : ∀ d, d ≠ .html → isKeptRoot d e = true → isKeptHtml e = true := by
    intro d hne hkept
    have hopened : opened d (Foreign.adjustAttrs d (tagOf e)) = written e := of_decide_eq_true hkept
    exact absurd ((congrArg Element.dialect hopened).trans hd) hne
  unfold admitsHtml at h
  split at h
  case h_1 | h_2 | h_3 =>
    split at h
    · exact hroot _ (by decide) h
    · exact hroot _ (by decide) h
    · exact (Bool.and_eq_true_iff.mp h).1
  all_goals
    simp only [Bool.and_eq_true, Bool.false_eq_true] at h
    try tauto

theorem isHtmlContent_html (hd : e.dialect = .html) (t : Token) :
    Foreign.isHtmlContent e t = true := by
  unfold Foreign.isHtmlContent
  rw [decide_eq_true hd]
  rfl

theorem isHtmlContent_endTag (hd : e.dialect ≠ .html) (t : Tag) :
    Foreign.isHtmlContent e (.endTag t) = false := by
  unfold Foreign.isHtmlContent
  rw [decide_eq_false hd]
  rfl

theorem isHtmlContent_comment (hd : e.dialect ≠ .html) (s : String) :
    Foreign.isHtmlContent e (.comment s) = false := by
  unfold Foreign.isHtmlContent
  rw [decide_eq_false hd]
  rfl

theorem run_step (hcurrent : b.stack.head?.bind b.page.element? = some c) (t : Token) :
    (Build.step t).run b = (if Foreign.isHtmlContent c t then Build.stepHtml b.mode t
      else Build.stepForeign c t).run b := by
  have hget : (b.stack.head?.bind b.page.element?).getD { name := "" } = c := by
    rw [hcurrent]
    rfl
  conv_rhs => rw [← hget]
  rfl

namespace At

theorem current_eq (h : At old b ((n, c) :: os)) :
    b.stack.head?.bind b.page.element? = some c := by
  rw [h.stack_eq, nodesOf, List.map_cons, List.head?_cons, Option.bind_some, h.head]

theorem step_eq (h : At old b ((n, c) :: os)) (t : Token) :
    (Build.step t).run b = (if Foreign.isHtmlContent c t then Build.stepHtml b.mode t
      else Build.stepForeign c t).run b :=
  run_step h.current_eq t

theorem does_step_html (h : At old b ((n, c) :: os)) {t : Token} {again : Bool}
    (hc : Foreign.isHtmlContent c t = true) (hdoes : Does (Build.stepHtml b.mode t) b again b') :
    Does (Build.step t) b again b' := by
  unfold Does
  rw [h.step_eq, if_pos hc]
  exact hdoes

theorem does_step_foreign (h : At old b ((n, c) :: os)) {t : Token} {again : Bool}
    (hc : Foreign.isHtmlContent c t = false) (hdoes : Does (Build.stepForeign c t) b again b') :
    Does (Build.step t) b again b' := by
  unfold Does
  rw [h.step_eq, hc, if_neg Bool.false_ne_true]
  exact hdoes

/-! Tags -/

theorem starts (h : At old b ((n, c) :: os))
    (hadmits : admits old (placeOf ((n, c) :: os)) e = true) :
    Starts old b n ((n, c) :: os) e (Build.step (.startTag (tagOf e))) := by
  unfold admits at hadmits
  have hc : innermost (placeOf ((n, c) :: os)) = c := rfl
  rw [hc] at hadmits
  cases hhtml : Foreign.isHtmlContent c (.startTag (tagOf e)) with
  | true =>
    rw [hhtml, if_pos rfl] at hadmits
    refine (h.starts_html hadmits).congr ?_
    rw [h.step_eq, hhtml, if_pos rfl]
    rfl
  | false =>
    rw [hhtml, if_neg Bool.false_ne_true, Bool.and_eq_true, decide_eq_true_eq, isKeptForeign,
      Bool.and_eq_true, decide_eq_true_eq, Bool.not_eq_true'] at hadmits
    obtain ⟨hdialect, hkept, hbreaks⟩ := hadmits
    have hd : c.dialect ≠ .html := by
      intro heq
      rw [Foreign.isHtmlContent, heq] at hhtml
      exact Bool.false_ne_true hhtml.symm
    have hne : e.dialect ≠ .html := hdialect ▸ hd
    have hopens := h.opens_startTagForeign hd hbreaks rfl
    rw [← hdialect, hkept] at hopens
    refine (Starts.opens (by simp [textModel?, hne]) (by simp [isVoid, hne]) hopens).congr ?_
    rw [h.step_eq, hhtml, if_neg Bool.false_ne_true]
    rfl

theorem ends (h : At old b ((m, written e) :: (n, c) :: os))
    (hadmits : admits old (placeOf ((n, c) :: os)) e = true)
    (hregular : isRegular (placeOf ((n, c) :: os)) = true)
    (hm : textModel? e = none ∨ e.name = "textarea") (hv : isVoid e = false) :
    Closes old b ((n, c) :: os) (Build.step (.endTag ⟨lowerString e.name, [], false⟩)) false := by
  by_cases hd : e.dialect = .html
  · have hhtml := admitsHtml_of_admits hd hadmits
    have hname : lowerString e.name = e.name :=
      (opened_of_isKeptHtml (isKeptHtml_of_admitsHtml hd hhtml)).2.1
    rw [← admitsHtml_written] at hhtml
    refine (h.ends_html hd hregular hhtml hm hv).congr ?_
    rw [h.step_eq, isHtmlContent_html (e := written e) hd, if_pos rfl, hname]
    rfl
  · refine (h.closes_foreign hd ⟨lowerString e.name, [], false⟩ rfl).congr ?_
    rw [h.step_eq, isHtmlContent_endTag (e := written e) hd, if_neg Bool.false_ne_true]
    rfl

/-! Comments -/

theorem does_insertComment {p : NodeId} (s : String) :
    Does (Build.insertComment p s) b () { b with page := b.page.addChild p (.comment s) } :=
  rfl

theorem does_current (h : At old b ((n, c) :: os)) : Does Build.current b n b := by
  have hrun : Does Build.current b (b.stack.head?.getD Page.root) b := rfl
  rwa [h.stack_eq] at hrun

theorem does_comment (h : At old b ((n, c) :: os)) (s : String) :
    Does (Build.step (.comment s)) b false { b with page := b.page.addChild n (.comment s) } := by
  have hinsert : Does (do
      Build.insertComment (← Build.current) s
      return false) b false { b with page := b.page.addChild n (.comment s) } :=
    h.does_current.bind (.bind (does_insertComment s) (.pure false _))
  by_cases hd : c.dialect = .html
  · refine h.does_step_html (isHtmlContent_html hd _) ?_
    have hmode : ∀ mode ∈ placeModes, Build.commentIn mode s = do
        Build.insertComment (← Build.current) s
        return false := by
      intro mode hmem
      simp only [placeModes, List.mem_cons, List.not_mem_nil, or_false] at hmem
      rcases hmem with rfl | rfl | rfl | rfl | rfl | rfl | rfl | rfl | rfl | rfl | rfl | rfl <;> rfl
    have hplace := modeAt_mem (placeOf ((n, c) :: os))
    rw [← h.mode_eq] at hplace
    show Does (Build.commentIn b.mode s) b false _
    rw [hmode _ hplace]
    exact hinsert
  · exact h.does_step_foreign (isHtmlContent_comment hd s) hinsert

end At

end ContentBinding.Markup.Nesting
