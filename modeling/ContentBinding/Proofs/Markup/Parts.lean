import ContentBinding.Proofs.Markup.Closing

/-! End tags outside of the body: in the parts of a table, in a selection, in the head and in foreign
content. Where the insertion mode is found again from the open elements, it is the mode that the
place asks for. -/

namespace ContentBinding.Markup.Nesting

open Build (BodyTag Does bodyTag)

variable {old : Bool} {b b' : Builder} {os : Opened} {n m : NodeId} {c e : Element}
  {place : Place}

/-! The mode that the open elements ask for -/

def placeModes : List Mode :=
  [.inBody, .inHead, .inHeadNoscript, .inTable, .inCaption, .inColumnGroup, .inTableBody, .inRow,
    .inCell, .inSelect, .inSelectInTable, .inFrameset]

theorem modeAt_mem (place : Place) : modeAt place ∈ placeModes := by
  induction place with
  | nil => decide
  | cons e rest ih =>
    simp only [modeAt]
    split
    · split
      case h_2 | h_12 => split <;> first | exact ih | decide
      all_goals first
        | exact ih
        | decide
    · exact ih

def bodyModes : List Mode :=
  [.inBody, .inCaption, .inCell]

def isRegular : Place → Bool
  | [] => true
  | e :: rest =>
    (!isNamed "body" e || modeAt rest = .inBody) &&
      (e.dialect = .html || bodyModes.contains (modeAt rest)) && isRegular rest

theorem modeOf_eq {p : Page} (h : ∀ o ∈ os, p.element? o.1 = some o.2)
    (hregular : isRegular (placeOf os) = true) (hbody : modeAt (placeOf os) ∈ bodyModes) :
    Build.modeOf p (nodesOf os) = modeAt (placeOf os) := by
  induction os with
  | nil => rfl
  | cons o os ih =>
    obtain ⟨n, e⟩ := o
    rw [List.forall_mem_cons] at h
    simp only [placeOf, List.map_cons, isRegular, Bool.and_eq_true, Bool.or_eq_true,
      Bool.not_eq_true', decide_eq_true_eq] at hregular
    obtain ⟨⟨hroot, -⟩, hregular⟩ := hregular
    simp only [nodesOf, placeOf, List.map_cons, Build.modeOf, modeAt, nameOf_eq h.1,
      dialectOf_eq h.1] at hbody ⊢
    by_cases hd : e.dialect = .html
    · simp only [if_pos hd] at hbody ⊢
      split
      case h_1 hname =>
        simp only [hname] at hbody
        split at hbody <;> exact absurd hbody (by decide)
      case h_12 hname =>
        simp only [isNamed, hd, hname] at hroot
        simp only [hname]
        exact (hroot.resolve_left (by decide)).symm
      case h_14 =>
        split at hbody
        case h_2 =>
          split at hbody
          · exact absurd hbody (by decide)
          · next hhead => exact (ih h.2 hregular hbody).trans (if_neg hhead).symm
        all_goals first
          | contradiction
          | exact ih h.2 hregular hbody
      all_goals
        next hname =>
        simp only [hname] at hbody ⊢
        try exact absurd hbody (by decide)
    · simp only [if_neg hd] at hbody ⊢
      exact ih h.2 hregular hbody

/-! What holds trees is neither void nor read as text -/

theorem name_not_mem (hd : e.dialect = .html) (hm : textModel? e = none ∨ e.name = "textarea")
    (hv : isVoid e = false) {names : List String}
    (hnames : ∀ name ∈ names, name ≠ "textarea" ∧
      (textModel? { name := name } ≠ none ∨ isVoid { name := name } = true)) : e.name ∉ names := by
  intro hmem
  obtain ⟨harea, htext | hvoid⟩ := hnames _ hmem
  · exact htext (textModel?_eq hd ▸ hm.resolve_right harea)
  · exact Bool.false_ne_true (hv.symm.trans (isVoid_eq hd ▸ hvoid))

theorem isTableItem_eq_false (hd : e.dialect = .html)
    (hm : textModel? e = none ∨ e.name = "textarea") (hv : isVoid e = false) :
    isTableItem e = false := by
  refine Bool.eq_false_iff.mpr fun hitem => ?_
  rw [isTableItem, Bool.or_eq_true, Bool.and_eq_true, decide_eq_true_eq,
    List.contains_iff_mem] at hitem
  rcases hitem with htext | ⟨hname, -⟩
  · exact name_not_mem hd hm hv (by decide) htext
  · exact name_not_mem hd hm hv (by decide) (List.mem_singleton.mpr hname : e.name ∈ ["input"])

namespace At

theorem does_resetMode (h : ∀ o ∈ os, b.page.element? o.1 = some o.2) (hstack : b.stack = nodesOf os)
    (hregular : isRegular (placeOf os) = true) (hbody : modeAt (placeOf os) ∈ bodyModes) :
    Does Build.resetMode b () { b with mode := modeAt (placeOf os) } := by
  rw [← modeOf_eq h hregular hbody, ← hstack]
  rfl

theorem ascend_mode (h : At old b ((m, e) :: os)) (hk : bodyTag e.name ∈ [.table, .select]) :
    At old { b with stack := nodesOf os, mode := modeAt (placeOf os) } os := by
  have hnot : ∀ ks : List BodyTag, (∀ k ∈ [.table, .select], k ∉ ks) →
      bodyTag e.name ∉ ks := fun ks hks => hks _ hk
  refine h.ascend rfl rfl ?_ ?_ rfl h.model_eq h.fostering_eq h.oldPage_eq
  · rw [h.formatting_eq, formattingOf, isMarker_eq_false (hnot _ (by decide)),
      isFormatting_eq_false (hnot _ (by decide))]
    exact List.append_nil _
  · rw [h.form_eq, formOf,
      isForm_eq_false fun heq => hnot [.form] (by decide) (List.mem_singleton.mpr heq)]
    rfl

theorem closes_table (h : At old b ((m, e) :: os)) (hd : e.dialect = .html)
    (hname : e.name = "table") (hregular : isRegular (placeOf os) = true)
    (hbody : modeAt (placeOf os) ∈ bodyModes) : Closes old b os Build.closeTable () := by
  have hscope := h.does_inScope_head hd .table
  have hpop := h.does_popName
  have himplied : Does (Build.closeImplied "") b () b := by
    refine h.does_closeImplied (.inl ?_)
    rw [hname]
    decide
  have hreset := does_resetMode (b := { b with stack := nodesOf os })
    (fun o ho => h.element o (List.mem_cons_of_mem _ ho)) rfl hregular hbody
  refine ⟨_, ?_, h.ascend_mode (by rw [hname]; decide), rfl⟩
  rw [hname] at hscope hpop
  exact hscope.bind (.ite_true rfl (himplied.bind (hpop.bind hreset)))

theorem closes_select (h : At old b ((m, e) :: os)) (hd : e.dialect = .html)
    (hname : e.name = "select") (hregular : isRegular (placeOf os) = true)
    (hbody : modeAt (placeOf os) ∈ bodyModes) : Closes old b os Build.closeSelect () := by
  have hscope := h.does_inScope_head hd .select
  have hpop := h.does_popName
  have hreset := does_resetMode (b := { b with stack := nodesOf os })
    (fun o ho => h.element o (List.mem_cons_of_mem _ ho)) rfl hregular hbody
  refine ⟨_, ?_, h.ascend_mode (by rw [hname]; decide), rfl⟩
  rw [hname] at hscope hpop
  exact hscope.bind (.ite_true rfl (hpop.bind hreset))

/-! Parts of a table -/

theorem ascend_part (h : At old b ((m, e) :: os)) (hname : e.name ∈ tableNames)
    (hmode : b'.mode = modeAt (placeOf os)) (hpage : b'.page = b.page)
    (hagrees : Agrees { b with
      stack := nodesOf os
      formatting := if isMarker e then formattingOf os else b.formatting
      mode := b'.mode } b') : At old b' os := by
  have hall : ∀ name ∈ tableNames, bodyTag name = .misplaced := by decide
  have htag := hall _ hname
  refine h.ascend hpage hagrees.stack_eq ?_ ?_ hmode (hagrees.model_eq.trans h.model_eq)
    (hagrees.fostering_eq.trans h.fostering_eq) (hagrees.oldPage_eq.trans h.oldPage_eq)
  · have hformatting : isFormatting e = false := isFormatting_eq_false (by rw [htag]; decide)
    rw [hagrees.formatting_eq]
    dsimp only
    split
    · rfl
    · next hmarker =>
      rw [h.formatting_eq, formattingOf, if_neg hmarker, hformatting]
      exact List.append_nil _
  · rw [hagrees.form_eq]
    dsimp only
    rw [h.form_eq, formOf, isForm_eq_false (by rw [htag]; decide)]
    rfl

theorem isMarker_of_name {names : List String} (hname : e.name ∈ names)
    (hnames : ∀ name ∈ names, ["applet", "marquee", "object", "caption", "td", "th"].contains name =
      false) : isMarker e = false := by
  rw [isMarker, hnames _ hname, Bool.and_false]

theorem closes_caption (h : At old b ((m, e) :: os)) (hd : e.dialect = .html)
    (hname : e.name = "caption") (hmode : modeAt (placeOf os) = .inTable) :
    Closes old b os (Build.endInCaption "caption") false := by
  have hscope := h.does_inScope_head hd .table
  have hpop := h.does_popName
  have himplied : Does (Build.closeImplied "") b () b := by
    refine h.does_closeImplied (.inl ?_)
    rw [hname]
    decide
  have hmarker : isMarker e = true := by
    simp only [isMarker, hd, hname]
    rfl
  have hclear : Does Build.clearToMarker { b with stack := nodesOf os } ()
      { b with stack := nodesOf os, formatting := formattingOf os } :=
    h.does_clearToMarker hmarker rfl
  have hclose : Does Build.closeCaption b true { b with
      stack := nodesOf os, formatting := formattingOf os, mode := .inTable } := by
    rw [hname] at hscope hpop
    exact hscope.bind (.ite_true rfl (himplied.bind (hpop.bind
      (hclear.bind (.bind rfl (.pure true _))))))
  refine ⟨_, hclose.discard.bind (.pure false _), h.ascend_part ?_ hmode.symm rfl ?_, rfl⟩
  · rw [hname]
    decide
  · rw [hmarker]
    exact ⟨rfl, rfl, rfl, rfl, rfl, rfl, rfl⟩

theorem closes_columnGroup (h : At old b ((m, e) :: os)) (hname : e.name = "colgroup")
    (hmode : modeAt (placeOf os) = .inTable) :
    Closes old b os (Build.endInColumnGroup "colgroup") false := by
  have hclose : Does Build.closeColumnGroup b true
      { b with stack := nodesOf os, mode := .inTable } := by
    refine h.does_currentName.bind (.ite_false ?_ (h.does_pop.bind (.bind rfl (.pure true _))))
    rw [show currentName (placeOf ((m, e) :: os)) = e.name from rfl, hname]
    decide
  refine ⟨_, hclose.discard.bind (.pure false _), h.ascend_part ?_ hmode.symm rfl ?_, rfl⟩
  · rw [hname]
    decide
  · rw [isMarker_of_name (List.mem_singleton.mpr hname) (by decide)]
    exact ⟨rfl, rfl, rfl, rfl, rfl, rfl, rfl⟩

theorem closes_rowGroup (h : At old b ((m, e) :: os)) (hd : e.dialect = .html)
    (hname : e.name ∈ Build.rowGroups) (hmode : modeAt (placeOf os) = .inTable) :
    Closes old b os (Build.endInTableBody e.name) false := by
  have hall : ∀ name ∈ Build.rowGroups, name ∈ tableNames ∧
      ["tbody", "tfoot", "thead", "html"].contains name = true := by decide
  obtain ⟨hpart, hstop⟩ := hall _ hname
  have hclose : Does (Build.endInTableBody e.name) b false
      { b with stack := nodesOf os, mode := .inTable } := by
    refine .ite_true (List.contains_iff_mem.mpr hname) ((h.does_inScope_head hd .table).bind ?_)
    exact .ite_true rfl ((h.does_popToOneOf hstop).bind
      (h.does_pop.bind (.bind rfl (.pure false _))))
  refine ⟨_, hclose, h.ascend_part hpart hmode.symm rfl ?_, rfl⟩
  rw [isMarker_of_name hname (by decide)]
  exact ⟨rfl, rfl, rfl, rfl, rfl, rfl, rfl⟩

theorem closes_row (h : At old b ((m, e) :: os)) (hd : e.dialect = .html) (hname : e.name = "tr")
    (hmode : modeAt (placeOf os) = .inTableBody) :
    Closes old b os (Build.endInRow "tr") false := by
  have hscope := h.does_inScope_head hd .table
  have hstop : Does Build.toRow b () b := h.does_popToOneOf (by rw [hname]; decide)
  have hclose : Does Build.closeRow b true { b with
      stack := nodesOf os, mode := .inTableBody } := by
    rw [hname] at hscope
    exact hscope.bind (.ite_true rfl (hstop.bind (h.does_pop.bind (.bind rfl (.pure true _)))))
  refine ⟨_, hclose.discard.bind (.pure false _), h.ascend_part ?_ hmode.symm rfl ?_, rfl⟩
  · rw [hname]
    decide
  · rw [isMarker_of_name (List.mem_singleton.mpr hname) (by decide)]
    exact ⟨rfl, rfl, rfl, rfl, rfl, rfl, rfl⟩

theorem closes_cell (h : At old b ((m, e) :: os)) (hd : e.dialect = .html)
    (hname : e.name = "td" ∨ e.name = "th") (hmode : modeAt (placeOf os) = .inRow) :
    Closes old b os (Build.endInCell e.name) false := by
  have hmarker : isMarker e = true := by
    rcases hname with hname | hname <;> simp only [isMarker, hd, hname] <;> rfl
  have hclear : Does Build.clearToMarker { b with stack := nodesOf os } ()
      { b with stack := nodesOf os, formatting := formattingOf os } :=
    h.does_clearToMarker hmarker rfl
  have hclose : Does (Build.closeCellNamed e.name) b () { b with
      stack := nodesOf os, formatting := formattingOf os, mode := .inRow } :=
    (h.does_inScope_head hd .table).bind (.ite_true rfl
      ((h.does_closeImplied (.inr rfl)).bind (h.does_popName.bind (hclear.bind rfl))))
  have hcell : (decide (e.name = "td") || decide (e.name = "th")) = true := by simpa using hname
  refine ⟨_, .ite_true hcell (hclose.bind (.pure false _)), h.ascend_part ?_ hmode.symm rfl ?_, rfl⟩
  · rcases hname with hname | hname <;> rw [hname] <;> decide
  · rw [hmarker]
    exact ⟨rfl, rfl, rfl, rfl, rfl, rfl, rfl⟩

/-! Selections, the head and foreign content -/

theorem closes_option (h : At old b ((m, e) :: os)) (hname : e.name = "option")
    (hhead : modeAt (placeOf os) ≠ .inHead) :
    Closes old b os (Build.endInSelect "option") false := by
  have hclose : Does (Build.endInSelect "option") b false { b with stack := nodesOf os } :=
    h.does_currentName.bind (.ite_true hname (h.does_pop.bind (.pure false _)))
  refine h.closes_untraced hhead ?_ hclose rfl ⟨rfl, rfl, rfl, rfl, rfl, rfl, rfl⟩
  rw [hname]
  decide

theorem closes_optionGroup (h : At old b ((m, e) :: os)) (hname : e.name = "optgroup")
    (hhead : modeAt (placeOf os) ≠ .inHead) :
    Closes old b os (Build.endInSelect "optgroup") false := by
  have hclose : Does (do
      if (← Build.currentName) = "optgroup" then Build.pop
      return false) b false { b with stack := nodesOf os } :=
    h.does_currentName.bind (.ite_true hname (h.does_pop.bind (.pure false _)))
  have hall : Does (Build.endInSelect "optgroup") b false { b with stack := nodesOf os } := by
    refine .bind (.get b) ?_
    dsimp only
    rw [h.stack_eq]
    cases os with
    | nil => exact hclose
    | cons o os =>
      have hnot : (b.page.nameOf m = "option" && b.page.nameOf o.1 = "optgroup") = false := by
        rw [nameOf_eq h.head, hname]
        rfl
      exact .ite_false (by rw [hnot]; decide) hclose
  refine h.closes_untraced hhead ?_ hall rfl ⟨rfl, rfl, rfl, rfl, rfl, rfl, rfl⟩
  rw [hname]
  decide

theorem closes_noscript (h : At old b ((m, e) :: os)) (hname : e.name = "noscript")
    (hmode : modeAt (placeOf os) = .inHead) :
    Closes old b os (Build.endTagIn .inHeadNoscript "noscript") false := by
  have hclose : Does (Build.endTagIn .inHeadNoscript "noscript") b false
      { b with stack := nodesOf os, mode := .inHead } :=
    .bind (h.does_pop.bind rfl) (.pure false _)
  have hmarker : isMarker e = false :=
    isMarker_of_name (List.mem_singleton.mpr hname) (by decide)
  have hformatting : isFormatting e = false := isFormatting_eq_false (by rw [hname]; decide)
  refine ⟨_, hclose, h.ascend rfl rfl ?_ ?_ hmode.symm h.model_eq h.fostering_eq h.oldPage_eq, rfl⟩
  · rw [h.formatting_eq, formattingOf, hmarker, hformatting]
    exact List.append_nil _
  · rw [h.form_eq, formOf, isForm_eq_false (by rw [hname]; decide)]
    rfl

theorem closes_frameset {o : NodeId × Element} (h : At old b ((m, e) :: o :: os))
    (hname : e.name = "frameset") (ho : o.2.name = "frameset")
    (hmode : modeAt (placeOf (o :: os)) = .inFrameset) (hstays : b.mode = .inFrameset) :
    Closes old b (o :: os) (Build.endTagIn .inFrameset "frameset") false := by
  have hmarker : isMarker e = false := isMarker_of_name (List.mem_singleton.mpr hname) (by decide)
  have hformatting : isFormatting e = false := isFormatting_eq_false (by rw [hname]; decide)
  have hform : isNamed "form" e = false := isForm_eq_false (by rw [hname]; decide)
  have hpopped : At old { b with stack := nodesOf (o :: os) } (o :: os) := by
    refine h.ascend rfl rfl ?_ ?_ (hstays.trans hmode.symm) h.model_eq h.fostering_eq h.oldPage_eq
    · rw [h.formatting_eq, formattingOf, hmarker, hformatting]
      exact List.append_nil _
    · rw [h.form_eq, formOf, hform]
      rfl
  have hinside : (currentName (placeOf ((m, e) :: o :: os)) != "html") = true := by
    rw [show currentName (placeOf ((m, e) :: o :: os)) = e.name from rfl, hname]
    decide
  have houtside : ¬ (currentName (placeOf (o :: os)) != "frameset") = true := by
    rw [show currentName (placeOf (o :: os)) = o.2.name from rfl, ho]
    decide
  have hend : Build.endTagIn .inFrameset "frameset" = do
      if (← Build.currentName) != "html" then Build.pop
      if (← Build.currentName) != "frameset" then Build.setMode .afterFrameset
      return false := rfl
  rw [hend]
  exact ⟨_, h.does_currentName.bind (.ite_true hinside (h.does_pop.bind
    (hpopped.does_currentName.bind (.ite_false houtside (.pure false _))))), hpopped, rfl⟩

theorem closes_foreign (h : At old b ((m, e) :: os)) (hd : e.dialect ≠ .html) (t : Tag)
    (hname : t.name = lowerString e.name) : Closes old b os (Build.endTagForeign t) false := by
  have htarget : Build.foreignTarget? b.page t.name b.stack = some m := by
    rw [h.stack_eq, nodesOf, List.map_cons]
    simp [Build.foreignTarget?, nameOf_eq h.head, hname]
  have hmode : b.mode ≠ .inTableText := by
    have hmem := modeAt_mem (placeOf ((m, e) :: os))
    rw [← h.mode_eq] at hmem
    intro heq
    rw [heq] at hmem
    exact absurd hmem (by decide)
  refine ⟨{ b with stack := nodesOf os }, ?_, h.ascend_plain ?_ ?_ ?_ ?_ rfl
    ⟨rfl, rfl, rfl, rfl, rfl, rfl, rfl⟩, rfl⟩
  · unfold Build.endTagForeign
    refine .bind (.get b) ?_
    rw [htarget]
    exact .ite_false hmode (h.does_popNode.bind (.pure false _))
  · simp [isMarker, hd]
  · simp [isFormatting, hd]
  · simp [isNamed, hd]
  · simp only [modeAt, if_neg hd]

/-! All places -/

theorem endTagIn_body {mode : Mode} {name : String} (hmode : mode ∈ bodyModes)
    (hk : bodyTag name ∈ closable) : Build.endTagIn mode name = Build.endInBody name := by
  have hne : ∀ other, bodyTag other ∉ closable → name ≠ other :=
    fun other hother heq => hother (heq ▸ hk)
  have hnone : ∀ names : List String, (∀ other ∈ names, bodyTag other ∉ closable) →
      ¬ names.contains name = true :=
    fun names hnames hmem => hne _ (hnames _ (List.contains_iff_mem.mp hmem)) rfl
  simp only [bodyModes, List.mem_cons, List.not_mem_nil, or_false] at hmode
  rcases hmode with rfl | rfl | rfl
  · rfl
  · show Build.endInCaption name = Build.endInBody name
    unfold Build.endInCaption
    rw [if_neg (hne _ (by decide)), if_neg (hne _ (by decide)), if_neg (hnone _ (by decide))]
  · show Build.endInCell name = Build.endInBody name
    have hcell : ¬ (decide (name = "td") || decide (name = "th")) = true := by
      simp [hne "td" (by decide), hne "th" (by decide)]
    unfold Build.endInCell
    rw [if_neg hcell, if_neg (hnone _ (by decide)), if_neg (hnone _ (by decide))]

theorem endTagIn_select {mode : Mode} {name : String} (hmode : mode ∈ [.inSelect, .inSelectInTable])
    (hname : name ∈ ["option", "optgroup", "select"]) :
    Build.endTagIn mode name = Build.endInSelect name := by
  have hall : ∀ name ∈ ["option", "optgroup", "select"],
      Build.selectBreakers.contains name = false := by decide
  simp only [List.mem_cons, List.not_mem_nil, or_false] at hmode
  rcases hmode with rfl | rfl
  · rfl
  · show Build.endInSelectInTable name = Build.endInSelect name
    unfold Build.endInSelectInTable
    rw [hall _ hname, if_neg Bool.false_ne_true]

theorem ends_body (h : At old b ((m, e) :: os)) (hd : e.dialect = .html)
    (hregular : isRegular (placeOf os) = true) (hbody : modeAt (placeOf os) ∈ bodyModes)
    (hk : bodyTag e.name ∈ .textarea :: holding)
    (hform : isNamed "form" e = true → formOf os = none) :
    Closes old b os (Build.endTagIn b.mode e.name) false := by
  have hhead : modeAt (placeOf os) ≠ .inHead := by
    intro heq
    rw [heq] at hbody
    exact absurd hbody (by decide)
  by_cases htable : e.name = "table"
  · have hmode : b.mode = .inTable := by
      rw [h.mode_eq, placeOf, List.map_cons]
      simp only [modeAt, hd, htable, if_true]
    rw [hmode, htable]
    exact (h.closes_table hd htable hregular hbody).andThen
  by_cases hselect : e.name = "select"
  · have hmode : b.mode ∈ [.inSelect, .inSelectInTable] := by
      rw [h.mode_eq, placeOf, List.map_cons]
      simp only [modeAt, hd, hselect, if_true]
      split <;> decide
    rw [hselect, endTagIn_select hmode (by decide)]
    exact (h.closes_select hd hselect hregular hbody).andThen
  -- tables and selections have modes of their own; what is left is closed in the body
  have hclosable : bodyTag e.name ∈ closable := by
    have hall : ∀ k ∈ BodyTag.textarea :: holding, k ∈ closable ∨ namesOf k = ["table"] ∨
        namesOf k = ["select"] := by decide
    rcases hall _ hk with hk | hk | hk
    · exact hk
    · exact absurd (eq_of_bodyTag rfl hk) htable
    · exact absurd (eq_of_bodyTag rfl hk) hselect
  have hmode : b.mode = modeAt (placeOf os) := by
    have hstays : ∀ k ∈ closable, k ∉ [BodyTag.table, .select, .frameset, .misplaced] := by decide
    rw [h.mode_eq]
    exact modeAt_cons hhead (hstays _ hclosable)
  rw [hmode, endTagIn_body hbody hclosable]
  exact h.closes_endInBody hd hhead hclosable hform

theorem formOf_of_admits {k : BodyTag} (hadmits : admitsTag old (placeOf os) e.name k = true)
    (hk : bodyTag e.name = k) (hform : isNamed "form" e = true) : formOf os = none := by
  have htag : k = .form := by
    rw [← hk, bodyTag_of_isNamed hform]
    decide
  rw [htag, admitsTag, Bool.and_eq_true, Bool.not_eq_true', Bool.not_eq_true'] at hadmits
  exact formOf_eq_none hadmits.2

theorem ends_admittedBody (h : At old b ((m, e) :: os)) (hd : e.dialect = .html)
    (hregular : isRegular (placeOf os) = true) (hbody : modeAt (placeOf os) ∈ bodyModes)
    (hadmits : (match bodyTag e.name with
      | .math => isKeptRoot .math e
      | .svg => isKeptRoot .svg e
      | k => isKeptHtml e && admitsTag old (placeOf os) e.name k) = true)
    (hm : textModel? e = none ∨ e.name = "textarea") (hv : isVoid e = false) :
    Closes old b os (Build.endTagIn b.mode e.name) false := by
  have hroot : ∀ d, d ≠ .html → isKeptRoot d e = true → False := by
    intro d hne hkept
    have hopened : opened d (Foreign.adjustAttrs d (tagOf e)) = written e := of_decide_eq_true hkept
    exact hne ((congrArg Element.dialect hopened).trans hd)
  split at hadmits
  · exact (hroot _ (by decide) hadmits).elim
  · exact (hroot _ (by decide) hadmits).elim
  · rw [Bool.and_eq_true] at hadmits
    refine h.ends_body hd hregular hbody ?_ (formOf_of_admits hadmits.2 rfl)
    rcases hm with hm | harea
    · exact List.mem_cons_of_mem _ (mem_holding hd hm hv hadmits.2)
    · rw [harea]
      decide

theorem ends_select (h : At old b ((m, e) :: os))
    (hplace : modeAt (placeOf os) = .inSelect ∨ modeAt (placeOf os) = .inSelectInTable)
    (hadmits : (isKeptHtml e && (e.name = "script" ||
      (e.name = "option" && currentName (placeOf os) != "option") ||
      (e.name = "optgroup" &&
        !(["option", "optgroup"].contains (currentName (placeOf os)))))) = true)
    (hscript : e.name ∉ ["script"]) : Closes old b os (Build.endTagIn b.mode e.name) false := by
  have hhead : modeAt (placeOf os) ≠ .inHead := by
    rcases hplace with hplace | hplace <;> rw [hplace] <;> decide
  have hmode : ∀ name ∈ ["option", "optgroup"], e.name = name →
      b.mode ∈ [.inSelect, .inSelectInTable] := by
    intro name hmem heq
    have hstays : ∀ name ∈ ["option", "optgroup"], bodyTag name ∉ [.table, .select, .frameset, .misplaced] := by
      decide
    rw [h.mode_eq]
    have hsame := modeAt_cons (e := e) hhead (heq ▸ hstays _ hmem)
    rw [placeOf, List.map_cons]
    rcases hplace with hplace | hplace <;> rw [hplace] at hsame <;>
      exact (congrArg (· ∈ [Mode.inSelect, .inSelectInTable]) hsame).mpr (by decide)
  simp only [Bool.and_eq_true, Bool.or_eq_true, decide_eq_true_eq] at hadmits
  rcases hadmits.2 with (hname | hname) | hname
  · exact absurd (List.mem_singleton.mpr hname) hscript
  · have hselect := hmode _ (by decide) hname.1
    rw [hname.1, endTagIn_select hselect (by decide)]
    exact h.closes_option hname.1 hhead
  · have hselect := hmode _ (by decide) hname.1
    rw [hname.1, endTagIn_select hselect (by decide)]
    exact h.closes_optionGroup hname.1 hhead

theorem ends_inTable (h : At old b ((m, e) :: os)) (hd : e.dialect = .html)
    (hplace : modeAt (placeOf os) = .inTable)
    (hmem : e.name ∈ ["caption", "colgroup", "tbody", "tfoot", "thead"]) :
    Closes old b os (Build.endTagIn b.mode e.name) false := by
  have hmode : b.mode = modeAt (e :: placeOf os) := h.mode_eq
  simp only [modeAt, if_pos hd] at hmode
  have hsplit : ∀ name ∈ ["caption", "colgroup", "tbody", "tfoot", "thead"],
      name = "caption" ∨ name = "colgroup" ∨ name ∈ Build.rowGroups := by decide
  rcases hsplit _ hmem with hname | hname | hname
  · simp only [hname] at hmode
    rw [hmode, hname]
    exact h.closes_caption hd hname hplace
  · simp only [hname] at hmode
    rw [hmode, hname]
    exact h.closes_columnGroup hname hplace
  · have hbody : b.mode = .inTableBody := by
      simp only [Build.rowGroups, List.mem_cons, List.not_mem_nil, or_false] at hname
      rcases hname with hname | hname | hname <;> simpa only [hname] using hmode
    rw [hbody]
    exact h.closes_rowGroup hd hname hplace

theorem ends_html (h : At old b ((m, e) :: os)) (hd : e.dialect = .html)
    (hregular : isRegular (placeOf os) = true) (hadmits : admitsHtml old (placeOf os) e = true)
    (hm : textModel? e = none ∨ e.name = "textarea") (hv : isVoid e = false) :
    Closes old b os (Build.endTagIn b.mode e.name) false := by
  have hmode : b.mode = modeAt (e :: placeOf os) := h.mode_eq
  have hitem := isTableItem_eq_false hd hm hv
  unfold admitsHtml at hadmits
  simp only [modeAt, if_pos hd] at hmode
  cases hplace : modeAt (placeOf os)
  all_goals rw [hplace] at hadmits
  case inTable =>
    simp only [hitem, Bool.or_false, Bool.and_eq_true, List.contains_iff_mem] at hadmits
    exact h.ends_inTable hd hplace hadmits.2
  case inTableBody =>
    simp only [hitem, Bool.or_false, Bool.and_eq_true, decide_eq_true_eq] at hadmits
    obtain ⟨-, hname⟩ := hadmits
    simp only [hname] at hmode
    rw [hmode, hname]
    exact h.closes_row hd hname hplace
  case inRow =>
    simp only [hitem, Bool.or_false, Bool.and_eq_true, List.contains_iff_mem, List.mem_cons,
      List.not_mem_nil, or_false] at hadmits
    have hname := hadmits.2
    have hcell : b.mode = .inCell := by
      rcases hname with hname | hname <;> simpa only [hname] using hmode
    rw [hcell]
    exact h.closes_cell hd hname hplace
  case inColumnGroup =>
    simp only [Bool.and_eq_true, decide_eq_true_eq] at hadmits
    exact absurd (List.mem_singleton.mpr hadmits.2) (name_not_mem hd hm hv (by decide))
  case inSelect => exact h.ends_select (.inl hplace) hadmits (name_not_mem hd hm hv (by decide))
  case inSelectInTable =>
    exact h.ends_select (.inr hplace) hadmits (name_not_mem hd hm hv (by decide))
  case inHead =>
    simp only [Bool.and_eq_true, List.contains_iff_mem] at hadmits
    have hsplit : ∀ name ∈ ["title", "noframes", "style", "noscript", "script", "base", "basefont",
        "bgsound", "command", "link", "meta"],
        name = "noscript" ∨ name ∈ headTexts ++ headVoids := by decide
    have hname := (hsplit _ hadmits.2).resolve_right (name_not_mem hd hm hv (by decide))
    simp only [hname, hplace, if_true] at hmode
    rw [hmode, hname]
    exact h.closes_noscript hname hplace
  case inHeadNoscript =>
    simp only [Bool.and_eq_true, List.contains_iff_mem] at hadmits
    exact absurd hadmits.2 (name_not_mem hd hm hv (by decide))
  case inFrameset =>
    simp only [Bool.and_eq_true, decide_eq_true_eq, List.contains_iff_mem] at hadmits
    have hname := (List.mem_cons.mp hadmits.2).resolve_right (name_not_mem hd hm hv (by decide))
    simp only [hname] at hmode
    rw [hmode, hname]
    cases os with
    | nil => exact absurd hplace (by decide)
    | cons o os => exact h.closes_frameset hname hadmits.1.2 hplace hmode
  all_goals first
    | exact absurd hadmits Bool.false_ne_true
    | exact h.ends_admittedBody hd hregular (by rw [hplace]; decide) hadmits hm hv

end At

end ContentBinding.Markup.Nesting
