import ContentBinding.Proofs.Markup.Opening

/-! Start tags in every place: in the body, in the parts of a table, in a selection, in the head and
in foreign content. The mode that a place asks for gives the tag the rule by which the place admits
it. -/

namespace ContentBinding.Markup.Nesting

open Build (BodyTag Does bodyTag)

variable {old : Bool} {b b' : Builder} {os : Opened} {n : NodeId} {c e : Element} {t : Tag}
  {place : Place} {d : Dialect}

/-! The tag of an element -/

theorem opened_of_isKeptHtml (h : isKeptHtml e = true) :
    opened .html (tagOf e) = written e ∧ (tagOf e).name = e.name ∧ e.dialect = .html := by
  have heq : opened .html (tagOf e) = written e := of_decide_eq_true h
  exact ⟨heq, congrArg Element.name heq, (congrArg Element.dialect heq).symm⟩

theorem startTagIn_body {m : Mode} (hm : m ∈ [.inBody, .inCaption, .inCell])
    (hk : bodyTag t.name ∉ [.root, .misplaced]) :
    Build.startTagIn m t = Build.startInBody t := by
  have hnot : ∀ name, bodyTag name ∈ [.root, .misplaced] → t.name ≠ name :=
    fun name hname heq => hk (heq ▸ hname)
  simp only [List.mem_cons, List.not_mem_nil, or_false] at hm
  rcases hm with rfl | rfl | rfl
  · rfl
  · show Build.startInCaption t = Build.startInBody t
    unfold Build.startInCaption
    split
    all_goals first
      | next hname => exact absurd hname (hnot _ (by decide))
      | rfl
  · show Build.startInCell t = Build.startInBody t
    unfold Build.startInCell
    split
    all_goals first
      | next hname => exact absurd hname (hnot _ (by decide))
      | rfl

namespace At

/-! Foreign content -/

theorem descend_foreign (h : At old b ((n, c) :: os)) (hd : e.dialect ≠ .html) :
    At old (pushed b n e) ((b.page.size, e) :: (n, c) :: os) := by
  refine h.descend_plain ?_ ?_ ?_ ?_ rfl ⟨rfl, rfl, rfl, rfl, rfl, rfl, rfl⟩
  · simp [isMarker, hd]
  · simp [isFormatting, hd]
  · simp [isNamed, hd]
  · simp only [modeAt, if_neg hd]

theorem opens_startForeign (h : At old b ((n, c) :: os)) (hd : d ≠ .html)
    (hclosing : t.selfClosing = false) :
    Opens old b n ((n, c) :: os) (opened d (Foreign.adjustAttrs d t)) (Build.startForeign d t) () := by
  refine ⟨_, ?_, h.descend_foreign hd, rfl⟩
  refine h.does_reopenFormatting.bind ((h.does_insertElement _ d).bind (.ite_false ?_ (.pure _ _)))
  exact Bool.eq_false_iff.mp hclosing

theorem opens_startTagForeign (h : At old b ((n, c) :: os)) (hd : c.dialect ≠ .html)
    (hbreaks : Foreign.breaksOut t = false) (hclosing : t.selfClosing = false) :
    Opens old b n ((n, c) :: os) (opened c.dialect (Foreign.adjustTag c.dialect t))
      (Build.startTagForeign c t) false := by
  refine ⟨_, ?_, h.descend_foreign hd, rfl⟩
  refine .ite_false (Bool.eq_false_iff.mp hbreaks) ((h.does_insertElement _ _).bind ?_)
  exact .ite_false (Bool.eq_false_iff.mp hclosing) (.pure _ _)

/-! Tables -/

theorem does_popToOneOf (h : At old b ((n, c) :: os)) {names : List String}
    (hname : names.contains c.name = true) : Does (Build.popToOneOf names) b () b := by
  have hrun : Does (Build.popToOneOf names) b () { b with
      stack := b.stack.dropWhile fun n => !names.contains (b.page.nameOf n) } := rfl
  have hstack : (b.stack.dropWhile fun n => !names.contains (b.page.nameOf n)) = b.stack := by
    rw [h.stack_eq, nodesOf, List.map_cons, List.dropWhile_cons_of_neg]
    rw [nameOf_eq h.head, hname]
    exact Bool.false_ne_true
  rwa [hstack] at hrun

def tableNames : List String :=
  ["caption", "colgroup", "tbody", "tfoot", "thead", "tr", "td", "th"]

theorem descend_part (h : At old b ((n, c) :: os)) (hname : e.name ∈ tableNames)
    (hpage : b'.page = b.page.addChild n (.element e))
    (hagrees : Agrees { pushed b n e with
      formatting := b.formatting ++ if isMarker e then [none] else []
      mode := modeAt (e :: placeOf ((n, c) :: os)) } b') :
    At old b' ((b.page.size, e) :: (n, c) :: os) := by
  have hall : ∀ name ∈ tableNames, bodyTag name = .misplaced := by decide
  have htag := hall _ hname
  exact h.descend_unlisted (isFormatting_eq_false (by rw [htag]; decide))
    (isForm_eq_false (by rw [htag]; decide)) hpage hagrees

theorem opens_startInTable (h : At old b ((n, c) :: os)) (hc : c.name = "table")
    (hname : t.name ∈ ["caption", "colgroup", "tbody", "tfoot", "thead"]) :
    Opens old b n ((n, c) :: os) (opened .html t) (Build.startInTable t) false := by
  have htop : Does Build.toTable b () b := h.does_popToOneOf (by rw [hc]; decide)
  have hopen : ∀ m, Does (Build.openInTable t m) b () { pushed b n (opened .html t) with
      mode := m } := fun m => htop.bind ((h.does_insertElement t .html).bind rfl)
  have hmarked : Does (Build.insertElement t) { b with formatting := b.formatting ++ [none] } ()
      { pushed b n (opened .html t) with formatting := b.formatting ++ [none] } :=
    (Build.does_insertNode (b := { b with formatting := b.formatting ++ [none] })
      h.fostering_eq h.headD _).discard
  have hpart : t.name ∈ tableNames := List.mem_append_left ["tr", "td", "th"] hname
  obtain ⟨name, attrs, closing⟩ := t
  simp only [List.mem_cons, List.not_mem_nil, or_false] at hname
  rcases hname with rfl | rfl | rfl | rfl | rfl
  · refine ⟨_, htop.bind (.bind rfl (hmarked.bind (.bind rfl (.pure false _)))),
      h.descend_part hpart rfl ?_, rfl⟩
    exact ⟨rfl, rfl, rfl, rfl, rfl, rfl, rfl⟩
  all_goals
    refine ⟨_, (hopen _).bind (.pure false _), h.descend_part hpart rfl ?_, rfl⟩
    exact ⟨rfl, (List.append_nil _).symm, rfl, rfl, rfl, rfl, rfl⟩

theorem opens_startInTableBody (h : At old b ((n, c) :: os))
    (hc : Build.rowGroups.contains c.name = true) (hname : t.name = "tr") :
    Opens old b n ((n, c) :: os) (opened .html t) (Build.startInTableBody t) false := by
  have htop : Does Build.toRowGroup b () b := by
    have hall : ∀ name ∈ Build.rowGroups,
        ["tbody", "tfoot", "thead", "html"].contains name = true := by decide
    exact h.does_popToOneOf (hall _ (List.contains_iff_mem.mp hc))
  obtain ⟨name, attrs, closing⟩ := t
  obtain rfl : name = "tr" := hname
  have hopen : Does (Build.openRow ⟨"tr", attrs, closing⟩) b ()
      { pushed b n (opened .html ⟨"tr", attrs, closing⟩) with mode := .inRow } :=
    htop.bind ((h.does_insertElement _ .html).bind rfl)
  have hpart : "tr" ∈ tableNames := by decide
  refine ⟨_, hopen.bind (.pure false _), h.descend_part hpart rfl ?_, rfl⟩
  exact ⟨rfl, (List.append_nil _).symm, rfl, rfl, rfl, rfl, rfl⟩

theorem opens_startInRow (h : At old b ((n, c) :: os)) (hc : c.name = "tr")
    (hname : t.name ∈ ["td", "th"]) :
    Opens old b n ((n, c) :: os) (opened .html t) (Build.startInRow t) false := by
  have htop : Does Build.toRow b () b := h.does_popToOneOf (by rw [hc]; decide)
  have hopen : Does (do
      Build.toRow
      Build.insertElement t
      Build.setMode .inCell
      Build.pushMarker
      return false) b false { pushed b n (opened .html t) with
        mode := .inCell, formatting := b.formatting ++ [none] } :=
    htop.bind ((h.does_insertElement t .html).bind (.bind rfl (.bind rfl (.pure false _))))
  have hpart : t.name ∈ tableNames := by
    have hall : ∀ name ∈ ["td", "th"], name ∈ tableNames := by decide
    exact hall _ hname
  obtain ⟨name, attrs, closing⟩ := t
  simp only [List.mem_cons, List.not_mem_nil, or_false] at hname
  rcases hname with rfl | rfl
  all_goals
    refine ⟨_, hopen, h.descend_part hpart rfl ?_, rfl⟩
    exact ⟨rfl, rfl, rfl, rfl, rfl, rfl, rfl⟩

theorem adds_startInColumnGroup (h : At old b ((n, c) :: os)) (hname : t.name = "col") :
    Adds old b n ((n, c) :: os) (opened .html t) (Build.startInColumnGroup t) false := by
  have hinsert := h.does_insertEmpty t
  obtain ⟨name, attrs, closing⟩ := t
  obtain rfl : name = "col" := hname
  exact h.adds_of_does (hinsert.bind (.pure false _)) rfl ⟨rfl, rfl, rfl, rfl, rfl, rfl, rfl⟩

/-! Selections and the head -/

theorem opens_startInSelect (h : At old b ((n, c) :: os))
    (hhead : modeAt (placeOf ((n, c) :: os)) ≠ .inHead)
    (hname : (t.name = "option" ∧ c.name ≠ "option") ∨
      (t.name = "optgroup" ∧ c.name ∉ ["option", "optgroup"])) :
    Opens old b n ((n, c) :: os) (opened .html t) (Build.startInSelect t) false := by
  have hagrees : Agrees (pushed b n (opened .html t)) (pushed b n (opened .html t)) :=
    ⟨rfl, rfl, rfl, rfl, rfl, rfl, rfl⟩
  have hinsert := h.does_insertElement t .html
  have hcurrent := h.does_currentName
  have huntraced : bodyTag t.name ∉ traced := by
    rcases hname with hname | hname <;> rw [hname.1] <;> decide
  have hopens : ∀ {x : Build Bool}, Does x b false (pushed b n (opened .html t)) →
      Opens old b n ((n, c) :: os) (opened .html t) x false :=
    fun hdoes => h.opens_untraced hhead huntraced hdoes rfl hagrees
  obtain ⟨name, attrs, closing⟩ := t
  rcases hname with ⟨rfl, hc⟩ | ⟨rfl, hc⟩
  · exact hopens (hcurrent.bind (.ite_false hc (hinsert.bind (.pure false _))))
  · rw [List.mem_cons, List.mem_singleton, not_or] at hc
    exact hopens (hcurrent.bind (.ite_false hc.1
      (hcurrent.bind (.ite_false hc.2 (hinsert.bind (.pure false _))))))

theorem startTagIn_select {m : Mode} (hm : m ∈ [.inSelect, .inSelectInTable])
    (hname : t.name ∈ ["option", "optgroup", "script"]) :
    Build.startTagIn m t = Build.startInSelect t := by
  have hall : ∀ name ∈ ["option", "optgroup", "script"],
      Build.selectBreakers.contains name = false := by decide
  simp only [List.mem_cons, List.not_mem_nil, or_false] at hm
  rcases hm with rfl | rfl
  · rfl
  · show Build.startInSelectInTable t = Build.startInSelect t
    unfold Build.startInSelectInTable
    rw [hall _ hname]
    rfl

theorem opens_noscript (h : At old b ((n, c) :: os))
    (hmode : modeAt (placeOf ((n, c) :: os)) = .inHead) (hname : t.name = "noscript") :
    Opens old b n ((n, c) :: os) (opened .html t) (Build.startInHead t) false := by
  have hinsert := h.does_insertElement t .html
  obtain ⟨name, attrs, closing⟩ := t
  obtain rfl : name = "noscript" := hname
  refine ⟨_, hinsert.bind (.bind rfl (.pure false _)), h.descend_unlisted rfl rfl rfl ?_, rfl⟩
  refine ⟨rfl, (List.append_nil _).symm, rfl, ?_, rfl, rfl, rfl⟩
  exact (if_pos hmode).symm

theorem startTagIn_head {m : Mode} (hm : m ∈ [.inHead, .inHeadNoscript])
    (hname : m = .inHeadNoscript →
      t.name ∈ ["basefont", "bgsound", "link", "meta", "noframes", "style"]) :
    Build.startTagIn m t = Build.startInHead t := by
  simp only [List.mem_cons, List.not_mem_nil, or_false] at hm
  rcases hm with rfl | rfl
  · rfl
  · have hmem := hname rfl
    obtain ⟨name, attrs, closing⟩ := t
    simp only [List.mem_cons, List.not_mem_nil, or_false] at hmem
    rcases hmem with rfl | rfl | rfl | rfl | rfl | rfl <;> rfl

end At

/-! All places -/

def OpensArea {α : Type} (old : Bool) (b : Builder) (n : NodeId) (os : Opened) (e : Element)
    (x : Build α) (a : α) : Prop :=
  ∃ b', Does x b a b' ∧ At old { b' with model := .data } ((b.page.size, e) :: os) ∧
    b'.page = b.page.addChild n (.element e) ∧ b'.model = .references e.name

def Starts (old : Bool) (b : Builder) (n : NodeId) (os : Opened) (e : Element) (x : Build Bool) :
    Prop :=
  match textModel? e with
  | some m =>
    if e.name = "textarea" then OpensArea old b n os (written e) x false
    else OpensText b n (written e) m x false
  | none =>
    if isVoid e then Adds old b n os (written e) x false
    else Opens old b n os (written e) x false

section

variable {x : Build Bool} {m : ContentModel}

theorem Starts.opens (hm : textModel? e = none) (hv : isVoid e = false)
    (h : Opens old b n os (written e) x false) : Starts old b n os e x := by
  unfold Starts
  rwa [hm, hv]

theorem Starts.adds (hm : textModel? e = none) (hv : isVoid e = true)
    (h : Adds old b n os (written e) x false) : Starts old b n os e x := by
  unfold Starts
  rwa [hm, hv]

theorem Starts.opensText (hm : textModel? e = some m) (harea : e.name ≠ "textarea")
    (h : OpensText b n (written e) m x false) : Starts old b n os e x := by
  unfold Starts
  rw [hm]
  exact (if_neg harea).mpr h

theorem Starts.opensArea (hm : textModel? e = some m) (harea : e.name = "textarea")
    (h : OpensArea old b n os (written e) x false) : Starts old b n os e x := by
  unfold Starts
  rw [hm]
  exact (if_pos harea).mpr h

end

theorem textModel?_eq (h : e.dialect = .html) : textModel? e = textModel? { name := e.name } := by
  unfold textModel?
  rw [h]

theorem void_cases (h : isVoid e = true) (hpart : e.name ∉ ["col", "frame"]) :
    e.name ∈ headVoids ∨ bodyTag e.name ∈ [.void, .hollow, .input, .rule] := by
  simp only [isVoid, Bool.and_eq_true, Bool.or_eq_true, decide_eq_true_eq,
    List.contains_iff_mem] at h
  exact h.2.imp_left fun hleft => hleft.resolve_left hpart

theorem isVoid_eq (h : e.dialect = .html) : isVoid e = isVoid { name := e.name } := by
  unfold isVoid
  rw [h]

theorem mem_holding (hdialect : e.dialect = .html) (hm : textModel? e = none)
    (hv : isVoid e = false) (hadmits : admitsTag old place e.name (bodyTag e.name) = true) :
    bodyTag e.name ∈ At.holding := by
  have hleft : ∀ k ∈ [BodyTag.headPart, .xmp, .textarea, .iframe, .raw], bodyTag e.name ≠ k := by
    intro k hk heq
    have hall : ∀ k ∈ [BodyTag.headPart, .xmp, .textarea, .iframe, .raw], namesOf k ≠ [] ∧
        ∀ name ∈ namesOf k,
          headVoids.contains name = true ∨ textModel? { name := name } ≠ none := by decide
    obtain ⟨hne, hnames⟩ := hall k hk
    rcases hnames _ (mem_namesOf heq hne) with hvoid | htext
    · simp [isVoid, hdialect, List.contains_iff_mem.mp hvoid] at hv
    · exact htext (textModel?_eq hdialect ▸ hm)
  have hvoid : bodyTag e.name ∉ [.void, .hollow, .input, .rule] := by
    intro hmem
    simp [isVoid, hdialect] at hv
    simp only [List.mem_cons, List.not_mem_nil, or_false] at hmem
    tauto
  cases hk : bodyTag e.name
  all_goals rw [hk] at hleft hvoid hadmits
  all_goals first
    | decide
    | exact absurd hadmits Bool.false_ne_true
    | exact absurd (by decide) hvoid
    | exact absurd rfl (hleft _ (by decide))

namespace At

variable {m : ContentModel}

theorem does_startTextarea (h : At old b ((n, c) :: os)) :
    Does (Build.startTextarea t) b () { pushed b n (opened .html t) with
      model := .references t.name, dropNewline := true, framesetOk := false } :=
  (h.does_insertElement t .html).bind rfl

theorem opensArea_startInBody (h : At old b ((n, c) :: os))
    (hhead : modeAt (placeOf ((n, c) :: os)) ≠ .inHead) (hname : t.name = "textarea") :
    OpensArea old b n ((n, c) :: os) (opened .html t) (Build.startInBody t) false := by
  have htag : bodyTag t.name = .textarea := by
    rw [hname]
    decide
  unfold Build.startInBody
  rw [htag]
  refine ⟨_, h.does_startTextarea.bind (.pure false _), ?_, rfl, rfl⟩
  refine h.descend_untraced hhead ?_ rfl ⟨rfl, rfl, rfl, rfl, h.model_eq.symm, rfl, rfl⟩
  exact (htag ▸ by decide : bodyTag t.name ∉ traced)

theorem starts_body (h : At old b ((n, c) :: os))
    (hmode : modeAt (placeOf ((n, c) :: os)) ∈ [.inBody, .inCaption, .inCell])
    (hkept : isKeptHtml e = true)
    (hadmits : admitsTag old (placeOf ((n, c) :: os)) e.name (bodyTag e.name) = true) :
    Starts old b n ((n, c) :: os) e (Build.startTagIn b.mode (tagOf e)) := by
  obtain ⟨hopened, hname, hdialect⟩ := opened_of_isKeptHtml hkept
  have hhead : modeAt (placeOf ((n, c) :: os)) ≠ .inHead := by
    intro heq
    rw [heq] at hmode
    exact absurd hmode (by decide)
  have hplaced : bodyTag (tagOf e).name ∉ [.root, .misplaced] := by
    intro hmem
    rw [hname] at hmem
    simp only [List.mem_cons, List.not_mem_nil, or_false] at hmem
    rcases hmem with hk | hk <;> rw [hk] at hadmits <;> exact absurd hadmits Bool.false_ne_true
  have hadmits' : admitsTag old (placeOf ((n, c) :: os)) (tagOf e).name
      (bodyTag (tagOf e).name) = true := by rwa [hname]
  have hmodel : textModel? (opened .html (tagOf e)) = textModel? e := by
    rw [hopened]
    rfl
  rw [h.mode_eq, startTagIn_body hmode hplaced]
  cases hm : textModel? e with
  | some m =>
    by_cases harea : e.name = "textarea"
    · exact .opensArea hm harea
        (hopened ▸ h.opensArea_startInBody hhead (hname.trans harea))
    · exact .opensText hm harea (hopened ▸ h.opensText_startInBody hadmits' (hmodel.trans hm)
        fun heq => harea (hname.symm.trans heq))
  | none =>
    cases hv : isVoid e with
    | true =>
      refine .adds hm hv (hopened ▸ h.adds_startInBody hadmits' ?_)
      rw [hname]
      have hparts : ∀ name ∈ ["col", "frame"], bodyTag name ∈ [.root, .misplaced] := by decide
      exact void_cases hv fun hpart => hplaced (hname ▸ hparts _ hpart)
    | false =>
      refine .opens hm hv (hopened ▸ h.opens_startInBody hhead hadmits' ?_)
      rw [hname]
      exact mem_holding hdialect hm hv hadmits

def partNames : List String :=
  tableNames ++ ["option", "optgroup", "noscript", "frameset"]

theorem starts_part {x : Build Bool} (hkept : isKeptHtml e = true) (hname : e.name ∈ partNames)
    (hopens : Opens old b n os (opened .html (tagOf e)) x false) : Starts old b n os e x := by
  obtain ⟨hopened, -, hdialect⟩ := opened_of_isKeptHtml hkept
  have hall : ∀ name ∈ partNames,
      textModel? { name := name } = none ∧ isVoid { name := name } = false := by decide
  obtain ⟨hm, hv⟩ := hall _ hname
  exact .opens (textModel?_eq hdialect ▸ hm) (isVoid_eq hdialect ▸ hv) (hopened ▸ hopens)

def headTexts : List String :=
  ["title", "noframes", "style", "script"]

theorem starts_headText {x : Build Bool} (h : At old b ((n, c) :: os)) (hkept : isKeptHtml e = true)
    (hname : e.name ∈ headTexts)
    (hx : x = Build.startInHead (tagOf e) ∨
      x = do discard <| Build.startInHead (tagOf e); return false) :
    Starts old b n ((n, c) :: os) e x := by
  obtain ⟨hopened, htag, hdialect⟩ := opened_of_isKeptHtml hkept
  have hall : ∀ name ∈ headTexts, (textModel? { name := name }).isSome ∧ name ≠ "textarea" := by
    decide
  obtain ⟨hsome, harea⟩ := hall _ hname
  obtain ⟨m, hm⟩ := Option.isSome_iff_exists.mp hsome
  rw [← textModel?_eq hdialect] at hm
  have hmodel : textModel? (opened .html (tagOf e)) = some m := by
    rw [hopened]
    exact hm
  obtain ⟨b', hdoes, hrest⟩ := h.opensText_startInHead hmodel (htag ▸ hname)
  refine .opensText hm harea ⟨b', ?_, hopened ▸ hrest⟩
  rcases hx with rfl | rfl
  · exact hdoes
  · exact hdoes.discard.bind (.pure false b')

theorem startTagIn_table {m : Mode} (hm : m ∈ [.inTable, .inTableBody, .inRow])
    (hname : t.name ∈ ["style", "script"]) :
    Build.startTagIn m t = do discard <| Build.startInHead t; return false := by
  obtain ⟨name, attrs, closing⟩ := t
  simp only [List.mem_cons, List.not_mem_nil, or_false] at hm hname
  rcases hm with rfl | rfl | rfl <;> rcases hname with rfl | rfl <;> rfl

theorem starts_tableText (h : At old b ((n, c) :: os)) (hkept : isKeptHtml e = true)
    (hmode : b.mode ∈ [.inTable, .inTableBody, .inRow]) (hname : e.name ∈ ["style", "script"]) :
    Starts old b n ((n, c) :: os) e (Build.startTagIn b.mode (tagOf e)) := by
  obtain ⟨-, htag, -⟩ := opened_of_isKeptHtml hkept
  exact h.starts_headText hkept (List.mem_append_right ["title", "noframes"] hname)
    (.inr (startTagIn_table hmode (htag ▸ hname)))

theorem startTagIn_hidden {m : Mode} (hm : m ∈ [.inTable, .inTableBody, .inRow])
    (hname : t.name = "input") (hhidden : Build.isHidden t = true) :
    Build.startTagIn m t = do Build.insertEmpty t; return false := by
  have htable : Build.startInTable t = do
      if Build.isHidden t then Build.insertEmpty t
      else Build.fostered (discard <| Build.startInBody t)
      return false := by
    obtain ⟨name, attrs, closing⟩ := t
    obtain rfl : name = "input" := hname
    rfl
  rw [hhidden, if_pos rfl] at htable
  rw [← htable]
  obtain ⟨name, attrs, closing⟩ := t
  obtain rfl : name = "input" := hname
  simp only [List.mem_cons, List.not_mem_nil, or_false] at hm
  rcases hm with rfl | rfl | rfl <;> rfl

theorem starts_tableItem (h : At old b ((n, c) :: os)) (hkept : isKeptHtml e = true)
    (hmode : b.mode ∈ [.inTable, .inTableBody, .inRow]) (hitem : isTableItem e = true) :
    Starts old b n ((n, c) :: os) e (Build.startTagIn b.mode (tagOf e)) := by
  rw [isTableItem, Bool.or_eq_true, Bool.and_eq_true, decide_eq_true_eq,
    List.contains_iff_mem] at hitem
  rcases hitem with htext | ⟨hname, hhidden⟩
  · exact h.starts_tableText hkept hmode htext
  · obtain ⟨hopened, htag, hdialect⟩ := opened_of_isKeptHtml hkept
    rw [startTagIn_hidden hmode (htag.trans hname) hhidden]
    refine .adds ?_ ?_ (hopened ▸ h.adds_of_does ((h.does_insertEmpty _).bind (.pure false _)) rfl
      ⟨rfl, rfl, rfl, rfl, rfl, rfl, rfl⟩)
    · rw [textModel?_eq hdialect, hname]
      decide
    · rw [isVoid_eq hdialect, hname]
      decide

theorem starts_foreignRoot (h : At old b ((n, c) :: os))
    (hmode : modeAt (placeOf ((n, c) :: os)) ∈ [.inBody, .inCaption, .inCell]) (hd : d ≠ .html)
    (hkept : isKeptRoot d e = true)
    (htag : ∀ t : Tag, t.name = e.name → bodyTag t.name ∉ [.root, .misplaced] ∧
      Build.startInBody t = do Build.startForeign d t; return false) :
    Starts old b n ((n, c) :: os) e (Build.startTagIn b.mode (tagOf e)) := by
  have hopened : opened d (Foreign.adjustAttrs d (tagOf e)) = written e := of_decide_eq_true hkept
  have hdialect : e.dialect ≠ .html := fun heq => hd ((congrArg Element.dialect hopened).trans heq)
  have hname : (tagOf e).name = e.name := by
    have hadjust : (Foreign.adjustAttrs d (tagOf e)).name = (tagOf e).name := by cases d <;> rfl
    exact hadjust.symm.trans (congrArg Element.name hopened)
  obtain ⟨hplaced, hstart⟩ := htag (tagOf e) hname
  rw [h.mode_eq, startTagIn_body hmode hplaced, hstart]
  refine .opens ?_ ?_ (hopened ▸ h.opens_startForeign hd rfl).andThen
  · simp [textModel?, hdialect]
  · simp [isVoid, hdialect]

theorem starts_inTable (h : At old b ((n, c) :: os)) (hmode : b.mode = .inTable)
    (hadmits : (isKeptHtml e && currentName (placeOf ((n, c) :: os)) = "table" &&
      (["caption", "colgroup", "tbody", "tfoot", "thead"].contains e.name || isTableItem e)) =
        true) :
    Starts old b n ((n, c) :: os) e (Build.startTagIn b.mode (tagOf e)) := by
  simp only [Bool.and_eq_true, Bool.or_eq_true, decide_eq_true_eq, List.contains_iff_mem] at hadmits
  obtain ⟨⟨hkept, hc⟩, hpart | hitem⟩ := hadmits
  · rw [hmode]
    refine starts_part hkept ?_ (h.opens_startInTable hc ?_)
    · exact List.mem_append_left ["tr", "td", "th", "option", "optgroup", "noscript", "frameset"] hpart
    · exact (opened_of_isKeptHtml hkept).2.1 ▸ hpart
  · exact h.starts_tableItem hkept (by rw [hmode]; decide) hitem

theorem starts_inColumnGroup (h : At old b ((n, c) :: os)) (hmode : b.mode = .inColumnGroup)
    (hadmits : (isKeptHtml e && currentName (placeOf ((n, c) :: os)) = "colgroup" &&
      e.name = "col") = true) :
    Starts old b n ((n, c) :: os) e (Build.startTagIn b.mode (tagOf e)) := by
  simp only [Bool.and_eq_true, decide_eq_true_eq] at hadmits
  obtain ⟨⟨hkept, -⟩, hname⟩ := hadmits
  obtain ⟨hopened, htag, hdialect⟩ := opened_of_isKeptHtml hkept
  rw [hmode]
  refine .adds ?_ ?_ (hopened ▸ h.adds_startInColumnGroup (htag.trans hname))
  · rw [textModel?_eq hdialect, hname]
    decide
  · rw [isVoid_eq hdialect, hname]
    decide

theorem starts_inTableBody (h : At old b ((n, c) :: os)) (hmode : b.mode = .inTableBody)
    (hadmits : (isKeptHtml e && Build.rowGroups.contains (currentName (placeOf ((n, c) :: os))) &&
      (e.name = "tr" || isTableItem e)) = true) :
    Starts old b n ((n, c) :: os) e (Build.startTagIn b.mode (tagOf e)) := by
  simp only [Bool.and_eq_true, Bool.or_eq_true, decide_eq_true_eq] at hadmits
  obtain ⟨⟨hkept, hc⟩, hrow | hitem⟩ := hadmits
  · rw [hmode]
    refine starts_part hkept (by rw [hrow]; decide) (h.opens_startInTableBody hc ?_)
    exact (opened_of_isKeptHtml hkept).2.1.trans hrow
  · exact h.starts_tableItem hkept (by rw [hmode]; decide) hitem

theorem starts_inRow (h : At old b ((n, c) :: os)) (hmode : b.mode = .inRow)
    (hadmits : (isKeptHtml e && currentName (placeOf ((n, c) :: os)) = "tr" &&
      (["td", "th"].contains e.name || isTableItem e)) = true) :
    Starts old b n ((n, c) :: os) e (Build.startTagIn b.mode (tagOf e)) := by
  simp only [Bool.and_eq_true, Bool.or_eq_true, decide_eq_true_eq, List.contains_iff_mem] at hadmits
  obtain ⟨⟨hkept, hc⟩, hpart | hitem⟩ := hadmits
  · have hall : ∀ name ∈ ["td", "th"], name ∈ partNames := by decide
    rw [hmode]
    refine starts_part hkept (hall _ hpart) (h.opens_startInRow hc ?_)
    exact (opened_of_isKeptHtml hkept).2.1 ▸ hpart
  · exact h.starts_tableItem hkept (by rw [hmode]; decide) hitem

theorem startInSelect_script (hname : t.name = "script") :
    Build.startInSelect t = do discard <| Build.startInHead t; return false := by
  obtain ⟨name, attrs, closing⟩ := t
  obtain rfl : name = "script" := hname
  rfl

theorem starts_inSelect (h : At old b ((n, c) :: os))
    (hmode : b.mode ∈ [.inSelect, .inSelectInTable])
    (hhead : modeAt (placeOf ((n, c) :: os)) ≠ .inHead)
    (hadmits : (isKeptHtml e && (e.name = "script" ||
      (e.name = "option" && currentName (placeOf ((n, c) :: os)) != "option") ||
      (e.name = "optgroup" &&
        !(["option", "optgroup"].contains (currentName (placeOf ((n, c) :: os))))))) = true) :
    Starts old b n ((n, c) :: os) e (Build.startTagIn b.mode (tagOf e)) := by
  simp only [Bool.and_eq_true, Bool.or_eq_true, decide_eq_true_eq, bne_iff_ne,
    Bool.not_eq_true', ← Bool.not_eq_true, List.contains_iff_mem] at hadmits
  obtain ⟨hkept, hname⟩ := hadmits
  obtain ⟨-, htag, -⟩ := opened_of_isKeptHtml hkept
  have hselect : e.name ∈ ["option", "optgroup", "script"] := by
    rcases hname with (hname | hname) | hname
    · rw [hname]
      decide
    · rw [hname.1]
      decide
    · rw [hname.1]
      decide
  rw [startTagIn_select hmode (htag ▸ hselect)]
  rcases or_assoc.mp hname with hscript | hpart
  · exact h.starts_headText hkept (by rw [hscript]; decide)
      (.inr (startInSelect_script (htag.trans hscript)))
  · refine starts_part hkept ?_ (h.opens_startInSelect hhead ?_)
    · rcases hpart with hpart | hpart <;> rw [hpart.1] <;> decide
    · rw [htag]
      exact hpart

theorem starts_headVoid (h : At old b ((n, c) :: os)) (hkept : isKeptHtml e = true)
    (hname : e.name ∈ headVoids) :
    Starts old b n ((n, c) :: os) e (Build.startInHead (tagOf e)) := by
  obtain ⟨hopened, htag, hdialect⟩ := opened_of_isKeptHtml hkept
  have hall : ∀ name ∈ headVoids,
      textModel? { name := name } = none ∧ isVoid { name := name } = true := by decide
  obtain ⟨hm, hv⟩ := hall _ hname
  refine .adds (textModel?_eq hdialect ▸ hm) (isVoid_eq hdialect ▸ hv) (hopened ▸ ?_)
  exact h.adds_of_does (h.does_startInHead_void (htag ▸ hname)) rfl
    ⟨rfl, rfl, rfl, rfl, rfl, rfl, rfl⟩

theorem starts_inHead (h : At old b ((n, c) :: os))
    (hplace : modeAt (placeOf ((n, c) :: os)) = .inHead) (hmode : b.mode = .inHead)
    (hadmits : (isKeptHtml e && ["title", "noframes", "style", "noscript", "script", "base",
      "basefont", "bgsound", "command", "link", "meta"].contains e.name) = true) :
    Starts old b n ((n, c) :: os) e (Build.startTagIn b.mode (tagOf e)) := by
  rw [Bool.and_eq_true, List.contains_iff_mem] at hadmits
  obtain ⟨hkept, hname⟩ := hadmits
  obtain ⟨-, htag, -⟩ := opened_of_isKeptHtml hkept
  have hall : ∀ name ∈ ["title", "noframes", "style", "noscript", "script", "base", "basefont",
      "bgsound", "command", "link", "meta"],
      name = "noscript" ∨ name ∈ headTexts ∨ name ∈ headVoids := by decide
  rw [startTagIn_head (by rw [hmode]; decide) fun heq => absurd (hmode.symm.trans heq) (by decide)]
  rcases hall _ hname with hnoscript | htext | hvoid
  · exact starts_part hkept (by rw [hnoscript]; decide) (h.opens_noscript hplace (htag.trans hnoscript))
  · exact h.starts_headText hkept htext (.inl rfl)
  · exact h.starts_headVoid hkept hvoid

theorem starts_inHeadNoscript (h : At old b ((n, c) :: os)) (hmode : b.mode = .inHeadNoscript)
    (hadmits : (isKeptHtml e && ["basefont", "bgsound", "link", "meta", "noframes",
      "style"].contains e.name) = true) :
    Starts old b n ((n, c) :: os) e (Build.startTagIn b.mode (tagOf e)) := by
  rw [Bool.and_eq_true, List.contains_iff_mem] at hadmits
  obtain ⟨hkept, hname⟩ := hadmits
  obtain ⟨-, htag, -⟩ := opened_of_isKeptHtml hkept
  have hall : ∀ name ∈ ["basefont", "bgsound", "link", "meta", "noframes", "style"],
      name ∈ headTexts ∨ name ∈ headVoids := by decide
  rw [startTagIn_head (by rw [hmode]; decide) fun _ => htag ▸ hname]
  rcases hall _ hname with htext | hvoid
  · exact h.starts_headText hkept htext (.inl rfl)
  · exact h.starts_headVoid hkept hvoid

/-! Frames -/

theorem opens_frameset (h : At old b ((n, c) :: os)) (hname : t.name = "frameset")
    (hmode : modeAt (placeOf ((n, c) :: os)) = .inFrameset) :
    Opens old b n ((n, c) :: os) (opened .html t) (Build.startTagIn .inFrameset t) false := by
  have hinsert := h.does_insertElement t .html
  obtain ⟨name, attrs, closing⟩ := t
  obtain rfl : name = "frameset" := hname
  exact ⟨_, hinsert.bind (.pure false _), h.descend_plain rfl rfl rfl hmode.symm rfl
    ⟨rfl, rfl, rfl, rfl, rfl, rfl, rfl⟩, rfl⟩

theorem adds_frame (h : At old b ((n, c) :: os)) (hname : t.name = "frame") :
    Adds old b n ((n, c) :: os) (opened .html t) (Build.startTagIn .inFrameset t) false := by
  have hinsert := h.does_insertEmpty t
  obtain ⟨name, attrs, closing⟩ := t
  obtain rfl : name = "frame" := hname
  exact h.adds_of_does (hinsert.bind (.pure false _)) rfl ⟨rfl, rfl, rfl, rfl, rfl, rfl, rfl⟩

theorem opensText_noframes (h : At old b ((n, c) :: os)) (hname : t.name = "noframes")
    (hm : textModel? (opened .html t) = some m) :
    OpensText b n (opened .html t) m (Build.startTagIn .inFrameset t) false := by
  have hbody := h.opensText_startInBody (t := t) (m := m) (by rw [hname]; rfl) hm
    (by rw [hname]; decide)
  obtain ⟨name, attrs, closing⟩ := t
  obtain rfl : name = "noframes" := hname
  obtain ⟨b', hdoes, hrest⟩ := hbody
  exact ⟨b', hdoes.discard.bind (.pure false b'), hrest⟩

theorem starts_inFrameset (h : At old b ((n, c) :: os))
    (hplace : modeAt (placeOf ((n, c) :: os)) = .inFrameset) (hmode : b.mode = .inFrameset)
    (hadmits : (isKeptHtml e && currentName (placeOf ((n, c) :: os)) = "frameset" &&
      ["frameset", "frame", "noframes"].contains e.name) = true) :
    Starts old b n ((n, c) :: os) e (Build.startTagIn b.mode (tagOf e)) := by
  simp only [Bool.and_eq_true, decide_eq_true_eq, List.contains_iff_mem, List.mem_cons,
    List.not_mem_nil, or_false] at hadmits
  obtain ⟨⟨hkept, -⟩, hname⟩ := hadmits
  obtain ⟨hopened, htag, hdialect⟩ := opened_of_isKeptHtml hkept
  rw [hmode]
  rcases hname with hname | hname | hname
  · exact starts_part hkept (by rw [hname]; decide) (h.opens_frameset (htag.trans hname) hplace)
  · refine .adds ?_ ?_ (hopened ▸ h.adds_frame (htag.trans hname))
    · rw [textModel?_eq hdialect, hname]
      decide
    · rw [isVoid_eq hdialect, hname]
      decide
  · have hm : textModel? e = some (.raw "noframes") := by
      rw [textModel?_eq hdialect, hname]
      rfl
    refine .opensText hm (by rw [hname]; decide) (hopened ▸ h.opensText_noframes
      (htag.trans hname) ?_)
    rw [hopened]
    exact hm

theorem starts_root {k : BodyTag} {d : Dialect} (h : At old b ((n, c) :: os))
    (hmem : (k, d) ∈ [(.math, .math), (.svg, .svg)])
    (hbody : modeAt (placeOf ((n, c) :: os)) ∈ [.inBody, .inCaption, .inCell])
    (hk : bodyTag e.name = k) (hkept : isKeptRoot d e = true) :
    Starts old b n ((n, c) :: os) e (Build.startTagIn b.mode (tagOf e)) := by
  simp only [List.mem_cons, Prod.mk.injEq, List.not_mem_nil, or_false] at hmem
  rcases hmem with ⟨rfl, rfl⟩ | ⟨rfl, rfl⟩
  all_goals
    refine h.starts_foreignRoot hbody (by decide) hkept fun t ht => ?_
    unfold Build.startInBody
    rw [ht, hk]
    exact ⟨by decide, rfl⟩

theorem starts_html (h : At old b ((n, c) :: os))
    (hadmits : admitsHtml old (placeOf ((n, c) :: os)) e = true) :
    Starts old b n ((n, c) :: os) e (Build.startTagIn b.mode (tagOf e)) := by
  by_cases hbody : modeAt (placeOf ((n, c) :: os)) ∈ [.inBody, .inCaption, .inCell]
  · have hmodes := hbody
    simp only [List.mem_cons, List.not_mem_nil, or_false] at hmodes
    unfold admitsHtml at hadmits
    rcases hmodes with hmode | hmode | hmode
    all_goals
      rw [hmode] at hadmits
      dsimp only at hadmits
      split at hadmits
      · next hk => exact h.starts_root (d := .math) (by decide) hbody hk hadmits
      · next hk => exact h.starts_root (d := .svg) (by decide) hbody hk hadmits
      · rw [Bool.and_eq_true] at hadmits
        exact h.starts_body hbody hadmits.1 hadmits.2
  · have hmode := h.mode_eq
    unfold admitsHtml at hadmits
    cases hm : modeAt (placeOf ((n, c) :: os))
    all_goals rw [hm] at hadmits hmode hbody
    case inTable => exact h.starts_inTable hmode hadmits
    case inColumnGroup => exact h.starts_inColumnGroup hmode hadmits
    case inTableBody => exact h.starts_inTableBody hmode hadmits
    case inRow => exact h.starts_inRow hmode hadmits
    case inSelect => exact h.starts_inSelect (by rw [hmode]; decide) (by rw [hm]; decide) hadmits
    case inSelectInTable =>
      exact h.starts_inSelect (by rw [hmode]; decide) (by rw [hm]; decide) hadmits
    case inHead => exact h.starts_inHead hm hmode hadmits
    case inHeadNoscript => exact h.starts_inHeadNoscript hmode hadmits
    case inFrameset => exact h.starts_inFrameset hm hmode hadmits
    all_goals first
      | exact absurd hadmits Bool.false_ne_true
      | exact absurd (by decide) hbody

end At

end ContentBinding.Markup.Nesting
