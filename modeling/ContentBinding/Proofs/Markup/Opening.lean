import ContentBinding.Proofs.Markup.Places

/-! Start tags in the body of a page. A tag that its place admits opens its element there and does
nothing else. -/

namespace ContentBinding.Markup.Nesting

open Build (BodyTag Does Scope bodyTag)

variable {old : Bool} {b b' : Builder} {os : Opened} {n : NodeId} {c e : Element} {t : Tag}
  {place : Place} {name : String}

/-! What the tag of an element tells about it -/

theorem bodyTag_of_isFormatting (h : isFormatting e = true) :
    bodyTag e.name ∈ [.anchor, .nobr, .formatting] := by
  have hall : ∀ name ∈ "a" :: "nobr" :: Build.formattingNames,
      bodyTag name ∈ [.anchor, .nobr, .formatting] := by decide
  refine hall e.name ?_
  simpa [isFormatting, or_assoc] using (Bool.and_eq_true_iff.mp h).2

theorem bodyTag_of_isMarker (h : isMarker e = true) : bodyTag e.name ∈ [.object, .misplaced] := by
  have hall : ∀ name ∈ ["applet", "marquee", "object", "caption", "td", "th"],
      bodyTag name ∈ [.object, .misplaced] := by decide
  exact hall e.name (List.contains_iff_mem.mp (Bool.and_eq_true_iff.mp h).2)

theorem bodyTag_of_isNamed (h : isNamed name e = true) : bodyTag e.name = bodyTag name := by
  rw [isNamed, Bool.and_eq_true, decide_eq_true_eq, decide_eq_true_eq] at h
  rw [h.2]

theorem bodyTag_of_modeAt (hhead : modeAt place ≠ .inHead) (h : modeAt (e :: place) ≠ modeAt place) :
    bodyTag e.name ∈ [.table, .select, .frameset, .misplaced] := by
  simp only [modeAt, if_neg hhead] at h
  split at h
  · split at h
    all_goals first
      | exact absurd rfl h
      | next hname =>
        rw [hname]
        decide
  · exact absurd rfl h

def namesOf : BodyTag → List String
  | .headPart => ["base", "basefont", "bgsound", "command", "link", "meta", "script", "style", "title"]
  | .form => ["form"]
  | .anchor => ["a"]
  | .nobr => ["nobr"]
  | .formatting => Build.formattingNames
  | .object => ["applet", "marquee", "object"]
  | .xmp => ["xmp"]
  | .table => ["table"]
  | .textarea => ["textarea"]
  | .iframe => ["iframe"]
  | .raw => ["noembed", "noframes"]
  | .select => ["select"]
  | .void => ["area", "br", "embed", "img", "keygen", "wbr"]
  | .hollow => ["param", "source", "track"]
  | .input => ["input"]
  | .rule => ["hr"]
  | _ => []

theorem mem_namesOf {k : BodyTag} (h : bodyTag name = k) (hne : namesOf k ≠ []) :
    name ∈ namesOf k := by
  unfold bodyTag at h
  split at h
  all_goals
    subst h
    first
      | exact absurd rfl hne
      | decide

theorem eq_of_bodyTag {k : BodyTag} {only : String} (h : bodyTag name = k)
    (hnames : namesOf k = [only]) : name = only :=
  List.mem_singleton.mp (hnames ▸ mem_namesOf h (hnames ▸ List.cons_ne_nil _ _))

/-! What a tag does to its place -/

def Opens {α : Type} (old : Bool) (b : Builder) (n : NodeId) (os : Opened) (e : Element)
    (x : Build α) (a : α) : Prop :=
  ∃ b', Does x b a b' ∧ At old b' ((b.page.size, e) :: os) ∧
    b'.page = b.page.addChild n (.element e)

theorem Opens.andThen {x : Build Unit} (h : Opens old b n os e x ()) :
    Opens old b n os e (do x; return false) false := by
  obtain ⟨b', hdoes, hrest⟩ := h
  exact ⟨b', hdoes.bind (.pure false b'), hrest⟩

def Adds {α : Type} (old : Bool) (b : Builder) (n : NodeId) (os : Opened) (e : Element)
    (x : Build α) (a : α) : Prop :=
  ∃ b', Does x b a b' ∧ At old b' os ∧ b'.page = b.page.addChild n (.element e)

def pushed (b : Builder) (n : NodeId) (e : Element) : Builder :=
  { b with page := b.page.addChild n (.element e), stack := b.page.size :: b.stack }

def OpensText {α : Type} (b : Builder) (n : NodeId) (e : Element) (m : ContentModel) (x : Build α)
    (a : α) : Prop :=
  ∃ b', Does x b a b' ∧ At.Agrees { pushed b n e with model := m, mode := .text } b' ∧
    b'.page = b.page.addChild n (.element e) ∧ b'.textReturn = b.mode

namespace At

theorem of_agrees (h : At old b os) (hpage : b'.page = b.page) (hagrees : Agrees b b') :
    At old b' os :=
  have hgrown : Page.Grown b.page b'.page Page.root := by
    rw [hpage]
    exact .refl h.linked
  h.grow hgrown hagrees

theorem descend_unlisted (h : At old b ((n, c) :: os)) (hformatting : isFormatting e = false)
    (hform : isNamed "form" e = false) (hpage : b'.page = b.page.addChild n (.element e))
    (hagrees : Agrees { pushed b n e with
      formatting := b.formatting ++ if isMarker e then [none] else []
      mode := modeAt (e :: placeOf ((n, c) :: os)) } b') :
    At old b' ((b.page.size, e) :: (n, c) :: os) := by
  refine h.descend e hpage hagrees.stack_eq ?_ ?_ hagrees.mode_eq
    (hagrees.model_eq.trans h.model_eq) (hagrees.fostering_eq.trans h.fostering_eq)
    (hagrees.oldPage_eq.trans h.oldPage_eq)
  · rw [hagrees.formatting_eq, formattingOf, hformatting, ← h.formatting_eq]
    rfl
  · rw [hagrees.form_eq, formOf, hform]
    exact h.form_eq

theorem descend_plain (h : At old b ((n, c) :: os)) (hmarker : isMarker e = false)
    (hformatting : isFormatting e = false) (hform : isNamed "form" e = false)
    (hmode : modeAt (e :: placeOf ((n, c) :: os)) = modeAt (placeOf ((n, c) :: os)))
    (hpage : b'.page = b.page.addChild n (.element e)) (hagrees : Agrees (pushed b n e) b') :
    At old b' ((b.page.size, e) :: (n, c) :: os) := by
  refine h.descend_unlisted hformatting hform hpage { hagrees with
    formatting_eq := ?_, mode_eq := ?_ }
  · rw [hagrees.formatting_eq, hmarker]
    exact (List.append_nil _).symm
  · rw [hagrees.mode_eq, hmode]
    exact h.mode_eq

theorem isMarker_eq_false (hk : bodyTag e.name ∉ [.object, .misplaced]) : isMarker e = false :=
  Bool.eq_false_iff.mpr fun hm => hk (bodyTag_of_isMarker hm)

theorem isFormatting_eq_false (hk : bodyTag e.name ∉ [.anchor, .nobr, .formatting]) :
    isFormatting e = false :=
  Bool.eq_false_iff.mpr fun hf => hk (bodyTag_of_isFormatting hf)

theorem isForm_eq_false (hk : bodyTag e.name ≠ .form) : isNamed "form" e = false := by
  refine Bool.eq_false_iff.mpr fun hf => hk ?_
  rw [bodyTag_of_isNamed hf]
  decide

theorem modeAt_cons (hhead : modeAt place ≠ .inHead)
    (hk : bodyTag e.name ∉ [.table, .select, .frameset, .misplaced]) : modeAt (e :: place) = modeAt place := by
  by_contra hmode
  exact hk (bodyTag_of_modeAt hhead hmode)

def traced : List BodyTag :=
  [.anchor, .nobr, .formatting, .object, .misplaced, .form, .table, .select, .frameset]

theorem descend_untraced (h : At old b ((n, c) :: os))
    (hhead : modeAt (placeOf ((n, c) :: os)) ≠ .inHead) (hk : bodyTag e.name ∉ traced)
    (hpage : b'.page = b.page.addChild n (.element e)) (hagrees : Agrees (pushed b n e) b') :
    At old b' ((b.page.size, e) :: (n, c) :: os) := by
  have hnot : ∀ ks : List BodyTag, ks ⊆ traced → bodyTag e.name ∉ ks :=
    fun ks hks hmem => hk (hks hmem)
  exact h.descend_plain (isMarker_eq_false (hnot _ (by decide)))
    (isFormatting_eq_false (hnot _ (by decide)))
    (isForm_eq_false fun heq => hnot [.form] (by decide) (List.mem_singleton.mpr heq))
    (modeAt_cons hhead (hnot _ (by decide))) hpage hagrees

theorem descend_formatting (h : At old b ((n, c) :: os))
    (hhead : modeAt (placeOf ((n, c) :: os)) ≠ .inHead)
    (hk : bodyTag e.name ∈ [.anchor, .nobr, .formatting]) (he : isFormatting e = true) :
    At old { pushed b n e with formatting := b.formatting ++ [some b.page.size] }
      ((b.page.size, e) :: (n, c) :: os) := by
  have hnot : ∀ ks : List BodyTag, (∀ k ∈ [.anchor, .nobr, .formatting], k ∉ ks) →
      bodyTag e.name ∉ ks := fun ks hks => hks _ hk
  refine h.descend e rfl rfl ?_ ?_ ?_ h.model_eq h.fostering_eq h.oldPage_eq
  · rw [formattingOf, isMarker_eq_false (hnot _ (by decide)), he, ← h.formatting_eq]
    rfl
  · rw [formOf, isForm_eq_false fun heq => hnot [.form] (by decide) (List.mem_singleton.mpr heq)]
    exact h.form_eq
  · rw [modeAt_cons hhead (hnot _ (by decide))]
    exact h.mode_eq

/-! One rule of the body after the other -/

variable {d : Dialect}

theorem does_startBlock (h : At old b ((n, c) :: os))
    (hp : hasParagraph (placeOf ((n, c) :: os)) = false) :
    Does (Build.startBlock t) b () (pushed b n (opened .html t)) :=
  (h.does_endParagraph hp).bind (h.does_insertElement t .html)

theorem does_startHeading (h : At old b ((n, c) :: os))
    (hp : hasParagraph (placeOf ((n, c) :: os)) = false)
    (hc : Build.headings.contains c.name = false) :
    Does (Build.startHeading t) b () (pushed b n (opened .html t)) := by
  refine (h.does_endParagraph hp).bind (h.does_currentName.bind ?_)
  exact .ite_false (Bool.eq_false_iff.mp hc) (h.does_insertElement t .html)

theorem does_startPreformatted (h : At old b ((n, c) :: os))
    (hp : hasParagraph (placeOf ((n, c) :: os)) = false) :
    Does (Build.startPreformatted t) b () { pushed b n (opened .html t) with
      framesetOk := false, dropNewline := true } :=
  (h.does_endParagraph hp).bind ((h.does_insertElement t .html).bind rfl)

theorem formOf_eq_none (h : (placeOf os).any (isNamed "form") = false) : formOf os = none := by
  induction os with
  | nil => rfl
  | cons o os ih =>
    rw [placeOf, List.map_cons, List.any_cons, Bool.or_eq_false_iff] at h
    rw [formOf, h.1, if_neg Bool.false_ne_true]
    exact ih h.2

theorem does_startForm (h : At old b ((n, c) :: os))
    (hp : hasParagraph (placeOf ((n, c) :: os)) = false)
    (hform : (placeOf ((n, c) :: os)).any (isNamed "form") = false) :
    Does (Build.startForm t) b () { pushed b n (opened .html t) with
      form := some b.page.size } := by
  have hnone : b.form.isNone = true := by
    rw [h.form_eq, formOf_eq_none hform]
    rfl
  refine .bind (.get b) (.ite_true hnone ?_)
  exact (h.does_endParagraph hp).bind ((h.does_insertElement t .html).bind rfl)

theorem endsItemSearch_eq {p : Page} {m : NodeId} (he : p.element? m = some e) :
    Build.endsItemSearch p m = endsItemSearch e := by
  rw [Build.endsItemSearch, Build.nodeIsSpecial, nameOf_eq he, dialectOf_eq he, endsItemSearch]

theorem not_sibling_of_find? {p : Page} {m : NodeId}
    (h : ∀ o ∈ os, p.element? o.1 = some o.2) (hitem : hasItem name (placeOf os) = false)
    (hfound : (nodesOf os).find? (fun k => (siblings name).contains (p.nameOf k) ||
      Build.endsItemSearch p k) = some m) : (siblings name).contains (p.nameOf m) = false := by
  induction os with
  | nil => exact absurd hfound nofun
  | cons o os ih =>
    rw [List.forall_mem_cons] at h
    simp only [nodesOf, placeOf, List.map_cons, List.find?_cons, hasItem, nameOf_eq h.1,
      endsItemSearch_eq h.1] at hfound hitem
    cases hstop : (siblings name).contains o.2.name || endsItemSearch o.2 with
    | true =>
      rw [hstop] at hfound hitem
      obtain rfl : o.1 = m := Option.some.inj hfound
      rwa [nameOf_eq h.1]
    | false =>
      rw [hstop] at hfound hitem
      exact ih h.2 hitem hfound

theorem does_startItem (h : At old b ((n, c) :: os))
    (hp : hasParagraph (placeOf ((n, c) :: os)) = false)
    (hitem : hasItem t.name (placeOf ((n, c) :: os)) = false) :
    Does (Build.startItem t) b () { pushed b n (opened .html t) with framesetOk := false } := by
  have h' : At old { b with framesetOk := false } ((n, c) :: os) :=
    h.of_agrees rfl ⟨rfl, rfl, rfl, rfl, rfl, rfl, rfl⟩
  have hscope := h'.does_inScope "p" .button
  rw [← hasParagraph, hp] at hscope
  refine .bind rfl (.bind (.get _) ?_)
  dsimp only
  have hlast : Does (do
      if ← Build.inScope "p" .button then
        discard <| Build.endTagIn (← get).mode "p"
      Build.insertElement t) { b with framesetOk := false } ()
      { pushed b n (opened .html t) with framesetOk := false } :=
    hscope.bind (.ite_false Bool.false_ne_true (h'.does_insertElement t .html))
  split
  · next m hfound =>
    rw [h'.stack_eq] at hfound
    have hnot := not_sibling_of_find? h'.element hitem hfound
    exact .ite_false (Bool.eq_false_iff.mp hnot) hlast
  · exact hlast

theorem does_addFormatting (h : At old b ((n, c) :: os)) :
    Does (Build.addFormatting t) b () { pushed b n (opened .html t) with
      formatting := b.formatting ++ [some b.page.size] } :=
  (h.does_insertNode _).bind rfl

theorem does_startAnchor (h : At old b ((n, c) :: os))
    (hnone : (active (placeOf ((n, c) :: os))).contains "a" = false) :
    Does (Build.startAnchor t) b () { pushed b n (opened .html t) with
      formatting := b.formatting ++ [some b.page.size] } := by
  have hactive := h.does_activeNamed? "a"
  rw [find?_activeNodes h.element (by simpa using hnone)] at hactive
  exact hactive.bind (h.does_reopenFormatting.bind h.does_addFormatting)

theorem does_startFormatting (h : At old b ((n, c) :: os)) :
    Does (Build.startFormatting t) b () { pushed b n (opened .html t) with
      formatting := b.formatting ++ [some b.page.size] } :=
  h.does_reopenFormatting.bind h.does_addFormatting

theorem does_startNobr (h : At old b ((n, c) :: os))
    (hnone : inScope .standard "nobr" (placeOf ((n, c) :: os)) = false) :
    Does (Build.startNobr t) b () { pushed b n (opened .html t) with
      formatting := b.formatting ++ [some b.page.size] } := by
  have hscope := h.does_inScope "nobr" .standard
  rw [hnone] at hscope
  refine h.does_reopenFormatting.bind (hscope.bind ?_)
  exact .ite_false Bool.false_ne_true h.does_addFormatting

theorem does_startButton (h : At old b ((n, c) :: os))
    (hnone : inScope .standard "button" (placeOf ((n, c) :: os)) = false) :
    Does (Build.startButton t) b false { pushed b n (opened .html t) with
      framesetOk := false } := by
  have hscope := h.does_inScope "button" .standard
  rw [hnone] at hscope
  refine hscope.bind (.ite_false Bool.false_ne_true ?_)
  exact h.does_reopenFormatting.bind ((h.does_insertElement t .html).bind (.bind rfl (.pure _ _)))

theorem does_startObject (h : At old b ((n, c) :: os)) :
    Does (Build.startObject t) b () { pushed b n (opened .html t) with
      formatting := b.formatting ++ [none], framesetOk := false } :=
  h.does_reopenFormatting.bind ((h.does_insertElement t .html).bind (.bind rfl rfl))

theorem does_startTable (h : At old b ((n, c) :: os))
    (hp : old = true ∨ hasParagraph (placeOf ((n, c) :: os)) = false) :
    Does (Build.startTable t) b () { pushed b n (opened .html t) with
      framesetOk := false, mode := .inTable } := by
  have hlast : Does (do
      Build.insertElement t
      Build.noFrameset
      Build.setMode .inTable) b () { pushed b n (opened .html t) with
        framesetOk := false, mode := .inTable } :=
    (h.does_insertElement t .html).bind (.bind rfl rfl)
  refine .bind (.get b) ?_
  cases hpage : old with
  | true =>
    rw [hpage] at h
    exact .ite_false (by simp [h.oldPage_eq]) hlast
  | false =>
    have hnone := hp.resolve_left (by simp [hpage])
    rw [hpage] at h
    exact .ite_true (by simp [h.oldPage_eq]) ((h.does_endParagraph hnone).bind hlast)

theorem does_startSelect (h : At old b ((n, c) :: os)) :
    Does (Build.startSelect t) b () { pushed b n (opened .html t) with
      framesetOk := false
      mode := if Build.isTableMode b.mode then .inSelectInTable else .inSelect } :=
  h.does_reopenFormatting.bind ((h.does_insertElement t .html).bind (.bind rfl rfl))

theorem does_startRuby (h : At old b ((n, c) :: os))
    (hruby : inScope .standard "ruby" (placeOf ((n, c) :: os)) = false ∨
      Build.impliedEnds.contains c.name = false) :
    Does (Build.startRuby t) b () (pushed b n (opened .html t)) := by
  refine (h.does_inScope "ruby" .standard).bind ?_
  cases hscope : inScope .standard "ruby" (placeOf ((n, c) :: os)) with
  | true =>
    have hkept := hruby.resolve_left (by simp [hscope])
    exact .ite_true rfl ((h.does_closeImplied (.inl hkept)).bind (h.does_insertElement t .html))
  | false => exact .ite_false Bool.false_ne_true (h.does_insertElement t .html)

theorem does_startOption (h : At old b ((n, c) :: os)) (hc : c.name ≠ "option") :
    Does (Build.startOption t) b () (pushed b n (opened .html t)) :=
  h.does_currentName.bind
    (.ite_false hc (h.does_reopenFormatting.bind (h.does_insertElement t .html)))

theorem does_startOther (h : At old b ((n, c) :: os)) :
    Does (Build.startOther t) b () (pushed b n (opened .html t)) :=
  h.does_reopenFormatting.bind (h.does_insertElement t .html)

def holding : List BodyTag :=
  [.block, .heading, .preformatted, .form, .item, .anchor, .formatting, .nobr, .button, .object,
    .table, .select, .ruby, .option, .other]

theorem opens_untraced {α : Type} {x : Build α} {a : α} (h : At old b ((n, c) :: os))
    (hhead : modeAt (placeOf ((n, c) :: os)) ≠ .inHead) (hk : bodyTag e.name ∉ traced)
    (hdoes : Does x b a b') (hpage : b'.page = b.page.addChild n (.element e))
    (hagrees : Agrees (pushed b n e) b') : Opens old b n ((n, c) :: os) e x a :=
  ⟨b', hdoes, h.descend_untraced hhead hk hpage hagrees, hpage⟩

theorem opens_formatting {α : Type} {x : Build α} {a : α} (h : At old b ((n, c) :: os))
    (hhead : modeAt (placeOf ((n, c) :: os)) ≠ .inHead)
    (hk : bodyTag e.name ∈ [.anchor, .nobr, .formatting]) (he : isFormatting e = true)
    (hdoes : Does x b a { pushed b n e with formatting := b.formatting ++ [some b.page.size] }) :
    Opens old b n ((n, c) :: os) e x a :=
  ⟨_, hdoes, h.descend_formatting hhead hk he, rfl⟩

theorem opens_object (h : At old b ((n, c) :: os))
    (hhead : modeAt (placeOf ((n, c) :: os)) ≠ .inHead) (hk : bodyTag t.name = .object) :
    Opens old b n ((n, c) :: os) (opened .html t) (Build.startObject t) () := by
  have hmarker : isMarker (opened .html t) = true := by
    have hnames := mem_namesOf hk (by decide)
    have hall : ∀ name ∈ namesOf .object,
        ["applet", "marquee", "object", "caption", "td", "th"].contains name = true := by decide
    exact hall t.name hnames
  have htag : bodyTag (opened .html t).name = .object := hk
  have hmode := modeAt_cons hhead (e := opened .html t) (by rw [htag]; decide)
  refine ⟨_, h.does_startObject, h.descend_unlisted ?_ ?_ rfl ?_, rfl⟩
  · exact isFormatting_eq_false (by rw [htag]; decide)
  · exact isForm_eq_false (by rw [htag]; decide)
  · rw [hmarker, hmode, ← h.mode_eq]
    exact ⟨rfl, rfl, rfl, rfl, rfl, rfl, rfl⟩

theorem opens_form (h : At old b ((n, c) :: os))
    (hhead : modeAt (placeOf ((n, c) :: os)) ≠ .inHead) (hk : bodyTag t.name = .form)
    (hp : hasParagraph (placeOf ((n, c) :: os)) = false)
    (hform : (placeOf ((n, c) :: os)).any (isNamed "form") = false) :
    Opens old b n ((n, c) :: os) (opened .html t) (Build.startForm t) () := by
  have htag : bodyTag (opened .html t).name = .form := hk
  have hname : isNamed "form" (opened .html t) = true := by
    have heq : t.name = "form" := eq_of_bodyTag hk rfl
    simp [isNamed, opened, heq]
  refine ⟨_, h.does_startForm hp hform, h.descend _ rfl rfl ?_ ?_ ?_ h.model_eq h.fostering_eq
    h.oldPage_eq, rfl⟩
  · rw [formattingOf, isMarker_eq_false (by rw [htag]; decide),
      isFormatting_eq_false (by rw [htag]; decide)]
    simpa [pushed] using h.formatting_eq
  · rw [formOf, hname]
    rfl
  · rw [modeAt_cons hhead (by rw [htag]; decide)]
    exact h.mode_eq

theorem descend_mode (h : At old b ((n, c) :: os)) (hk : bodyTag e.name ∈ [.table, .select])
    (hpage : b'.page = b.page.addChild n (.element e))
    (hagrees : Agrees { pushed b n e with mode := modeAt (e :: placeOf ((n, c) :: os)) } b') :
    At old b' ((b.page.size, e) :: (n, c) :: os) := by
  have hnot : ∀ ks : List BodyTag, (∀ k ∈ [.table, .select], k ∉ ks) →
      bodyTag e.name ∉ ks := fun ks hks => hks _ hk
  refine h.descend_unlisted (isFormatting_eq_false (hnot _ (by decide)))
    (isForm_eq_false fun heq => hnot [.form] (by decide) (List.mem_singleton.mpr heq)) hpage
    { hagrees with formatting_eq := ?_ }
  rw [hagrees.formatting_eq, isMarker_eq_false (hnot _ (by decide))]
  exact (List.append_nil _).symm

theorem opens_table (h : At old b ((n, c) :: os)) (hk : bodyTag t.name = .table)
    (hp : old = true ∨ hasParagraph (placeOf ((n, c) :: os)) = false) :
    Opens old b n ((n, c) :: os) (opened .html t) (Build.startTable t) () := by
  have hname : t.name = "table" := eq_of_bodyTag hk rfl
  have hmode : modeAt (opened .html t :: placeOf ((n, c) :: os)) = .inTable := by
    simp only [modeAt, opened, hname, if_true]
  refine ⟨_, h.does_startTable hp, h.descend_mode ?_ rfl ?_, rfl⟩
  · exact (hk.symm ▸ by decide : bodyTag t.name ∈ [.table, .select])
  · exact ⟨rfl, rfl, rfl, hmode.symm, rfl, rfl, rfl⟩

theorem opens_select (h : At old b ((n, c) :: os)) (hk : bodyTag t.name = .select) :
    Opens old b n ((n, c) :: os) (opened .html t) (Build.startSelect t) () := by
  have hname : t.name = "select" := eq_of_bodyTag hk rfl
  have hmode : modeAt (opened .html t :: placeOf ((n, c) :: os)) =
      if Build.isTableMode b.mode then .inSelectInTable else .inSelect := by
    simp only [modeAt, opened, hname, if_true, h.mode_eq]
  refine ⟨_, h.does_startSelect, h.descend_mode ?_ rfl ?_, rfl⟩
  · exact (hk.symm ▸ by decide : bodyTag t.name ∈ [.table, .select])
  · exact ⟨rfl, rfl, rfl, hmode.symm, rfl, rfl, rfl⟩

theorem isFormatting_of_bodyTag (hk : bodyTag t.name ∈ [.anchor, .nobr, .formatting]) :
    isFormatting (opened .html t) = true := by
  have hall : ∀ k ∈ [BodyTag.anchor, .nobr, .formatting], namesOf k ≠ [] ∧
      ∀ name ∈ namesOf k, isFormatting { name := name } = true := by decide
  have hname := (hall _ hk).2 t.name (mem_namesOf rfl (hall _ hk).1)
  exact hname

/-- A start tag that its place admits in the body opens its element there. -/
theorem opens_startInBody (h : At old b ((n, c) :: os))
    (hhead : modeAt (placeOf ((n, c) :: os)) ≠ .inHead)
    (hadmits : admitsTag old (placeOf ((n, c) :: os)) t.name (bodyTag t.name) = true)
    (hholds : bodyTag t.name ∈ holding) :
    Opens old b n ((n, c) :: os) (opened .html t) (Build.startInBody t) false := by
  have hagrees : ∀ f d, Agrees (pushed b n (opened .html t)) { pushed b n (opened .html t) with
      framesetOk := f, dropNewline := d } := fun _ _ => ⟨rfl, rfl, rfl, rfl, rfl, rfl, rfl⟩
  have huntraced : ∀ {x : Build Bool} {f d}, bodyTag t.name ∉ traced →
      Does x b false { pushed b n (opened .html t) with framesetOk := f, dropNewline := d } →
      Opens old b n ((n, c) :: os) (opened .html t) x false :=
    fun hk hdoes => h.opens_untraced hhead hk hdoes rfl (hagrees _ _)
  have hformatting := @isFormatting_of_bodyTag t
  have hname : bodyTag (opened .html t).name = bodyTag t.name := rfl
  unfold Build.startInBody
  -- one case for each class of tags, as the function of the body has them
  cases hk : bodyTag t.name
  all_goals rw [hk] at hadmits hholds huntraced hformatting
  case block =>
    have hp := (Bool.not_eq_true' _).mp hadmits
    exact huntraced (by decide) ((h.does_startBlock hp).bind (.pure false _))
  case heading =>
    rw [admitsTag, Bool.and_eq_true, Bool.not_eq_true', Bool.not_eq_true'] at hadmits
    exact huntraced (by decide) ((h.does_startHeading hadmits.1 hadmits.2).bind (.pure false _))
  case preformatted =>
    have hp := (Bool.not_eq_true' _).mp hadmits
    exact huntraced (by decide) ((h.does_startPreformatted hp).bind (.pure false _))
  case form =>
    rw [admitsTag, Bool.and_eq_true, Bool.not_eq_true', Bool.not_eq_true'] at hadmits
    exact (h.opens_form hhead hk hadmits.1 hadmits.2).andThen
  case item =>
    rw [admitsTag, Bool.and_eq_true, Bool.not_eq_true', Bool.not_eq_true'] at hadmits
    exact huntraced (by decide) ((h.does_startItem hadmits.1 hadmits.2).bind (.pure false _))
  case anchor =>
    have hnone := (Bool.not_eq_true' _).mp hadmits
    exact h.opens_formatting hhead (by rw [hname, hk]; decide) (hformatting (by decide))
      ((h.does_startAnchor hnone).bind (.pure false _))
  case formatting =>
    exact h.opens_formatting hhead (by rw [hname, hk]; decide) (hformatting (by decide))
      (h.does_startFormatting.bind (.pure false _))
  case nobr =>
    have hnone := (Bool.not_eq_true' _).mp hadmits
    exact h.opens_formatting hhead (by rw [hname, hk]; decide) (hformatting (by decide))
      ((h.does_startNobr hnone).bind (.pure false _))
  case button =>
    have hnone := (Bool.not_eq_true' _).mp hadmits
    exact huntraced (by decide) ((h.does_startButton hnone).bind (.pure false _))
  case object => exact (h.opens_object hhead hk).andThen
  case table =>
    rw [admitsTag, Bool.or_eq_true, Bool.not_eq_true'] at hadmits
    exact (h.opens_table hk hadmits).andThen
  case select => exact (h.opens_select hk).andThen
  case ruby =>
    rw [admitsTag, Bool.not_eq_true', Bool.and_eq_false_iff] at hadmits
    exact huntraced (by decide) ((h.does_startRuby hadmits).bind (.pure false _))
  case option =>
    have hc : c.name ≠ "option" := bne_iff_ne.mp hadmits
    exact huntraced (by decide) ((h.does_startOption hc).bind (.pure false _))
  case other => exact huntraced (by decide) (h.does_startOther.bind (.pure false _))
  all_goals exact absurd hholds (by simp [holding])

/-! Elements without content -/

theorem adds_of_does {α : Type} {x : Build α} {a : α} (h : At old b ((n, c) :: os))
    (hdoes : Does x b a b') (hpage : b'.page = b.page.addChild n (.element e))
    (hagrees : Agrees b b') : Adds old b n ((n, c) :: os) e x a :=
  ⟨b', hdoes, h.grow (hpage ▸ h.grown_addChild e) hagrees, hpage⟩

theorem does_startVoid (h : At old b ((n, c) :: os)) :
    Does (Build.startVoid t) b () { b with
      page := b.page.addChild n (.element (opened .html t)), framesetOk := false } :=
  h.does_reopenFormatting.bind ((h.does_insertEmpty t).bind rfl)

theorem does_startInput (h : At old b ((n, c) :: os)) :
    Does (Build.startInput t) b () { b with
      page := b.page.addChild n (.element (opened .html t))
      framesetOk := Build.isHidden t && b.framesetOk } := by
  refine .bind (.get b) (h.does_startVoid.bind ?_)
  cases hhidden : Build.isHidden t with
  | true => exact .ite_true rfl rfl
  | false => exact .ite_false Bool.false_ne_true rfl

theorem does_startRule (h : At old b ((n, c) :: os))
    (hp : hasParagraph (placeOf ((n, c) :: os)) = false) :
    Does (Build.startRule t) b () { b with
      page := b.page.addChild n (.element (opened .html t)), framesetOk := false } :=
  (h.does_endParagraph hp).bind ((h.does_insertEmpty t).bind rfl)

theorem startInHead_void (hname : t.name ∈ headVoids) :
    Build.startInHead t = do Build.insertEmpty t; return false := by
  obtain ⟨name, attrs, closing⟩ := t
  simp only [headVoids, List.mem_cons, List.not_mem_nil, or_false] at hname
  rcases hname with rfl | rfl | rfl | rfl | rfl | rfl <;> rfl

theorem does_startInHead_void (h : At old b ((n, c) :: os)) (hname : t.name ∈ headVoids) :
    Does (Build.startInHead t) b false
      { b with page := b.page.addChild n (.element (opened .html t)) } := by
  rw [startInHead_void hname]
  exact (h.does_insertEmpty t).bind (.pure false _)

theorem bodyTag_of_headVoids (hname : name ∈ headVoids) : bodyTag name = .headPart := by
  have hall : ∀ name ∈ headVoids, bodyTag name = .headPart := by decide
  exact hall name hname

theorem adds_startInBody (h : At old b ((n, c) :: os))
    (hadmits : admitsTag old (placeOf ((n, c) :: os)) t.name (bodyTag t.name) = true)
    (hvoid : t.name ∈ headVoids ∨ bodyTag t.name ∈ [.void, .hollow, .input, .rule]) :
    Adds old b n ((n, c) :: os) (opened .html t) (Build.startInBody t) false := by
  have hadds : ∀ {f}, Does (Build.startInBody t) b false { b with
      page := b.page.addChild n (.element (opened .html t)), framesetOk := f } →
      Adds old b n ((n, c) :: os) (opened .html t) (Build.startInBody t) false :=
    fun hdoes => h.adds_of_does hdoes rfl ⟨rfl, rfl, rfl, rfl, rfl, rfl, rfl⟩
  unfold Build.startInBody at hadds ⊢
  rcases hvoid with hname | hkind
  · rw [bodyTag_of_headVoids hname] at hadds ⊢
    exact hadds ((h.does_startInHead_void hname).discard.bind (.pure false _))
  · cases hk : bodyTag t.name
    all_goals rw [hk] at hadmits hkind hadds
    case void => exact hadds (h.does_startVoid.bind (.pure false _))
    case hollow => exact hadds ((h.does_insertEmpty t).bind (.pure false _))
    case input => exact hadds (h.does_startInput.bind (.pure false _))
    case rule =>
      have hp := (Bool.not_eq_true' _).mp hadmits
      exact hadds ((h.does_startRule hp).bind (.pure false _))
    all_goals exact absurd hkind (by simp)

/-! Elements that hold text -/

theorem does_openText (h : At old b ((n, c) :: os)) (m : ContentModel) :
    Does (Build.openText t m) b () { pushed b n (opened .html t) with
      model := m, textReturn := b.mode, mode := .text } :=
  (h.does_insertElement t .html).bind rfl

theorem startInHead_text {m : ContentModel} (hm : textModel? (opened .html t) = some m)
    (hname : t.name ∈ ["title", "noframes", "style", "script"]) :
    Build.startInHead t = do Build.openText t m; return false := by
  obtain ⟨name, attrs, closing⟩ := t
  simp only [List.mem_cons, List.not_mem_nil, or_false] at hname
  rcases hname with rfl | rfl | rfl | rfl
  all_goals
    obtain rfl := Option.some.inj hm
    rfl

theorem opensText_startInHead {m : ContentModel} (h : At old b ((n, c) :: os))
    (hm : textModel? (opened .html t) = some m)
    (hname : t.name ∈ ["title", "noframes", "style", "script"]) :
    OpensText b n (opened .html t) m (Build.startInHead t) false := by
  rw [startInHead_text hm hname]
  exact ⟨_, (h.does_openText m).bind (.pure false _), ⟨rfl, rfl, rfl, rfl, rfl, rfl, rfl⟩, rfl, rfl⟩

theorem opensText_startInBody {m : ContentModel} (h : At old b ((n, c) :: os))
    (hadmits : admitsTag old (placeOf ((n, c) :: os)) t.name (bodyTag t.name) = true)
    (hm : textModel? (opened .html t) = some m) (harea : t.name ≠ "textarea") :
    OpensText b n (opened .html t) m (Build.startInBody t) false := by
  have hopens : ∀ {x : Build Bool} {f}, Does x b false { pushed b n (opened .html t) with
      model := m, textReturn := b.mode, mode := .text, framesetOk := f } →
      OpensText b n (opened .html t) m x false :=
    fun hdoes => ⟨_, hdoes, ⟨rfl, rfl, rfl, rfl, rfl, rfl, rfl⟩, rfl, rfl⟩
  have hopen := fun m => h.does_openText (t := t) m
  have hset : At old { b with framesetOk := false } ((n, c) :: os) :=
    h.of_agrees rfl ⟨rfl, rfl, rfl, rfl, rfl, rfl, rfl⟩
  have hopenSet := fun m => hset.does_openText (t := t) m
  unfold Build.startInBody
  by_cases hhead : t.name ∈ ["title", "style", "script"]
  · have hbody : ∀ name ∈ ["title", "style", "script"], bodyTag name = .headPart := by decide
    have hsome : t.name ∈ ["title", "noframes", "style", "script"] :=
      (by decide : ["title", "style", "script"] ⊆ ["title", "noframes", "style", "script"]) hhead
    obtain ⟨b', hdoes, hrest⟩ := h.opensText_startInHead hm hsome
    rw [hbody _ hhead]
    exact ⟨b', hdoes.discard.bind (.pure false b'), hrest⟩
  · obtain ⟨name, attrs, closing⟩ := t
    simp only [textModel?, opened, if_true] at hm hhead
    split at hm
    all_goals first
      | exact absurd rfl harea
      | exact absurd (by decide) hhead
      | cases hm
    case h_5.refl => exact hopens ((hopen _).bind (.pure false _))
    case h_6.refl => exact hopens ((hopen _).bind (.pure false _))
    case h_7.refl => exact hopens (.bind rfl ((hopenSet _).bind (.pure false _)))
    case h_8.refl =>
      have hp := (Bool.not_eq_true' _).mp hadmits
      exact hopens (.bind ((h.does_endParagraph hp).bind (h.does_reopenFormatting.bind
        (.bind rfl (hopenSet _)))) (.pure false _))

end At

end ContentBinding.Markup.Nesting
