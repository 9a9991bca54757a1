import ContentBinding.Proofs.Markup.Texts

/-! Reading what a tree was written as. In a place that admits it, the markup of a tree leads the
builder from the page that it has read to that page with the tree added, and whatever stands behind
the markup is left to read. -/

namespace ContentBinding.Markup

namespace Build

variable {b b₁ b' : Builder} {P Q : List Char → Prop} {cs ds : List Char}

def Reads (P : List Char → Prop) (cs : List Char) (b b' : Builder) : Prop :=
  ∀ rest, P rest → ∀ fuel, (cs ++ rest).length ≤ fuel → ∃ fuel', rest.length ≤ fuel' ∧
    (consume fuel (cs ++ rest)).run b = (consume fuel' rest).run b'

theorem Reads.nil (P : List Char → Prop) (b : Builder) : Reads P [] b b :=
  fun _ _ fuel hfuel => ⟨fuel, hfuel, rfl⟩

theorem Reads.append (h : Reads P cs b b₁) (h' : Reads Q ds b₁ b')
    (hP : ∀ rest, Q rest → P (ds ++ rest)) : Reads Q (cs ++ ds) b b' := by
  intro rest hrest fuel hfuel
  rw [List.append_assoc] at hfuel ⊢
  obtain ⟨fuel₁, hfuel₁, hrun⟩ := h _ (hP rest hrest) fuel hfuel
  obtain ⟨fuel₂, hfuel₂, hrun'⟩ := h' rest hrest fuel₁ hfuel₁
  exact ⟨fuel₂, hfuel₂, hrun.trans hrun'⟩

theorem Reads.mono (h : Reads P cs b b') (hQ : ∀ rest, Q rest → P rest) : Reads Q cs b b' :=
  fun rest hrest => h rest (hQ rest hrest)

theorem does_inForeign (b : Builder) : ∃ f, Does inForeign b f b := by
  unfold inForeign
  cases hstack : b.stack with
  | nil =>
    refine ⟨false, .bind (.get b) ?_⟩
    rw [hstack]
    exact .pure false b
  | cons n rest =>
    refine ⟨b.page.dialectOf n != .html, .bind (.get b) ?_⟩
    rw [hstack]
    exact .pure _ b

theorem reads_round {ts : List Token} {m : ContentModel} (hne : cs ≠ [])
    (hnext : ∀ cdata rest, P rest → Tokenizer.next b.model cdata (cs ++ rest) = (ts, m, rest))
    (hdoes : Does (processTokens ts) { b with model := m } () b') : Reads P cs b b' := by
  intro rest hrest fuel hfuel
  obtain ⟨c, ds, rfl⟩ := List.exists_cons_of_ne_nil hne
  obtain ⟨fuel, rfl⟩ : ∃ k, fuel = k + 1 :=
    Nat.exists_eq_succ_of_ne_zero (Nat.pos_iff_ne_zero.mp (Nat.lt_of_lt_of_le (by simp) hfuel))
  obtain ⟨f, hforeign⟩ := does_inForeign b
  refine ⟨fuel, ?_, ?_⟩
  · simp only [List.length_append, List.length_cons] at hfuel
    omega
  · obtain ⟨b'', hlast⟩ : ∃ b'', Does (consume fuel rest) b' () b'' := ⟨_, rfl⟩
    have hround : Does (consume (fuel + 1) (c :: ds ++ rest)) b () b'' := by
      have hread := hnext f rest hrest
      rw [List.cons_append] at hread ⊢
      refine .bind (.get b) (hforeign.bind ?_)
      rw [hread]
      exact .bind rfl (hdoes.bind hlast)
    exact hround.trans hlast.symm

theorem reads_run (hmodel : b.model = .data) (hlt : '<' ∉ cs)
    (hdoes : Does (processTokens (Tokenizer.textTokens id cs)) b () b') :
    Reads Tokenizer.IsCut cs b b' := by
  by_cases hne : cs = []
  · subst hne
    rw [Tokenizer.textTokens] at hdoes
    obtain rfl : b = b' := congrArg Prod.snd hdoes
    exact .nil Tokenizer.IsCut b
  · have hsame : { b with model := .data } = b := by rw [← hmodel]
    refine reads_round hne (fun cdata rest hrest => ?_) (hsame.symm ▸ hdoes)
    rw [hmodel]
    exact Tokenizer.next_text hne hlt cdata hrest

end Build

namespace Nesting

open Build (BodyTag Does Reads bodyTag)
open Tokenizer (IsCut)

variable {old raw : Bool} {b b' : Builder} {os : Opened} {n m : NodeId} {c e : Element}
  {place : Place} {p : Page} {cs : List Char} {P : List Char → Prop}

/-! Markup of elements and comments -/

def startMarkup (e : Element) : List Char :=
  (Tree.startTag e).toList

def endMarkup (e : Element) : List Char :=
  (Tree.endTag e).toList

theorem startMarkup_eq (e : Element) : startMarkup e =
    '<' :: (e.name.toList ++ (Tokenizer.writtenAttrs (written e).attrs ++ ['>'])) :=
  Tokenizer.startTag_eq e

theorem endMarkup_eq (e : Element) : endMarkup e = '<' :: '/' :: (e.name.toList ++ ['>']) := by
  simp [endMarkup, Tree.endTag]

theorem next_startMarkup (h : isReadable e = true) (cdata : Bool) (rest : List Char) :
    Tokenizer.next .data cdata (startMarkup e ++ rest) =
      ([.startTag (tagOf e)], .data, rest) := by
  simp only [isReadable, Bool.and_eq_true, List.all_eq_true, decide_eq_true_eq] at h
  have hnext := Tokenizer.next_startTag h.1.1 h.1.2 h.2 cdata rest
  rw [startMarkup_eq]
  simpa [tagOf] using hnext

theorem next_endMarkup (h : isReadable e = true) (cdata : Bool) (rest : List Char) :
    Tokenizer.next .data cdata (endMarkup e ++ rest) =
      ([.endTag ⟨lowerString e.name, [], false⟩], .data, rest) := by
  simp only [isReadable, Bool.and_eq_true] at h
  have hnext := Tokenizer.next_endTag h.1.1 cdata rest
  rw [endMarkup_eq]
  simpa using hnext

theorem Stands.exists_reads {t : Token} {Q : Builder → Prop} (h : Stands old n c os b p)
    (hne : cs ≠ [])
    (hnext : ∀ cdata rest, P rest → Tokenizer.next .data cdata (cs ++ rest) = ([t], .data, rest))
    (ht : Build.stepHtml .inTableText t = do
      Build.flushTableText Build.insertBodyText
      return true)
    (hstep : ∀ b₁, At old b₁ ((n, c) :: os) → b₁.page = p →
      ∃ b', Does (Build.step t) b₁ false b' ∧ Q b') :
    ∃ b', Reads P cs b b' ∧ Q b' := by
  have hmodel : b.model = .data := by
    cases h with
    | settled hat => exact hat.model_eq
    | waiting hat => exact hat.model_eq
  have hround : ∀ cdata rest, P rest →
      Tokenizer.next b.model cdata (cs ++ rest) = ([t], .data, rest) := by
    rw [hmodel]
    exact hnext
  obtain ⟨b', hdoes, hq⟩ := h.exists_processed ht hstep
  refine ⟨b', Build.reads_round hne hround ?_, hq⟩
  rw [← hmodel]
  exact hdoes.bind (.pure () b')

/-! Comments and texts -/

def commentMarkup (text : String) : List Char :=
  '<' :: '!' :: '-' :: '-' :: (text.toList ++ ['-', '-', '>'])

def anything (_ : List Char) : Prop := True

theorem reads_comment {text : String} (h : Stands old n c os b p)
    (htext : Tokenizer.isComment text = true) :
    ∃ b', Reads anything (commentMarkup text) b b' ∧ At old b' ((n, c) :: os) ∧
      b'.page = p.addChild n (.comment text) := by
  refine h.exists_reads (t := .comment text) (List.cons_ne_nil _ _) ?_ rfl ?_
  · intro cdata rest _
    have hnext := Tokenizer.next_comment htext cdata rest
    simpa [commentMarkup] using hnext
  · intro b₁ hat hpage
    refine ⟨_, hat.does_comment text, ?_, by rw [hpage]⟩
    have hgrown : Page.Grown b₁.page (b₁.page.addChild n (.comment text)) n :=
      Page.grown_addChild hat.linked hat.isInner fun h => Content.noConfusion h
    exact hat.grow hgrown ⟨rfl, rfl, rfl, rfl, rfl, rfl, rfl⟩

theorem isSpace_of_admitsText {text : String} (hadmits : admitsText (c :: place) text = true)
    (hc : holdsHtmlText c = true)
    (hmode : modeAt (c :: place) ∉ bodyModes ++ [.inSelect, .inSelectInTable]) :
    ∀ d ∈ text.toList, isSpace d = true := by
  have hmem : modeAt (c :: place) ∈ spaceModes := by
    have hall : ∀ mode ∈ placeModes, mode ∉ bodyModes ++ [.inSelect, .inSelectInTable] →
        mode ∈ spaceModes := by decide
    exact hall _ (modeAt_mem _) hmode
  have hc' : holdsHtmlText (innermost (c :: place)) = true := hc
  rw [admitsText, hc', List.contains_iff_mem.mpr hmem] at hadmits
  simpa using hadmits

theorem dialect_of_waiting (hregular : isRegular (c :: place) = true)
    (hmode : modeAt (c :: place) ∈ waitingModes) : c.dialect = .html := by
  by_contra hd
  rw [isRegular] at hregular
  simp only [Bool.and_eq_true, Bool.or_eq_true, decide_eq_true_eq, hd, false_or,
    List.contains_iff_mem] at hregular
  -- foreign content keeps the mode of its place, which is one of the body
  have hsame : modeAt (c :: place) = modeAt place := by
    simp only [modeAt, if_neg hd]
  have hnot : ∀ mode ∈ bodyModes, mode ∉ waitingModes := by decide
  exact hnot _ hregular.1.2 (hsame ▸ hmode)

/-- A text that its place admits is read into the innermost element. -/
theorem reads_text {text : String} (h : At old b ((n, c) :: os)) (hopen : b.page.IsOpen n)
    (hne : text ≠ "") (hwritten : Tokenizer.IsWrittenAs cs text.toList)
    (hadmits : admitsText (placeOf ((n, c) :: os)) text = true)
    (hregular : isRegular (placeOf ((n, c) :: os)) = true)
    (hkeep : DropsAt b n c (placeOf ((n, c) :: os)) → text.toList.head? ≠ some '\n') :
    ∃ b', Reads IsCut cs b b' ∧ Stands old n c os b' (b.page.addChild n (.text text)) := by
  have hlist : text.toList ≠ [] := by simpa using hne
  have hspells := hwritten.spells
  have hround := fun b' => @Build.reads_run b b' cs h.model_eq hwritten.lt_not_mem
  -- the innermost element and the place around it, as the two lemmas take them
  change admitsText (c :: placeOf os) text = true at hadmits
  change isRegular (c :: placeOf os) = true at hregular
  have hspace := isSpace_of_admitsText hadmits
  by_cases hwait : holdsHtmlText c = true ∧ modeAt (placeOf ((n, c) :: os)) ∈ waitingModes
  · obtain ⟨hc, hmode⟩ := hwait
    have hall := hspace hc fun hmem => by
      have hnot : ∀ mode ∈ waitingModes, mode ∉ bodyModes ++ [.inSelect, .inSelectInTable] := by
        decide
      exact hnot _ hmode hmem
    have hd : c.dialect = .html := dialect_of_waiting hregular hmode
    refine ⟨_, hround _ (does_tokens_begin h hc hmode hspells hall hlist), ?_⟩
    have hstands := Stands.waiting h hd hopen hlist hall
    rw [Page.withText_of_ne hlist, String.ofList_toList] at hstands
    exact hstands
  · rw [not_and] at hwait
    obtain ⟨b', hdoes, hfilled⟩ := Filled.tokens h hopen (.start b n) hspells hwait hspace hkeep
    refine ⟨b', hround b' hdoes, ?_⟩
    have hstands := Stands.settled (hfilled.at h)
    rw [hfilled.page_eq, List.nil_append, Page.withText_of_ne hlist, String.ofList_toList] at hstands
    exact hstands

/-! Tags -/

section

variable (h : Stands old n c os b p) (hreadable : isReadable e = true)
  (hadmits : admits old (placeOf ((n, c) :: os)) e = true)

include h hreadable hadmits

theorem reads_start {Q : Builder → Prop}
    (hstep : ∀ b₁, At old b₁ ((n, c) :: os) → b₁.page = p →
      Starts old b₁ n ((n, c) :: os) e (Build.step (.startTag (tagOf e))) →
      ∃ b', Does (Build.step (.startTag (tagOf e))) b₁ false b' ∧ Q b') :
    ∃ b', Reads anything (startMarkup e) b b' ∧ Q b' := by
  refine h.exists_reads (t := .startTag (tagOf e)) ?_ ?_ rfl ?_
  · rw [startMarkup_eq]
    exact List.cons_ne_nil _ _
  · exact fun cdata rest _ => next_startMarkup hreadable cdata rest
  · exact fun b₁ hat hpage => hstep b₁ hat hpage (hat.starts hadmits)

theorem reads_void (hm : textModel? e = none) (hv : isVoid e = true) :
    ∃ b', Reads anything (startMarkup e) b b' ∧ At old b' ((n, c) :: os) ∧
      b'.page = p.addChild n (.element (written e)) := by
  refine reads_start h hreadable hadmits fun b₁ hat hpage hstarts => ?_
  unfold Starts at hstarts
  rw [hm, hv] at hstarts
  obtain ⟨b', hdoes, hat', hpage'⟩ := hstarts
  exact ⟨b', hdoes, hat', hpage ▸ hpage'⟩

theorem reads_opening (hm : textModel? e = none) (hv : isVoid e = false) :
    ∃ b', Reads anything (startMarkup e) b b' ∧
      At old b' ((p.size, written e) :: (n, c) :: os) ∧
      b'.page = p.addChild n (.element (written e)) := by
  refine reads_start h hreadable hadmits fun b₁ hat hpage hstarts => ?_
  unfold Starts at hstarts
  rw [hm, hv] at hstarts
  obtain ⟨b', hdoes, hat', hpage'⟩ := hstarts
  rw [hpage] at hat' hpage'
  exact ⟨b', hdoes, hat', hpage'⟩

end

theorem reads_closing (h : Stands old m (written e) ((n, c) :: os) b p)
    (hreadable : isReadable e = true) (hadmits : admits old (placeOf ((n, c) :: os)) e = true)
    (hregular : isRegular (placeOf ((n, c) :: os)) = true)
    (hm : textModel? e = none ∨ e.name = "textarea") (hv : isVoid e = false) :
    ∃ b', Reads anything (endMarkup e) b b' ∧ At old b' ((n, c) :: os) ∧ b'.page = p := by
  refine h.exists_reads (t := .endTag ⟨lowerString e.name, [], false⟩) ?_ ?_ rfl ?_
  · rw [endMarkup_eq]
    exact List.cons_ne_nil _ _
  · exact fun cdata rest _ => next_endMarkup hreadable cdata rest
  · intro b₁ hat hpage
    obtain ⟨b', hdoes, hat', hpage'⟩ := hat.ends hadmits hregular hm hv
    exact ⟨b', hdoes, hat', hpage'.trans hpage⟩

/-! Elements that hold text -/

/-- Tokens of text that make up a text. -/
inductive Pieces : List Token → List Char → Prop
  | nil : Pieces [] []
  | characters {cs rest : List Char} {ts : List Token} : cs ≠ [] → Pieces ts rest →
    Pieces (.characters cs :: ts) (cs ++ rest)
  | spaces {cs rest : List Char} {ts : List Token} : cs ≠ [] → Pieces ts rest →
    Pieces (.spaces cs :: ts) (cs ++ rest)

theorem pieces_of_spells {ts : List Token} (h : Tokenizer.Spells ts cs) : Pieces ts cs := by
  induction h with
  | nil => exact .nil
  | spaces hne _ _ ih => exact .spaces hne ih
  | characters _ _ _ ih => exact .characters (List.cons_ne_nil _ _) ih

theorem pieces_contentTokens (m : ContentModel) (hclean : '\x00' ∉ cs) :
    Pieces (Tokenizer.contentTokens m cs) cs := by
  have hraw : Pieces (Tokenizer.rawTokens cs) cs := by
    rw [Tokenizer.rawTokens, Tokenizer.map_showNul hclean]
    cases cs with
    | nil => exact .nil
    | cons d ds =>
      have hpiece := Pieces.characters (List.cons_ne_nil d ds) .nil
      rwa [List.append_nil] at hpiece
  cases m with
  | references name => exact pieces_of_spells (Tokenizer.spells_textTokens showNul hclean)
  | _ => exact hraw

theorem does_processTokens_append {ts us : List Token} {b₁ : Builder}
    (h : Does (Build.processTokens ts) b () b₁) (h' : Does (Build.processTokens us) b₁ () b') :
    Does (Build.processTokens (ts ++ us)) b () b' := by
  induction ts generalizing b with
  | nil =>
    obtain rfl : b = b₁ := congrArg Prod.snd h
    exact h'
  | cons t ts ih =>
    obtain ⟨b₂, hfirst⟩ : ∃ b₂, Does (Build.processToken t) b () b₂ := ⟨_, rfl⟩
    have hrest : Does (Build.processTokens ts) b₂ () b₁ := by
      have hall : (Build.processTokens (t :: ts)).run b = (Build.processTokens ts).run b₂ := by
        rw [Build.processTokens, StateT.run_bind, hfirst]
        rfl
      exact hall.symm.trans h
    exact hfirst.bind (ih hrest)

theorem does_processTokens_single {t : Token} (h : Does (Build.processToken t) b () b') :
    Does (Build.processTokens [t]) b () b' :=
  h.bind (.pure () b')

section

variable {q : Page} {k : NodeId} {done : List Char}

theorem does_textToken {t : Token} (hfostering : b.fostering = false)
    (hstack : b.stack.head? = some k) (helement : b.page.element? k = some e)
    (hd : e.dialect = .html) (hmode : b.mode = .text) (ht : t = .characters cs ∨ t = .spaces cs) :
    Does (Build.processToken t) b () { b with
      page := Build.appendText b.page k (String.ofList cs) } := by
  have hcurrent : b.stack.head?.bind b.page.element? = some e := by
    rw [hstack]
    exact helement
  have hhead : b.stack.headD Page.root = k := by
    rw [List.headD_eq_head?_getD, hstack]
    rfl
  have hinsert : Does (do Build.insertText cs; return false) b false { b with
      page := Build.appendText b.page k (String.ofList cs) } :=
    .bind ((Build.does_insertionPlace hfostering hhead).bind rfl) (.pure false _)
  have hstep : (Build.step t).run b = (do Build.insertText cs; return false : Build Bool).run b := by
    rw [run_step hcurrent, isHtmlContent_html hd, if_pos rfl, hmode]
    rcases ht with rfl | rfl <;> rfl
  exact Build.does_processToken_last (hstep.trans hinsert)

theorem element?_withText (hk : k < q.size) (cs : List Char) :
    (q.withText k cs).element? k = q.element? k := by
  unfold Page.withText
  split
  · rfl
  · exact Page.element?_congr (Page.content?_addChild_ne _ hk.ne)

theorem does_textTokens {ts : List Token} (hpieces : Pieces ts cs) (hk : k < q.size)
    (hopen : q.IsOpen k) (helement : q.element? k = some e) (hd : e.dialect = .html)
    (hfostering : b.fostering = false) (hstack : b.stack.head? = some k) (hmode : b.mode = .text)
    (hpage : b.page = q.withText k done) :
    Does (Build.processTokens ts) b () { b with page := q.withText k (done ++ cs) } := by
  have hpush : ∀ {t : Token} {piece rest : List Char} {ts : List Token} {b : Builder}
      {done : List Char}, piece ≠ [] → (t = .characters piece ∨ t = .spaces piece) →
      b.fostering = false → b.stack.head? = some k → b.mode = .text →
      b.page = q.withText k done →
      Does (Build.processTokens ts) { b with page := q.withText k (done ++ piece) } ()
        { b with page := q.withText k (done ++ piece ++ rest) } →
      Does (Build.processTokens (t :: ts)) b ()
        { b with page := q.withText k (done ++ (piece ++ rest)) } := by
    intro t piece rest ts b done hne ht hfostering hstack hmode hpage hrest
    have htoken := does_textToken hfostering hstack
      (by rw [hpage, element?_withText hk, helement]) hd hmode ht
    rw [hpage, Page.appendText_withText hk hopen done hne] at htoken
    rw [← List.append_assoc]
    exact htoken.bind hrest
  induction hpieces generalizing b done with
  | nil =>
    rw [List.append_nil, ← hpage]
    exact .pure () b
  | characters hne _ ih =>
    exact hpush hne (.inl rfl) hfostering hstack hmode hpage (ih hfostering hstack hmode rfl)
  | spaces hne _ ih =>
    exact hpush hne (.inr rfl) hfostering hstack hmode hpage (ih hfostering hstack hmode rfl)

end

theorem does_textEnd {k : NodeId} {rest : List NodeId} (hstack : b.stack = k :: rest)
    (helement : b.page.element? k = some e) (hd : e.dialect = .html) (hmode : b.mode = .text)
    (t : Tag) : Does (Build.processToken (.endTag t)) b ()
      { b with stack := rest, mode := b.textReturn } := by
  have hcurrent : b.stack.head?.bind b.page.element? = some e := by
    rw [hstack]
    exact helement
  have hpop : Does Build.pop b () { b with stack := rest } := by
    have hrun : Does Build.pop b () { b with stack := b.stack.tail } := rfl
    rwa [hstack] at hrun
  have hdoes : Does (Build.endTagIn .text t.name) b false
      { b with stack := rest, mode := b.textReturn } :=
    hpop.bind (.bind rfl (.pure false _))
  have hstep : (Build.step (.endTag t)).run b = (Build.endTagIn .text t.name).run b := by
    rw [run_step hcurrent, isHtmlContent_html hd, if_pos rfl, hmode]
    rfl
  exact Build.does_processToken_last (hstep.trans hdoes)

def textMarkup (e : Element) (text : String) : List Char :=
  if Tree.isRawName e.name then text.toList else text.toList.flatMap Tree.escapeChar

theorem of_textModel? {m : ContentModel} (h : textModel? e = some m) :
    e.dialect = .html ∧ Tokenizer.modelName? m = some e.name ∧
      (∀ d ∈ e.name.toList, d.toLower = d) ∧ Tree.voidNames.contains e.name = false ∧
      (Tree.isRawName e.name = true → holdsReferences m = false) := by
  have hd : e.dialect = .html := by
    by_contra hd
    rw [textModel?, if_neg hd] at h
    cases h
  rw [textModel?_eq hd] at h
  unfold textModel? at h
  rw [if_pos rfl] at h
  refine ⟨hd, ?_⟩
  split at h
  all_goals first
    | next hname =>
      obtain rfl := Option.some.inj h
      dsimp only at hname ⊢
      rw [hname]
      exact ⟨rfl, List.all_iff_forall_prop.mp (by decide), by decide, by decide⟩
    | cases h

theorem textMarkup_eq {m : ContentModel} {text : String} (hm : textModel? e = some m)
    (htext : isTextContent m e text = true) :
    textMarkup e text = Tokenizer.writtenText m text.toList := by
  simp only [isTextContent, Bool.and_eq_true, Bool.or_eq_true, decide_eq_true_eq] at htext
  obtain ⟨-, (hraw | hreferences) | hsame⟩ := htext
  · have hnot := (of_textModel? hm).2.2.2.2 hraw
    rw [textMarkup, if_pos hraw]
    cases m with
    | references name => exact absurd hnot Bool.noConfusion
    | _ => rfl
  · have hnot : Tree.isRawName e.name = false := by
      by_contra hraw
      have hfalse := (of_textModel? hm).2.2.2.2 (by simpa using hraw)
      exact Bool.false_ne_true (hfalse.symm.trans hreferences)
    rw [textMarkup, hnot, if_neg Bool.false_ne_true]
    cases m with
    | references name => rfl
    | _ => exact absurd hreferences Bool.noConfusion
  · have hlist : text.toList.flatMap Tree.escapeChar = text.toList := by
      have heq := congrArg String.toList hsame
      rwa [Tree.escape, String.toList_ofList] at heq
    have hmarkup : textMarkup e text = text.toList := by
      rw [textMarkup, hlist, ite_self]
    rw [hmarkup]
    cases m with
    | references name => exact hlist.symm
    | _ => rfl

theorem children_new (hp : p.Linked) (hn : p.IsInner n) (e : Element) :
    (p.addChild n (.element e)).children p.size = [] := by
  rw [Page.children_addChild_ne _ (hn.lt_size hp).ne', Page.children_of_size_le (Nat.le_refl _)]

theorem isOpen_new (hp : p.Linked) (hn : p.IsInner n) (e : Element) :
    (p.addChild n (.element e)).IsOpen p.size := by
  intro k hk
  rw [children_new hp hn] at hk
  cases hk

theorem reads_textContent {m : ContentModel} {text : String} {k : NodeId} {rest : List NodeId}
    (hm : textModel? e = some m) (htext : isTextContent m e text = true)
    (hmodel : b.model = m) (hmode : b.mode = .text) (hstack : b.stack = k :: rest)
    (hfostering : b.fostering = false) (hk : k < b.page.size) (hopen : b.page.IsOpen k)
    (helement : b.page.element? k = some (written e)) :
    Reads anything (textMarkup e text ++ endMarkup e) b { b with
      model := .data
      page := b.page.withText k text.toList
      stack := rest
      mode := b.textReturn } := by
  obtain ⟨hd, hname, hlower, -, -⟩ := of_textModel? hm
  have hmarkup := textMarkup_eq hm htext
  simp only [isTextContent, Bool.and_eq_true] at htext
  obtain ⟨⟨hclean, hended⟩, -⟩ := htext
  have hhead : b.stack.head? = some k := by
    rw [hstack]
    rfl
  have hempty : b.page = b.page.withText k [] := rfl
  have hcontent := does_textTokens (b := { b with model := .data })
    (pieces_contentTokens m (Tokenizer.not_mem_of_isClean hclean).2) hk hopen helement hd
    hfostering hhead hmode hempty
  rw [List.nil_append] at hcontent
  have hend := does_textEnd (b := { b with
      model := .data
      page := b.page.withText k text.toList })
    hstack ((element?_withText hk _).trans helement) hd hmode ⟨e.name, [], false⟩
  refine Build.reads_round (by simp [endMarkup_eq]) (fun cdata rest _ => ?_)
    (does_processTokens_append hcontent (does_processTokens_single hend))
  rw [hmodel, hmarkup, endMarkup_eq, List.append_assoc]
  exact Tokenizer.next_content hname hlower hended cdata rest

theorem reads_textElement {m : ContentModel} {text : String} (h : Stands old n c os b p)
    (hreadable : isReadable e = true) (hadmits : admits old (placeOf ((n, c) :: os)) e = true)
    (hm : textModel? e = some m) (harea : e.name ≠ "textarea")
    (htext : isTextContent m e text = true) :
    ∃ b', Reads anything (startMarkup e ++ (textMarkup e text ++ endMarkup e)) b b' ∧
      At old b' ((n, c) :: os) ∧
      b'.page = (p.addChild n (.element (written e))).withText p.size text.toList := by
  obtain ⟨b₂, hstart, b₁, hat, hpage₁, hagrees, hpage, hreturn⟩ :
      ∃ b₂, Reads anything (startMarkup e) b b₂ ∧ ∃ b₁, At old b₁ ((n, c) :: os) ∧ b₁.page = p ∧
        At.Agrees { pushed b₁ n (written e) with model := m, mode := .text } b₂ ∧
        b₂.page = p.addChild n (.element (written e)) ∧ b₂.textReturn = b₁.mode := by
    refine reads_start h hreadable hadmits fun b₁ hat hpage hstarts => ?_
    unfold Starts at hstarts
    rw [hm] at hstarts
    dsimp only at hstarts
    rw [if_neg harea] at hstarts
    obtain ⟨b₂, hdoes, hagrees, hpage₂, hreturn⟩ := hstarts
    exact ⟨b₂, hdoes, b₁, hat, hpage, hagrees, hpage ▸ hpage₂, hreturn⟩
  subst hpage₁
  have hround := reads_textContent hm htext hagrees.model_eq hagrees.mode_eq hagrees.stack_eq
    (hagrees.fostering_eq.trans hat.fostering_eq)
    (by rw [hpage, Page.size_addChild]; exact Nat.lt_succ_self _)
    (by rw [hpage]; exact isOpen_new hat.linked hat.isInner (written e))
    (by rw [hpage, Page.element?, Page.content?_addChild_self])
  rw [hpage] at hround
  have hgrown := hat.grown_addChild (written e)
  have hfilled := Page.grown_withText hgrown.linked (Page.isInner_addChild (written e))
    text.toList
  refine ⟨_, hstart.append hround fun _ _ => trivial, ?_, rfl⟩
  exact hat.grow (hgrown.trans_new (Nat.le_refl _) hfilled) ⟨rfl, hagrees.formatting_eq,
    hagrees.form_eq, hreturn, hat.model_eq.symm, hagrees.fostering_eq, hagrees.oldPage_eq⟩

theorem mode_of_textarea (hd : e.dialect = .html) (hname : e.name = "textarea")
    (h : admits old place e = true) : modeAt place ∈ bodyModes := by
  have hhtml := admitsHtml_of_admits hd h
  have hitem : isTableItem e = false := by simp [isTableItem, hname]
  unfold admitsHtml at hhtml
  rw [hname, hitem] at hhtml
  split at hhtml
  case h_1 heq | h_2 heq | h_3 heq =>
    rw [heq]
    decide
  all_goals simp at hhtml

theorem modeAt_textarea (hname : e.name = "textarea") : modeAt (e :: place) = modeAt place := by
  simp only [modeAt, hname]
  exact ite_self _

theorem reads_textarea {m : ContentModel} {text : String} (h : Stands old n c os b p)
    (hreadable : isReadable e = true) (hadmits : admits old (placeOf ((n, c) :: os)) e = true)
    (hregular : isRegular (placeOf ((n, c) :: os)) = true)
    (hm : textModel? e = some m) (harea : e.name = "textarea")
    (htext : isTextContent m e text = true)
    (hkeep : modeAt (placeOf ((n, c) :: os)) = .inBody → text.toList.head? ≠ some '\n') :
    ∃ b', Reads anything (startMarkup e ++ (textMarkup e text ++ endMarkup e)) b b' ∧
      At old b' ((n, c) :: os) ∧
      b'.page = (p.addChild n (.element (written e))).withText p.size text.toList := by
  obtain ⟨hd, hname, hlower, -, -⟩ := of_textModel? hm
  obtain ⟨b₂, hstart, b₁, hat, hpage₁, hnew, hpage, hmodel⟩ :
      ∃ b₂, Reads anything (startMarkup e) b b₂ ∧ ∃ b₁, At old b₁ ((n, c) :: os) ∧ b₁.page = p ∧
        At old { b₂ with model := .data } ((p.size, written e) :: (n, c) :: os) ∧
        b₂.page = p.addChild n (.element (written e)) ∧ b₂.model = .references e.name := by
    refine reads_start h hreadable hadmits fun b₁ hat hpage hstarts => ?_
    unfold Starts at hstarts
    rw [hm] at hstarts
    dsimp only at hstarts
    rw [if_pos harea] at hstarts
    obtain ⟨b₂, hdoes, hnew, hpage₂, hmodel⟩ := hstarts
    rw [hpage] at hnew hpage₂
    exact ⟨b₂, hdoes, b₁, hat, hpage, hnew, hpage₂, hmodel⟩
  have hmeq : m = .references e.name := by
    rw [textModel?, if_pos hd, harea] at hm
    rw [← Option.some.inj hm, harea]
  have hmarkup := textMarkup_eq hm htext
  simp only [isTextContent, Bool.and_eq_true] at htext
  obtain ⟨⟨hclean, hended⟩, -⟩ := htext
  subst hpage₁ hmeq
  have hmode : modeAt (placeOf ((b₁.page.size, written e) :: (n, c) :: os)) =
      modeAt (placeOf ((n, c) :: os)) := modeAt_textarea harea
  have hbody := mode_of_textarea hd harea hadmits
  have hopen : b₂.page.IsOpen b₁.page.size := by
    rw [hpage]
    exact isOpen_new hat.linked hat.isInner (written e)
  obtain ⟨b₃, hcontent, hfilled⟩ := Filled.tokens hnew hopen (.start _ _)
    (Tokenizer.spells_textTokens showNul (Tokenizer.not_mem_of_isClean hclean).2)
    (fun _ => by
      rw [hmode]
      have hall : ∀ mode ∈ bodyModes, mode ∉ waitingModes := by decide
      exact hall _ hbody)
    (fun _ hnot => by
      rw [hmode] at hnot
      exact absurd (List.mem_append_left _ hbody) hnot)
    (fun hdrops => hkeep (hmode ▸ hdrops.1))
  have hvoid : isVoid e = false := by
    rw [isVoid_eq hd, harea]
    decide
  have hsame : lowerString e.name = e.name := by
    rw [harea]
    decide
  obtain ⟨b₄, hend, hback, hpage₄⟩ := (hfilled.at hnew).ends hadmits hregular (.inr harea) hvoid
  rw [hsame] at hend
  have hlast := does_processTokens_single (Build.does_processToken_last hend)
  have hround : Reads anything (textMarkup e text ++ endMarkup e) b₂ _ :=
    Build.reads_round (by simp [endMarkup_eq]) (fun cdata rest _ => by
      rw [hmodel, hmarkup, endMarkup_eq, List.append_assoc]
      exact Tokenizer.next_content hname hlower hended cdata rest)
    (does_processTokens_append hcontent hlast)
  refine ⟨b₄, hstart.append hround fun _ _ => trivial, hback, ?_⟩
  rw [hpage₄, hfilled.page_eq, List.nil_append, ← hpage]

end Nesting

end ContentBinding.Markup
