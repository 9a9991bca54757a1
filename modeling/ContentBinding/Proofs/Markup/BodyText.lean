import ContentBinding.Proofs.Markup.Stability

/-! Markup that is text and line breaks, with no page around it. The first character that is no
space, or the first line break, opens the outermost element, the head and the body; the spaces before
it belong to none of them. -/

namespace ContentBinding.Markup

namespace Tokenizer

variable {cs rest : List Char}

/-- The characters that stand for themselves in markup, wherever they are. -/
def isLiteral (c : Char) : Bool :=
  !(['<', '&', '\x00', '\r'].contains c)

theorem ne_of_isLiteral {c : Char} (h : isLiteral c = true) :
    c ≠ '<' ∧ c ≠ '&' ∧ c ≠ '\x00' ∧ c ≠ '\r' := by
  simpa [isLiteral] using h

theorem textTokens_run {c : Char} (hc : isSpace c = false)
    (h : ∀ d ∈ c :: rest, isLiteral d = true) :
    textTokens id (c :: rest) = [.characters (c :: rest)] := by
  obtain ⟨hfirst, hrest⟩ := List.forall_mem_cons.mp h
  obtain ⟨-, hamp, hnul, -⟩ := ne_of_isLiteral hfirst
  have hall : ∀ d ∈ rest, (d != '&' && d != '\x00') = true := by
    intro d hd
    obtain ⟨-, hamp, hnul, -⟩ := ne_of_isLiteral (hrest d hd)
    simp [hamp, hnul]
  rw [textTokens_characters id hamp hnul hc, List.takeWhile_eq_self_iff.mpr hall,
    List.dropWhile_eq_nil_iff.mpr hall, textTokens]

def spaceTokens (cs : List Char) : List Token :=
  if cs = [] then [] else [.spaces cs]

def runTokens (cs : List Char) : List Token :=
  if cs = [] then [] else [.characters cs]

theorem isSpace_of_dropWhile_eq_cons {c : Char} (h : cs.dropWhile isSpace = c :: rest) :
    isSpace c = false := by
  have hne : cs.dropWhile isSpace ≠ [] := h ▸ List.cons_ne_nil c rest
  have hhead := List.head_dropWhile_not isSpace hne
  simpa only [h, List.head_cons] using hhead

theorem textTokens_literal (h : ∀ c ∈ cs, isLiteral c = true) : textTokens id cs =
    spaceTokens (cs.takeWhile isSpace) ++ runTokens (cs.dropWhile isSpace) := by
  have hrun : textTokens id (cs.dropWhile isSpace) = runTokens (cs.dropWhile isSpace) := by
    cases hdrop : cs.dropWhile isSpace with
    | nil => rw [textTokens, runTokens, if_pos rfl]
    | cons c more =>
      rw [runTokens, if_neg (List.cons_ne_nil c more)]
      apply textTokens_run (isSpace_of_dropWhile_eq_cons hdrop)
      intro d hd
      exact h d ((List.dropWhile_sublist _).subset (hdrop ▸ hd))
  cases cs with
  | nil => exact hrun
  | cons c rest =>
    by_cases hc : isSpace c = true
    · rw [List.dropWhile_cons_of_pos hc] at hrun ⊢
      rw [List.takeWhile_cons_of_pos hc, textTokens_spaces id hc, hrun, spaceTokens,
        if_neg (List.cons_ne_nil _ _)]
      rfl
    · rw [List.dropWhile_cons_of_neg hc] at hrun ⊢
      rw [List.takeWhile_cons_of_neg hc, hrun]
      rfl

theorem holdsNoReference_of_isLiteral (h : ∀ c ∈ cs, isLiteral c = true) :
    holdsNoReference cs = true := by
  induction cs with
  | nil => rfl
  | cons c cs ih =>
    obtain ⟨hc, hcs⟩ := List.forall_mem_cons.mp h
    rw [holdsNoReference, ih hcs, Bool.and_true, bne_iff_ne.mpr (ne_of_isLiteral hc).2.1,
      Bool.true_or]

theorem isWrittenAs_literal (h : ∀ c ∈ cs, isLiteral c = true) : IsWrittenAs cs cs where
  lt_not_mem hmem := (ne_of_isLiteral (h _ hmem)).1 rfl
  spells := spells_textTokens_raw id (fun hmem => (ne_of_isLiteral (h _ hmem)).2.2.1 rfl)
    (holdsNoReference_of_isLiteral h)

end Tokenizer

namespace Nesting

open Build (Does Reads)
open Tokenizer (IsCut isLiteral)

def htmlElement : Element := { name := "html" }
def headElement : Element := { name := "head" }
def bodyElement : Element := { name := "body" }
def lineBreak : Element := { name := "br" }

def barePage : Page :=
  ((Page.empty.addChild 0 (.element htmlElement)).addChild 1 (.element headElement)).addChild 1
    (.element bodyElement)

def bareBuilder : Builder :=
  { page := barePage, stack := [3, 1], mode := .inBody, head := some 2, oldPage := true }

theorem linked_barePage : barePage.Linked := by
  have hne {e : Element} : Content.element e ≠ .document := nofun
  have hroot : (Page.empty.addChild 0 (.element htmlElement)).Linked :=
    Page.linked_addChild Page.linked_empty (.inl rfl) hne
  have hhead := Page.linked_addChild hroot (.inr rfl : Page.IsInner _ 1)
    (hne (e := headElement))
  exact Page.linked_addChild hhead (.inr rfl) hne

theorem at_bareBuilder : At true bareBuilder [(3, bodyElement), (1, htmlElement)] where
  linked := linked_barePage
  stack_eq := rfl
  element := by
    intro o ho
    simp only [List.mem_cons, List.not_mem_nil, or_false] at ho
    rcases ho with rfl | rfl <;> rfl
  nodup := by decide
  formatting_eq := rfl
  form_eq := rfl
  mode_eq := by decide
  model_eq := rfl
  fostering_eq := rfl
  oldPage_eq := rfl

def OpensBody (t : Token) : Prop :=
  (∃ cs, t = .characters cs) ∨ t = .startTag (tagOf lineBreak)

theorem runs_bare {t : Token} {b' : Builder} (ht : OpensBody t)
    (h : Does (Build.step t) bareBuilder false b') : Build.Runs t 6 {} b' := by
  -- the token is read again in each mode up to the body, which opens what is missing
  have hfirst : Does (Build.step t) {} true { oldPage := true, mode := .beforeHtml } := by
    rcases ht with ⟨cs, rfl⟩ | rfl <;> rfl
  have hroot : Does (Build.step t) { oldPage := true, mode := .beforeHtml } true
      { page := Page.empty.addChild 0 (.element htmlElement), stack := [1], oldPage := true,
        mode := .beforeHead } := by
    rcases ht with ⟨cs, rfl⟩ | rfl <;> rfl
  have hhead : Does (Build.step t)
      { page := Page.empty.addChild 0 (.element htmlElement), stack := [1], oldPage := true,
        mode := .beforeHead } true
      { page := (Page.empty.addChild 0 (.element htmlElement)).addChild 1 (.element headElement),
        stack := [2, 1], oldPage := true, mode := .inHead, head := some 2 } := by
    rcases ht with ⟨cs, rfl⟩ | rfl <;> rfl
  have hafter : Does (Build.step t)
      { page := (Page.empty.addChild 0 (.element htmlElement)).addChild 1 (.element headElement),
        stack := [2, 1], oldPage := true, mode := .inHead, head := some 2 } true
      { page := (Page.empty.addChild 0 (.element htmlElement)).addChild 1 (.element headElement),
        stack := [1], oldPage := true, mode := .afterHead, head := some 2 } := by
    rcases ht with ⟨cs, rfl⟩ | rfl <;> rfl
  have hbody : Does (Build.step t)
      { page := (Page.empty.addChild 0 (.element htmlElement)).addChild 1 (.element headElement),
        stack := [1], oldPage := true, mode := .afterHead, head := some 2 } true bareBuilder := by
    rcases ht with ⟨cs, rfl⟩ | rfl <;> rfl
  exact .again hfirst (.again hroot (.again hhead (.again hafter (.again hbody (.last h)))))

variable {old : Bool} {b b' : Builder} {os : Opened} {n : NodeId} {c : Element} {cs : List Char}

theorem reads_bodyText (hat : At old b ((n, c) :: os)) (hopen : b.page.IsOpen n)
    (hmode : modeAt (placeOf ((n, c) :: os)) = .inBody)
    (hname : ["pre", "listing", "textarea"].contains c.name = false)
    (h : ∀ c ∈ cs, isLiteral c = true) :
    ∃ b', Reads IsCut cs b b' ∧ At old b' ((n, c) :: os) ∧ b'.page = b.page.withText n cs := by
  have hwritten := Tokenizer.isWrittenAs_literal h
  obtain ⟨b', hdoes, hfilled⟩ := Filled.tokens hat hopen (.start b n) hwritten.spells
    (fun _ => by rw [hmode]; decide) (fun _ hnot => by rw [hmode] at hnot; exact absurd (by decide) hnot)
    (fun hdrops => absurd hdrops.2.1 (by rw [hname]; decide))
  exact ⟨b', Build.reads_run hat.model_eq hwritten.lt_not_mem hdoes, hfilled.at hat, hfilled.page_eq⟩

/-- The first text of a page opens the body, unless it is all spaces; its own first spaces are
dropped. -/
theorem reads_firstText (h : ∀ c ∈ cs, isLiteral c = true) :
    ∃ b', Reads IsCut cs {} b' ∧ (cs.dropWhile isSpace = [] ∧ b' = {} ∨
      At true b' [(3, bodyElement), (1, htmlElement)] ∧
        b'.page = barePage.withText 3 (cs.dropWhile isSpace)) := by
  have hlt : '<' ∉ cs := (Tokenizer.isWrittenAs_literal h).lt_not_mem
  -- spaces before the first other character are dropped, and nothing is built yet
  have hspaces : Does (Build.processTokens (Tokenizer.spaceTokens (cs.takeWhile isSpace))) {} () {} := by
    unfold Tokenizer.spaceTokens
    split
    · exact .pure () _
    · exact does_processTokens_single (Build.does_processToken_last rfl)
  cases hdrop : cs.dropWhile isSpace with
  | nil =>
    refine ⟨{}, Build.reads_run rfl hlt ?_, .inl ⟨rfl, rfl⟩⟩
    rw [Tokenizer.textTokens_literal h, hdrop]
    exact does_processTokens_append hspaces (.pure () _)
  | cons d more =>
    have hd : isSpace d = false := Tokenizer.isSpace_of_dropWhile_eq_cons hdrop
    have hmem : d ∈ cs := (List.dropWhile_sublist _).subset (hdrop ▸ List.mem_cons_self)
    have hnul : d :: more ≠ ['\x00'] := by
      intro heq
      exact (Tokenizer.ne_of_isLiteral (h d hmem)).2.2.1 (List.cons.inj heq).1
    have hopen : bareBuilder.page.IsOpen 3 := by
      intro k hk
      exact absurd hk nofun
    obtain ⟨b', hstep, hfilled⟩ := Filled.characters at_bareBuilder hopen (.start _ _)
      (List.cons_ne_nil d more) hnul fun _ => by decide
    have hruns := runs_bare (.inl ⟨_, rfl⟩) hstep
    refine ⟨b', Build.reads_run rfl hlt ?_, .inr ⟨hfilled.at at_bareBuilder, hfilled.page_eq⟩⟩
    rw [Tokenizer.textTokens_literal h, hdrop]
    exact does_processTokens_append hspaces
      (does_processTokens_single (hruns.does_processToken (by decide)))

/-! Lines -/

theorem readable_lineBreak : isReadable lineBreak = true ∧ textModel? lineBreak = none ∧
    isVoid lineBreak = true ∧ written lineBreak = lineBreak ∧
    admits true [bodyElement, htmlElement] lineBreak = true := by
  decide +kernel

def breakMarkup : List Char := ['<', 'b', 'r', '>']

theorem startMarkup_lineBreak : startMarkup lineBreak = breakMarkup := by
  decide +kernel

/-- The trees of a text. -/
def textTrees (cs : List Char) : List Tree :=
  if cs = [] then [] else [.text (String.ofList cs)]

/-- Lines as trees, each with the line break before it. -/
def lineTrees (lines : List (List Char)) : List Tree :=
  lines.flatMap fun cs => .element lineBreak [] :: textTrees cs

def lineMarkup (lines : List (List Char)) : List Char :=
  lines.flatMap fun cs => breakMarkup ++ cs

theorem isCut_lineMarkup (lines : List (List Char)) {rest : List Char} (h : IsCut rest) :
    IsCut (lineMarkup lines ++ rest) := by
  cases lines with
  | nil => exact h
  | cons cs lines => exact .inr rfl

theorem graftAll_append (p : Page) (n : NodeId) (ts us : List Tree) :
    p.graftAll n (ts ++ us) = (p.graftAll n ts).graftAll n us := by
  induction ts generalizing p with
  | nil => rfl
  | cons t ts ih => exact ih (p.graft n t)

theorem graftAll_textTrees (p : Page) (n : NodeId) (cs : List Char) :
    p.graftAll n (textTrees cs) = p.withText n cs := by
  unfold textTrees Page.withText
  split <;> rfl

def bareOpened : Opened := [(3, bodyElement), (1, htmlElement)]

theorem reads_line {p : Page} {b₁ : Builder} (hbreak : Reads anything breakMarkup b b₁)
    (hat : At true b₁ bareOpened) (hpage : b₁.page = p.addChild 3 (.element lineBreak))
    (hsize : 3 < p.size) (h : ∀ c ∈ cs, isLiteral c = true) :
    ∃ b', Reads IsCut (breakMarkup ++ cs) b b' ∧ At true b' bareOpened ∧
      b'.page = p.graftAll 3 (.element lineBreak [] :: textTrees cs) := by
  have hopen : b₁.page.IsOpen 3 := by
    rw [hpage]
    intro k hk
    rw [Page.children_addChild_self _ hsize, List.getLast?_concat] at hk
    rw [← Option.some.inj hk, Page.text?, Page.content?_addChild_self]
  obtain ⟨b', htext, hat', hpage'⟩ := reads_bodyText hat hopen (by decide) (by decide) h
  refine ⟨b', hbreak.append htext fun _ _ => trivial, hat', ?_⟩
  rw [hpage', hpage, ← graftAll_textTrees]
  rfl

theorem reads_break (hat : At true b bareOpened) :
    ∃ b', Reads anything breakMarkup b b' ∧ At true b' bareOpened ∧
      b'.page = b.page.addChild 3 (.element lineBreak) := by
  obtain ⟨hreadable, hm, hv, hwritten, hadmits⟩ := readable_lineBreak
  obtain ⟨b', hread, hat', hpage⟩ := reads_void (.settled hat) hreadable hadmits hm hv
  rw [hwritten] at hpage
  rw [startMarkup_lineBreak] at hread
  exact ⟨b', hread, hat', hpage⟩

theorem reads_firstBreak : ∃ b', Reads anything breakMarkup {} b' ∧ At true b' bareOpened ∧
    b'.page = barePage.addChild 3 (.element lineBreak) := by
  obtain ⟨hreadable, hm, hv, hwritten, hadmits⟩ := readable_lineBreak
  have hstarts := at_bareBuilder.starts hadmits
  unfold Starts at hstarts
  rw [hm, hv] at hstarts
  obtain ⟨b', hstep, hat, hpage⟩ := hstarts
  rw [hwritten] at hpage
  have hdoes := does_processTokens_single
    ((runs_bare (.inr rfl) hstep).does_processToken (by decide))
  refine ⟨b', ?_, hat, hpage⟩
  rw [← startMarkup_lineBreak]
  exact Build.reads_round (by simp [startMarkup_eq])
    (fun cdata rest _ => next_startMarkup hreadable cdata rest) hdoes

theorem reads_lines {lines : List (List Char)} (hat : At true b bareOpened)
    (h : ∀ cs ∈ lines, ∀ c ∈ cs, isLiteral c = true) :
    ∃ b', Reads IsCut (lineMarkup lines) b b' ∧ At true b' bareOpened ∧
      b'.page = b.page.graftAll 3 (lineTrees lines) := by
  induction lines generalizing b with
  | nil => exact ⟨b, .nil IsCut b, hat, rfl⟩
  | cons cs lines ih =>
    obtain ⟨hfirst, hrest⟩ := List.forall_mem_cons.mp h
    obtain ⟨b₀, hbreak, hat₀, hpage₀⟩ := reads_break hat
    obtain ⟨b₁, hline, hat₁, hpage₁⟩ := reads_line hbreak hat₀ hpage₀
      (hat.lt_size List.mem_cons_self) hfirst
    obtain ⟨b', hlines, hat', hpage'⟩ := ih hat₁ hrest
    refine ⟨b', hline.append hlines fun _ => isCut_lineMarkup lines, hat', ?_⟩
    rw [hpage', hpage₁, ← graftAll_append]
    rfl

theorem reads_lined {first : List Char} {lines : List (List Char)}
    (hfirst : ∀ c ∈ first, isLiteral c = true) (hne : lines ≠ [])
    (h : ∀ cs ∈ lines, ∀ c ∈ cs, isLiteral c = true) :
    ∃ b', Reads IsCut (first ++ lineMarkup lines) {} b' ∧ At true b' bareOpened ∧
      b'.page = barePage.graftAll 3 (textTrees (first.dropWhile isSpace) ++ lineTrees lines) := by
  obtain ⟨b₁, htext, ⟨hblank, rfl⟩ | ⟨hat, hpage⟩⟩ := reads_firstText hfirst
  · -- the first line break opens the body
    obtain ⟨cs, more, rfl⟩ := List.exists_cons_of_ne_nil hne
    obtain ⟨hcs, hmore⟩ := List.forall_mem_cons.mp h
    obtain ⟨b₀, hbreak, hat₀, hpage₀⟩ := reads_firstBreak
    obtain ⟨b₁, hline, hat₁, hpage₁⟩ := reads_line hbreak hat₀ hpage₀ (by decide) hcs
    obtain ⟨b', hlines, hat', hpage'⟩ := reads_lines hat₁ hmore
    refine ⟨b', ?_, hat', ?_⟩
    · have hread := hline.append hlines fun _ => isCut_lineMarkup more
      exact htext.append hread fun _ _ => .inr rfl
    · rw [hpage', hpage₁, hblank, ← graftAll_append]
      rfl
  · obtain ⟨b', hlines, hat', hpage'⟩ := reads_lines hat h
    refine ⟨b', htext.append hlines fun _ => isCut_lineMarkup lines, hat', ?_⟩
    rw [hpage', hpage, graftAll_append, graftAll_textTrees]

end Nesting

/-! Whole pages -/

namespace Page

open Nesting

variable {q : Page}

theorem isInner_barePage : barePage.IsInner 3 := .inr rfl

theorem body?_of_grown (h : Grown barePage q 3) : q.body? = some 3 := by
  obtain ⟨depth, hdepth⟩ : ∃ depth, q.nodes.size = depth + 3 :=
    ⟨q.size - 3, (Nat.sub_add_cancel ((by decide : 3 ≤ barePage.size).trans h.size_le)).symm⟩
  have hroot : q.children 0 = [1] := h.children 0 (by decide) (by decide)
  have hhtml : q.children 1 = [2, 3] := h.children 1 (by decide) (by decide)
  have hhead : q.children 2 = [] := h.children 2 (by decide) (by decide)
  have helement {n : NodeId} {e : Element} (hn : n < barePage.size)
      (he : barePage.element? n = some e) : q.element? n = some e := by
    rw [element?_congr (h.content n hn), he]
  have hbelow : q.descendants root = 1 :: 2 :: 3 :: q.below (depth + 1) 3 := by
    simp [descendants, hdepth, below, root, hroot, hhtml, hhead]
  have h₁ : q.element? 1 = some htmlElement := helement (by decide) rfl
  have h₂ : q.element? 2 = some headElement := helement (by decide) rfl
  have h₃ : q.element? 3 = some bodyElement := helement (by decide) rfl
  simp [body?, firstNamed?, elements, hbelow, isElement, nameOf, h₁, h₂, h₃, htmlElement,
    headElement, bodyElement]

theorem parse_eq_of_reads {markup : String} {b : Builder} (hcr : '\r' ∉ markup.toList)
    (hread : Build.Reads Tokenizer.IsCut markup.toList {} b) (hmode : b.mode = .inBody) :
    parse markup = b.page := by
  obtain ⟨fuel, -, hrun⟩ := hread [] (.inl rfl) _ (Nat.le_refl _)
  rw [List.append_nil] at hrun
  have hconsume : Build.Does (Build.consume markup.toList.length markup.toList) {} () b := by
    refine hrun.trans ?_
    cases fuel <;> rfl
  have hfinish : Build.Does (Build.finish 16) b () b := by
    refine .bind (.get b) ?_
    rw [hmode]
    exact .pure () b
  have hwhole : Build.Does (do
      Build.consume markup.toList.length markup.toList
      Build.finish 16) {} () b := hconsume.bind hfinish
  unfold parse
  rw [normalizeLines_of_not_mem hcr]
  exact congrArg (fun r => r.2.page) hwhole

/-- Lines as content: every text as it is, except that the first loses the spaces at its start. -/
theorem parseFragment_lined {markup : String} {first : List Char} {lines : List (List Char)}
    (hmarkup : markup.toList = first ++ lineMarkup lines) (hne : lines ≠ [])
    (hfirst : ∀ c ∈ first, Tokenizer.isLiteral c = true)
    (h : ∀ cs ∈ lines, ∀ c ∈ cs, Tokenizer.isLiteral c = true) :
    parseFragment markup = textTrees (first.dropWhile isSpace) ++ lineTrees lines := by
  obtain ⟨b, hread, hat, hpage⟩ := reads_lined hfirst hne h
  have hcr : '\r' ∉ markup.toList := by
    rw [hmarkup]
    intro hmem
    rcases List.mem_append.mp hmem with hmem | hmem
    · exact (Tokenizer.ne_of_isLiteral (hfirst _ hmem)).2.2.2 rfl
    · obtain ⟨cs, hcs, hmem⟩ := List.mem_flatMap.mp hmem
      rcases List.mem_append.mp hmem with hmem | hmem
      · exact absurd hmem (by decide)
      · exact (Tokenizer.ne_of_isLiteral (h cs hcs _ hmem)).2.2.2 rfl
  have hparse : parse markup = b.page :=
    parse_eq_of_reads hcr (hmarkup ▸ hread) (hat.mode_eq.trans (by decide))
  obtain ⟨hgrown, htrees⟩ := graftAll_grown
    (textTrees (first.dropWhile isSpace) ++ lineTrees lines) linked_barePage isInner_barePage
  have hfragment : parseFragment markup = (parse markup).trees ((parse markup).body?.getD root) := rfl
  rw [hfragment, hparse, hpage, body?_of_grown hgrown]
  exact htrees

end Page
end ContentBinding.Markup
