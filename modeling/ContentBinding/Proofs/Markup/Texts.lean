import ContentBinding.Proofs.Markup.Steps

/-! Text in a place. Its tokens grow one text node, which is the last child of the innermost element;
in the parts of a table the text waits until the next tag or comment. -/

namespace ContentBinding.Markup

namespace Page

variable {p : Page} {n : NodeId}

def IsOpen (p : Page) (n : NodeId) : Prop :=
  ∀ k, (p.children n).getLast? = some k → p.text? k = none

def withText (p : Page) (n : NodeId) (cs : List Char) : Page :=
  if cs = [] then p else p.addChild n (.text (String.ofList cs))

theorem withText_of_ne {cs : List Char} (h : cs ≠ []) :
    p.withText n cs = p.addChild n (.text (String.ofList cs)) :=
  if_neg h

theorem appendText_of_isOpen (h : p.IsOpen n) (s : String) :
    Build.appendText p n s = p.addChild n (.text s) := by
  unfold Build.appendText
  split
  · next last hlast =>
    rw [h last hlast]
    rfl
  · rfl

theorem appendText_withText (hn : n < p.size) (h : p.IsOpen n) (done : List Char)
    {cs : List Char} (hne : cs ≠ []) :
    Build.appendText (p.withText n done) n (String.ofList cs) = p.withText n (done ++ cs) := by
  by_cases hdone : done = []
  · rw [hdone, List.nil_append, withText, if_pos rfl, appendText_of_isOpen h, withText_of_ne hne]
  · have hlast : ((p.withText n done).children n).getLast? = some p.size := by
      rw [withText_of_ne hdone, children_addChild_self _ hn, List.getLast?_concat]
    have htext : (p.withText n done).text? p.size = some (String.ofList done) := by
      rw [withText_of_ne hdone, text?, content?_addChild_self]
    unfold Build.appendText
    rw [hlast]
    dsimp only
    rw [htext]
    dsimp only
    rw [withText_of_ne hdone, withText_of_ne (by simp [hdone]), setContent_addChild _ _ hn,
      ← String.ofList_append]

theorem grown_withText (hp : p.Linked) (hn : p.IsInner n) (cs : List Char) :
    Grown p (p.withText n cs) n := by
  unfold withText
  split
  · exact .refl hp
  · exact grown_addChild hp hn fun h => Content.noConfusion h

end Page

namespace Build

variable {b b' : Builder} {t : Token}

/-- The step leads the token through repetitions to its end. -/
inductive Runs (t : Token) : Nat → Builder → Builder → Prop
  | last {b b' : Builder} : Does (step t) b false b' → Runs t 1 b b'
  | again {k : Nat} {b b₁ b' : Builder} : Does (step t) b true b₁ → Runs t k b₁ b' →
    Runs t (k + 1) b b'

theorem Runs.does_process {k : Nat} (h : Runs t k b b') {fuel : Nat} (hfuel : k ≤ fuel) :
    Does (process fuel t) b () b' := by
  induction h generalizing fuel with
  | last hdoes =>
    obtain ⟨fuel, rfl⟩ := Nat.exists_eq_succ_of_ne_zero (Nat.pos_iff_ne_zero.mp hfuel)
    exact hdoes.bind (.ite_false Bool.false_ne_true (.pure () _))
  | again hdoes _ ih =>
    obtain ⟨fuel, rfl⟩ := Nat.exists_eq_succ_of_ne_zero
      (Nat.pos_iff_ne_zero.mp ((Nat.succ_pos _).trans_le hfuel))
    exact hdoes.bind (.ite_true rfl (ih (Nat.le_of_succ_le_succ hfuel)))

theorem Runs.does_processToken {k : Nat} (h : Runs t k b b') (hk : k ≤ 16) :
    Does (processToken t) b () b' :=
  .bind (.get b) (h.does_process (hk.trans (Nat.le_add_left 16 _)))

theorem does_processToken_last (h : Does (step t) b false b') : Does (processToken t) b () b' :=
  (Runs.last h).does_processToken (by decide)

end Build

namespace Nesting

open Build (BodyTag Does bodyTag)

variable {old : Bool} {b b₀ b' : Builder} {os : Opened} {n m : NodeId} {c e : Element}
  {place : Place} {done cs : List Char}

/-- The builder has read a text into the innermost element since it was `b₀`. -/
structure Filled (b₀ b : Builder) (n : NodeId) (cs : List Char) : Prop where
  page_eq : b.page = b₀.page.withText n cs
  agrees : At.Agrees b₀ b

theorem Filled.start (b : Builder) (n : NodeId) : Filled b b n [] :=
  ⟨rfl, rfl, rfl, rfl, rfl, rfl, rfl, rfl⟩

theorem Filled.at (hf : Filled b₀ b n cs) (h : At old b₀ ((n, c) :: os)) :
    At old b ((n, c) :: os) :=
  have hgrown : Page.Grown b₀.page b.page n := by
    rw [hf.page_eq]
    exact Page.grown_withText h.linked h.isInner cs
  h.grow hgrown hf.agrees

namespace At

theorem does_insertText (h : At old b ((n, c) :: os)) (cs : List Char) :
    Does (Build.insertText cs) b () { b with
      page := Build.appendText b.page n (String.ofList cs) } :=
  (Build.does_insertionPlace h.fostering_eq h.headD).bind rfl

theorem does_charactersForeign (h : At old b ((n, c) :: os)) (hnul : cs ≠ ['\x00']) :
    ∃ f, Does (Build.charactersForeign cs) b ()
      { b with page := Build.appendText b.page n (String.ofList cs), framesetOk := f } := by
  have hinsert : ∀ f, Does (Build.insertText cs) { b with framesetOk := f } ()
      { b with page := Build.appendText b.page n (String.ofList cs), framesetOk := f } := by
    intro f
    have hset : At old { b with framesetOk := f } ((n, c) :: os) :=
      h.of_agrees rfl ⟨rfl, rfl, rfl, rfl, rfl, rfl, rfl⟩
    exact hset.does_insertText cs
  cases hany : cs.any fun c => !isSpace c with
  | true => exact ⟨false, .ite_false hnul (.ite_true hany (.bind rfl (hinsert false)))⟩
  | false =>
    exact ⟨b.framesetOk, .ite_false hnul (.ite_false (by rw [hany]; decide) (hinsert _))⟩

theorem does_insertBodySpaces (h : At old b ((n, c) :: os)) (hne : cs ≠ [])
    (hkeep : ["pre", "listing", "textarea"].contains c.name = true → b.page.children n = [] →
      cs.head? ≠ some '\n') :
    Does (Build.insertBodySpaces cs) b () { b with
      page := Build.appendText b.page n (String.ofList cs), dropNewline := false } := by
  have hdrop : (b.dropNewline && decide (cs.head? = some '\n') &&
      (b.page.children n).isEmpty &&
      ["pre", "listing", "textarea"].contains (b.page.nameOf n)) = false := by
    rw [nameOf_eq h.head]
    by_contra hall
    simp only [Bool.not_eq_false, Bool.and_eq_true, decide_eq_true_eq, List.isEmpty_iff] at hall
    exact hkeep hall.2 hall.1.2 hall.1.1.2
  have hset : At old { b with dropNewline := false } ((n, c) :: os) :=
    h.of_agrees rfl ⟨rfl, rfl, rfl, rfl, rfl, rfl, rfl⟩
  refine .bind (.get b) (h.does_current.bind (.bind rfl ?_))
  dsimp only
  rw [hdrop, if_neg Bool.false_ne_true]
  refine .ite_false ?_ (hset.does_reopenFormatting.bind (hset.does_insertText cs))
  simpa using hne

theorem stepHtml_characters_select {mode : Mode} (hmode : mode ∈ [.inSelect, .inSelectInTable])
    (cs : List Char) : Build.stepHtml mode (.characters cs) = do
      unless cs = ['\x00'] do Build.insertText cs
      return false := by
  simp only [List.mem_cons, List.not_mem_nil, or_false] at hmode
  rcases hmode with rfl | rfl <;> rfl

theorem stepHtml_spaces {mode : Mode} (hmem : mode ∈ placeModes) (hbody : mode ≠ .inBody)
    (htable : mode ∉ [.inTable, .inTableBody, .inRow]) (cs : List Char) :
    Build.stepHtml mode (.spaces cs) = do Build.insertText cs; return false := by
  simp only [placeModes, List.mem_cons, List.not_mem_nil, or_false] at hmem
  rcases hmem with rfl | rfl | rfl | rfl | rfl | rfl | rfl | rfl | rfl | rfl | rfl | rfl
  all_goals first
    | rfl
    | exact absurd rfl hbody
    | exact absurd (by decide) htable

end At

namespace Filled

variable (h : At old b₀ ((n, c) :: os)) (hopen : b₀.page.IsOpen n) (hf : Filled b₀ b n done)
  (hne : cs ≠ [])

include h hopen hf hne

theorem push (hpage : b'.page = Build.appendText b.page n (String.ofList cs))
    (hagrees : At.Agrees b b') : Filled b₀ b' n (done ++ cs) where
  page_eq := by
    rw [hpage, hf.page_eq, Page.appendText_withText (h.lt_size List.mem_cons_self) hopen done hne]
  agrees := hf.agrees.trans hagrees

theorem bodyText (hnul : cs ≠ ['\x00']) :
    ∃ b', Does (Build.insertBodyText cs) b () b' ∧ Filled b₀ b' n (done ++ cs) := by
  have hb := hf.at h
  refine ⟨{ b with
    page := Build.appendText b.page n (String.ofList cs)
    framesetOk := if cs.any fun c => !isSpace c then false else b.framesetOk }, ?_,
    push h hopen hf hne rfl ⟨rfl, rfl, rfl, rfl, rfl, rfl, rfl⟩⟩
  refine .ite_false hnul (hb.does_reopenFormatting.bind ((hb.does_insertText cs).bind ?_))
  cases cs.any fun c => !isSpace c <;> rfl

theorem characters (hnul : cs ≠ ['\x00'])
    (hplace : Foreign.isHtmlContent c (.characters cs) = true →
      modeAt (placeOf ((n, c) :: os)) ∈ bodyModes ++ [.inSelect, .inSelectInTable]) :
    ∃ b', Does (Build.step (.characters cs)) b false b' ∧ Filled b₀ b' n (done ++ cs) := by
  have hb := hf.at h
  cases hc : Foreign.isHtmlContent c (.characters cs) with
  | true =>
    have hmode := hplace hc
    rw [← hb.mode_eq] at hmode
    rcases List.mem_append.mp hmode with hbody | hselect
    · obtain ⟨b', hinsert, hfilled⟩ := bodyText h hopen hf hne hnul
      have hdoes : Does (do Build.insertBodyText cs; return false) b false b' :=
        hinsert.bind (.pure false b')
      refine ⟨b', hb.does_step_html hc ?_, hfilled⟩
      simp only [bodyModes, List.mem_cons, List.not_mem_nil, or_false] at hbody
      rcases hbody with heq | heq | heq <;> rw [heq] <;> exact hdoes
    · refine ⟨{ b with page := Build.appendText b.page n (String.ofList cs) },
        hb.does_step_html hc ?_, push h hopen hf hne rfl ⟨rfl, rfl, rfl, rfl, rfl, rfl, rfl⟩⟩
      rw [At.stepHtml_characters_select hselect]
      exact .ite_false hnul ((hb.does_insertText cs).bind (.pure false _))
  | false =>
    obtain ⟨f, hdoes⟩ := hb.does_charactersForeign hnul
    exact ⟨_, hb.does_step_foreign hc (hdoes.bind (.pure false _)),
      push h hopen hf hne rfl ⟨rfl, rfl, rfl, rfl, rfl, rfl, rfl⟩⟩

theorem spaces
    (hplace : Foreign.isHtmlContent c (.spaces cs) = true →
      modeAt (placeOf ((n, c) :: os)) ∉ [.inTable, .inTableBody, .inRow])
    (hkeep : modeAt (placeOf ((n, c) :: os)) = .inBody →
      ["pre", "listing", "textarea"].contains c.name = true → b.page.children n = [] →
      cs.head? ≠ some '\n') :
    ∃ b', Does (Build.step (.spaces cs)) b false b' ∧ Filled b₀ b' n (done ++ cs) := by
  have hb := hf.at h
  have hinsert : Does (do Build.insertText cs; return false) b false
      { b with page := Build.appendText b.page n (String.ofList cs) } :=
    (hb.does_insertText cs).bind (.pure false _)
  have hfilled : ∀ d, Filled b₀ { b with
      page := Build.appendText b.page n (String.ofList cs), dropNewline := d } n (done ++ cs) :=
    fun d => push h hopen hf hne rfl ⟨rfl, rfl, rfl, rfl, rfl, rfl, rfl⟩
  cases hc : Foreign.isHtmlContent c (.spaces cs) with
  | false => exact ⟨_, hb.does_step_foreign hc hinsert, hfilled b.dropNewline⟩
  | true =>
    have hnot := hplace hc
    have hmem := modeAt_mem (placeOf ((n, c) :: os))
    rw [← hb.mode_eq] at hmem hnot hkeep
    by_cases hmode : b.mode = .inBody
    · refine ⟨{ b with
        page := Build.appendText b.page n (String.ofList cs), dropNewline := false },
        hb.does_step_html hc ?_, hfilled false⟩
      have hstep : Build.stepHtml b.mode (.spaces cs) = do
          Build.insertBodySpaces cs
          return false := by
        rw [hmode]
        rfl
      rw [hstep]
      exact (hb.does_insertBodySpaces hne (hkeep hmode)).bind (.pure false _)
    · refine ⟨{ b with page := Build.appendText b.page n (String.ofList cs) },
        hb.does_step_html hc ?_, hfilled b.dropNewline⟩
      rw [At.stepHtml_spaces hmem hmode hnot]
      exact hinsert

end Filled

/-! Whole texts -/

open Tokenizer (Spells)

def waitingModes : List Mode :=
  [.inTable, .inTableBody, .inRow]

/-- The first line feed of a text is dropped in the node. -/
def DropsAt (b : Builder) (n : NodeId) (c : Element) (place : Place) : Prop :=
  modeAt place = .inBody ∧ ["pre", "listing", "textarea"].contains c.name = true ∧
    b.page.children n = []

theorem Filled.children_eq_nil (hf : Filled b₀ b n done) (hn : n < b₀.page.size)
    (h : b.page.children n = []) : done = [] ∧ b₀.page.children n = [] := by
  rw [hf.page_eq, Page.withText] at h
  split at h
  · next hdone => exact ⟨hdone, h⟩
  · rw [Page.children_addChild_self _ hn] at h
    exact absurd h (by simp)

theorem Filled.tokens (h : At old b₀ ((n, c) :: os)) (hopen : b₀.page.IsOpen n)
    (hf : Filled b₀ b n done) {ts : List Token} (hspells : Spells ts cs)
    (hwait : holdsHtmlText c = true → modeAt (placeOf ((n, c) :: os)) ∉ waitingModes)
    (hspace : holdsHtmlText c = true →
      modeAt (placeOf ((n, c) :: os)) ∉ bodyModes ++ [.inSelect, .inSelectInTable] →
      ∀ d ∈ cs, isSpace d = true)
    (hkeep : DropsAt b₀ n c (placeOf ((n, c) :: os)) → (done ++ cs).head? ≠ some '\n') :
    ∃ b', Does (Build.processTokens ts) b () b' ∧ Filled b₀ b' n (done ++ cs) := by
  induction hspells generalizing b done with
  | nil => exact ⟨b, .pure () b, (List.append_nil done).symm ▸ hf⟩
  | @spaces run rest ts hne hrun _ ih =>
    obtain ⟨b₁, hstep, hf₁⟩ := Filled.spaces h hopen hf hne hwait fun hmode hname hnone => by
      obtain ⟨rfl, hchildren⟩ := hf.children_eq_nil (h.lt_size List.mem_cons_self) hnone
      have hhead := hkeep ⟨hmode, hname, hchildren⟩
      rwa [List.nil_append, List.head?_append_of_ne_nil _ hne] at hhead
    rw [← List.append_assoc] at hkeep
    obtain ⟨b₂, hrest, hf₂⟩ := ih hf₁
      (fun hc hmode d hd => hspace hc hmode d (List.mem_append_right _ hd)) hkeep
    rw [List.append_assoc] at hf₂
    exact ⟨b₂, (Build.does_processToken_last hstep).bind hrest, hf₂⟩
  | @characters d run rest ts hd hnul _ ih =>
    obtain ⟨b₁, hstep, hf₁⟩ := Filled.characters h hopen hf (List.cons_ne_nil d run)
      (fun heq => hnul (List.cons.inj heq).1) fun hc => by
        by_contra hmode
        have hall := hspace hc hmode d (by simp)
        exact Bool.false_ne_true (hd.symm.trans hall)
    rw [← List.append_assoc] at hkeep
    obtain ⟨b₂, hrest, hf₂⟩ := ih hf₁
      (fun hc hmode d hd => hspace hc hmode d (List.mem_append_right _ hd)) hkeep
    rw [List.append_assoc] at hf₂
    exact ⟨b₂, (Build.does_processToken_last hstep).bind hrest, hf₂⟩

/-! Text that waits -/

def waiting (b : Builder) (cs : List Char) : Builder :=
  { b with mode := .inTableText, tableReturn := b.mode, tableText := cs }

theorem does_step_waiting (h : At old b ((n, c) :: os)) {t : Token} {again : Bool}
    (hc : Foreign.isHtmlContent c t = true)
    (hdoes : Does (Build.stepHtml .inTableText t) (waiting b done) again b') :
    Does (Build.step t) (waiting b done) again b' := by
  have hcurrent : (waiting b done).stack.head?.bind (waiting b done).page.element? = some c :=
    h.current_eq
  unfold Does
  rw [run_step hcurrent, if_pos hc]
  exact hdoes

theorem does_tokens_waiting (h : At old b ((n, c) :: os)) (hc : holdsHtmlText c = true)
    {ts : List Token} (hspells : Spells ts cs) (hspace : ∀ d ∈ cs, isSpace d = true) :
    Does (Build.processTokens ts) (waiting b done) () (waiting b (done ++ cs)) := by
  induction hspells generalizing done with
  | nil => exact (List.append_nil done).symm ▸ .pure () _
  | @spaces run rest ts _ _ _ ih =>
    have hstep : Does (Build.step (.spaces run)) (waiting b done) false
        (waiting b (done ++ run)) := does_step_waiting h hc rfl
    rw [← List.append_assoc]
    exact (Build.does_processToken_last hstep).bind
      (ih fun d hd => hspace d (List.mem_append_right _ hd))
  | characters hd => exact absurd (hspace _ (by simp)) (Bool.eq_false_iff.mp hd)

theorem does_tokens_begin (h : At old b ((n, c) :: os)) (hc : holdsHtmlText c = true)
    (hwait : modeAt (placeOf ((n, c) :: os)) ∈ waitingModes) {ts : List Token}
    (hspells : Spells ts cs) (hspace : ∀ d ∈ cs, isSpace d = true) (hne : cs ≠ []) :
    Does (Build.processTokens ts) b () (waiting b cs) := by
  cases hspells with
  | nil => exact absurd rfl hne
  | @spaces run rest ts _ _ hrest =>
    have hbegin : Does (Build.stepHtml b.mode (.spaces run)) b false (waiting b run) := by
      have hall : ∀ mode ∈ waitingModes, Build.stepHtml mode (.spaces run) = do
          Build.beginTableText run
          return false := by
        intro mode hmem
        simp only [waitingModes, List.mem_cons, List.not_mem_nil, or_false] at hmem
        rcases hmem with rfl | rfl | rfl <;> rfl
      rw [← h.mode_eq] at hwait
      rw [hall _ hwait]
      rfl
    have hstep := h.does_step_html (t := .spaces run) hc hbegin
    exact (Build.does_processToken_last hstep).bind
      (does_tokens_waiting h hc hrest fun d hd => hspace d (List.mem_append_right _ hd))
  | characters hd => exact absurd (hspace _ (by simp)) (Bool.eq_false_iff.mp hd)

theorem does_flush (h : At old b ((n, c) :: os)) (hopen : b.page.IsOpen n) (hne : cs ≠ [])
    (hspace : ∀ d ∈ cs, isSpace d = true) :
    ∃ b', Does (Build.flushTableText Build.insertBodyText) (waiting b cs) () b' ∧
      Filled b b' n cs := by
  have hset : At old { b with tableText := [], tableReturn := b.mode } ((n, c) :: os) :=
    h.of_agrees rfl ⟨rfl, rfl, rfl, rfl, rfl, rfl, rfl⟩
  refine ⟨{ b with
    page := Build.appendText b.page n (String.ofList cs), tableText := [], tableReturn := b.mode },
    ?_, ?_⟩
  · refine .bind (.get _) (.bind rfl (.ite_false ?_ (.ite_true ?_ (hset.does_insertText cs))))
    · simpa [waiting] using hne
    · exact List.all_eq_true.mpr hspace
  · exact Filled.push h hopen (.start b n) hne rfl ⟨rfl, rfl, rfl, rfl, rfl, rfl, rfl⟩

/-- The builder stands in a place of the page that it has read; spaces in a part of a table may not
be in its own page yet. -/
inductive Stands (old : Bool) (n : NodeId) (c : Element) (os : Opened) : Builder → Page → Prop
  | settled {b : Builder} : At old b ((n, c) :: os) → Stands old n c os b b.page
  | waiting {b : Builder} {cs : List Char} : At old b ((n, c) :: os) → c.dialect = .html →
    b.page.IsOpen n → cs ≠ [] → (∀ d ∈ cs, isSpace d = true) →
    Stands old n c os (waiting b cs) (b.page.withText n cs)

theorem Stands.exists_processed {p : Page} {t : Token} {Q : Builder → Prop}
    (h : Stands old n c os b p)
    (ht : Build.stepHtml .inTableText t = do
      Build.flushTableText Build.insertBodyText
      return true)
    (hstep : ∀ b₁, At old b₁ ((n, c) :: os) → b₁.page = p →
      ∃ b', Does (Build.step t) b₁ false b' ∧ Q b') :
    ∃ b', Does (Build.processToken t) b () b' ∧ Q b' := by
  cases h with
  | settled hat =>
    obtain ⟨b', hdoes, hq⟩ := hstep b hat rfl
    exact ⟨b', Build.does_processToken_last hdoes, hq⟩
  | waiting hat hd hopen hne hspace =>
    obtain ⟨b₁, hflush, hfilled⟩ := does_flush hat hopen hne hspace
    obtain ⟨b', hdoes, hq⟩ := hstep b₁ (hfilled.at hat) hfilled.page_eq
    have hagain := does_step_waiting hat (isHtmlContent_html hd t)
      (ht ▸ hflush.bind (.pure true b₁))
    exact ⟨b', (Build.Runs.again hagain (.last hdoes)).does_processToken (by decide), hq⟩

end Nesting
end ContentBinding.Markup
