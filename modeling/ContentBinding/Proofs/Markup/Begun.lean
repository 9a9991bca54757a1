import ContentBinding.Proofs.Markup.Beginning

/-! Every page that was read has begun: before the first token that puts something on the page
nothing stands there, and from then on no step changes how the page begins. -/

set_option mvcgen.warning false

namespace ContentBinding.Markup

namespace Build

open Std.Do

section Tokens

variable {b : Builder} {t : Token}

/-- Nothing was read yet that stands on the page. -/
structure Blank (b : Builder) : Prop where
  page_eq : b.page = .empty
  stack_eq : b.stack = []
  head_eq : b.head = none
  mode_mem : b.mode = .initial ∨ b.mode = .beforeHtml

def Begun (b : Builder) : Prop :=
  Blank b ∨ Led b

theorem Begun.setModel (h : Begun b) (m : ContentModel) : Begun { b with model := m } :=
  h.imp_left fun h => { h with }

theorem ledBy_first {c : Content} (hc : c.isLead = true) :
    ((Page.empty.create c).1.append Page.root 1).LedBy 1 where
  root_eq := rfl
  children_eq := ⟨[], rfl⟩
  content_eq := ⟨c, rfl, hc⟩

theorem Blank.led_node (h : Blank b) {c : Content} (hc : c.isLead = true) :
    Led { b with page := (b.page.create c).1.append Page.root (b.page.create c).2 } := by
  refine ⟨1, ?_, ?_, ?_, ?_⟩
  · rw [h.page_eq]
    exact ledBy_first hc
  · rw [h.stack_eq]
    exact nofun
  · rw [h.stack_eq]
    exact nofun
  · rw [h.head_eq]
    exact nofun

theorem Blank.led_root (h : Blank b) : Led (openRoot.run b).2 := by
  refine ⟨1, ?_, ?_, ?_, ?_⟩
  · have hpage : (openRoot.run b).2.page =
        (b.page.create (.element { name := "html" })).1.append Page.root b.page.size := rfl
    rw [hpage, h.page_eq]
    exact ledBy_first rfl
  · have hstack : (openRoot.run b).2.stack = b.page.size :: b.stack := rfl
    rw [hstack, h.stack_eq]
    exact nofun
  · have hstack : (openRoot.run b).2.stack = b.page.size :: b.stack := rfl
    rw [hstack, h.stack_eq, h.page_eq]
    exact fun n hn => List.mem_singleton.mp hn ▸ Nat.one_ne_zero
  · have hhead : (openRoot.run b).2.head = b.head := rfl
    rw [hhead, h.head_eq]
    exact nofun

theorem Blank.step (h : Blank b) (t : Token) : Begun ((step t).run b).2 := by
  have hstep : (Build.step t).run b = (stepHtml b.mode t).run b := by
    have hrun : (Build.step t).run b = (if Foreign.isHtmlContent
        ((b.stack.head?.bind b.page.element?).getD { name := "" }) t then stepHtml b.mode t
        else stepForeign ((b.stack.head?.bind b.page.element?).getD { name := "" }) t).run b := rfl
    have hcontent : Foreign.isHtmlContent { name := "" } t = true := by
      cases t <;> rfl
    rw [hrun, h.stack_eq, List.head?_nil, Option.bind_none, Option.getD_none, hcontent]
    rfl
  rw [hstep]
  rcases h.mode_mem with hmode | hmode
  · rw [hmode]
    -- without a doctype the page is an old one, and the token is read again in the next mode
    have hold : Blank { b with oldPage := true, mode := .beforeHtml } := { h with mode_mem := .inr rfl }
    cases t with
    | characters cs => exact .inl hold
    | spaces cs => exact .inl h
    | startTag tag => exact .inl hold
    | endTag tag => exact .inl hold
    | comment s => exact .inr (h.led_node (c := .comment s) rfl)
    | doctype d => exact .inr (h.led_node (c := .doctype d.declared) rfl)
  · rw [hmode]
    cases t with
    | characters cs => exact .inr h.led_root
    | spaces cs => exact .inl h
    | startTag tag => exact .inr h.led_root
    | endTag tag =>
      have hrun : (stepHtml .beforeHtml (.endTag tag)).run b =
          (if pageEnds.contains tag.name then (do openRoot; return true) else return false :
            Build Bool).run b := rfl
      rw [hrun]
      split
      · exact .inr h.led_root
      · exact .inl h
    | comment s => exact .inr (h.led_node (c := .comment s) rfl)
    | doctype d => exact .inl h

theorem begun_step (ht : t.IsLegible) : ⦃fun b => ⌜Begun b⌝⦄ step t ⦃⇓ _ b => ⌜Begun b⌝⦄ := by
  rintro b (h | h)
  · exact h.step t
  · exact .inr (@Invariant.preserves_step _ invariant_led t ht b h)

theorem begun_process (ht : t.IsLegible) (fuel : Nat) :
    ⦃fun b => ⌜Begun b⌝⦄ process fuel t ⦃⇓ _ b => ⌜Begun b⌝⦄ := by
  have hstep := begun_step ht
  induction fuel with
  | zero => mvcgen [process]
  | succ fuel ih => mvcgen [process, hstep, ih]

theorem begun_processTokens {ts : List Token} (hts : ∀ t ∈ ts, t.IsLegible) :
    ⦃fun b => ⌜Begun b⌝⦄ processTokens ts ⦃⇓ _ b => ⌜Begun b⌝⦄ := by
  induction ts with
  | nil => mvcgen [processTokens]
  | cons t ts ih =>
    obtain ⟨ht, hts⟩ := List.forall_mem_cons.mp hts
    have hprocess := begun_process ht
    have hrest := ih hts
    mvcgen [processTokens, processToken, hprocess, hrest]

theorem begun_consume (fuel : Nat) (cs : List Char) :
    ⦃fun b => ⌜Begun b⌝⦄ consume fuel cs ⦃⇓ _ b => ⌜Begun b⌝⦄ := by
  induction fuel generalizing cs with
  | zero => mvcgen [consume]
  | succ fuel ih =>
    cases cs with
    | nil => mvcgen [consume]
    | cons c cs =>
      mvcgen [consume, inForeign, setModel, begun_processTokens, ih]
      · exact Tokenizer.isLegible_next _ _ _
      · next h _ _ _ => exact h.setModel _
      · exact Tokenizer.isLegible_next _ _ _
      · next h _ _ _ _ _ => exact h.setModel _

theorem keeps_finish (fuel : Nat) : Keeps (finish fuel) :=
  @Invariant.preserves_finish _ invariant_led fuel

theorem led_finish_of_beforeHtml (h : Blank b) (hmode : b.mode = .beforeHtml) (fuel : Nat) :
    Led ((finish (fuel + 1)).run b).2 := by
  have hrun : (finish (fuel + 1)).run b = (finish fuel).run (openRoot.run b).2 := by
    cases b
    subst hmode
    rfl
  rw [hrun]
  exact keeps_finish fuel _ h.led_root

theorem Begun.finish (h : Begun b) (fuel : Nat) : Led ((finish (fuel + 2)).run b).2 := by
  rcases h with h | h
  · rcases h.mode_mem with hmode | hmode
    · have hrun : (Build.finish (fuel + 2)).run b =
          (Build.finish (fuel + 1)).run { b with oldPage := true, mode := .beforeHtml } := by
        cases b
        subst hmode
        rfl
      have hblank : Blank { b with oldPage := true, mode := .beforeHtml } :=
        { h with mode_mem := .inr rfl }
      rw [hrun]
      exact led_finish_of_beforeHtml hblank rfl fuel
    · exact led_finish_of_beforeHtml h hmode (fuel + 1)
  · exact keeps_finish (fuel + 2) b h

end Tokens

end Build

namespace Page

/-- What was read from any text begins with a doctype, a comment or the outermost element. -/
theorem ledBy_parse (html : String) : ∃ f, (parse html).LedBy f := by
  have hblank : Build.Blank {} := ⟨rfl, rfl, rfl, .inl rfl⟩
  have hbegun := Build.begun_consume (normalizeLines html.toList).length
    (normalizeLines html.toList) {} (.inl hblank)
  obtain ⟨f, hguards⟩ := Build.Begun.finish hbegun 14
  exact ⟨f, hguards.page⟩

end Page

end ContentBinding.Markup
