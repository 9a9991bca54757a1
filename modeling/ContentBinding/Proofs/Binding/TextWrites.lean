import ContentBinding.Binding.Injection
import ContentBinding.Proofs.Markup.Nesting

/-! Text writes. Escaped, a text is no markup in the element that it is written to. A script or a
style has it as it is, and there HTML reads it back unless the text ends its element early, or hides
the end tag that follows. -/

namespace ContentBinding.Markup

namespace Tokenizer

/-! The end of raw text -/

def mayEndBehind (m : ContentModel) (front : List Char) : Bool :=
  match m with
  | .script => ((front.foldl ScriptState.step .plain).step '<').mayEnd
  | _ => true

/-- The text ends before its element does: it holds an end tag of the element where that counts, or
it hides the one that follows. -/
def EndsEarly (m : ContentModel) (name text : List Char) : Prop :=
  (∃ front back, text = front ++ back ∧ mayEndBehind m front = true ∧
    (endTagAt? name back).isSome) ∨ mayEndBehind m text = false

variable {name text : List Char}

theorem dropWord_before_lt (hname : '<' ∉ name) {cs rest after : List Char} {c : Char}
    (h : dropWord name (cs ++ '<' :: rest) = some (c :: after)) (hc : ScriptState.endsWord c = true) :
    ∃ back, dropWord name cs = some (c :: back) := by
  induction name generalizing cs with
  | nil =>
    cases cs with
    | nil =>
      obtain ⟨rfl, -⟩ := List.cons.inj (Option.some.inj h)
      exact absurd hc (by decide)
    | cons d ds =>
      obtain ⟨rfl, -⟩ := List.cons.inj (Option.some.inj h)
      exact ⟨ds, rfl⟩
  | cons w ws ih =>
    rw [List.mem_cons, not_or] at hname
    cases cs with
    | nil =>
      have hne : ¬ '<'.toLower = w := hname.1
      rw [List.nil_append, dropWord, if_neg hne] at h
      cases h
    | cons d ds =>
      rw [List.cons_append, dropWord] at h
      rw [dropWord]
      split at h
      · next hd =>
        rw [if_pos hd]
        exact ih hname.2 h
      · cases h

/-- No end tag runs over into the one that follows the text. -/
theorem endTagAt?_before_lt (hname : '<' ∉ name) {c : Char} {cs rest : List Char}
    (h : endTagAt? name (c :: cs) = none) : endTagAt? name (c :: (cs ++ '<' :: rest)) = none := by
  cases cs with
  | nil => exact endTagAt?_other name (fun hc => absurd hc.2 (by decide)) rest
  | cons d ds =>
    by_cases htag : c = '<' ∧ d = '/'
    · obtain ⟨rfl, rfl⟩ := htag
      rw [List.cons_append, endTagAt?_tag]
      rw [endTagAt?_tag] at h
      by_contra hsome
      obtain ⟨found, hfound⟩ := Option.ne_none_iff_exists'.mp hsome
      obtain ⟨after, hdrop, hends⟩ := Option.bind_eq_some_iff.mp hfound
      split at hends
      · next hany =>
        cases after with
        | nil => exact absurd hany (by decide)
        | cons b after =>
          have hb : ScriptState.endsWord b = true := by simpa using hany
          obtain ⟨back, hback⟩ := dropWord_before_lt hname hdrop hb
          rw [hback] at h
          simp [hb] at h
      · exact absurd hends nofun
    · exact endTagAt?_other name htag _

theorem splitAtEndTag_text (hname : '<' ∉ name) (hlower : ∀ c ∈ name, c.toLower = c)
    (h : ∀ front back, text = front ++ back → endTagAt? name back = none) :
    splitAtEndTag name (text ++ endTagText name) = (text, some ['>']) := by
  induction text with
  | nil => simpa using splitAtEndTag_of_not_mem List.not_mem_nil hlower []
  | cons c cs ih =>
    have hhere : endTagAt? name (c :: (cs ++ endTagText name)) = none :=
      endTagAt?_before_lt hname (h [] _ rfl)
    rw [List.cons_append, splitAtEndTag_of_none hhere, ih fun front back heq =>
      h (c :: front) back (congrArg (c :: ·) heq)]

theorem splitScript_text {s : ScriptState}
    (h : ∀ front back, text = front ++ back →
      ((front.foldl ScriptState.step s).step '<').mayEnd = true →
        endTagAt? "script".toList back = none)
    (hlast : ((text.foldl ScriptState.step s).step '<').mayEnd = true) :
    splitScript s (text ++ endTagText "script".toList) = (text, some ['>']) := by
  induction text generalizing s with
  | nil =>
    have hend : endTagAt? "script".toList (endTagText "script".toList) = some ['>'] := rfl
    exact splitScript_of_some ((if_pos hlast).trans hend)
  | cons c cs ih =>
    have hnone : (if (s.step c).mayEnd then endTagAt? "script".toList
        (c :: (cs ++ endTagText "script".toList)) else none) = none := by
      split
      · next hmay =>
        by_cases hc : c = '<'
        · subst hc
          exact endTagAt?_before_lt (by decide) (h [] ('<' :: cs) rfl hmay)
        · cases hcs : cs ++ endTagText "script".toList with
          | nil => exact absurd hcs (by simp [endTagText])
          | cons d ds => exact endTagAt?_other _ (fun htag => hc htag.1) ds
      · rfl
    rw [List.cons_append, splitScript_of_none hnone,
      ih (fun front back heq => h (c :: front) back (congrArg (c :: ·) heq)) hlast]

theorem isEnded_of_not_endsEarly {m : ContentModel} {name : String}
    (hm : modelName? m = some name) (hname : '<' ∉ name.toList)
    (hlower : ∀ c ∈ name.toList, c.toLower = c) (h : ¬ EndsEarly m name.toList text) :
    isEnded m text = true := by
  rw [EndsEarly, not_or, Bool.not_eq_false] at h
  obtain ⟨hinside, hlast⟩ := h
  have hnone : ∀ front back, text = front ++ back → mayEndBehind m front = true →
      endTagAt? name.toList back = none := by
    intro front back heq hmay
    by_contra hsome
    exact hinside ⟨front, back, heq, hmay, Option.isSome_iff_ne_none.mpr hsome⟩
  cases m with
  | data => rfl
  | plain => rfl
  | references n => rfl
  | raw n =>
    obtain rfl : n = name := Option.some.inj hm
    exact decide_eq_true (splitAtEndTag_text hname hlower fun front back heq => hnone front back heq rfl)
  | script =>
    obtain rfl : "script" = name := Option.some.inj hm
    exact decide_eq_true (splitScript_text hnone hlast)

theorem lt_mem_of_endTagAt? {name cs : List Char} (h : (endTagAt? name cs).isSome) : '<' ∈ cs := by
  unfold endTagAt? at h
  split at h
  · exact List.mem_cons_self
  · exact absurd h nofun

theorem not_endsEarly_raw {n : String} {name text : List Char} (h : '<' ∉ text) :
    ¬ EndsEarly (.raw n) name text := by
  rintro (⟨front, back, rfl, -, htag⟩ | hlast)
  · exact h (List.mem_append_right front (lt_mem_of_endTagAt? htag))
  · exact absurd hlast nofun

/-- A comment that opens a script in the text hides the end of its element. -/
example : EndsEarly .script "script".toList "<!--<script>".toList :=
  .inr (by decide)

end Tokenizer
end ContentBinding.Markup

namespace ContentBinding.Binding

open Markup
open Tokenizer (EndsEarly isClean)

/-- What HTML reads in an element behind its start tag, when this text and its end tag follow. -/
def readsText (e : Element) (v : String) : List Token :=
  (if v = "" then [] else [.characters v.toList]) ++ [.endTag ⟨e.name, [], false⟩]

variable {e : Element} {v : String} {m : ContentModel}

theorem modelName?_of_raw (hraw : e.name = "script" ∨ e.name = "style")
    (hm : Nesting.textModel? e = some m) : Tokenizer.modelName? m = some e.name := by
  unfold Nesting.textModel? at hm
  split at hm
  · rcases hraw with hname | hname
    all_goals
      rw [hname] at hm
      obtain rfl := Option.some.inj hm
      exact congrArg some hname.symm
  · exact absurd hm nofun

theorem next_rawText (hraw : e.name = "script" ∨ e.name = "style")
    (hm : Nesting.textModel? e = some m) (hclean : isClean v = true)
    (hearly : ¬ EndsEarly m e.name.toList v.toList) (cdata : Bool) (rest : List Char) :
    Tokenizer.next m cdata (normalizeLines ((v ++ Tree.endTag e).toList ++ rest)) =
      (readsText e v, .data, normalizeLines rest) := by
  have hmodel := modelName?_of_raw hraw hm
  have hchars : ∀ c ∈ e.name.toList, c.toLower = c ∧ c ≠ '<' ∧ c ≠ '\r' := by
    rcases hraw with hname | hname <;> rw [hname] <;> simp
  have hlower : ∀ c ∈ e.name.toList, c.toLower = c := fun c hc => (hchars c hc).1
  have hended : Tokenizer.isEnded m v.toList = true :=
    Tokenizer.isEnded_of_not_endsEarly hmodel (fun hc => (hchars _ hc).2.1 rfl) hlower hearly
  obtain ⟨hcr, hnul⟩ := Tokenizer.not_mem_of_isClean hclean
  have hlines : '\r' ∉ (v ++ Tree.endTag e).toList := by
    have hname : '\r' ∉ e.name.toList := fun hc => (hchars _ hc).2.2 rfl
    simp [Tree.endTag, hcr, hname]
  have htext : (v ++ Tree.endTag e).toList ++ normalizeLines rest =
      v.toList ++ (Tokenizer.endTagText e.name.toList ++ normalizeLines rest) := by
    simp [Tree.endTag, Tokenizer.endTagText]
  have hplain : ∀ n, m ≠ .references n := by
    rintro n rfl
    rcases hraw with hname | hname <;> simp [Nesting.textModel?, hname] at hm
  have hnext := Tokenizer.next_content hmodel hlower hended cdata (normalizeLines rest)
  have hwritten : Tokenizer.writtenText m v.toList = v.toList := by
    cases m with
    | references n => exact absurd rfl (hplain n)
    | _ => rfl
  have hcontent : Tokenizer.contentTokens m v.toList = Tokenizer.rawTokens v.toList := by
    cases m with
    | references n => exact absurd rfl (hplain n)
    | _ => rfl
  rw [normalizeLines_append hlines, htext, ← hwritten, hnext, hcontent, readsText,
    Tokenizer.rawTokens, Tokenizer.map_showNul hnul]
  simp

/-- A text that is written to an element is no markup there: escaped, it holds no tag and reads back
as it is. In scripts and styles it stands raw; where these belong to HTML it reads back as it is,
whatever follows, unless it ends its element early. -/
theorem text_write_reads_back {p : Page} {n : NodeId} {e : Element} (he : p.element? n = some e)
    (v : String) :
    (e.name ≠ "script" ∧ e.name ≠ "style" →
      '<' ∉ ((apply p [⟨n, .text, v⟩]).renderInner n).toList ∧
      Tree.unescape ((apply p [⟨n, .text, v⟩]).renderInner n).toList = v.toList) ∧
    (e.name = "script" ∨ e.name = "style" → (apply p [⟨n, .text, v⟩]).renderInner n = v ∧
      ∀ m, Nesting.textModel? e = some m → isClean v = true →
        ¬ EndsEarly m e.name.toList v.toList → ∀ cdata rest,
          Tokenizer.next m cdata (normalizeLines
            (((apply p [⟨n, .text, v⟩]).renderInner n ++ Tree.endTag e).toList ++ rest)) =
              (readsText e v, .data, normalizeLines rest)) := by
  have hinner : (apply p [⟨n, .text, v⟩]).renderInner n =
      if Tree.isRawName e.name then v else Tree.escape v :=
    Page.renderInner_setContentTrees_text he v
  refine ⟨fun ⟨hscript, hstyle⟩ => ?_, fun hraw => ?_⟩
  · have hname : Tree.isRawName e.name = false := by simp [Tree.isRawName, hscript, hstyle]
    rw [hinner, hname, if_neg Bool.false_ne_true]
    exact ⟨Tree.lt_not_mem_escape v, Tree.unescape_escape v⟩
  · have hname : Tree.isRawName e.name = true := by simpa [Tree.isRawName] using hraw
    rw [hinner, if_pos hname]
    refine ⟨rfl, fun m hm hclean hearly cdata rest => ?_⟩
    exact next_rawText hraw hm hclean hearly cdata rest

/-! A paragraph and a style with markers -/

def paragraph : Element := { name := "p", attrs := [("data-content", "a")] }

def sheet : Element := { name := "style", attrs := [("data-content", "b")] }

def paragraphAndSheet : Page :=
  .ofTrees [.element paragraph [.text "Old"], .element sheet []]

theorem text_write_reads_back_paragraphAndSheet :
    paragraphAndSheet.element? 1 = some paragraph ∧ paragraphAndSheet.element? 3 = some sheet ∧
    Tree.unescape ((apply paragraphAndSheet [⟨1, .text, "<i>New</i>"⟩]).renderInner 1).toList =
      "<i>New</i>".toList ∧
    (apply paragraphAndSheet [⟨3, .text, "p > a"⟩]).renderInner 3 = "p > a" ∧
    Tokenizer.next (.raw "style") false (normalizeLines
      (((apply paragraphAndSheet [⟨3, .text, "p > a"⟩]).renderInner 3 ++
        Tree.endTag sheet).toList ++ "<p>".toList)) =
          ([.characters "p > a".toList, .endTag ⟨"style", [], false⟩], .data, "<p>".toList) := by
  have hparagraph : paragraphAndSheet.element? 1 = some paragraph := rfl
  have hsheet : paragraphAndSheet.element? 3 = some sheet := rfl
  have hescaped := (text_write_reads_back hparagraph "<i>New</i>").1 (by decide)
  have hraw := (text_write_reads_back hsheet "p > a").2 (by decide)
  have hread := hraw.2 (.raw "style") rfl (by decide) (Tokenizer.not_endsEarly_raw (by decide))
  exact ⟨hparagraph, hsheet, hescaped.2, hraw.1, hread false "<p>".toList⟩

/-- In a style neither tags nor escapes are changed. -/
theorem text_raw_in_sheet :
    '<' ∈ ((apply paragraphAndSheet [⟨3, .text, "a<b"⟩]).renderInner 3).toList ∧
    Tree.unescape ((apply paragraphAndSheet [⟨3, .text, "&lt;"⟩]).renderInner 3).toList ≠
      "&lt;".toList := by
  decide

end ContentBinding.Binding
