import ContentBinding.Proofs.Markup.Replacement

/-! Text in markup. Escaped text holds no tag and reads back as what it was. The markup of an element
whose content is replaced by a text is the escaped text, or the text itself in a script or a style. -/

namespace ContentBinding.Markup

namespace Tree

/-- The text that escaped text stands for. -/
def unescape : List Char → List Char
  | '&' :: 'l' :: 't' :: ';' :: rest => '<' :: unescape rest
  | '&' :: 'g' :: 't' :: ';' :: rest => '>' :: unescape rest
  | '&' :: 'a' :: 'm' :: 'p' :: ';' :: rest => '&' :: unescape rest
  | c :: rest => c :: unescape rest
  | [] => []

theorem unescape_cons {c : Char} (h : c ≠ '&') (cs : List Char) :
    unescape (c :: cs) = c :: unescape cs := by
  rw [unescape]
  all_goals exact fun _ hc _ => h hc

theorem escapeChar_of_ne {c : Char} (hamp : c ≠ '&') (hlt : c ≠ '<') (hgt : c ≠ '>') :
    escapeChar c = [c] := by
  unfold escapeChar
  split
  · exact absurd rfl hamp
  · exact absurd rfl hlt
  · exact absurd rfl hgt
  · rfl

theorem unescape_escapeChar (c : Char) (cs : List Char) :
    unescape (escapeChar c ++ cs) = c :: unescape cs := by
  by_cases hamp : c = '&'
  · subst hamp
    rfl
  by_cases hlt : c = '<'
  · subst hlt
    rfl
  by_cases hgt : c = '>'
  · subst hgt
    rfl
  rw [escapeChar_of_ne hamp hlt hgt, List.singleton_append, unescape_cons hamp]

theorem unescape_escape (s : String) : unescape (escape s).toList = s.toList := by
  rw [escape, String.toList_ofList]
  induction s.toList with
  | nil => rfl
  | cons c cs ih => rw [List.flatMap_cons, unescape_escapeChar, ih]

theorem lt_not_mem_escapeChar (c : Char) : '<' ∉ escapeChar c := by
  unfold escapeChar
  split
  · decide
  · decide
  · decide
  · rename_i hlt _
    rw [List.mem_singleton]
    exact fun h => hlt h.symm

theorem lt_not_mem_escape (s : String) : '<' ∉ (escape s).toList := by
  rw [escape, String.toList_ofList, List.mem_flatMap]
  rintro ⟨c, _, hc⟩
  exact lt_not_mem_escapeChar c hc

end Tree

namespace Page

variable {p : Page} {n : NodeId} {e : Element}

theorem setContentTrees_text (p : Page) (n : NodeId) (v : String) :
    p.setContentTrees n [.text v] = (p.clear n).addChild n (.text v) := rfl

theorem element?_setContentTrees_text (he : p.element? n = some e) (v : String) :
    (p.setContentTrees n [.text v]).element? n = some e := by
  have hlt : n < p.size := lt_size_of_content? (content?_of_element? he)
  rw [setContentTrees_text, element?_congr (p := p.clear n), element?_congr content?_clear, he]
  exact content?_addChild_ne _ (by rw [size_clear]; exact hlt.ne)

theorem trees_setContentTrees_text (hn : n < p.size) (v : String) :
    (p.setContentTrees n [.text v]).trees n = [.text v] := by
  have hchildren : ((p.clear n).addChild n (.text v)).children n = [(p.clear n).size] := by
    rw [children_addChild_self _ (by rwa [size_clear]), children_clear_self, List.nil_append]
  rw [setContentTrees_text, trees, hchildren, List.flatMap_singleton, treesAt_succ,
    content?_addChild_self]

theorem renderInner_of_trees {ts : List Tree} (he : p.element? n = some e) (hts : p.trees n = ts) :
    p.renderInner n = Tree.renderAll (Tree.isRawName e.name) ts := by
  have hname : p.nameOf n = e.name := by
    unfold nameOf
    rw [he]
  rw [renderInner, hname, hts]

theorem renderInner_setContentTrees_text (he : p.element? n = some e) (v : String) :
    (p.setContentTrees n [.text v]).renderInner n =
      if Tree.isRawName e.name then v else Tree.escape v := by
  have hlt : n < p.size := lt_size_of_content? (content?_of_element? he)
  rw [renderInner_of_trees (element?_setContentTrees_text he v) (trees_setContentTrees_text hlt v),
    Tree.renderAll, Tree.renderAll, Tree.render, String.append_empty]

end Page
end ContentBinding.Markup
