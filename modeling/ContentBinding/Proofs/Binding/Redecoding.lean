import ContentBinding.Binding.Injection
import ContentBinding.Proofs.Binding.Targets
import ContentBinding.Proofs.Markup.Begun
import ContentBinding.Proofs.Markup.Declaring

/-! Reading the bytes of a page that was filled in. The page is written in UTF-8, and it begins as
every page begins that was read; so its bytes are read as what was written unless its markup
declares a set in which they say something else. -/

namespace ContentBinding.Markup.Page

variable {p : Page} {f n : NodeId}

namespace LedBy

theorem addChild (h : p.LedBy f) (n : NodeId) (c : Content) : (p.addChild n c).LedBy f :=
  (h.create c).append (Nat.ne_of_gt h.lt_size) n

theorem clear (h : p.LedBy f) (hn : n ≠ root) : (p.clear n).LedBy f :=
  h.congr content?_clear (children_clear_ne hn.symm) content?_clear

mutual

theorem graft {p : Page} (h : p.LedBy f) (n : NodeId) (t : Tree) : (p.graft n t).LedBy f := by
  cases t with
  | doctype s => exact h.addChild n _
  | comment s => exact h.addChild n _
  | text s => exact h.addChild n _
  | element e ts =>
    rw [Page.graft]
    exact graftAll (h.addChild n _) _ ts

theorem graftAll {p : Page} (h : p.LedBy f) (n : NodeId) (ts : List Tree) :
    (p.graftAll n ts).LedBy f := by
  cases ts with
  | nil => exact h
  | cons t ts =>
    rw [Page.graftAll]
    exact graftAll (graft h n t) n ts

end

theorem perform (h : p.LedBy f) {w : Binding.Write NodeId} (hw : w.element ≠ root) :
    (w.perform p).LedBy f := by
  unfold Binding.Write.perform
  split
  · exact (h.clear hw).graftAll _ _
  · exact (h.clear hw).graftAll _ _
  · exact h.updateElement _ fun e => e.name_setAttr _ _
  · exact h.updateElement _ fun e => e.name_setAttr _ _

theorem apply {p : Page} (h : p.LedBy f) {ws : List (Binding.Write NodeId)}
    (hws : ∀ w ∈ ws, w.element ≠ root) : (Binding.apply p ws).LedBy f := by
  unfold Binding.apply
  induction ws generalizing p with
  | nil => exact h
  | cons w ws ih =>
    exact ih (h.perform (hws w List.mem_cons_self)) fun u hu => hws u (List.mem_cons_of_mem w hu)

theorem inject (h : p.LedBy f) (document : Json.Value) : (Binding.inject p document).1.LedBy f :=
  h.apply fun _ hw => h.ne_root_of_isElement (Binding.isElement_of_mem_writes hw)

theorem begins_tree (h : p.LedBy f) (depth : Nat) : ∃ t, p.treesAt (depth + 1) f = [t] ∧
    ∀ more, Encoding.Begins (Tree.render false t ++ more) := by
  obtain ⟨c, hc, hlead⟩ := h.content_eq
  obtain ⟨node, hnode, rfl⟩ := Option.map_eq_some_iff.mp hc
  rw [treesAt, hnode]
  dsimp only
  cases hcontent : node.content with
  | document =>
    rw [hcontent] at hlead
    exact absurd hlead Bool.false_ne_true
  | text s =>
    rw [hcontent] at hlead
    exact absurd hlead Bool.false_ne_true
  | doctype s =>
    refine ⟨_, rfl, fun more => ⟨'!', List.mem_cons_self, ?_⟩⟩
    rw [Tree.render, String.append_assoc, String.append_assoc, String.toList_append]
    exact ⟨_, rfl⟩
  | comment s =>
    refine ⟨_, rfl, fun more => ⟨'!', List.mem_cons_self, ?_⟩⟩
    rw [Tree.render, String.append_assoc, String.append_assoc, String.toList_append]
    exact ⟨_, rfl⟩
  | element e =>
    rw [hcontent] at hlead
    have hname : e.name = "html" := of_decide_eq_true hlead
    have hvoid : Tree.voidNames.contains "html" = false := by decide
    refine ⟨_, rfl, fun more => ⟨'h', List.mem_cons_of_mem _ List.mem_cons_self, ?_⟩⟩
    rw [Tree.render, Tree.startTag, hname, hvoid, Bool.false_and, if_neg Bool.false_ne_true]
    simp only [String.append_assoc, String.toList_append]
    exact ⟨_, rfl⟩

theorem begins_render (h : p.LedBy f) : Encoding.Begins p.render := by
  obtain ⟨rest, hrest⟩ := h.children_eq
  obtain ⟨t, ht, hbegins⟩ := h.begins_tree p.nodes.size
  rw [render, trees, hrest, List.flatMap_cons, ht, List.singleton_append, Tree.renderAll]
  exact hbegins _

end LedBy

end ContentBinding.Markup.Page

namespace ContentBinding.Binding

open Markup
open Markup.Encoding
open Text (encodeUtf8)

/-- The page of a text, filled in for a document. -/
def filled (html : String) (document : Json.Value) : Page :=
  (inject (Page.parse html) document).1

theorem begins_render_filled (html : String) (document : Json.Value) :
    Begins (filled html document).render := by
  obtain ⟨f, hled⟩ := Page.ledBy_parse html
  exact (hled.inject document).begins_render

def latin1 (s : String) : Text.Bytes :=
  s.toList.map fun c => Text.byte c.toNat

def charsetPage : String :=
  "<meta charset=iso-8859-1><p data-content=a>Caf\u00e9"

def capitalsPage : String :=
  "<meta content=\"text/html; CHARSET=ISO-8859-1\" http-equiv=\"Content-Type\">\u00e9"

def capitalsMeta : Element where
  name := "meta"
  attrs := [("content", "text/html; CHARSET=ISO-8859-1"), ("http-equiv", "Content-Type")]

theorem startTag_capitalsMeta : Tree.startTag capitalsMeta =
    "<meta content=\"text/html; CHARSET=ISO-8859-1\" http-equiv=\"Content-Type\">" := by
  rw [Tree.startTag, List.mergeSort_of_pairwise (by decide)]
  rfl

def capitalsNodes : Page where
  nodes := #[
    ⟨.document, none, [1]⟩,
    ⟨.element { name := "html" }, some 0, [2, 4]⟩,
    ⟨.element { name := "head" }, some 1, [3]⟩,
    ⟨.element capitalsMeta, some 2, []⟩,
    ⟨.element { name := "body" }, some 1, [5]⟩,
    ⟨.text "\u00e9", some 4, []⟩]

def capitalsRendered : String :=
  "<html><head><meta content=\"text/html; CHARSET=ISO-8859-1\" http-equiv=\"Content-Type\"></head>" ++
    "<body>\u00e9</body></html>"

theorem render_capitalsNodes : capitalsNodes.render = capitalsRendered := by
  have htrees : capitalsNodes.trees Page.root =
      [.element { name := "html" } [.element { name := "head" } [.element capitalsMeta []],
        .element { name := "body" } [.text "\u00e9"]]] := rfl
  rw [Page.render, htrees]
  simp only [Tree.renderAll, Tree.render, startTag_capitalsMeta]
  decide +kernel

end ContentBinding.Binding
