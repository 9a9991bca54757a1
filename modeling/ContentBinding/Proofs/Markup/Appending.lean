import ContentBinding.Proofs.Markup.Pieces

/-! Adding to the markup of a page. A new last child of an element comes to stand right before the
end tag of its parent, and every other piece stays where it was; a script is such a child of the
first body element, or of the document. -/

namespace ContentBinding.Markup
namespace Piece

variable {t : NodeId} {e : Element} {x : Piece} {ps news front inside back : List Piece}

/-- The end tag of the node. -/
def Ends (t : NodeId) (x : Piece) : Prop :=
  x.node = t ∧ x.part = .closing

instance : Decidable (Ends t x) :=
  inferInstanceAs (Decidable (_ ∧ _))

def endingWith (t : NodeId) (news ps : List Piece) : List Piece :=
  ps.flatMap fun x => if Ends t x then news ++ [x] else [x]

theorem endingWith_append (ps qs : List Piece) :
    endingWith t news (ps ++ qs) = endingWith t news ps ++ endingWith t news qs :=
  List.flatMap_append ..

theorem endingWith_flatMap {α : Type} (f : α → List Piece) (l : List α) :
    endingWith t news (l.flatMap f) = l.flatMap fun a => endingWith t news (f a) :=
  List.flatMap_assoc ..

theorem endingWith_singleton (h : Ends t x) : endingWith t news [x] = news ++ [x] := by
  rw [endingWith, List.flatMap_singleton, if_pos h]

theorem endingWith_singleton_of_not (h : ¬ Ends t x) : endingWith t news [x] = [x] := by
  rw [endingWith, List.flatMap_singleton, if_neg h]

theorem endingWith_eq_self (h : ∀ x ∈ ps, x.node ≠ t) : endingWith t news ps = ps := by
  have hkept : ∀ x ∈ ps, (if Ends t x then news ++ [x] else [x]) = [x] := fun x hx =>
    if_neg fun hends => h x hx hends.1
  rw [endingWith, List.flatMap_congr hkept, List.flatMap_singleton']

theorem endingWith_eq_nil_iff : endingWith t news ps = [] ↔ ps = [] := by
  cases ps with
  | nil => exact iff_of_true rfl rfl
  | cons x ps =>
    refine iff_of_false ?_ (List.cons_ne_nil x ps)
    rw [endingWith, List.flatMap_cons]
    split <;> simp

theorem Enclosed.endingWith_eq (h : Enclosed t e ps front inside back) (news : List Piece) :
    endingWith t news ps = front ++ ⟨t, .opening, Tree.startTag e⟩ ::
      (inside ++ (news ++ ⟨t, .closing, Tree.endTag e⟩ :: back)) := by
  have hfront : endingWith t news front = front :=
    endingWith_eq_self fun x hx => h.others x (List.mem_append_left _ hx)
  have hinside : endingWith t news inside = inside := endingWith_eq_self fun x hx =>
    h.others x (List.mem_append_right _ (List.mem_append_left _ hx))
  have hback : endingWith t news back = back := endingWith_eq_self fun x hx =>
    h.others x (List.mem_append_right _ (List.mem_append_right _ hx))
  have hopening : ¬ Ends t ⟨t, .opening, Tree.startTag e⟩ := nofun
  have hclosing : Ends t ⟨t, .closing, Tree.endTag e⟩ := ⟨rfl, rfl⟩
  rw [h.pieces_eq, endingWith_append, ← List.singleton_append, endingWith_append,
    endingWith_append, ← List.singleton_append (l := back), endingWith_append, hfront, hinside,
    hback, endingWith_singleton_of_not hopening, endingWith_singleton hclosing]
  simp only [List.singleton_append, List.append_assoc]

end Piece

namespace Page

open Piece (Enclosed Ends endingWith join starts)

variable {p : Page} {n t : NodeId} {d k : Nat} {raw : Bool} {e : Element}
  {front inside back news : List Piece}

/-! A new last child -/

theorem endingWith_enclose_ne (h : n ≠ t) :
    endingWith t news (enclose n e inside) = enclose n e (endingWith t news inside) := by
  have hopening : ¬ Ends t ⟨n, .opening, Tree.startTag e⟩ := fun hends => h hends.1
  have hclosing : ¬ Ends t ⟨n, .closing, Tree.endTag e⟩ := fun hends => h hends.1
  have hempty : (endingWith t news inside).isEmpty = inside.isEmpty := by
    rw [Bool.eq_iff_iff, List.isEmpty_iff, List.isEmpty_iff, Piece.endingWith_eq_nil_iff]
  unfold enclose
  rw [hempty]
  split
  · exact Piece.endingWith_singleton_of_not hopening
  · rw [← List.singleton_append, Piece.endingWith_append, Piece.endingWith_append,
      Piece.endingWith_singleton_of_not hopening, Piece.endingWith_singleton_of_not hclosing]
    rfl

theorem endingWith_enclose_self (hvoid : Tree.voidNames.contains e.name = false) :
    endingWith t news (enclose t e inside) = enclose t e (endingWith t news inside ++ news) := by
  have hopening : ¬ Ends t ⟨t, .opening, Tree.startTag e⟩ := nofun
  have hclosing : Ends t ⟨t, .closing, Tree.endTag e⟩ := ⟨rfl, rfl⟩
  rw [enclose_eq (.inl hvoid), enclose_eq (.inl hvoid), ← List.singleton_append,
    Piece.endingWith_append, Piece.endingWith_append,
    Piece.endingWith_singleton_of_not hopening, Piece.endingWith_singleton hclosing,
    List.append_assoc]
  rfl

theorem inside_addChild {content : Content} (hlt : t < p.size)
    (hnew : (p.addChild t content).piecesAt d raw p.size = news)
    (ih : ∀ c, c ∈ p.children n →
      (p.addChild t content).piecesAt d raw c = endingWith t news (p.piecesAt k raw c)) :
    ((p.addChild t content).children n).flatMap ((p.addChild t content).piecesAt d raw) =
      endingWith t news ((p.children n).flatMap (p.piecesAt k raw)) ++
        if n = t then news else [] := by
  rw [Piece.endingWith_flatMap, ← List.flatMap_congr ih]
  by_cases hn : n = t
  · subst hn
    rw [children_addChild_self content hlt, List.flatMap_append, List.flatMap_singleton, hnew,
      if_pos rfl]
  · rw [children_addChild_ne content hn, if_neg hn, List.append_nil]

namespace Joined

/-- The pieces at the nodes of the former page, when the pieces at the new node are known. -/
theorem piecesAt_addChild (hp : p.Joined) (ht : p.IsInner t)
    (hvoid : ∀ e, p.element? t = some e → Tree.voidNames.contains e.name = false) {content : Content}
    (hnew : ∀ d raw, (p.addChild t content).piecesAt (d + 1) raw p.size = news)
    (hn : p.Attached n) (hd : p.height n < d) :
    (p.addChild t content).piecesAt (d + 1) raw n = endingWith t news (p.piecesAt d raw n) := by
  induction d generalizing raw n with
  | zero => exact absurd hd (Nat.not_lt_zero _)
  | succ d ih =>
    have hcontent := content?_addChild_ne (n := t) content hn.lt_size.ne
    have hinside (raw : Bool) := inside_addChild (n := n) (k := d) (hp.inner_lt_size ht)
      (hnew d raw) fun c hc => by
        have hparent := (hp.mem_children n c).mp hc
        have hlt := hp.height_lt (.inr hn) hparent
        exact ih (attached_of_parent (.inr hn) hparent) (by omega)
    by_cases helement : p.isElement n
    · obtain ⟨e, he⟩ := Option.isSome_iff_exists.mp helement
      have he' : (p.addChild t content).element? n = some e := (element?_congr hcontent).trans he
      rw [piecesAt_element he', piecesAt_element he, hinside]
      by_cases hnt : n = t
      · subst hnt
        rw [if_pos rfl, endingWith_enclose_self (hvoid e he)]
      · rw [if_neg hnt, List.append_nil, endingWith_enclose_ne hnt]
    · -- it has no children, neither before nor now
      have hroot := hp.ne_root_of_attached hn
      have hnt : n ≠ t := by
        rintro rfl
        exact helement (ht.resolve_left hroot)
      have hnil : p.children n = [] :=
        hp.children_eq_nil_of_content hroot (Bool.not_eq_true _ ▸ helement)
      have hwhole (text : String) : [Piece.mk n .whole text] = endingWith t news [⟨n, .whole, text⟩] :=
        (Piece.endingWith_singleton_of_not fun hends => hnt hends.1).symm
      rw [piecesAt, piecesAt, hcontent, children_addChild_ne content hnt, hnil]
      split
      · rfl
      · rfl
      · exact hwhole _
      · exact hwhole _
      · exact hwhole _
      · next e he =>
        refine absurd ?_ helement
        rw [isElement, element?, he]
        rfl

theorem pieces_addChild (hp : p.Joined) (ht : p.IsInner t)
    (hvoid : ∀ e, p.element? t = some e → Tree.voidNames.contains e.name = false) {content : Content}
    (hnew : ∀ d raw, (p.addChild t content).piecesAt (d + 1) raw p.size = news) :
    (p.addChild t content).pieces =
      endingWith t news p.pieces ++ if root = t then news else [] := by
  have hsize : (p.addChild t content).nodes.size + 1 = p.size + 1 + 1 :=
    congrArg (· + 1) (size_addChild content)
  rw [pieces, hsize]
  refine inside_addChild (hp.inner_lt_size ht) (hnew _ false) fun c hc => ?_
  have hparent := (hp.mem_children root c).mp hc
  exact hp.piecesAt_addChild ht hvoid hnew (attached_of_parent (.inl rfl) hparent)
    (Nat.lt_succ_of_le (p.height_le c))

end Joined

/-! A script -/

def scriptElement (src : String) : Element :=
  { name := "script", attrs := [("src", src)] }

def scriptPieces (n : NodeId) (src : String) : List Piece :=
  [⟨n, .opening, Tree.startTag (scriptElement src)⟩, ⟨n, .closing, Tree.endTag (scriptElement src)⟩]

/-- The markup of a script. -/
def scriptText (src : String) : String :=
  "<script src=" ++ Tree.quote (Tree.escape src) ++ "></script>"

theorem startTag_scriptElement (src : String) : Tree.startTag (scriptElement src) =
    "<script src=" ++ Tree.quote (Tree.escape src) ++ ">" := by
  have hsort : [("src", src)].mergeSort Tree.attrLe = [("src", src)] := List.mergeSort_singleton _
  have hjoin : String.join [Tree.renderAttr ("src", src)] = Tree.renderAttr ("src", src) := by
    simp [String.join]
  rw [Tree.startTag, scriptElement, hsort, List.map_singleton, hjoin, Tree.renderAttr]
  apply String.toList_inj.mp
  simp

theorem join_scriptPieces (n : NodeId) (src : String) : join (scriptPieces n src) = scriptText src := by
  have hend : ">" ++ Tree.endTag (scriptElement src) = "></script>" := rfl
  rw [scriptPieces, join, join, join, String.append_empty, startTag_scriptElement, String.append_assoc,
    hend, scriptText]

/-- The markup of a page up to the place of a script and from there on: a script goes right before
the end tag of the first body element, or behind everything when there is no such element. -/
inductive ScriptPlace (p : Page) : String → String → Prop
  | inBody {n : NodeId} {e : Element} {front inside back : List Piece} :
    p.element? n = some e → e.name = "body" → (∀ m ∈ starts front, p.nameOf m ≠ "body") →
    Enclosed n e p.pieces front inside back →
    ScriptPlace p (join front ++ Tree.startTag e ++ join inside) ("</body>" ++ join back)
  | last : (∀ m ∈ p.elements, p.nameOf m ≠ "body") → ScriptPlace p p.render ""

/-- The text is the markup of the page with a script in its place. -/
def ScriptAdded (p : Page) (src text : String) : Prop :=
  ∃ before after, p.ScriptPlace before after ∧ p.render = before ++ after ∧
    text = before ++ scriptText src ++ after

theorem piecesAt_script (hn : n < p.size) (src : String) (d : Nat) (raw : Bool) :
    (p.addChild n (.element (scriptElement src))).piecesAt (d + 1) raw p.size =
      scriptPieces p.size src := by
  have hchildren : (p.addChild n (.element (scriptElement src))).children p.size = [] := by
    rw [children_addChild_ne _ hn.ne', children_of_size_le (Nat.le_refl _)]
  rw [piecesAt, content?_addChild_self, hchildren]
  rfl

theorem pieces_appendScript (hp : p.Joined) (src : String) (ht : p.IsInner (p.body?.getD root))
    (hvoid : ∀ e, p.element? (p.body?.getD root) = some e →
      Tree.voidNames.contains e.name = false) :
    (p.appendScript src).pieces =
      endingWith (p.body?.getD root) (scriptPieces p.size src) p.pieces ++
        if root = p.body?.getD root then scriptPieces p.size src else [] :=
  hp.pieces_addChild ht hvoid fun d raw => piecesAt_script (hp.inner_lt_size ht) src d raw

namespace Joined

theorem body?_eq_some (hp : p.Joined) (h : p.body? = some n) :
    p.Attached n ∧ ∃ e, p.element? n = some e ∧ e.name = "body" := by
  have hfind : p.elements.find? (fun m => p.nameOf m = "body") = some n := h
  have hmem := List.mem_of_find?_eq_some hfind
  have helement : p.isElement n := (List.mem_filter.mp hmem).2
  obtain ⟨e, he⟩ := Option.isSome_iff_exists.mp helement
  have hname : p.nameOf n = "body" := by simpa using List.find?_some hfind
  rw [nameOf, he] at hname
  exact ⟨hp.attached_of_mem_elements hmem, e, he, hname⟩

theorem nameOf_ne_of_mem_starts (hp : p.Joined) (h : p.body? = some n)
    (hpieces : Enclosed n e p.pieces front inside back) : ∀ m ∈ starts front, p.nameOf m ≠ "body" := by
  have hfind : p.elements.find? (fun m => p.nameOf m = "body") = some n := h
  rw [← hp.starts_pieces, hpieces.pieces_eq, Piece.starts_append, List.find?_append] at hfind
  intro m hm hname
  cases hfront : (starts front).find? fun m => p.nameOf m = "body" with
  | none => exact List.find?_eq_none.mp hfront m hm (decide_eq_true hname)
  | some k =>
    rw [hfront, Option.some_or] at hfind
    obtain rfl := Option.some.inj hfind
    obtain ⟨x, hx, _, hk⟩ := Piece.mem_starts.mp (List.mem_of_find?_eq_some hfront)
    exact hpieces.others x (List.mem_append_left _ hx) hk

theorem scriptAdded_of_no_body (hp : p.Joined) (src : String) (hbody : p.body? = none) :
    p.ScriptAdded src (p.appendScript src).render := by
  have hpieces := pieces_appendScript hp src
  rw [hbody, Option.getD_none] at hpieces
  have hkept : endingWith root (scriptPieces p.size src) p.pieces = p.pieces :=
    Piece.endingWith_eq_self fun x hx => hp.ne_root_of_attached (hp.attached_of_mem_pieces hx)
  have hroot : ∀ e, p.element? root = some e → Tree.voidNames.contains e.name = false := by
    intro e he
    exact absurd rfl (hp.ne_root (Option.isSome_iff_exists.mpr ⟨e, he⟩))
  refine ⟨p.render, "", .last fun m hm hname => ?_, String.append_empty.symm, ?_⟩
  · exact List.find?_eq_none.mp hbody m hm (decide_eq_true hname)
  · rw [← join_pieces, hpieces (.inl rfl) hroot, hkept, if_pos rfl, Piece.join_append,
      join_scriptPieces, join_pieces, String.append_empty]

theorem scriptAdded_of_body (hp : p.Joined) (src : String) (hbody : p.body? = some n) :
    p.ScriptAdded src (p.appendScript src).render := by
  have hpieces := pieces_appendScript hp src
  rw [hbody, Option.getD_some] at hpieces
  obtain ⟨hattached, e, he, hname⟩ := hp.body?_eq_some hbody
  have hvoid : Tree.voidNames.contains e.name = false := by
    rw [hname]
    decide
  have hend : Tree.endTag e = "</body>" := by
    rw [Tree.endTag, hname]
    rfl
  have hinner : p.IsInner n := .inr (Option.isSome_iff_exists.mpr ⟨e, he⟩)
  have honly : ∀ e', p.element? n = some e' → Tree.voidNames.contains e'.name = false := by
    intro e' he'
    rwa [Option.some.inj (he'.symm.trans he)]
  obtain ⟨front, inside, back, h⟩ := hp.exists_enclosed_pieces hattached he hvoid
  refine ⟨_, _, .inBody he hname (hp.nameOf_ne_of_mem_starts hbody h) h, ?_, ?_⟩
  · rw [← join_pieces, h.pieces_eq]
    simp only [Piece.join_append, join, hend, String.append_assoc]
  · rw [← join_pieces, hpieces hinner honly, if_neg (hp.ne_root_of_attached hattached).symm,
      List.append_nil, h.endingWith_eq]
    simp only [Piece.join_append, join, join_scriptPieces, hend, String.append_assoc]

theorem scriptAdded (hp : p.Joined) (src : String) :
    p.ScriptAdded src (p.appendScript src).render := by
  cases hbody : p.body? with
  | none => exact hp.scriptAdded_of_no_body src hbody
  | some n => exact hp.scriptAdded_of_body src hbody

end Joined
end Page
end ContentBinding.Markup
