import Mathlib.Data.List.Forall2
import ContentBinding.Proofs.Binding.Frame

/-! Writes in another order. What a list of writes leaves depends only on the last write to each place:
the pages are the same but for the identity of the nodes that the writes brought in. Partners are
found from the nodes that were there before, going down by position. -/

namespace ContentBinding.Markup

def Content.Same : Content → Content → Prop
  | .element e, .element e' => e.name = e'.name ∧ e.dialect = e'.dialect ∧ e.attrs.Perm e'.attrs
  | c, c' => c = c'

namespace Page

/-- A way to tell which nodes of two pages are the same; the first `k` nodes keep their identity. -/
structure Pairing (k : Nat) (p q : Page) (pair : NodeId → NodeId → Prop) : Prop where
  old : ∀ n < k, pair n n
  functional : ∀ a b b', pair a b → pair a b' → b = b'
  injective : ∀ a a' b, pair a b → pair a' b → a = a'
  content : ∀ a b, pair a b → Option.Rel Content.Same (p.content? a) (q.content? b)
  children : ∀ a b, pair a b → List.Forall₂ pair (p.children a) (q.children b)
  parent : ∀ a b, pair a b → Option.Rel pair (p.parent? a) (q.parent? b)

/-- The pages are the same but for the identity of nodes from `k` on. Nodes without a partner stand
neither on the page nor below one of the first `k` nodes. -/
def SameFrom (k : Nat) (p q : Page) : Prop :=
  ∃ pair, Pairing k p q pair

/-- Nodes at the same place below one of the first `k` nodes. -/
inductive Partners (k : Nat) (p q : Page) : NodeId → NodeId → Prop
  | old {n : NodeId} (h : n < k) : Partners k p q n n
  | child {a b c d : NodeId} (i : Nat) (h : Partners k p q a b)
    (hc : (p.children a)[i]? = some c) (hd : (q.children b)[i]? = some d) : Partners k p q c d

variable {p q : Page} {k : Nat} {a b c d n : NodeId} {t : Tree}

theorem Partners.symm (h : Partners k p q a b) : Partners k q p b a := by
  induction h with
  | old h => exact .old h
  | child i _ hc hd ih => exact .child i ih hd hc

/-! Nodes and their trees -/

def childrenOf : Tree → List Tree
  | .element _ ts => ts
  | _ => []

def Shows (p : Page) (n : NodeId) (t : Tree) : Prop :=
  p.content? n = some (contentOf t) ∧ p.trees n = childrenOf t

theorem trees_eq_nil (hp : p.Linked) (hn : n ≠ root) (h : ∀ e, p.content? n ≠ some (.element e)) :
    p.trees n = [] := by
  have hchildren : p.children n = [] := List.eq_nil_iff_forall_not_mem.mpr fun c hc => by
    have helement := hp.isElement_of_ne_root (hp.parent_of_mem hc) hn
    obtain ⟨e, he⟩ := Option.isSome_iff_exists.mp helement
    exact h e (content?_of_element? he)
  rw [trees_eq, hchildren]
  rfl

theorem shows_of_parent (hp : p.Linked) (h : p.parent? c = some a) :
    ∃ t, p.treesOf c = [t] ∧ p.Shows c t := by
  have hroot : c ≠ root := by
    rintro rfl
    rw [hp.parent_root] at h
    exact Option.some_ne_none _ h.symm
  have hlt := lt_size_of_parent? h
  have hnil := trees_eq_nil hp hroot
  have htrees := hp.treesOf_eq c
  cases hcontent : p.content? c with
  | none => exact absurd hlt (Nat.not_lt.mpr ((p.content?_eq_none_iff c).mp hcontent))
  | some content =>
    rw [hcontent] at htrees hnil
    cases content with
    | document => exact absurd (hp.eq_root c hcontent) hroot
    | doctype s => exact ⟨.doctype s, htrees, hcontent, hnil (by simp)⟩
    | comment s => exact ⟨.comment s, htrees, hcontent, hnil (by simp)⟩
    | text s => exact ⟨.text s, htrees, hcontent, hnil (by simp)⟩
    | element e => exact ⟨.element e (p.trees c), htrees, hcontent, rfl⟩

theorem forall₂_of_flatMap_eq {α β γ : Type} {f : α → List γ} {g : β → List γ} {l : List α}
    {l' : List β} (hf : ∀ x ∈ l, ∃ t, f x = [t]) (hg : ∀ y ∈ l', ∃ t, g y = [t])
    (h : l.flatMap f = l'.flatMap g) : List.Forall₂ (fun x y => f x = g y) l l' := by
  induction l generalizing l' with
  | nil =>
    cases l' with
    | nil => exact .nil
    | cons y l' =>
      obtain ⟨t, ht⟩ := hg y List.mem_cons_self
      rw [List.flatMap_cons, ht] at h
      exact absurd h.symm (List.cons_ne_nil _ _)
  | cons x l ih =>
    rw [List.forall_mem_cons] at hf
    obtain ⟨⟨t, ht⟩, hf⟩ := hf
    cases l' with
    | nil =>
      rw [List.flatMap_cons, ht] at h
      exact absurd h (List.cons_ne_nil _ _)
    | cons y l' =>
      rw [List.forall_mem_cons] at hg
      obtain ⟨⟨u, hu⟩, hg⟩ := hg
      rw [List.flatMap_cons, List.flatMap_cons, ht, hu] at h
      obtain ⟨htu, hrest⟩ := List.cons.inj h
      exact .cons (by rw [ht, hu, htu]) (ih hf hg hrest)

theorem forall₂_of_trees_eq (hp : p.Linked) (hq : q.Linked) (h : p.trees a = q.trees b) :
    List.Forall₂ (fun c d => p.treesOf c = q.treesOf d) (p.children a) (q.children b) := by
  refine forall₂_of_flatMap_eq (fun c hc => ?_) (fun d hd => ?_) h
  · obtain ⟨t, ht, -⟩ := shows_of_parent hp (hp.parent_of_mem hc)
    exact ⟨t, ht⟩
  · obtain ⟨t, ht, -⟩ := shows_of_parent hq (hq.parent_of_mem hd)
    exact ⟨t, ht⟩

end Page
end ContentBinding.Markup

namespace ContentBinding.Binding

open Markup

theorem replaces_iff_lastTo? {ws : List (Write NodeId)} {n : NodeId} :
    Replaces ws n ↔ ∃ w, lastTo? ws n none = some w := by
  constructor
  · rintro ⟨w, hw, rfl, hslot⟩
    obtain ⟨u, hu⟩ := exists_lastTo? hw
    exact ⟨u, hslot ▸ hu⟩
  · rintro ⟨w, hw⟩
    exact replaces_of_lastTo? hw

namespace Written

variable {p q q' : Page} {ws us : List (Write NodeId)} {a b c d : NodeId}

def Matched (p q q' : Page) (a b : NodeId) : Prop :=
  (a = b ∧ a < p.size) ∨ (p.size ≤ a ∧ p.size ≤ b ∧ ∃ t, q.Shows a t ∧ q'.Shows b t)

theorem children_of_matched (hp : p.Linked) (h : Written p ws q) (h' : Written p us q')
    (hlast : ∀ n s, lastTo? ws n s = lastTo? us n s) (hab : Matched p q q' a b) :
    (q.children a = q'.children b ∧ ∀ c ∈ q.children a, c < p.size) ∨
      (∀ c ∈ q.children a, p.size ≤ c) ∧ (∀ d ∈ q'.children b, p.size ≤ d) ∧
        List.Forall₂ (fun c d => q.treesOf c = q'.treesOf d) (q.children a) (q'.children b) := by
  rcases hab with ⟨rfl, ha⟩ | ⟨ha, hb, t, ⟨-, hat⟩, ⟨-, hbt⟩⟩
  · -- the last write decides, and it is the same one in both orders
    by_cases hreplaced : Replaces ws a
    · obtain ⟨w, hw⟩ := replaces_iff_lastTo?.mp hreplaced
      have hw' : lastTo? us a none = some w := hlast a none ▸ hw
      have hreplaced' : Replaces us a := replaces_iff_lastTo?.mpr ⟨w, hw'⟩
      refine .inr ⟨h.new a (.inl hreplaced), h'.new a (.inl hreplaced'), ?_⟩
      refine Page.forall₂_of_trees_eq h.linked h'.linked ?_
      have hq := h.trees a ha w hw
      have hq' := h'.trees a ha w hw'
      have hslot := (mem_of_lastTo? hw).2.2
      cases heffect : w.effect with
      | content ts =>
        rw [heffect] at hq hq'
        exact hq.trans hq'.symm
      | attr name value =>
        rw [heffect] at hslot
        exact absurd hslot (Option.some_ne_none _)
    · have hreplaced' : ¬ Replaces us a := by
        rwa [replaces_iff_lastTo?, ← hlast, ← replaces_iff_lastTo?]
      rw [h.children a ha hreplaced, h'.children a ha hreplaced']
      exact .inl ⟨rfl, fun c hc => Page.lt_size_of_parent? (hp.parent_of_mem hc)⟩
  · exact .inr ⟨h.new a (.inr ha), h'.new b (.inr hb),
      Page.forall₂_of_trees_eq h.linked h'.linked (hat.trans hbt.symm)⟩

theorem matched_of_partners (hp : p.Linked) (h : Written p ws q) (h' : Written p us q')
    (hlast : ∀ n s, lastTo? ws n s = lastTo? us n s) (hcd : Page.Partners p.size q q' c d) :
    Matched p q q' c d := by
  induction hcd with
  | old hn => exact .inl ⟨rfl, hn⟩
  | @child a b c d i _ hc hd ih =>
    have hca := List.mem_of_getElem? hc
    have hdb := List.mem_of_getElem? hd
    rcases children_of_matched hp h h' hlast ih with ⟨heq, hold⟩ | ⟨hnew, hnew', hall⟩
    · rw [← heq, hc] at hd
      exact .inl ⟨Option.some.inj hd, hold c hca⟩
    · obtain ⟨t, ht, hshows⟩ := Page.shows_of_parent h.linked (h.linked.parent_of_mem hca)
      obtain ⟨u, hu, hshows'⟩ := Page.shows_of_parent h'.linked (h'.linked.parent_of_mem hdb)
      have htrees : q.treesOf c = q'.treesOf d := by
        obtain ⟨-, hget⟩ := List.forall₂_iff_get.mp hall
        obtain ⟨hi, rfl⟩ := List.getElem?_eq_some_iff.mp hc
        obtain ⟨hi', rfl⟩ := List.getElem?_eq_some_iff.mp hd
        exact hget i hi hi'
      rw [ht, hu] at htrees
      exact .inr ⟨hnew c hca, hnew' d hdb, t, hshows, List.head_eq_of_cons_eq htrees ▸ hshows'⟩

theorem partner_unique (hp : p.Linked) (h : Written p ws q) (h' : Written p us q')
    (hlast : ∀ n s, lastTo? ws n s = lastTo? us n s) (hcd : Page.Partners p.size q q' c d) :
    ∀ d', Page.Partners p.size q q' c d' → d = d' := by
  have hmatched := fun {a b} => @matched_of_partners p q q' ws us a b hp h h' hlast
  induction hcd with
  | @old n hn =>
    intro d' hd'
    rcases hmatched hd' with ⟨heq, -⟩ | ⟨hnew, -⟩
    · exact heq
    · exact absurd hn (Nat.not_lt.mpr hnew)
  | @child a b c d i hab hc hd ih =>
    intro d' hd'
    rcases hmatched (.child i hab hc hd) with ⟨heq, hold⟩ | ⟨hnew, -⟩
    · rcases hmatched hd' with ⟨heq', -⟩ | ⟨hnew', -⟩
      · exact heq.symm.trans heq'
      · exact absurd hold (Nat.not_lt.mpr hnew')
    · cases hd' with
      | old hn => exact absurd hn (Nat.not_lt.mpr hnew)
      | @child a' b' _ _ j hab' hc' hd' =>
        have hparent := h.linked.parent_of_mem (List.mem_of_getElem? hc)
        rw [h.linked.parent_of_mem (List.mem_of_getElem? hc')] at hparent
        obtain rfl := Option.some.inj hparent
        obtain rfl := ih b' hab'
        obtain ⟨hi, hci⟩ := List.getElem?_eq_some_iff.mp hc
        obtain ⟨hj, hcj⟩ := List.getElem?_eq_some_iff.mp hc'
        obtain rfl := (h.linked.children_nodup _).getElem_inj_iff.mp (hci.trans hcj.symm)
        exact Option.some.inj (hd.symm.trans hd')

theorem content_of_matched (h : Written p ws q) (h' : Written p us q')
    (hlast : ∀ n s, lastTo? ws n s = lastTo? us n s) (hab : Matched p q q' a b) :
    Option.Rel Content.Same (q.content? a) (q'.content? b) := by
  have hrefl : ∀ c : Content, c.Same c := fun c => by
    cases c with
    | element e => exact ⟨rfl, rfl, .refl _⟩
    | _ => rfl
  rcases hab with ⟨rfl, ha⟩ | ⟨-, -, t, ⟨hc, -⟩, ⟨hc', -⟩⟩
  · cases helement : p.isElement a with
    | false =>
      rw [h.content a ha helement, h'.content a ha helement]
      cases p.content? a with
      | none => exact .none
      | some c => exact .some (hrefl c)
    | true =>
      obtain ⟨e, he⟩ := Option.isSome_iff_exists.mp helement
      have hq := h.element a ha
      have hq' := h'.element a ha
      rw [he, Option.map_some] at hq hq'
      rw [Page.content?_of_element? hq, Page.content?_of_element? hq']
      obtain ⟨hname, hdialect⟩ := name_foldl_attributed (n := a) ws e
      obtain ⟨hname', hdialect'⟩ := name_foldl_attributed (n := a) us e
      refine .some ⟨hname.trans hname'.symm, hdialect.trans hdialect'.symm, ?_⟩
      refine Element.perm_attrs fun key => ?_
      rw [entries_foldl_attributed, entries_foldl_attributed, hlast]
  · rw [hc, hc']
    exact .some (hrefl _)

theorem parent_of_old (h : Written p ws q) (h' : Written p us q')
    (hlast : ∀ n s, lastTo? ws n s = lastTo? us n s) {n : NodeId} (hn : n < p.size) :
    q.parent? n = q'.parent? n := by
  refine Option.ext fun a => ?_
  rw [h.parent n hn, h'.parent n hn, replaces_iff_lastTo?, replaces_iff_lastTo?, hlast]

theorem sameFrom (hp : p.Linked) (h : Written p ws q) (h' : Written p us q')
    (hlast : ∀ n s, lastTo? ws n s = lastTo? us n s) : Page.SameFrom p.size q q' := by
  have hmatched := fun {a b} => @matched_of_partners p q q' ws us a b hp h h' hlast
  refine ⟨Page.Partners p.size q q', fun n hn => .old hn,
    fun a b b' hab hab' => partner_unique hp h h' hlast hab b' hab',
    fun a a' b hab hab' => partner_unique hp h' h (fun n s => (hlast n s).symm) hab.symm a' hab'.symm,
    fun a b hab => content_of_matched h h' hlast (hmatched hab), fun a b hab => ?_,
    fun a b hab => ?_⟩
  · have hlength : (q.children a).length = (q'.children b).length := by
      rcases children_of_matched hp h h' hlast (hmatched hab) with ⟨heq, -⟩ | ⟨-, -, hall⟩
      · rw [heq]
      · exact hall.length_eq
    refine List.forall₂_iff_get.mpr ⟨hlength, fun i hi hi' => ?_⟩
    exact .child i hab (List.getElem?_eq_getElem hi) (List.getElem?_eq_getElem hi')
  · have hold : ∀ n < p.size, Option.Rel (Page.Partners p.size q q') (q.parent? n) (q'.parent? n) := by
      intro n hn
      rw [parent_of_old h h' hlast hn]
      cases hparent : q'.parent? n with
      | none => exact .none
      | some m => exact .some (.old (hp.parent_lt_size ((h'.parent n hn m).mp hparent).1))
    cases hab with
    | old hn => exact hold a hn
    | child i hab hc hd =>
      rw [h.linked.parent_of_mem (List.mem_of_getElem? hc),
        h'.linked.parent_of_mem (List.mem_of_getElem? hd)]
      exact .some hab

end Written

/-! The last writes -/

def Write.place (w : Write NodeId) : NodeId × Option String :=
  (w.element, w.effect.slot)

/-- The writes without those that a later one to the same place makes void. -/
def lastWrites : List (Write NodeId) → List (Write NodeId)
  | [] => []
  | w :: ws => if ws.any (·.place = w.place) then lastWrites ws else w :: lastWrites ws

section LastWrites

variable {p : Page} {ws us : List (Write NodeId)} {w : Write NodeId} {n : NodeId}
  {s : Option String}

theorem lastTo?_eq_getLast? (ws : List (Write NodeId)) (n : NodeId) (s : Option String) :
    lastTo? ws n s = (ws.filter fun w => w.place = (n, s)).getLast? := by
  rw [lastTo?]
  congr 2
  funext w
  simp [Write.place]

theorem filter_lastWrites (ws : List (Write NodeId)) (x : NodeId × Option String) :
    (lastWrites ws).filter (fun w => w.place = x) =
      (ws.filter fun w => w.place = x).getLast?.toList := by
  induction ws with
  | nil => rfl
  | cons w ws ih =>
    by_cases hx : w.place = x
    · subst hx
      rw [lastWrites, List.filter_cons_of_pos (by simp)]
      split_ifs with hany
      · have hne : ws.filter (fun u => u.place = w.place) ≠ [] := by
          obtain ⟨u, hu, hplace⟩ := List.any_eq_true.mp hany
          exact List.ne_nil_of_mem (List.mem_filter.mpr ⟨hu, hplace⟩)
        rw [ih, List.getLast?_cons_of_ne_nil hne]
      · have hnil : ws.filter (fun u => u.place = w.place) = [] :=
          List.filter_eq_nil_iff.mpr fun u hu hplace => hany (List.any_eq_true.mpr ⟨u, hu, hplace⟩)
        rw [List.filter_cons_of_pos (by simp), ih, hnil]
        rfl
    · have hdrop : ∀ l : List (Write NodeId), (w :: l).filter (fun u => u.place = x) =
          l.filter fun u => u.place = x := fun l => List.filter_cons_of_neg (by simpa using hx)
      rw [lastWrites, hdrop, ← ih]
      split_ifs
      · rfl
      · exact hdrop _

theorem lastTo?_lastWrites (ws : List (Write NodeId)) (n : NodeId) (s : Option String) :
    lastTo? (lastWrites ws) n s = lastTo? ws n s := by
  rw [lastTo?_eq_getLast?, lastTo?_eq_getLast?, filter_lastWrites]
  cases (ws.filter fun w => w.place = (n, s)).getLast? <;> rfl

theorem mem_of_mem_lastWrites (h : w ∈ lastWrites ws) : w ∈ ws := by
  induction ws with
  | nil => exact h
  | cons u ws ih =>
    rw [lastWrites] at h
    split_ifs at h
    · exact List.mem_cons_of_mem _ (ih h)
    · rcases List.mem_cons.mp h with rfl | h
      · exact List.mem_cons_self
      · exact List.mem_cons_of_mem _ (ih h)

theorem nodup_place_lastWrites (ws : List (Write NodeId)) :
    ((lastWrites ws).map Write.place).Nodup := by
  induction ws with
  | nil => exact List.nodup_nil
  | cons w ws ih =>
    rw [lastWrites]
    split_ifs with hany
    · exact ih
    · rw [List.map_cons, List.nodup_cons]
      refine ⟨fun hmem => hany ?_, ih⟩
      obtain ⟨u, hu, hplace⟩ := List.mem_map.mp hmem
      exact List.any_eq_true.mpr ⟨u, mem_of_mem_lastWrites hu, by simpa using hplace⟩

theorem lastWrites_eq_self (h : (ws.map Write.place).Nodup) : lastWrites ws = ws := by
  induction ws with
  | nil => rfl
  | cons w ws ih =>
    rw [List.map_cons, List.nodup_cons] at h
    have hany : ws.any (fun u => u.place = w.place) = false := by
      refine Bool.eq_false_iff.mpr fun hany => h.1 ?_
      obtain ⟨u, hu, hplace⟩ := List.any_eq_true.mp hany
      exact List.mem_map.mpr ⟨u, hu, by simpa using hplace⟩
    rw [lastWrites, hany, if_neg Bool.false_ne_true, ih h.2]

/-- Where no place is written twice, the order does not matter. -/
theorem lastTo?_perm (h : us.Perm ws) (hnodup : (ws.map Write.place).Nodup) (n : NodeId)
    (s : Option String) : lastTo? us n s = lastTo? ws n s := by
  have hperm := h.filter fun w => w.place = (n, s)
  have hone := filter_lastWrites ws (n, s)
  rw [lastWrites_eq_self hnodup] at hone
  rw [lastTo?_eq_getLast?, lastTo?_eq_getLast?]
  cases hlast : (ws.filter fun w => w.place = (n, s)).getLast? with
  | none =>
    rw [hone, hlast, Option.toList_none] at hperm
    rw [hperm.eq_nil]
    rfl
  | some w =>
    rw [hone, hlast, Option.toList_some] at hperm
    rw [hperm.eq_singleton]
    rfl

theorem sameFrom_apply_of_perm (hp : p.Linked) (hws : ∀ w ∈ ws, p.isElement w.element)
    (h : us.Perm (lastWrites ws)) : Page.SameFrom p.size (apply p us) (apply p ws) := by
  have hus : ∀ w ∈ us, p.isElement w.element :=
    fun w hw => hws w (mem_of_mem_lastWrites (h.mem_iff.mp hw))
  refine Written.sameFrom hp (written_apply hp hus) (written_apply hp hws) fun n s => ?_
  rw [lastTo?_perm h (nodup_place_lastWrites ws), lastTo?_lastWrites]

end LastWrites

/-- The writes leave what the last write to each place leaves alone, in whatever order these are
performed; so the order of writes to different places does not matter at all. -/
theorem apply_sameFrom {p : Page} (hp : p.Linked) {ws : List (Write NodeId)}
    (hws : ∀ w ∈ ws, p.isElement w.element) :
    (∀ us : List (Write NodeId), us.Perm (lastWrites ws) →
      Page.SameFrom p.size (apply p us) (apply p ws)) ∧
    ((ws.map Write.place).Nodup → ∀ us : List (Write NodeId), us.Perm ws →
      Page.SameFrom p.size (apply p us) (apply p ws)) := by
  refine ⟨fun us h => sameFrom_apply_of_perm hp hws h, fun hnodup us h => ?_⟩
  exact sameFrom_apply_of_perm hp hws ((lastWrites_eq_self hnodup).symm ▸ h)

theorem apply_sameFrom_crossingWrites : nestedMarkers.Linked ∧
    (∀ w ∈ crossingWrites, nestedMarkers.isElement w.element) ∧
    Page.SameFrom nestedMarkers.size
      (apply nestedMarkers [⟨1, .text, "B"⟩, ⟨2, .src, "x.webp"⟩, ⟨2, .html, "<i>x</i>"⟩])
      (apply nestedMarkers crossingWrites) := by
  have hp : nestedMarkers.Linked := Page.linked_ofTrees _
  have hws : ∀ w ∈ crossingWrites, nestedMarkers.isElement w.element := by decide
  exact ⟨hp, hws, (apply_sameFrom hp hws).1 _ (by decide)⟩

end ContentBinding.Binding
