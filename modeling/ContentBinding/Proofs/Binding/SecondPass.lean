import ContentBinding.Proofs.Binding.Unchanged

/-! A second pass over the same document. Text bindings write again what they wrote, and what a
contact brought in is replaced with it; a page changes only where a picture slot or a project
heading is found at another place than before. -/

namespace ContentBinding.Markup

theorem Element.NamesDistinct.setAttr {e : Element} (h : e.NamesDistinct) (name value : String) :
    (e.setAttr name value).NamesDistinct := by
  unfold Element.NamesDistinct
  cases hname : e.attr? name with
  | some v => rwa [Element.names_setAttr _ _ _ (by rw [hname]; exact Option.some_ne_none _)]
  | none =>
    unfold Element.setAttr
    rw [Element.hasAttr_eq_isSome, hname, if_neg (by simp), List.map_append]
    refine List.nodup_append.mpr ⟨h, List.nodup_singleton _, ?_⟩
    rintro key hkey b hb rfl
    obtain ⟨a, ha, rfl⟩ := List.mem_map.mp hkey
    have hnone := List.lookup_eq_none_iff.mp hname a ha
    simp only [List.map_cons, List.map_nil, List.mem_singleton] at hb
    rw [hb] at hnone
    simp at hnone

instance (e : Element) : Decidable e.NamesDistinct :=
  inferInstanceAs (Decidable (e.attrs.map Prod.fst).Nodup)

def Page.NamesDistinct (p : Page) : Prop :=
  ∀ n e, p.element? n = some e → e.NamesDistinct

theorem Page.namesDistinct_of_forall_lt {p : Page}
    (h : ∀ n < p.size, ∀ e ∈ p.element? n, e.NamesDistinct) : p.NamesDistinct :=
  fun n e he => h n (Page.lt_size_of_isElement (by rw [Page.isElement, he]; rfl)) e he

end ContentBinding.Markup

namespace ContentBinding.Binding

open Json (Value)
open Markup

/-! What writes leave alone -/

theorem name_of_effect {w : Write NodeId} {name value : String} (h : w.effect = .attr name value) :
    name = "srcset" ∨ name = "src" := by
  unfold Write.effect at h
  cases hfield : w.field <;> rw [hfield] at h
  · exact absurd h nofun
  · exact absurd h nofun
  · exact Or.inl (Effect.attr.inj h).1.symm
  · exact Or.inr (Effect.attr.inj h).1.symm

theorem attr?_foldl_of_ne {name : String} (hsrcset : name ≠ "srcset") (hsrc : name ≠ "src")
    (ws : List (Write NodeId)) (n : NodeId) (e : Element) :
    (ws.foldl (Write.attributed n) e).attr? name = e.attr? name := by
  apply attr?_foldl_of_none
  cases h : lastTo? ws n (some name) with
  | none => rfl
  | some u =>
    obtain ⟨value, heffect, _⟩ := attr?_foldl_of_lastTo? e h
    rcases name_of_effect heffect with hname | hname
    · exact absurd hname hsrcset
    · exact absurd hname hsrc

theorem namesDistinct_foldl {e : Element} (h : e.NamesDistinct) (ws : List (Write NodeId))
    (n : NodeId) : (ws.foldl (Write.attributed n) e).NamesDistinct := by
  induction ws generalizing e with
  | nil => exact h
  | cons w ws ih =>
    rw [List.foldl_cons]
    refine ih ?_
    by_cases hn : w.element = n
    · cases heffect : w.effect with
      | content ts => rwa [Write.attributed_of_content _ heffect]
      | attr name value =>
        rw [Write.attributed_of_attr _ hn heffect]
        exact h.setAttr name value
    · rwa [Write.attributed_of_ne _ hn]

theorem hasMarker_eq (p : Page) (marker : String) (n : NodeId) :
    Discovery.hasMarker p marker n = ((p.element? n).bind (·.attr? marker)).isSome := by
  unfold Discovery.hasMarker
  cases p.element? n with
  | none => rfl
  | some e => exact Element.hasAttr_eq_isSome e marker

theorem not_isElement_of_text {p : Page} (hp : p.Linked) {b n : NodeId} {s : String}
    (h : p.trees b = [.text s]) (hn : p.Above b n) : ¬ p.isElement n := by
  obtain ⟨c, hc, hcn⟩ := Relation.TransGen.head'_iff.mp hn
  have hmem := hp.mem_of_parent hc
  have htext : p.treesOf c = [.text s] := by
    obtain ⟨t, ht⟩ := List.length_eq_one_iff.mp (length_treesOf hp hc)
    have hin : t ∈ p.trees b := by
      rw [Page.trees_eq, List.mem_flatMap]
      exact ⟨c, hmem, by rw [ht, List.mem_singleton]⟩
    rw [h, List.mem_singleton] at hin
    rw [ht, hin]
  have hleaf : ¬ p.isElement c := by
    intro he
    obtain ⟨e, he⟩ := Option.isSome_iff_exists.mp he
    rw [hp.treesOf_element he] at htext
    exact absurd (List.cons.inj htext).1 nofun
  rcases Relation.reflTransGen_iff_eq_or_transGen.mp hcn with rfl | hcn
  · exact hleaf
  · exfalso
    obtain ⟨d, hd, _⟩ := Relation.TransGen.head'_iff.mp hcn
    rcases hp.inner c d hd with rfl | he
    · rw [hp.parent_root] at hc
      exact Option.some_ne_none _ hc.symm
    · exact hleaf he

namespace Written

variable {p q : Page} {ws : List (Write NodeId)} {n : NodeId}

theorem attr?_eq (h : Written p ws q) (hn : n < p.size) {name : String} (hsrcset : name ≠ "srcset")
    (hsrc : name ≠ "src") :
    (q.element? n).bind (·.attr? name) = (p.element? n).bind (·.attr? name) := by
  rw [h.element n hn]
  cases p.element? n with
  | none => rfl
  | some e => exact attr?_foldl_of_ne hsrcset hsrc ws n e

theorem hasMarker_eq (h : Written p ws q) (hn : n < p.size) (marker : String)
    (hsrcset : marker ≠ "srcset") (hsrc : marker ≠ "src") :
    Discovery.hasMarker q marker n = Discovery.hasMarker p marker n := by
  rw [Binding.hasMarker_eq, Binding.hasMarker_eq, h.attr?_eq hn hsrcset hsrc]

theorem markerPath_eq (h : Written p ws q) (hn : n < p.size) (marker : String)
    (hsrcset : marker ≠ "srcset") (hsrc : marker ≠ "src") :
    Discovery.markerPath q marker n = Discovery.markerPath p marker n := by
  unfold Discovery.markerPath
  rw [h.attr?_eq hn hsrcset hsrc]

theorem exists_replaced_of_new (h : Written p ws q) (hp : p.Linked)
    (hws : ∀ w ∈ ws, p.isElement w.element) (hattached : q.Attached n) (hn : p.size ≤ n) :
    ∃ b, b < p.size ∧ Replaces ws b ∧ q.Attached b ∧ q.Above b n := by
  have hold : ∀ {b c}, q.parent? c = some b → b < p.size → p.size ≤ c → Replaces ws b := by
    intro b c hc hb hcn
    by_contra hnot
    have hmem := h.linked.mem_of_parent hc
    rw [h.children b hb hnot] at hmem
    exact absurd (Page.lt_size_of_parent? (hp.parent_of_mem hmem)) (Nat.not_lt.mpr hcn)
  induction hattached with
  | single hc =>
    obtain ⟨w, hw, hroot, _⟩ := hold hc hp.root_lt_size hn
    have helement := hws w hw
    rw [hroot, Page.isElement, Page.element?, hp.content_root] at helement
    exact Bool.noConfusion helement
  | @tail b c hb hc ih =>
    by_cases hnew : p.size ≤ b
    · obtain ⟨a, ha, hreplaces, hattached, habove⟩ := ih hnew
      exact ⟨a, ha, hreplaces, hattached, habove.trans (.of_parent hc)⟩
    · have hlt := Nat.not_le.mp hnew
      exact ⟨b, hlt, hold hc hlt hn, hb, .of_parent hc⟩

end Written

/-! Two passes -/

section TwoPasses

variable {p : Page} {document : Value} {w : Write NodeId} {n : NodeId}

theorem written_inject (hp : p.Linked) (document : Value) :
    Written p (Plan.ofScan (scan p) document).writes (inject p document).1 :=
  written_apply hp fun _ hw => (attached_of_mem_writes hp hw).2

/-- A pass changes nothing exactly when all that is visible after it was visible before. -/
theorem trees_inject_eq_iff (hp : p.Linked)
    (hdistinct : ∀ w ∈ (Plan.ofScan (scan p) document).writes,
      (inject p document).1.Attached w.element →
        ∀ e, p.element? w.element = some e → e.NamesDistinct) :
    (inject p document).1.trees Page.root = p.trees Page.root ↔
      ∀ w ∈ (Plan.ofScan (scan p) document).writes,
        w.Visible (inject p document).1 → w.Visible p :=
  trees_apply_eq_iff hp (fun _ hw => (attached_of_mem_writes hp hw).2) hdistinct

theorem mem_textWrites_iff (hp : p.Linked) : w ∈ Plan.textWrites (scan p) document ↔
    p.Attached w.element ∧ Discovery.hasMarker p textMarker w.element ∧
      w ∈ (Plan.ofText document ⟨w.element, Discovery.markerPath p textMarker w.element⟩).writes := by
  refine ⟨of_mem_textWrites hp, fun ⟨hattached, hmarker, hw⟩ => ?_⟩
  exact List.mem_flatMap.mpr ⟨_, (mem_texts hp).mpr ⟨hattached, hmarker, rfl⟩, hw⟩

theorem mem_textWrites_inject_iff (hp : p.Linked) (hold : w.element < p.size) :
    w ∈ Plan.textWrites (scan (inject p document).1) document ↔
      (inject p document).1.Attached w.element ∧ w ∈ Plan.textWrites (scan p) document := by
  have h := written_inject hp document
  rw [mem_textWrites_iff h.linked, mem_textWrites_iff hp,
    h.hasMarker_eq hold textMarker (by decide) (by decide),
    h.markerPath_eq hold textMarker (by decide) (by decide), h.attached_iff hp hold]
  tauto

theorem not_attached_of_new (hp : p.Linked) (hn : p.size ≤ n)
    (helement : (inject p document).1.isElement n) :
    ¬ (inject (inject p document).1 document).1.Attached n := by
  have h := written_inject hp document
  have h' := written_inject h.linked document
  intro hattached
  have hlt := Page.lt_size_of_isElement helement
  obtain ⟨honce, hnone⟩ := (h'.attached_iff h.linked hlt).mp hattached
  obtain ⟨b, hb, ⟨v, hv, hvb, hslot⟩, hbattached, habove⟩ :=
    h.exists_replaced_of_new hp (fun w hw => (attached_of_mem_writes hp hw).2) honce hn
  obtain ⟨u, hu⟩ := exists_lastTo? hv
  rw [hvb, hslot] at hu
  obtain ⟨hmem, hub, huslot⟩ := mem_of_lastTo? hu
  have hholds := h.trees b hb u hu
  refine hnone b ⟨u, ?_, hub, huslot⟩ habove
  rw [Plan.writes_ofScan, List.mem_append, List.mem_append] at hmem ⊢
  rcases hmem with (hmem | hmem) | hmem
  · exact Or.inl (Or.inl ((mem_textWrites_inject_iff hp (hub ▸ hb)).mpr ⟨hub ▸ hbattached, hmem⟩))
  · exact absurd huslot (slot_of_mem_pictureWrites hp hmem)
  · obtain ⟨_, _, hfield, _⟩ := of_mem_projectWrites hp hmem
    have hcontent : u.effect = .content [.text u.value] := by
      unfold Write.effect
      rw [hfield]
    rw [hcontent] at hholds
    exact absurd helement (not_isElement_of_text h.linked hholds habove)

theorem visible_of_mem_textWrites (hp : p.Linked)
    (hw : w ∈ Plan.textWrites (scan (inject p document).1) document)
    (hvisible : w.Visible (inject (inject p document).1 document).1) :
    w.Visible (inject p document).1 := by
  have h := written_inject hp document
  obtain ⟨hattached, hmarker, _⟩ := of_mem_textWrites h.linked hw
  have hold : w.element < p.size := by
    by_contra hnew
    exact not_attached_of_new hp (Nat.not_lt.mp hnew) (isElement_of_hasMarker hmarker) hvisible.1
  obtain ⟨_, hfirst⟩ := (mem_textWrites_inject_iff hp hold).mp hw
  have hmem : w ∈ (Plan.ofScan (scan p) document).writes := by
    rw [Plan.writes_ofScan]
    exact List.mem_append_left _ (List.mem_append_left _ hfirst)
  refine ⟨hattached, (h.holdsAt_iff (attached_of_mem_writes hp hmem).2 hmem).mpr fun u hu => ?_⟩
  exact effect_lastTo?_of_mem_textWrites hp hfirst hu

/-- Every picture slot and every project heading that a pass would fill is filled already. -/
def Settled (p : Page) (document : Value) : Prop :=
  ∀ w ∈ Plan.pictureWrites (scan p) document ++ Plan.projectWrites (scan p) document,
    w.Visible (inject p document).1 → w.Visible p

theorem trees_second_iff_settled (hp : p.Linked) (hnames : p.NamesDistinct) (document : Value) :
    (inject (inject p document).1 document).1.trees Page.root =
        (inject p document).1.trees Page.root ↔ Settled (inject p document).1 document := by
  have h := written_inject hp document
  have htargets : ∀ w ∈ (Plan.ofScan (scan (inject p document).1) document).writes,
      (inject p document).1.isElement w.element :=
    fun w hw => (attached_of_mem_writes h.linked hw).2
  have hdistinct : ∀ w ∈ (Plan.ofScan (scan (inject p document).1) document).writes,
      (inject (inject p document).1 document).1.Attached w.element →
        ∀ e, (inject p document).1.element? w.element = some e → e.NamesDistinct := by
    intro w hw hattached e he
    have hold : w.element < p.size := by
      by_contra hnew
      exact not_attached_of_new hp (Nat.not_lt.mp hnew) (htargets w hw) hattached
    rw [h.element _ hold] at he
    obtain ⟨e', he', rfl⟩ := Option.map_eq_some_iff.mp he
    exact namesDistinct_foldl (hnames _ e' he') _ _
  rw [trees_inject_eq_iff h.linked hdistinct, Settled, Plan.writes_ofScan, List.append_assoc]
  constructor
  · intro hall w hw
    exact hall w (List.mem_append_right _ hw)
  · intro hrest w hw hvisible
    -- texts are always settled, pictures and projects may not be
    rcases List.mem_append.mp hw with hw | hw
    · exact visible_of_mem_textWrites hp hw hvisible
    · exact hrest w hw hvisible

end TwoPasses
end ContentBinding.Binding
