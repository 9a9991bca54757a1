import Mathlib.Data.List.Induction
import Mathlib.Data.List.TakeWhile
import ContentBinding.Binding.Path
import ContentBinding.Proofs.Text.Splitting

/-! Where paths lead. A path spells steps, and it leads where they lead, through the members of
objects and the items of lists; a text that spells no steps leads nowhere. What stands behind a
point is a path of its own, from the value that the part before the point leads to. -/

namespace ContentBinding.Binding

open Json (Value)

namespace Path

variable {cs word ds : List Char}

theorem isDigit_of_mem {i : Nat} : ∀ c ∈ Nat.toDigits 10 i, c.isDigit = true :=
  fun _ hc => Nat.isDigit_of_mem_toDigits (by decide) (by decide) hc

theorem exists_toDigits_eq {c : Char} (hc : c.isDigit = true) :
    ∃ d < 10, Nat.toDigits 10 d = [c] := by
  obtain ⟨hlow, hhigh⟩ : 48 ≤ c.toNat ∧ c.toNat ≤ 57 := Char.isDigit_iff_toNat.mp hc
  refine ⟨c.toNat - 48, by omega, ?_⟩
  rw [Nat.toDigits_of_lt_base (by omega), List.cons.injEq]
  refine ⟨Char.toNat_inj.mp ?_, rfl⟩
  rw [Nat.toNat_digitChar_of_lt_ten (by omega), Nat.add_sub_cancel' hlow]

theorem exists_replicate_append_toDigits (hne : ds ≠ []) (h : ∀ c ∈ ds, c.isDigit = true) :
    ∃ zeros, ds = List.replicate zeros '0' ++ Nat.toDigits 10 (Text.natOf ds) := by
  suffices hsome : ∃ zeros n, ds = List.replicate zeros '0' ++ Nat.toDigits 10 n by
    obtain ⟨zeros, n, hds⟩ := hsome
    refine ⟨zeros, ?_⟩
    rw [hds, Text.natOf_replicate_append, Text.natOf_toDigits]
  induction ds using List.reverseRecOn with
  | nil => exact absurd rfl hne
  | append_singleton ds c ih =>
    rw [List.forall_mem_append] at h
    obtain ⟨d, hd, hdigit⟩ := exists_toDigits_eq (h.2 c (List.mem_singleton_self c))
    by_cases hds : ds = []
    · exact ⟨0, d, by simp [hds, hdigit]⟩
    · obtain ⟨zeros, n, heq⟩ := ih hds h.1
      rcases Nat.eq_zero_or_pos n with rfl | hn
      · refine ⟨zeros + 1, d, ?_⟩
        rw [heq, hdigit, Nat.toDigits_zero, List.replicate_succ']
      · refine ⟨zeros, 10 * n + d, ?_⟩
        rw [heq, ← Nat.toDigits_append_toDigits (by decide) hn hd, hdigit, List.append_assoc]

structure IsIndexed (cs word ds : List Char) : Prop where
  word_ne_nil : word ≠ []
  isWordChar : ∀ c ∈ word, isWordChar c = true
  digits_ne_nil : ds ≠ []
  isDigit : ∀ c ∈ ds, c.isDigit = true
  eq : cs = word ++ '[' :: (ds ++ [']'])

theorem bracketDigits?_eq_some_iff : bracketDigits? cs = some ds ↔
    ds ≠ [] ∧ (∀ c ∈ ds, c.isDigit = true) ∧ cs = '[' :: (ds ++ [']']) := by
  constructor
  · intro h
    unfold bracketDigits? at h
    split at h
    · rename_i rest
      dsimp only at h
      split_ifs at h with hempty hclosed
      obtain rfl := Option.some.inj h
      refine ⟨by simpa using hempty, fun _ => List.mem_takeWhile_imp, ?_⟩
      rw [← hclosed, List.takeWhile_append_dropWhile]
    · exact absurd h nofun
  · rintro ⟨hne, hdigit, rfl⟩
    have htake : (ds ++ [']']).takeWhile Char.isDigit = ds := by
      rw [List.takeWhile_append_of_pos hdigit]
      exact List.append_nil _
    have hdrop : (ds ++ [']']).dropWhile Char.isDigit = [']'] := by
      rw [List.dropWhile_append_of_pos hdigit]
      rfl
    have hisEmpty : ds.isEmpty = false := by simpa using hne
    simp only [bracketDigits?, htake, hdrop, hisEmpty, if_neg Bool.false_ne_true, if_pos]

theorem indexed?_eq_some_iff : indexed? cs = some (word, ds) ↔ IsIndexed cs word ds := by
  unfold indexed?
  constructor
  · intro h
    dsimp only at h
    split_ifs at h with hempty
    obtain ⟨ds', hdigits, heq⟩ := Option.map_eq_some_iff.mp h
    obtain ⟨rfl, rfl⟩ := Prod.mk.inj heq
    obtain ⟨hne, hdigit, hrest⟩ := bracketDigits?_eq_some_iff.mp hdigits
    refine ⟨by simpa using hempty, fun _ => List.mem_takeWhile_imp, hne, hdigit, ?_⟩
    rw [← hrest, List.takeWhile_append_dropWhile]
  · intro h
    have htake : cs.takeWhile isWordChar = word := by
      rw [h.eq, List.takeWhile_append_of_pos h.isWordChar]
      exact List.append_nil _
    have hdrop : cs.dropWhile isWordChar = '[' :: (ds ++ [']']) := by
      rw [h.eq, List.dropWhile_append_of_pos h.isWordChar]
      rfl
    have hdigits := bracketDigits?_eq_some_iff.mpr ⟨h.digits_ne_nil, h.isDigit, rfl⟩
    have hisEmpty : word.isEmpty = false := by simpa using h.word_ne_nil
    simp [htake, hdrop, hdigits, hisEmpty]

theorem IsIndexed.stepOf_eq (h : IsIndexed cs word ds) :
    stepOf cs = .item (String.ofList word) (Text.natOf ds) := by
  rw [stepOf, indexed?_eq_some_iff.mpr h]

theorem stepOf_of_not_isIndexed (h : ∀ word ds, ¬ IsIndexed cs word ds) :
    stepOf cs = .key (String.ofList cs) := by
  have hnone : indexed? cs = none := by
    rw [Option.eq_none_iff_forall_ne_some]
    rintro ⟨word, ds⟩ hsome
    exact h word ds (indexed?_eq_some_iff.mp hsome)
  rw [stepOf, hnone]

end Path

namespace Step

/-- The steps that paths are made of: a key is not empty, holds no point and does not read as a word
with an index, and only words take an index. -/
def IsSpellable : Step → Prop
  | key name => name ≠ "" ∧ '.' ∉ name.toList ∧ ∀ word ds, ¬ Path.IsIndexed name.toList word ds
  | item name _ => name ≠ "" ∧ ∀ c ∈ name.toList, Path.isWordChar c = true

/-- The text of a step, with so many zeros before its index. -/
def text (zeros : Nat) : Step → String
  | key name => name
  | item name index =>
    name ++ "[" ++ String.ofList (List.replicate zeros '0') ++ toString index ++ "]"

theorem toList_text_item (zeros : Nat) (name : String) (index : Nat) :
    ((item name index).text zeros).toList =
      name.toList ++ '[' :: (List.replicate zeros '0' ++ Nat.toDigits 10 index ++ [']']) := by
  simp [text]

theorem isIndexed_text_item {name : String} {index : Nat} (h : (item name index).IsSpellable)
    (zeros : Nat) : Path.IsIndexed ((item name index).text zeros).toList name.toList
      (List.replicate zeros '0' ++ Nat.toDigits 10 index) where
  word_ne_nil := by simpa using h.1
  isWordChar := h.2
  digits_ne_nil := by simp
  isDigit := by
    rw [List.forall_mem_append]
    exact ⟨fun c hc => List.eq_of_mem_replicate hc ▸ rfl, Path.isDigit_of_mem⟩
  eq := toList_text_item zeros name index

theorem IsSpellable.stepOf_text {s : Step} (h : s.IsSpellable) (zeros : Nat) :
    Path.stepOf (s.text zeros).toList = s := by
  cases s with
  | key name => rw [text, Path.stepOf_of_not_isIndexed h.2.2, String.ofList_toList]
  | item name index =>
    rw [(isIndexed_text_item h zeros).stepOf_eq, Text.natOf_replicate_append, Text.natOf_toDigits,
      String.ofList_toList]

theorem IsSpellable.text_ne_nil {s : Step} (h : s.IsSpellable) (zeros : Nat) :
    (s.text zeros).toList ≠ [] := by
  cases s with
  | key name => simpa [text] using h.1
  | item name index => simp [toList_text_item]

theorem IsSpellable.point_not_mem_text {s : Step} (h : s.IsSpellable) (zeros : Nat) :
    '.' ∉ (s.text zeros).toList := by
  cases s with
  | key name => exact h.2.1
  | item name index =>
    have hname : '.' ∉ name.toList := fun hc => absurd (h.2 '.' hc) (by decide)
    have hindex : '.' ∉ Nat.toDigits 10 index := fun hc =>
      absurd (Path.isDigit_of_mem '.' hc) (by decide)
    simp [toList_text_item, hname, hindex]

theorem exists_text_stepOf {piece : List Char} (hne : piece ≠ []) (hpoint : '.' ∉ piece) :
    (Path.stepOf piece).IsSpellable ∧
      ∃ zeros, (Path.stepOf piece).text zeros = String.ofList piece := by
  by_cases hindexed : ∃ word ds, Path.IsIndexed piece word ds
  · obtain ⟨word, ds, h⟩ := hindexed
    obtain ⟨zeros, hds⟩ := Path.exists_replicate_append_toDigits h.digits_ne_nil h.isDigit
    rw [h.stepOf_eq]
    refine ⟨⟨by simpa using h.word_ne_nil, by simpa using h.isWordChar⟩, zeros, ?_⟩
    rw [← String.toList_inj, toList_text_item, ← hds, String.toList_ofList, String.toList_ofList,
      h.eq]
  · simp only [not_exists] at hindexed
    rw [Path.stepOf_of_not_isIndexed hindexed]
    exact ⟨⟨by simpa using hne, by simpa using hpoint, by simpa using hindexed⟩, 0, rfl⟩

end Step

/-- A path spells steps: their texts stand in it with points between them. Each step is given with
the number of zeros before its index. -/
structure IsSpelling (path : String) (steps : List Step) : Prop where
  ne_nil : steps ≠ []
  spellable : ∀ s ∈ steps, s.IsSpellable
  texts : ∃ spelled : List (Step × Nat), spelled.map Prod.fst = steps ∧
    path = ".".intercalate (spelled.map fun (s, zeros) => s.text zeros)

/-- Where steps lead: a key to the member of that name, a key with an index to that item of the list
that is the member of that name. -/
inductive Reaches : Value → List Step → Value → Prop
  | here (v : Value) : Reaches v [] v
  | member {members : List (String × Value)} {name : String} {w v : Value} {rest : List Step} :
      members.lookup name = some w → Reaches w rest v →
      Reaches (.obj members) (.key name :: rest) v
  | item {members : List (String × Value)} {name : String} {items : List Value} {index : Nat}
      {w v : Value} {rest : List Step} :
      members.lookup name = some (.arr items) → items[index]? = some w → Reaches w rest v →
      Reaches (.obj members) (.item name index :: rest) v

def IsStuck (v : Value) (steps : List Step) : Prop :=
  ∃ walked s rest w, steps = walked ++ s :: rest ∧ Reaches v walked w ∧ ∀ u, ¬ Reaches w [s] u

section

variable {document v w : Value} {s : Step} {steps rest : List Step} {path : String}

theorem reaches_cons_iff :
    Reaches v (s :: rest) w ↔ ∃ u, s.follow v = some u ∧ Reaches u rest w := by
  constructor
  · intro h
    cases h with
    | member hmember hrest => exact ⟨_, hmember, hrest⟩
    | item hmember hitem hrest =>
      exact ⟨_, by simp [Step.follow, Value.get?, hmember, hitem], hrest⟩
  · rintro ⟨u, hfollow, hrest⟩
    cases s with
    | key name =>
      cases v with
      | obj members => exact .member hfollow hrest
      | _ => exact absurd hfollow nofun
    | item name index =>
      rw [Step.follow] at hfollow
      split at hfollow
      · rename_i items hitems
        cases v with
        | obj members => exact .item hitems hfollow hrest
        | _ => exact absurd hitems nofun
      · exact absurd hfollow nofun

theorem foldlM_follow_eq_some_iff :
    steps.foldlM Step.follow v = some w ↔ Reaches v steps w := by
  induction steps generalizing v with
  | nil =>
    rw [List.foldlM_nil]
    constructor
    · intro h
      obtain rfl := Option.some.inj h
      exact .here v
    · rintro ⟨⟩
      rfl
  | cons s rest ih =>
    rw [List.foldlM_cons, reaches_cons_iff]
    simp only [Option.bind_eq_bind, Option.bind_eq_some_iff, ih]

theorem reaches_singleton_iff : Reaches v [s] w ↔ s.follow v = some w := by
  have hsingle : [s].foldlM Step.follow v = s.follow v := Option.bind_fun_some _
  rw [← foldlM_follow_eq_some_iff, hsingle]

theorem foldlM_follow_eq_none_iff : steps.foldlM Step.follow v = none ↔ IsStuck v steps := by
  constructor
  · intro h
    induction steps generalizing v with
    | nil => exact absurd h nofun
    | cons s rest ih =>
      rw [List.foldlM_cons] at h
      cases hfollow : s.follow v with
      | none => exact ⟨[], s, rest, v, rfl, .here v, fun u hu =>
          absurd (reaches_singleton_iff.mp hu) (by simp [hfollow])⟩
      | some u =>
        rw [hfollow] at h
        obtain ⟨walked, t, left, w, rfl, hwalked, hstuck⟩ := ih h
        exact ⟨s :: walked, t, left, w, rfl, reaches_cons_iff.mpr ⟨u, hfollow, hwalked⟩, hstuck⟩
  · rintro ⟨walked, s, rest, w, rfl, hwalked, hstuck⟩
    rw [List.foldlM_append, foldlM_follow_eq_some_iff.mpr hwalked]
    change (s :: rest).foldlM Step.follow w = none
    rw [List.foldlM_cons, Option.eq_none_iff_forall_ne_some.mpr fun u hu =>
      hstuck u (reaches_singleton_iff.mpr hu)]
    rfl

/-! Reading a path -/

theorem pieces_append_point (p q : String) :
    Path.pieces (p ++ "." ++ q) = Path.pieces p ++ Path.pieces q := by
  have hlist : (p ++ "." ++ q).toList = p.toList ++ '.' :: q.toList := by simp
  rw [Path.pieces, hlist, Text.splitOn_append_cut (by decide)]
  rfl

theorem pieces_intercalate {texts : List String} (hne : texts ≠ [])
    (hpoint : ∀ t ∈ texts, '.' ∉ t.toList) :
    Path.pieces (".".intercalate texts) = texts.map String.toList := by
  have hlist : (".".intercalate texts).toList = ['.'].intercalate (texts.map String.toList) :=
    String.toList_intercalate
  rw [Path.pieces, hlist, Text.splitOn_intercalate (by simpa using hne)
    (List.forall_mem_map.mpr hpoint)]

theorem followPiece_text (h : s.IsSpellable) (zeros : Nat) (v : Value) :
    Path.followPiece v (s.text zeros).toList = s.follow v := by
  have hne : (s.text zeros).toList.isEmpty = false := by
    rw [← Bool.not_eq_true, List.isEmpty_iff]
    exact h.text_ne_nil zeros
  rw [Path.followPiece, hne, if_neg Bool.false_ne_true, h.stepOf_text]

theorem IsSpelling.resolve_eq (h : IsSpelling path steps) (document : Value) :
    resolve document path = steps.foldlM Step.follow document := by
  obtain ⟨hne, hspellable, spelled, rfl, rfl⟩ := h
  rw [List.forall_mem_map] at hspellable
  rw [resolve, pieces_intercalate (by simpa using hne) (List.forall_mem_map.mpr fun pair hpair =>
    (hspellable pair hpair).point_not_mem_text pair.2)]
  clear hne
  induction spelled generalizing document with
  | nil => rfl
  | cons pair spelled ih =>
    rw [List.forall_mem_cons] at hspellable
    simp only [List.map_cons, List.foldlM_cons, followPiece_text hspellable.1]
    exact Option.bind_congr fun u _ => ih u hspellable.2

theorem isSpelling_of_pieces (h : ∀ piece ∈ Path.pieces path, piece ≠ []) :
    IsSpelling path ((Path.pieces path).map Path.stepOf) := by
  have hread : ∀ piece ∈ Path.pieces path, (Path.stepOf piece).IsSpellable ∧
      ∃ zeros, (Path.stepOf piece).text zeros = String.ofList piece := fun piece hpiece =>
    Step.exists_text_stepOf (h piece hpiece) fun hpoint =>
      of_decide_eq_false (Text.not_isCut_of_mem_splitOn hpiece '.' hpoint) rfl
  choose! zeros htext using fun piece hpiece => (hread piece hpiece).2
  refine ⟨by simpa [Path.pieces] using Text.splitOn_ne_nil _ _,
    List.forall_mem_map.mpr fun piece hpiece => (hread piece hpiece).1,
    (Path.pieces path).map fun piece => (Path.stepOf piece, zeros piece), List.map_map, ?_⟩
  have hid : String.toList ∘ String.ofList = id := funext fun _ => String.toList_ofList
  simp only [List.map_map, Function.comp_def]
  rw [List.map_congr_left htext, ← String.toList_inj, String.toList_intercalate, List.map_map, hid,
    List.map_id]
  exact (Text.intercalate_splitOn '.' path.toList).symm

theorem pieces_ne_nil_of_resolve (h : resolve document path = some v) :
    ∀ piece ∈ Path.pieces path, piece ≠ [] := by
  rw [resolve] at h
  generalize Path.pieces path = pieces at h
  induction pieces generalizing document with
  | nil => exact fun _ hmem => absurd hmem List.not_mem_nil
  | cons piece rest ih =>
    rw [List.foldlM_cons] at h
    obtain ⟨u, hpiece, hrest⟩ := Option.bind_eq_some_iff.mp h
    refine List.forall_mem_cons.mpr ⟨?_, ih hrest⟩
    rintro rfl
    exact absurd hpiece nofun

/-- Paths address exactly the positions that steps reach. However steps are spelled, their path
leads to the value that they reach, and nowhere exactly when one of them cannot be followed; and a
text that leads to a value spells steps that reach it. -/
theorem resolve_iff_reaches (document : Value) :
    (∀ steps path, IsSpelling path steps →
      (∀ v, resolve document path = some v ↔ Reaches document steps v) ∧
      (resolve document path = none ↔ IsStuck document steps)) ∧
    ∀ path v, resolve document path = some v →
      ∃ steps, IsSpelling path steps ∧ Reaches document steps v := by
  refine ⟨fun steps path h => ?_, fun path v h => ?_⟩
  · rw [h.resolve_eq document]
    exact ⟨fun v => foldlM_follow_eq_some_iff, foldlM_follow_eq_none_iff⟩
  · have hspelling := isSpelling_of_pieces (pieces_ne_nil_of_resolve h)
    refine ⟨_, hspelling, foldlM_follow_eq_some_iff.mp ?_⟩
    rw [← hspelling.resolve_eq document, h]

/-- A zero before the index of a card does not change where the path of its title leads. -/
theorem resolve_iff_reaches_secondTitle :
    IsSpelling "cards[01].title" [.item "cards" 1, .key "title"] ∧
      resolve (.obj [("cards", .arr [.null, .obj [("title", .str "B")]])]) "cards[01].title" =
        some (.str "B") := by
  have hspelling : IsSpelling "cards[01].title" [.item "cards" 1, .key "title"] := by
    have hsteps : (Path.pieces "cards[01].title").map Path.stepOf =
        [.item "cards" 1, .key "title"] := by decide
    exact hsteps ▸ isSpelling_of_pieces (by decide)
  have hreaches : Reaches (.obj [("cards", .arr [.null, .obj [("title", .str "B")]])])
      [.item "cards" 1, .key "title"] (.str "B") :=
    .item rfl rfl (.member rfl (.here _))
  exact ⟨hspelling, (((resolve_iff_reaches _).1 _ _ hspelling).1 _).mpr hreaches⟩

/-- A path that goes on behind a point leads from where its first part leads to where the second
leads from there; both parts may be any texts. -/
theorem resolve_append_point (document : Value) (p q : String) :
    resolve document (p ++ "." ++ q) = (resolve document p).bind fun v => resolve v q := by
  rw [resolve, pieces_append_point, List.foldlM_append]
  rfl

end

end ContentBinding.Binding
