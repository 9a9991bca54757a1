import ContentBinding.Proofs.Binding.Addressing
import ContentBinding.Proofs.Binding.Planning

/-! What breaks planning off: an index in a path, or an integer that is to be a text, with more
digits than are read or written. Such a binding has neither a write nor a reason, and with it the
whole page goes without a plan. Every other plan accounts for each of its bindings. -/

namespace ContentBinding.Binding

open Json (Value)

variable {ε : Type} {document v : Value} {path : String}

namespace Path

variable {piece : List Char} {rest : List (List Char)}

def IsOverlong (piece : List Char) : Prop :=
  ∃ word ds, IsIndexed piece word ds ∧ Text.maxDigits < ds.length

/-- Following pieces comes to an index with too many digits. -/
def BreaksAlong (v : Value) (pieces : List (List Char)) : Prop :=
  ∃ walked piece rest u, pieces = walked ++ piece :: rest ∧
    walked.foldlM followPiece v = some u ∧ IsOverlong piece

theorem exists_overlong?_iff : (∃ e, ((indexed? piece).bind fun i => Text.overlong? i.2) = some e) ↔
    IsOverlong piece := by
  constructor
  · rintro ⟨e, h⟩
    obtain ⟨⟨word, ds⟩, hindexed, hlong⟩ := Option.bind_eq_some_iff.mp h
    refine ⟨word, ds, indexed?_eq_some_iff.mp hindexed, ?_⟩
    by_contra hshort
    rw [Text.overlong?, if_neg hshort] at hlong
    exact absurd hlong nofun
  · rintro ⟨word, ds, hindexed, hlong⟩
    rw [indexed?_eq_some_iff.mpr hindexed, Option.bind_some, Text.overlong?, if_pos hlong]
    exact ⟨_, rfl⟩

theorem breaksAlong_cons_iff : BreaksAlong v (piece :: rest) ↔
    IsOverlong piece ∨ ∃ u, followPiece v piece = some u ∧ BreaksAlong u rest := by
  constructor
  · rintro ⟨walked, broken, left, u, heq, hwalked, hlong⟩
    cases walked with
    | nil =>
      rw [List.nil_append, List.cons.injEq] at heq
      exact .inl (heq.1 ▸ hlong)
    | cons first walked =>
      rw [List.cons_append, List.cons.injEq] at heq
      obtain ⟨rfl, hrest⟩ := heq
      rw [List.foldlM_cons] at hwalked
      obtain ⟨w, hfirst, hwalked⟩ := Option.bind_eq_some_iff.mp hwalked
      exact .inr ⟨w, hfirst, walked, broken, left, u, hrest, hwalked, hlong⟩
  · rintro (hlong | ⟨w, hfirst, walked, broken, left, u, rfl, hwalked, hlong⟩)
    · exact ⟨[], piece, rest, v, rfl, rfl, hlong⟩
    · refine ⟨piece :: walked, broken, left, u, rfl, ?_, hlong⟩
      rw [List.foldlM_cons, hfirst]
      exact hwalked

theorem exists_overlongAlong?_iff {pieces : List (List Char)} :
    (∃ e, overlongAlong? v pieces = some e) ↔ BreaksAlong v pieces := by
  induction pieces generalizing v with
  | nil =>
    refine ⟨fun ⟨_, h⟩ => absurd h nofun, ?_⟩
    rintro ⟨walked, piece, rest, u, heq, -⟩
    exact absurd heq (by simp)
  | cons piece rest ih =>
    rw [breaksAlong_cons_iff, ← exists_overlong?_iff, overlongAlong?]
    cases (indexed? piece).bind fun i => Text.overlong? i.2 with
    | some e => simp
    | none => simp [Option.bind_eq_some_iff, exists_comm, ← ih]

end Path

/-- Following a path comes to an index with too many digits. -/
def BreaksAt (document : Value) (path : String) : Prop :=
  Path.BreaksAlong document (Path.pieces path)

theorem exists_overlong?_iff : (∃ e, overlong? document path = some e) ↔ BreaksAt document path :=
  Path.exists_overlongAlong?_iff

/-- A value that has too many digits for a text. -/
def IsUnwritable (v : Value) : Prop :=
  ∃ n, v = .int n ∧ Text.maxDigits < (Nat.toDigits 10 n.natAbs).length

theorem exists_unwritable?_iff : (∃ e, unwritable? v = some e) ↔ IsUnwritable v := by
  unfold IsUnwritable
  cases v with
  | int n =>
    rw [unwritable?, Text.unwritable?]
    by_cases hlong : Text.maxDigits < (Nat.toDigits 10 n.natAbs).length <;> simp [hlong]
  | _ => simp [unwritable?]

namespace Plan

/-- What breaks the planning of a scan off: a path of a text or a picture, or a value whose text is
to be written. -/
inductive Breaks (document : Value) (s : Scan ε) : Prop
  | text {b : TextBinding ε} : b ∈ s.texts → BreaksAt document b.path → Breaks document s
  | image {b : ImageBinding ε} : b ∈ s.images → BreaksAt document b.path → Breaks document s
  | value {b : TextBinding ε} {v : Value} : b ∈ s.texts → b.path ≠ contactPath →
    resolve document b.path = some v → IsUnwritable v → Breaks document s
  | contact {b : TextBinding ε} {members : List (String × Value)} {name : String} {v : Value} :
    b ∈ s.texts → b.path = contactPath → resolve document b.path = some (.obj members) →
    name ∈ contactFields → members.lookup name = some v → IsUnwritable v → Breaks document s
  | title {item : ProjectItem ε} {projects : List Value} {members : List (String × Value)}
    {v : Value} : item ∈ s.projects → item.Paired document →
    document.get? "projects" = some (.arr projects) →
    projects[item.index]? = some (.obj members) → members.lookup "title" = some v →
    IsUnwritable v → Breaks document s

theorem exists_findSome?_iff {α β : Type} {f : α → Option β} {l : List α} :
    (∃ e, l.findSome? f = some e) ↔ ∃ a ∈ l, ∃ e, f a = some e := by
  simp only [← Option.isSome_iff_exists, List.findSome?_isSome_iff]

theorem exists_contactOverlong?_iff {members : List (String × Value)} :
    (∃ e, (contactFields.findSome? fun name => (members.lookup name).bind unwritable?) = some e) ↔
      ∃ name ∈ contactFields, ∃ v, members.lookup name = some v ∧ IsUnwritable v := by
  simp only [exists_findSome?_iff, Option.bind_eq_some_iff, ← exists_unwritable?_iff]
  refine exists_congr fun name => and_congr_right fun _ => ?_
  rw [exists_comm]
  simp

theorem exists_textOverlong?_iff {b : TextBinding ε} :
    (∃ e, textOverlong? document b = some e) ↔ BreaksAt document b.path ∨
      (b.path ≠ contactPath ∧ ∃ v, resolve document b.path = some v ∧ IsUnwritable v) ∨
      (b.path = contactPath ∧ ∃ members, resolve document b.path = some (.obj members) ∧
        ∃ name ∈ contactFields, ∃ v, members.lookup name = some v ∧ IsUnwritable v) := by
  rw [← exists_overlong?_iff, textOverlong?]
  cases overlong? document b.path with
  | some e => simp
  | none =>
    cases resolve document b.path with
    | none => simp
    | some v =>
      by_cases hcontact : b.path = contactPath
      · cases v with
        | obj members => simpa [hcontact] using exists_contactOverlong?_iff
        | _ => simp [hcontact]
      · simp [hcontact, exists_unwritable?_iff]

theorem exists_projectOverlong?_iff {projects : List Value} {item : ProjectItem ε}
    (hprojects : document.get? "projects" = some (.arr projects)) :
    (∃ e, projectOverlong? projects item = some e) ↔ item.Paired document ∧
      ∃ members v, projects[item.index]? = some (.obj members) ∧
        members.lookup "title" = some v ∧ IsUnwritable v := by
  have hpaired : item.Paired document ↔
      item.index < projects.length ∧ item.heading ≠ none ∧ item.headingBound = false := by
    simp [ProjectItem.Paired, hprojects]
  rw [hpaired, projectOverlong?]
  cases hproject : projects[item.index]? with
  | none => simp
  | some project =>
    have hindex := (List.getElem?_eq_some_iff.mp hproject).1
    cases item.heading with
    | none => simp
    | some heading =>
      cases item.headingBound with
      | true => simp
      | false =>
        cases project with
        | obj members =>
          simp [hindex, Value.get?, Option.bind_eq_some_iff, exists_comm, ← exists_unwritable?_iff]
        | _ => simp [Value.get?]

theorem breaks_of_mem_attempts {s : Scan ε} {attempt : Option Text.Overlong × Plan ε}
    (hattempt : attempt ∈ attempts s document) (hbreaks : ∃ e, attempt.1 = some e) :
    Breaks document s := by
  rw [attempts, List.mem_append, List.mem_append] at hattempt
  rcases hattempt with (htext | himage) | hproject
  · obtain ⟨b, hb, rfl⟩ := List.mem_map.mp htext
    rcases exists_textOverlong?_iff.mp hbreaks with hpath | ⟨hother, v, hv, hlong⟩ |
      ⟨hcontact, members, hmembers, name, hname, v, hv, hlong⟩
    · exact .text hb hpath
    · exact .value hb hother hv hlong
    · exact .contact hb hcontact hmembers hname hv hlong
  · obtain ⟨b, hb, rfl⟩ := List.mem_map.mp himage
    exact .image hb (exists_overlong?_iff.mp hbreaks)
  · cases hlist : projectsOf? document with
    | none =>
      rw [hlist] at hproject
      exact absurd hproject List.not_mem_nil
    | some projects =>
      rw [hlist] at hproject
      obtain ⟨item, hitem, rfl⟩ := List.mem_map.mp hproject
      have hprojects := projectsOf?_eq_some_iff.mp hlist
      obtain ⟨hpaired, members, v, hmembers, hv, hlong⟩ :=
        (exists_projectOverlong?_iff hprojects).mp hbreaks
      exact .title hitem hpaired hprojects hmembers hv hlong

theorem Breaks.exists_attempt {s : Scan ε} (h : Breaks document s) :
    ∃ attempt ∈ attempts s document, ∃ e, attempt.1 = some e := by
  have htext : ∀ b ∈ s.texts, (∃ e, textOverlong? document b = some e) →
      ∃ attempt ∈ attempts s document, ∃ e, attempt.1 = some e := fun b hb he =>
    ⟨_, List.mem_append_left _ (List.mem_append_left _ (List.mem_map_of_mem hb)), he⟩
  cases h with
  | text hb hpath => exact htext _ hb (exists_textOverlong?_iff.mpr (.inl hpath))
  | image hb hpath =>
    exact ⟨_, List.mem_append_left _ (List.mem_append_right _ (List.mem_map_of_mem hb)),
      exists_overlong?_iff.mpr hpath⟩
  | value hb hother hv hlong =>
    exact htext _ hb (exists_textOverlong?_iff.mpr (.inr (.inl ⟨hother, _, hv, hlong⟩)))
  | contact hb hcontact hmembers hname hv hlong =>
    exact htext _ hb (exists_textOverlong?_iff.mpr
      (.inr (.inr ⟨hcontact, _, hmembers, _, hname, _, hv, hlong⟩)))
  | @title item projects members v hitem hpaired hprojects hmembers hv hlong =>
    refine ⟨(projectOverlong? projects item, ofProject projects item),
      List.mem_append_right _ ?_,
      (exists_projectOverlong?_iff hprojects).mpr ⟨hpaired, members, v, hmembers, hv, hlong⟩⟩
    rw [projectsOf?_eq_some_iff.mpr hprojects]
    exact List.mem_map_of_mem hitem

theorem exists_breaksOff?_iff {s : Scan ε} (hdocument : document.isNull = false) :
    (∃ e, breaksOff? s document = some e) ↔ Breaks document s := by
  rw [breaksOff?, hdocument, if_neg Bool.false_ne_true, exists_findSome?_iff]
  constructor
  · rintro ⟨attempt, hattempt, hbreaks⟩
    exact breaks_of_mem_attempts hattempt hbreaks
  · exact Breaks.exists_attempt

theorem attempts_eq (s : Scan ε) (document : Value) :
    attempts s document = s.singles.flatMap fun t => attempts t document := by
  unfold attempts Scan.singles
  simp only [List.flatMap_append, List.flatMap_map, List.map_cons, List.map_nil, List.append_nil,
    List.nil_append]
  cases projectsOf? document <;> simp [← List.map_eq_flatMap]

/-- One binding breaks the planning off for all of them. -/
theorem exists_breaksOff?_iff_single {s : Scan ε} (hdocument : document.isNull = false) :
    (∃ e, breaksOff? s document = some e) ↔
      ∃ t ∈ s.singles, ∃ e, breaksOff? t document = some e := by
  unfold breaksOff?
  simp only [hdocument, if_neg Bool.false_ne_true, exists_findSome?_iff]
  rw [attempts_eq]
  simp only [List.mem_flatMap]
  constructor
  · rintro ⟨a, ⟨t, ht, ha⟩, he⟩
    exact ⟨t, ht, a, ha, he⟩
  · rintro ⟨t, ht, a, ha, he⟩
    exact ⟨a, ⟨t, ht, ha⟩, he⟩

theorem forScan_eq_ok_iff {s : Scan ε} {p : Plan ε} : forScan s document = .ok p ↔
    (¬ ∃ e, breaksOff? s document = some e) ∧ p = ofScan s document := by
  unfold forScan
  cases breaksOff? s document with
  | some e => simp
  | none => simp [eq_comm]

theorem exists_forScan_eq_error_iff {s : Scan ε} :
    (∃ e, forScan s document = .error e) ↔ ∃ e, breaksOff? s document = some e := by
  unfold forScan
  cases breaksOff? s document <;> simp

/-- There is no plan exactly when one of the bindings breaks the planning off, alone or with others.
A plan is what its bindings come to alone, one after the other; each of them is accounted for, and
no text is written with white space around it. -/
theorem forScan_accounts (s : Scan ε) {document : Value} (hdocument : document.isNull = false) :
    ((∃ e, forScan s document = .error e) ↔ Breaks document s) ∧
    ((∃ e, forScan s document = .error e) ↔ ∃ t ∈ s.singles, ∃ e, forScan t document = .error e) ∧
    (∀ p, forScan s document = .ok p → ∃ alone : Scan ε → Plan ε,
      (∀ t ∈ s.singles, forScan t document = .ok (alone t)) ∧
      p.writes = (s.singles.flatMap fun t => (alone t).writes) ∧
      p.skips = (s.singles.flatMap fun t => (alone t).skips) ∧
      ∀ w ∈ p.writes, w.field = .text → Text.Trimmed w.value) ∧
    (∀ (b : TextBinding ε) p, forScan { texts := [b] } document = .ok p →
      p.AccountsForText document b) ∧
    (∀ (b : ImageBinding ε) p, forScan { images := [b] } document = .ok p →
      p.AccountsForImage document b) ∧
    ∀ (item : ProjectItem ε) p, forScan { projects := [item] } document = .ok p →
      p.AccountsForProject document item := by
  obtain ⟨hwrites, hskips, htext, himage, hproject, htrimmed⟩ := ofScan_accounts s hdocument
  simp only [exists_forScan_eq_error_iff, forScan_eq_ok_iff]
  refine ⟨exists_breaksOff?_iff hdocument, exists_breaksOff?_iff_single hdocument, ?_, ?_, ?_, ?_⟩
  · rintro p ⟨hnone, rfl⟩
    refine ⟨fun t => ofScan t document, fun t ht => ⟨fun he => hnone ?_, rfl⟩, hwrites, hskips,
      htrimmed⟩
    exact (exists_breaksOff?_iff_single hdocument).mpr ⟨t, ht, he⟩
  · rintro b p ⟨-, rfl⟩
    exact htext b
  · rintro b p ⟨-, rfl⟩
    exact himage b
  · rintro item p ⟨-, rfl⟩
    exact hproject item

/-! A page with a title, a binding that leads nowhere, a picture without its second source, and two
project items of which one has a heading of its own -/

def mixedScan : Scan Nat :=
  { texts := [⟨0, "title"⟩, ⟨1, "lost"⟩]
    images := [⟨2, "hero", { avif := some 3, img := some 4 }⟩]
    projects := [⟨0, 5, some 6, false⟩, ⟨1, 7, some 8, true⟩] }

def mixedDocument : Value :=
  .obj [("title", .str " Kitchen\n"), ("hero", .str "oak"),
    ("projects", .arr [.obj [("title", .str "Loft")], .obj [("title", .str "Attic")]])]

def lostBinding : TextBinding Nat := ⟨1, "lost"⟩

theorem forScan_accounts_mixedScan :
    mixedDocument.isNull = false ∧
    forScan mixedScan mixedDocument = .ok (ofScan mixedScan mixedDocument) ∧
    ¬ Breaks mixedDocument mixedScan ∧
    (ofScan mixedScan mixedDocument).skips = [.noValue "lost"] ∧
    (∃ p, forScan { texts := [lostBinding] } mixedDocument = .ok p ∧
      p.AccountsForText mixedDocument lostBinding) ∧
    Text.Trimmed "Kitchen" := by
  have hdocument : mixedDocument.isNull = false := rfl
  have hplan : forScan mixedScan mixedDocument = .ok (ofScan mixedScan mixedDocument) := by
    decide +kernel
  have hlost : forScan { texts := [lostBinding] } mixedDocument =
      .ok (ofScan { texts := [lostBinding] } mixedDocument) := by
    decide +kernel
  obtain ⟨hbreaks, -, haccounts, htext, -, -⟩ := forScan_accounts mixedScan hdocument
  obtain ⟨_, -, -, -, htrimmed⟩ := haccounts _ hplan
  refine ⟨hdocument, hplan, fun h => ?_, by decide, ⟨_, hlost, htext _ _ hlost⟩,
    htrimmed ⟨0, .text, "Kitchen"⟩ (by decide) rfl⟩
  obtain ⟨e, he⟩ := hbreaks.mpr h
  exact absurd (hplan.symm.trans he) nofun

/-! A path whose only index has a digit too many -/

def longDigits : List Char :=
  List.replicate (Text.maxDigits + 1) '1'

def longPath : String :=
  String.ofList ('a' :: '[' :: (longDigits ++ [']']))

theorem isIndexed_longPath : Path.IsIndexed longPath.toList ['a'] longDigits where
  word_ne_nil := by decide
  isWordChar := fun _ hc => List.mem_singleton.mp hc ▸ rfl
  digits_ne_nil := List.cons_ne_nil _ _
  isDigit := fun _ hc => List.eq_of_mem_replicate hc ▸ rfl
  eq := String.toList_ofList

theorem pieces_longPath : Path.pieces longPath = [longPath.toList] := by
  refine Text.splitOn_of_not_mem fun hpoint => ?_
  rw [isIndexed_longPath.eq] at hpoint
  have hdigits : '.' ∉ longDigits := fun h => absurd (List.eq_of_mem_replicate h) (by decide)
  simp [hdigits] at hpoint

theorem resolve_longPath : resolve (.obj []) longPath = none := by
  have hne : longPath.toList.isEmpty = false := by
    rw [isIndexed_longPath.eq]
    rfl
  rw [resolve, pieces_longPath, List.foldlM_cons, Path.followPiece, hne,
    if_neg Bool.false_ne_true, isIndexed_longPath.stepOf_eq, Step.follow]
  rfl

theorem breaksAt_longPath (document : Value) : BreaksAt document longPath := by
  refine ⟨[], longPath.toList, [], document, pieces_longPath, rfl, ['a'], longDigits,
    isIndexed_longPath, ?_⟩
  rw [longDigits, List.length_replicate]
  exact Nat.lt_succ_self _

/-- The path leads nowhere, but the binding has no diagnostic that says so. -/
theorem no_plan_of_long_index :
    resolve (.obj []) longPath = none ∧
    ∃ e, forScan ({ texts := [⟨0, longPath⟩] } : Scan Nat) (.obj []) = .error e := by
  refine ⟨resolve_longPath, ?_⟩
  rw [exists_forScan_eq_error_iff, exists_breaksOff?_iff rfl]
  exact .text (List.mem_singleton_self _) (breaksAt_longPath _)

end Plan
end ContentBinding.Binding
