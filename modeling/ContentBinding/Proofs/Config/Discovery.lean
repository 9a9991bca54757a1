import ContentBinding.Proofs.Config.Declared
import ContentBinding.Proofs.Files.Written

/-! The search for the settings file. Every look goes one directory outwards, and the root is its
own parent, so that the search comes to an end. It ends in the innermost directory that has a
settings file, unless the system refuses a place that lies further in. -/

namespace ContentBinding.Config

open Files (AreParts Path PathError Refusal World)

variable {w : World} {dir : Path} {names found : List String} {n m : Nat}
  {r r' : Except PathError (Option Path)}

/-! The looks -/

/-- So many looks bring the search from a directory to its end. -/
inductive Searches (w : World) : Nat → Path → Except PathError (Option Path) → Prop
  | refused {dir : Path} {e : PathError} : w.pathExists (dir.child fileName) = .error e →
    Searches w 1 dir (.error e)
  | found {dir : Path} : w.pathExists (dir.child fileName) = .ok true →
    Searches w 1 dir (.ok (some (dir.child fileName)))
  | exhausted {dir : Path} : w.pathExists (dir.child fileName) = .ok false → dir.parent = dir →
    Searches w 1 dir (.ok none)
  | outwards {n : Nat} {dir : Path} {r : Except PathError (Option Path)} :
    w.pathExists (dir.child fileName) = .ok false → dir.parent ≠ dir →
    Searches w n dir.parent r → Searches w (n + 1) dir r

theorem Searches.unique (h : Searches w n dir r) (h' : Searches w m dir r') : n = m ∧ r = r' := by
  induction h generalizing m r' with
  | refused he => cases h' <;> simp_all
  | found hfound => cases h' <;> simp_all
  | exhausted hnone hroot => cases h' <;> simp_all
  | outwards hnone hparent _ ih =>
    cases h' with
    | refused he => simp_all
    | found hfound => simp_all
    | exhausted _ hroot => exact absurd hroot hparent
    | outwards _ _ hrest =>
      obtain ⟨hn, hr⟩ := ih hrest
      exact ⟨congrArg (· + 1) hn, hr⟩

theorem candidateIn_reverse (names : List String) :
    candidateIn names.reverse = (Path.absolute names).child fileName := by
  rw [candidateIn, List.reverse_reverse]

theorem parent_absolute_concat (names : List String) (name : String) :
    (Path.absolute (names ++ [name])).parent = Path.absolute names := by
  rw [Path.parent, Path.absolute, List.dropLast_concat, Path.absolute]

theorem parent_absolute_concat_ne (names : List String) (name : String) :
    (Path.absolute (names ++ [name])).parent ≠ Path.absolute (names ++ [name]) := by
  rw [parent_absolute_concat]
  intro h
  exact absurd (congrArg (List.length ∘ Path.names) h) (by simp [Path.absolute])

theorem exists_searches (w : World) (names : List String) : ∃ n ≤ names.length + 1,
    Searches w n (Path.absolute names.reverse) (discoverFrom w names) := by
  induction names with
  | nil =>
    refine ⟨1, Nat.le_refl _, ?_⟩
    unfold discoverFrom
    cases h : w.pathExists (candidateIn []) with
    | error e => exact .refused h
    | ok b =>
      cases b with
      | true => exact .found h
      | false => exact .exhausted h rfl
  | cons name outer ih =>
    obtain ⟨n, hn, hsearch⟩ := ih
    unfold discoverFrom
    have hplace : Path.absolute (name :: outer).reverse = Path.absolute (outer.reverse ++ [name]) := by
      rw [List.reverse_cons]
    cases h : w.pathExists (candidateIn (name :: outer)) with
    | error e => exact ⟨1, Nat.succ_le_succ (Nat.zero_le _), .refused h⟩
    | ok b =>
      cases b with
      | true => exact ⟨1, Nat.succ_le_succ (Nat.zero_le _), .found h⟩
      | false =>
        refine ⟨n + 1, Nat.succ_le_succ hn, .outwards h ?_ ?_⟩
        · rw [hplace]
          exact parent_absolute_concat_ne _ _
        · rwa [hplace, parent_absolute_concat]

/-! What the directories have -/

def settingsIn (names : List String) : Path :=
  (Path.absolute names).child fileName

def Holds (w : World) (names : List String) : Prop :=
  World.hasNull (settingsIn names) = false ∧ ∃ real e, w.locate (settingsIn names) = .ok (real, e)

/-- The system refuses to say what is in the place of the settings: a directory on the way must not
be searched, or a name or the whole path is too long. -/
def RefusedFor (w : World) (names : List String) (r : Refusal) : Prop :=
  World.hasNull (settingsIn names) = false ∧ w.locate (settingsIn names) = .error r ∧
    r.isAbsence = false

def Refuses (w : World) (names : List String) : Prop :=
  ∃ r, RefusedFor w names r

/-- The innermost of the directories at and above the current one that are of a kind. -/
structure Innermost (w : World) (kind : List String → Prop) (names : List String) : Prop where
  above : names <+: w.current
  here : kind names
  inner : ∀ below, below <+: w.current → names.length < below.length → ¬ kind below

theorem Refuses.not_holds (h : Refuses w names) : ¬ Holds w names := by
  obtain ⟨r, -, hrefused, -⟩ := h
  rintro ⟨-, real, e, hlocate⟩
  exact absurd (hrefused.symm.trans hlocate) nofun

theorem RefusedFor.unique {r' : Refusal} {r : Refusal} (h : RefusedFor w names r)
    (h' : RefusedFor w names r') : r = r' :=
  Except.error.inj (h.2.1.symm.trans h'.2.1)

theorem pathExists_eq_true_iff : w.pathExists (settingsIn names) = .ok true ↔ Holds w names := by
  unfold World.pathExists Holds
  constructor
  · intro h
    cases hstat : w.stat (settingsIn names) with
    | error e =>
      rw [hstat] at h
      exact absurd h nofun
    | ok found =>
      rw [hstat] at h
      obtain ⟨e, rfl⟩ := Option.isSome_iff_exists.mp (Except.ok.inj h)
      obtain ⟨hnull, real, hlocate⟩ := World.stat_eq_some_iff.mp hstat
      exact ⟨hnull, real, e, hlocate⟩
  · rintro ⟨hnull, real, e, hlocate⟩
    rw [World.stat_eq_some_iff.mpr ⟨hnull, real, hlocate⟩]
    rfl

theorem pathExists_eq_error_iff {e : PathError} : w.pathExists (settingsIn names) = .error e ↔
    ∃ r, RefusedFor w names r ∧ e = .system ⟨r, (settingsIn names).toString⟩ := by
  have hstat : w.pathExists (settingsIn names) = .error e ↔
      w.stat (settingsIn names) = .error e := by
    unfold World.pathExists
    cases w.stat (settingsIn names) <;> simp [Except.map]
  rw [hstat, World.stat_eq_error_iff]
  constructor
  · rintro ⟨hnull, r, hlocate, hr, rfl⟩
    exact ⟨r, ⟨hnull, hlocate, hr⟩, rfl⟩
  · rintro ⟨r, ⟨hnull, hlocate, hr⟩, rfl⟩
    exact ⟨hnull, r, hlocate, hr, rfl⟩

theorem pathExists_ne_false_iff : w.pathExists (settingsIn names) ≠ .ok false ↔
    Holds w names ∨ Refuses w names := by
  rw [← pathExists_eq_true_iff]
  cases h : w.pathExists (settingsIn names) with
  | error e =>
    obtain ⟨r, hrefuses, -⟩ := pathExists_eq_error_iff.mp h
    have hrefuses : Refuses w names := ⟨r, hrefuses⟩
    simp [hrefuses]
  | ok b =>
    have hnot : ¬ Refuses w names := fun ⟨r, hrefuses⟩ =>
      absurd (h.symm.trans (pathExists_eq_error_iff.mpr ⟨r, hrefuses, rfl⟩)) nofun
    cases b <;> simp [hnot]

namespace Innermost

variable {kind : List String → Prop}

theorem unique (h : Innermost w kind names) (h' : Innermost w kind found) : names = found := by
  rcases Nat.lt_trichotomy names.length found.length with hlt | heq | hlt
  · exact absurd h'.here (h.inner found h'.above hlt)
  · exact List.IsPrefix.eq_of_length
      (List.prefix_of_prefix_length_le h.above h'.above heq.le) heq
  · exact absurd h.here (h'.inner names h.above hlt)

theorem le_length (h : Innermost w kind found) (habove : names <+: w.current) (hhere : kind names) :
    names.length ≤ found.length :=
  Nat.not_lt.mp fun hlt => h.inner names habove hlt hhere

theorem of_or {other : List String → Prop} (h : Innermost w (fun d => kind d ∨ other d) names)
    (hkind : kind names) : Innermost w kind names :=
  ⟨h.above, hkind, fun below hbelow hlt hhere => h.inner below hbelow hlt (.inl hhere)⟩

end Innermost

theorem exists_innermost {kind : List String → Prop} (names : List String)
    (habove : names <+: w.current) (hhere : kind names) : ∃ found, Innermost w kind found := by
  by_cases hinner : ∃ below, below <+: w.current ∧ names.length < below.length ∧ kind below
  · obtain ⟨below, hbelow, hlt, hkind⟩ := hinner
    have hle := hbelow.length_le
    exact exists_innermost below hbelow hkind
  · push Not at hinner
    exact ⟨names, habove, hhere, hinner⟩
termination_by w.current.length - names.length

theorem nearest_iff : Nearest w w.current.reverse names.reverse ↔
    Innermost w (fun d => Holds w d ∨ Refuses w d) names := by
  have hplace : ∀ d : List String, candidateIn d.reverse = settingsIn d := candidateIn_reverse
  constructor
  · rintro ⟨hsuffix, hfound, hinner⟩
    rw [hplace, pathExists_ne_false_iff] at hfound
    refine ⟨List.reverse_suffix.mp hsuffix, hfound, fun below hbelow hlt hkind => ?_⟩
    have hnone := hinner below.reverse (List.reverse_suffix.mpr hbelow) (by simpa using hlt)
    rw [hplace] at hnone
    exact pathExists_ne_false_iff.mpr hkind hnone
  · rintro ⟨habove, hhere, hinner⟩
    refine ⟨List.reverse_suffix.mpr habove, ?_, fun below hbelow hlt => ?_⟩
    · rw [hplace]
      exact pathExists_ne_false_iff.mpr hhere
    · rw [← List.reverse_reverse below] at hbelow ⊢
      rw [hplace]
      refine Classical.byContradiction fun hne => hinner _ (List.reverse_suffix.mp hbelow) ?_
        (pathExists_ne_false_iff.mp hne)
      simpa using hlt

/-! The end of the search -/

/-- The search has come to the innermost directory with settings, or to the root without any. -/
inductive Discovers (w : World) : Except PathError (Option Path) → Prop
  | nothing : (∀ names, names <+: w.current → ¬ Holds w names ∧ ¬ Refuses w names) →
    Discovers w (.ok none)
  | found {names : List String} : Innermost w (fun d => Holds w d ∨ Refuses w d) names →
    Holds w names → Discovers w (.ok (some (settingsIn names)))
  | refused {names : List String} {r : Refusal} :
    Innermost w (fun d => Holds w d ∨ Refuses w d) names → RefusedFor w names r →
    Discovers w (.error (.system ⟨r, (settingsIn names).toString⟩))

theorem discovers_discover (w : World) : Discovers w (discover w) := by
  rcases discoverFrom_cases w w.current.reverse with ⟨hnone, hall⟩ | ⟨dir, hdir, heq⟩
  · rw [discover, hnone]
    refine .nothing fun names habove => not_or.mp fun hkind => ?_
    obtain ⟨found, hfound⟩ : ∃ found, Innermost w (fun d => Holds w d ∨ Refuses w d) found :=
      exists_innermost names habove hkind
    exact hall _ (nearest_iff.mpr hfound)
  · rw [discover, heq]
    rw [← List.reverse_reverse dir] at hdir ⊢
    have hfound := nearest_iff.mp hdir
    rw [show candidateIn dir.reverse.reverse = settingsIn dir.reverse from candidateIn_reverse _]
    rcases hfound.here with hholds | ⟨r, hrefuses⟩
    · rw [pathExists_eq_true_iff.mpr hholds]
      exact .found hfound hholds
    · rw [pathExists_eq_error_iff.mpr ⟨r, hrefuses, rfl⟩]
      exact .refused hfound hrefuses

/-- The answer is the settings file of the innermost directory that has one, and nothing when there
is none up to and including the root. -/
structure FindsNearest (w : World) (r : Except PathError (Option Path)) : Prop where
  some_iff : ∀ p, r = .ok (some p) ↔ ∃ names, Innermost w (Holds w) names ∧ p = settingsIn names
  none_iff : r = .ok none ↔ ∀ names, names <+: w.current → ¬ Holds w names

namespace Discovers

theorem findsNearest_iff (h : Discovers w r) : FindsNearest w r ↔
    ∀ names, names <+: w.current → Refuses w names →
      ∃ below, below <+: w.current ∧ names.length < below.length ∧ Holds w below := by
  cases h with
  | nothing hall =>
    refine iff_of_true ⟨fun p => iff_of_false nofun ?_, iff_of_true rfl fun names habove =>
      (hall names habove).1⟩ fun names habove hrefuses => absurd hrefuses (hall names habove).2
    rintro ⟨names, hnames, -⟩
    exact (hall names hnames.above).1 hnames.here
  | @found found hfound hholds =>
    have hinnermost : Innermost w (Holds w) found := hfound.of_or hholds
    refine iff_of_true ⟨fun p => ?_, iff_of_false nofun fun hall => hall found hfound.above hholds⟩
      fun names habove hrefuses => ⟨found, hfound.above, ?_, hholds⟩
    · constructor
      · intro hp
        exact ⟨found, hinnermost, (Option.some.inj (Except.ok.inj hp)).symm⟩
      · rintro ⟨names, hnames, rfl⟩
        rw [hnames.unique hinnermost]
    · refine lt_of_le_of_ne (hfound.le_length habove (.inr hrefuses)) fun heq => ?_
      have hsame := List.IsPrefix.eq_of_length
        (List.prefix_of_prefix_length_le habove hfound.above heq.le) heq
      exact hrefuses.not_holds (hsame ▸ hholds)
  | @refused found refusal hfound hrefuses =>
    refine iff_of_false (fun hfinds => ?_) fun hcovered => ?_
    · -- there is no answer, so that nothing has settings, but then nothing would be the answer
      have hnothing : ∀ names, names <+: w.current → ¬ Holds w names := by
        intro names habove hholds
        obtain ⟨innermost, hinnermost⟩ := exists_innermost names habove hholds
        exact absurd ((hfinds.some_iff _).mpr ⟨innermost, hinnermost, rfl⟩) nofun
      exact absurd (hfinds.none_iff.mpr hnothing) nofun
    · obtain ⟨below, hbelow, hlt, hholds⟩ := hcovered found hfound.above ⟨_, hrefuses⟩
      exact hfound.inner below hbelow hlt (.inl hholds)

theorem error_iff {e : PathError} (h : Discovers w r) : r = .error e ↔
    ∃ names refusal, Innermost w (fun d => Holds w d ∨ Refuses w d) names ∧
      RefusedFor w names refusal ∧ e = .system ⟨refusal, (settingsIn names).toString⟩ := by
  cases h with
  | nothing hall =>
    refine iff_of_false nofun ?_
    rintro ⟨names, refusal, hnames, hrefuses, -⟩
    exact (hall names hnames.above).2 ⟨refusal, hrefuses⟩
  | found hfound hholds =>
    refine iff_of_false nofun ?_
    rintro ⟨names, refusal, hnames, hrefuses, -⟩
    have hnot : ¬ Holds w names := Refuses.not_holds ⟨refusal, hrefuses⟩
    exact hnot (hfound.unique hnames ▸ hholds)
  | refused hfound hrefuses =>
    constructor
    · intro he
      exact ⟨_, _, hfound, hrefuses, (Except.error.inj he).symm⟩
    · rintro ⟨names, refusal, hnames, hrefuses', rfl⟩
      obtain rfl := hfound.unique hnames
      rw [hrefuses.unique hrefuses']

end Discovers

/-- From every directory the search ends after at most one look for each directory up to the root.
It finds the nearest settings file exactly if the system refuses the place of no directory but such
as have a settings file further in; otherwise it fails at the innermost place that is refused. -/
theorem discovery_ends_nearest_iff (w : World) :
    (∃ n ≤ w.current.length + 1, ∀ m r, Searches w m (.absolute w.current) r ↔
      m = n ∧ r = discover w) ∧
    (FindsNearest w (discover w) ↔ ∀ names, names <+: w.current → Refuses w names →
      ∃ below, below <+: w.current ∧ names.length < below.length ∧ Holds w below) ∧
    (∀ e, discover w = .error e ↔ ∃ names r,
      Innermost w (fun d => Holds w d ∨ Refuses w d) names ∧ RefusedFor w names r ∧
        e = .system ⟨r, (settingsIn names).toString⟩) := by
  refine ⟨?_, ?_, fun e => ?_⟩
  · obtain ⟨n, hn, hsearch⟩ := exists_searches w w.current.reverse
    rw [List.reverse_reverse] at hsearch
    rw [List.length_reverse] at hn
    exact ⟨n, hn, fun m r => ⟨fun h => h.unique hsearch, fun ⟨hm, hr⟩ => hm ▸ hr ▸ hsearch⟩⟩
  · exact (discovers_discover w).findsNearest_iff
  · exact (discovers_discover w).error_iff

/-! A link in the place of the settings whose target has too long a name -/

/-- There are settings in the root, and in the directory below it a link in their place. -/
def linkForSettings (target : String) : World :=
  { entries := [(["pagebind.toml"], .file (Text.encodeUtf8 "")), (["sub"], .directory),
      (["sub", "pagebind.toml"], .link target)]
    current := ["sub"] }

theorem holds_linkForSettings (target : String) : Holds (linkForSettings target) [] :=
  ⟨rfl, ["pagebind.toml"], .file (Text.encodeUtf8 ""), rfl⟩

theorem refuses_linkForSettings {target : String}
    (hlong : World.maxNameBytes < target.utf8ByteSize) (hslash : '/' ∉ target.toList) :
    RefusedFor (linkForSettings target) ["sub"] .nameTooLong := by
  have hother {short : String} (hshort : short.utf8ByteSize ≤ World.maxNameBytes) :
      target ≠ short := by
    rintro rfl
    exact absurd hlong (Nat.not_lt.mpr hshort)
  have hpart : AreParts [target] := by
    intro name hname
    rw [List.mem_singleton.mp hname]
    exact ⟨hother (by decide), hother (by decide), hslash⟩
  have htarget : Path.ofString target = ⟨.here, [target]⟩ :=
    Path.ofString_intercalate hpart (List.cons_ne_nil _ _)
  have hlink : (linkForSettings target).descend true [] ["sub", "pagebind.toml"] =
      .link ["sub"] target [] := by rfl
  have hrefused : (linkForSettings target).descend true ["sub"] [target] =
      .refused .nameTooLong := by
    have hdenied : (linkForSettings target).denies .search ["sub"] = false := rfl
    rw [World.descend, hdenied, if_neg Bool.false_ne_true, if_neg (hother (by decide)), if_pos hlong]
  refine ⟨rfl, ?_, rfl⟩
  show (linkForSettings target).follow true World.maxLinks [] ["sub", "pagebind.toml"] = _
  rw [World.follow, hlink, World.maxLinks]
  dsimp only
  rw [htarget]
  show (linkForSettings target).follow true _ ["sub"] [target] = _
  rw [World.follow, hrefused]

def longName : String :=
  String.ofList (List.replicate 256 'a')

/-- The link leads nowhere, and the search fails there instead of finding the settings of the
directory above. -/
theorem link_ends_discovery :
    Innermost (linkForSettings longName) (Holds (linkForSettings longName)) [] ∧
    discover (linkForSettings longName) =
      .error (.system ⟨.nameTooLong, "/sub/pagebind.toml"⟩) ∧
    ¬ FindsNearest (linkForSettings longName) (discover (linkForSettings longName)) := by
  have hchars : longName.toList = List.replicate 256 'a' := String.toList_ofList
  have hslash : '/' ∉ longName.toList := by
    intro hmem
    rw [hchars] at hmem
    exact absurd (List.eq_of_mem_replicate hmem) (by decide)
  have hlong : World.maxNameBytes < longName.utf8ByteSize := by decide +kernel
  have hrefuses := refuses_linkForSettings hlong hslash
  have hsub : Innermost (linkForSettings longName)
      (fun d => Holds (linkForSettings longName) d ∨ Refuses (linkForSettings longName) d) ["sub"] :=
    ⟨List.prefix_refl _, .inr ⟨_, hrefuses⟩, fun below hbelow hlt =>
      absurd hbelow.length_le (Nat.not_le.mpr hlt)⟩
  have hfails := (discovers_discover (linkForSettings longName)).error_iff.mpr
    ⟨["sub"], .nameTooLong, hsub, hrefuses, rfl⟩
  have hroot : Innermost (linkForSettings longName) (Holds (linkForSettings longName)) [] := by
    refine ⟨List.nil_prefix, holds_linkForSettings longName, fun below hbelow hlt hholds => ?_⟩
    have hdeepest : below <+: ["sub"] := hbelow
    rcases List.prefix_cons_iff.mp hdeepest with rfl | ⟨rest, rfl, hrest⟩
    · exact absurd hlt (Nat.lt_irrefl 0)
    · obtain rfl := List.prefix_nil.mp hrest
      have hnot : ¬ Holds (linkForSettings longName) ["sub"] := Refuses.not_holds ⟨_, hrefuses⟩
      exact hnot hholds
  refine ⟨hroot, hfails, fun hfinds => ?_⟩
  have hfound := (hfinds.some_iff _).mpr ⟨[], hroot, rfl⟩
  exact absurd (hfails.symm.trans hfound) nofun

end ContentBinding.Config
