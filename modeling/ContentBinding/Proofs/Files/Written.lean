import ContentBinding.Proofs.Files.Resolution
import ContentBinding.Proofs.Text.Splitting

/-! Names in the text of a path. Names that can stand between slashes are read again from the text
that they make, and resolving a path of such names leads to a place of such names. -/

namespace ContentBinding.Files

def IsPart (name : String) : Prop :=
  name ≠ "" ∧ name ≠ "." ∧ '/' ∉ name.toList

instance (name : String) : Decidable (IsPart name) :=
  inferInstanceAs (Decidable (_ ∧ _ ∧ _))

def AreParts (names : List String) : Prop :=
  ∀ name ∈ names, IsPart name

variable {w : World} {names dir : List String} {name : String} {p q : Path}

theorem AreParts.dropLast (h : AreParts names) : AreParts names.dropLast :=
  fun name hname => h name (List.dropLast_subset names hname)

theorem AreParts.concat (h : AreParts names) (hname : IsPart name) : AreParts (names ++ [name]) :=
  List.forall_mem_append.mpr ⟨h, List.forall_mem_singleton.mpr hname⟩

/-! Texts of paths -/

theorem exists_mem_namesOf {c : Char} (hslash : c ≠ '/') (hpoint : c ≠ '.') (cs : List Char) :
    (∃ name ∈ Path.namesOf cs, c ∈ name.toList) ↔ c ∈ cs := by
  have hcut := @Text.exists_mem_splitOn (fun a => decide (a = '/')) c (decide_eq_false hslash) cs
  rw [← hcut]
  unfold Path.namesOf
  constructor
  · rintro ⟨name, hname, hc⟩
    obtain ⟨piece, hpiece, rfl⟩ := List.mem_map.mp (List.mem_filter.mp hname).1
    exact ⟨piece, hpiece, by simpa using hc⟩
  · rintro ⟨piece, hpiece, hc⟩
    refine ⟨String.ofList piece, List.mem_filter.mpr ⟨List.mem_map.mpr ⟨piece, hpiece, rfl⟩, ?_⟩,
      by simpa using hc⟩
    have hkept : ∀ s : String, c ∉ s.toList → String.ofList piece ≠ s := by
      rintro s hs rfl
      exact hs (by simpa using hc)
    have hempty := hkept "" (by simp)
    have hdot := hkept "." (by simpa using hpoint)
    simp [hempty, hdot]

namespace Path

theorem isAbsolute_ofString (s : String) :
    (Path.ofString s).isAbsolute = true ↔ s.toList.head? = some '/' := by
  unfold Path.isAbsolute Path.ofString
  dsimp only
  cases s.toList with
  | nil => decide
  | cons a cs =>
    by_cases ha : a = '/'
    · subst ha
      unfold Anchor.ofChars
      split <;> simp_all
    · unfold Anchor.ofChars
      split <;> simp_all

theorem areParts_ofString (s : String) : AreParts (ofString s).names := by
  intro name h
  obtain ⟨hpiece, hkept⟩ := List.mem_filter.mp h
  obtain ⟨piece, hmem, rfl⟩ := List.mem_map.mp hpiece
  have hslash : '/' ∉ piece := by
    intro hc
    simpa using Text.not_isCut_of_mem_splitOn hmem '/' hc
  simp only [Bool.and_eq_true, bne_iff_ne] at hkept
  exact ⟨hkept.1, hkept.2, by simpa using hslash⟩

theorem namesOf_intercalate (h : AreParts names) (hne : names ≠ []) :
    namesOf ("/".intercalate names).toList = names := by
  have hlist : ("/".intercalate names).toList = ['/'].intercalate (names.map String.toList) :=
    String.toList_intercalate
  have hslash : ∀ piece ∈ names.map String.toList, '/' ∉ piece :=
    List.forall_mem_map.mpr fun name hname => (h name hname).2.2
  have hkept : ∀ name ∈ names, (name != "" && name != ".") = true := by
    intro name hname
    rw [Bool.and_eq_true, bne_iff_ne, bne_iff_ne]
    exact ⟨(h name hname).1, (h name hname).2.1⟩
  have hid : String.ofList ∘ String.toList = id := funext fun _ => String.ofList_toList
  rw [namesOf, hlist, Text.splitOn_intercalate (by simpa using hne) hslash, List.map_map, hid,
    List.map_id, List.filter_eq_self.mpr hkept]

theorem head?_intercalate_ne (h : AreParts names) :
    ("/".intercalate names).toList.head? ≠ some '/' := by
  cases names with
  | nil => simp
  | cons name names =>
    obtain ⟨hempty, -, hslash⟩ := h name List.mem_cons_self
    obtain ⟨c, cs, hname⟩ : ∃ c cs, name.toList = c :: cs :=
      List.exists_cons_of_ne_nil fun hnil => hempty (String.toList_eq_nil_iff.mp hnil)
    have hc : c ≠ '/' := by
      rintro rfl
      exact hslash (hname ▸ List.mem_cons_self)
    rw [String.toList_intercalate, List.map_cons, hname]
    cases names with
    | nil => simpa using hc
    | cons next names =>
      rw [List.intercalate_cons_of_ne_nil (by simp)]
      simpa using hc

theorem ofString_intercalate (h : AreParts names) (hne : names ≠ []) :
    ofString ("/".intercalate names) = ⟨.here, names⟩ := by
  have hanchor : (ofString ("/".intercalate names)).anchor = .here := by
    by_contra hnot
    refine head?_intercalate_ne h ((isAbsolute_ofString _).mp ?_)
    exact bne_iff_ne.mpr hnot
  have hnames : (ofString ("/".intercalate names)).names = names := namesOf_intercalate h hne
  cases hpath : ofString ("/".intercalate names)
  simp_all

end Path

/-! Names that resolving leads to -/

namespace World

theorem areParts_collapse (h : AreParts names) : AreParts (collapse names) := by
  refine List.foldlRecOn names _ (fun _ hmem => absurd hmem List.not_mem_nil) ?_
  intro out hout name hname
  split
  · exact hout.dropLast
  · exact hout.concat (h name hname)

theorem areParts_back (hp : AreParts p.names) : AreParts p.back.names := by
  unfold Path.back
  split
  · exact hp.concat (by decide)
  · exact hp.dropLast

theorem areParts_resolveName {resolveTarget : List Path → Path → Path → Resolved}
    (htarget : ∀ opened {dir p}, AreParts dir.names → AreParts p.names →
      AreParts (resolveTarget opened dir p).path.names)
    (opened : List Path) {r : Resolved} (hr : AreParts r.path.names) (hname : IsPart name) :
    AreParts (w.resolveName resolveTarget opened r name).path.names := by
  unfold resolveName
  split
  · exact hr.concat hname
  split
  · exact areParts_back hr
  split
  · next target _ =>
    split
    · exact hr.concat hname
    · exact htarget _ hr (Path.areParts_ofString target)
  · exact hr.concat hname

theorem areParts_resolveFrom (w : World) (n : Nat) (opened : List Path) {dir : Path}
    (hdir : AreParts dir.names) (hp : AreParts p.names) :
    AreParts (w.resolveFrom n opened dir p).path.names := by
  induction n generalizing opened dir p with
  | zero =>
    show AreParts (dir.join p).names
    unfold Path.join
    split
    · exact hp
    · exact List.forall_mem_append.mpr ⟨hdir, hp⟩
  | succ n ih =>
    rw [resolveFrom]
    -- one name after the other; a link leads on by the names of its target
    refine List.foldlRecOn p.names _ (motive := fun r : Resolved => AreParts r.path.names) ?_ ?_
    · show AreParts (if p.isAbsolute then Path.absolute [] else dir).names
      split
      · exact fun _ hmem => absurd hmem List.not_mem_nil
      · exact hdir
    · intro r hr name hname
      exact areParts_resolveName (fun opened _ _ => ih opened) opened hr (hp name hname)

theorem areParts_resolve (hcurrent : AreParts w.current) (hp : AreParts p.names)
    (h : w.resolve p = .ok q) : AreParts q.names := by
  have hhere : AreParts Path.here.names := fun _ hmem => absurd hmem List.not_mem_nil
  have hfound := areParts_resolveFrom w (w.entries.length + 1) [] hhere hp
  rw [eq_of_resolve h]
  refine areParts_collapse ?_
  unfold absoluteNames
  split
  · exact hfound
  · exact List.forall_mem_append.mpr ⟨hcurrent, hfound⟩

end World
end ContentBinding.Files
