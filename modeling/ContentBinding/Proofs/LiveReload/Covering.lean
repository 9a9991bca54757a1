import Mathlib.Data.List.Forall2
import Mathlib.Data.List.Nodup
import ContentBinding.Proofs.Files.Below
import ContentBinding.Proofs.Files.Written
import ContentBinding.Proofs.LiveReload.Matching

/-! The directories that are watched. They cover all that were named and none lies in another, so
that they are the same in whatever order directories are named, and a file lies below one of them at
most. -/

namespace ContentBinding.LiveReload

open Files (AreParts Path PathError World)

variable {dirs dirs' roots roots' order : List Path} {d p r r' : Path} {names : List String}

/-- Every directory lies below a root, or is one, and no root lies below another. -/
structure Covers (dirs roots : List Path) : Prop where
  nodup : roots.Nodup
  subset : ∀ r ∈ roots, r ∈ dirs
  covered : ∀ d ∈ dirs, ∃ r ∈ roots, d.isBelow r
  apart : ∀ r ∈ roots, ∀ r' ∈ roots, r.isBelow r' → r = r'

/-- The roots are the directories that lie below none but themselves. -/
theorem Covers.mem_iff (h : Covers dirs roots) :
    r ∈ roots ↔ r ∈ dirs ∧ ∀ d ∈ dirs, r.isBelow d → r = d := by
  constructor
  · intro hr
    refine ⟨h.subset r hr, fun d hd hbelow => ?_⟩
    obtain ⟨r', hr', hbelow'⟩ := h.covered d hd
    have heq := h.apart r hr r' hr' (Path.isBelow_trans hbelow hbelow')
    exact Path.isBelow_antisymm hbelow (heq ▸ hbelow')
  · rintro ⟨hr, hleast⟩
    obtain ⟨r', hr', hbelow⟩ := h.covered r hr
    exact hleast r' (h.subset r' hr') hbelow ▸ hr'

theorem Covers.perm (h : Covers dirs roots) (h' : Covers dirs' roots')
    (hsame : ∀ d, d ∈ dirs' ↔ d ∈ dirs) : roots'.Perm roots := by
  rw [List.perm_ext_iff_of_nodup h'.nodup h.nodup]
  intro r
  simp only [h.mem_iff, h'.mem_iff, hsame]

theorem Covers.congr (h : Covers dirs roots) (hsame : ∀ d, d ∈ dirs' ↔ d ∈ dirs) :
    Covers dirs' roots where
  nodup := h.nodup
  subset := fun r hr => (hsame r).mpr (h.subset r hr)
  covered := fun d hd => h.covered d ((hsame d).mp hd)
  apart := h.apart

theorem Covers.of_perm (h : Covers dirs roots) (hperm : roots'.Perm roots) : Covers dirs roots' where
  nodup := hperm.nodup_iff.mpr h.nodup
  subset := fun r hr => h.subset r (hperm.mem_iff.mp hr)
  covered := by
    intro d hd
    obtain ⟨r, hr, hbelow⟩ := h.covered d hd
    exact ⟨r, hperm.mem_iff.mpr hr, hbelow⟩
  apart := fun r hr r' hr' => h.apart r (hperm.mem_iff.mp hr) r' (hperm.mem_iff.mp hr')

theorem Covers.unique (h : Covers dirs roots) (hr : r ∈ roots) (hr' : r' ∈ roots)
    (hp : p.isBelow r) (hp' : p.isBelow r') : r = r' := by
  rcases Path.isBelow_or_isBelow hp hp' with hbelow | hbelow
  · exact h.apart r hr r' hr' hbelow
  · exact (h.apart r' hr' r hr hbelow).symm

/-! Taking directories up one after the other -/

/-- A directory that is not shorter than those before it either lies below a root or is one itself;
no root can lie below it. -/
theorem Covers.addRoot (h : Covers dirs roots)
    (hlength : ∀ e ∈ dirs, e.names.length ≤ d.names.length) :
    Covers (dirs ++ [d]) (addRoot roots d) := by
  unfold LiveReload.addRoot
  split
  · next hany =>
    obtain ⟨r, hr, hbelow⟩ := List.any_eq_true.mp hany
    refine ⟨h.nodup, fun r hr => List.mem_append_left _ (h.subset r hr), ?_, h.apart⟩
    intro e he
    rcases List.mem_append.mp he with he | he
    · exact h.covered e he
    · exact ⟨r, hr, List.mem_singleton.mp he ▸ hbelow⟩
  · next hnone =>
    have hnot : ∀ r ∈ roots, ¬ d.isBelow r := fun r hr hbelow =>
      hnone (List.any_eq_true.mpr ⟨r, hr, hbelow⟩)
    -- the directories come by their depth, so none that came before lies strictly below `d`
    have hnew : ∀ r ∈ roots, ¬ r.isBelow d := by
      intro r hr hbelow
      have heq := Path.eq_of_isBelow hbelow (hlength r (h.subset r hr))
      exact hnot r hr (heq ▸ Path.isBelow_self r)
    constructor
    · rw [← List.concat_eq_append]
      exact h.nodup.concat fun hmem => hnot d hmem (Path.isBelow_self d)
    · intro r hr
      rcases List.mem_append.mp hr with hr | hr
      · exact List.mem_append_left _ (h.subset r hr)
      · exact List.mem_append_right _ hr
    · intro e he
      rcases List.mem_append.mp he with he | he
      · obtain ⟨r, hr, hbelow⟩ := h.covered e he
        exact ⟨r, List.mem_append_left _ hr, hbelow⟩
      · obtain rfl := List.mem_singleton.mp he
        exact ⟨e, List.mem_append_right _ he, Path.isBelow_self e⟩
    · intro r hr r' hr' hbelow
      rcases List.mem_append.mp hr with hr | hr <;> rcases List.mem_append.mp hr' with hr' | hr'
      · exact h.apart r hr r' hr' hbelow
      · exact absurd (List.mem_singleton.mp hr' ▸ hbelow) (hnew r hr)
      · exact absurd (List.mem_singleton.mp hr ▸ hbelow) (hnot r' hr')
      · exact (List.mem_singleton.mp hr).trans (List.mem_singleton.mp hr').symm

def Shortest (order : List Path) : Prop :=
  order.Pairwise fun a b => a.names.length ≤ b.names.length

theorem covers_foldl (h : Shortest order) : Covers order (order.foldl addRoot []) := by
  induction order using List.reverseRecOn with
  | nil => constructor <;> simp
  | append_singleton order d ih =>
    obtain ⟨hbefore, -, hlast⟩ := List.pairwise_append.mp h
    rw [List.foldl_append, List.foldl_cons, List.foldl_nil]
    exact (ih hbefore).addRoot fun e he => hlast e he d (List.mem_singleton_self d)

theorem covers_distinctRoots (dirs : List Path) : Covers dirs (distinctRoots dirs) := by
  have hsorted : Shortest ((dirs.eraseDups).mergeSort fun a b => a.names.length ≤ b.names.length) := by
    refine (List.pairwise_mergeSort ?_ ?_ dirs.eraseDups).imp of_decide_eq_true
    · intro a b c hab hbc
      simp only [decide_eq_true_eq] at hab hbc ⊢
      exact Nat.le_trans hab hbc
    · intro a b
      simpa using Nat.le_total a.names.length b.names.length
  exact (covers_foldl hsorted).congr fun d => by simp

/-! The root of a path -/

theorem Covers.belowRoot?_eq_some_iff (h : Covers dirs roots) :
    belowRoot? roots p = some names ↔ ∃ r ∈ roots, r.join ⟨.here, names⟩ = p := by
  constructor
  · intro hsome
    obtain ⟨r, hr, hbelow⟩ := List.exists_of_findSome?_eq_some hsome
    exact ⟨r, hr, Path.below?_eq_some_iff.mp hbelow⟩
  · rintro ⟨r, hr, rfl⟩
    have hbelow := Path.below?_join r names
    cases hfound : belowRoot? roots (r.join ⟨.here, names⟩) with
    | none => exact absurd (hbelow.symm.trans (List.findSome?_eq_none_iff.mp hfound r hr)) nofun
    | some names' =>
      obtain ⟨r', hr', hbelow'⟩ := List.exists_of_findSome?_eq_some hfound
      obtain rfl := h.unique hr' hr (Path.isBelow_iff_join.mpr ⟨_, Path.below?_eq_some_iff.mp hbelow'⟩)
        (Path.isBelow_iff_join.mpr ⟨names, rfl⟩)
      exact hbelow'.symm.trans hbelow

theorem Covers.urlPath_perm (h : Covers dirs roots) (hperm : roots'.Perm roots) (w : World)
    (patterns : List String) (p : Path) : urlPath w roots' patterns p = urlPath w roots patterns p := by
  have hroot : ∀ q, belowRoot? roots' q = belowRoot? roots q := by
    intro q
    apply Option.ext
    intro names
    simp only [(h.of_perm hperm).belowRoot?_eq_some_iff, h.belowRoot?_eq_some_iff, hperm.mem_iff]
  simp only [urlPath, hroot]

theorem exists_urlPathOf_eq (h : AreParts names) :
    ∃ rel, urlPathOf names = "/" ++ rel ∧ Path.ofString rel = ⟨.here, names⟩ := by
  unfold urlPathOf
  by_cases hempty : names = []
  · subst hempty
    exact ⟨".", by decide, by decide⟩
  · refine ⟨"/".intercalate names, ?_, Path.ofString_intercalate h hempty⟩
    rw [if_neg (by simpa using hempty)]

theorem exists_root_of_urlPath {w : World} {patterns : List String} {text url : String}
    (hcurrent : AreParts w.current)
    (h : urlPath w roots patterns (Path.ofString text) = .ok (some url)) :
    ∃ root ∈ roots, ∃ rel, url = "/" ++ rel ∧
      w.resolve (Path.ofString text) = .ok (root.join (Path.ofString rel)) := by
  obtain ⟨q, names, hresolve, hroot, -, rfl⟩ := urlPath_eq_some_iff.mp h
  obtain ⟨root, hmem, hbelow⟩ := List.exists_of_findSome?_eq_some hroot
  have hjoin := Path.below?_eq_some_iff.mp hbelow
  have hparts : AreParts (root.names ++ names) := by
    have hq := World.areParts_resolve hcurrent (Path.areParts_ofString text) hresolve
    rwa [← hjoin, Path.join_names] at hq
  obtain ⟨rel, hurl, hrel⟩ := exists_urlPathOf_eq (List.forall_mem_append.mp hparts).2
  exact ⟨root, hmem, rel, hurl, by rw [hresolve, hrel, hjoin]⟩

/-! Directories as they are named -/

theorem mapM_eq_ok_iff {α β ε : Type} {f : α → Except ε β} {as : List α} {bs : List β} :
    as.mapM f = .ok bs ↔ List.Forall₂ (fun a b => f a = .ok b) as bs := by
  induction as generalizing bs with
  | nil => simp [pure, Except.pure, eq_comm]
  | cons a as ih =>
    rw [List.mapM_cons, List.forall₂_cons_left_iff]
    simp only [← ih]
    cases f a with
    | error e => simp [bind, Except.bind]
    | ok b =>
      cases as.mapM f with
      | error e => simp [bind, Except.bind]
      | ok bs' => simp [bind, Except.bind, pure, Except.pure, eq_comm]

theorem exists_of_forall₂ {α β : Type} {R : α → β → Prop} {as : List α} {bs : List β} {b : β}
    (h : List.Forall₂ R as bs) (hb : b ∈ bs) : ∃ a ∈ as, R a b := by
  induction h with
  | nil => exact absurd hb List.not_mem_nil
  | @cons a b' as bs hfirst _ ih =>
    rcases List.mem_cons.mp hb with rfl | hrest
    · exact ⟨a, List.mem_cons_self, hfirst⟩
    · obtain ⟨a', ha', hrel⟩ := ih hrest
      exact ⟨a', List.mem_cons_of_mem _ ha', hrel⟩

theorem rootsOf_eq_ok_iff {w : World} : rootsOf w dirs = .ok roots ↔
    ∃ places, List.Forall₂ (fun d q => w.resolve d = .ok q) dirs places ∧
      roots = distinctRoots places := by
  simp only [← mapM_eq_ok_iff]
  unfold rootsOf
  cases dirs.mapM w.resolve with
  | error e => simp [Except.map]
  | ok places => simp [Except.map, eq_comm]

theorem rootsOf_eq {w : World} {place : Path → Path}
    (hresolve : ∀ d ∈ dirs, w.resolve d = .ok (place d)) :
    rootsOf w dirs = .ok (distinctRoots (dirs.map place)) := by
  refine rootsOf_eq_ok_iff.mpr ⟨_, ?_, rfl⟩
  rw [List.forall₂_map_right_iff, List.forall₂_same]
  exact hresolve

theorem exists_root {w : World} (h : rootsOf w dirs = .ok roots) (hd : d ∈ dirs) :
    ∃ d ∈ dirs, ∃ r, w.resolve d = .ok r ∧ belowRoot? roots r = some [] := by
  obtain ⟨places, hplaces, rfl⟩ := rootsOf_eq_ok_iff.mp h
  have hcovers := covers_distinctRoots places
  obtain ⟨q, hq, -⟩ := exists_of_forall₂ hplaces.flip hd
  obtain ⟨r, hr, -⟩ := hcovers.covered q hq
  obtain ⟨d, hd, hresolve⟩ := exists_of_forall₂ hplaces (hcovers.subset r hr)
  refine ⟨d, hd, r, hresolve, hcovers.belowRoot?_eq_some_iff.mpr ⟨r, hr, ?_⟩⟩
  rw [Path.join_names, List.append_nil]

/-- What holds of the roots of directories that resolve to places. -/
structure Watches (w : World) (dirs places roots : List Path) : Prop where
  covers : Covers places roots
  /-- Other orders and repetitions of the directories change the roots in their order at most. -/
  reordered : ∀ dirs', (∀ d, d ∈ dirs' ↔ d ∈ dirs) →
    ∃ roots', rootsOf w dirs' = .ok roots' ∧ roots'.Perm roots
  /-- So does the order in which places of one length are taken up. -/
  taken_up : ∀ order, (∀ d, d ∈ order ↔ d ∈ places) → Shortest order →
    (order.foldl addRoot []).Perm roots
  unique : ∀ p : Path, ∀ r ∈ roots, ∀ r' ∈ roots, p.isBelow r → p.isBelow r' → r = r'
  urlPath_perm : ∀ roots', roots'.Perm roots → ∀ now patterns p,
    urlPath now roots' patterns p = urlPath now roots patterns p
  /-- An address, joined to a root without its slash, is the place that the path resolves to. -/
  joined : ∀ now patterns text url, AreParts now.current →
    urlPath now roots patterns (Path.ofString text) = .ok (some url) →
    ∃ root ∈ roots, ∃ rel, url = "/" ++ rel ∧
      now.resolve (Path.ofString text) = .ok (root.join (Path.ofString rel))

/-- The roots of directories that can be resolved cover them, and none lies in another. -/
theorem watch_roots_cover {w : World} {place : Path → Path}
    (hresolve : ∀ d ∈ dirs, w.resolve d = .ok (place d)) :
    ∃ roots, rootsOf w dirs = .ok roots ∧ Watches w dirs (dirs.map place) roots := by
  have hcovers := covers_distinctRoots (dirs.map place)
  refine ⟨_, rootsOf_eq hresolve, ?_⟩
  constructor
  · exact hcovers
  · intro dirs' hsame
    refine ⟨_, rootsOf_eq fun d hd => hresolve d ((hsame d).mp hd), ?_⟩
    exact hcovers.perm (covers_distinctRoots _) fun d => by simp only [List.mem_map, hsame]
  · intro order hsame hshortest
    exact hcovers.perm (covers_foldl hshortest) hsame
  · intro p r hr r' hr' hp hp'
    exact hcovers.unique hr hr' hp hp'
  · intro roots' hperm now patterns p
    exact hcovers.urlPath_perm hperm now patterns p
  · intro now patterns text url hcurrent h
    exact exists_root_of_urlPath hcurrent h

/-! A site with its content below it, and a directory beside them -/

def nestedSite : World :=
  { entries := [(["site"], .directory), (["site", "content"], .directory), (["docs"], .directory)] }

def nestedDirs : List Path :=
  [.absolute ["site", "content"], .absolute ["site"], .absolute ["docs"], .absolute ["site"]]

theorem watch_roots_cover_nested :
    (∀ d ∈ nestedDirs, nestedSite.resolve d = .ok (id d)) ∧
    ∃ roots, rootsOf nestedSite nestedDirs = .ok roots ∧
      [.absolute ["docs"], .absolute ["site"]].Perm roots ∧
      Watches nestedSite nestedDirs (nestedDirs.map id) roots := by
  have hresolve : ∀ d ∈ nestedDirs, nestedSite.resolve d = .ok (id d) := by decide +kernel
  obtain ⟨roots, hroots, hwatches⟩ := watch_roots_cover hresolve
  refine ⟨hresolve, roots, hroots, ?_, hwatches⟩
  let order : List Path := [.absolute ["docs"], .absolute ["site"], .absolute ["site", "content"]]
  have hsame : ∀ d, d ∈ order ↔ d ∈ nestedDirs.map id := by
    intro d
    simp only [order, nestedDirs, List.map_id, List.mem_cons, List.not_mem_nil, or_false]
    tauto
  exact hwatches.taken_up order hsame (by unfold Shortest; decide)

end ContentBinding.LiveReload
