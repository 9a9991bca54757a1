import ContentBinding.Site
import ContentBinding.Proofs.Files.Below
import ContentBinding.Proofs.Files.Resolution

/-! Where the files are that request paths lead to. A path is resolved before it is compared with
the root of the site, but the index of a directory is added after that and not resolved again: a
link of that name can lead anywhere. -/

namespace ContentBinding.Site

open Files (Path PathError World)

/-- The path of a file leads to a regular file below the root, or to the root where that is one. -/
def Contained (w : World) (root f : Path) : Prop :=
  ∃ base real content, w.resolve root = .ok base ∧ w.locate f = .ok (real, .file content) ∧
    base.names <+: real

/-- The path of a file leads to a place that is not below another. -/
def LeadsOut (w : World) (base f : Path) : Prop :=
  w.isFile f = .ok true ∧ ∃ real e, w.locate f = .ok (real, e) ∧ ¬ base.names <+: real

/-- The root and a request path are resolved to two places, the second below the first. -/
structure Reaches (w : World) (root : Path) (path : String) (base place : Path) : Prop where
  root_eq : w.resolve root = .ok base
  place_eq : w.resolve (base.join (relativePath path)) = .ok place
  below : base.names <+: place.names

/-- The path leads to a directory whose index is a link that leads out of the root. -/
def IndexLeadsOut (w : World) (root : Path) (path : String) : Prop :=
  ∃ base place target, Reaches w root path base place ∧ w.isDirectory place = .ok true ∧
    w.entry? (place.names ++ [indexFile]) = some (.link target) ∧
    LeadsOut w base (place.child indexFile)

/-- The path meets a link that leads back to itself, and what is made of the names leads out of the
root. -/
def LoopLeadsOut (w : World) (root : Path) (path : String) : Prop :=
  ∃ base place, Reaches w root path base place ∧ ¬ w.Ends (base.join (relativePath path)) ∧
    (w.isDirectory place = .ok true ∧ LeadsOut w base (place.child indexFile) ∨
      w.isDirectory place = .ok false ∧ LeadsOut w base place)

variable {w : World} {root f base place : Path} {path : String}

theorem isBelow_iff (hbase : base.anchor = .root) (hplace : place.anchor = .root) :
    place.isBelow base ↔ base.names <+: place.names := by
  rw [Path.isBelow_iff_names, hbase, hplace]
  exact and_iff_right rfl

theorem fileAt_eq_some_iff : fileAt w place = .ok (some f) ↔
    (w.isDirectory place = .ok true ∧ f = place.child indexFile ∨
      w.isDirectory place = .ok false ∧ f = place) ∧ w.isFile f = .ok true := by
  have hfile : ∀ p, (w.isFile p).map (fun isFile => if isFile then some p else none) =
      .ok (some f) ↔ p = f ∧ w.isFile f = .ok true := by
    intro p
    constructor
    · intro h
      rcases hp : w.isFile p with _ | _ | _ <;> rw [hp] at h
      · exact absurd h nofun
      · exact absurd (Except.ok.inj h) nofun
      · obtain rfl := Option.some.inj (Except.ok.inj h)
        exact ⟨rfl, hp⟩
    · rintro ⟨rfl, h⟩
      rw [h]
      rfl
  unfold fileAt
  rcases w.isDirectory place with _ | _ | _
  · simp
  · simp [hfile, eq_comm]
  · simp [hfile, eq_comm]

theorem find_eq_some_iff : find w root path = .ok (some f) ↔
    ∃ base place, Reaches w root path base place ∧ fileAt w place = .ok (some f) := by
  unfold find
  constructor
  · intro h
    split at h
    · exact absurd h nofun
    · rename_i base hbase
      split at h
      · exact absurd h nofun
      · rename_i place hplace
        split at h
        · rename_i hbelow
          have hwithin := (isBelow_iff (World.anchor_of_resolve hbase)
            (World.anchor_of_resolve hplace)).mp hbelow
          exact ⟨base, place, ⟨hbase, hplace, hwithin⟩, h⟩
        · exact absurd (Except.ok.inj h) nofun
  · rintro ⟨base, place, h, hfile⟩
    have hbelow := (isBelow_iff (World.anchor_of_resolve h.root_eq)
      (World.anchor_of_resolve h.place_eq)).mpr h.below
    rw [h.root_eq]
    dsimp only
    rw [h.place_eq]
    dsimp only
    rw [if_pos hbelow, hfile]

theorem isFile_of_find (h : find w root path = .ok (some f)) : w.isFile f = .ok true := by
  obtain ⟨_, _, _, hfile⟩ := find_eq_some_iff.mp h
  exact (fileAt_eq_some_iff.mp hfile).2

theorem contained_iff (hbase : w.resolve root = .ok base) (hfile : w.isFile f = .ok true) :
    Contained w root f ↔ ¬ LeadsOut w base f := by
  obtain ⟨_, real, content, hlocate⟩ := World.isFile_iff.mp hfile
  constructor
  · rintro ⟨base', real', _, hbase', hlocate', hwithin⟩ ⟨_, real'', e, hlocate'', hnot⟩
    obtain rfl := Except.ok.inj (hbase.symm.trans hbase')
    have hreal := congrArg Prod.fst (Except.ok.inj (hlocate'.symm.trans hlocate''))
    dsimp only at hreal
    rw [hreal] at hwithin
    exact hnot hwithin
  · intro h
    refine ⟨base, real, content, hbase, hlocate, ?_⟩
    by_contra hnot
    exact h ⟨hfile, real, _, hlocate, hnot⟩

theorem Reaches.isAbsolute_join (h : Reaches w root path base place) :
    (base.join (relativePath path)).isAbsolute = true := by
  have hbase : base.isAbsolute = true := by
    unfold Path.isAbsolute
    rw [World.anchor_of_resolve h.root_eq]
    rfl
  unfold Path.join
  split
  · assumption
  · exact hbase

theorem Reaches.settled (h : Reaches w root path base place)
    (hends : w.Ends (base.join (relativePath path))) : w.Settled place.names := by
  exact World.settled_of_resolve h.isAbsolute_join hends h.place_eq

theorem Reaches.not_leadsOut (h : Reaches w root path base place) {names : List String}
    (hwithin : place.names <+: names) (hsettled : w.Settled names) :
    ¬ LeadsOut w base (.absolute names) := by
  rintro ⟨_, real, e, hlocate, hnot⟩
  rw [World.eq_of_locate hsettled hlocate] at hnot
  exact hnot (h.below.trans hwithin)

theorem Reaches.not_leadsOut_of_forall (h : Reaches w root path base place)
    (hall : ∀ f, find w root path = .ok (some f) → Contained w root f)
    (hf : w.isDirectory place = .ok true ∧ f = place.child indexFile ∨
      w.isDirectory place = .ok false ∧ f = place) : ¬ LeadsOut w base f := by
  intro hout
  have hfile := fileAt_eq_some_iff.mpr ⟨hf, hout.1⟩
  have hcontained := hall f (find_eq_some_iff.mpr ⟨base, place, h, hfile⟩)
  exact (contained_iff h.root_eq hout.1).mp hcontained hout

/-- What a lookup finds is in the root, but for two ways out: the index of a directory can be a link
that leads out, and where links lead back to themselves a path is not resolved. -/
theorem find_contained_iff (w : World) (root : Path) (path : String) :
    ((∀ f, find w root path = .ok (some f) → Contained w root f) ↔
      ¬ IndexLeadsOut w root path ∧ ¬ LoopLeadsOut w root path) ∧
    (w.LoopFree → ¬ LoopLeadsOut w root path) := by
  refine ⟨⟨fun h => ⟨?_, ?_⟩, ?_⟩, ?_⟩
  · rintro ⟨base, place, target, hreaches, hdirectory, _, hout⟩
    exact hreaches.not_leadsOut_of_forall h (Or.inl ⟨hdirectory, rfl⟩) hout
  · rintro ⟨base, place, hreaches, _, ⟨hdirectory, hout⟩ | ⟨hdirectory, hout⟩⟩
    · exact hreaches.not_leadsOut_of_forall h (Or.inl ⟨hdirectory, rfl⟩) hout
    · exact hreaches.not_leadsOut_of_forall h (Or.inr ⟨hdirectory, rfl⟩) hout
  · rintro ⟨hindex, hloop⟩ f hfind
    obtain ⟨base, place, hreaches, hat⟩ := find_eq_some_iff.mp hfind
    obtain ⟨hcases, hfile⟩ := fileAt_eq_some_iff.mp hat
    rw [contained_iff hreaches.root_eq hfile]
    intro hout
    by_cases hends : w.Ends (base.join (relativePath path))
    · have hsettled := hreaches.settled hends
      have hplace : Path.absolute place.names = place := by
        rw [Path.absolute, ← World.anchor_of_resolve hreaches.place_eq]
      -- only an index that is a link is not settled
      rcases hcases with ⟨hdirectory, rfl⟩ | ⟨_, rfl⟩
      · by_cases hlink : ∃ target, w.entry? (place.names ++ [indexFile]) = some (.link target)
        · obtain ⟨target, hlink⟩ := hlink
          exact hindex ⟨base, place, target, hreaches, hdirectory, hlink, hout⟩
        · have hunseen : w.link? (place.names ++ [indexFile]) = none := by
            cases hseen : w.link? (place.names ++ [indexFile]) with
            | none => rfl
            | some target =>
              exact absurd ⟨target, World.entry?_of_link? hsettled (by decide) hseen⟩ hlink
          refine hreaches.not_leadsOut (List.prefix_append _ [indexFile])
            (hsettled.append (by decide) hunseen) ?_
          rw [← hplace] at hout
          exact hout
      · refine hreaches.not_leadsOut (List.prefix_refl _) hsettled ?_
        rwa [hplace]
    · exact hloop ⟨base, place, hreaches, hends,
        hcases.imp (fun ⟨hdirectory, hf⟩ => ⟨hdirectory, hf ▸ hout⟩)
          fun ⟨hdirectory, hf⟩ => ⟨hdirectory, hf ▸ hout⟩⟩
  · rintro hfree ⟨base, place, hreaches, hends, _⟩
    exact hends (hfree.ends hreaches.isAbsolute_join)

/-! A site whose index is a link to a file beside it -/

def escapingIndex : World :=
  { entries := [(["secret.txt"], .file [115]), (["site"], .directory),
      (["site", "a.html"], .file [97]),
      (["site", "index.html"], .link "../secret.txt")] }

def siteRoot : Path := .absolute ["site"]

theorem loopFree_escapingIndex : escapingIndex.LoopFree := by
  refine World.loopFree_of_targets fun dir name target _ h => ?_
  have hmem := World.mem_entries_of_entry? h
  have hlink : dir ++ [name] = ["site"] ++ ["index.html"] ∧ target = "../secret.txt" := by
    simpa [escapingIndex] using hmem
  obtain ⟨hplace, rfl⟩ := hlink
  obtain ⟨rfl, _⟩ := List.append_inj' hplace rfl
  have htarget : Path.ofString "../secret.txt" = ⟨.here, ["..", "secret.txt"]⟩ := by decide
  have hfile : escapingIndex.link? ["secret.txt"] = none := by decide
  rw [htarget]
  exact ⟨2, ["secret.txt"], .up (.down (by decide) hfile (.done _))⟩

theorem find_contained_iff_escapingIndex :
    escapingIndex.LoopFree ∧
    find escapingIndex siteRoot "a.html" = .ok (some (.absolute ["site", "a.html"])) ∧
    Contained escapingIndex siteRoot (.absolute ["site", "a.html"]) := by
  have hfind : find escapingIndex siteRoot "a.html" =
      .ok (some (.absolute ["site", "a.html"])) := rfl
  have hcontained := find_contained_iff escapingIndex siteRoot "a.html"
  have hloop := hcontained.2 loopFree_escapingIndex
  refine ⟨loopFree_escapingIndex, hfind, hcontained.1.mpr ⟨?_, hloop⟩ _ hfind⟩
  rintro ⟨base, place, _, hreaches, hdirectory, _⟩
  obtain rfl : Path.absolute ["site"] = base := Except.ok.inj hreaches.root_eq
  obtain rfl : Path.absolute ["site", "a.html"] = place := Except.ok.inj hreaches.place_eq
  exact absurd hdirectory (by decide)

/-- The index leads out of the root, though the same file is not found by its own path. -/
theorem index_leads_out :
    escapingIndex.LoopFree ∧
    find escapingIndex siteRoot "" = .ok (some (.absolute ["site", "index.html"])) ∧
    ¬ Contained escapingIndex siteRoot (.absolute ["site", "index.html"]) ∧
    find escapingIndex siteRoot "index.html" = .ok none := by
  refine ⟨loopFree_escapingIndex, rfl, ?_, rfl⟩
  rintro ⟨base, real, content, hbase, hreal, hwithin⟩
  obtain rfl : Path.absolute ["site"] = base := Except.ok.inj hbase
  obtain rfl : ["secret.txt"] = real := congrArg Prod.fst (Except.ok.inj hreal)
  exact absurd hwithin (by decide)

end ContentBinding.Site
