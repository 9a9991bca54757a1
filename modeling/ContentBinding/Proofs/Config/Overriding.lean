import ContentBinding.Config.Basic
import ContentBinding.Proofs.Files.Below

/-! Overrides that come one after the other. They compose as one set of overrides, because content
that follows the root keeps its place below it; only content that was put somewhere first and whose
root is moved afterwards depends on the order. -/

namespace ContentBinding

open Files (Path)

namespace Overrides

/-- Two sets of overrides as one. Where both give a setting the second counts. -/
def update (o₁ o₂ : Overrides) : Overrides where
  host := o₂.host.or o₁.host
  port := o₂.port.or o₁.port
  root := o₂.root.or o₁.root
  content := o₂.content.or o₁.content
  baseUrl := o₂.baseUrl.or o₁.baseUrl
  reload := o₂.reload.or o₁.reload

/-- The first set puts the content somewhere, and the second moves the root and says nothing of the
content. -/
def Displaces (o₁ o₂ : Overrides) : Prop :=
  o₁.content.isSome ∧ o₂.root.isSome ∧ o₂.content = none

end Overrides

/-! The place of content in a site -/

namespace SiteSettings

variable {s : SiteSettings} {o o₁ o₂ : Overrides} {names : List String}

def place (s : SiteSettings) : List String :=
  (s.content.below? s.root).getD [contentName]

theorem place_of_below (h : s.content.below? s.root = some names) : s.place = names := by
  rw [place, h, Option.getD_some]

theorem moveTo_eq (s : SiteSettings) (root : Path) :
    s.moveTo root = ⟨root, root.join ⟨.here, s.place⟩⟩ := by
  unfold moveTo place
  cases s.content.below? s.root with
  | none => rfl
  | some names => rfl

theorem below?_moveTo (s : SiteSettings) (root : Path) :
    (s.moveTo root).content.below? (s.moveTo root).root = some s.place := by
  rw [moveTo_eq]
  exact Path.below?_join root s.place

theorem moveTo_moveTo (s : SiteSettings) (root₁ root₂ : Path) :
    (s.moveTo root₁).moveTo root₂ = s.moveTo root₂ := by
  rw [moveTo_eq _ root₂, moveTo_eq s root₂, place_of_below (s.below?_moveTo root₁)]

theorem root_moveTo (s : SiteSettings) (root : Path) : (s.moveTo root).root = root := by
  rw [moveTo_eq]

theorem override_none (h : o.content = none) :
    s.override o = (o.root.map s.moveTo).getD s := by
  unfold override
  rw [h]
  cases o.root with
  | none => rfl
  | some root => rfl

theorem override_some {content : Path} (h : o.content = some content) :
    s.override o = ⟨o.root.getD s.root, content⟩ := by
  unfold override
  rw [h]
  cases o.root with
  | none => rfl
  | some root => exact congrArg (SiteSettings.mk · content) (s.root_moveTo root)

theorem root_override (s : SiteSettings) (o : Overrides) :
    (s.override o).root = o.root.getD s.root := by
  cases hcontent : o.content with
  | some content => rw [override_some hcontent]
  | none =>
    rw [override_none hcontent]
    cases o.root with
    | none => rfl
    | some root => exact s.root_moveTo root

/-- The second set decides alone where it puts the content, or where it leaves the root. Otherwise
it moves the site, and the content with it, which the first set must not have put somewhere. -/
theorem override_override (s : SiteSettings) (h : ¬ o₁.Displaces o₂) :
    (s.override o₁).override o₂ = s.override (o₁.update o₂) := by
  have hroot : (o₁.update o₂).root = o₂.root.or o₁.root := rfl
  have hcontent : (o₁.update o₂).content = o₂.content.or o₁.content := rfl
  cases hcontent₂ : o₂.content with
  | some content =>
    have hboth : (o₁.update o₂).content = some content := by rw [hcontent, hcontent₂]; rfl
    rw [override_some hcontent₂, override_some hboth, root_override, hroot, Option.getD_or]
  | none =>
    have hboth : (o₁.update o₂).content = o₁.content := by rw [hcontent, hcontent₂]; rfl
    rw [override_none hcontent₂]
    cases hroot₂ : o₂.root with
    | none =>
      have hkept : (o₁.update o₂).root = o₁.root := by rw [hroot, hroot₂]; rfl
      show s.override o₁ = s.override (o₁.update o₂)
      unfold override
      rw [hboth, hkept]
    | some root =>
      have hmoved : (o₁.update o₂).root = some root := by rw [hroot, hroot₂]; rfl
      have hcontent₁ : o₁.content = none := by
        cases hcontent₁ : o₁.content with
        | none => rfl
        | some content => exact absurd ⟨by simp [hcontent₁], by simp [hroot₂], hcontent₂⟩ h
      show (s.override o₁).moveTo root = s.override (o₁.update o₂)
      rw [override_none hcontent₁, override_none (hboth.trans hcontent₁), hmoved]
      cases o₁.root with
      | none => rfl
      | some root₁ => exact s.moveTo_moveTo root₁ root

theorem below?_override (hcontent : o.content = none)
    (h : s.content.below? s.root = some names) :
    (s.override o).content.below? (s.override o).root = some names := by
  rw [override_none hcontent]
  cases o.root with
  | none => exact h
  | some root =>
    show (s.moveTo root).content.below? (s.moveTo root).root = some names
    rw [below?_moveTo, place_of_below h]

end SiteSettings

/-! All settings -/

namespace Config

/-- What no override touches is what it was. -/
structure Untouched (c c' : Config) : Prop where
  routes : c'.routes = c.routes
  grace : c'.content.grace = c.content.grace
  patterns : c'.reload.patterns = c.reload.patterns
  origin : c'.origin = c.origin

theorem untouched_foldl (os : List Overrides) (c : Config) :
    Untouched c (os.foldl override c) := by
  induction os generalizing c with
  | nil => exact ⟨rfl, rfl, rfl, rfl⟩
  | cons o os ih =>
    have hrest := ih (c.override o)
    exact ⟨hrest.routes, hrest.grace, hrest.patterns, hrest.origin⟩

theorem below?_foldl {names : List String} (os : List Overrides) (c : Config)
    (hcontent : ∀ o ∈ os, o.content = none)
    (h : c.site.content.below? c.site.root = some names) :
    (os.foldl override c).site.content.below? (os.foldl override c).site.root = some names := by
  induction os generalizing c with
  | nil => exact h
  | cons o os ih =>
    obtain ⟨hfirst, hrest⟩ := List.forall_mem_cons.mp hcontent
    exact ih (c.override o) hrest (SiteSettings.below?_override hfirst h)

theorem override_override_eq (c : Config) (o₁ o₂ : Overrides) :
    (c.override o₁).override o₂ =
      { c.override (o₁.update o₂) with site := (c.site.override o₁).override o₂ } := by
  unfold override Overrides.update
  simp only [Option.getD_or, Option.or_assoc]

/-- Two sets of overrides one after the other are their union, unless the second moves the root of
a site whose content the first put somewhere; then the content goes with the root. No overrides
change nothing, content below the root keeps its place however often the root is moved, and routes,
waiting time, patterns and origin stay in any case. -/
theorem overrides_compose (c : Config) :
    (∀ o₁ o₂ : Overrides, ¬ o₁.Displaces o₂ →
      (c.override o₁).override o₂ = c.override (o₁.update o₂)) ∧
    (∀ o₁ o₂ : Overrides, ∀ content root, o₁.content = some content → o₂.root = some root →
      o₂.content = none → (c.override o₁).override o₂ =
        { c.override (o₁.update o₂) with
          site := SiteSettings.moveTo ⟨o₁.root.getD c.site.root, content⟩ root }) ∧
    c.override {} = c ∧
    (∀ os : List Overrides, ∀ names, (∀ o ∈ os, o.content = none) →
      c.site.content.below? c.site.root = some names →
      (os.foldl override c).site.content.below? (os.foldl override c).site.root = some names) ∧
    ∀ os : List Overrides, Untouched c (os.foldl override c) := by
  refine ⟨?_, ?_, rfl, ?_, fun os => untouched_foldl os c⟩
  · intro o₁ o₂ hplaced
    rw [override_override_eq, SiteSettings.override_override c.site hplaced]
    rfl
  · intro o₁ o₂ content root hcontent hroot hnone
    rw [override_override_eq, SiteSettings.override_some hcontent, SiteSettings.override_none hnone,
      hroot]
    rfl
  · intro os names hcontent h
    exact below?_foldl os c hcontent h

/-! A site that is moved twice, and one that is moved after its content -/

theorem overrides_compose_movedSite :
    let srv : Overrides := { root := some (.absolute ["srv"]), port := some 80 }
    let www : Overrides := { root := some (.absolute ["www"]) }
    let data : Overrides := { content := some (.absolute ["data"]) }
    (standard.override srv).override www = standard.override (srv.update www) ∧
    (standard.override (srv.update www)).site.content = .absolute ["www", "content"] ∧
    ((standard.override data).override www).site.content = .absolute ["www", "content"] ∧
    (standard.override (data.update www)).site.content = .absolute ["data"] := by
  intro srv www data
  have hplaced : ¬ srv.Displaces www := by simp [Overrides.Displaces, srv]
  obtain ⟨hcompose, hdisplaced, -⟩ := overrides_compose standard
  refine ⟨hcompose srv www hplaced, by decide, ?_, by decide⟩
  rw [hdisplaced data www _ _ rfl rfl rfl]
  decide

end Config
end ContentBinding
