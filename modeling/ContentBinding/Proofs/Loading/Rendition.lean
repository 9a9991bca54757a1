import ContentBinding.Markup.Encoding
import ContentBinding.Proofs.Loading.Outcome

/-! What becomes of the stored bytes of a page, whoever has them loaded. It depends on the routes
and on the source alone, and not on whether the source holds a connection open. -/

namespace ContentBinding

namespace Source

variable {env : Surroundings} {s : Source} {page : String}

theorem documentUrl_release (r : Remote) (page : String) :
    r.release.1.documentUrl page = r.documentUrl page := by
  unfold Remote.release
  split <;> rfl

theorem unreachable_close : s.close.Unreachable env page ↔ s.Unreachable env page := by
  cases s with
  | directory dir => rfl
  | remote r =>
    change (remote r.release.1).Unreachable env page ↔ _
    unfold Unreachable
    simp only [documentUrl_release]

theorem body?_close : s.close.body? env page = s.body? env page := by
  cases s with
  | directory dir => rfl
  | remote r =>
    change (remote r.release.1).body? env page = _
    unfold body?
    simp only [documentUrl_release]

theorem obstructed_close : s.close.Obstructed env page ↔ s.Obstructed env page := by
  rw [Obstructed, Obstructed, unreachable_close, body?_close]

theorem document?_close : s.close.document? env page = s.document? env page := by
  rw [document?, document?, body?_close]

theorem release_takeClient (r : Remote) :
    (Remote.release { r with client := (Remote.takeClient r.client).1 }).1 = r.release.1 := by
  obtain ⟨base, contentPath, client⟩ := r
  cases client with
  | given => rfl
  | own isOpen => cases isOpen <;> rfl

theorem close_fetch (env : Surroundings) (s : Source) (page : String) :
    (s.fetch env page).source.close = s.close := by
  cases s with
  | directory dir => rfl
  | remote r =>
    change (fetchRemote env r page).source.close = (remote r).close
    unfold fetchRemote
    split
    · rfl
    · split
      · rfl
      · exact congrArg remote (release_takeClient r)

end Source

namespace Loader

variable {env : Surroundings} {l l' l'' : Loader} {data bytes : Text.Bytes} {html location : String}
  {page : Markup.Page}

/-- The same routes and, connections apart, the same source. -/
structure Alike (l l' : Loader) : Prop where
  routes_eq : l.routes = l'.routes
  source_eq : l.source.close = l'.source.close

/-- What a page with these bytes is given out as: unchanged when they are no text or there is no
content, else with its content injected. -/
inductive Yields (env : Surroundings) (l : Loader) (data : Text.Bytes) (location : String) :
    Text.Bytes → Prop
  | undecoded : Markup.decodePage data = none → Yields env l data location data
  | unavailable {html : String} : Markup.decodePage data = some html →
    ¬ l.ObstructedAt env (Markup.Page.parse html) location → l.document? env (l.pageFor location) = none →
    Yields env l data location data
  | injected {html : String} {v : Json.Value} : Markup.decodePage data = some html →
    ¬ l.ObstructedAt env (Markup.Page.parse html) location → l.document? env (l.pageFor location) = some v →
    Yields env l data location
      (Text.encodeUtf8 (Binding.inject (Markup.Page.parse html) v).1.render)

namespace Alike

theorem trans (h : l.Alike l') (h' : l'.Alike l'') : l.Alike l'' :=
  ⟨h.routes_eq.trans h'.routes_eq, h.source_eq.trans h'.source_eq⟩

theorem pageFor_eq (h : l.Alike l') (location : String) :
    l.pageFor location = l'.pageFor location := by
  rw [pageFor, pageFor, h.routes_eq]

theorem document?_eq (h : l.Alike l') (identifier : String) :
    l.document? env identifier = l'.document? env identifier := by
  rw [document?, document?, ← Source.document?_close, h.source_eq, Source.document?_close]

theorem obstructedAt_iff (h : l.Alike l') :
    l.ObstructedAt env page location ↔ l'.ObstructedAt env page location := by
  rw [ObstructedAt, ObstructedAt, h.pageFor_eq, h.document?_eq, ← Source.obstructed_close,
    h.source_eq, Source.obstructed_close]

theorem yields (h : l.Alike l') (hy : l.Yields env data location bytes) :
    l'.Yields env data location bytes := by
  cases hy with
  | undecoded hnone => exact .undecoded hnone
  | unavailable hhtml hfree hdocument =>
    rw [h.document?_eq, h.pageFor_eq] at hdocument
    exact .unavailable hhtml (mt h.obstructedAt_iff.mpr hfree) hdocument
  | injected hhtml hfree hdocument =>
    rw [h.document?_eq, h.pageFor_eq] at hdocument
    exact .injected hhtml (mt h.obstructedAt_iff.mpr hfree) hdocument

end Alike

theorem yields_or_obstructed (env : Surroundings) (l : Loader) (data : Text.Bytes)
    (location : String) : (∃ bytes, l.Yields env data location bytes) ∨
      ∃ html, Markup.decodePage data = some html ∧
        l.ObstructedAt env (Markup.Page.parse html) location := by
  cases hhtml : Markup.decodePage data with
  | none => exact Or.inl ⟨data, .undecoded hhtml⟩
  | some html =>
    by_cases hobstructed : l.ObstructedAt env (Markup.Page.parse html) location
    · exact Or.inr ⟨html, rfl, hobstructed⟩
    · cases hdocument : l.document? env (l.pageFor location) with
      | none => exact Or.inl ⟨data, .unavailable hhtml hobstructed hdocument⟩
      | some v => exact Or.inl ⟨_, .injected hhtml hobstructed hdocument⟩

/-- A load keeps the loader, but for a connection that it may open. -/
theorem alike_load (env : Surroundings) (l : Loader) (page : Markup.Page) (location : String) :
    (l.load env page location).loader.Alike l := by
  have hfetch : (l.fetchDocument env (l.pageFor location)).loader =
      { l with source := (l.source.fetch env (l.pageFor location)).source } := by
    unfold fetchDocument
    dsimp only
    split <;> rfl
  have hload : (l.load env page location).loader =
      (l.fetchDocument env (l.pageFor location)).loader := by
    unfold load
    dsimp only
    split
    · rfl
    · rfl
    · split <;> rfl
  rw [hload, hfetch]
  exact ⟨rfl, Source.close_fetch env l.source _⟩

theorem load_of_no_document (h : ¬ l.ObstructedAt env page location)
    (hdocument : l.document? env (l.pageFor location) = none) :
    (l.load env page location).result = .ok none := by
  rw [load_of_not_obstructedAt h, hdocument]
  rfl

theorem load_of_document {v : Json.Value} (h : ¬ l.ObstructedAt env page location)
    (hdocument : l.document? env (l.pageFor location) = some v) :
    (l.load env page location).result =
      .ok (some ⟨(Binding.inject page v).1, (Binding.inject page v).2⟩) := by
  rw [load_of_not_obstructedAt h, hdocument]
  rfl

end Loader
end ContentBinding
