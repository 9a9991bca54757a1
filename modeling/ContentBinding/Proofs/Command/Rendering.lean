import ContentBinding.Command.Run
import ContentBinding.Proofs.Loading.Rendition
import ContentBinding.Proofs.Text.Utf8

/-! Rendering and checking a page. Both begin with a loader and the text of the page, and both have
the document of its location fetched. The check plans for the page as it stands, and comes to the
plan that rendering performs. -/

namespace ContentBinding.Command

open Ending (line noteLines)
open Files (Path World)
open Markup (Page)

variable {env : Surroundings} {t : Task} {l : Loader} {data : Text.Bytes} {html : String}
  {output : Option Path} {isVerbose isStrict : Bool} {e : Ending}

/-- What both commands work with: a loader by the settings, the bytes of the page and their text. -/
structure Task.Ready (env : Surroundings) (t : Task) (l : Loader) (data : Text.Bytes)
    (html : String) : Prop where
  loader : ∃ c, t.settings.load env.files = .ok c ∧ c.offlineLoader = .ok l
  bytes : env.files.read t.page = .ok data
  text : Markup.decodePage data = some html

def Task.loading (env : Surroundings) (t : Task) (l : Loader) (html : String) :
    Loading (Option Injected) :=
  l.load env (Page.parse html) t.location

def Task.overview (t : Task) (l : Loader) (html : String) : String :=
  overviewText t.location (l.nameOf (l.pageFor t.location)) (Binding.scan (Page.parse html))

def begun (env : Surroundings) (isVerbose : Bool) (loading : Loading (Option Injected)) : Ending :=
  ({ files := env.files, requests := loading.requests } : Ending).report
    (noteLines isVerbose loading.notes)

/-- The command performs the plan on the page and gives the page out. -/
def Renders (env : Surroundings) (t : Task) (output : Option Path) (isVerbose : Bool)
    (i : Injected) : Prop :=
  ∃ l data html, t.Ready env l data html ∧ (t.loading env l html).result = .ok (some i) ∧
    i.page = Binding.apply (Page.parse html) i.plan.writes ∧
    carryOut env (.render t output isVerbose) =
      deliver ((begun env isVerbose (t.loading env l html)).report
        (if isVerbose then skipLines i.plan else "")) t.page output (Text.encodeUtf8 i.page.render)

def LeavesPage (env : Surroundings) (t : Task) (output : Option Path) (isVerbose : Bool) : Prop :=
  ∃ l data html, t.Ready env l data html ∧ (t.loading env l html).result = .ok none ∧
    carryOut env (.render t output isVerbose) =
      deliver ((begun env isVerbose (t.loading env l html)).report
        (line "Content unavailable, page left unchanged")) t.page output data

def Says (env : Surroundings) (t : Task) (isStrict : Bool) (text : String) : Prop :=
  ∃ l data html, t.Ready env l data html ∧ (carryOut env (.check t isStrict)).out =
    Text.encodeUtf8 (t.overview l html) ++ Text.encodeUtf8 text

/-! What a load tells of the document -/

theorem not_obstructedAt_of_loading {r : Option Injected}
    (h : (t.loading env l html).result = .ok r) : ¬ l.ObstructedAt env (Page.parse html) t.location := by
  intro hobstructed
  obtain ⟨e, he⟩ := Loader.load_of_obstructedAt hobstructed
  exact absurd (he.symm.trans h) nofun

theorem document_of_loading {i : Injected} (h : (t.loading env l html).result = .ok (some i)) :
    ¬ l.ObstructedAt env (Page.parse html) t.location ∧ ∃ v, l.document? env (l.pageFor t.location) = some v ∧
      i.plan = Binding.Plan.ofScan (Binding.scan (Page.parse html)) v ∧
      i.page = Binding.apply (Page.parse html) i.plan.writes := by
  have hfree := not_obstructedAt_of_loading h
  have hresult := (Loader.load_of_not_obstructedAt hfree).symm.trans h
  obtain ⟨v, hv, rfl⟩ := Option.map_eq_some_iff.mp (Except.ok.inj hresult)
  exact ⟨hfree, v, hv, rfl, rfl⟩

theorem no_document_of_loading (h : (t.loading env l html).result = .ok none) :
    ¬ l.ObstructedAt env (Page.parse html) t.location ∧ l.document? env (l.pageFor t.location) = none := by
  have hfree := not_obstructedAt_of_loading h
  have hresult := (Loader.load_of_not_obstructedAt hfree).symm.trans h
  exact ⟨hfree, Option.map_eq_none_iff.mp (Except.ok.inj hresult)⟩

/-! Rendering -/

theorem render_of_ready (h : t.Ready env l data html) (output : Option Path) (isVerbose : Bool) :
    render env t output isVerbose =
      deliverLoaded { files := env.files } t output isVerbose data (t.loading env l html) := by
  obtain ⟨⟨c, hconfig, hloader⟩, hread, hdecode⟩ := h
  unfold render
  simp only [hconfig, hread, hdecode, hloader]
  rfl

theorem renders_of_result (h : t.Ready env l data html) {i : Injected}
    (hresult : (t.loading env l html).result = .ok (some i)) (output : Option Path)
    (isVerbose : Bool) : Renders env t output isVerbose i := by
  obtain ⟨_, _, _, _, hpage⟩ := document_of_loading hresult
  refine ⟨l, data, html, h, hresult, hpage, ?_⟩
  rw [carryOut, render_of_ready h, deliverLoaded, hresult]
  rfl

theorem leavesPage_of_result (h : t.Ready env l data html)
    (hresult : (t.loading env l html).result = .ok none) (output : Option Path)
    (isVerbose : Bool) : LeavesPage env t output isVerbose := by
  refine ⟨l, data, html, h, hresult, ?_⟩
  rw [carryOut, render_of_ready h, deliverLoaded, hresult]
  rfl

/-! What rendering prints -/

def Prints (e : Ending) (bytes : Text.Bytes) : Prop :=
  e.out = bytes ∧ e.exitCode = 0 ∧ e.failure = none

def Fails (e : Ending) : Prop :=
  e.out = [] ∧ ∃ failure, e.failure = some failure

theorem prints_deliver (h : Prints e []) (page : Path) (data : Text.Bytes) :
    Prints (deliver e page none data) data := by
  obtain ⟨hout, hcode, hfailure⟩ := h
  refine ⟨?_, hcode, hfailure⟩
  rw [deliver, hout, List.nil_append]

theorem prints_of_yields {c : Config} {bytes : Text.Bytes}
    (hconfig : t.settings.load env.files = .ok c) (hloader : c.offlineLoader = .ok l)
    (hread : env.files.read t.page = .ok data) (hyields : l.Yields env data t.location bytes)
    (isVerbose : Bool) : Prints (carryOut env (.render t none isVerbose)) bytes := by
  have hready : ∀ {html}, Markup.decodePage data = some html → t.Ready env l data html :=
    fun hhtml => ⟨⟨c, hconfig, hloader⟩, hread, hhtml⟩
  cases hyields with
  | undecoded hnone =>
    change Prints (render env t none isVerbose) data
    unfold render
    simp only [hconfig, hread, hnone]
    exact prints_deliver ⟨rfl, rfl, rfl⟩ _ _
  | @unavailable html hhtml hfree hdocument =>
    have hresult : (t.loading env l html).result = _ :=
      Loader.load_of_no_document hfree hdocument
    rw [carryOut, render_of_ready (hready hhtml), deliverLoaded, hresult]
    exact prints_deliver ⟨rfl, rfl, rfl⟩ _ _
  | @injected html v hhtml hfree hdocument =>
    have hresult : (t.loading env l html).result = _ := Loader.load_of_document hfree hdocument
    rw [carryOut, render_of_ready (hready hhtml), deliverLoaded, hresult]
    exact prints_deliver ⟨rfl, rfl, rfl⟩ _ _

theorem fails_of_obstructedAt (hready : t.Ready env l data html)
    (hobstructed : l.ObstructedAt env (Page.parse html) t.location) (isVerbose : Bool) :
    Fails (carryOut env (.render t none isVerbose)) := by
  obtain ⟨err, herr⟩ := Loader.load_of_obstructedAt hobstructed
  have hresult : (t.loading env l html).result = .error err := herr
  rw [carryOut, render_of_ready hready, deliverLoaded, hresult]
  exact ⟨rfl, _, rfl⟩

theorem fails_of_unread {c : Config} {err : Files.PathError}
    (hconfig : t.settings.load env.files = .ok c) (hread : env.files.read t.page = .error err)
    (isVerbose : Bool) : Fails (carryOut env (.render t none isVerbose)) := by
  change Fails (render env t none isVerbose)
  unfold render
  simp only [hconfig, hread]
  exact ⟨rfl, _, rfl⟩

/-! Checking -/

theorem checkPage_of_ready (h : t.Ready env l data html) (isStrict : Bool) :
    checkPage env t isStrict = checkText env l t isStrict html := by
  obtain ⟨⟨c, hconfig, hloader⟩, hread, hdecode⟩ := h
  unfold checkPage
  simp only [hconfig, hread, hdecode, hloader]

theorem ready_of_exitCode_ne (h : (checkPage env t isStrict).exitCode ≠ 1) :
    ∃ l data html, t.Ready env l data html := by
  unfold checkPage at h
  dsimp only at h
  split at h
  · rename_i err _
    refine absurd ?_ h
    unfold Ending.ofConfigError
    split <;> rfl
  · rename_i c hconfig
    split at h
    · exact absurd rfl h
    · rename_i l hloader
      split at h
      · exact absurd rfl h
      · rename_i data hread
        split at h
        · exact absurd rfl h
        · rename_i html hdecode
          exact ⟨l, data, html, ⟨c, hconfig, hloader⟩, hread, hdecode⟩

section CheckText

variable {v : Json.Value}

theorem out_print (w : World) (s : String) :
    (({ files := w } : Ending).print s).out = Text.encodeUtf8 s :=
  List.nil_append _

theorem nameOf_of_describe {page name : String} (h : l.describe page = .ok name) :
    l.nameOf page = name := by
  rw [Loader.nameOf, h]

theorem checkText_of_not_obstructed (h : ¬ l.source.Obstructed env (l.pageFor t.location)) :
    checkText env l t isStrict html =
      checkLoaded (({ files := env.files } : Ending).print (t.overview l html))
        (Binding.scan (Page.parse html)) isStrict
        (l.fetchDocument env (l.pageFor t.location)) := by
  obtain ⟨name, hname⟩ := Source.describe_of_not_obstructed h
  have hdescribe : l.describe (l.pageFor t.location) = .ok name := hname
  unfold checkText Task.overview
  dsimp only
  rw [hdescribe, nameOf_of_describe hdescribe]

theorem checkText_of_obstructed (h : l.ObstructedAt env (Page.parse html) t.location)
    (isStrict : Bool) :
    (checkText env l t isStrict html).exitCode = 1 ∧
      ((checkText env l t isStrict html).out = [] ∨
        (checkText env l t isStrict html).out = Text.encodeUtf8 (t.overview l html)) := by
  by_cases hsource : l.source.Obstructed env (l.pageFor t.location)
  · obtain ⟨e, he⟩ := Loader.fetchDocument_of_obstructed hsource
    unfold checkText
    dsimp only
    split
    · exact ⟨rfl, Or.inl rfl⟩
    · rename_i name hname
      unfold checkLoaded
      rw [he]
      refine ⟨rfl, Or.inr ?_⟩
      rw [Task.overview, nameOf_of_describe hname]
      exact out_print env.files _
  · rcases h with h | ⟨v, hv, hbreaks⟩
    · exact absurd h hsource
    · have hfetch := Loader.result_of_not_obstructed hsource
      rw [hv] at hfetch
      obtain ⟨e, he⟩ := Binding.Plan.exists_forScan_eq_error_iff.mpr
        ((Binding.Plan.exists_breaksOff?_iff (Loader.isNull_of_document hv)).mpr hbreaks)
      rw [checkText_of_not_obstructed hsource, checkLoaded, hfetch]
      dsimp only
      rw [he]
      exact ⟨rfl, Or.inr (out_print env.files _)⟩

theorem checkText_of_no_document (h : ¬ l.ObstructedAt env (Page.parse html) t.location)
    (hdocument : l.document? env (l.pageFor t.location) = none) :
    (checkText env l t isStrict html).exitCode = (if isStrict then 1 else 0) ∧
      (checkText env l t isStrict html).out =
        Text.encodeUtf8 (t.overview l html) ++ Text.encodeUtf8 (line "Content unavailable") := by
  have hsource := fun hsource => h (Or.inl hsource)
  have hfetch := Loader.result_of_not_obstructed hsource
  rw [hdocument] at hfetch
  rw [checkText_of_not_obstructed hsource, checkLoaded, hfetch,
    ← out_print env.files (t.overview l html)]
  exact ⟨rfl, rfl⟩

theorem checkText_of_document (h : ¬ l.ObstructedAt env (Page.parse html) t.location)
    (hdocument : l.document? env (l.pageFor t.location) = some v) :
    (checkText env l t isStrict html).exitCode =
        (if isStrict && !(Binding.Plan.ofScan (Binding.scan (Page.parse html)) v).skips.isEmpty
          then 1 else 0) ∧
      (checkText env l t isStrict html).out = Text.encodeUtf8 (t.overview l html) ++
        Text.encodeUtf8 (planText (Binding.Plan.ofScan (Binding.scan (Page.parse html)) v)) := by
  have hsource := fun hsource => h (Or.inl hsource)
  have hfetch := Loader.result_of_not_obstructed hsource
  rw [hdocument] at hfetch
  rw [checkText_of_not_obstructed hsource, checkLoaded, hfetch]
  dsimp only
  rw [Loader.forScan_of_not_obstructedAt h hdocument, ← out_print env.files (t.overview l html)]
  exact ⟨rfl, rfl⟩

end CheckText

theorem renders_of_document (hready : t.Ready env l data html)
    (hfree : ¬ l.ObstructedAt env (Page.parse html) t.location) {v : Json.Value}
    (hv : l.document? env (l.pageFor t.location) = some v) (output : Option Path)
    (isVerbose : Bool) :
    ∃ i, Renders env t output isVerbose i ∧
      i.plan = Binding.Plan.ofScan (Binding.scan (Page.parse html)) v := by
  have hresult : (t.loading env l html).result = _ := Loader.load_of_document hfree hv
  exact ⟨_, renders_of_result hready hresult output isVerbose, rfl⟩

theorem leavesPage_of_no_document (hready : t.Ready env l data html)
    (hfree : ¬ l.ObstructedAt env (Page.parse html) t.location)
    (hnone : l.document? env (l.pageFor t.location) = none) (output : Option Path)
    (isVerbose : Bool) : LeavesPage env t output isVerbose :=
  leavesPage_of_result hready (Loader.load_of_no_document hfree hnone) output isVerbose

/-! What a check says -/

theorem head?_planText (p : Binding.Plan Markup.NodeId) :
    (Text.encodeUtf8 (planText p)).head? = some 87 := by
  unfold planText line
  rw [Text.encodeUtf8_append, Text.encodeUtf8_append, Text.encodeUtf8_append]
  rfl

theorem planText_ne_unavailable (p : Binding.Plan Markup.NodeId) :
    Text.encodeUtf8 (planText p) ≠ Text.encodeUtf8 (line "Content unavailable") := by
  intro h
  have hhead := head?_planText p
  rw [h] at hhead
  exact absurd hhead (by decide)

theorem not_says_of_obstructed {text : Text.Bytes} (htext : text ≠ [])
    (hobstructed : l.ObstructedAt env (Page.parse html) t.location) :
    (checkText env l t isStrict html).out ≠ Text.encodeUtf8 (t.overview l html) ++ text := by
  intro hout
  rcases (checkText_of_obstructed hobstructed isStrict).2 with h | h
  · rw [h] at hout
    exact htext (List.append_eq_nil_iff.mp hout.symm).2
  · rw [h] at hout
    exact htext (List.append_right_eq_self.mp hout.symm)

theorem says_of_renders {i : Injected} (h : Renders env t output isVerbose i) (isStrict : Bool) :
    Says env t isStrict (planText i.plan) := by
  obtain ⟨l, data, html, hready, hresult, _⟩ := h
  obtain ⟨hfree, v, hv, hplan, _⟩ := document_of_loading hresult
  refine ⟨l, data, html, hready, ?_⟩
  rw [carryOut, checkPage_of_ready hready, hplan]
  exact (checkText_of_document hfree hv).2

theorem says_of_leavesPage (h : LeavesPage env t output isVerbose) (isStrict : Bool) :
    Says env t isStrict (line "Content unavailable") := by
  obtain ⟨l, data, html, hready, hresult, _⟩ := h
  obtain ⟨hfree, hnone⟩ := no_document_of_loading hresult
  refine ⟨l, data, html, hready, ?_⟩
  rw [carryOut, checkPage_of_ready hready]
  exact (checkText_of_no_document hfree hnone).2

theorem ready_of_says {text : String} (h : Says env t isStrict text)
    (htext : Text.encodeUtf8 text ≠ []) :
    ∃ l data html, t.Ready env l data html ∧ ¬ l.ObstructedAt env (Page.parse html) t.location ∧
      match l.document? env (l.pageFor t.location) with
      | none => Text.encodeUtf8 text = Text.encodeUtf8 (line "Content unavailable")
      | some v => Text.encodeUtf8 text =
          Text.encodeUtf8 (planText (Binding.Plan.ofScan (Binding.scan (Page.parse html)) v)) := by
  obtain ⟨l, data, html, hready, hout⟩ := h
  rw [carryOut, checkPage_of_ready hready] at hout
  have hfree : ¬ l.ObstructedAt env (Page.parse html) t.location := fun hobstructed =>
    not_says_of_obstructed htext hobstructed hout
  refine ⟨l, data, html, hready, hfree, ?_⟩
  split
  · rename_i hnone
    rw [(checkText_of_no_document hfree hnone).2] at hout
    exact (List.append_cancel_left hout).symm
  · rename_i v hv
    rw [(checkText_of_document hfree hv).2] at hout
    exact (List.append_cancel_left hout).symm

theorem renders_of_says {plan : Binding.Plan Markup.NodeId}
    (h : Says env t isStrict (planText plan)) (output : Option Path) (isVerbose : Bool) :
    ∃ i, Renders env t output isVerbose i := by
  have htext : Text.encodeUtf8 (planText plan) ≠ [] := by
    intro hnil
    have hhead := head?_planText plan
    rw [hnil] at hhead
    exact absurd hhead nofun
  obtain ⟨l, data, html, hready, hfree, hsaid⟩ := ready_of_says h htext
  split at hsaid
  · exact absurd hsaid (planText_ne_unavailable plan)
  · rename_i v hv
    obtain ⟨i, hi, _⟩ := renders_of_document hready hfree hv output isVerbose
    exact ⟨i, hi⟩

theorem leavesPage_of_says (h : Says env t isStrict (line "Content unavailable"))
    (output : Option Path) (isVerbose : Bool) : LeavesPage env t output isVerbose := by
  obtain ⟨l, data, html, hready, hfree, hsaid⟩ := ready_of_says h (by decide)
  split at hsaid
  · rename_i hnone
    exact leavesPage_of_no_document hready hfree hnone output isVerbose
  · exact absurd hsaid.symm (planText_ne_unavailable _)

theorem exitCode_of_renders {i : Injected} (h : Renders env t output isVerbose i)
    (hskips : i.plan.skips = []) : (carryOut env (.check t true)).exitCode = 0 := by
  obtain ⟨l, data, html, hready, hresult, _⟩ := h
  obtain ⟨hfree, v, hv, hplan, _⟩ := document_of_loading hresult
  rw [carryOut, checkPage_of_ready hready, (checkText_of_document hfree hv).1, ← hplan, hskips]
  rfl

theorem renders_of_exitCode (h : (carryOut env (.check t true)).exitCode = 0)
    (output : Option Path) (isVerbose : Bool) :
    ∃ i, Renders env t output isVerbose i ∧ i.plan.skips = [] := by
  -- every way to end without a plan, or with bindings left out, has the exit code 1
  have hne : (checkPage env t true).exitCode ≠ 1 := by
    change (checkPage env t true).exitCode = 0 at h
    rw [h]
    exact Nat.zero_ne_one
  obtain ⟨l, data, html, hready⟩ := ready_of_exitCode_ne hne
  rw [carryOut, checkPage_of_ready hready] at h
  have hfree : ¬ l.ObstructedAt env (Page.parse html) t.location := by
    intro hobstructed
    rw [(checkText_of_obstructed hobstructed true).1] at h
    exact absurd h Nat.one_ne_zero
  cases hdocument : l.document? env (l.pageFor t.location) with
  | none =>
    rw [(checkText_of_no_document hfree hdocument).1] at h
    exact absurd h Nat.one_ne_zero
  | some v =>
    obtain ⟨i, hi, hplan⟩ := renders_of_document hready hfree hdocument output isVerbose
    refine ⟨i, hi, ?_⟩
    rw [(checkText_of_document hfree hdocument).1] at h
    rw [hplan]
    cases hskips : (Binding.Plan.ofScan (Binding.scan (Page.parse html)) v).skips with
    | nil => rfl
    | cons s rest =>
      rw [hskips] at h
      exact absurd h Nat.one_ne_zero

def siteWithPage : Surroundings :=
  { files := { entries := [(["site"], .directory),
      (["site", "p.html"], .file (Text.encodeUtf8 "<p data-content=\"a\">x</p>")),
      (["site", "content"], .directory),
      (["site", "content", "home.json"], .file (Text.encodeUtf8 "\x7b\"a\":\"A\"\x7d"))] }
    network := fun _ => .failed ⟨"ConnectError", ""⟩
    clock := .finite ⟨false, 0, 0⟩ }

def pageTask : Task :=
  { page := .absolute ["site", "p.html"], location := "/p.html" }

end ContentBinding.Command
