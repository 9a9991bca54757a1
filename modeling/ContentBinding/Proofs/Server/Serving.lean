import ContentBinding.Server.Answer
import ContentBinding.Proofs.Command.Rendering
import ContentBinding.Proofs.Site.Containment

/-! Pages of a server, which are given out as rendering gives them out. A server keeps its settings
and its source through all requests, so that a page comes to the same bytes at every time and in
either way. -/

namespace ContentBinding.Server

open Command (Fails Invocation Prints Settings Task carryOut)
open Files (Path World)

variable {env : Surroundings} {c : Config} {s s' s'' : Server} {f : Path} {data bytes : Text.Bytes}
  {location : String}

/-- The states of a server with these settings: made, begun, and after any requests. -/
inductive Reached (c : Config) : Server → Prop
  | created {w : World} {isVerbose : Bool} {s : Server} : create w c isVerbose = .ok s → Reached c s
  | started {w : World} {s : Server} : Reached c s → Reached c (s.start w).1
  | answered {env : Surroundings} {s : Server} {method target : String} :
    Reached c s → Reached c (answer env s method target).server

/-- The settings are the same, and but for connections the loader. -/
structure Keeps (s s' : Server) : Prop where
  config_eq : s'.config = s.config
  loader : s'.loader.Alike s.loader

/-! One request -/

theorem Keeps.refl (s : Server) : Keeps s s :=
  ⟨rfl, rfl, rfl⟩

theorem keeps_sendPage (env : Surroundings) (s : Server) (f : Path) (location html : String) :
    Keeps s (sendPage env s f location html).server := by
  have hserver : (sendPage env s f location html).server =
      { s with loader := (s.loader.load env (Markup.Page.parse html) location).loader } := by
    unfold sendPage
    dsimp only
    split <;> rfl
  rw [hserver]
  exact ⟨rfl, Loader.alike_load env s.loader _ location⟩

theorem keeps_sendSiteFile (env : Surroundings) (s : Server) (f : Path) (location : String) :
    Keeps s (sendSiteFile env s f location).server := by
  unfold sendSiteFile
  split
  · exact .refl s
  · split
    · exact .refl s
    · split
      · exact .refl s
      · exact keeps_sendPage env s f location _

theorem keeps_send (env : Surroundings) (s : Server) (location : String) (r : Route) :
    Keeps s (send env s location r).server := by
  cases r with
  | document page => exact .refl s
  | changes => exact .refl s
  | asset name => exact .refl s
  | site path =>
    change Keeps s (sendSite env s path location).server
    unfold sendSite
    split
    · exact .refl s
    · exact .refl s
    · exact keeps_sendSiteFile env s _ location

theorem keeps_answerTarget (env : Surroundings) (s : Server) (m : Method) (t : Target) :
    Keeps s (answerTarget env s m t).server := by
  unfold answerTarget
  split
  · exact .refl s
  · exact .refl s
  · exact keeps_send env s _ _

theorem keeps_answer (env : Surroundings) (s : Server) (method target : String) :
    Keeps s (answer env s method target).server := by
  unfold answer
  split
  · exact keeps_answerTarget env s .head _
  · exact keeps_answerTarget env s _ _
  · exact .refl s

/-! Any number of requests -/

theorem keeps_start (w : World) (s : Server) : Keeps s (s.start w).1 := by
  unfold start
  split
  · exact .refl s
  · exact ⟨rfl, rfl, rfl⟩

theorem Reached.config_and_loader (h : Reached c s) :
    s.config = c ∧ ∃ l, c.loader = .ok l ∧ s.loader.Alike l := by
  have hstep : ∀ {s s' : Server}, Keeps s s' →
      (s.config = c ∧ ∃ l, c.loader = .ok l ∧ s.loader.Alike l) →
      s'.config = c ∧ ∃ l, c.loader = .ok l ∧ s'.loader.Alike l := by
    rintro s s' hkeeps ⟨hconfig, l, hl, halike⟩
    exact ⟨hkeeps.config_eq.trans hconfig, l, hl, hkeeps.loader.trans halike⟩
  -- on the way by which the server was reached: every step keeps both
  induction h with
  | @created w _ s hcreate =>
    unfold create at hcreate
    split at hcreate
    · exact absurd hcreate nofun
    · rename_i l hl
      split at hcreate
      · exact absurd hcreate nofun
      · obtain rfl := Except.ok.inj hcreate
        exact ⟨rfl, l, hl, rfl, rfl⟩
  | @started w s _ ih => exact hstep (keeps_start w s) ih
  | @answered env s method target _ ih => exact hstep (keeps_answer env s method target) ih

/-! A page -/

def Sends (r : Response) (bytes : Text.Bytes) : Prop :=
  r.status = 200 ∧ r.body = bytes

theorem sendStored_sends (hread : env.files.read f = .ok data) :
    Sends (sendStored env.files f) data := by
  rw [sendStored, sendFile, hread]
  exact ⟨rfl, rfl⟩

theorem sendSiteFile_of_no_text (hpage : f.suffix = Site.pageSuffix)
    (hread : env.files.read f = .ok data) (hnone : Markup.decodePage data = none) :
    (sendSiteFile env s f location).response = sendStored env.files f := by
  have hsuffix : (f.suffix != Site.pageSuffix) = false := bne_eq_false_iff_eq.mpr hpage
  simp only [sendSiteFile, hsuffix, Bool.false_eq_true, if_false, hread, hnone]

theorem sendSiteFile_of_text {html : String} (hpage : f.suffix = Site.pageSuffix)
    (hread : env.files.read f = .ok data) (hhtml : Markup.decodePage data = some html) :
    sendSiteFile env s f location = sendPage env s f location html := by
  have hsuffix : (f.suffix != Site.pageSuffix) = false := bne_eq_false_iff_eq.mpr hpage
  simp only [sendSiteFile, hsuffix, Bool.false_eq_true, if_false, hread, hhtml]

/-- Pages that are not loaded again are sent as their source has them come out. -/
theorem sendSiteFile_sends (hreload : s.config.reload.enabled = false)
    (hpage : f.suffix = Site.pageSuffix) (hread : env.files.read f = .ok data)
    (hyields : s.loader.Yields env data location bytes) :
    Sends (sendSiteFile env s f location).response bytes := by
  cases hyields with
  | undecoded hnone =>
    rw [sendSiteFile_of_no_text hpage hread hnone]
    exact sendStored_sends hread
  | @unavailable html hhtml hfree hdocument =>
    rw [sendSiteFile_of_text hpage hread hhtml, sendPage,
      Loader.load_of_no_document hfree hdocument]
    dsimp only
    rw [hreload]
    exact sendStored_sends hread
  | @injected html v hhtml hfree hdocument =>
    rw [sendSiteFile_of_text hpage hread hhtml, sendPage, Loader.load_of_document hfree hdocument]
    dsimp only [finish]
    rw [hreload]
    exact ⟨rfl, rfl⟩

theorem sendSiteFile_failed {html : String} (hpage : f.suffix = Site.pageSuffix)
    (hread : env.files.read f = .ok data) (hhtml : Markup.decodePage data = some html)
    (hobstructed : s.loader.ObstructedAt env (Markup.Page.parse html) location) :
    (sendSiteFile env s f location).response = .failed := by
  obtain ⟨e, he⟩ := Loader.load_of_obstructedAt hobstructed
  rw [sendSiteFile_of_text hpage hread hhtml, sendPage, he]

theorem sendSiteFile_unread {e : Files.PathError} (hpage : f.suffix = Site.pageSuffix)
    (hread : env.files.read f = .error e) : (sendSiteFile env s f location).response = .failed := by
  have hsuffix : (f.suffix != Site.pageSuffix) = false := bne_eq_false_iff_eq.mpr hpage
  simp only [sendSiteFile, hsuffix, Bool.false_eq_true, if_false, hread]

/-! A request for a page -/

theorem Target.exists_ofPath {target : String} {r : Target} (h : Target.ofString? target = some r) :
    ∃ cs, r = Target.ofPath cs := by
  unfold Target.ofString? at h
  dsimp only at h
  split at h
  · exact absurd h nofun
  · split at h
    · exact absurd h nofun
    · split at h
      · exact ⟨_, (Option.some.inj h).symm⟩
      · split at h
        · obtain ⟨cs, _, rfl⟩ := Option.map_eq_some_iff.mp h
          exact ⟨cs, rfl⟩
        · exact absurd h nofun

theorem Route.site?_of_ofPath? {reload : Bool} {cs : List Char} {path : String}
    (h : Route.ofPath? reload cs = some (.site path)) : Route.site? cs = some path := by
  unfold Route.ofPath? at h
  split at h
  · exact absurd h nofun
  · split at h
    · exact absurd h nofun
    · split at h
      · exact absurd h nofun
      · obtain ⟨p, hp, heq⟩ := Option.map_eq_some_iff.mp h
        obtain rfl := Route.site.inj heq
        exact hp

/-- No site path has an empty location: both are read off one decoded text. -/
theorem location_ne_empty {target path : String} {r : Target}
    (htarget : Target.ofString? target = some r) (hroute : s.route? r = some (.site path)) :
    r.location ≠ "" := by
  obtain ⟨cs, rfl⟩ := Target.exists_ofPath htarget
  intro hempty
  have hlocation : Url.unescape (cs.takeWhile fun c => !Target.endsPath c) = [] :=
    String.ofList_eq_empty_iff.mp hempty
  have hdecode : Url.decode (cs.takeWhile fun c => !Target.endsPath c) = [] :=
    List.map_eq_nil_iff.mp hlocation
  have hpath : (Target.ofPath cs).path = [] := by
    rw [Target.ofPath, Url.unescapePath, hdecode]
    rfl
  have hsite := Route.site?_of_ofPath? hroute
  rw [hpath] at hsite
  exact absurd hsite nofun

theorem locationOf_location {target path : String} {r : Target}
    (htarget : Target.ofString? target = some r) (hroute : s.route? r = some (.site path)) :
    Command.Task.locationOf f (some r.location) = r.location := by
  have hne : r.location.isEmpty = false :=
    Bool.eq_false_iff.mpr fun h => location_ne_empty htarget hroute (String.isEmpty_iff.mp h)
  rw [Command.Task.locationOf, hne, if_neg Bool.false_ne_true]

theorem answer_get {target path : String} {r : Target} (htarget : Target.ofString? target = some r)
    (hroute : s.route? r = some (.site path))
    (hfind : Site.find env.files s.config.site.root path = .ok (some f)) :
    answer env s "GET" target = sendSiteFile env s f r.location := by
  have hmethod : Method.ofString? "GET" = some .get := if_pos rfl
  unfold answer
  rw [hmethod, htarget]
  dsimp only
  unfold answerTarget
  rw [hroute]
  dsimp only
  rw [send, sendSite, hfind]

theorem exists_offlineLoader {c' : Config} {l : Loader} (hsource : c'.source = c.source)
    (hroutes : c'.routes = c.routes) (hl : c.loader = .ok l) :
    ∃ l', c'.offlineLoader = .ok l' ∧ l.Alike l' := by
  unfold Config.loader at hl
  unfold Config.offlineLoader Config.loader
  rw [hsource, hroutes]
  cases h : c.source with
  | error e =>
    rw [h] at hl
    exact absurd hl nofun
  | ok source =>
    rw [h] at hl
    obtain rfl := Except.ok.inj hl
    exact ⟨_, rfl, rfl, rfl⟩

def renderAt (settings : Settings) (f : Path) (location : String) (isVerbose : Bool) : Invocation :=
  .render ⟨settings, f, Task.locationOf f (some location)⟩ none isVerbose

/-- A server whose pages are not loaded again and rendering by the same settings give a page out
alike: the same bytes where the source can answer, and these are the stored ones where the page is
no text or there is no content. Where the load comes to nothing both fail, and so they do where the
page must not be read. -/
theorem page_served_as_rendered {c' : Config} {settings : Settings} {target path : String}
    {r : Target} (isVerbose : Bool) (hs : Reached c s) (hreload : c.reload.enabled = false)
    (hsettings : settings.load env.files = .ok c') (hsource : c'.source = c.source)
    (hroutes : c'.routes = c.routes) (htarget : Target.ofString? target = some r)
    (hroute : s.route? r = some (.site path))
    (hfind : Site.find env.files c.site.root path = .ok (some f))
    (hpage : f.suffix = Site.pageSuffix) :
    (∃ data, env.files.read f = .ok data ∧
      ((∃ bytes, s.loader.Yields env data r.location bytes ∧
          Sends (answer env s "GET" target).response bytes ∧
          Prints (carryOut env (renderAt settings f r.location isVerbose)) bytes) ∨
        ((∃ html, Markup.decodePage data = some html ∧
            s.loader.ObstructedAt env (Markup.Page.parse html) r.location) ∧
          (answer env s "GET" target).response = .failed ∧
          Fails (carryOut env (renderAt settings f r.location isVerbose))))) ∨
    (env.files.read f = .error (.system ⟨.denied, f.toString⟩) ∧
      (answer env s "GET" target).response = .failed ∧
      Fails (carryOut env (renderAt settings f r.location isVerbose))) := by
  obtain ⟨rfl, l, hl, halike⟩ := hs.config_and_loader
  -- the loader for rendering waits for nothing and has no connection; neither shows in a page
  obtain ⟨l', hl', halike'⟩ := exists_offlineLoader hsource hroutes hl
  have hsame : s.loader.Alike l' := halike.trans halike'
  rw [answer_get htarget hroute hfind, renderAt, locationOf_location htarget hroute]
  rcases Files.World.read_of_isFile (Site.isFile_of_find hfind) with ⟨data, hread⟩ | hread
  · refine Or.inl ⟨data, hread, ?_⟩
    rcases Loader.yields_or_obstructed env s.loader data r.location with
      ⟨bytes, hyields⟩ | ⟨html, hhtml, hobstructed⟩
    · refine Or.inl ⟨bytes, hyields, sendSiteFile_sends hreload hpage hread hyields, ?_⟩
      exact Command.prints_of_yields hsettings hl' hread (hsame.yields hyields) isVerbose
    · have hready : Task.Ready env ⟨settings, f, r.location⟩ l' data html :=
        ⟨⟨c', hsettings, hl'⟩, hread, hhtml⟩
      refine Or.inr ⟨⟨html, hhtml, hobstructed⟩, sendSiteFile_failed hpage hread hhtml hobstructed, ?_⟩
      exact Command.fails_of_obstructedAt hready (hsame.obstructedAt_iff.mp hobstructed) isVerbose
  · exact Or.inr ⟨hread, sendSiteFile_unread hpage hread,
      Command.fails_of_unread (t := ⟨settings, f, r.location⟩) hsettings hread isVerbose⟩

/-! The page of a site, served and rendered -/

def quietConfig : Config :=
  Config.standard.override { reload := some false }

def quietSettings : Settings :=
  { overrides := { reload := some false } }

def quietServer : Server :=
  { config := quietConfig
    loader :=
      { source := .directory quietConfig.site.content
        routes := quietConfig.routes
        grace := quietConfig.content.grace } }

theorem page_served_as_rendered_siteWithPage :
    create Command.siteWithPage.files quietConfig false = .ok quietServer ∧
    ∃ bytes, Sends (answer Command.siteWithPage quietServer "GET" "/p.html").response bytes ∧
      Prints (carryOut Command.siteWithPage
        (renderAt quietSettings (.absolute ["site", "p.html"]) "/p.html" false)) bytes := by
  have hcreate : create Command.siteWithPage.files quietConfig false = .ok quietServer := rfl
  have hresponse :
      (answer Command.siteWithPage quietServer "GET" "/p.html").response ≠ .failed := by
    decide +kernel
  have hsettings : quietSettings.load Command.siteWithPage.files = .ok quietConfig := by
    decide +kernel
  have htarget : Target.ofString? "/p.html" = some ⟨"/p.html".toList, "/p.html"⟩ := by
    decide +kernel
  have hroute : quietServer.route? ⟨"/p.html".toList, "/p.html"⟩ = some (.site "p.html") := by
    decide +kernel
  have hfind : Site.find Command.siteWithPage.files quietConfig.site.root "p.html" =
      .ok (some (.absolute ["site", "p.html"])) := by decide +kernel
  have hpage := page_served_as_rendered false (.created hcreate) rfl hsettings rfl rfl
    htarget hroute hfind (by decide +kernel)
  rcases hpage with ⟨_, _, ⟨bytes, _, hsent, hprinted⟩ | ⟨_, hfailed, _⟩⟩ | ⟨_, hfailed, _⟩
  · exact ⟨hcreate, bytes, hsent, hprinted⟩
  · exact absurd hfailed hresponse
  · exact absurd hfailed hresponse

end ContentBinding.Server
