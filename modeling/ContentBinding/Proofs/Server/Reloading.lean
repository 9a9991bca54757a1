import ContentBinding.Proofs.Markup.Appending
import ContentBinding.Proofs.Markup.JoinedPages
import ContentBinding.Proofs.Server.Identity

/-! Pages that load themselves again. What is sent is the page that the load leaves with a script in
its place; the script is all that such a page has more than one that stays as it is. -/

namespace ContentBinding

open Files (Path)
open Markup (Page Piece)

namespace Loader

variable {env : Surroundings} {l : Loader} {html location : String} {page : Page}

/-- The page that a load leaves: filled in for its document, or as it was read. -/
inductive Leaves (env : Surroundings) (l : Loader) (html location : String) : Page → Prop
  | filled {v : Json.Value} : ¬ l.ObstructedAt env (Page.parse html) location →
    l.document? env (l.pageFor location) = some v →
    Leaves env l html location (Binding.inject (Page.parse html) v).1
  | unfilled : ¬ l.ObstructedAt env (Page.parse html) location → l.document? env (l.pageFor location) = none →
    Leaves env l html location (Page.parse html)

theorem leaves_or_obstructed (env : Surroundings) (l : Loader) (html location : String) :
    (∃ page, l.Leaves env html location page) ∨ l.ObstructedAt env (Page.parse html) location := by
  by_cases hobstructed : l.ObstructedAt env (Page.parse html) location
  · exact .inr hobstructed
  · cases hdocument : l.document? env (l.pageFor location) with
    | none => exact .inl ⟨_, .unfilled hobstructed hdocument⟩
    | some v => exact .inl ⟨_, .filled hobstructed hdocument⟩

theorem Leaves.joined (h : l.Leaves env html location page) : page.Joined := by
  have hparse := Page.joined_parse html
  cases h with
  | filled => exact hparse.inject _
  | unfilled => exact hparse

end Loader

namespace Server

variable {env : Surroundings} {s : Server} {f : Path} {html target location path : String}
  {page : Page} {data : Text.Bytes}

theorem sendPage_of_leaves (hreload : s.config.reload.enabled = true)
    (h : s.loader.Leaves env html location page) :
    (sendPage env s f location html).response =
      .page (page.appendScript Assets.scriptAddress).render := by
  cases h with
  | filled hfree hdocument =>
    rw [sendPage, Loader.load_of_document hfree hdocument]
    dsimp only [finish]
    rw [if_pos hreload]
  | unfilled hfree hdocument =>
    rw [sendPage, Loader.load_of_no_document hfree hdocument]
    dsimp only [finish]
    rw [if_pos hreload, if_pos hreload]

theorem answer_head (env : Surroundings) (s : Server) (target : String) :
    (answer env s "HEAD" target).response = (answer env s "GET" target).response.withoutBody := by
  have hhead : Method.ofString? "HEAD" = some .head := rfl
  have hget : Method.ofString? "GET" = some .get := rfl
  unfold answer
  rw [hhead, hget]
  cases Target.ofString? target with
  | none => rfl
  | some t =>
    dsimp only
    unfold answerTarget
    cases route? s t <;> rfl

/-- In the markup of any page a script comes to stand in its place and changes nothing else. A page
of a site that loads itself again is sent as the page that the load leaves, which may be any page
that was read or filled in, with the script in its place; only an obstructed source prevents it. -/
theorem reload_adds_script :
    (∀ (page : Page) (src : String), page.Joined →
      Piece.join page.pieces = page.render ∧ Piece.starts page.pieces = page.elements ∧
        page.ScriptAdded src (page.appendScript src).render) ∧
    (∀ (env : Surroundings) (s : Server) (target location path : String) (f : Path),
      s.config.reload.enabled = true → ServesPage env s target location path f →
        (∃ data, env.files.read f = .ok data ∧ ∀ html, Markup.decodePage data = some html →
          (∃ page text, s.loader.Leaves env html location page ∧ page.Joined ∧
            page.ScriptAdded Assets.scriptAddress text ∧
            (answer env s "GET" target).response = .page text ∧
            (answer env s "HEAD" target).response = (Response.page text).withoutBody) ∨
          (s.loader.ObstructedAt env (Page.parse html) location ∧
            (answer env s "GET" target).response = .failed)) ∨
        (env.files.read f = .error (.system ⟨.denied, f.toString⟩) ∧
          (answer env s "GET" target).response = .failed)) := by
  refine ⟨fun page src hpage => ⟨page.join_pieces, hpage.starts_pieces, hpage.scriptAdded src⟩, ?_⟩
  intro env s target location path f hreload hserves
  rw [answer_head, hserves.answer_eq]
  rcases Files.World.read_of_isFile (Site.isFile_of_find hserves.find_eq) with
    ⟨data, hread⟩ | hread
  · refine .inl ⟨data, hread, fun html hhtml => ?_⟩
    rcases Loader.leaves_or_obstructed env s.loader html location with
      ⟨page, hleaves⟩ | hobstructed
    · have hpage := hleaves.joined
      have hsent : (sendSiteFile env s f location).response =
          .page (page.appendScript Assets.scriptAddress).render := by
        rw [sendSiteFile_of_text hserves.page hread hhtml, sendPage_of_leaves hreload hleaves]
      exact .inl ⟨page, _, hleaves, hpage, hpage.scriptAdded _, hsent, congrArg _ hsent⟩
    · exact .inr ⟨hobstructed, sendSiteFile_failed hserves.page hread hhtml hobstructed⟩
  · exact .inr ⟨hread, sendSiteFile_unread hserves.page hread⟩

/-! The page of a site that is loaded again when it changes -/

def wakefulServer : Server :=
  { config := .standard
    loader :=
      { source := .directory Config.standard.site.content
        routes := Config.standard.routes
        grace := Config.standard.content.grace }
    session := some { roots := [.absolute ["site"]] } }

theorem reload_adds_script_siteWithPage :
    ∃ (page : Page) (text : String), page.ScriptAdded Assets.scriptAddress text ∧
      Piece.starts page.pieces = page.elements ∧
      (answer Command.siteWithPage wakefulServer "GET" "/p.html").response = .page text := by
  have hserves : ServesPage Command.siteWithPage wakefulServer "/p.html" "/p.html" "p.html"
      (.absolute ["site", "p.html"]) :=
    ⟨⟨⟨"/p.html".toList, "/p.html"⟩, by decide +kernel, rfl, by decide +kernel⟩, by decide +kernel,
      by decide +kernel⟩
  have hresponse :
      (answer Command.siteWithPage wakefulServer "GET" "/p.html").response ≠ .failed := by
    decide +kernel
  have hhtml : Markup.decodePage (Text.encodeUtf8 "<p data-content=\"a\">x</p>") =
      some "<p data-content=\"a\">x</p>" := by decide +kernel
  have hstored : Command.siteWithPage.files.read (.absolute ["site", "p.html"]) =
      .ok (Text.encodeUtf8 "<p data-content=\"a\">x</p>") := by decide +kernel
  obtain ⟨hscript, hsent⟩ := reload_adds_script
  rcases hsent _ _ _ _ _ _ rfl hserves with ⟨data, hread, hanswer⟩ | ⟨_, hfailed⟩
  · obtain rfl := Except.ok.inj (hstored.symm.trans hread)
    rcases hanswer _ hhtml with ⟨page, text, _, hpage, hadded, hget, _⟩ | ⟨_, hfailed⟩
    · exact ⟨page, text, hadded, (hscript page "" hpage).2.1, hget⟩
    · exact absurd hfailed hresponse
  · exact absurd hfailed hresponse

end Server
end ContentBinding
