import ContentBinding.Proofs.Server.Serving

/-! Which documents a server gives out by their names. A name is read from the path of a request and
let through if it is made of letters, digits, low lines and hyphens, or of these and one line's end;
then it names a file that stands directly in the directory of documents. -/

namespace ContentBinding

open Files (Path World)

/-! Names in escaped paths -/

namespace Url

theorem protect_of_not_mem {d : Decoded} (h : '%' ∉ protect d) : protect d = [d.char] := by
  by_cases hslash : (d.isEscaped && d.char = '/') = true
  · rw [protect, if_pos hslash] at h
    exact absurd List.mem_cons_self h
  by_cases hpercent : (d.isEscaped && d.char = '%') = true
  · rw [protect, if_neg hslash, if_pos hpercent] at h
    exact absurd List.mem_cons_self h
  · rw [protect, if_neg hslash, if_neg hpercent]

theorem flatMap_protect_of_not_mem {ds : List Decoded} (h : '%' ∉ ds.flatMap protect) :
    ds.flatMap protect = ds.map Decoded.char := by
  induction ds with
  | nil => rfl
  | cons d ds ih =>
    rw [List.flatMap_cons, List.mem_append, not_or] at h
    rw [List.flatMap_cons, protect_of_not_mem h.1, ih h.2]
    rfl

theorem not_mem_of_unprotect {cs : List Char} (hslash : '/' ∉ unprotect cs)
    (hpercent : '%' ∉ unprotect cs) : '%' ∉ cs ∧ unprotect cs = cs := by
  unfold unprotect at hslash hpercent ⊢
  induction cs with
  | nil => exact ⟨List.not_mem_nil, rfl⟩
  | cons c rest ih =>
    rw [unprotectFrom] at hslash hpercent ⊢
    split at hslash
    · exact absurd List.mem_cons_self hslash
    next hnot =>
    rw [if_neg hnot] at hpercent ⊢
    split at hslash
    · next hsign =>
      rw [if_pos hsign] at hpercent
      exact absurd List.mem_cons_self hpercent
    next hnot' =>
    rw [if_neg hnot'] at hpercent ⊢
    rw [List.mem_cons, not_or] at hslash hpercent
    obtain ⟨hrest, heq⟩ := ih hslash.2 hpercent.2
    exact ⟨by simp [hpercent.1, hrest], by rw [heq]⟩

end Url

namespace Server

variable {env : Surroundings} {s : Server} {w : World} {dir : Path} {page name target : String}
  {t : Target} {cs rest : List Char}

namespace Route

theorem after?_eq_some_iff {start : String} :
    after? start cs = some rest ↔ cs = start.toList ++ rest := by
  have hlength : start.length = start.toList.length := String.length_toList.symm
  unfold after?
  rw [hlength]
  constructor
  · intro h
    split at h
    · next hstart =>
      obtain ⟨rest', rfl⟩ := List.isPrefixOf_iff_prefix.mp hstart
      rw [List.drop_left, Option.some.injEq] at h
      rw [h]
    · exact absurd h nofun
  · rintro rfl
    rw [if_pos (List.isPrefixOf_iff_prefix.mpr (List.prefix_append _ _)), List.drop_left]

theorem before?_eq_some_iff {stop : String} :
    before? stop cs = some rest ↔ cs = rest ++ stop.toList := by
  unfold before?
  rw [Option.map_eq_some_iff]
  constructor
  · rintro ⟨back, hback, rfl⟩
    have hcs := after?_eq_some_iff.mp hback
    rw [String.toList_ofList] at hcs
    rw [← List.reverse_reverse cs, hcs, List.reverse_append, List.reverse_reverse]
  · rintro rfl
    refine ⟨rest.reverse, after?_eq_some_iff.mpr ?_, List.reverse_reverse rest⟩
    rw [String.toList_ofList, List.reverse_append]

/-- The name of a document stands between the beginning and the end of the path. -/
theorem exists_of_document? (h : document? cs = some page) :
    ∃ name, cs = documentStart.toList ++ name ++ documentSuffix.toList ∧
      page = String.ofList (Url.unprotect name) := by
  unfold document? at h
  split at h
  · next name hname =>
    obtain ⟨rest, hstart, hstop⟩ := Option.bind_eq_some_iff.mp hname
    rw [after?_eq_some_iff.mp hstart, before?_eq_some_iff.mp hstop]
    split at h
    · exact ⟨name, by rw [List.append_assoc], (Option.some.inj h).symm⟩
    · exact absurd h nofun
  · exact absurd h nofun

theorem document?_of_ofPath? {reload : Bool} (h : ofPath? reload cs = some (.document page)) :
    document? cs = some page := by
  unfold ofPath? at h
  split at h
  · next heq =>
    obtain rfl := Route.document.inj (Option.some.inj h)
    exact heq
  · split at h
    · exact absurd h nofun
    · split at h
      · exact absurd h nofun
      · obtain ⟨p, -, heq⟩ := Option.map_eq_some_iff.mp h
        exact absurd heq nofun

end Route

/-! Names -/

def IsIdentifier (page : String) : Prop :=
  page ≠ "" ∧ ∀ c ∈ page.toList, isPlain c = true

def EndsLine (page : String) : Prop :=
  ∃ name, IsIdentifier name ∧ page = name ++ "\n"

theorem isIdentifier_iff : IsIdentifier page ↔
    (!page.toList.isEmpty && page.toList.all isPlain) = true := by
  simp [IsIdentifier]

theorem not_isIdentifier_of_endsLine (h : EndsLine page) : ¬ IsIdentifier page := by
  obtain ⟨name, -, rfl⟩ := h
  intro hplain
  exact absurd (hplain.2 '\n' (by simp)) (by decide)

theorem isPlainName_iff : isPlainName page = true ↔ IsIdentifier page ∨ EndsLine page := by
  unfold isPlainName
  dsimp only
  split
  · next hline =>
    -- `$` lets one line end pass, and then the rest has to be the identifier
    have hpage : page = String.ofList page.toList.dropLast ++ "\n" := by
      rw [← String.toList_inj, String.toList_append, String.toList_ofList]
      exact (List.dropLast_append_getLast? _ hline).symm
    have hends : EndsLine page ↔ IsIdentifier (String.ofList page.toList.dropLast) := by
      constructor
      · rintro ⟨name, hname, heq⟩
        rw [heq]
        simpa using hname
      · exact fun hname => ⟨_, hname, hpage⟩
    have hnot : ¬ IsIdentifier page := by
      intro hplain
      exact absurd (hplain.2 '\n' (List.mem_of_getLast? hline)) (by decide)
    rw [or_iff_right hnot, hends, isIdentifier_iff, String.toList_ofList]
  · next hline =>
    have hnot : ¬ EndsLine page := by
      rintro ⟨name, -, rfl⟩
      exact hline (by simp)
    rw [or_iff_left hnot, isIdentifier_iff]

theorem isPlain_or_line_of_isPlainName (h : isPlainName page = true) {c : Char}
    (hc : c ∈ page.toList) : isPlain c = true ∨ c = '\n' := by
  rcases isPlainName_iff.mp h with hplain | ⟨name, hname, rfl⟩
  · exact .inl (hplain.2 c hc)
  · rw [String.toList_append, List.mem_append] at hc
    rcases hc with hc | hc
    · exact .inl (hname.2 c hc)
    · exact .inr (by simpa using hc)

theorem not_mem_of_isPlainName (h : isPlainName page = true) {c : Char} (hplain : isPlain c = false)
    (hline : c ≠ '\n') : c ∉ page.toList := by
  intro hc
  rcases isPlain_or_line_of_isPlainName h hc with hc | rfl
  · exact Bool.false_ne_true (hplain.symm.trans hc)
  · exact hline rfl

theorem location_of_document (htarget : Target.ofString? target = some t)
    (hroute : s.route? t = some (.document page)) (hplain : isPlainName page = true) :
    t.location = "/content/" ++ page ++ ".json" := by
  obtain ⟨raw, rfl⟩ := Target.exists_ofPath htarget
  obtain ⟨name, hpath, rfl⟩ := Route.exists_of_document? (Route.document?_of_ofPath? hroute)
  have hslash := not_mem_of_isPlainName hplain (c := '/') (by decide) (by decide)
  have hpercent := not_mem_of_isPlainName hplain (c := '%') (by decide) (by decide)
  rw [String.toList_ofList] at hslash hpercent
  obtain ⟨hname, heq⟩ := Url.not_mem_of_unprotect hslash hpercent
  have hnone : '%' ∉ (Target.ofPath raw).path := by
    rw [hpath, List.mem_append, List.mem_append]
    rintro ((hstart | hmem) | hsuffix)
    · exact absurd hstart (by decide)
    · exact hname hmem
    · exact absurd hsuffix (by decide)
  have hlocation : (Target.ofPath raw).location = String.ofList (Target.ofPath raw).path :=
    congrArg String.ofList (Url.flatMap_protect_of_not_mem hnone).symm
  rw [hlocation, hpath, heq, String.ofList_append, String.ofList_append]
  rfl

/-! Files -/

def documentFile (dir : Path) (page : String) : Path :=
  dir.child (page ++ ".json")

def documentResponse (page : String) (content : Text.Bytes) : Response :=
  { Response.file (page ++ ".json") content with cacheControl := some Response.neverStored }

theorem documentPath_eq (hplain : isPlainName page = true) :
    Source.documentPath dir page = documentFile dir page := by
  have hpart : Files.IsPart (page ++ ".json") := by
    have hletter : 'j' ∈ (page ++ ".json").toList := by
      rw [String.toList_append]
      exact List.mem_append_right _ (by decide)
    refine ⟨fun h => ?_, fun h => ?_, ?_⟩
    · exact absurd (h ▸ hletter) (by decide)
    · exact absurd (h ▸ hletter) (by decide)
    · rw [String.toList_append, List.mem_append, not_or]
      exact ⟨not_mem_of_isPlainName hplain (by decide) (by decide), by decide⟩
  have hone : Path.ofString (page ++ ".json") = ⟨.here, [page ++ ".json"]⟩ := by
    have hparts : Files.AreParts [page ++ ".json"] := List.forall_mem_singleton.mpr hpart
    have hread := Files.Path.ofString_intercalate hparts (by simp)
    simpa using hread
  rw [Source.documentPath, hone]
  rfl

def HasDocument (w : World) (dir : Path) (page : String) : Prop :=
  w.isFile (documentFile dir page) = .ok true

def IsReadable (w : World) (dir : Path) (page : String) : Prop :=
  ∃ content, w.read (documentFile dir page) = .ok content

/-- What becomes of a request for a document by its name. -/
structure SendsDocument (w : World) (dir : Path) (page : String) (r : Response) : Prop where
  /-- A name is let through if it is an identifier, or one with a line's end behind it. -/
  sent_iff : (∃ content, r = documentResponse page content) ↔
    (IsIdentifier page ∨ EndsLine page) ∧ HasDocument w dir page ∧ IsReadable w dir page
  /-- What is sent is the content of the very file. -/
  content : ∀ content, r = documentResponse page content →
    w.read (documentFile dir page) = .ok content
  refused : ¬ IsIdentifier page → ¬ EndsLine page → r = .notFound
  forbidden : IsIdentifier page ∨ EndsLine page → HasDocument w dir page →
    ¬ IsReadable w dir page → r.status = 403
  missing : w.isFile (documentFile dir page) = .ok false → r = .notFound
  /-- Looking for the file fails, as it does for a name that is too long. -/
  failed : IsIdentifier page ∨ EndsLine page → ∀ e,
    w.isFile (documentFile dir page) = .error e → r = .failed

theorem sendDocument_of_not_plain (h : ¬ isPlainName page = true) :
    sendDocument w dir page = .notFound := by
  rw [sendDocument, if_neg h]

theorem sendDocument_of_file {content : Text.Bytes} (hplain : isPlainName page = true)
    (hfile : w.isFile (documentFile dir page) = .ok true)
    (hread : w.read (documentFile dir page) = .ok content) :
    sendDocument w dir page = documentResponse page content := by
  have hname : (documentFile dir page).name = page ++ ".json" := by
    rw [documentFile, Path.child, Path.name, List.getLast?_concat, Option.getD_some]
  rw [sendDocument, if_pos hplain, documentPath_eq hplain]
  dsimp only
  rw [hfile, sendFile, hread]
  dsimp only
  rw [hname, documentResponse]

theorem sendDocument_of_denied (hplain : isPlainName page = true) (hfile : HasDocument w dir page)
    (hread : ¬ IsReadable w dir page) : (sendDocument w dir page).status = 403 := by
  have hdenied := (World.read_of_isFile hfile).resolve_left hread
  rw [sendDocument, if_pos hplain, documentPath_eq hplain]
  dsimp only
  rw [hfile, sendFile, hdenied]

theorem sendDocument_of_no_file (hfile : w.isFile (documentFile dir page) = .ok false) :
    sendDocument w dir page = .notFound := by
  by_cases hplain : isPlainName page = true
  · rw [sendDocument, if_pos hplain, documentPath_eq hplain]
    dsimp only
    rw [hfile]
  · exact sendDocument_of_not_plain hplain

theorem sendDocument_of_error {e : Files.PathError} (hplain : isPlainName page = true)
    (hfile : w.isFile (documentFile dir page) = .error e) :
    sendDocument w dir page = .failed := by
  rw [sendDocument, if_pos hplain, documentPath_eq hplain]
  dsimp only
  rw [hfile]

theorem documentResponse_ne {content : Text.Bytes} {r : Response} (h : r.status ≠ 200) :
    r ≠ documentResponse page content := by
  rintro rfl
  exact h rfl

theorem sendsDocument (w : World) (dir : Path) (page : String) :
    SendsDocument w dir page (sendDocument w dir page) := by
  -- the answer of a document comes from one branch alone, which stands behind both guards
  have hsent : (∃ content, sendDocument w dir page = documentResponse page content) →
      isPlainName page = true ∧ HasDocument w dir page ∧ IsReadable w dir page := by
    rintro ⟨content, h⟩
    by_cases hplain : isPlainName page = true
    · refine ⟨hplain, ?_⟩
      cases hfile : w.isFile (documentFile dir page) with
      | error e =>
        rw [sendDocument_of_error hplain hfile] at h
        exact absurd h (documentResponse_ne (by decide))
      | ok found =>
        cases found with
        | true =>
          refine ⟨hfile, Classical.byContradiction fun hread => ?_⟩
          refine absurd h (documentResponse_ne ?_)
          rw [sendDocument_of_denied hplain hfile hread]
          decide
        | false =>
          rw [sendDocument_of_no_file hfile] at h
          exact absurd h (documentResponse_ne (by decide))
    · rw [sendDocument_of_not_plain hplain] at h
      exact absurd h (documentResponse_ne (by decide))
  have hread : isPlainName page = true ∧ HasDocument w dir page ∧ IsReadable w dir page →
      ∃ content, w.read (documentFile dir page) = .ok content ∧
        sendDocument w dir page = documentResponse page content := by
    rintro ⟨hplain, hfile, content, hcontent⟩
    exact ⟨content, hcontent, sendDocument_of_file hplain hfile hcontent⟩
  constructor
  · rw [← isPlainName_iff]
    refine ⟨hsent, fun h => ?_⟩
    obtain ⟨content, -, h⟩ := hread h
    exact ⟨content, h⟩
  · intro content h
    obtain ⟨content', hcontent, h'⟩ := hread (hsent ⟨content, h⟩)
    have hbody : content = content' := congrArg Response.body (h.symm.trans h')
    rw [hcontent, hbody]
  · intro hidentifier hline
    exact sendDocument_of_not_plain fun hplain => (isPlainName_iff.mp hplain).elim hidentifier hline
  · exact fun hname => sendDocument_of_denied (isPlainName_iff.mpr hname)
  · exact sendDocument_of_no_file
  · exact fun hname e hfile => sendDocument_of_error (isPlainName_iff.mpr hname) hfile

/-! Requests -/

theorem answer_document (env : Surroundings) (htarget : Target.ofString? target = some t)
    (hroute : s.route? t = some (.document page)) :
    answer env s "GET" target = ⟨s, sendDocument env.files s.config.site.content page, [], []⟩ ∧
      answer env s "HEAD" target =
        ⟨s, (sendDocument env.files s.config.site.content page).withoutBody, [], []⟩ := by
  have hget : Method.ofString? "GET" = some .get := if_pos rfl
  have hhead : Method.ofString? "HEAD" = some .head := (if_neg (by decide)).trans (if_pos rfl)
  have hanswer : ∀ m : Method, m ≠ .other → answerTarget env s m t =
      ⟨s, sendDocument env.files s.config.site.content page, [], []⟩ := by
    intro m hm
    unfold answerTarget
    rw [hroute]
    cases m with
    | other => exact absurd rfl hm
    | get | head => rfl
  unfold answer
  rw [hget, hhead, htarget]
  dsimp only
  rw [hanswer .get nofun, hanswer .head nofun]
  exact ⟨rfl, rfl⟩

/-- What a request for the document of that name is answered with. -/
structure AnswersDocument (env : Surroundings) (s : Server) (target : String) (t : Target)
    (page : String) : Prop where
  sends : SendsDocument env.files s.config.site.content page (answer env s "GET" target).response
  head : (answer env s "HEAD" target).response = (answer env s "GET" target).response.withoutBody
  /-- The name that is let through is the one in the decoded path. -/
  location : IsIdentifier page ∨ EndsLine page → t.location = "/content/" ++ page ++ ".json"
  /-- Identifiers that have a file are sent, and nothing else, unless there is a file for a name with
  a line's end, or one for an identifier that must not be read. -/
  identifiers_iff : ((∃ content, (answer env s "GET" target).response =
        documentResponse page content) ↔
      IsIdentifier page ∧ HasDocument env.files s.config.site.content page) ↔
    ¬ (EndsLine page ∧ HasDocument env.files s.config.site.content page ∧
        IsReadable env.files s.config.site.content page) ∧
      ¬ (IsIdentifier page ∧ HasDocument env.files s.config.site.content page ∧
        ¬ IsReadable env.files s.config.site.content page)

/-- Whatever files there are, a document is sent for an identifier that has a file, and for one with
a line's end behind it that has one, unless that must not be read; every other name is not found. -/
theorem document_sent_iff (env : Surroundings) (htarget : Target.ofString? target = some t)
    (hroute : s.route? t = some (.document page)) : AnswersDocument env s target t page := by
  obtain ⟨hget, hhead⟩ := answer_document env htarget hroute
  have hsends := sendsDocument env.files s.config.site.content page
  constructor
  · rw [hget]
    exact hsends
  · rw [hget, hhead]
  · exact fun hname => location_of_document htarget hroute (isPlainName_iff.mpr hname)
  · rw [hget, hsends.sent_iff]
    constructor
    · intro h
      refine ⟨?_, ?_⟩
      · rintro ⟨hline, hfile, hread⟩
        exact not_isIdentifier_of_endsLine hline (h.mp ⟨.inr hline, hfile, hread⟩).1
      · rintro ⟨hname, hfile, hdenied⟩
        exact hdenied (h.mpr ⟨hname, hfile⟩).2.2
    · rintro ⟨hline, hdenied⟩
      constructor
      · rintro ⟨hname, hfile, hread⟩
        exact ⟨hname.resolve_right fun hends => hline ⟨hends, hfile, hread⟩, hfile⟩
      · rintro ⟨hname, hfile⟩
        exact ⟨.inl hname, hfile, Classical.byContradiction fun hread =>
          hdenied ⟨hname, hfile, hread⟩⟩

/-! A file whose name breaks a line -/

def brokenNames : Surroundings :=
  { files := { entries := [(["site"], .directory), (["site", "content"], .directory),
      (["site", "content", "home.json"], .file (Text.encodeUtf8 "1")),
      (["site", "content", "home\n.json"], .file (Text.encodeUtf8 "2"))] }
    network := fun _ => .failed ⟨"ConnectError", ""⟩
    clock := .finite ⟨false, 0, 0⟩ }

/-- The name is read from its escapes, and the file of that name is sent. -/
theorem document_sent_iff_escaped :
    Target.ofString? "/content/h%6Fme.json" =
      some ⟨"/content/home.json".toList, "/content/home.json"⟩ ∧
    quietServer.route? ⟨"/content/home.json".toList, "/content/home.json"⟩ =
      some (.document "home") ∧
    ∃ content, (answer brokenNames quietServer "GET" "/content/h%6Fme.json").response =
      documentResponse "home" content := by
  have htarget : Target.ofString? "/content/h%6Fme.json" =
      some ⟨"/content/home.json".toList, "/content/home.json"⟩ := by decide +kernel
  have hroute : quietServer.route? ⟨"/content/home.json".toList, "/content/home.json"⟩ =
      some (.document "home") := by decide +kernel
  have hfile : brokenNames.files.isFile
      (documentFile quietServer.config.site.content "home") = .ok true := by decide +kernel
  have hanswers := document_sent_iff brokenNames htarget hroute
  have hread : IsReadable brokenNames.files quietServer.config.site.content "home" :=
    ⟨Text.encodeUtf8 "1", by decide +kernel⟩
  exact ⟨htarget, hroute,
    hanswers.sends.sent_iff.mpr ⟨.inl (isIdentifier_iff.mpr rfl), hfile, hread⟩⟩

/-- A name with a line's end behind it is no identifier, and the file of that name is sent. -/
theorem line_end_sent :
    (∃ t, Target.ofString? "/content/home%0A.json" = some t ∧
      quietServer.route? t = some (.document "home\n")) ∧
    ¬ IsIdentifier "home\n" ∧
    (answer brokenNames quietServer "GET" "/content/home%0A.json").response =
      documentResponse "home\n" (Text.encodeUtf8 "2") := by
  refine ⟨⟨⟨"/content/home\n.json".toList, "/content/home\n.json"⟩, ?_, ?_⟩, ?_, ?_⟩
  · decide +kernel
  · decide +kernel
  · exact not_isIdentifier_of_endsLine ⟨"home", isIdentifier_iff.mpr rfl, rfl⟩
  · decide +kernel

end Server
end ContentBinding
