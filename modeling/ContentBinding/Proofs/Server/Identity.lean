import ContentBinding.Proofs.Binding.Targets
import ContentBinding.Proofs.Routes.Tables
import ContentBinding.Proofs.Server.Serving

/-! Which document belongs to the file that is served. The file is found by resolving the path of a
request, but the document by the last name in that path. Both agree where the path ends in the name
of the file, or in a slash behind the directory of an index. -/

namespace ContentBinding

open Files (Path World)

namespace Routes

variable {location name : String}

def entryName (location : String) : String :=
  if (fileName location).isEmpty then indexName else fileName location

def IsClear (location : String) : Prop :=
  '?' ∉ location.toList ∧ '#' ∉ location.toList

def lastName (location : String) : String :=
  String.ofList (afterLastSlash location.toList)

theorem pageFor_eq (r : Routes) (location : String) :
    r.pageFor location = r.lookup (entryName location) :=
  rfl

theorem forall_pageFor_eq_iff :
    (∀ r : Routes, r.pageFor location = r.lookup name) ↔ entryName location = name := by
  constructor
  · intro h
    by_contra hne
    have hbeq : (entryName location == name) = false := beq_eq_false_iff_ne.mpr hne
    have htable := h ⟨[(name, "")], " "⟩
    rw [pageFor_eq] at htable
    simp [lookup, List.lookup_cons, hbeq] at htable
  · rintro rfl r
    exact pageFor_eq r location

theorem IsClear.fileName_eq (h : IsClear location) : fileName location = lastName location := by
  rw [fileName, cut_of_not_mem h.1, cut_of_not_mem h.2, lastName]

theorem IsClear.entryName_of_name (h : IsClear location) (hname : lastName location ≠ "") :
    entryName location = lastName location := by
  have hne : (lastName location).isEmpty = false :=
    Bool.eq_false_iff.mpr fun hempty => hname (String.isEmpty_iff.mp hempty)
  rw [entryName, h.fileName_eq, hne, if_neg Bool.false_ne_true]

theorem IsClear.entryName_of_slash (h : IsClear location) (hslash : lastName location = "") :
    entryName location = indexName := by
  rw [entryName, h.fileName_eq, hslash]
  rfl

end Routes

/-! The last name of a path -/

namespace Files

theorem exists_splitOn_eq (cs : List Char) :
    ∃ pieces, Text.splitOn (· = '/') cs = pieces ++ [Routes.afterLastSlash cs] := by
  by_cases h : '/' ∈ cs
  · obtain ⟨u, v, rfl, hv⟩ := Routes.exists_lastSlash h
    rw [Text.splitOn_append_cut (by simp) u v, Text.splitOn_of_not_mem hv,
      Routes.afterLastSlash_slash u hv]
    exact ⟨_, rfl⟩
  · rw [Text.splitOn_of_not_mem h, Routes.afterLastSlash_of_not_mem h]
    exact ⟨[], rfl⟩

def IsName (name : String) : Prop :=
  name ≠ "" ∧ name ≠ "." ∧ name ≠ ".."

theorem exists_namesOf_eq {cs : List Char} (h : IsName (String.ofList (Routes.afterLastSlash cs))) :
    ∃ names, Path.namesOf cs = names ++ [String.ofList (Routes.afterLastSlash cs)] := by
  obtain ⟨pieces, hpieces⟩ := exists_splitOn_eq cs
  have hkept : (String.ofList (Routes.afterLastSlash cs) != "" &&
      String.ofList (Routes.afterLastSlash cs) != ".") = true := by
    rw [Bool.and_eq_true, bne_iff_ne, bne_iff_ne]
    exact ⟨h.1, h.2.1⟩
  rw [Path.namesOf, hpieces, List.map_append, List.filter_append, List.map_singleton,
    List.filter_singleton, hkept]
  exact ⟨_, rfl⟩

theorem namesOf_dropWhile (cs : List Char) :
    Path.namesOf (cs.dropWhile (· = '/')) = Path.namesOf cs := by
  induction cs with
  | nil => rfl
  | cons c cs ih =>
    by_cases hc : c = '/'
    · subst hc
      rw [List.dropWhile_cons_of_pos (by simp), ih]
      simp [Path.namesOf, Text.splitOn]
    · rw [List.dropWhile_cons_of_neg (by simpa using hc)]

theorem names_relativePath (path : String) :
    (Site.relativePath path).names = Path.namesOf path.toList := by
  rw [Site.relativePath, Path.ofString, String.toList_ofList, namesOf_dropWhile]

theorem isAbsolute_relativePath (path : String) : (Site.relativePath path).isAbsolute = false := by
  rw [Site.relativePath, Path.ofString, String.toList_ofList]
  cases h : path.toList.dropWhile (· = '/') with
  | nil => rfl
  | cons c cs =>
    have hc : c ≠ '/' := by
      have := List.head?_dropWhile_not (· = '/') path.toList
      rw [h] at this
      simpa using this
    unfold Path.isAbsolute Anchor.ofChars
    split <;> simp_all

namespace World

def Linkless (w : World) : Prop :=
  ∀ place target, w.entry? place ≠ some (.link target)

theorem entry?_of_descend {w : World} {followLast : Bool} {names dir found : List String}
    {target : String} (h : w.descend followLast dir names = .at found (.link target)) :
    w.entry? found = some (.link target) := by
  induction names generalizing dir with
  | nil =>
    rw [descend] at h
    obtain ⟨rfl, hentry⟩ := Arrival.at.inj h
    cases hat : w.entry? dir with
    | none =>
      rw [hat] at hentry
      cases hentry
    | some e =>
      rw [hat] at hentry
      exact congrArg some hentry
  | cons name rest ih =>
    rw [descend] at h
    by_cases hdenied : w.denies .search dir
    · rw [if_pos hdenied] at h
      cases h
    rw [if_neg hdenied] at h
    by_cases hname : name = ".."
    · rw [if_pos hname] at h
      exact ih h
    rw [if_neg hname] at h
    by_cases hlong : maxNameBytes < name.utf8ByteSize
    · rw [if_pos hlong] at h
      cases h
    rw [if_neg hlong] at h
    split at h
    · cases h
    · exact ih h
    · split at h
      · obtain ⟨-, hentry⟩ := Arrival.at.inj h
        cases hentry
      · cases h
    · next hat =>
      split at h
      · obtain ⟨rfl, hentry⟩ := Arrival.at.inj h
        rw [hat, hentry]
      · cases h

theorem linkAt?_of_linkless {w : World} (hlinks : w.Linkless) (p : Path) : w.linkAt? p = none := by
  have hfollow : ∀ links dir names found target,
      w.follow false links dir names ≠ .ok (found, .link target) := by
    intro links
    induction links with
    | zero =>
      intro dir names found target h
      rw [follow] at h
      split at h
      · next hat =>
        obtain ⟨rfl, rfl⟩ := Prod.mk.inj (Except.ok.inj h)
        exact hlinks _ _ (entry?_of_descend hat)
      · cases h
      · cases h
    | succ links ih =>
      intro dir names found target h
      rw [follow] at h
      split at h
      · next hat =>
        obtain ⟨rfl, rfl⟩ := Prod.mk.inj (Except.ok.inj h)
        exact hlinks _ _ (entry?_of_descend hat)
      · cases h
      · exact ih _ _ _ _ h
  unfold linkAt?
  split
  · next hreach =>
    unfold reach at hreach
    split at hreach
    · cases hreach
    · exact absurd hreach (hfollow _ _ _ _ _)
  · rfl

theorem foldl_resolveName_of_linkless {w : World} (hlinks : w.Linkless)
    (resolveTarget : List Path → Path → Path → Resolved) (opened : List Path) (names : List String) :
    ∀ dir, names.foldl (w.resolveName resolveTarget opened) ⟨.absolute dir, true⟩ =
      ⟨.absolute (names.foldl (fun out n => if n = ".." then out.dropLast else out ++ [n]) dir),
        true⟩ := by
  induction names with
  | nil => exact fun _ => rfl
  | cons name rest ih =>
    intro dir
    have hstep : w.resolveName resolveTarget opened ⟨.absolute dir, true⟩ name =
        ⟨.absolute (if name = ".." then dir.dropLast else dir ++ [name]), true⟩ := by
      unfold resolveName
      rw [if_neg (by simp)]
      split
      · rfl
      · rw [linkAt?_of_linkless hlinks]
        rfl
    rw [List.foldl_cons, List.foldl_cons, hstep, ih]

theorem ne_of_mem_collapse (names : List String) : ∀ name ∈ collapse names, name ≠ ".." := by
  refine List.foldlRecOn (motive := fun out => ∀ n ∈ out, n ≠ "..") names _
    (fun _ h => absurd h List.not_mem_nil) ?_
  intro out hout name _
  split
  · exact fun n hn => hout n (List.dropLast_subset _ hn)
  · next hname => exact List.forall_mem_append.mpr ⟨hout, List.forall_mem_singleton.mpr hname⟩

theorem names_of_resolve {w : World} {p q : Path} (hlinks : w.Linkless)
    (hp : p.isAbsolute = true) (h : w.resolve p = .ok q) : q.names = collapse p.names := by
  rw [eq_of_resolve h, resolveFrom, if_pos hp, foldl_resolveName_of_linkless hlinks]
  exact collapse_eq_self (ne_of_mem_collapse p.names)

theorem collapse_concat (names : List String) {name : String} (hname : name ≠ "..") :
    collapse (names ++ [name]) = collapse names ++ [name] := by
  rw [collapse, List.foldl_append]
  exact if_neg hname

end World
end Files

namespace Site

open Files (IsName)

variable {w : World} {root f base place : Path} {location path : String}

/-- A request path spells out the file that it leads to: it ends in the name of the file, or in a
slash behind the directory whose index the file is. -/
inductive Spells (w : World) (root : Path) (location path : String) : Prop
  | file {base place : Path} : Reaches w root path base place → w.isDirectory place = .ok false →
    IsName (Routes.lastName location) → Spells w root location path
  | index {base place : Path} : Reaches w root path base place → w.isDirectory place = .ok true →
    Routes.lastName location = "" → Spells w root location path

/-- A path below the root ends where the request path does. -/
theorem Reaches.name_eq (hlinks : w.Linkless) (h : Reaches w root path base place)
    (hname : IsName (String.ofList (Routes.afterLastSlash path.toList))) :
    place.name = String.ofList (Routes.afterLastSlash path.toList) := by
  obtain ⟨names, hnames⟩ := Files.exists_namesOf_eq hname
  have habsolute : base.isAbsolute = true := by
    rw [Path.isAbsolute, World.anchor_of_resolve h.root_eq]
    rfl
  have hjoin : base.join (relativePath path) =
      { base with names := base.names ++ names ++ [String.ofList (Routes.afterLastSlash path.toList)] } := by
    rw [Path.join, Files.isAbsolute_relativePath, if_neg Bool.false_ne_true, Files.names_relativePath,
      hnames, List.append_assoc]
  have hplace := h.place_eq
  rw [hjoin] at hplace
  have hcollapsed := World.names_of_resolve hlinks (by exact habsolute) hplace
  rw [Path.name, hcollapsed, World.collapse_concat _ hname.2.2, List.getLast?_concat,
    Option.getD_some]

theorem lastName_slash (path : String) :
    Routes.lastName ("/" ++ path) = String.ofList (Routes.afterLastSlash path.toList) := by
  have hlist : ("/" ++ path).toList = '/' :: path.toList := by simp
  rw [Routes.lastName, hlist]
  by_cases h : '/' ∈ path.toList
  · obtain ⟨u, v, hpath, hlast⟩ := Routes.exists_lastSlash h
    rw [hpath, ← List.cons_append, Routes.afterLastSlash_slash _ hlast,
      Routes.afterLastSlash_slash _ hlast]
  · rw [Routes.afterLastSlash_of_not_mem h]
    exact congrArg String.ofList (Routes.afterLastSlash_slash [] h)

theorem Spells.entryName_eq (hlinks : w.Linkless) (h : Spells w root location path)
    (hclear : Routes.IsClear location) (hsame : location = "/" ++ path)
    (hfind : find w root path = .ok (some f)) : Routes.entryName location = f.name := by
  obtain ⟨base, place, hreaches, hat⟩ := find_eq_some_iff.mp hfind
  have hunique : ∀ {base' place'}, Reaches w root path base' place' → place' = place := by
    rintro base' place' h'
    obtain rfl := Except.ok.inj (h'.root_eq.symm.trans hreaches.root_eq)
    exact Except.ok.inj (h'.place_eq.symm.trans hreaches.place_eq)
  have hcases := (fileAt_eq_some_iff.mp hat).1
  cases h with
  | file hreaches' hdirectory hname =>
    rw [hunique hreaches'] at hdirectory
    rw [hclear.entryName_of_name hname.1]
    rcases hcases with ⟨hdirectory', _⟩ | ⟨_, rfl⟩
    · exact absurd (hdirectory.symm.trans hdirectory') (by simp)
    · subst hsame
      rw [lastName_slash] at hname ⊢
      exact (hreaches.name_eq hlinks hname).symm
  | index hreaches' hdirectory hslash =>
    rw [hunique hreaches'] at hdirectory
    rw [hclear.entryName_of_slash hslash]
    rcases hcases with ⟨_, rfl⟩ | ⟨hdirectory', _⟩
    · rw [Path.name, Path.child, List.getLast?_concat]
      rfl
    · exact absurd (hdirectory.symm.trans hdirectory') (by simp)

end Site

namespace Server

variable {env : Surroundings} {c : Config} {s : Server} {f : Path} {target location path : String}

/-- A request for a page of the site: its path as the table sees it and as the files see it, and the
file that is found. -/
structure ServesPage (env : Surroundings) (s : Server) (target location path : String) (f : Path) :
    Prop where
  target_eq : ∃ t, Target.ofString? target = some t ∧ t.location = location ∧
    s.route? t = some (.site path)
  find_eq : Site.find env.files s.config.site.root path = .ok (some f)
  page : f.suffix = Site.pageSuffix

theorem ServesPage.answer_eq (h : ServesPage env s target location path f) :
    answer env s "GET" target = sendSiteFile env s f location := by
  obtain ⟨t, htarget, rfl, hroute⟩ := h.target_eq
  exact answer_get htarget hroute h.find_eq

/-- A page gets the document of its own name, whatever the table, exactly where its name is the one
that the request path gives to the table. That is so where the path spells out the file, and two
requests of that kind for one file get one document. -/
theorem document_of_file_iff (hs : Reached c s) (hlinks : env.files.Linkless)
    (h : ServesPage env s target location path f) :
    answer env s "GET" target = sendSiteFile env s f location ∧
    s.loader.pageFor location = c.routes.lookup (Routes.entryName location) ∧
    ((∀ routes : Routes, routes.pageFor location = routes.lookup f.name) ↔
      Routes.entryName location = f.name) ∧
    (Site.Spells env.files c.site.root location path → Routes.IsClear location →
      location = "/" ++ path → Routes.entryName location = f.name) ∧
    (Routes.entryName location = f.name → ∀ target' location' path',
      ServesPage env s target' location' path' f → Routes.entryName location' = f.name →
      s.loader.pageFor location' = s.loader.pageFor location) := by
  obtain ⟨rfl, l, hl, halike⟩ := hs.config_and_loader
  have hroutes : s.loader.routes = s.config.routes := by
    rw [halike.routes_eq]
    unfold Config.loader at hl
    cases hsource : s.config.source with
    | error e =>
      rw [hsource] at hl
      exact absurd hl nofun
    | ok source =>
      rw [hsource] at hl
      rw [← Except.ok.inj hl]
  have hpage : ∀ at_, s.loader.pageFor at_ = s.config.routes.lookup (Routes.entryName at_) := by
    intro at_
    rw [Loader.pageFor, hroutes, Routes.pageFor_eq]
  refine ⟨h.answer_eq, hpage location, Routes.forall_pageFor_eq_iff, ?_, ?_⟩
  · exact fun hspells hclear hsame => hspells.entryName_eq hlinks hclear hsame h.find_eq
  · intro hname _ location' _ _ hname'
    rw [hpage, hpage, hname, hname']

/-! A site with the index of a directory, which has a document of its own -/

def siteWithFolder : Surroundings :=
  { files := { entries := [(["site"], .directory), (["site", "rooms"], .directory),
      (["site", "rooms", "index.html"], .file (Text.encodeUtf8 "<p data-content=\"a\">x</p>"))] }
    network := fun _ => .failed ⟨"ConnectError", ""⟩
    clock := .finite ⟨false, 0, 0⟩ }

def folderConfig : Config :=
  { quietConfig with routes := Routes.standard.withPages [("index.html", "start")] }

def folderServer : Server :=
  { config := folderConfig
    loader :=
      { source := .directory folderConfig.site.content
        routes := folderConfig.routes
        grace := folderConfig.content.grace } }

def folderIndex : Path := .absolute ["site", "rooms", "index.html"]

theorem linkless_siteWithFolder : siteWithFolder.files.Linkless := by
  intro place target h
  cases place with
  | nil => exact absurd h nofun
  | cons name rest =>
    obtain ⟨before, after, heq, _⟩ := List.lookup_eq_some_iff.mp h
    have hmem : (name :: rest, Files.Entry.link target) ∈ siteWithFolder.files.entries := by
      rw [heq]
      simp
    simp [siteWithFolder] at hmem

theorem servesPage_folder : ServesPage siteWithFolder folderServer "/rooms/" "/rooms/" "rooms/"
    folderIndex :=
  ⟨⟨⟨"/rooms/".toList, "/rooms/"⟩, by decide +kernel, rfl, by decide +kernel⟩, by decide +kernel,
    by decide +kernel⟩

theorem document_of_file_iff_folder :
    create siteWithFolder.files folderConfig false = .ok folderServer ∧
    siteWithFolder.files.Linkless ∧
    ServesPage siteWithFolder folderServer "/rooms/" "/rooms/" "rooms/" folderIndex ∧
    folderServer.loader.pageFor "/rooms/" = folderConfig.routes.lookup folderIndex.name := by
  have hcreate : create siteWithFolder.files folderConfig false = .ok folderServer := rfl
  obtain ⟨_, hpage, _, hspells, _⟩ := document_of_file_iff (.created hcreate)
    linkless_siteWithFolder servesPage_folder
  have hreaches : Site.Reaches siteWithFolder.files folderConfig.site.root "rooms/"
      (.absolute ["site"]) (.absolute ["site", "rooms"]) :=
    ⟨by decide +kernel, by decide +kernel, by decide⟩
  have hname := hspells (.index hreaches (by decide +kernel) (by decide +kernel))
    ⟨by decide, by decide⟩ (by decide)
  exact ⟨hcreate, linkless_siteWithFolder, servesPage_folder, by rw [hpage, hname]⟩

/-- Without the slash the same file gets the document of a page that is not known. -/
theorem directory_page_without_slash :
    siteWithFolder.files.Linkless ∧
    ServesPage siteWithFolder folderServer "/rooms" "/rooms" "rooms" folderIndex ∧
    ServesPage siteWithFolder folderServer "/rooms/" "/rooms/" "rooms/" folderIndex ∧
    folderServer.loader.pageFor "/rooms" = "home" ∧
    folderServer.loader.pageFor "/rooms/" = "start" ∧
    folderConfig.routes.lookup folderIndex.name = "start" :=
  ⟨linkless_siteWithFolder,
    ⟨⟨⟨"/rooms".toList, "/rooms"⟩, by decide +kernel, rfl, by decide +kernel⟩, by decide +kernel,
      by decide +kernel⟩,
    servesPage_folder, by decide +kernel, by decide +kernel, by decide +kernel⟩

end Server
end ContentBinding
