import Mathlib
import ContentBinding.Proofs.Url.Joining
import ContentBinding.Proofs.Url.Ordinary
import ContentBinding.Source.Fetch

/-! Where the documents of a source on the web are. A content path of names leads below the base
address; an empty one leaves a slash at the front of the reference, and so leads below the root. -/

namespace ContentBinding

variable {r : Remote} {segments : List String} {page word : String} {cs : List Char}

def IsWord (word : String) : Prop :=
  word ≠ "" ∧ ∀ c ∈ word.toList, c.isAlphanum = true ∨ c = '-' ∨ c = '_'

namespace Remote

def slashes (n : Nat) : String :=
  String.ofList (List.replicate n '/')

/-- A source at an address of the web that ends in a slash, with a content path of words. -/
structure IsLocated (r : Remote) (segments : List String) : Prop where
  read : ∃ s, Url.parse s = .ok r.base
  web : r.base.IsWeb
  slash : r.base.path.toList.getLast? = some '/'
  words : ∀ segment ∈ segments, IsWord segment
  content : ∃ m n, r.contentPath = slashes m ++ "/".intercalate segments ++ slashes n

/-- What follows the base in the address of a document. -/
def below (segments : List String) (page : String) : String :=
  "/".intercalate segments ++ (if segments.isEmpty then "" else "/") ++ page ++ ".json"

/-- The address that is named and asked is the base with more behind its path. -/
structure StaysBelow (r : Remote) (segments : List String) (page : String) : Prop where
  document : r.documentUrl page = .ok (r.base.extend (below segments page))
  described : (Source.remote r).describe page = .ok (r.base.toString ++ below segments page)
  requested : ∀ env, ((Source.remote r).fetch env page).requests =
    match timestamp env.clock with
    | .ok time => [⟨r.base.extend (below segments page), time⟩]
    | .error _ => []

theorem IsLocated.path_ne (h : IsLocated r segments) : r.base.path ≠ "" :=
  Url.path_ne_of_getLast? h.slash

/-! Words -/

theorem plain_of_word {c : Char} (h : c.isAlphanum = true ∨ c = '-' ∨ c = '_') :
    Url.pathSafe c = true ∧ c ∉ ['/', ':', ';', '.'] := by
  have hlt : c.toNat < 128 := by
    rcases h with h | rfl | rfl
    · have hranges := Url.toNat_of_isAlphanum h
      omega
    · decide
    · decide
  exact Url.forall_ascii (P := fun c => (c.isAlphanum = true ∨ c = '-' ∨ c = '_') →
    Url.pathSafe c = true ∧ c ∉ ['/', ':', ';', '.']) (by decide +kernel) hlt h

theorem isName_of_word (h : IsWord word) : Url.IsName word.toList := by
  have hplain := fun c hc => plain_of_word (h.2 c hc)
  refine ⟨fun hnil => h.1 (String.toList_eq_nil_iff.mp hnil), ?_, fun c hc => ?_⟩
  · rw [Url.isDots, Bool.or_eq_false_iff, decide_eq_false_iff_not, decide_eq_false_iff_not]
    have hpoint : '.' ∉ word.toList := fun hmem => (hplain '.' hmem).2 (by decide)
    exact ⟨fun heq => hpoint (heq ▸ List.mem_cons_self),
      fun heq => hpoint (heq ▸ List.mem_cons_self)⟩
  · obtain ⟨hsafe, hmarks⟩ := hplain c hc
    exact ⟨hsafe, fun hmem => hmarks (List.mem_append_left ['.'] hmem)⟩

theorem isName_document (h : IsWord page) : Url.IsName (page ++ ".json").toList := by
  have hname := isName_of_word h
  have hsuffix : ".json".toList = ['.', 'j', 's', 'o', 'n'] := rfl
  have hextension : ∀ c ∈ ['.', 'j', 's', 'o', 'n'],
      Url.pathSafe c = true ∧ c ∉ ['/', ':', ';'] := by
    simp [Url.pathSafe, Url.querySafe, Url.isGraphic]
  rw [String.toList_append, hsuffix]
  refine ⟨by simp, ?_, fun c hc => ?_⟩
  · rw [Url.isDots, Bool.or_eq_false_iff, decide_eq_false_iff_not, decide_eq_false_iff_not]
    constructor
    · intro heq
      simpa using congrArg List.length heq
    · intro heq
      simpa using congrArg List.length heq
  · rcases List.mem_append.mp hc with hc | hc
    · exact hname.plain c hc
    · exact hextension c hc

/-! The reference -/

theorem trimSlashes_of_ends (m n : Nat) (hfirst : cs.head? ≠ some '/')
    (hlast : cs.getLast? ≠ some '/') :
    trimSlashes (slashes m ++ String.ofList cs ++ slashes n) = String.ofList cs := by
  have hmarks : ∀ k, ∀ c ∈ List.replicate k '/', decide (c = '/') = true := by
    intro k c hc
    exact decide_eq_true (List.eq_of_mem_replicate hc)
  have hlist : (slashes m ++ String.ofList cs ++ slashes n).toList =
      List.replicate m '/' ++ (cs ++ List.replicate n '/') := by
    simp [slashes]
  unfold trimSlashes
  dsimp only
  rw [hlist, List.dropWhile_append_of_pos (hmarks m)]
  cases cs with
  | nil =>
    rw [List.nil_append, List.dropWhile_eq_nil_iff.mpr (hmarks n)]
    rfl
  | cons c cs =>
    have hc : c ≠ '/' := by simpa using hfirst
    rw [List.cons_append, List.dropWhile_cons_of_neg (by simpa using hc), ← List.cons_append,
      List.reverse_append, List.reverse_replicate, List.dropWhile_append_of_pos (hmarks n)]
    obtain ⟨d, back, hback⟩ := List.exists_cons_of_ne_nil (l := (c :: cs).reverse) (by simp)
    have hd : d ≠ '/' := by
      rw [← List.head?_reverse, hback] at hlast
      simpa using hlast
    rw [hback, List.dropWhile_cons_of_neg (by simpa using hd), ← hback, List.reverse_reverse]

def namesOf (segments : List String) (page : String) : List (List Char) :=
  segments.map String.toList ++ [(page ++ ".json").toList]

theorem namesOf_ne_nil : namesOf segments page ≠ [] :=
  List.append_ne_nil_of_right_ne_nil _ (List.cons_ne_nil _ _)

theorem isName_of_mem_namesOf (h : ∀ segment ∈ segments, IsWord segment) (hpage : IsWord page) :
    ∀ p ∈ namesOf segments page, Url.IsName p := by
  refine List.forall_mem_append.mpr ⟨List.forall_mem_map.mpr fun segment hsegment => ?_,
    List.forall_mem_singleton.mpr (isName_document hpage)⟩
  exact isName_of_word (h segment hsegment)

theorem below_eq (segments : List String) (page : String) :
    below segments page = String.ofList (['/'].intercalate (namesOf segments page)) := by
  have hslash : "/".toList = ['/'] := rfl
  rw [← String.toList_inj, String.toList_ofList, below, namesOf]
  cases segments with
  | nil => simp
  | cons segment segments =>
    rw [Text.intercalate_append (by simp) (List.cons_ne_nil _ _), List.intercalate_singleton]
    simp [String.toList_intercalate, hslash]

theorem trimSlashes_contentPath (h : IsLocated r segments) :
    trimSlashes r.contentPath = "/".intercalate segments := by
  obtain ⟨m, n, hcontent⟩ := h.content
  have hnames : ∀ p ∈ segments.map String.toList, Url.IsName p :=
    List.forall_mem_map.mpr fun segment hsegment => isName_of_word (h.words segment hsegment)
  have htext : "/".intercalate segments =
      String.ofList (['/'].intercalate (segments.map String.toList)) := by
    rw [← String.toList_inj, String.toList_intercalate]
    exact String.toList_ofList.symm
  rw [hcontent, htext]
  refine trimSlashes_of_ends m n ?_ (Url.getLast?_intercalate hnames)
  by_cases hnil : segments.map String.toList = []
  · rw [hnil]
    exact nofun
  · obtain ⟨c, rest, heq, hc⟩ := Url.exists_intercalate hnames hnil
    rw [heq]
    simpa using hc

theorem documentUrl_of_nil (h : IsLocated r []) (page : String) :
    r.documentUrl page =
      r.base.join (String.ofList (['/'].intercalate ([] :: namesOf [] page))) := by
  have hreference : trimSlashes r.contentPath ++ "/" ++ page ++ ".json" =
      String.ofList (['/'].intercalate ([] :: namesOf [] page)) := by
    rw [trimSlashes_contentPath h, Url.intercalate_nil_cons namesOf_ne_nil, ← String.toList_inj,
      String.toList_ofList]
    simp [namesOf]
  rw [documentUrl, hreference]

theorem documentUrl_of_ne_nil (h : IsLocated r segments) (hne : segments ≠ []) (page : String) :
    r.documentUrl page =
      r.base.join (String.ofList (['/'].intercalate (namesOf segments page))) := by
  have hsegments : segments.isEmpty = false := by simp [hne]
  have hreference : trimSlashes r.contentPath ++ "/" ++ page ++ ".json" = below segments page := by
    rw [trimSlashes_contentPath h, below, hsegments]
    rfl
  rw [documentUrl, hreference, below_eq]

/-! The document -/

theorem document_of_nil_iff (h : IsLocated r []) (hpage : IsWord page) :
    r.documentUrl page = .ok (r.base.extend (below [] page)) ↔
      r.base.path = "/" ∧ r.base.IsFaithful ∧
        (r.base.toString ++ below [] page).length ≤ Url.maxLength := by
  obtain ⟨s, hread⟩ := h.read
  obtain ⟨-, hbase⟩ := Url.exists_of_parse_web hread h.web h.path_ne
  have hnames := isName_of_mem_namesOf h.words hpage
  have hne : namesOf [] page ≠ [] := namesOf_ne_nil
  have hsettled : Url.IsSettled (Url.joinedPath r.base.path.toList
      (['/'].intercalate ([] :: namesOf [] page))) := by
    rw [Url.joinedPath_of_rooted hnames hne]
    exact Url.isSettled_of_names hnames hne
  have hroot : r.base.path.toList = ['/'] ↔ r.base.path = "/" := by
    rw [← String.toList_inj]
    rfl
  have hshorter : (['/'].intercalate ([] :: namesOf [] page)).length ≤
      (r.base.path.toList ++ ['/'].intercalate (namesOf [] page)).length := by
    obtain ⟨rest, heq⟩ := List.head?_eq_some_iff.mp hbase.rooted
    rw [Url.intercalate_nil_cons hne, heq]
    simp
  rw [documentUrl_of_nil h, below_eq, Url.join_eq_ok_iff hread h.web h.slash
    (Url.isPathOnly_rooted hnames hne) hsettled hshorter, Url.joinedPath_rooted_iff hnames hne,
    hroot]

theorem document_of_ne_nil_iff (h : IsLocated r segments) (hsegments : segments ≠ [])
    (hpage : IsWord page) :
    r.documentUrl page = .ok (r.base.extend (below segments page)) ↔
      [] ∉ Url.inside r.base.path.toList ∧ r.base.IsFaithful ∧
        (r.base.toString ++ below segments page).length ≤ Url.maxLength := by
  obtain ⟨s, hread⟩ := h.read
  obtain ⟨-, hbase⟩ := Url.exists_of_parse_web hread h.web h.path_ne
  have hnames := isName_of_mem_namesOf h.words hpage
  have hne : namesOf segments page ≠ [] := namesOf_ne_nil
  have hsettled := Url.isSettled_joinedPath_names hbase h.slash hnames hne
  rw [documentUrl_of_ne_nil h hsegments, below_eq, Url.join_eq_ok_iff hread h.web h.slash
    (Url.isPathOnly_intercalate hnames hne) hsettled (by simp), Url.joinedPath_names_iff hbase h.slash hnames hne]

theorem document_eq_iff (h : IsLocated r segments) (hpage : IsWord page) :
    r.documentUrl page = .ok (r.base.extend (below segments page)) ↔
      (segments ≠ [] ∨ r.base.path = "/") ∧ [] ∉ Url.inside r.base.path.toList ∧
        r.base.IsFaithful ∧ (r.base.toString ++ below segments page).length ≤ Url.maxLength := by
  by_cases hsegments : segments = []
  · subst hsegments
    rw [document_of_nil_iff h hpage]
    constructor
    · rintro ⟨hpath, hrest⟩
      exact ⟨.inr hpath, by rw [hpath]; decide, hrest⟩
    · rintro ⟨hpath, -, hrest⟩
      exact ⟨hpath.resolve_left fun hnot => hnot rfl, hrest⟩
  · rw [document_of_ne_nil_iff h hsegments hpage]
    exact ⟨fun hrest => ⟨.inl hsegments, hrest⟩, fun hrest => hrest.2⟩

theorem requestUrl_extend {u : Url} (h : u.IsWeb) (more : String) :
    requestUrl (u.extend more) = u.extend more := by
  have hscheme : u.scheme ≠ "" := by rcases h.scheme with heq | heq <;> simp [heq]
  have habsolute : (u.extend more).isAbsolute = true := by
    simp [Url.extend, Url.isAbsolute, hscheme, h.host]
  have hquery : u.query = none := h.query
  have hfragment : u.fragment = none := h.fragment
  rw [requestUrl, if_pos habsolute, Url.extend, hquery, hfragment]

theorem staysBelow_of_document (h : IsLocated r segments)
    (hdocument : r.documentUrl page = .ok (r.base.extend (below segments page))) :
    StaysBelow r segments page := by
  refine ⟨hdocument, ?_, fun env => ?_⟩
  · simp only [Source.describe, hdocument, h.web.toString_extend]
  · simp only [Source.fetch, Source.fetchRemote, hdocument, requestUrl_extend h.web]
    cases timestamp env.clock with
    | error e => rfl
    | ok time =>
      simp only [Fetched.requests, List.filterMap_append, filterMap_takeClient]
      rfl

/-- At an ordinary address documents are below the base, from the first segment on. -/
theorem staysBelow_of_ordinary (h : IsLocated r segments) (hpage : IsWord page)
    (hordinary : r.base.IsOrdinary) (hsegments : segments ≠ [])
    (hinside : [] ∉ Url.inside r.base.path.toList)
    (hlength : (r.base.toString ++ below segments page).length ≤ Url.maxLength) :
    StaysBelow r segments page := by
  obtain ⟨s, hread⟩ := h.read
  have hfits : r.base.toString.length ≤ Url.maxLength := by
    rw [String.length_append] at hlength
    omega
  exact staysBelow_of_document h ((document_of_ne_nil_iff h hsegments hpage).mpr
    ⟨hinside, hordinary.isFaithful hread h.web h.path_ne hfits, hlength⟩)

/-- The document of a page is asked for below the base exactly if the content path names a segment
or the base is the root, no piece inside the base's path is empty, the base is what its text stands
for, and the address is not too long. -/
theorem document_below_iff (h : IsLocated r segments) (hpage : IsWord page) :
    StaysBelow r segments page ↔
      (segments ≠ [] ∨ r.base.path = "/") ∧ [] ∉ Url.inside r.base.path.toList ∧
        r.base.IsFaithful ∧ (r.base.toString ++ below segments page).length ≤ Url.maxLength := by
  rw [← document_eq_iff h hpage]
  exact ⟨StaysBelow.document, staysBelow_of_document h⟩

def atSite (contentPath : String) : Remote where
  base := { scheme := "http", host := "h", path := "/site/" }
  contentPath := contentPath

theorem isLocated_atSite {contentPath : String} (h : ∀ segment ∈ segments, IsWord segment)
    (hcontent : ∃ m n, contentPath = slashes m ++ "/".intercalate segments ++ slashes n) :
    IsLocated (atSite contentPath) segments := by
  have hread : Url.parse "http://h/site/" = .ok (atSite "").base := by decide +kernel
  exact ⟨⟨_, hread⟩, ⟨.inl rfl, by simp [atSite], rfl, rfl⟩, by simp [atSite], h, hcontent⟩

theorem document_below_iff_site : IsLocated (atSite "/content/") ["content"] ∧ IsWord "kitchen" ∧
    StaysBelow (atSite "/content/") ["content"] "kitchen" := by
  have hsegment : ∀ segment ∈ ["content"], IsWord segment := by simp [IsWord]
  have hlocated : IsLocated (atSite "/content/") ["content"] :=
    isLocated_atSite hsegment ⟨1, 1, by decide⟩
  have hpage : IsWord "kitchen" := by simp [IsWord]
  refine ⟨hlocated, hpage, (document_below_iff hlocated hpage).mpr ⟨.inl (by simp), ?_, ?_, ?_⟩⟩
  · decide
  · show Url.parse _ = .ok _
    decide +kernel
  · decide

/-- Without segments the document is beside the base and not below it. -/
theorem empty_path_leaves_base : IsLocated (atSite "") [] ∧ IsWord "kitchen" ∧
    (Source.remote (atSite "")).describe "kitchen" = .ok "http://h/kitchen.json" ∧
      ¬ StaysBelow (atSite "") [] "kitchen" := by
  have hlocated : IsLocated (atSite "") [] := isLocated_atSite nofun ⟨0, 0, by decide⟩
  have hpage : IsWord "kitchen" := by simp [IsWord]
  refine ⟨hlocated, hpage, by decide +kernel, fun hbelow => ?_⟩
  have hpath := ((document_eq_iff hlocated hpage).mp hbelow.document).1
  simp [atSite] at hpath

end Remote
end ContentBinding
