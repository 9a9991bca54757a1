import Mathlib
import ContentBinding.Proofs.Url.Reading

/-! Following a path from an address of the web. A path from the root takes the place of the path
there; any other path is put behind the last slash of it, and the empty pieces between the first and
the last piece are lost. -/

namespace ContentBinding.Url

variable {u : Url} {scheme : String} {name base path piece ref : List Char}
  {pieces : List (List Char)}

/-! References -/

/-- A reference that is a path and nothing else. -/
structure IsPathOnly (ref : List Char) : Prop where
  safe : ∀ c ∈ ref, pathSafe c = true ∧ c ≠ ':' ∧ c ≠ ';'
  ne_nil : ref ≠ []
  single_slash : ¬ ['/', '/'] <+: ref

theorem takeScheme_of_not_mem (h : ':' ∉ ref) : takeScheme ref = ([], ref) := by
  have hrest : ':' ∉ ref.dropWhile fun c => !!isSchemeChar c :=
    fun hmem => h ((List.dropWhile_suffix _).subset hmem)
  unfold takeScheme spanUntil
  dsimp only
  split
  · next heq => exact absurd (heq ▸ List.mem_cons_self) hrest
  · next heq => exact absurd (heq ▸ List.mem_cons_self) hrest
  · rfl

theorem takeAuthority_of_path (h : ¬ ['/', '/'] <+: ref) : takeAuthority ref = ([], ref) := by
  unfold takeAuthority
  split
  · next rest => exact absurd (List.prefix_append ['/', '/'] rest) h
  · rfl

theorem takeParams_of_not_mem (h : ';' ∉ path.rtakeWhile (· != '/')) :
    takeParams path = (path, []) := by
  have hspan : spanUntil (· = ';') (path.rtakeWhile (· != '/')) =
      (path.rtakeWhile (· != '/'), []) :=
    spanUntil_of_forall fun c hc => decide_eq_false fun heq => h (heq ▸ hc)
  unfold takeParams
  rw [List.rtakeWhile] at hspan
  simp only [hspan]

theorem spanUntil_mark {mark : Char} (hmark : mark = '?' ∨ mark = '#')
    (h : ∀ c ∈ path, pathSafe c = true) : spanUntil (· = mark) path = (path, []) := by
  refine spanUntil_of_forall fun c hc => decide_eq_false ?_
  obtain ⟨hquestion, hhash⟩ := ne_of_pathSafe (h c hc)
  rcases hmark with rfl | rfl
  · exact hquestion
  · exact hhash

namespace IsPathOnly

theorem not_mem (h : IsPathOnly ref) : ':' ∉ ref ∧ ';' ∉ ref :=
  ⟨fun hc => (h.safe _ hc).2.1 rfl, fun hc => (h.safe _ hc).2.2 rfl⟩

theorem parse_eq (h : IsPathOnly ref) (hlength : ref.length ≤ maxLength) :
    parse (String.ofList ref) = .ok { path := String.ofList ref } := by
  have hsafe : ∀ c ∈ ref, pathSafe c = true := fun c hc => (h.safe c hc).1
  have hcontrol : ref.find? isControl = none := by
    refine List.find?_eq_none.mpr fun c hc => ?_
    simp [isControl_of_pathSafe (hsafe c hc)]
  have hcheck : checkPath ref false false = .ok () := by
    have hcolon : ref.head? ≠ some ':' := fun heq => h.not_mem.1 (List.mem_of_head? heq)
    have hslashes : List.isPrefixOf ['/', '/'] ref = false := by
      rw [Bool.eq_false_iff, ne_eq, List.isPrefixOf_iff_prefix]
      exact h.single_slash
    have hlist : "//".toList = ['/', '/'] := rfl
    simp [checkPath, hcolon, hslashes, hlist]
  unfold parse
  dsimp only
  rw [String.toList_ofList, if_neg (Nat.not_lt.mpr hlength), hcontrol,
    takeScheme_of_not_mem h.not_mem.1]
  dsimp only
  rw [takeAuthority_of_path h.single_slash]
  dsimp only
  rw [spanUntil_of_safe hsafe]
  refine ofParts_eq_ok_iff.mpr ⟨rfl, rfl, hcheck, rfl, rfl, ?_, rfl, rfl⟩
  exact (escape_of_safe hsafe).symm

theorem parts_eq (h : IsPathOnly ref) (default : List Char) :
    Parts.ofText (String.ofList ref) default = ⟨default, [], ref, [], [], []⟩ := by
  have hsafe : ∀ c ∈ ref, pathSafe c = true := fun c hc => (h.safe c hc).1
  have hwritten : writtenScheme ref = ([], ref) := by
    unfold writtenScheme
    split
    · rfl
    · exact takeScheme_of_not_mem h.not_mem.1
  have hparams : takeParams ref = (ref, []) := by
    refine takeParams_of_not_mem fun hc => h.not_mem.2 ?_
    exact (List.rtakeWhile_suffix _ _).subset hc
  unfold Parts.ofText
  dsimp only
  rw [String.toList_ofList, hwritten]
  dsimp only
  rw [takeAuthority_of_path h.single_slash]
  dsimp only
  rw [spanUntil_mark (.inr rfl) hsafe]
  dsimp only
  rw [spanUntil_mark (.inl rfl) hsafe]
  simp [hparams]

end IsPathOnly

/-! Addresses of the web -/

theorem parts_written (hscheme : scheme = "http" ∨ scheme = "https")
    (hname : ∀ a ∈ name, IsInner a) (hpath : IsSettled path) (hlast : path.getLast? = some '/') :
    Parts.ofText (String.ofList (written scheme name path)) [] =
      ⟨scheme.toList, name, path, [], [], []⟩ := by
  have hwritten : writtenScheme (written scheme name path) =
      (scheme.toList, '/' :: '/' :: (name ++ path)) := by
    rcases hscheme with rfl | rfl <;> rfl
  have hempty : scheme.toList.isEmpty = false := by rcases hscheme with rfl | rfl <;> rfl
  have hlower : scheme.toList.map Char.toLower = scheme.toList := by
    rcases hscheme with rfl | rfl <;> rfl
  have hparams : takeParams path = (path, []) := by
    obtain ⟨front, rfl⟩ := List.getLast?_eq_some_iff.mp hlast
    refine takeParams_of_not_mem ?_
    rw [List.rtakeWhile_concat_neg _ _ _ (by decide)]
    exact List.not_mem_nil
  unfold Parts.ofText
  dsimp only
  rw [String.toList_ofList, hwritten]
  simp only [hempty, hlower, takeAuthority_written hname hpath, hparams,
    spanUntil_mark (.inr rfl) hpath.safe, spanUntil_mark (.inl rfl) hpath.safe]
  simp

theorem text_parts (hscheme : scheme = "http" ∨ scheme = "https") (hname : name ≠ [])
    (hpath : path.head? = some '/') :
    Parts.text ⟨scheme.toList, name, path, [], [], []⟩ =
      String.ofList (written scheme name path) := by
  have hempty : scheme.toList ≠ [] := by
    rcases hscheme with rfl | rfl <;> exact List.cons_ne_nil _ _
  simp [Parts.text, after, written, hname, hpath, hempty]

theorem joinText_written (hscheme : scheme = "http" ∨ scheme = "https") (hne : name ≠ [])
    (hname : ∀ a ∈ name, IsInner a) (hbase : IsSettled base) (hlast : base.getLast? = some '/')
    (href : IsPathOnly ref) (hjoined : (joinedPath base ref).head? = some '/') :
    joinText (String.ofList (written scheme name base)) (String.ofList ref) =
      String.ofList (written scheme name (joinedPath base ref)) := by
  have hrelative : relativeSchemes.contains scheme = true := by
    rcases hscheme with rfl | rfl <;> rfl
  have hnetloc : authoritySchemes.contains scheme = true := by
    rcases hscheme with rfl | rfl <;> rfl
  have hwritten : (String.ofList (written scheme name base)).isEmpty = false := by
    simp [written]
  have hempty : (String.ofList ref).isEmpty = false := by simp [href.ne_nil]
  have hpath : ref.isEmpty = false := by simp [href.ne_nil]
  unfold joinText
  dsimp only
  rw [hwritten, hempty, parts_written hscheme hname hbase hlast, href.parts_eq]
  simp only [String.ofList_toList, hrelative, hnetloc, hpath, bne_self_eq_false, List.isEmpty_nil,
    Bool.not_true, Bool.or_false, Bool.and_false, Bool.false_and, Bool.false_eq_true, if_false,
    if_true]
  exact text_parts hscheme hne hjoined

/-! Pieces of paths -/

def inside (path : List Char) : List (List Char) :=
  ((Text.splitOn (· = '/') path).drop 1).dropLast

theorem splitOn_eq_inside (hrooted : base.head? = some '/') (hlast : base.getLast? = some '/') :
    Text.splitOn (· = '/') base = [] :: inside base ++ [[]] := by
  obtain ⟨rest, rfl⟩ := List.head?_eq_some_iff.mp hrooted
  have hsplit : Text.splitOn (· = '/') ('/' :: rest) = [] :: Text.splitOn (· = '/') rest := rfl
  have hrest : (Text.splitOn (· = '/') rest).getLast? = some [] := by
    rcases List.eq_nil_or_concat' rest with rfl | ⟨front, c, rfl⟩
    · rfl
    · obtain rfl : c = '/' := by simpa [List.getLast?_cons] using hlast
      rw [Text.splitOn_append_cut (by decide)]
      simp [Text.splitOn]
  rw [inside, hsplit, List.drop_one, List.tail_cons, List.cons_append,
    List.dropLast_append_getLast? _ hrest]

theorem mem_splitOn_of_mem_inside (h : piece ∈ inside base) :
    piece ∈ Text.splitOn (· = '/') base :=
  List.mem_of_mem_drop (List.mem_of_mem_dropLast h)

theorem not_mem_of_mem_inside (h : piece ∈ inside base) : '/' ∉ piece := by
  intro hslash
  simpa using Text.not_isCut_of_mem_splitOn (mem_splitOn_of_mem_inside h) '/' hslash

/-- A piece of a path in which no character means more than itself. -/
structure IsName (p : List Char) : Prop where
  ne_nil : p ≠ []
  not_dots : isDots p = false
  plain : ∀ c ∈ p, pathSafe c = true ∧ c ∉ ['/', ':', ';']

theorem IsName.not_mem (h : IsName path) : '/' ∉ path :=
  fun hc => (h.plain _ hc).2 List.mem_cons_self

theorem settlePiece_foldl {out : List (List Char)} (h : ∀ p ∈ pieces, isDots p = false) :
    pieces.foldl settlePiece out = out ++ pieces := by
  induction pieces generalizing out with
  | nil => rw [List.foldl_nil, List.append_nil]
  | cons p rest ih =>
    obtain ⟨hp, hrest⟩ := List.forall_mem_cons.mp h
    simp only [isDots, Bool.or_eq_false_iff, decide_eq_false_iff_not] at hp
    rw [List.foldl_cons, settlePiece, if_neg hp.2, if_neg hp.1, ih hrest, List.append_assoc,
      List.singleton_append]

theorem joinedPath_of_pieces (h : joinedPieces base ref = pieces)
    (hdots : ∀ p ∈ pieces, isDots p = false) (hne : ['/'].intercalate pieces ≠ []) :
    joinedPath base ref = ['/'].intercalate pieces := by
  have hlast : isDots (pieces.getLast?.getD []) = false := by
    cases heq : pieces.getLast? with
    | none => rfl
    | some p => exact hdots p (List.mem_of_getLast? heq)
  unfold joinedPath
  rw [h]
  dsimp only
  rw [hlast, if_neg Bool.false_ne_true, settlePiece_foldl hdots, List.nil_append, joinPieces_eq,
    if_neg (by simpa using hne)]

theorem intercalate_nil_cons (hne : pieces ≠ []) :
    ['/'].intercalate ([] :: pieces) = '/' :: ['/'].intercalate pieces := by
  obtain ⟨p, rest, rfl⟩ := List.exists_cons_of_ne_nil hne
  rw [List.intercalate_cons_cons]
  rfl

theorem exists_intercalate (h : ∀ p ∈ pieces, IsName p) (hne : pieces ≠ []) :
    ∃ c rest, ['/'].intercalate pieces = c :: rest ∧ c ≠ '/' := by
  obtain ⟨p, more, rfl⟩ := List.exists_cons_of_ne_nil hne
  have hp := h p List.mem_cons_self
  obtain ⟨c, cs, rfl⟩ := List.exists_cons_of_ne_nil hp.ne_nil
  have hc : c ≠ '/' := fun heq => hp.not_mem (heq ▸ List.mem_cons_self)
  cases more with
  | nil => exact ⟨c, cs, by simp, hc⟩
  | cons q more => exact ⟨c, _, List.intercalate_cons_cons, hc⟩

theorem getLast?_intercalate (h : ∀ p ∈ pieces, IsName p) :
    (['/'].intercalate pieces).getLast? ≠ some '/' := by
  rcases List.eq_nil_or_concat' pieces with rfl | ⟨front, p, rfl⟩
  · exact nofun
  have hp := h p (List.mem_append_right _ List.mem_cons_self)
  have hlast : p.getLast? ≠ some '/' := fun heq => hp.not_mem (List.mem_of_getLast? heq)
  by_cases hfront : front = []
  · subst hfront
    rwa [List.nil_append, List.intercalate_singleton]
  · rwa [Text.intercalate_append hfront (List.cons_ne_nil _ _), List.intercalate_singleton,
      List.getLast?_append_of_ne_nil _ hp.ne_nil]

theorem joinedPath_of_rooted (h : ∀ p ∈ pieces, IsName p) (hne : pieces ≠ []) :
    joinedPath base (['/'].intercalate ([] :: pieces)) = ['/'].intercalate ([] :: pieces) := by
  have hcons := intercalate_nil_cons hne
  refine joinedPath_of_pieces ?_ ?_ ?_
  · unfold joinedPieces
    dsimp only
    rw [if_pos (by rw [hcons]; rfl)]
    exact Text.splitOn_intercalate (List.cons_ne_nil _ _) (List.forall_mem_cons.mpr
      ⟨List.not_mem_nil, fun p hp => (h p hp).not_mem⟩)
  · exact List.forall_mem_cons.mpr ⟨rfl, fun p hp => (h p hp).not_dots⟩
  · rw [hcons]
    exact List.cons_ne_nil _ _

theorem joinedPath_of_named (hbase : IsSettled base) (hlast : base.getLast? = some '/')
    (h : ∀ p ∈ pieces, IsName p) (hne : pieces ≠ []) :
    joinedPath base (['/'].intercalate pieces) =
      ['/'].intercalate ([] :: ((inside base).filter (!·.isEmpty) ++ pieces)) := by
  have hbasePieces := splitOn_eq_inside hbase.rooted hlast
  have hpieces : Text.splitOn (· = '/') (['/'].intercalate pieces) = pieces :=
    Text.splitOn_intercalate hne fun p hp => (h p hp).not_mem
  obtain ⟨c, rest, hhead, hc⟩ := exists_intercalate h hne
  refine joinedPath_of_pieces ?_ (List.forall_mem_cons.mpr ⟨rfl, fun p hp => ?_⟩) ?_
  · unfold joinedPieces
    dsimp only
    rw [if_neg (by simpa [hhead] using hc), hpieces, hbasePieces, if_pos List.getLast?_concat]
    obtain ⟨front, last, rfl⟩ := List.eq_nil_or_concat' pieces |>.resolve_left hne
    have hfront : front.filter (!·.isEmpty) = front :=
      List.filter_eq_self.mpr fun p hp => by
        simp [(h p (List.mem_append_left _ hp)).ne_nil]
    -- Once names follow, the piece behind the last slash of the base is one of those inside.
    have hassoc : [] :: inside base ++ [[]] ++ (front ++ [last]) =
        [] :: ((inside base ++ [[]] ++ front) ++ [last]) := by simp
    rw [hassoc, dropEmptyInside, List.dropLast_concat, List.getLast?_concat]
    simp [hfront]
  · rcases List.mem_append.mp hp with hp | hp
    · exact hbase.pieces p (mem_splitOn_of_mem_inside (List.mem_of_mem_filter hp))
    · exact (h p hp).not_dots
  · rw [intercalate_nil_cons (List.append_ne_nil_of_right_ne_nil _ hne)]
    exact List.cons_ne_nil _ _

theorem isPathOnly_of_plain (h : ∀ p ∈ pieces, IsName p) (hne : ref ≠ [])
    (hslashes : ¬ ['/', '/'] <+: ref) (hmem : ∀ c ∈ ref, c = '/' ∨ ∃ p ∈ pieces, c ∈ p) :
    IsPathOnly ref := by
  refine ⟨fun c hc => ?_, hne, hslashes⟩
  rcases hmem c hc with rfl | ⟨p, hp, hc⟩
  · decide
  · obtain ⟨hsafe, hmarks⟩ := (h p hp).plain c hc
    simp only [List.mem_cons, List.not_mem_nil, or_false, not_or] at hmarks
    exact ⟨hsafe, hmarks.2⟩

theorem isPathOnly_intercalate (h : ∀ p ∈ pieces, IsName p) (hne : pieces ≠ []) :
    IsPathOnly (['/'].intercalate pieces) := by
  obtain ⟨c, rest, heq, hc⟩ := exists_intercalate h hne
  refine isPathOnly_of_plain h (heq ▸ List.cons_ne_nil _ _) ?_ fun c hc =>
    (Text.mem_of_mem_intercalate hc).imp_left List.mem_singleton.mp
  rw [heq, List.cons_prefix_cons]
  exact fun hslashes => hc hslashes.1.symm

theorem isPathOnly_rooted (h : ∀ p ∈ pieces, IsName p) (hne : pieces ≠ []) :
    IsPathOnly (['/'].intercalate ([] :: pieces)) := by
  obtain ⟨a, rest, heq, ha⟩ := exists_intercalate h hne
  rw [intercalate_nil_cons hne]
  refine isPathOnly_of_plain h (List.cons_ne_nil _ _) ?_ fun c hc => ?_
  · rw [heq, List.cons_prefix_cons, List.cons_prefix_cons]
    exact fun hslashes => ha hslashes.2.1.symm
  · rcases List.mem_cons.mp hc with rfl | hc
    · exact .inl rfl
    · exact (Text.mem_of_mem_intercalate hc).imp_left List.mem_singleton.mp

theorem isSettled_of_names (h : ∀ p ∈ pieces, IsName p) (hne : pieces ≠ []) :
    IsSettled (['/'].intercalate ([] :: pieces)) :=
  isSettled_intercalate hne fun p hp =>
    ⟨(h p hp).not_mem, (h p hp).not_dots, fun c hc => ((h p hp).plain c hc).1⟩

theorem isSettled_joinedPath_names (hbase : IsSettled base) (hlast : base.getLast? = some '/')
    (h : ∀ p ∈ pieces, IsName p) (hne : pieces ≠ []) :
    IsSettled (joinedPath base (['/'].intercalate pieces)) := by
  rw [joinedPath_of_named hbase hlast h hne]
  refine isSettled_intercalate (List.append_ne_nil_of_right_ne_nil _ hne) fun p hp => ?_
  rcases List.mem_append.mp hp with hp | hp
  · have hinside := List.mem_of_mem_filter hp
    have hpiece := mem_splitOn_of_mem_inside hinside
    refine ⟨not_mem_of_mem_inside hinside, hbase.pieces p hpiece, fun c hc => hbase.safe c ?_⟩
    have hslash : c ≠ '/' := fun heq => not_mem_of_mem_inside hinside (heq ▸ hc)
    exact (Text.exists_mem_splitOn (by simpa using hslash) base).mp ⟨p, hpiece, hc⟩
  · exact ⟨(h p hp).not_mem, (h p hp).not_dots, fun c hc => ((h p hp).plain c hc).1⟩

/-! Following a path -/

theorem join_of_length (hlength : maxLength < ref.length) :
    u.join (String.ofList ref) = .error .tooLong := by
  have hparse : parse (String.ofList ref) = .error .tooLong := by
    unfold parse
    dsimp only
    rw [String.toList_ofList, if_pos hlength]
  rw [join, hparse]
  rfl

theorem join_eq {s : String} (hread : parse s = .ok u) (hweb : IsWeb u)
    (hlast : u.path.toList.getLast? = some '/') (href : IsPathOnly ref)
    (hlength : ref.length ≤ maxLength)
    (hjoined : (joinedPath u.path.toList ref).head? = some '/') :
    u.join (String.ofList ref) =
      parse (String.ofList
        (written u.scheme u.authority.toList (joinedPath u.path.toList ref))) := by
  obtain ⟨hname, hsettled⟩ := exists_of_parse_web hread hweb (path_ne_of_getLast? hlast)
  have hreference : ({ path := String.ofList ref } : Url).toString = String.ofList ref := by
    simp [Url.toString, authority, marked]
  simp only [join, href.parse_eq hlength, bind, Except.bind]
  rw [hweb.toString_eq, hreference, joinText_written hweb.scheme (authority_ne_nil hweb.host) hname
    hsettled hlast href hjoined]

theorem append_intercalate (hrooted : base.head? = some '/') (hlast : base.getLast? = some '/')
    (hne : pieces ≠ []) :
    base ++ ['/'].intercalate pieces = ['/'].intercalate ([] :: (inside base ++ pieces)) := by
  have hfront : [] :: inside base ≠ [] := List.cons_ne_nil _ _
  have hbase := Text.intercalate_splitOn '/' base
  rw [splitOn_eq_inside hrooted hlast, Text.intercalate_append hfront (List.cons_ne_nil _ _),
    List.intercalate_singleton, List.append_nil] at hbase
  rw [← List.cons_append, Text.intercalate_append hfront hne, hbase]

/-- Names lead below a base exactly if no piece inside its path is empty. -/
theorem joinedPath_names_iff (hbase : IsSettled base) (hlast : base.getLast? = some '/')
    (h : ∀ p ∈ pieces, IsName p) (hne : pieces ≠ []) :
    joinedPath base (['/'].intercalate pieces) = base ++ ['/'].intercalate pieces ↔
      [] ∉ inside base := by
  rw [joinedPath_of_named hbase hlast h hne, append_intercalate hbase.rooted hlast hne]
  constructor
  · intro heq hmem
    have hcut : ∀ front : List (List Char), (∀ p ∈ front, '/' ∉ p) →
        Text.splitOn (· = '/') (['/'].intercalate ([] :: (front ++ pieces))) =
          [] :: (front ++ pieces) := by
      intro front hfront
      refine Text.splitOn_intercalate (List.cons_ne_nil _ _) (List.forall_mem_cons.mpr
        ⟨List.not_mem_nil, List.forall_mem_append.mpr ⟨hfront, fun p hp => (h p hp).not_mem⟩⟩)
    -- Both paths are cut again, so the pieces that are kept are all there were.
    have hsplit := congrArg (Text.splitOn (· = '/')) heq
    rw [hcut _ fun p hp => not_mem_of_mem_inside (List.mem_of_mem_filter hp),
      hcut _ fun p hp => not_mem_of_mem_inside hp, List.cons.injEq] at hsplit
    rw [← List.append_cancel_right hsplit.2, List.mem_filter] at hmem
    exact absurd hmem.2 (by simp)
  · intro hmem
    have hkeep : (inside base).filter (!·.isEmpty) = inside base := by
      refine List.filter_eq_self.mpr fun p hp => ?_
      have hp : p ≠ [] := fun heq => hmem (heq ▸ hp)
      simp [hp]
    rw [hkeep]

theorem joinedPath_rooted_iff (h : ∀ p ∈ pieces, IsName p) (hne : pieces ≠ []) :
    joinedPath base (['/'].intercalate ([] :: pieces)) = base ++ ['/'].intercalate pieces ↔
      base = ['/'] := by
  rw [joinedPath_of_rooted h hne, intercalate_nil_cons hne, ← List.singleton_append,
    List.append_left_inj, eq_comm]

def extend (u : Url) (more : String) : Url :=
  { u with path := u.path ++ more }

theorem IsWeb.toString_extend (h : IsWeb u) (more : String) :
    (u.extend more).toString = u.toString ++ more := by
  simp [extend, Url.toString, authority, marked, h.query, h.fragment, String.append_assoc]

theorem join_eq_ok_iff {s : String} {more : List Char} (hread : parse s = .ok u) (hweb : IsWeb u)
    (hlast : u.path.toList.getLast? = some '/') (href : IsPathOnly ref)
    (hjoined : IsSettled (joinedPath u.path.toList ref))
    (hshorter : ref.length ≤ (u.path.toList ++ more).length) :
    u.join (String.ofList ref) = .ok (u.extend (String.ofList more)) ↔
      joinedPath u.path.toList ref = u.path.toList ++ more ∧ IsFaithful u ∧
        (u.toString ++ String.ofList more).length ≤ maxLength := by
  have hpath := path_ne_of_getLast? hlast
  have hlength : (u.toString ++ String.ofList more).length =
      (written u.scheme u.authority.toList (u.path.toList ++ more)).length := by
    rw [← String.length_toList, String.toList_append, hweb.toList_toString, String.toList_ofList]
    simp [written]
  by_cases hfits : ref.length ≤ maxLength
  · rw [join_eq hread hweb hlast href hfits hjoined.rooted,
      extend, parse_written_eq_ok_iff hread hweb hpath hjoined (by simp), hlength]
    have hsame : u.path ++ String.ofList more = String.ofList (joinedPath u.path.toList ref) ↔
        joinedPath u.path.toList ref = u.path.toList ++ more := by
      rw [← String.toList_inj, String.toList_append, String.toList_ofList, String.toList_ofList,
        eq_comm]
    rw [hsame]
    exact and_congr_right fun heq => by rw [heq]
  · rw [join_of_length (Nat.lt_of_not_le hfits)]
    refine iff_of_false (by simp) fun h => hfits ?_
    rw [hlength] at h
    have hwhole := h.2.2
    simp only [written, List.length_append, List.length_cons] at hwhole hshorter
    omega

end ContentBinding.Url
