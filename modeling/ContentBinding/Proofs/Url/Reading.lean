import Mathlib
import ContentBinding.Proofs.Binding.NumberText
import ContentBinding.Proofs.Url.Hosts
import ContentBinding.Url.Join

/-! Addresses with a scheme and an authority, read from what is written of them. What follows the
authority does not change how it is read, so an address that is read back from its own text is also
read back with another path; and the path that comes of reading stays as it is from then on. -/

namespace ContentBinding.Url

variable {u : Url} {s scheme : String} {isEnd : Char → Bool} {c : Char}
  {cs name part path rest : List Char} {query fragment : Option (List Char)}

/-! Texts taken apart -/

theorem spanUntil_append_cons (h : ∀ a ∈ part, isEnd a = false) (hc : isEnd c = true) :
    spanUntil isEnd (part ++ c :: rest) = (part, c :: rest) := by
  have hpos : ∀ a ∈ part, (!isEnd a) = true := fun a ha => by rw [h a ha]; rfl
  unfold spanUntil
  rw [List.takeWhile_append_of_pos hpos, List.dropWhile_append_of_pos hpos,
    List.takeWhile_cons_of_neg (by simp [hc]), List.dropWhile_cons_of_neg (by simp [hc]),
    List.append_nil]

theorem spanUntil_of_forall (h : ∀ a ∈ part, isEnd a = false) :
    spanUntil isEnd part = (part, []) := by
  have hpos : ∀ a ∈ part, (!isEnd a) = true := fun a ha => by rw [h a ha]; rfl
  unfold spanUntil
  rw [List.takeWhile_eq_self_iff.mpr hpos, List.dropWhile_eq_nil_iff.mpr hpos]

theorem takeScheme_suffix (cs : List Char) : (takeScheme cs).2 <:+ cs := by
  have hrest := List.dropWhile_suffix (l := cs) (fun c => !!isSchemeChar c)
  unfold takeScheme spanUntil
  dsimp only
  split
  · next heq => exact (List.suffix_cons _ _).trans (heq ▸ hrest)
  · next heq =>
    split
    · exact (List.suffix_cons _ _).trans (heq ▸ hrest)
    · exact List.suffix_rfl
  · exact List.suffix_rfl

theorem isInner_of_mem_takeAuthority (hcs : ∀ a ∈ cs, isControl a = false)
    (hc : c ∈ (takeAuthority cs).1) : IsInner c := by
  unfold takeAuthority at hc
  split at hc
  · next rest =>
    have hmark := List.mem_takeWhile_imp hc
    simp only [Bool.not_eq_true', Bool.or_eq_false_iff, decide_eq_false_iff_not] at hmark
    obtain ⟨⟨hslash, hquestion⟩, hhash⟩ := hmark
    refine ⟨hcs c ?_, hslash, hquestion, hhash⟩
    exact List.mem_cons_of_mem _ (List.mem_cons_of_mem _ ((List.takeWhile_prefix _).subset hc))
  · exact absurd hc List.not_mem_nil

theorem exists_of_parse (h : parse s = .ok u) : ∃ scheme authority path query fragment,
    (∀ c ∈ authority, IsInner c) ∧ ofParts scheme authority path query fragment = .ok u := by
  unfold parse at h
  dsimp only at h
  split at h
  · exact absurd h nofun
  split at h
  · exact absurd h nofun
  · next hcontrol =>
    refine ⟨_, _, _, _, _, fun c hc => isInner_of_mem_takeAuthority (fun a ha => ?_) hc, h⟩
    simpa using List.find?_eq_none.mp hcontrol a ((takeScheme_suffix _).subset ha)

/-! The parts -/

def hasAuthority (userinfo : List Char) (host : String) (port : Option Int) : Bool :=
  !userinfo.isEmpty || !host.isEmpty || port.isSome

theorem ofParts_eq_ok_iff : ofParts cs name path query fragment = .ok u ↔
    encodeHost (takeHost (takeUserinfo name).2).1 = .ok u.host ∧
    takePort (String.ofList cs) (takeHost (takeUserinfo name).2).2 = .ok u.port ∧
    checkPath path (!cs.isEmpty) (hasAuthority (takeUserinfo name).1 u.host u.port) = .ok () ∧
    u.scheme = String.ofList (cs.map Char.toLower) ∧
    u.userinfo = escape userinfoSafe (takeUserinfo name).1 ∧
    u.path = escape pathSafe
      (if !cs.isEmpty || hasAuthority (takeUserinfo name).1 u.host u.port then removeDots path
        else path) ∧
    u.query = query.map (escape querySafe) ∧ u.fragment = fragment.map (escape fragmentSafe) := by
  unfold ofParts hasAuthority
  simp only [bind, Except.bind, pure, Except.pure]
  cases encodeHost (takeHost (takeUserinfo name).2).1 with
  | error e => simp
  | ok host =>
    cases takePort (String.ofList cs) (takeHost (takeUserinfo name).2).2 with
    | error e => simp
    | ok port =>
      dsimp only
      constructor
      · intro h
        split at h
        · exact absurd h nofun
        · next hcheck =>
          obtain rfl := Except.ok.inj h
          exact ⟨rfl, rfl, hcheck, rfl, rfl, rfl, rfl, rfl⟩
      · rintro ⟨hhost, hport, hcheck, hscheme, huserinfo, hpath, hquery, hfragment⟩
        obtain rfl := Except.ok.inj hhost
        obtain rfl := Except.ok.inj hport
        simp only [hcheck]
        rw [← hscheme, ← huserinfo, ← hpath, ← hquery, ← hfragment]

theorem takeUserinfo_subset (cs : List Char) : (takeUserinfo cs).2 ⊆ cs := by
  unfold takeUserinfo
  split
  · intro c hc
    exact List.mem_reverse.mp ((List.takeWhile_prefix _).subset (List.mem_reverse.mp hc))
  · exact List.Subset.refl _

theorem takeHost_subset (cs : List Char) : (takeHost cs).1 ⊆ cs := by
  unfold takeHost
  split
  · split
    · exact List.take_subset _ _
    · exact (List.takeWhile_prefix _).subset
  · exact (List.takeWhile_prefix _).subset

theorem isInner_of_mem_toString {n : Int} (hc : c ∈ (toString n).toList) : IsInner c := by
  rw [Binding.toList_toString_int, List.mem_append] at hc
  rcases hc with hc | hc
  · unfold Number.Numeral.signText at hc
    split at hc
    · rw [List.mem_singleton.mp hc]
      decide
    · exact absurd hc List.not_mem_nil
  · have hdigit := Binding.Path.isDigit_of_mem c hc
    exact isInner_of_isAlphanum (Bool.or_eq_true_iff.mpr (.inr hdigit))

theorem isInner_of_mem_authority (h : ofParts cs name path query fragment = .ok u)
    (hname : ∀ a ∈ name, IsInner a) (hc : c ∈ u.authority.toList) : IsInner c := by
  obtain ⟨hhost, -, -, -, huserinfo, -⟩ := ofParts_eq_ok_iff.mp h
  have hsign : ∀ a ∈ ['@', '[', ']', ':'], IsInner a := by simp [IsInner, isControl]
  have hinner : ∀ a ∈ u.host.toList, IsInner a := isInner_of_encodeHost
    (fun a ha => hname a (takeUserinfo_subset _ (takeHost_subset _ ha))) hhost
  unfold authority at hc
  rw [String.toList_append, String.toList_append, List.mem_append, List.mem_append] at hc
  -- The character is of the user, of the host or of the port, or a mark that sets these apart.
  obtain (hc | hc) | hc := hc
  · split at hc
    · simp at hc
    · rw [huserinfo, String.toList_append, List.mem_append] at hc
      rcases hc with hc | hc
      · exact isInner_of_mem_escape (fun _ => isInner_of_userinfoSafe) hc
      · exact hsign c (by simp_all)
  · split at hc
    · simp only [String.toList_append, List.mem_append] at hc
      rcases hc with (hc | hc) | hc
      · exact hsign c (by simp_all)
      · exact hinner c hc
      · exact hsign c (by simp_all)
    · exact hinner c hc
  · split at hc
    · rw [String.toList_append, List.mem_append] at hc
      rcases hc with hc | hc
      · exact hsign c (by simp_all)
      · exact isInner_of_mem_toString hc
    · simp at hc

/-! The path -/

/-- A path that reading leaves as it is. -/
structure IsSettled (path : List Char) : Prop where
  rooted : path.head? = some '/'
  safe : ∀ c ∈ path, pathSafe c = true
  pieces : ∀ piece ∈ Text.splitOn (· = '/') path, isDots piece = false

theorem joinPieces_eq (pieces : List (List Char)) :
    joinPieces pieces = ['/'].intercalate pieces := by
  induction pieces with
  | nil => rfl
  | cons p rest ih =>
    cases rest with
    | nil => simp [joinPieces]
    | cons q rest => simp [joinPieces, ih, List.intercalate_cons_cons]

theorem pushPiece_of_not_isDots {out : List (List Char)} (h : isDots part = false) :
    pushPiece out part = out ++ [part] := by
  unfold isDots at h
  simp only [Bool.or_eq_false_iff, decide_eq_false_iff_not] at h
  rw [pushPiece, if_neg h.1, if_neg h.2]

theorem foldl_pushPiece {pieces out : List (List Char)} (h : ∀ p ∈ pieces, isDots p = false) :
    pieces.foldl pushPiece out = out ++ pieces := by
  induction pieces generalizing out with
  | nil => rw [List.foldl_nil, List.append_nil]
  | cons p rest ih =>
    obtain ⟨hp, hrest⟩ := List.forall_mem_cons.mp h
    rw [List.foldl_cons, pushPiece_of_not_isDots hp, ih hrest, List.append_assoc,
      List.singleton_append]

theorem IsSettled.escape_removeDots (h : IsSettled path) :
    escape pathSafe (removeDots path) = String.ofList path := by
  have hdots : removeDots path = path := by
    rw [removeDots, foldl_pushPiece h.pieces, List.nil_append, joinPieces_eq,
      Text.intercalate_splitOn]
  rw [hdots, escape_of_safe h.safe]

theorem exists_pushPiece (tail : List (List Char)) (part : List Char) :
    ∃ tail', pushPiece ([] :: tail) part = [] :: tail' ∧
      ∀ p ∈ tail', p ∈ tail ∨ p = part ∧ isDots p = false := by
  unfold pushPiece
  split
  · exact ⟨tail, rfl, fun p hp => .inl hp⟩
  next hpoint =>
  split
  · cases tail with
    | nil => exact ⟨[], rfl, nofun⟩
    | cons q rest =>
      exact ⟨(q :: rest).dropLast, rfl, fun p hp => .inl (List.mem_of_mem_dropLast hp)⟩
  · next hpoints =>
    refine ⟨tail ++ [part], rfl, fun p hp => ?_⟩
    rcases List.mem_append.mp hp with hp | hp
    · exact .inl hp
    · obtain rfl := List.mem_singleton.mp hp
      exact .inr ⟨rfl, by simp [isDots, hpoint, hpoints]⟩

theorem exists_foldl_pushPiece (tail pieces : List (List Char)) :
    ∃ tail', pieces.foldl pushPiece ([] :: tail) = [] :: tail' ∧
      ∀ p ∈ tail', p ∈ tail ∨ p ∈ pieces ∧ isDots p = false := by
  -- By induction on the pieces; the empty piece in front stands for the root and stays.
  induction pieces generalizing tail with
  | nil => exact ⟨tail, rfl, fun p hp => .inl hp⟩
  | cons q rest ih =>
    obtain ⟨mid, hmid, hmem⟩ := exists_pushPiece tail q
    obtain ⟨tail', htail, hmem'⟩ := ih mid
    refine ⟨tail', by rw [List.foldl_cons, hmid, htail], fun p hp => ?_⟩
    rcases hmem' p hp with hp | ⟨hp, hdots⟩
    · rcases hmem p hp with hp | ⟨rfl, hdots⟩
      · exact .inl hp
      · exact .inr ⟨List.mem_cons_self, hdots⟩
    · exact .inr ⟨List.mem_cons_of_mem _ hp, hdots⟩

theorem exists_removeDots (rest : List Char) : ∃ pieces,
    removeDots ('/' :: rest) = ['/'].intercalate ([] :: pieces) ∧
      ∀ p ∈ pieces, '/' ∉ p ∧ isDots p = false := by
  obtain ⟨pieces, hpieces, hmem⟩ := exists_foldl_pushPiece [] (Text.splitOn (· = '/') rest)
  refine ⟨pieces, ?_, fun p hp => ?_⟩
  · rw [removeDots, joinPieces_eq, ← hpieces]
    rfl
  · rcases hmem p hp with hp | ⟨hp, hdots⟩
    · exact absurd hp List.not_mem_nil
    · refine ⟨fun hslash => ?_, hdots⟩
      simpa using Text.not_isCut_of_mem_splitOn hp _ hslash

theorem mem_escapeChar {isSafe : Char → Bool} (h : ¬ isSafe c = true) :
    '%' ∈ escapeChar isSafe c := by
  rw [escapeChar, if_neg h]
  unfold Text.encodeChar
  dsimp only
  split
  · exact List.mem_cons_self
  split
  · exact List.mem_cons_self
  split <;> exact List.mem_cons_self

theorem isDots_escape (h : isDots part = false) :
    isDots (part.flatMap (escapeChar pathSafe)) = false := by
  by_cases hpercent : '%' ∈ part.flatMap (escapeChar pathSafe)
  · rw [isDots, Bool.or_eq_false_iff, decide_eq_false_iff_not, decide_eq_false_iff_not]
    constructor
    · intro heq
      simp [heq] at hpercent
    · intro heq
      simp [heq] at hpercent
  · have hsafe : ∀ c ∈ part, pathSafe c = true := by
      intro c hc
      by_contra hnot
      exact hpercent (List.mem_flatMap.mpr ⟨c, hc, mem_escapeChar hnot⟩)
    rwa [flatMap_escapeChar_of_safe hsafe]

theorem flatMap_intercalate {f : Char → List Char} (hf : f '/' = ['/'])
    (pieces : List (List Char)) :
    (['/'].intercalate pieces).flatMap f = ['/'].intercalate (pieces.map (List.flatMap f)) := by
  induction pieces with
  | nil => rfl
  | cons p rest ih =>
    cases rest with
    | nil => simp
    | cons q rest =>
      rw [List.intercalate_cons_cons, List.flatMap_append, List.flatMap_append, ih,
        List.flatMap_singleton, hf]
      simp only [List.map_cons, List.intercalate_cons_cons]

theorem isSettled_intercalate {pieces : List (List Char)} (hne : pieces ≠ [])
    (h : ∀ p ∈ pieces, '/' ∉ p ∧ isDots p = false ∧ ∀ c ∈ p, pathSafe c = true) :
    IsSettled (['/'].intercalate ([] :: pieces)) := by
  refine ⟨?_, fun c hc => ?_, ?_⟩
  · obtain ⟨p, rest, rfl⟩ := List.exists_cons_of_ne_nil hne
    rw [List.intercalate_cons_cons]
    rfl
  · rcases Text.mem_of_mem_intercalate hc with hc | ⟨p, hp, hc⟩
    · rw [List.mem_singleton.mp hc]
      decide
    · rcases List.mem_cons.mp hp with rfl | hp
      · exact absurd hc List.not_mem_nil
      · exact (h p hp).2.2 c hc
  · rw [Text.splitOn_intercalate (List.cons_ne_nil _ _)
      (List.forall_mem_cons.mpr ⟨List.not_mem_nil, fun p hp => (h p hp).1⟩)]
    exact List.forall_mem_cons.mpr ⟨rfl, fun p hp => (h p hp).2.1⟩

theorem isSettled_of_ofParts (h : ofParts cs name path query fragment = .ok u) (hhost : u.host ≠ "")
    (hpath : u.path ≠ "") : IsSettled u.path.toList := by
  obtain ⟨-, -, hcheck, -, -, heq, -⟩ := ofParts_eq_ok_iff.mp h
  have hauthority : hasAuthority (takeUserinfo name).1 u.host u.port = true := by
    simp [hasAuthority, hhost]
  rw [hauthority] at hcheck heq
  rw [Bool.or_true, if_pos rfl] at heq
  -- The check lets a path pass that is empty or starts at the root.
  cases path with
  | nil => exact absurd (heq.trans rfl) hpath
  | cons a rest =>
    obtain rfl : a = '/' := by
      by_contra hne
      simp [checkPath, hne] at hcheck
    obtain ⟨pieces, hpieces, hmem⟩ := exists_removeDots rest
    have hlist : u.path.toList =
        ['/'].intercalate ([] :: pieces.map (List.flatMap (escapeChar pathSafe))) := by
      rw [heq, escape, String.toList_ofList, hpieces, flatMap_intercalate (by decide)]
      rfl
    rw [hlist]
    refine isSettled_intercalate ?_ fun piece hpiece => ?_
    · rintro hnil
      rw [List.map_eq_nil_iff.mp hnil] at hlist
      exact hpath (String.toList_inj.mp (hlist.trans rfl))
    · obtain ⟨p, hp, rfl⟩ := List.mem_map.mp hpiece
      obtain ⟨hslash, hdots⟩ := hmem p hp
      refine ⟨fun hmark => ?_, isDots_escape hdots, ?_⟩
      · exact forall_mem_escape (P := fun c => c ≠ '/')
          (fun c hc _ heq => hslash (heq ▸ hc)) (by decide) (by decide) '/' hmark rfl
      · exact forall_mem_escape (fun _ _ hsafe => hsafe) (by decide) (by decide)

theorem ofParts_with_path {path' : List Char} (h : ofParts cs name path query fragment = .ok u)
    (hcs : cs ≠ []) (hpath : IsSettled path') :
    ofParts cs name path' query fragment = .ok { u with path := String.ofList path' } := by
  obtain ⟨hhost, hport, -, hscheme, huserinfo, -, hquery, hfragment⟩ := ofParts_eq_ok_iff.mp h
  have hempty : cs.isEmpty = false := by simp [hcs]
  refine ofParts_eq_ok_iff.mpr
    ⟨hhost, hport, ?_, hscheme, huserinfo, ?_, hquery, hfragment⟩
  · simp [checkPath, hpath.rooted, hempty]
  · rw [hempty, Bool.not_false, Bool.true_or, if_pos rfl, hpath.escape_removeDots]

/-! Addresses in writing -/

/-- An address of the web without a query and a fragment. -/
structure IsWeb (u : Url) : Prop where
  scheme : u.scheme = "http" ∨ u.scheme = "https"
  host : u.host ≠ ""
  query : u.query = none
  fragment : u.fragment = none

def written (scheme : String) (name path : List Char) : List Char :=
  scheme.toList ++ ':' :: '/' :: '/' :: (name ++ path)

theorem authority_ne_nil (h : u.host ≠ "") : u.authority.toList ≠ [] := by
  have hshown : (if u.host.toList.contains ':' then "[" ++ u.host ++ "]" else u.host) ≠ "" := by
    split <;> simp [h]
  intro hnil
  rw [authority, String.toList_append, String.toList_append, List.append_eq_nil_iff,
    List.append_eq_nil_iff] at hnil
  exact hshown (String.toList_eq_nil_iff.mp hnil.1.2)

theorem IsWeb.toList_toString (h : IsWeb u) :
    u.toString.toList = written u.scheme u.authority.toList u.path.toList := by
  have hscheme : u.scheme ≠ "" := by rcases h.scheme with heq | heq <;> simp [heq]
  have hauthority : u.authority ≠ "" := fun heq =>
    authority_ne_nil h.host (String.toList_eq_nil_iff.mpr heq)
  simp [Url.toString, written, marked, hscheme, hauthority, h.query, h.fragment]

theorem IsWeb.toString_eq (h : IsWeb u) :
    u.toString = String.ofList (written u.scheme u.authority.toList u.path.toList) := by
  rw [← h.toList_toString, String.ofList_toList]

theorem path_ne_of_getLast? (h : u.path.toList.getLast? = some '/') : u.path ≠ "" := by
  intro heq
  simp [heq] at h

theorem takeScheme_web (h : scheme = "http" ∨ scheme = "https") (rest : List Char) :
    takeScheme (scheme.toList ++ ':' :: rest) = (scheme.toList, rest) := by
  rcases h with rfl | rfl <;> rfl

theorem isControl_of_pathSafe (h : pathSafe c = true) : isControl c = false := by
  unfold pathSafe querySafe isGraphic at h
  simp only [Bool.and_eq_true, decide_eq_true_eq] at h
  unfold isControl
  simp only [Bool.or_eq_false_iff, decide_eq_false_iff_not]
  omega

theorem ne_of_pathSafe (h : pathSafe c = true) : c ≠ '?' ∧ c ≠ '#' := by
  constructor
  · rintro rfl
    exact absurd h (by decide)
  · rintro rfl
    exact absurd h (by decide)

theorem spanUntil_of_safe (h : ∀ c ∈ path, pathSafe c = true) :
    spanUntil (fun c => c = '?' || c = '#') path = (path, []) := by
  refine spanUntil_of_forall fun c hc => ?_
  simp [ne_of_pathSafe (h c hc)]

theorem takeAuthority_written (hname : ∀ a ∈ name, IsInner a) (hpath : IsSettled path) :
    takeAuthority ('/' :: '/' :: (name ++ path)) = (name, path) := by
  obtain ⟨rest, rfl⟩ := List.head?_eq_some_iff.mp hpath.rooted
  refine spanUntil_append_cons (fun a ha => ?_) (by decide)
  obtain ⟨-, hslash, hquestion, hhash⟩ := hname a ha
  simp [hslash, hquestion, hhash]

/-- What is written of a scheme, an authority and a path is read as these. -/
theorem parse_written (hscheme : scheme = "http" ∨ scheme = "https")
    (hname : ∀ a ∈ name, IsInner a) (hpath : IsSettled path) :
    parse (String.ofList (written scheme name path)) =
      if maxLength < (written scheme name path).length then .error .tooLong
      else ofParts scheme.toList name path none none := by
  have hcontrol : (written scheme name path).find? isControl = none := by
    refine List.find?_eq_none.mpr fun c hc => ?_
    have hletters : ∀ a ∈ scheme.toList, isControl a = false := by
      rcases hscheme with rfl | rfl <;> simp [isControl]
    simp only [written, List.mem_append, List.mem_cons] at hc
    rcases hc with hc | rfl | rfl | rfl | hc | hc
    · simp [hletters c hc]
    · decide
    · decide
    · decide
    · simp [(hname c hc).1]
    · simp [isControl_of_pathSafe (hpath.safe c hc)]
  unfold parse
  dsimp only
  rw [String.toList_ofList, hcontrol, written, takeScheme_web hscheme]
  simp only [takeAuthority_written hname hpath, spanUntil_of_safe hpath.safe, takeMarked]

theorem exists_of_parse_web (h : parse s = .ok u) (hweb : IsWeb u) (hpath : u.path ≠ "") :
    (∀ a ∈ u.authority.toList, IsInner a) ∧ IsSettled u.path.toList := by
  obtain ⟨scheme, name, path, query, fragment, hname, hparts⟩ := exists_of_parse h
  exact ⟨fun a => isInner_of_mem_authority hparts hname,
    isSettled_of_ofParts hparts hweb.host hpath⟩

/-- An address that its text stands for. -/
def IsFaithful (u : Url) : Prop :=
  parse u.toString = .ok u

theorem parse_written_eq_ok_iff {s' : String} (hread : parse s = .ok u) (hweb : IsWeb u)
    (hne : u.path ≠ "") (hpath : IsSettled path) (hlonger : u.path.length ≤ s'.length) :
    parse (String.ofList (written u.scheme u.authority.toList path)) = .ok { u with path := s' } ↔
      s' = String.ofList path ∧ IsFaithful u ∧
        (written u.scheme u.authority.toList path).length ≤ maxLength := by
  obtain ⟨hname, hown⟩ := exists_of_parse_web hread hweb hne
  have hscheme : u.scheme.toList ≠ [] := by
    rcases hweb.scheme with heq | heq <;> simp [heq]
  unfold IsFaithful
  rw [hweb.toString_eq, parse_written hweb.scheme hname hown, parse_written hweb.scheme hname hpath]
  constructor
  · intro h
    split at h
    · exact absurd h nofun
    next hlength =>
    have hs' : s' = String.ofList path := by
      obtain ⟨-, -, -, -, -, heq, -⟩ := ofParts_eq_ok_iff.mp h
      rwa [if_pos (by simp [hscheme]), hpath.escape_removeDots] at heq
    have hshorter : ¬ maxLength < (written u.scheme u.authority.toList u.path.toList).length := by
      rw [hs', String.length_ofList, ← String.length_toList] at hlonger
      simp only [written, List.length_append, List.length_cons] at hlength ⊢
      omega
    refine ⟨hs', ?_, Nat.not_lt.mp hlength⟩
    rw [if_neg hshorter, ofParts_with_path h hscheme hown, String.ofList_toList]
  · rintro ⟨rfl, hfaithful, hlength⟩
    rw [if_neg (Nat.not_lt.mpr hlength)]
    split at hfaithful
    · exact absurd hfaithful nofun
    · exact ofParts_with_path hfaithful hscheme hpath

end ContentBinding.Url
