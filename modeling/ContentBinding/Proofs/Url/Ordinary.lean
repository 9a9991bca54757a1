import Mathlib
import ContentBinding.Proofs.Url.Reading

/-! Addresses with a plain host name or a dotted address, and perhaps a port, are faithful to their
text: read from it, each is what it was. -/

namespace ContentBinding.Url

variable {u : Url} {s scheme : String} {c : Char} {cs : List Char} {n : Nat}

def isHostChar (c : Char) : Bool :=
  c.isLower || c.isDigit || c = '-' || c = '.'

/-- An address with nothing but a host, and perhaps a port that its scheme does not imply. -/
structure IsOrdinary (u : Url) : Prop where
  userinfo : u.userinfo = ""
  host : ∀ c ∈ u.host.toList, isHostChar c = true
  dotted : looksDotted u.host.toList = true → isDottedAddress u.host.toList = true
  port : u.port = none ∨
    ∃ n : Nat, u.port = some (n : Int) ∧ defaultPorts.lookup u.scheme ≠ some (n : Int)

theorem hostSafe_of_isHostChar (h : isHostChar c = true) :
    c.toLower = c ∧ hostSafe c = true ∧ Punycode.isPlain c = true ∧ c ∉ ['@', ':', '['] := by
  have hlt : c.toNat < 128 := by
    unfold isHostChar at h
    simp only [Bool.or_eq_true, decide_eq_true_eq] at h
    rcases h with ((h | h) | rfl) | rfl
    · have hranges := toNat_of_isAlphanum (c := c) (by simp [Char.isAlphanum, Char.isAlpha, h])
      omega
    · have hranges := toNat_of_isAlphanum (c := c) (by simp [Char.isAlphanum, h])
      omega
    · decide
    · decide
  exact forall_ascii (P := fun c => isHostChar c = true →
    c.toLower = c ∧ hostSafe c = true ∧ Punycode.isPlain c = true ∧ c ∉ ['@', ':', '['])
    (by decide +kernel) hlt h

theorem encodeHost_of_ordinary (h : IsOrdinary u) (hne : u.host ≠ "") :
    encodeHost u.host.toList = .ok u.host := by
  have hempty : u.host.toList.isEmpty = false := by simp [hne]
  have hbracket : u.host.toList.head? ≠ some '[' := fun heq =>
    (hostSafe_of_isHostChar (h.host _ (List.mem_of_head? heq))).2.2.2 (by decide)
  have hplain : u.host.toList.all Punycode.isPlain = true :=
    List.all_eq_true.mpr fun c hc => (hostSafe_of_isHostChar (h.host c hc)).2.2.1
  have hlower : u.host.toList.map Char.toLower = u.host.toList :=
    (List.map_congr_left fun c hc => (hostSafe_of_isHostChar (h.host c hc)).1).trans (List.map_id _)
  have hsafe : ∀ c ∈ u.host.toList, hostSafe c = true := fun c hc =>
    (hostSafe_of_isHostChar (h.host c hc)).2.1
  have hbrackets :
      ¬ (u.host.toList.head? = some '[' && u.host.toList.getLast? = some ']') = true := by
    simp [hbracket]
  unfold encodeHost
  dsimp only
  rw [hempty, if_neg Bool.false_ne_true]
  by_cases hlooks : looksDotted u.host.toList = true
  · rw [if_pos hlooks, if_pos (h.dotted hlooks), String.ofList_toList]
  · rw [if_neg hlooks, if_neg hbrackets, if_pos hplain, hlower, escape_of_safe hsafe,
      String.ofList_toList]

theorem groupedDigits_of_digits (h : ∀ c ∈ cs, c.isDigit = true) (hne : cs ≠ []) :
    groupedDigits cs = some cs := by
  induction cs with
  | nil => exact absurd rfl hne
  | cons c rest ih =>
    obtain ⟨hc, hrest⟩ := List.forall_mem_cons.mp h
    cases rest with
    | nil => simp [groupedDigits, hc]
    | cons d more =>
      have hd : d ≠ '_' := by
        rintro rfl
        exact absurd (hrest _ List.mem_cons_self) (by decide)
      simp [groupedDigits, hc, hd, ih hrest (List.cons_ne_nil _ _)]

theorem trimLeft_of_digits (h : ∀ c ∈ cs, c.isDigit = true) : Text.trimLeft cs = cs := by
  cases cs with
  | nil => rfl
  | cons c rest =>
    have hrange : 48 ≤ c.toNat ∧ c.toNat ≤ 57 :=
      Char.isDigit_iff_toNat.mp (h c List.mem_cons_self)
    refine List.dropWhile_cons_of_neg ?_
    unfold Text.isBlank
    simp only [Bool.or_eq_true, Bool.and_eq_true, decide_eq_true_eq]
    omega

theorem integer?_toDigits (n : Nat) : integer? (Nat.toDigits 10 n) = some (n : Int) := by
  have hdigits : ∀ c ∈ Nat.toDigits 10 n, c.isDigit = true := Binding.Path.isDigit_of_mem
  have hreverse : ∀ c ∈ (Nat.toDigits 10 n).reverse, c.isDigit = true :=
    fun c hc => hdigits c (List.mem_reverse.mp hc)
  have hsign : ∀ {d : Char} {ds : List Char}, d.isDigit = false → Nat.toDigits 10 n ≠ d :: ds := by
    intro d ds hd heq
    rw [hdigits d (heq ▸ List.mem_cons_self)] at hd
    exact absurd hd.symm Bool.false_ne_true
  unfold integer?
  rw [trimLeft_of_digits hdigits, Text.trimRight, trimLeft_of_digits hreverse, List.reverse_reverse]
  split
  · next heq => exact absurd heq (hsign (by decide))
  · next heq => exact absurd heq (hsign (by decide))
  · rw [groupedDigits_of_digits hdigits Nat.toDigits_ne_nil, Option.map_some,
      Text.natOf_toDigits]

theorem takePort_toDigits (hport : defaultPorts.lookup scheme ≠ some (n : Int)) :
    takePort scheme (':' :: Nat.toDigits 10 n) = .ok (some (n : Int)) := by
  have hempty : (Nat.toDigits 10 n).isEmpty = false := by simp [Nat.toDigits_ne_nil]
  simp only [takePort, hempty, integer?_toDigits, if_neg hport, Bool.false_eq_true, if_false]

theorem IsOrdinary.read_authority (h : IsOrdinary u) (hne : u.host ≠ "") :
    takeUserinfo u.authority.toList = ([], u.authority.toList) ∧
      (takeHost u.authority.toList).1 = u.host.toList ∧
        takePort u.scheme (takeHost u.authority.toList).2 = .ok u.port := by
  obtain ⟨a, rest, hhost⟩ := List.exists_cons_of_ne_nil (l := u.host.toList) (by simp [hne])
  -- a host of host characters holds none of the marks at which an authority is cut
  have hmarks : ∀ c ∈ u.host.toList, c ∉ ['@', ':', '['] :=
    fun c hc => (hostSafe_of_isHostChar (h.host c hc)).2.2.2
  have hsign : '@' ∉ u.host.toList := fun hc => hmarks _ hc (by decide)
  have hcolon : ':' ∉ u.host.toList := fun hc => hmarks _ hc (by decide)
  have hinside : ∀ c ∈ u.host.toList, decide (c = ':') = false :=
    fun c hc => decide_eq_false fun heq => hcolon (heq ▸ hc)
  have hbracket : ∀ more, takeHost (u.host.toList ++ more) =
      spanUntil (· = ':') (u.host.toList ++ more) := by
    intro more
    unfold takeHost
    split
    · next heq =>
      rw [hhost, List.cons_append, List.cons.injEq] at heq
      exact absurd (by simp [heq.1]) (hmarks a (hhost ▸ List.mem_cons_self))
    · rfl
  rcases h.port with hport | ⟨n, hport, hdefault⟩
  · have hlist : u.authority.toList = u.host.toList ++ [] := by
      simp [authority, h.userinfo, hcolon, hport]
    rw [hlist, hbracket, List.append_nil, spanUntil_of_forall hinside, hport]
    exact ⟨by simp [takeUserinfo, hsign], rfl, rfl⟩
  · have hlist : u.authority.toList = u.host.toList ++ ':' :: Nat.toDigits 10 n := by
      have hdigits : (toString (n : Int)).toList = Nat.toDigits 10 n := by
        rw [Binding.toList_toString_int, Number.Numeral.signText, if_neg (by simp)]
        rfl
      simp only [authority, h.userinfo, hport, String.toList_append, hdigits]
      simp [hcolon]
    have hdigits : '@' ∉ Nat.toDigits 10 n := fun hc =>
      absurd (Binding.Path.isDigit_of_mem _ hc) (by decide)
    rw [hlist, hbracket, spanUntil_append_cons hinside (by decide), hport]
    exact ⟨by simp [takeUserinfo, hsign, hdigits], rfl, takePort_toDigits hdefault⟩

theorem IsOrdinary.isFaithful (h : IsOrdinary u) (hread : parse s = .ok u) (hweb : IsWeb u)
    (hpath : u.path ≠ "") (hlength : u.toString.length ≤ maxLength) : IsFaithful u := by
  obtain ⟨hname, hsettled⟩ := exists_of_parse_web hread hweb hpath
  obtain ⟨huserinfo, hhost, hport⟩ := h.read_authority hweb.host
  have hscheme : u.scheme.toList.isEmpty = false ∧
      u.scheme.toList.map Char.toLower = u.scheme.toList := by
    rcases hweb.scheme with heq | heq <;> rw [heq] <;> exact ⟨rfl, rfl⟩
  unfold IsFaithful
  rw [hweb.toString_eq, parse_written hweb.scheme hname hsettled, ← hweb.toList_toString,
    String.length_toList, if_neg (Nat.not_lt.mpr hlength), ofParts_eq_ok_iff, huserinfo, hhost,
    String.ofList_toList]
  refine ⟨encodeHost_of_ordinary h hweb.host, hport, ?_, ?_, h.userinfo, ?_, hweb.query,
    hweb.fragment⟩
  · simp [checkPath, hsettled.rooted, hscheme.1]
  · rw [hscheme.2, String.ofList_toList]
  · rw [hscheme.1, Bool.not_false, Bool.true_or, if_pos rfl, hsettled.escape_removeDots,
      String.ofList_toList]

end ContentBinding.Url
