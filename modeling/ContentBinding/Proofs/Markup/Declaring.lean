import Mathlib.Data.List.TakeWhile
import ContentBinding.Markup.Encoding
import ContentBinding.Proofs.Markup.Escaping
import ContentBinding.Proofs.Text.Utf8

/-! The encodings that markup declares. The search for a declaration stops at the first that it
finds near the front; here all are collected that it could find, so that markup can be searched
piece by piece. What is found in a part of the markup is found in the whole, or it is no name. -/

namespace ContentBinding.Markup.Encoding

variable {cs tail rest word name : List Char} {found : String}

/-- The names in a tag that begins here, behind its bracket. -/
def namesAt (cs : List Char) : List (List Char) :=
  match afterWord? "meta".toList (skipSpaces cs) with
  | some tail => (tagNames tail).filterMap metaName?
  | none => []

/-- The names that all `meta` tags declare. -/
def metaNames : List Char → List (List Char)
  | [] => []
  | c :: cs => (if c = '<' then namesAt cs else []) ++ metaNames cs

theorem namesAt_of_some (h : afterWord? "meta".toList (skipSpaces cs) = some tail) :
    namesAt cs = (tagNames tail).filterMap metaName? := by
  unfold namesAt
  rw [h]

theorem metaNames_of_not_mem (h : '<' ∉ cs) : metaNames cs = [] := by
  induction cs with
  | nil => rfl
  | cons c cs ih =>
    rw [List.mem_cons, not_or] at h
    rw [metaNames, if_neg (Ne.symm h.1), ih h.2]
    rfl

theorem mem_metaNames_of_first (h : firstMetaName? cs = some name) : name ∈ metaNames cs := by
  induction cs with
  | nil => cases h
  | cons c cs ih =>
    rw [metaNames, List.mem_append]
    rw [firstMetaName?, Option.or_eq_some_iff] at h
    rcases h with h | ⟨-, h⟩
    · left
      split at h
      · next hc =>
        rw [if_pos hc]
        split at h
        · next tail htail =>
          rw [namesAt_of_some htail]
          obtain ⟨t, ht, hname⟩ := List.exists_of_findSome?_eq_some h
          exact List.mem_filterMap.mpr ⟨t, ht, hname⟩
        · cases h
      · cases h
    · exact .inr (ih h)

/-! Words -/

theorem skipSpaces_append (h : skipSpaces cs ≠ []) :
    skipSpaces (cs ++ rest) = skipSpaces cs ++ rest := by
  unfold skipSpaces at h ⊢
  rw [List.dropWhile_append, if_neg]
  simpa using h

theorem length_of_afterWord? (h : afterWord? word cs = some tail) : word.length ≤ cs.length := by
  unfold afterWord? at h
  split at h
  · next hword =>
    have hlength := congrArg List.length hword
    rw [List.length_map, List.length_take] at hlength
    omega
  · cases h

theorem afterWord?_append_of_le (h : word.length ≤ cs.length) :
    afterWord? word (cs ++ rest) = (afterWord? word cs).map (· ++ rest) := by
  unfold afterWord?
  rw [List.take_append_of_le_length h, List.drop_append_of_le_length h]
  split <;> rfl

theorem mem_afterWords_append (h : tail ∈ afterWords word cs) (rest : List Char) :
    tail ++ rest ∈ afterWords word (cs ++ rest) := by
  induction cs with
  | nil => cases h
  | cons c cs ih =>
    rw [afterWords, List.mem_append] at h
    rw [List.cons_append, afterWords, List.mem_append]
    refine h.imp ih fun h => ?_
    rw [Option.mem_toList] at h ⊢
    rw [← List.cons_append, afterWord?_append_of_le (length_of_afterWord? h), h]
    rfl

/-! Tags that end in the part -/

theorem gt_mem_skipSpaces (h : '>' ∈ cs) : '>' ∈ skipSpaces cs := by
  unfold skipSpaces
  rw [← List.takeWhile_append_dropWhile (p := isSpace) (l := cs), List.mem_append] at h
  exact h.resolve_left fun hspace =>
    absurd (List.mem_takeWhile_imp hspace) (by decide)

theorem afterWord?_append (hword : '>' ∉ word) (h : '>' ∈ cs) (rest : List Char) :
    afterWord? word (cs ++ rest) = (afterWord? word cs).map (· ++ rest) := by
  by_cases hlength : word.length ≤ cs.length
  · exact afterWord?_append_of_le hlength
  · have hne (more : List Char) : afterWord? word (cs ++ more) = none := by
      refine if_neg fun heq => hword ?_
      rw [← heq, List.mem_map]
      refine ⟨'>', ?_, rfl⟩
      rw [List.take_append, List.take_of_length_le (by omega)]
      exact List.mem_append_left _ h
    have hnil := hne []
    rw [List.append_nil] at hnil
    rw [hne, hnil]
    rfl

theorem gt_mem_of_afterWord? (hword : '>' ∉ word) (h : '>' ∈ cs)
    (htail : afterWord? word cs = some tail) : '>' ∈ tail := by
  unfold afterWord? at htail
  split at htail
  · next heq =>
    obtain rfl := Option.some.inj htail
    rw [← List.take_append_drop word.length cs, List.mem_append] at h
    refine h.resolve_left fun htake => hword ?_
    rw [← heq, List.mem_map]
    exact ⟨'>', htake, rfl⟩
  · cases htail

theorem tagNames_closed (h : '>' ∉ tail) (rest : List Char) : tagNames (tail ++ '>' :: rest) =
    (afterWords "charset".toList (tail.drop 1)).map (· ++ ['>']) := by
  have hne : ∀ c ∈ tail, (c != '>') = true := fun c hc => bne_iff_ne.mpr fun heq => h (heq ▸ hc)
  have hinside : (tail ++ '>' :: rest).takeWhile (· != '>') = tail := by
    rw [List.takeWhile_append_of_pos hne, List.takeWhile_cons_of_neg (by decide), List.append_nil]
  unfold tagNames
  rw [hinside]
  dsimp only
  rw [List.drop_left]
  rfl

theorem tagNames_append (h : '>' ∈ tail) (rest : List Char) :
    tagNames (tail ++ rest) = tagNames tail := by
  obtain ⟨inside, after, rfl, hinside⟩ := List.eq_append_cons_of_mem h
  rw [List.append_assoc, List.cons_append, tagNames_closed hinside, tagNames_closed hinside]

theorem namesAt_append (h : '>' ∈ cs) (rest : List Char) : namesAt (cs ++ rest) = namesAt cs := by
  have hgt := gt_mem_skipSpaces h
  unfold namesAt
  rw [skipSpaces_append (List.ne_nil_of_mem hgt), afterWord?_append (by decide) hgt]
  cases htail : afterWord? "meta".toList (skipSpaces cs) with
  | none => rfl
  | some tail =>
    rw [Option.map_some]
    dsimp only
    rw [tagNames_append (gt_mem_of_afterWord? (by decide) hgt htail)]

def IsClosed : List Char → Prop
  | [] => True
  | c :: cs => (c = '<' → '>' ∈ cs) ∧ IsClosed cs

theorem isClosed_of_not_mem (h : '<' ∉ cs) : IsClosed cs := by
  induction cs with
  | nil => trivial
  | cons c cs ih =>
    rw [List.mem_cons, not_or] at h
    exact ⟨fun heq => absurd heq.symm h.1, ih h.2⟩

theorem isClosed_concat (cs : List Char) : IsClosed (cs ++ ['>']) := by
  induction cs with
  | nil => exact ⟨fun h => absurd h (by decide), trivial⟩
  | cons c cs ih => exact ⟨fun _ => List.mem_append_right _ List.mem_cons_self, ih⟩

theorem IsClosed.append (h : IsClosed cs) (hrest : IsClosed rest) : IsClosed (cs ++ rest) := by
  induction cs with
  | nil => exact hrest
  | cons c cs ih => exact ⟨fun hc => List.mem_append_left _ (h.1 hc), ih h.2⟩

theorem IsClosed.metaNames_append (h : IsClosed cs) (rest : List Char) :
    metaNames (cs ++ rest) = metaNames cs ++ metaNames rest := by
  induction cs with
  | nil => rfl
  | cons c cs ih =>
    rw [List.cons_append, metaNames, metaNames, ih h.2, List.append_assoc]
    by_cases hc : c = '<'
    · rw [if_pos hc, if_pos hc, namesAt_append (h.1 hc)]
    · rw [if_neg hc, if_neg hc]

/-! The part near the front -/

def unquoted (value : List Char) : List Char :=
  match value with
  | q :: rest => if isQuote q then rest else value
  | [] => []

theorem unquoted_append (h : cs ≠ []) : unquoted (cs ++ rest) = unquoted cs ++ rest := by
  cases cs with
  | nil => exact absurd rfl h
  | cons q cs =>
    rw [List.cons_append, unquoted, unquoted]
    split <;> rfl

theorem metaName?_of_eq (h : skipSpaces cs = '=' :: rest) : metaName? cs =
    if (unquoted (skipSpaces rest)).any endsName then
      some ((unquoted (skipSpaces rest)).takeWhile fun c => !endsName c)
    else if rest.any endsName then some []
    else none := by
  unfold metaName? unquoted
  rw [h]
  rfl

theorem takeWhile_append_of_any {p : Char → Bool} (h : cs.any p = true) (rest : List Char) :
    (cs ++ rest).takeWhile (fun c => !p c) = cs.takeWhile fun c => !p c := by
  obtain ⟨c, hc, hp⟩ := List.any_eq_true.mp h
  induction cs with
  | nil => cases hc
  | cons a cs ih =>
    rw [List.cons_append, List.takeWhile_cons, List.takeWhile_cons]
    split
    · next ha =>
      have hcs : c ∈ cs := (List.mem_cons.mp hc).resolve_left fun heq => by
        rw [← heq, hp] at ha
        exact Bool.false_ne_true ha
      rw [ih (List.any_eq_true.mpr ⟨c, hcs, hp⟩) hcs]
    · rfl

theorem metaName?_append (h : metaName? cs = some name) (rest : List Char) :
    name = [] ∨ metaName? (cs ++ rest) = some name := by
  have hmark : ∃ value, skipSpaces cs = '=' :: value := by
    unfold metaName? at h
    split at h
    · next value heq => exact ⟨value, heq⟩
    · cases h
  obtain ⟨value, hvalue⟩ := hmark
  have hwhole : skipSpaces (cs ++ rest) = '=' :: (value ++ rest) := by
    rw [skipSpaces_append (by rw [hvalue]; exact List.cons_ne_nil _ _), hvalue, List.cons_append]
  rw [metaName?_of_eq hvalue] at h
  split at h
  · next hends =>
    have hne : skipSpaces value ≠ [] := fun hnil => by
      rw [hnil] at hends
      cases hends
    have hends' : (unquoted (skipSpaces value) ++ rest).any endsName = true := by
      rw [List.any_append, hends, Bool.true_or]
    right
    rw [metaName?_of_eq hwhole, skipSpaces_append hne, unquoted_append hne, if_pos hends',
      takeWhile_append_of_any hends]
    exact h
  · split at h
    · exact .inl (Option.some.inj h).symm
    · cases h

theorem mem_tagNames_append {t : List Char} (h : t ∈ tagNames tail) (rest : List Char) :
    ∃ more, t ++ more ∈ tagNames (tail ++ rest) := by
  by_cases hgt : '>' ∈ tail
  · refine ⟨[], ?_⟩
    rw [List.append_nil, tagNames_append hgt]
    exact h
  · have hne : ∀ c ∈ tail, (c != '>') = true :=
      fun c hc => bne_iff_ne.mpr fun heq => hgt (heq ▸ hc)
    have hinside : tail.takeWhile (· != '>') = tail := List.takeWhile_eq_self_iff.mpr hne
    unfold tagNames at h ⊢
    rw [hinside] at h
    dsimp only at h ⊢
    rw [List.drop_length, List.take_nil] at h
    obtain ⟨t, ht, rfl⟩ := List.mem_map.mp h
    rw [List.takeWhile_append_of_pos hne]
    have htail : tail ≠ [] := fun hnil => by
      rw [hnil] at ht
      cases ht
    have hdrop (w : List Char) : (tail ++ w).drop 1 = tail.drop 1 ++ w := by
      rw [List.drop_append_of_le_length (List.length_pos_iff.mpr htail)]
    rw [hdrop, List.append_nil]
    exact ⟨_, List.mem_map.mpr ⟨_, mem_afterWords_append ht _, List.append_assoc ..⟩⟩

theorem mem_namesAt_append (h : name ∈ namesAt cs) (rest : List Char) :
    name = [] ∨ name ∈ namesAt (cs ++ rest) := by
  unfold namesAt at h
  split at h
  · next tail htail =>
    obtain ⟨t, ht, hname⟩ := List.mem_filterMap.mp h
    have hlength := length_of_afterWord? htail
    have hne : skipSpaces cs ≠ [] := List.ne_nil_of_length_pos (Nat.lt_of_lt_of_le (by decide) hlength)
    have hwhole : afterWord? "meta".toList (skipSpaces (cs ++ rest)) = some (tail ++ rest) := by
      rw [skipSpaces_append hne, afterWord?_append_of_le hlength, htail]
      rfl
    obtain ⟨more, hmem⟩ := mem_tagNames_append ht rest
    refine (metaName?_append hname more).imp_right fun hname => ?_
    rw [namesAt_of_some hwhole]
    exact List.mem_filterMap.mpr ⟨_, hmem, hname⟩
  · cases h

theorem mem_metaNames_of_take {k : Nat} (h : name ∈ metaNames (cs.take k)) :
    name = [] ∨ name ∈ metaNames cs := by
  induction cs generalizing k with
  | nil =>
    rw [List.take_nil] at h
    cases h
  | cons c cs ih =>
    cases k with
    | zero => cases h
    | succ k =>
      rw [List.take_succ_cons, metaNames, List.mem_append] at h
      rw [metaNames, List.mem_append]
      rcases h with h | h
      · by_cases hc : c = '<'
        · rw [if_pos hc] at h
          have hwhole := mem_namesAt_append h (cs.drop k)
          rw [List.take_append_drop] at hwhole
          rw [if_pos hc]
          exact hwhole.imp_right .inl
        · rw [if_neg hc] at h
          cases h
      · exact (ih h).imp_right .inr

/-! Markup in bytes -/

/-- The bytes of a text as the search reads them. -/
def octets (s : String) : List Char :=
  (Text.encodeUtf8 s).map fun b => Char.ofNat b.toNat

theorem octets_append (a b : String) : octets (a ++ b) = octets a ++ octets b := by
  rw [octets, Text.encodeUtf8_append, List.map_append, octets, octets]

theorem mem_of_mem_octets {s : String} {c : Char} (h : c ∈ octets s) (hc : c.toNat < 0x80) :
    c ∈ s.toList := by
  obtain ⟨b, hb, rfl⟩ := List.mem_map.mp h
  obtain ⟨d, hd, hb⟩ := List.mem_flatMap.mp hb
  have hbyte := b.toNat_lt
  have hvalid : b.toNat.isValidChar := .inl (by omega)
  have hnumber : (Char.ofNat b.toNat).toNat = b.toNat := by
    rw [Char.ofNat, dif_pos hvalid]
    rfl
  rw [hnumber] at hc
  by_cases hascii : d.toNat < 0x80
  · rw [Text.encodeChar_ascii hascii, List.mem_singleton] at hb
    rw [hb, Text.toNat_byte (by omega), Char.ofNat_toNat]
    exact hd
  · have hhigh := Text.le_of_mem_encodeChar (Nat.not_lt.mp hascii) hb
    omega

theorem instructionName?_eq_none {c : Char} (hc : c ≠ '?') :
    instructionName? ('<' :: c :: rest) = none := by
  have hspaces : skipSpaces ('<' :: c :: rest) = '<' :: c :: rest :=
    List.dropWhile_cons_of_neg (by decide)
  unfold instructionName?
  rw [hspaces]
  split
  · next heq => exact absurd (List.cons.inj (List.cons.inj heq).2).1 hc
  · rfl

/-- A name of the encoding that pages are written in, or none. -/
def isOwn (name : List Char) : Bool :=
  name.isEmpty || charsetOf? (String.ofList name).toLower = some .utf8

/-- The piece of markup, taken alone, declares no other encoding. -/
def declaresOwn (piece : String) : Bool :=
  (metaNames (octets piece)).all isOwn

def Begins (s : String) : Prop :=
  ∃ c ∈ ['!', 'h'], ∃ rest, s.toList = '<' :: c :: rest

variable {s : String}

theorem Begins.encodeUtf8_eq (h : Begins s) : ∃ bs, Text.encodeUtf8 s = 0x3C :: bs := by
  obtain ⟨c, hc, rest, hs⟩ := h
  refine ⟨(c :: rest).flatMap Text.encodeChar, ?_⟩
  rw [Text.encodeUtf8, hs]
  rfl

theorem Begins.octets_eq (h : Begins s) : ∃ c rest, c ≠ '?' ∧ octets s = '<' :: c :: rest := by
  obtain ⟨c, hc, rest, hs⟩ := h
  refine ⟨c, (rest.flatMap Text.encodeChar).map fun b => Char.ofNat b.toNat, ?_⟩
  simp only [List.mem_cons, List.not_mem_nil, or_false] at hc
  rw [octets, Text.encodeUtf8, hs]
  rcases hc with rfl | rfl
  · exact ⟨by decide, rfl⟩
  · exact ⟨by decide, rfl⟩

theorem Begins.takeMark_eq (h : Begins s) :
    takeMark (Text.encodeUtf8 s) = (none, Text.encodeUtf8 s) := by
  obtain ⟨bs, hbs⟩ := h.encodeUtf8_eq
  rw [hbs]
  rfl

theorem Begins.charsetOf?_of_declared? (h : Begins s) (hown : declaresOwn s = true)
    (hfound : declared? (Text.encodeUtf8 s) = some found) : charsetOf? found = some .utf8 := by
  obtain ⟨c, rest, hc, hbegin⟩ := h.octets_eq
  have hinstruction : instructionName? ((octets s).take instructionWindow) = none := by
    rw [hbegin]
    exact instructionName?_eq_none hc
  have hoctets : ((Text.encodeUtf8 s).map fun b => Char.ofNat b.toNat) = octets s := rfl
  unfold declared? at hfound
  rw [hoctets] at hfound
  dsimp only at hfound
  rw [hinstruction, Option.none_or] at hfound
  split at hfound
  · next d ds hname =>
    obtain rfl := Option.some.inj hfound
    have hmem := (mem_metaNames_of_take (mem_metaNames_of_first hname)).resolve_left
      (List.cons_ne_nil d ds)
    simpa [isOwn] using List.all_eq_true.mp hown _ hmem
  · cases hfound

theorem decode?_encodeUtf8 (s : String) :
    Text.Charset.utf8.decode? (Text.encodeUtf8 s) = some s.toList := by
  rw [Text.Charset.decode?, Text.decodeUtf8_encodeUtf8]
  rfl

variable (codecs : Codecs)

theorem findSome_candidates (s : String) :
    (candidates codecs none (Text.encodeUtf8 s)).findSome? (fun decode =>
        decode (Text.encodeUtf8 s)) =
      (((declared? (Text.encodeUtf8 s)).bind codecs.decoder?).bind
        fun decode => decode (Text.encodeUtf8 s)).or (some s.toList) := by
  unfold candidates
  rw [Option.map_none, Option.toList_none, List.nil_append, List.append_assoc,
    List.findSome?_append, List.singleton_append, List.findSome?_cons, decode?_encodeUtf8]
  cases (declared? (Text.encodeUtf8 s)).bind codecs.decoder? with
  | none => rfl
  | some decode =>
    rw [Option.toList_some, List.findSome?_singleton]
    rfl

theorem Begins.decodePage_iff_findSome (h : Begins s) :
    codecs.decodePage (Text.encodeUtf8 s) = some s ↔
      (candidates codecs none (Text.encodeUtf8 s)).findSome? (fun decode =>
        decode (Text.encodeUtf8 s)) = some s.toList := by
  unfold Codecs.decodePage
  rw [h.takeMark_eq]
  dsimp only
  split
  · next c cs hread =>
    rw [hread, Option.some_inj, Option.some_inj]
    constructor
    · rintro rfl
      rw [String.toList_ofList]
    · intro hcs
      rw [hcs, String.ofList_toList]
  · next hread =>
    refine ⟨fun hnone => absurd hnone.symm (Option.some_ne_none _), fun hsome => ?_⟩
    obtain ⟨c, -, rest, hs⟩ := h
    exact absurd (hsome.trans (congrArg some hs)) (hread _ _)

/-- The bytes of markup are read as that markup exactly if the decoder of the declared name, where
there is one and it fits the bytes, reads the same. -/
theorem Begins.decodePage_iff (h : Begins s) : codecs.decodePage (Text.encodeUtf8 s) = some s ↔
    ∀ decode, (declared? (Text.encodeUtf8 s)).bind codecs.decoder? = some decode →
      decode (Text.encodeUtf8 s) = none ∨ decode (Text.encodeUtf8 s) = some s.toList := by
  rw [h.decodePage_iff_findSome, findSome_candidates]
  cases (declared? (Text.encodeUtf8 s)).bind codecs.decoder? with
  | none => exact ⟨fun _ _ hc => absurd hc.symm (Option.some_ne_none _), fun _ => rfl⟩
  | some decode =>
    rw [Option.bind_some]
    simp only [Option.some_inj, forall_eq']
    cases decode (Text.encodeUtf8 s) with
    | none => exact ⟨fun _ => .inl rfl, fun _ => rfl⟩
    | some cs => exact ⟨.inr, fun hread => hread.resolve_left (Option.some_ne_none cs)⟩

end ContentBinding.Markup.Encoding

namespace ContentBinding.Markup.Tree

open Encoding

mutual

/-- No piece of the markup of a tree declares another encoding than the one that pages are written
in: no tag, no comment, no doctype, and no text that is written as it is. -/
def declaresOwn : Tree → Bool
  | .doctype s => Encoding.declaresOwn (render false (.doctype s))
  | .comment s => Encoding.declaresOwn (render false (.comment s))
  | .text _ => true
  | .element e children =>
    Encoding.declaresOwn (startTag e) &&
      if isRawName e.name then Encoding.declaresOwn (renderAll true children ++ endTag e)
      else declaresOwnAll children && Encoding.declaresOwn (endTag e)

def declaresOwnAll : List Tree → Bool
  | [] => true
  | t :: rest => declaresOwn t && declaresOwnAll rest

end

variable {e : Element} {ts : List Tree} {name : List Char}

theorem isClosed_gt (s : String) : IsClosed (octets (s ++ ">")) := by
  rw [octets_append]
  exact isClosed_concat (octets s)

theorem isClosed_startTag (e : Element) : IsClosed (octets (startTag e)) :=
  isClosed_gt _

theorem lt_not_mem_octets_text (s : String) : '<' ∉ octets (render false (.text s)) :=
  fun h => lt_not_mem_escape s (mem_of_mem_octets h (by decide))

theorem isClosed_render (t : Tree) : IsClosed (octets (render false t)) := by
  cases t with
  | doctype s =>
    have hline : render false (.doctype s) = "<!DOCTYPE " ++ s ++ ">" ++ "\n" := by
      rw [render, String.append_assoc, String.append_assoc, String.append_assoc]
      rfl
    rw [hline, octets_append]
    exact (isClosed_gt _).append (isClosed_of_not_mem (by decide))
  | comment s =>
    have hend : render false (.comment s) = "<!--" ++ s ++ "--" ++ ">" := by
      rw [render, String.append_assoc, String.append_assoc, String.append_assoc]
      rfl
    rw [hend]
    exact isClosed_gt _
  | text s => exact isClosed_of_not_mem (lt_not_mem_octets_text s)
  | element e children =>
    rw [render]
    split
    · exact isClosed_startTag e
    · rw [endTag, ← String.append_assoc, ← String.append_assoc, ← String.append_assoc]
      exact isClosed_gt _

theorem isClosed_renderAll (ts : List Tree) : IsClosed (octets (renderAll false ts)) := by
  induction ts with
  | nil => trivial
  | cons t ts ih =>
    rw [renderAll, octets_append]
    exact (isClosed_render t).append ih

mutual

theorem isOwn_of_mem_render {t : Tree} (h : declaresOwn t = true)
    (hname : name ∈ metaNames (octets (render false t))) : isOwn name = true := by
  cases t with
  | doctype s => exact List.all_eq_true.mp h name hname
  | comment s => exact List.all_eq_true.mp h name hname
  | text s =>
    rw [metaNames_of_not_mem (lt_not_mem_octets_text s)] at hname
    cases hname
  | element e children =>
    rw [declaresOwn, Bool.and_eq_true] at h
    rw [render] at hname
    split at hname
    · exact List.all_eq_true.mp h.1 name hname
    · rw [octets_append, (isClosed_startTag e).metaNames_append, List.mem_append] at hname
      rcases hname with hname | hname
      · exact List.all_eq_true.mp h.1 name hname
      · by_cases hraw : isRawName e.name = true
        · rw [if_pos hraw] at h
          rw [hraw] at hname
          exact List.all_eq_true.mp h.2 name hname
        · rw [if_neg hraw, Bool.and_eq_true] at h
          rw [Bool.eq_false_iff.mpr hraw, octets_append,
            (isClosed_renderAll children).metaNames_append, List.mem_append] at hname
          rcases hname with hname | hname
          · exact isOwn_of_mem_renderAll h.2.1 hname
          · exact List.all_eq_true.mp h.2.2 name hname

theorem isOwn_of_mem_renderAll {ts : List Tree} (h : declaresOwnAll ts = true)
    (hname : name ∈ metaNames (octets (renderAll false ts))) : isOwn name = true := by
  cases ts with
  | nil => cases hname
  | cons t ts =>
    rw [declaresOwnAll, Bool.and_eq_true] at h
    rw [renderAll, octets_append, (isClosed_render t).metaNames_append, List.mem_append] at hname
    rcases hname with hname | hname
    · exact isOwn_of_mem_render h.1 hname
    · exact isOwn_of_mem_renderAll h.2 hname

end

theorem declaresOwn_renderAll (h : declaresOwnAll ts = true) :
    Encoding.declaresOwn (renderAll false ts) = true :=
  List.all_eq_true.mpr fun _ hname => isOwn_of_mem_renderAll h hname

end ContentBinding.Markup.Tree
