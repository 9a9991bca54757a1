import Mathlib.Data.List.DropRight
import ContentBinding.Proofs.Binding.Targets

/-! Reading a source set. HTML splits one at white space and commas into candidates, each an address
and its descriptors; a source set that is written reads as the reference that it was made from
exactly when the base name has no white space. -/

namespace ContentBinding.Binding

open Json (Value)
open Markup (isSpace)

namespace SourceSet

/-- An address with its descriptors. -/
structure Candidate where
  url : List Char
  descriptors : List (List Char)
  deriving Repr, DecidableEq

/-- Where reading stands: before a candidate, in its address, or in its descriptors. A comma within
the parentheses of a descriptor ends nothing. -/
inductive Mode
  | between
  | address (url : List Char)
  | descriptors (url : List Char) (inParens : Bool) (current : List Char) (done : List (List Char))
  deriving Repr, DecidableEq

def Mode.url : Mode → List Char
  | between => []
  | address url => url
  | descriptors url _ _ _ => url

/-- The descriptors once the current one ends; between two spaces there is none. -/
def ended (current : List Char) (done : List (List Char)) : List (List Char) :=
  if current = [] then done else done ++ [current]

def withoutCommas (url : List Char) : List Char :=
  url.rdropWhile (· = ',')

def scan : Mode → List Char → List Candidate
  | .between, [] => []
  | .between, c :: rest =>
    if isSpace c || c = ',' then scan .between rest else scan (.address [c]) rest
  | .address url, [] => [⟨withoutCommas url, []⟩]
  | .address url, c :: rest =>
    if isSpace c then
      if url.getLast? = some ',' then ⟨withoutCommas url, []⟩ :: scan .between rest
      else scan (.descriptors url false [] []) rest
    else scan (.address (url ++ [c])) rest
  | .descriptors url _ current done, [] => [⟨url, ended current done⟩]
  | .descriptors url true current done, c :: rest =>
    scan (.descriptors url (c != ')') (current ++ [c]) done) rest
  | .descriptors url false current done, c :: rest =>
    if isSpace c then scan (.descriptors url false [] (ended current done)) rest
    else if c = ',' then ⟨url, ended current done⟩ :: scan .between rest
    else scan (.descriptors url (c = '(') (current ++ [c]) done) rest

def width? (descriptor : List Char) : Option Nat :=
  let digits := descriptor.dropLast
  let width := Nat.ofDigitChars 10 digits 0
  if descriptor.getLast? = some 'w' ∧ digits ≠ [] ∧ digits.all Char.isDigit ∧ width ≠ 0 then some width
  else none

def Candidate.pair? (c : Candidate) : Option (String × Nat) :=
  match c.descriptors with
  | [d] => (width? d).map fun w => (String.ofList c.url, w)
  | _ => none

/-- The candidates of a source set in order; one that has no width, or more than that, is none. -/
def read (value : String) : List (Option (String × Nat)) :=
  (scan .between value.toList).map Candidate.pair?

/-! A candidate as it is written -/

/-- Text that reading takes as a whole. -/
def IsWord (word : List Char) : Prop :=
  ∀ c ∈ word, isSpace c = false

/-- A word with no commas at its ends is an address. -/
structure IsAddress (word : List Char) : Prop where
  isWord : IsWord word
  head : ∃ c rest, word = c :: rest ∧ c ≠ ','
  last : word.getLast? ≠ some ','

def IsDescriptor (word : List Char) : Prop :=
  word ≠ [] ∧ ∀ c ∈ word, isSpace c = false ∧ c ≠ ',' ∧ c ≠ '('

-- the library's instance for all characters would try every one there is
instance (word : List Char) : Decidable (IsWord word) :=
  List.decidableBAll _ word

instance (word : List Char) : Decidable (IsDescriptor word) :=
  have : Decidable (∀ c ∈ word, isSpace c = false ∧ c ≠ ',' ∧ c ≠ '(') :=
    List.decidableBAll _ word
  inferInstanceAs (Decidable (word ≠ [] ∧ _))

variable {url word rest : List Char}

theorem scan_address_append (h : IsWord word) (url rest : List Char) :
    scan (.address url) (word ++ rest) = scan (.address (url ++ word)) rest := by
  induction word generalizing url with
  | nil => rw [List.nil_append, List.append_nil]
  | cons c word ih =>
    obtain ⟨hc, hword⟩ := List.forall_mem_cons.mp h
    rw [List.cons_append, scan, if_neg (by simp [hc]), ih hword, List.append_assoc,
      List.singleton_append]

theorem scan_descriptor_append (h : ∀ c ∈ word, isSpace c = false ∧ c ≠ ',' ∧ c ≠ '(')
    (current rest : List Char) (done : List (List Char)) :
    scan (.descriptors url false current done) (word ++ rest) =
      scan (.descriptors url false (current ++ word) done) rest := by
  induction word generalizing current with
  | nil => rw [List.nil_append, List.append_nil]
  | cons c word ih =>
    obtain ⟨⟨hspace, hcomma, hparen⟩, hword⟩ := List.forall_mem_cons.mp h
    rw [List.cons_append, scan, if_neg (by simp [hspace]), if_neg hcomma, decide_eq_false hparen,
      ih hword, List.append_assoc, List.singleton_append]

theorem scan_between_address (h : IsAddress url) (rest : List Char) :
    scan .between (url ++ ' ' :: rest) = scan (.descriptors url false [] []) rest := by
  obtain ⟨c, cs, rfl, hcomma⟩ := h.head
  obtain ⟨hc, hcs⟩ := List.forall_mem_cons.mp h.isWord
  have hstart : ¬ (isSpace c || decide (c = ',')) = true := by simp [hc, hcomma]
  have hblank : isSpace ' ' = true := rfl
  rw [List.cons_append, scan, if_neg hstart, scan_address_append hcs, List.singleton_append, scan,
    if_pos hblank, if_neg h.last]

theorem scan_joined {entries : List (List Char × List Char)}
    (h : ∀ e ∈ entries, IsAddress e.1 ∧ IsDescriptor e.2) :
    scan .between ([',', ' '].intercalate (entries.map fun e => e.1 ++ ' ' :: e.2)) =
      entries.map fun e => ⟨e.1, [e.2]⟩ := by
  induction entries with
  | nil => rfl
  | cons e entries ih =>
    obtain ⟨⟨haddress, hne, hplain⟩, hentries⟩ := List.forall_mem_cons.mp h
    have hended : ended e.2 [] = [e.2] := if_neg hne
    cases entries with
    | nil =>
      have hread : scan (.descriptors e.1 false [] []) (e.2 ++ []) = [⟨e.1, [e.2]⟩] := by
        rw [scan_descriptor_append hplain, List.nil_append, scan, hended]
      rw [List.append_nil] at hread
      rw [List.map_singleton, List.intercalate_singleton, scan_between_address haddress, hread,
        List.map_singleton]
    | cons e' entries =>
      have hnext (rest : List Char) : scan (.descriptors e.1 false e.2 []) (',' :: ' ' :: rest) =
          ⟨e.1, [e.2]⟩ :: scan .between rest := by
        rw [← hended]
        rfl
      rw [List.map_cons, List.intercalate_cons_of_ne_nil (by simp), List.append_assoc,
        List.append_assoc, List.cons_append, scan_between_address haddress,
        scan_descriptor_append hplain, List.nil_append, List.cons_append, List.cons_append,
        List.nil_append, hnext, ih hentries]
      rfl

/-! What is read has no white space -/

theorem isWord_withoutCommas (h : IsWord url) : IsWord (withoutCommas url) :=
  fun _ hc => h _ ((List.rdropWhile_prefix _ _).subset hc)

theorem isWord_of_mem_scan {mode : Mode} {candidate : Candidate} (h : candidate ∈ scan mode rest)
    (hmode : IsWord mode.url) : IsWord candidate.url := by
  have hnil : IsWord [] := by simp [IsWord]
  have hsnoc {url : List Char} {c : Char} (hurl : IsWord url) (hc : ¬ isSpace c = true) :
      IsWord (url ++ [c]) := by
    intro d hd
    rcases List.mem_append.mp hd with hd | hd
    · exact hurl d hd
    · exact List.mem_singleton.mp hd ▸ Bool.eq_false_of_not_eq_true hc
  -- the mode holds what was read of the address; a space never gets there
  fun_induction scan mode rest with
  | case1 => exact absurd h List.not_mem_nil
  | case2 c rest hc ih => exact ih h hnil
  | case3 c rest hc ih => exact ih h (hsnoc hnil fun hspace => hc (by rw [hspace]; rfl))
  | case4 url => exact List.mem_singleton.mp h ▸ isWord_withoutCommas hmode
  | case5 url c rest hc hlast ih =>
    rcases List.mem_cons.mp h with rfl | h
    · exact isWord_withoutCommas hmode
    · exact ih h hnil
  | case6 url c rest hc hlast ih => exact ih h hmode
  | case7 url c rest hc ih => exact ih h (hsnoc hmode hc)
  | case8 url inParens current done => exact List.mem_singleton.mp h ▸ hmode
  | case9 url current done c rest ih => exact ih h hmode
  | case10 url current done c rest hc ih => exact ih h hmode
  | case11 url current done rest hspace ih =>
    rcases List.mem_cons.mp h with rfl | h
    · exact hmode
    · exact ih h hnil
  | case12 url current done c rest hspace hcomma ih => exact ih h hmode

theorem isWord_of_mem_read {value url : String} {width : Nat} (h : some (url, width) ∈ read value) :
    IsWord url.toList := by
  obtain ⟨candidate, hmem, hpair⟩ := List.mem_map.mp h
  have hword : IsWord candidate.url := isWord_of_mem_scan hmem (by simp [IsWord, Mode.url])
  unfold Candidate.pair? at hpair
  split at hpair
  · obtain ⟨w, -, hw⟩ := Option.map_eq_some_iff.mp hpair
    obtain ⟨rfl, rfl⟩ := Prod.mk.inj hw
    rwa [String.toList_ofList]
  · exact absurd hpair nofun

end SourceSet

namespace ImageReference

open SourceSet

variable {base : String} {codec : Codec}

def folder : String := "assets/optimized/images/"

def ending (codec : Codec) (width : Nat) : String :=
  "-" ++ toString width ++ "." ++ codec.name

def descriptor (width : Nat) : String :=
  toString width ++ "w"

theorem toList_address (base : String) (codec : Codec) (width : Nat) :
    (address base codec width).toList =
      folder.toList ++ (base.toList ++ (ending codec width).toList) := by
  have haddress : address base codec width = folder ++ base ++ ending codec width := by
    unfold address folder ending
    simp only [String.append_assoc]
  rw [haddress, String.toList_append, String.toList_append, List.append_assoc]

theorem isWord_ending (codec : Codec) {width : Nat} (hwidth : width ∈ widths) :
    IsWord (ending codec width).toList ∧
      (ending codec width).toList.getLast?.any (· != ',') = true := by
  revert width
  cases codec <;> decide

theorem isDescriptor_descriptor {width : Nat} (hwidth : width ∈ widths) :
    IsDescriptor (descriptor width).toList ∧ width? (descriptor width).toList = some width := by
  revert width
  decide

theorem isAddress_address (hbase : IsWord base.toList) (codec : Codec) {width : Nat}
    (hwidth : width ∈ widths) : IsAddress (address base codec width).toList := by
  have hfolder : IsWord folder.toList ∧ folder.toList.head? = some 'a' := by decide
  obtain ⟨hword, hending⟩ := isWord_ending codec hwidth
  rw [toList_address]
  constructor
  case isWord =>
    intro c hc
    rcases List.mem_append.mp hc with hc | hc
    · exact hfolder.1 c hc
    rcases List.mem_append.mp hc with hc | hc
    · exact hbase c hc
    · exact hword c hc
  case head =>
    obtain ⟨rest, hrest⟩ := List.head?_eq_some_iff.mp hfolder.2
    rw [hrest]
    exact ⟨'a', _, rfl, by decide⟩
  case last =>
    obtain ⟨last, hlast, hne⟩ := (Option.any_eq_true ..).mp hending
    rw [List.getLast?_append, List.getLast?_append, hlast]
    simpa using hne

theorem eq_of_ofBase? {r : ImageReference} (hr : ofBase? base = some r) :
    r = ⟨base, entries base .avif, entries base .webp, address base .webp fallbackWidth⟩ := by
  unfold ofBase? at hr
  split at hr
  · exact absurd hr.symm (Option.some_ne_none r)
  · exact (Option.some.inj hr).symm

theorem candidates_eq_entries {r : ImageReference} (hr : ofBase? base = some r) (codec : Codec) :
    r.candidates codec = entries base codec := by
  rw [eq_of_ofBase? hr]
  cases codec <;> rfl

theorem toList_srcset {r : ImageReference} (hr : ofBase? base = some r) (codec : Codec) :
    (r.srcset codec).toList = [',', ' '].intercalate
      (((entries base codec).map fun e => (e.2.toList, (descriptor e.1).toList)).map
        fun e => e.1 ++ ' ' :: e.2) := by
  have hseparator : ", ".toList = [',', ' '] := by decide
  have htext (e : Nat × String) :
      (candidateText e).toList = e.2.toList ++ ' ' :: (descriptor e.1).toList := by
    rw [candidateText, String.append_assoc, String.append_assoc, String.toList_append,
      String.toList_append]
    rfl
  rw [srcset, candidates_eq_entries hr, String.toList_intercalate, hseparator, List.map_map,
    List.map_map]
  exact congrArg _ (List.map_congr_left fun e _ => htext e)

/-- A source set reads as the candidates of the reference exactly when the base name is a word. -/
theorem read_srcset_iff {r : ImageReference} (hr : ofBase? base = some r) (codec : Codec) :
    read (r.srcset codec) = (r.candidates codec).map (fun e => some (e.2, e.1)) ↔
      IsWord base.toList := by
  rw [candidates_eq_entries hr]
  constructor
  · intro h c hc
    have hmem : some (address base codec 800, 800) ∈ read (r.srcset codec) := by
      rw [h]
      exact List.mem_map.mpr ⟨(800, _), List.mem_map.mpr ⟨800, by decide, rfl⟩, rfl⟩
    apply isWord_of_mem_read hmem c
    rw [toList_address]
    exact List.mem_append_right _ (List.mem_append_left _ hc)
  · intro hbase
    have hentries : ∀ e ∈ (entries base codec).map fun e => (e.2.toList, (descriptor e.1).toList),
        IsAddress e.1 ∧ IsDescriptor e.2 := by
      intro e he
      simp only [entries, List.map_map, List.mem_map] at he
      obtain ⟨width, hwidth, rfl⟩ := he
      exact ⟨isAddress_address hbase codec hwidth, (isDescriptor_descriptor hwidth).1⟩
    unfold SourceSet.read
    rw [toList_srcset hr, scan_joined hentries, List.map_map, List.map_map]
    apply List.map_congr_left
    intro e he
    obtain ⟨width, hwidth, rfl⟩ := List.mem_map.mp he
    simp only [Function.comp_apply, Candidate.pair?, (isDescriptor_descriptor hwidth).2,
      Option.map_some, String.ofList_toList]

end ImageReference

def ImageSlots.sourceOf {ε : Type} (slots : ImageSlots ε) : Codec → Option ε
  | .avif => slots.avif
  | .webp => slots.webp

variable {ε : Type} {document : Value} {b : ImageBinding ε} {w : Write ε}

theorem exists_srcset_of_mem_writes (hw : w ∈ (Plan.ofImage document b).writes)
    (hfield : w.field = .srcset) : ∃ base r codec, resolve document b.path = some (.str base) ∧
      ImageReference.ofBase? base = some r ∧ b.slots.sourceOf codec = some w.element ∧
        w.value = r.srcset codec := by
  unfold Plan.ofImage at hw
  split at hw
  · exact absurd hw List.not_mem_nil
  · exact absurd hw List.not_mem_nil
  · rename_i base hbase
    split at hw
    · exact absurd hw List.not_mem_nil
    · rename_i r hr
      simp only [Plan.ofReference, List.mem_append, Plan.mem_toSlot] at hw
      rcases hw with (⟨e, he, rfl⟩ | ⟨e, he, rfl⟩) | ⟨e, he, rfl⟩
      · exact ⟨base, r, .avif, hbase, hr, he, rfl⟩
      · exact ⟨base, r, .webp, hbase, hr, he, rfl⟩
      · exact Field.noConfusion hfield
  · exact absurd hw List.not_mem_nil

/-- A planned source set reads as the addresses and widths of the reference, widest first, exactly
when the name has no white space. -/
theorem planned_srcset_reads_iff (hw : w ∈ (Plan.ofImage document b).writes)
    (hfield : w.field = .srcset) : ∃ base r codec, resolve document b.path = some (.str base) ∧
      ImageReference.ofBase? base = some r ∧ b.slots.sourceOf codec = some w.element ∧
        (r.candidates codec).map (·.1) = [1600, 1200, 800, 400] ∧
          (SourceSet.read w.value = (r.candidates codec).map (fun e => some (e.2, e.1)) ↔
            ∀ c ∈ base.toList, isSpace c = false) := by
  obtain ⟨base, r, codec, hbase, hr, hslot, hvalue⟩ := exists_srcset_of_mem_writes hw hfield
  refine ⟨base, r, codec, hbase, hr, hslot, ?_, ?_⟩
  · rw [ImageReference.candidates_eq_entries hr]
    rfl
  · rw [hvalue]
    exact ImageReference.read_srcset_iff hr codec

/-! A name without white space, and one with a space -/

def heroDocument (name : String) : Value :=
  .obj [("hero", .str name)]

def heroBinding : ImageBinding Nat :=
  ⟨0, "hero", { avif := some 1 }⟩

theorem planned_srcset_reads_kitchen :
    ∃ w ∈ (Plan.ofImage (heroDocument "kitchen-1") heroBinding).writes,
      w.field = .srcset ∧ SourceSet.read w.value =
      [some ("assets/optimized/images/kitchen-1-1600.avif", 1600),
        some ("assets/optimized/images/kitchen-1-1200.avif", 1200),
        some ("assets/optimized/images/kitchen-1-800.avif", 800),
        some ("assets/optimized/images/kitchen-1-400.avif", 400)] := by
  have hresolve : resolve (heroDocument "kitchen-1") heroBinding.path = some (.str "kitchen-1") :=
    rfl
  refine ⟨_, List.mem_singleton.mpr rfl, rfl, ?_⟩
  obtain ⟨base, r, codec, hbase, hr, hslot, -, hread⟩ := planned_srcset_reads_iff
    (b := heroBinding) (show _ ∈ (Plan.ofImage (heroDocument "kitchen-1") _).writes from
      List.mem_singleton.mpr rfl) rfl
  obtain rfl := Value.str.inj (Option.some.inj (hresolve.symm.trans hbase))
  cases codec with
  | webp => exact absurd hslot nofun
  | avif =>
    have hword : SourceSet.IsWord "kitchen-1".toList := by decide
    rw [hread.mpr hword, ImageReference.candidates_eq_entries hr]
    decide

/-- The space ends the address, and what follows is no width. -/
theorem planned_srcset_spaced : ∃ r, ImageReference.ofBase? "a b" = some r ∧
    ∃ w ∈ (Plan.ofImage (heroDocument "a b") heroBinding).writes, w.field = .srcset ∧
      w.value = r.srcset .avif ∧ SourceSet.read w.value = [none, none, none, none] ∧
        SourceSet.read w.value ≠ (r.candidates .avif).map fun e => some (e.2, e.1) := by
  refine ⟨_, rfl, _, List.mem_singleton.mpr rfl, rfl, rfl, by decide +kernel, ?_⟩
  intro h
  have hr : ImageReference.ofBase? "a b" = some _ := rfl
  have hword := (ImageReference.read_srcset_iff hr .avif).mp h
  exact absurd hword (by decide)

end ContentBinding.Binding
