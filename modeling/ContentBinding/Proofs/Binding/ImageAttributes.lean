import ContentBinding.Proofs.Binding.SourceSet
import ContentBinding.Proofs.Binding.Unchanged
import ContentBinding.Proofs.Binding.Frame
import ContentBinding.Proofs.Markup.LegiblePages
import ContentBinding.Proofs.Markup.TagReading

/-! Addresses of images in start tags. Whatever stands in the name of an image, the start tag of the
element that its addresses were written to is read as one tag, with these addresses as the values of
their attributes and with no attribute that was not written or there before. -/

namespace ContentBinding.Binding

open Markup

def imageNames : List String := ["srcset", "src", "type", "alt"]

theorem isPlainName_of_mem_imageNames : ∀ name ∈ imageNames, Tokenizer.isPlainName name = true := by
  decide +kernel

/-! The element after the writes -/

section Elements

variable {n : NodeId} {e : Element} {ws : List (Write NodeId)}

theorem mem_attrs_foldl_attributed {a : String × String}
    (ha : a ∈ (ws.foldl (Write.attributed n) e).attrs) :
    (∃ w, lastTo? ws n (some a.1) = some w ∧ a.2 = w.value) ∨ a ∈ e.attrs := by
  have hentry : a ∈ (ws.foldl (Write.attributed n) e).entries a.1 :=
    List.mem_filter.mpr ⟨ha, decide_eq_true rfl⟩
  rw [entries_foldl_attributed] at hentry
  cases hlast : lastTo? ws n (some a.1) with
  | none =>
    rw [hlast] at hentry
    exact .inr (List.mem_filter.mp hentry).1
  | some w =>
    rw [hlast] at hentry
    exact .inl ⟨w, rfl, congrArg Prod.snd (Element.eq_of_mem_setEntries hentry)⟩

theorem Write.field_of_slot {w : Write NodeId} {key : String} (h : w.effect.slot = some key) :
    w.field ∈ [Field.srcset, Field.src] ∧ w.field.name = key := by
  obtain ⟨n, field, value⟩ := w
  cases field with
  | text => exact absurd h.symm (Option.some_ne_none _)
  | html => exact absurd h.symm (Option.some_ne_none _)
  | srcset => exact ⟨List.mem_cons_self, Option.some.inj h⟩
  | src => exact ⟨List.mem_cons_of_mem _ List.mem_cons_self, Option.some.inj h⟩

theorem name_of_slot {w : Write NodeId} {key : String} (h : w.effect.slot = some key) :
    Tokenizer.isAttrName key = true ∧ lowerString key = key ∧ key ∈ imageNames := by
  have hnames : ∀ field ∈ [Field.srcset, Field.src], Tokenizer.isAttrName field.name = true ∧
      lowerString field.name = field.name ∧ field.name ∈ imageNames := by decide
  obtain ⟨hfield, rfl⟩ := Write.field_of_slot h
  exact hnames w.field hfield

theorem isLegible_foldl_attributed (he : e.IsLegible)
    (hws : ∀ key w, lastTo? ws n (some key) = some w → '\x00' ∉ w.value.toList) :
    (ws.foldl (Write.attributed n) e).IsLegible where
  name := by
    rw [(name_foldl_attributed ws e).1]
    exact he.name
  attrs a ha := by
    rcases mem_attrs_foldl_attributed ha with ⟨w, hlast, hvalue⟩ | ha
    · obtain ⟨hname, hlower, -⟩ := name_of_slot (mem_of_lastTo? hlast).2.2
      exact ⟨hname, hvalue ▸ hws _ w hlast, .inl hlower⟩
    · exact he.attrs a ha

end Elements

/-! Addresses -/

namespace ImageReference

open SourceSet

variable {base : String}

theorem nul_not_mem_address (hbase : '\x00' ∉ base.toList) (codec : Codec) {width : Nat}
    (hwidth : width ∈ widths) : '\x00' ∉ (address base codec width).toList := by
  have hfolder : '\x00' ∉ folder.toList := by decide
  have hending : '\x00' ∉ (ending codec width).toList := by
    revert width
    cases codec <;> decide
  rw [toList_address, List.mem_append, List.mem_append, not_or, not_or]
  exact ⟨hfolder, hbase, hending⟩

theorem nul_not_mem_srcset (hbase : '\x00' ∉ base.toList) {r : ImageReference}
    (hr : ofBase? base = some r) (codec : Codec) : '\x00' ∉ (r.srcset codec).toList := by
  have hdescriptor : ∀ width ∈ widths, '\x00' ∉ ' ' :: (descriptor width).toList := by decide
  rw [toList_srcset hr, entries, List.map_map, List.map_map]
  intro hmem
  rcases Text.mem_of_mem_intercalate hmem with hmem | ⟨piece, hpiece, hmem⟩
  · exact absurd hmem (by decide)
  · obtain ⟨width, hwidth, rfl⟩ := List.mem_map.mp hpiece
    rcases List.mem_append.mp hmem with hmem | hmem
    · exact nul_not_mem_address hbase codec hwidth hmem
    · exact hdescriptor width hwidth hmem

end ImageReference

/-- The value of an attribute that is written holds no zero character. -/
def Write.IsLegible (w : Write NodeId) : Prop :=
  w.field = .srcset ∨ w.field = .src → '\x00' ∉ w.value.toList

variable {base : String} {r : ImageReference} {slots : ImageSlots NodeId} {w : Write NodeId}

theorem nul_not_mem_value (hbase : '\x00' ∉ base.toList) (hr : ImageReference.ofBase? base = some r)
    (hw : w ∈ (Plan.ofReference slots r).writes) : '\x00' ∉ w.value.toList := by
  simp only [Plan.ofReference, List.mem_append, Plan.mem_toSlot] at hw
  rcases hw with (⟨n, -, rfl⟩ | ⟨n, -, rfl⟩) | ⟨n, -, rfl⟩
  · exact ImageReference.nul_not_mem_srcset hbase hr .avif
  · exact ImageReference.nul_not_mem_srcset hbase hr .webp
  · show '\x00' ∉ r.fallback.toList
    rw [ImageReference.eq_of_ofBase? hr]
    exact ImageReference.nul_not_mem_address hbase .webp (by decide)

/-- A start tag with an address of an image is read as one tag, whatever stands in the name of the
image: the address is the value of its attribute, the other attributes have the values they had, and
every attribute was on the page or was written. So it is where the input is read with its line ends
made alike, if the tag holds no carriage return. -/
theorem image_address_reads_back {html : String} {ws : List (Write NodeId)} {e : Element}
    (he : (Page.parse html).element? w.element = some e)
    (hlast : lastTo? ws w.element (some w.field.name) = some w)
    (hbase : '\x00' ∉ base.toList) (hr : ImageReference.ofBase? base = some r)
    (hw : w ∈ (Plan.ofReference slots r).writes)
    (hothers : ∀ u ∈ ws, u.element = w.element → u.field ≠ w.field → u.IsLegible)
    (cdata : Bool) (rest : List Char) :
    ∃ e' t, (apply (Page.parse html) ws).element? w.element = some e' ∧
      Tokenizer.next .data cdata ((Tree.startTag e').toList ++ rest) =
        ([.startTag t], .data, rest) ∧
      ('\r' ∉ (Tree.startTag e').toList →
        Tokenizer.next .data cdata (normalizeLines ((Tree.startTag e').toList ++ rest)) =
          ([.startTag t], .data, normalizeLines rest)) ∧
      t.attr? w.field.name = some w.value ∧
      (∀ name ∈ imageNames, t.attr? name = e'.attr? name) ∧
      (∀ name ∈ imageNames, lastTo? ws w.element (some name) = none → t.attr? name = e.attr? name) ∧
      ∀ a ∈ t.attrs, (∃ u, lastTo? ws w.element (some a.1) = some u ∧ a.2 = u.value) ∨
        ∃ b ∈ e.attrs, a = (lowerString b.1, b.2) := by
  -- of the values that were written only the last of each attribute has to be readable
  set e' := ws.foldl (Write.attributed w.element) e
  have hvalues : ∀ key u, lastTo? ws w.element (some key) = some u → '\x00' ∉ u.value.toList := by
    intro key u hu
    obtain ⟨hmem, hn, hslot⟩ := mem_of_lastTo? hu
    obtain ⟨hfield, hkey⟩ := Write.field_of_slot hslot
    by_cases hsame : u.field = w.field
    · rw [← hkey, hsame, hlast] at hu
      exact Option.some.inj hu ▸ nul_not_mem_value hbase hr hw
    · exact hothers u hmem hn hsame (by simpa using hfield)
  have hlegible : e'.IsLegible :=
    isLegible_foldl_attributed ((Page.isLegible_parse html).element he) hvalues
  have hread : ∀ name ∈ imageNames, (Tokenizer.readTag e').attr? name = e'.attr? name :=
    fun name hname => Tokenizer.attr?_readTag hlegible (isPlainName_of_mem_imageNames name hname)
  have hwritten : e'.attr? w.field.name = some w.value := by
    obtain ⟨value, heffect, hvalue⟩ := attr?_foldl_of_lastTo? e hlast
    rw [hvalue, Write.value_of_effect heffect]
  have hname : w.field.name ∈ imageNames := (name_of_slot (mem_of_lastTo? hlast).2.2).2.2
  refine ⟨e', Tokenizer.readTag e', element?_apply he ws,
    Tokenizer.next_readTag hlegible cdata rest, fun hcr => ?_, (hread _ hname).trans hwritten, hread,
    fun name hname hnone => ?_, fun a ha => ?_⟩
  · rw [normalizeLines_append hcr]
    exact Tokenizer.next_readTag hlegible cdata (normalizeLines rest)
  · exact (hread name hname).trans (attr?_foldl_of_none e hnone)
  · obtain ⟨b, hb, rfl⟩ := Tokenizer.exists_of_mem_readTag ha
    rcases mem_attrs_foldl_attributed hb with ⟨u, hu, hvalue⟩ | hb
    · have hlower : lowerString b.1 = b.1 := (name_of_slot (mem_of_lastTo? hu).2.2).2.1
      refine .inl ⟨u, ?_, hvalue⟩
      rw [Tokenizer.lowerAttr, hlower]
      exact hu
    · exact .inr ⟨b, hb, rfl⟩

/-! A name with both quotes, a reference and brackets -/

def quotedName : String := "a\"b'<c&amp;>"

def sourcePage : String := "<source type=image/avif><img alt=\"it's\">"

def sourceSlots : ImageSlots NodeId :=
  { avif := some 4, img := some 5 }

theorem image_address_reads_back_quoted : ∃ r w, ImageReference.ofBase? quotedName = some r ∧
    w ∈ (Plan.ofReference sourceSlots r).writes ∧ w.field = .srcset ∧
    ∃ e' t, (apply (Page.parse sourcePage) (Plan.ofReference sourceSlots r).writes).element? 4 =
        some e' ∧
      Tokenizer.next .data false ((Tree.startTag e').toList ++ ['b']) =
        ([.startTag t], .data, ['b']) ∧
      t.attr? "srcset" = some w.value ∧ t.attr? "type" = some "image/avif" := by
  obtain ⟨r, hr⟩ : ∃ r, ImageReference.ofBase? quotedName = some r := ⟨_, rfl⟩
  let w : Write NodeId := ⟨4, .srcset, r.srcset .avif⟩
  have hw : w ∈ (Plan.ofReference sourceSlots r).writes := List.mem_cons_self
  have he : (Page.parse sourcePage).element? 4 =
      some { name := "source", attrs := [("type", "image/avif")] } := by decide +kernel
  have hothers : ∀ u ∈ (Plan.ofReference sourceSlots r).writes, u.element = 4 →
      u.field ≠ .srcset → u.IsLegible := by
    intro u hu hn hfield
    rcases List.mem_pair.mp hu with rfl | rfl
    · exact absurd rfl hfield
    · have hne : (5 : NodeId) ≠ 4 := by decide
      exact absurd hn hne
  obtain ⟨e', t, hafter, hnext, -, hvalue, -, hkept, -⟩ :=
    image_address_reads_back he (w := w) rfl (by decide) hr hw hothers false ['b']
  exact ⟨r, w, hr, hw, rfl, e', t, hafter, hnext, hvalue, hkept "type" (by decide) rfl⟩

end ContentBinding.Binding
