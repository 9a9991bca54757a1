import ContentBinding.Proofs.Binding.SecondPass

/-! Idempotence. A second pass changes nothing exactly when the first one leaves every picture slot
and every project heading with the value that it has by its place on the new page; this is so when
no text that was replaced held anything that pictures and projects are found by. -/

namespace ContentBinding.Binding

open Json (Value)
open Markup

/-- Elements that pictures, their slots, project items and headings are found by. -/
def isPositional (p : Page) (n : NodeId) : Bool :=
  Discovery.isNamed p "picture" n || Discovery.isSource p "image/avif" n ||
    Discovery.isSource p "image/webp" n || Discovery.isNamed p "img" n ||
    Discovery.isNamed p headingName n || Discovery.hasClass p projectClass n

/-- Nothing that a plan replaces holds such an element, and nothing that it puts there. -/
def Undisturbed (p : Page) (document : Value) : Prop :=
  ∀ b, Replaces (Plan.ofScan (scan p) document).writes b →
    (∀ n, p.Above b n → isPositional p n = false) ∧
    ∀ n, (inject p document).1.Above b n → isPositional (inject p document).1 n = false

/-! Searches that see positional elements only -/

theorem find?_congr {α : Type} {l : List α} {f g : α → Bool} (h : ∀ a ∈ l, f a = g a) :
    l.find? f = l.find? g := by
  induction l with
  | nil => rfl
  | cons a l ih =>
    rw [List.find?_cons, List.find?_cons, h a (List.mem_cons_self ..),
      ih fun b hb => h b (List.mem_cons_of_mem _ hb)]

section Searches

variable {p q : Page} {ws : List (Write NodeId)} {n : NodeId}

theorem firstBelow?_eq {test : NodeId → Bool} (h : ∀ m, test m = true → isPositional p m = true) :
    Discovery.firstBelow? p n test = ((p.descendants n).filter (isPositional p)).find? test := by
  rw [List.find?_filter]
  refine find?_congr fun m _ => ?_
  cases htest : test m with
  | true => simp [h m htest]
  | false => simp

theorem filter_elements_eq {test : NodeId → Bool} (h : ∀ m, test m = true → isPositional p m = true)
    (helement : ∀ m, test m = true → p.isElement m = true) : p.elements.filter test =
      ((p.descendants Page.root).filter (isPositional p)).filter test := by
  rw [Page.elements, List.filter_filter, List.filter_filter]
  refine List.filter_congr fun m _ => ?_
  cases htest : test m with
  | true => rw [h m htest, helement m htest]
  | false => rfl

namespace Written

theorem isNamed_eq (h : Written p ws q) (hn : n < p.size) (name : String) :
    Discovery.isNamed q name n = Discovery.isNamed p name n := by
  unfold Discovery.isNamed
  rw [h.element n hn]
  cases p.element? n with
  | none => rfl
  | some e =>
    change decide ((ws.foldl (Write.attributed n) e).name = name) = decide (e.name = name)
    rw [(name_foldl_attributed ws e).1]

theorem isSource_eq (h : Written p ws q) (hn : n < p.size) (type : String) :
    Discovery.isSource q type n = Discovery.isSource p type n := by
  unfold Discovery.isSource
  rw [h.element n hn]
  cases p.element? n with
  | none => rfl
  | some e =>
    simp only [Option.map_some, (name_foldl_attributed ws e).1]
    rw [attr?_foldl_of_ne (by decide) (by decide)]

theorem hasClass_eq (h : Written p ws q) (hn : n < p.size) (cls : String) :
    Discovery.hasClass q cls n = Discovery.hasClass p cls n := by
  unfold Discovery.hasClass
  rw [h.attr?_eq hn (by decide) (by decide)]

theorem isPositional_eq (h : Written p ws q) (hn : n < p.size) :
    isPositional q n = isPositional p n := by
  unfold isPositional
  rw [h.isNamed_eq hn, h.isNamed_eq hn, h.isNamed_eq hn, h.isSource_eq hn, h.isSource_eq hn,
    h.hasClass_eq hn]

theorem filter_descendants_eq (h : Written p ws q) (hp : p.Linked)
    (hbefore : ∀ b, Replaces ws b → ∀ m, p.Above b m → isPositional p m = false)
    (hafter : ∀ b, Replaces ws b → ∀ m, q.Above b m → isPositional q m = false) (n : NodeId) :
    n < p.size → (q.descendants n).filter (isPositional q) =
      (p.descendants n).filter (isPositional p) := by
  -- from the leaves up: a node that is replaced has none on either page, the others keep theirs
  induction n using hp.induction with
  | step n ih =>
    intro hn
    by_cases hreplaces : Replaces ws n
    · have hq : (q.descendants n).filter (isPositional q) = [] :=
        List.filter_eq_nil_iff.mpr fun m hm => by
          rw [hafter n hreplaces m (h.linked.mem_descendants.mp hm)]
          exact Bool.false_ne_true
      have hp : (p.descendants n).filter (isPositional p) = [] :=
        List.filter_eq_nil_iff.mpr fun m hm => by
          rw [hbefore n hreplaces m (hp.mem_descendants.mp hm)]
          exact Bool.false_ne_true
      rw [hq, hp]
    · rw [h.linked.descendants_eq, hp.descendants_eq, h.children n hn hreplaces,
        List.filter_flatMap, List.filter_flatMap]
      refine List.flatMap_congr fun c hc => ?_
      have hlt := Page.lt_size_of_parent? (hp.parent_of_mem hc)
      rw [List.filter_cons, List.filter_cons, h.isPositional_eq hlt, ih c hc hlt]

end Written

theorem firstBelow?_congr (test : Page → NodeId → Bool) (hp : p.Linked)
    (hfilter : (q.descendants n).filter (isPositional q) =
      (p.descendants n).filter (isPositional p))
    (hpositional : ∀ p m, test p m = true → isPositional p m = true)
    (htest : ∀ m < p.size, test q m = test p m) :
    Discovery.firstBelow? q n (test q) = Discovery.firstBelow? p n (test p) := by
  rw [firstBelow?_eq (hpositional q), firstBelow?_eq (hpositional p), hfilter]
  refine find?_congr fun m hm => htest m ?_
  exact (hp.mem_descendants.mp (List.mem_filter.mp hm).1).lt_size

theorem filter_elements_congr (test : Page → NodeId → Bool) (hp : p.Linked)
    (hfilter : (q.descendants Page.root).filter (isPositional q) =
      (p.descendants Page.root).filter (isPositional p))
    (hpositional : ∀ p m, test p m = true → isPositional p m = true)
    (helement : ∀ p m, test p m = true → p.isElement m = true)
    (htest : ∀ m < p.size, test q m = test p m) :
    q.elements.filter (test q) = p.elements.filter (test p) := by
  rw [filter_elements_eq (hpositional q) (helement q),
    filter_elements_eq (hpositional p) (helement p), hfilter]
  refine List.filter_congr fun m hm => htest m ?_
  exact (hp.mem_descendants.mp (List.mem_filter.mp hm).1).lt_size

theorem mapIdx_congr {α β : Type} {l : List α} {f g : Nat → α → β}
    (h : ∀ i, ∀ a ∈ l, f i a = g i a) : l.mapIdx f = l.mapIdx g := by
  apply List.ext_getElem
  · rw [List.length_mapIdx, List.length_mapIdx]
  · intro i hi _
    rw [List.getElem_mapIdx, List.getElem_mapIdx]
    exact h i _ (List.getElem_mem _)

/-! Tests that only positional elements pass -/

theorem isPositional_of_isSource {type : String} (htype : type = "image/avif" ∨ type = "image/webp")
    (p : Page) (m : NodeId) (h : Discovery.isSource p type m = true) : isPositional p m = true := by
  rcases htype with rfl | rfl <;> simp [isPositional, h]

theorem isPositional_of_isNamed {name : String} (hname : name = "img" ∨ name = headingName)
    (p : Page) (m : NodeId) (h : Discovery.isNamed p name m = true) : isPositional p m = true := by
  rcases hname with rfl | rfl <;> simp [isPositional, h]

theorem isPositional_of_hasClass (p : Page) (m : NodeId)
    (h : Discovery.hasClass p projectClass m = true) : isPositional p m = true := by
  simp [isPositional, h]

theorem isElement_of_hasClass (p : Page) (m : NodeId)
    (h : Discovery.hasClass p projectClass m = true) : p.isElement m = true := by
  unfold Discovery.hasClass at h
  split at h
  · rename_i v hv
    obtain ⟨e, he, _⟩ := Option.bind_eq_some_iff.mp hv
    rw [Page.isElement, he]
    rfl
  · exact Bool.noConfusion h

def isMarkedPicture (p : Page) (n : NodeId) : Bool :=
  Discovery.isNamed p "picture" n && Discovery.hasMarker p imageMarker n

theorem isPositional_of_isMarkedPicture (p : Page) (m : NodeId) (h : isMarkedPicture p m = true) :
    isPositional p m = true := by
  simp [isPositional, (Bool.and_eq_true_iff.mp h).1]

theorem isElement_of_isMarkedPicture (p : Page) (m : NodeId) (h : isMarkedPicture p m = true) :
    p.isElement m = true :=
  isElement_of_isNamed (Bool.and_eq_true_iff.mp h).1

namespace Written

def SamePositions (p q : Page) : Prop :=
  ∀ n < p.size, (q.descendants n).filter (isPositional q) =
    (p.descendants n).filter (isPositional p)

theorem slotsOf_eq (h : Written p ws q) (hp : p.Linked) (hsame : SamePositions p q)
    (hn : n < p.size) : Discovery.slotsOf q n = Discovery.slotsOf p n := by
  unfold Discovery.slotsOf
  congr 1
  · exact firstBelow?_congr (fun p => Discovery.isSource p "image/avif") hp (hsame n hn)
      (isPositional_of_isSource (Or.inl rfl)) fun m hm => h.isSource_eq hm _
  · exact firstBelow?_congr (fun p => Discovery.isSource p "image/webp") hp (hsame n hn)
      (isPositional_of_isSource (Or.inr rfl)) fun m hm => h.isSource_eq hm _
  · exact firstBelow?_congr (fun p => Discovery.isNamed p "img") hp (hsame n hn)
      (isPositional_of_isNamed (Or.inl rfl)) fun m hm => h.isNamed_eq hm _

theorem images_eq (h : Written p ws q) (hp : p.Linked) (hsame : SamePositions p q) :
    (scan q).images = (scan p).images := by
  change (q.elements.filter (isMarkedPicture q)).map _ =
    (p.elements.filter (isMarkedPicture p)).map _
  rw [filter_elements_congr isMarkedPicture hp (hsame _ hp.root_lt_size)
    isPositional_of_isMarkedPicture isElement_of_isMarkedPicture fun m hm => by
      unfold isMarkedPicture
      rw [h.isNamed_eq hm, h.hasMarker_eq hm imageMarker (by decide) (by decide)]]
  refine List.map_congr_left fun n hn => ?_
  have hlt := (hp.mem_elements.mp (List.mem_filter.mp hn).1).1.lt_size
  rw [h.markerPath_eq hlt imageMarker (by decide) (by decide), h.slotsOf_eq hp hsame hlt]

theorem projects_eq (h : Written p ws q) (hp : p.Linked) (hsame : SamePositions p q) :
    (scan q).projects = (scan p).projects := by
  change (q.elements.filter (Discovery.hasClass q projectClass)).mapIdx _ =
    (p.elements.filter (Discovery.hasClass p projectClass)).mapIdx _
  rw [filter_elements_congr (fun p => Discovery.hasClass p projectClass) hp
    (hsame _ hp.root_lt_size) isPositional_of_hasClass isElement_of_hasClass
    fun m hm => h.hasClass_eq hm _]
  refine mapIdx_congr fun i n hn => ?_
  have hlt := (hp.mem_elements.mp (List.mem_filter.mp hn).1).1.lt_size
  have hheading : Discovery.firstBelow? q n (Discovery.isNamed q headingName) =
      Discovery.firstBelow? p n (Discovery.isNamed p headingName) :=
    firstBelow?_congr (fun p => Discovery.isNamed p headingName) hp (hsame n hlt)
      (isPositional_of_isNamed (Or.inr rfl)) fun m hm => h.isNamed_eq hm _
  unfold Discovery.projectItem
  rw [hheading]
  cases hm : Discovery.firstBelow? p n (Discovery.isNamed p headingName) with
  | none => rfl
  | some m =>
    have hlt := (of_firstBelow? hp hm).1.lt_size
    simp only [Option.any_some]
    rw [h.hasMarker_eq hlt textMarker (by decide) (by decide)]

end Written
end Searches

/-! The last writes of both passes -/

theorem lastTo?_append_of_forall_not {ts ws : List (Write NodeId)} {n : NodeId} {s : Option String}
    (h : ∀ w ∈ ts, ¬ (w.element = n ∧ w.effect.slot = s)) :
    lastTo? (ts ++ ws) n s = lastTo? ws n s := by
  have hnil : (ts.filter fun w => w.element = n && w.effect.slot = s) = [] :=
    List.filter_eq_nil_iff.mpr fun w hw => by simpa using h w hw
  rw [lastTo?, List.filter_append, hnil, List.nil_append, lastTo?]

section TwoPasses

variable {p : Page} {document : Value} {w : Write NodeId}

theorem lastTo?_of_mem_rest (hp : p.Linked)
    (hw : w ∈ Plan.pictureWrites (scan p) document ++ Plan.projectWrites (scan p) document) :
    lastTo? (Plan.ofScan (scan p) document).writes w.element w.effect.slot =
      lastTo? (Plan.pictureWrites (scan p) document ++ Plan.projectWrites (scan p) document)
        w.element w.effect.slot := by
  rw [Plan.writes_ofScan, List.append_assoc]
  refine lastTo?_append_of_forall_not fun u hu => ?_
  rintro ⟨helement, hslot⟩
  rw [slot_of_mem_textWrites hp hu] at hslot
  rcases List.mem_append.mp hw with hw | hw
  · exact slot_of_mem_pictureWrites hp hw hslot.symm
  · obtain ⟨_, _, _, hbound⟩ := of_mem_projectWrites hp hw
    obtain ⟨_, hmarker, _⟩ := of_mem_textWrites hp hu
    rw [helement] at hmarker
    exact hbound hmarker

theorem undisturbed_of_forall_descendants (hp : p.Linked)
    (hbefore : ∀ w ∈ (inject p document).2.writes, w.effect.slot = none →
      ∀ n ∈ p.descendants w.element, isPositional p n = false)
    (hafter : ∀ w ∈ (inject p document).2.writes, w.effect.slot = none →
      ∀ n ∈ (inject p document).1.descendants w.element,
        isPositional (inject p document).1 n = false) : Undisturbed p document := by
  rintro b ⟨w, hw, rfl, hslot⟩
  have hq := (written_inject hp document).linked
  exact ⟨fun n hn => hbefore w hw hslot n (hp.mem_descendants.mpr hn),
    fun n hn => hafter w hw hslot n (hq.mem_descendants.mpr hn)⟩

theorem settled_of_undisturbed (hp : p.Linked) (h : Undisturbed p document) :
    Settled (inject p document).1 document := by
  have hwritten := written_inject hp document
  have hsame : Written.SamePositions p (inject p document).1 :=
    fun n => hwritten.filter_descendants_eq hp (fun b hb => (h b hb).1) (fun b hb => (h b hb).2) n
  -- the second pass finds the same pictures and projects, and plans the same writes for them
  have hpictures : Plan.pictureWrites (scan (inject p document).1) document =
      Plan.pictureWrites (scan p) document := by
    rw [Plan.pictureWrites, hwritten.images_eq hp hsame, Plan.pictureWrites]
  have hprojects : Plan.projectWrites (scan (inject p document).1) document =
      Plan.projectWrites (scan p) document := by
    rw [Plan.projectWrites, hwritten.projects_eq hp hsame, Plan.projectWrites]
  intro w hw hvisible
  have hfirst := hw
  rw [hpictures, hprojects] at hfirst
  have hmem : w ∈ (Plan.ofScan (scan p) document).writes := by
    rw [Plan.writes_ofScan, List.append_assoc]
    exact List.mem_append_right _ hfirst
  have hmem' : w ∈ (Plan.ofScan (scan (inject p document).1) document).writes := by
    rw [Plan.writes_ofScan, List.append_assoc]
    exact List.mem_append_right _ hw
  obtain ⟨hattached, helement⟩ := attached_of_mem_writes hwritten.linked hmem'
  have hlast := ((written_inject hwritten.linked document).holdsAt_iff helement hmem').mp hvisible.2
  refine ⟨hattached, (hwritten.holdsAt_iff (attached_of_mem_writes hp hmem).2 hmem).mpr ?_⟩
  intro u hu
  refine hlast u ?_
  rw [lastTo?_of_mem_rest hwritten.linked hw, hpictures, hprojects, ← lastTo?_of_mem_rest hp hfirst]
  exact hu

end TwoPasses

/-- A second pass changes nothing exactly when the first one leaves every picture slot and every
project heading with the value that it then has by its place, as it does on pages where nothing
that is replaced holds elements found by their place. -/
theorem second_pass_unchanged_iff {p : Page} (hp : p.Linked) (hnames : p.NamesDistinct)
    (document : Value) :
    ((inject (inject p document).1 document).1.trees Page.root =
        (inject p document).1.trees Page.root ↔ Settled (inject p document).1 document) ∧
    (Settled (inject p document).1 document →
      (inject (inject p document).1 document).1.render = (inject p document).1.render) ∧
    (Undisturbed p document → Settled (inject p document).1 document) := by
  have hiff := trees_second_iff_settled hp hnames document
  refine ⟨hiff, fun hsettled => ?_, settled_of_undisturbed hp⟩
  rw [Page.render, hiff.mpr hsettled, Page.render]

/-! One page that a second pass leaves alone, and one that it does not -/

def headingAndItem : Page :=
  .ofTrees [.element { name := "h1", attrs := [("data-content", "a")] } [.text "x"],
    .element { name := "div", attrs := [("class", "project-item")] }
      [.element { name := "h4" } [.text "x"]]]

def itemInMarker : Page :=
  .ofTrees [.element { name := "div", attrs := [("data-content", "a")] }
      [.element { name := "i", attrs := [("class", "project-item")] } []],
    .element { name := "div", attrs := [("class", "project-item")] }
      [.element { name := "h4" } [.text "x"]]]

def titleAndProjects : Value :=
  .obj [("a", .str "A"),
    ("projects", .arr [.obj [("title", .str "S")], .obj [("title", .str "T")]])]

theorem second_pass_unchanged_iff_headingAndItem :
    headingAndItem.Linked ∧ headingAndItem.NamesDistinct ∧
    (inject (inject headingAndItem titleAndProjects).1 titleAndProjects).1.render =
      (inject headingAndItem titleAndProjects).1.render := by
  have hp : headingAndItem.Linked := Page.linked_ofTrees _
  have hnames : headingAndItem.NamesDistinct := Page.namesDistinct_of_forall_lt (by decide +kernel)
  have hundisturbed : Undisturbed headingAndItem titleAndProjects :=
    undisturbed_of_forall_descendants hp (by decide +kernel) (by decide +kernel)
  obtain ⟨_, hrender, hsettled⟩ := second_pass_unchanged_iff hp hnames titleAndProjects
  exact ⟨hp, hnames, hrender (hsettled hundisturbed)⟩

/-- The first pass takes the first item away, so that the title of the other changes in the
second. -/
theorem second_pass_moves_title :
    itemInMarker.Linked ∧ itemInMarker.NamesDistinct ∧
    (inject (inject itemInMarker titleAndProjects).1 titleAndProjects).1.render ≠
      (inject itemInMarker titleAndProjects).1.render := by
  exact ⟨Page.linked_ofTrees _, Page.namesDistinct_of_forall_lt (by decide +kernel), by decide +kernel⟩

end ContentBinding.Binding
