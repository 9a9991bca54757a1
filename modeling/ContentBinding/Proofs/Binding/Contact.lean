import ContentBinding.Proofs.Binding.Visibility
import ContentBinding.Proofs.Markup.BodyText

/-! The lines of a contact. Its markup is read as a page of its own, so that the spaces before the
first text stand before the page and are lost; everything else comes through. -/

namespace ContentBinding.Binding

open Json (Value)
open Markup
open Markup.Nesting (lineMarkup lineTrees textTrees)
open Markup.Tokenizer (isLiteral)

variable {p : Page} {n : NodeId} {document : Value} {members : List (String × Value)}

def contactTrees (address phone email : List Char) : List Tree :=
  textTrees address ++ lineTrees [phone, email]

theorem toList_contactMarkup (members : List (String × Value)) :
    (Plan.contactMarkup members).toList = (Plan.contactText members "address").toList ++
      lineMarkup [(Plan.contactText members "phone").toList,
        (Plan.contactText members "email").toList] := by
  have hbreak : "<br>".toList = Nesting.breakMarkup := by decide
  rw [Plan.contactMarkup, String.toList_intercalate, hbreak]
  simp [Plan.contactFields, lineMarkup, List.intercalate_cons_of_ne_nil]

theorem parseFragment_contactMarkup
    (h : ∀ name ∈ Plan.contactFields, ∀ c ∈ (Plan.contactText members name).toList,
      isLiteral c = true) : Page.parseFragment (Plan.contactMarkup members) =
      contactTrees ((Plan.contactText members "address").toList.dropWhile isSpace)
        (Plan.contactText members "phone").toList (Plan.contactText members "email").toList := by
  refine Page.parseFragment_lined (toList_contactMarkup members) (List.cons_ne_nil _ _)
    (h "address" (by decide)) ?_
  intro cs hcs
  simp only [List.mem_cons, List.not_mem_nil, or_false] at hcs
  rcases hcs with rfl | rfl
  · exact h "phone" (by decide)
  · exact h "email" (by decide)

theorem trees_inject_contact (hp : p.Linked) (hn : ⟨n, Plan.contactPath⟩ ∈ (scan p).texts)
    (hmembers : resolve document Plan.contactPath = some (.obj members)) :
    (inject p document).1.trees n = Page.parseFragment (Plan.contactMarkup members) := by
  have hwrites : (Plan.ofText document ⟨n, Plan.contactPath⟩).writes =
      [⟨n, .html, Plan.contactMarkup members⟩] := by
    simp [Plan.ofText, hmembers, Plan.write]
  have hmem : ⟨n, .html, Plan.contactMarkup members⟩ ∈ Plan.textWrites (scan p) document :=
    List.mem_flatMap.mpr ⟨_, hn, hwrites ▸ List.mem_singleton_self _⟩
  have hplan : ⟨n, .html, Plan.contactMarkup members⟩ ∈ (Plan.ofScan (scan p) document).writes := by
    rw [Plan.writes_ofScan, List.append_assoc]
    exact List.mem_append_left _ hmem
  have hwritten := written_apply hp fun u (hu : u ∈ (Plan.ofScan (scan p) document).writes) =>
    (attached_of_mem_writes hp hu).2
  exact (hwritten.holdsAt_iff (isElement_of_mem_textWrites hmem) hplan).mpr
    fun u hu => effect_lastTo?_of_mem_textWrites hp hmem hu

theorem textTrees_inj {cs ds : List Char} (h : textTrees cs = textTrees ds) : cs = ds := by
  unfold textTrees at h
  split_ifs at h with hc hd hd
  · rw [hc, hd]
  · exact String.ofList_inj.mp (Tree.text.inj (List.cons.inj h).1)

theorem dropWhile_eq_self_iff {cs : List Char} {q : Char → Bool} :
    cs.dropWhile q = cs ↔ ∀ c, cs.head? = some c → q c = false := by
  rw [List.dropWhile_eq_self_iff]
  cases cs with
  | nil => simp
  | cons c cs => simp

/-- Contact texts that hold nothing with a meaning in markup become the children of a target, line
by line, but for the spaces at the start of the address. So they come through unchanged exactly when
the address begins with no space. -/
theorem trees_contact_iff (hp : p.Linked) (hn : ⟨n, Plan.contactPath⟩ ∈ (scan p).texts)
    (hmembers : resolve document Plan.contactPath = some (.obj members))
    (h : ∀ name ∈ Plan.contactFields, ∀ c ∈ (Plan.contactText members name).toList,
      isLiteral c = true) :
    (inject p document).1.trees n =
      contactTrees ((Plan.contactText members "address").toList.dropWhile isSpace)
        (Plan.contactText members "phone").toList (Plan.contactText members "email").toList ∧
    ((inject p document).1.trees n =
      contactTrees (Plan.contactText members "address").toList
        (Plan.contactText members "phone").toList (Plan.contactText members "email").toList ↔
      ∀ c, (Plan.contactText members "address").toList.head? = some c → isSpace c = false) := by
  have htrees := (trees_inject_contact hp hn hmembers).trans (parseFragment_contactMarkup h)
  refine ⟨htrees, ?_⟩
  rw [htrees, contactTrees, contactTrees, List.append_left_inj, ← dropWhile_eq_self_iff]
  exact ⟨textTrees_inj, congrArg textTrees⟩

/-! A contact on a page, and one whose address begins with a space -/

def contactPage : Page :=
  .ofTrees [.element { name := "p", attrs := [("data-content", "footer.contact")] } [.text "Old"]]

def contactDocument (address : String) : Value :=
  .obj [("footer", .obj [("contact",
    .obj [("address", .str address), ("phone", .str "1"), ("email", .str "e")])])]

theorem literal_of_all (h : (Plan.contactFields.all fun name =>
    (Plan.contactText members name).toList.all isLiteral) = true) :
    ∀ name ∈ Plan.contactFields, ∀ c ∈ (Plan.contactText members name).toList,
      isLiteral c = true := by
  simpa only [List.all_eq_true] using h

theorem trees_contact_plain : contactPage.Linked ∧
    (inject contactPage (contactDocument "x > y")).1.trees 1 =
      [.text "x > y", .element { name := "br" } [], .text "1", .element { name := "br" } [],
        .text "e"] := by
  have hp : contactPage.Linked := Page.linked_ofTrees _
  have hn : ⟨1, Plan.contactPath⟩ ∈ (scan contactPage).texts := by decide
  have hmembers : resolve (contactDocument "x > y") Plan.contactPath = some (.obj
      [("address", .str "x > y"), ("phone", .str "1"), ("email", .str "e")]) := rfl
  obtain ⟨-, hiff⟩ := trees_contact_iff hp hn hmembers (literal_of_all (by decide))
  refine ⟨hp, hiff.mpr fun c hc => ?_⟩
  obtain rfl : 'x' = c := Option.some.inj hc
  decide

theorem trees_contact_spaced : contactPage.Linked ∧
    (inject contactPage (contactDocument " x")).1.trees 1 =
      [.text "x", .element { name := "br" } [], .text "1", .element { name := "br" } [],
        .text "e"] ∧
    (inject contactPage (contactDocument " x")).1.trees 1 ≠
      contactTrees " x".toList "1".toList "e".toList := by
  have hp : contactPage.Linked := Page.linked_ofTrees _
  have hn : ⟨1, Plan.contactPath⟩ ∈ (scan contactPage).texts := by decide
  have hmembers : resolve (contactDocument " x") Plan.contactPath = some (.obj
      [("address", .str " x"), ("phone", .str "1"), ("email", .str "e")]) := rfl
  have htrees : (inject contactPage (contactDocument " x")).1.trees 1 =
      contactTrees "x".toList "1".toList "e".toList :=
    (trees_inject_contact hp hn hmembers).trans
      (parseFragment_contactMarkup (literal_of_all (by decide)))
  refine ⟨hp, htrees, fun h => ?_⟩
  have heq := textTrees_inj (List.append_cancel_right (htrees.symm.trans h))
  exact absurd heq (by decide)

end ContentBinding.Binding
