import Mathlib.Data.Bool.AllAny
import ContentBinding.Proofs.Binding.Addressing
import ContentBinding.Proofs.Binding.Targets

/-! The titles of projects as paths. The path of a title spells the entry of the project list and the
key in it, so what the item of a project is given is what a text binding with that path finds, and
both plan the same writes. -/

namespace ContentBinding.Binding

open Json (Value)

variable {ε : Type} {document : Value}

theorem isSpelling_titlePath (i : Nat) :
    IsSpelling (titlePath i) [.item "projects" i, .key "title"] := by
  have hitem : (Step.item "projects" i).IsSpellable :=
    ⟨by decide, List.all_iff_forall_prop.mp (by decide)⟩
  have hkey : (Step.key "title").IsSpellable :=
    (@Step.exists_text_stepOf "title".toList (by decide) (by decide)).1
  refine ⟨List.cons_ne_nil _ _, ?_, [(.item "projects" i, 0), (.key "title", 0)], rfl, ?_⟩
  · simp [hitem, hkey]
  · rw [← String.toList_inj]
    simp [titlePath, Step.text]

/-- The path of a title leads to the entry of the project list, and in it to the title. -/
theorem resolve_titlePath (document : Value) (i : Nat) :
    resolve document (titlePath i) =
      ((Step.item "projects" i).follow document).bind (·.get? "title") := by
  rw [(isSpelling_titlePath i).resolve_eq, List.foldlM_cons]
  exact Option.bind_congr fun v _ => Option.bind_fun_some _

theorem follow_projects (document : Value) (i : Nat) : (Step.item "projects" i).follow document =
    (Plan.projectsOf? document).bind (·[i]?) := by
  rw [Step.follow, Plan.projectsOf?]
  cases document.get? "projects" with
  | none => rfl
  | some v => cases v <;> rfl

namespace Plan

theorem titlePath_ne_contactPath (i : Nat) : titlePath i ≠ contactPath := by
  intro h
  have hhead := congrArg (fun s : String => s.toList.head?) h
  exact absurd hhead (by simp [titlePath, contactPath])

theorem writes_ofProject {projects : List Value} {i : Nat} {project : Value}
    (h : projects[i]? = some project) (element heading : ε) :
    (ofProject projects ⟨i, element, some heading, false⟩).writes =
      match project.get? "title" with
      | none | some .null => []
      | some v => (ofTextValue heading (titlePath i) v).writes := by
  unfold ofProject
  rw [show projects[(⟨i, element, some heading, false⟩ : ProjectItem ε).index]? = some project from h]
  cases project with
  | obj members =>
    simp only [Value.get?]
    cases members.lookup "title" with
    | none => rfl
    | some v => cases v <;> rfl
  | _ => rfl

theorem writes_ofText_titlePath (document : Value) (i : Nat) (heading : ε) :
    (ofText document ⟨heading, titlePath i⟩).writes =
      match resolve document (titlePath i) with
      | none | some .null => []
      | some v => (ofTextValue heading (titlePath i) v).writes := by
  unfold ofText
  dsimp only
  cases resolve document (titlePath i) with
  | none => rfl
  | some v => cases v <;> simp [titlePath_ne_contactPath, skip]

end Plan

/-- For a heading without a binding of its own, the item at a position plans exactly the writes that
a text binding with the path of that project's title would plan. -/
theorem writes_item_eq_writes_titlePath (document : Value) (i : Nat) (element heading : ε) :
    (Plan.ofScan { projects := [⟨i, element, some heading, false⟩] } document).writes =
      (Plan.ofScan { texts := [⟨heading, titlePath i⟩] } document).writes := by
  rw [Plan.writes_ofScan, Plan.writes_ofScan]
  change (Plan.ofProjects document [_]).flatMap (·.writes) =
    ([(⟨heading, titlePath i⟩ : TextBinding ε)].flatMap fun b =>
      (Plan.ofText document b).writes) ++ [] ++ (Plan.ofProjects document []).flatMap (·.writes)
  rw [List.flatMap_singleton, Plan.writes_ofText_titlePath, resolve_titlePath, follow_projects,
    Plan.ofProjects, Plan.ofProjects]
  cases Plan.projectsOf? document with
  | none => rfl
  | some projects =>
    simp only [List.map_singleton, List.map_nil, List.flatMap_singleton, List.flatMap_nil,
      List.append_nil, Option.bind_some]
    cases h : projects[i]? with
    | none => simp [Plan.ofProject, h]
    | some project => exact Plan.writes_ofProject h element heading

end ContentBinding.Binding
