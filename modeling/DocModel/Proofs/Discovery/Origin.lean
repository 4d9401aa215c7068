import DocModel.Proofs.Discovery.Observations
import DocModel.Proofs.Document

set_option autoImplicit false

/-! # Where objects and fields come from

A task hands no object to a class that it was not given: what it meets stands in its values, at some
depth. So whatever is true of every object in the values of a task is true of every object that the
task meets (`Runs.forall_encounters`). A field is there for a member that was observed, and nothing is
typed without a name (`Justified.exists_observed`). -/

namespace DocModel

variable {ρ : Type}

/-! ## Objects in documents -/

namespace Document

/-- This is true of every object in the document, at any depth. -/
def ForallObjects (P : Members → Prop) (document : Document) : Prop :=
  ∀ object : Members, (Document.object object).PartOf document → P object

variable {P : Members → Prop}

theorem ForallObjects.items {items : List Document} (h : (array items).ForallObjects P) :
    ∀ item ∈ items, item.ForallObjects P :=
  fun _ hitem object hpart => h object (.item hitem hpart)

theorem ForallObjects.members {members : Members} (h : (object members).ForallObjects P) :
    ∀ member ∈ members, member.2.ForallObjects P :=
  fun _ hmember inner hpart => h inner (.member hmember hpart)

end Document

namespace Discovery

/-! ## Objects of tasks -/

/-- This is true of every object in the values that a task has yet to look at. -/
def Task.ForallObjects (P : Members → Prop) : Task → Prop
  | .typing _ value | .member _ _ _ value | .adding _ _ value _ => value.ForallObjects P
  | .typingRest _ _ items => ∀ item ∈ items, item.ForallObjects P
  | .entering _ object => (Document.object object).ForallObjects P
  | .folding _ _ members => ∀ member ∈ members, member.2.ForallObjects P
  | .roots _ objects => ∀ object ∈ objects, (Document.object object).ForallObjects P

/-- **No object is made up**, also when a task fails: what is true of every object that a task was
given is true of every object that it meets. No object is handed to a class without an id. -/
theorem Runs.forall_encounters {policy : Policy} {task : Task} {c c' : Context ρ}
    {outcome : Except Error task.Result} (h : Runs policy task c outcome c')
    {P : Members → Prop} (htask : task.ForallObjects P)
    (hlog : ∀ encounter ∈ c.encounters, encounter.id ≠ "" ∧ P encounter.object) :
    ∀ encounter ∈ c'.encounters, encounter.id ≠ "" ∧ P encounter.object := by
  induction h with
  | stop | leaf | restNil | foldNil | counted | rootNil => exact hlog
  | arrayFails _ _ _ _ ih => exact ih (List.forall_mem_cons.1 htask.items).1 hlog
  | array _ _ _ _ _ ih1 ih2 =>
    obtain ⟨hfirst, hrest⟩ := List.forall_mem_cons.1 htask.items
    exact ih2 hrest (ih1 hfirst hlog)
  | restFails _ ih | restDiffers _ _ ih | foldFails _ ih | rootFails _ ih =>
    exact ih (List.forall_mem_cons.1 htask).1 hlog
  | restAgrees _ _ ih1 ih2 | foldCons _ _ ih1 ih2 | rootCons _ _ ih1 ih2 =>
    obtain ⟨hfirst, hrest⟩ := List.forall_mem_cons.1 htask
    exact ih2 hrest (ih1 hfirst hlog)
  | @enter id object _ _ _ hid _ ih =>
    -- the object at hand is met, and the ones inside of it are what is left
    have hobject : P object := htask object .refl
    exact ih htask.members (List.forall_mem_cons.2 ⟨⟨hid, hobject⟩, hlog⟩)
  | object _ _ _ _ ih | retypeFails _ _ _ ih | retyped _ _ _ ih | absent _ _ _ ih
  | addFails _ _ _ ih | addKnown _ _ _ _ ih | addNew _ _ _ _ ih => exact ih htask hlog

/-! ## Names of fields -/

/-- Nothing is typed without a name. -/
theorem Resolves.name_ne_empty {policy : Policy} {name : String} {value : Document}
    {type : ValueType} (h : Resolves ρ policy name value type) : name ≠ "" := by
  rintro rfl
  obtain ⟨c, c', hrun⟩ := h
  have hstops : Runs policy (.typing "" value) c (.error .emptyFieldName) c := .stop .unnamed
  have hsame := hstops.run_eq.symm.trans hrun
  exact absurd (Prod.mk.inj hsame).1 nofun

/-- A field that is justified has an observation whose value was typed. -/
theorem JustifiedBy.exists_resolves {policy : Policy} {name : String} {observed : Document → Prop}
    {field : Model.Field ρ} (h : JustifiedBy policy name observed field) :
    ∃ value type, observed value ∧ Resolves ρ policy name value type := by
  rcases h with ⟨value, hvalue, hresolves⟩ | ⟨-, -, value, type, -, -, hvalue, hresolves, -⟩
  · exact ⟨value, field.valueType, hvalue, hresolves⟩
  · exact ⟨value, type, hvalue, hresolves⟩

/-- A field that is justified has a name, and a value was observed for it. -/
theorem Justified.exists_observed {policy : Policy} {c : Context ρ} (h : Justified policy c)
    {id name : String} {field : Model.Field ρ} (hfield : c.registry.field? id name = some field) :
    name ≠ "" ∧ ∃ value, Observed c.encounters id name value := by
  obtain ⟨value, type, hobserved, hresolves⟩ := (h id name field hfield).exists_resolves
  exact ⟨hresolves.name_ne_empty, value, hobserved⟩

end Discovery

end DocModel
