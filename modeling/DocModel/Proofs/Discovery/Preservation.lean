import DocModel.Proofs.Discovery.Execution
import DocModel.Proofs.Registry.Preservation

set_option autoImplicit false

/-! # Discovery preserves the registry

Every call leaves what was there before as it was, up to counts and widened types, also when it
fails. The object that creates a class marks the fields of this class, and only those; the class was
not there before the object was handed in, so the flags that change are never those of a field that
the caller knew. -/

namespace DocModel

variable {ρ : Type}

namespace Model.Field

theorem keeps_requireIf (required : Bool) (field : Model.Field ρ) :
    field.Keeps (required = true) (field.requireIf required) := by
  cases required
  · exact Keeps.refl _ field
  · exact field.keeps_markRequired.mono fun _ => rfl

/-! The three ways in which a member changes the field of its name. -/

theorem keeps_counted (required : Bool) (field : Model.Field ρ) :
    field.Keeps (required = true) (field.recordOccurrence.requireIf required) :=
  (field.keeps_recordOccurrence.mono nofun).trans (keeps_requireIf required _)

theorem keeps_retyped (type : ValueType) (required : Bool) (field : Model.Field ρ) :
    field.Keeps (required = true) ((field.unify type).requireIf required) :=
  ((field.keeps_unify type).mono nofun).trans (keeps_requireIf required _)

theorem keeps_joined (type : ValueType) (required : Bool) (field : Model.Field ρ) :
    field.Keeps (required = true) ((field.recordOccurrence.requireIf required).unify type) :=
  (field.keeps_counted required).trans ((keeps_unify _ type).mono nofun)

end Model.Field

theorem Context.keeps_enter (marked : String → String → Prop) (c : Context ρ) (id : String)
    (object : Members) : c.registry.Keeps marked (c.enter id object).registry := by
  unfold Context.enter
  split
  · exact c.registry.keeps_modify marked id Model.Class.id_recordOccurrence
      (Model.Class.keeps_recordOccurrence _)
  · rename_i hnew
    exact c.registry.keeps_put_new marked (by simpa using hnew)

/-- A class that is not there has no fields. -/
theorem Registry.field?_eq_none_of_contains {r : Registry ρ} {id : String}
    (h : r.contains id = false) (name : String) : r.field? id name = none := by
  have hnone : r.get? id = none := by simpa [contains_eq_isSome_get?] using h
  rw [field?, hnone, Option.bind_none]

namespace Discovery

/-- The fields that a task makes required: those of the members that it folds while their object
creates its class. -/
def Task.Requires : Task → String → String → Prop
  | .folding id creating members, other, name =>
    creating = true ∧ other = id ∧ name ∈ Assoc.keys members
  | .member id required label _, other, name | .adding id label _ required, other, name =>
    required = true ∧ other = id ∧ name = label
  | .typing .., _, _ | .typingRest .., _, _ | .entering .., _, _ | .roots .., _, _ => False

theorem Task.requires_folding_cons {id name other label : String} {creating : Bool}
    {value : Document} {rest : List (String × Document)} :
    (Task.folding id creating ((name, value) :: rest)).Requires other label
      ↔ (Task.member id creating name value).Requires other label
        ∨ (Task.folding id creating rest).Requires other label := by
  simp only [Task.Requires, Assoc.keys_cons, List.mem_cons, and_or_left]

/-- **What was there is kept**, whatever the outcome, but for the flags of a class that is being
created. -/
theorem Runs.keeps {policy : Policy} {task : Task} {c c' : Context ρ}
    {outcome : Except Error task.Result} (h : Runs policy task c outcome c') :
    c.registry.Keeps task.Requires c'.registry := by
  induction h with
  | stop | leaf | restNil | foldNil | rootNil => exact .refl _ _
  | arrayFails _ _ _ _ ih | object _ _ _ _ ih | restFails _ ih | restDiffers _ _ ih
  | absent _ _ _ ih | rootFails _ ih => exact ih
  | array _ _ _ _ _ ih1 ih2 | restAgrees _ _ ih1 ih2 | rootCons _ _ ih1 ih2 => exact ih1.trans ih2
  | @enter id object c _ _ _ _ ih =>
    refine ((c.keeps_enter _ id object).trans ih).unmarked ?_ _
    -- the members are marked only where the class is new
    rintro other name ⟨hcreating, rfl, -⟩
    exact Registry.field?_eq_none_of_contains (by simpa using hcreating) name
  | foldFails _ ih => exact ih.mono fun _ _ hmember _ => Task.requires_folding_cons.2 (.inl hmember)
  | foldCons _ _ ih1 ih2 =>
    refine (ih1.mono fun _ _ hmember _ => ?_).trans (ih2.mono fun _ _ hlater _ => ?_)
    · exact Task.requires_folding_cons.2 (.inl hmember)
    · exact Task.requires_folding_cons.2 (.inr hlater)
  | @counted id creating name _ _ c =>
    refine c.registry.keeps_modifyField _ id name fun field => ?_
    exact (field.keeps_counted creating).mono fun hcreating => ⟨hcreating, rfl, rfl⟩
  | @retypeFails id _ name _ _ c _ _ _ _ _ ih =>
    have hcounted := c.registry.keeps_modifyField (fun _ _ => False) id name
      Model.Field.keeps_recordOccurrence
    exact (hcounted.trans ih).mono nofun
  | @retyped id creating name _ _ type c c₁ _ _ _ ih =>
    have hcounted := c.registry.keeps_modifyField (fun _ _ => False) id name
      Model.Field.keeps_recordOccurrence
    refine ((hcounted.trans ih).mono nofun).trans ?_
    refine c₁.registry.keeps_modifyField _ id name fun field => ?_
    exact (field.keeps_retyped type creating).mono fun hcreating => ⟨hcreating, rfl, rfl⟩
  | addFails _ _ _ ih => exact ih.mono nofun
  | @addKnown id name _ required type _ _ c₁ _ _ _ _ ih =>
    refine (ih.mono nofun).trans (c₁.registry.keeps_modifyField _ id name fun field => ?_)
    exact (field.keeps_joined type required).mono fun hrequired => ⟨hrequired, rfl, rfl⟩
  | @addNew id _ _ _ _ _ c₁ _ _ _ _ ih =>
    exact (ih.mono nofun).trans (c₁.registry.keeps_pushField _ id _)

/-- A task that makes only new fields required preserves the registry. -/
theorem run_preserves (policy : Policy) (task : Task) {c : Context ρ} (hready : task.Ready c)
    (hnew : ∀ id name, task.Requires id name → c.registry.field? id name = none) :
    c.registry.Preserves ((task.step policy).run c).2.registry :=
  ((runs_run policy hready).keeps.unmarked hnew _).preserves

/-- **Every call preserves the registry**, whether it succeeds or fails: classes and fields stay at
their positions with what they are, counts do not decrease, and a type changes only where that of an
attribute becomes a string. -/
theorem calls_preserve_registry (policy : Policy) (c : Context ρ) :
    (∀ (id : String) (object : Members),
      c.registry.Preserves ((discoverClass policy id object).run c).2.registry)
    ∧ (∀ (id name : String) (value : Document) (required : Bool),
      c.registry.Preserves ((createField policy id name value required).run c).2.registry)
    ∧ ∀ (name : String) (value : Document),
      c.registry.Preserves ((typeOf policy name value).run c).2.registry := by
  refine ⟨fun id object => ?_, fun id name value required => ?_, fun name value => ?_⟩
  · exact run_preserves policy (.entering id object) trivial nofun
  · by_cases hready : (Task.adding id name value required).Ready c
    · refine run_preserves policy (.adding id name value required) hready ?_
      -- the only field that becomes required is the one that is added
      rintro other label ⟨-, rfl, rfl⟩
      exact hready.2
    · rw [run_createField_of_not_ready hready]
      exact Registry.Keeps.preserves (.refl _ c.registry)
  · exact run_preserves policy (.typing name value) trivial nofun

end Discovery

end DocModel
