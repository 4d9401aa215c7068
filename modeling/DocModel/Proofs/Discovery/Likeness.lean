import DocModel.Proofs.Discovery.Execution
import DocModel.Proofs.Discovery.Simulation

set_option autoImplicit false

/-! # Discovery does not look at coverage

Started in contexts that are alike, a task has the same outcome in both and leaves contexts that are
alike again: `run_alike`. The encounters of the two contexts need not be the same, as nothing is
decided by them. -/

namespace DocModel

variable {ρ : Type}

/-- The registries are alike, and the depth is the same. -/
structure Context.Alike (c d : Context ρ) : Prop where
  registry : c.registry.Alike d.registry
  depth : d.depth = c.depth

namespace Context.Alike

variable {c d : Context ρ}

theorem inside (h : c.Alike d) : c.inside.Alike d.inside :=
  ⟨h.registry, congrArg (· + 1) h.depth⟩

theorem outside (h : c.Alike d) : c.outside.Alike d.outside :=
  ⟨h.registry, congrArg (· - 1) h.depth⟩

theorem modifyField (h : c.Alike d) (id name : String) {f : Model.Field ρ → Model.Field ρ}
    (hf : Model.Field.Blind f) : (c.modifyField id name f).Alike (d.modifyField id name f) :=
  ⟨h.registry.modifyField id name hf, h.depth⟩

theorem pushField (h : c.Alike d) (id : String) (field : Model.Field ρ) :
    (c.pushField id field).Alike (d.pushField id field) :=
  ⟨h.registry.pushField id field, h.depth⟩

theorem enter (h : c.Alike d) (id : String) (object : Members) :
    (c.enter id object).Alike (d.enter id object) := by
  refine ⟨?_, h.depth⟩
  unfold Context.enter
  cases hid : c.registry.contains id with
  | true =>
    simp only [h.registry.contains_of_contains hid, ↓reduceIte]
    exact h.registry.modify id _ Model.Class.clearCoverage_recordOccurrence
  | false =>
    have hid' : d.registry.contains id = false := h.registry.contains_eq id ▸ hid
    simp only [hid', Bool.false_eq_true, ↓reduceIte]
    exact h.registry.put (.new id)

end Context.Alike

namespace Discovery

/-- Contexts that are alike look the same, and every update keeps them alike. -/
theorem simulation_alike : Simulation (ρ := ρ) (fun _ => True) Context.Alike where
  depth h := h.depth
  contains h _ := (h.registry.contains_eq _).symm
  field? name h _ := h.registry.map_isReference_field? _ name
  inside h := h.inside
  outside h := h.outside
  enter object h _ := h.enter _ object
  modifyField name hf h _ := h.modifyField _ name hf
  pushField field h _ := h.pushField _ field

/-- **Coverage decides nothing**: run in two contexts that differ in coverage only, a task has one
outcome and leaves contexts that are alike. -/
theorem run_alike (policy : Policy) (task : Task) {c d : Context ρ} (hready : task.Ready c)
    (halike : c.Alike d) :
    ((task.step policy).run c).1 = ((task.step policy).run d).1
      ∧ ((task.step policy).run c).2.Alike ((task.step policy).run d).2 :=
  simulation_alike.run policy halike task hready

theorem run_createField_alike (policy : Policy) (id name : String) (value : Document)
    (required : Bool) {c d : Context ρ} (halike : c.Alike d) :
    ((createField policy id name value required).run c).1
        = ((createField policy id name value required).run d).1
      ∧ ((createField policy id name value required).run c).2.Alike
        ((createField policy id name value required).run d).2 :=
  simulation_alike.run_createField policy halike id name value required

end Discovery

end DocModel
