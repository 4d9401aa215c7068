import DocModel.Proofs.Discovery.Footprint
import DocModel.Proofs.Registry.Likeness

set_option autoImplicit false

/-! # What discovery looks at

All that decides how a task goes on is the depth and, in the classes of the ids that it is about,
which names have a field and which of the fields are references. Two contexts in which this is the
same cannot be told apart, and if every update that discovery makes keeps them so, the whole task has
the same outcome in both: `Runs.simulate`, and `Simulation.run` for the functions. -/

namespace DocModel

variable {ρ : Type}

/-! ## The updates of a member -/

namespace Model.Field

theorem blind_requireIf (required : Bool) : Blind (requireIf required : Field ρ → Field ρ) := by
  cases required
  · exact fun _ => rfl
  · exact blind_markRequired

theorem blind_counted (required : Bool) :
    Blind fun field : Field ρ => field.recordOccurrence.requireIf required :=
  (blind_requireIf required).comp blind_recordOccurrence

theorem blind_retyped (type : ValueType) (required : Bool) :
    Blind fun field : Field ρ => (field.unify type).requireIf required :=
  (blind_requireIf required).comp (blind_unify type)

theorem blind_joined (type : ValueType) (required : Bool) :
    Blind fun field : Field ρ => (field.recordOccurrence.requireIf required).unify type :=
  (blind_unify type).comp (blind_counted required)

end Model.Field

/-! ## Relations that discovery keeps -/

namespace Discovery

/-- Related contexts look the same in the classes of these ids, and every update of these classes
leaves related contexts again. -/
structure Simulation (ids : String → Prop) (rel : Context ρ → Context ρ → Prop) : Prop where
  depth {c d : Context ρ} : rel c d → d.depth = c.depth
  contains {c d : Context ρ} {id : String} : rel c d → ids id →
    d.registry.contains id = c.registry.contains id
  field? {c d : Context ρ} {id : String} (name : String) : rel c d → ids id →
    (d.registry.field? id name).map Model.Field.isReference
      = (c.registry.field? id name).map Model.Field.isReference
  inside {c d : Context ρ} : rel c d → rel c.inside d.inside
  outside {c d : Context ρ} : rel c d → rel c.outside d.outside
  enter {c d : Context ρ} {id : String} (object : Members) : rel c d → ids id →
    rel (c.enter id object) (d.enter id object)
  modifyField {c d : Context ρ} {id : String} {f : Model.Field ρ → Model.Field ρ} (name : String) :
    Model.Field.Blind f → rel c d → ids id →
    rel (c.modifyField id name f) (d.modifyField id name f)
  pushField {c d : Context ρ} {id : String} (field : Model.Field ρ) : rel c d → ids id →
    rel (c.pushField id field) (d.pushField id field)

namespace Simulation

variable {ids : String → Prop} {rel : Context ρ → Context ρ → Prop} {c d : Context ρ}
  {id name : String}

theorem contains_of_contains (sim : Simulation ids rel) (h : rel c d) (hid : ids id)
    (hcontains : c.registry.contains id = true) : d.registry.contains id = true :=
  (sim.contains h hid).trans hcontains

/-- A field that is found in one context is found in the other one, and it is of the same kind. -/
theorem exists_field (sim : Simulation ids rel) (h : rel c d) (hid : ids id)
    {field : Model.Field ρ} (hfield : c.registry.field? id name = some field) :
    ∃ other, d.registry.field? id name = some other ∧ other.isReference = field.isReference := by
  have hsame := sim.field? name h hid
  rw [hfield, Option.map_some] at hsame
  exact Option.map_eq_some_iff.1 hsame

theorem field?_eq_none (sim : Simulation ids rel) (h : rel c d) (hid : ids id)
    (hfield : c.registry.field? id name = none) : d.registry.field? id name = none := by
  have hsame := sim.field? name h hid
  rw [hfield, Option.map_none] at hsame
  exact Option.map_eq_none_iff.1 hsame

end Simulation

/-- **What a task does in one context it does in every related one**, also when it fails. -/
theorem Runs.simulate {ids : String → Prop} {rel : Context ρ → Context ρ → Prop}
    (sim : Simulation ids rel) {policy : Policy} {task : Task} {c c' d : Context ρ}
    {outcome : Except Error task.Result} (h : Runs policy task c outcome c')
    (hids : ∀ id, task.Touches policy.digester id → ids id) (hrel : rel c d) :
    ∃ d', Runs policy task d outcome d' ∧ rel c' d' := by
  induction h generalizing d with
  | stop hstops => exact ⟨d, .stop (sim.depth hrel ▸ hstops), hrel⟩
  | leaf hname htype => exact ⟨d, .leaf hname htype, hrel⟩
  | arrayFails hname hadmits hdigest _ ih =>
    have hfirst := fun id h => hids id (.item hdigest List.mem_cons_self h)
    obtain ⟨d₁, hrun, hafter⟩ := ih hfirst (sim.inside hrel)
    exact ⟨_, .arrayFails hname (sim.depth hrel ▸ hadmits) hdigest hrun, sim.outside hafter⟩
  | array hname hadmits hdigest _ _ ih1 ih2 =>
    have hfirst := fun id h => hids id (.item hdigest List.mem_cons_self h)
    obtain ⟨d₁, hrun, hafter⟩ := ih1 hfirst (sim.inside hrel)
    obtain ⟨d₂, hrest, hafter'⟩ := ih2 (fun id ⟨_, hitem, h⟩ =>
      hids id (.item hdigest (List.mem_cons_of_mem _ hitem) h)) hafter
    exact ⟨_, .array hname (sim.depth hrel ▸ hadmits) hdigest hrun hrest, sim.outside hafter'⟩
  | @object _ id object _ _ _ hname hdigest hadmits _ ih =>
    have hentered : ∀ other, (Task.entering id object).Touches policy.digester other
        → ids other := by
      rintro _ (rfl | ⟨_, hmember, h⟩)
      · exact hids _ (.object object hdigest)
      · exact hids _ (.member hmember h)
    obtain ⟨d₁, hrun, hafter⟩ := ih hentered (sim.inside hrel)
    exact ⟨_, .object hname hdigest (sim.depth hrel ▸ hadmits) hrun, sim.outside hafter⟩
  | restNil => exact ⟨d, .restNil, hrel⟩
  | restFails _ ih =>
    obtain ⟨d₁, hrun, hafter⟩ := ih (fun id h => hids id ⟨_, List.mem_cons_self, h⟩) hrel
    exact ⟨d₁, .restFails hrun, hafter⟩
  | restDiffers _ hne ih =>
    obtain ⟨d₁, hrun, hafter⟩ := ih (fun id h => hids id ⟨_, List.mem_cons_self, h⟩) hrel
    exact ⟨d₁, .restDiffers hrun hne, hafter⟩
  | restAgrees _ _ ih1 ih2 =>
    obtain ⟨d₁, hitem, hafter⟩ := ih1 (fun id h => hids id ⟨_, List.mem_cons_self, h⟩) hrel
    obtain ⟨d₂, hrest, hafter'⟩ := ih2 (fun id ⟨_, hin, h⟩ =>
      hids id ⟨_, List.mem_cons_of_mem _ hin, h⟩) hafter
    exact ⟨d₂, .restAgrees hitem hrest, hafter'⟩
  | @enter id object _ _ _ hne _ ih =>
    have hid : ids id := hids id (Or.inl rfl)
    obtain ⟨d₁, hrun, hafter⟩ := ih hids (sim.enter object hrel hid)
    rw [← sim.contains hrel hid] at hrun
    exact ⟨d₁, .enter hne hrun, hafter⟩
  | foldNil => exact ⟨d, .foldNil, hrel⟩
  | foldFails _ ih =>
    obtain ⟨d₁, hrun, hafter⟩ := ih (fun id h =>
      hids id (h.imp_right fun h => ⟨_, List.mem_cons_self, h⟩)) hrel
    exact ⟨d₁, .foldFails hrun, hafter⟩
  | foldCons _ _ ih1 ih2 =>
    obtain ⟨d₁, hmember, hafter⟩ := ih1 (fun id h =>
      hids id (h.imp_right fun h => ⟨_, List.mem_cons_self, h⟩)) hrel
    obtain ⟨d₂, hrest, hafter'⟩ := ih2 (fun id h => hids id (h.imp_right
      fun ⟨_, hin, h⟩ => ⟨_, List.mem_cons_of_mem _ hin, h⟩)) hafter
    exact ⟨d₂, .foldCons hmember hrest, hafter'⟩
  | @counted id creating name _ _ _ hfield href =>
    have hid : ids id := hids id (Or.inl rfl)
    obtain ⟨other, hother, hkind⟩ := sim.exists_field hrel hid hfield
    exact ⟨_, .counted hother (hkind.trans href),
      sim.modifyField name (Model.Field.blind_counted creating) hrel hid⟩
  | @retypeFails id _ name _ _ _ _ _ hfield href _ ih =>
    have hid : ids id := hids id (Or.inl rfl)
    obtain ⟨other, hother, hkind⟩ := sim.exists_field hrel hid hfield
    obtain ⟨d₁, hrun, hafter⟩ := ih (fun id h => hids id (Or.inr h))
      (sim.modifyField name Model.Field.blind_recordOccurrence hrel hid)
    exact ⟨d₁, .retypeFails hother (hkind.trans href) hrun, hafter⟩
  | @retyped id creating name _ _ type _ _ hfield href _ ih =>
    have hid : ids id := hids id (Or.inl rfl)
    obtain ⟨other, hother, hkind⟩ := sim.exists_field hrel hid hfield
    obtain ⟨d₁, hrun, hafter⟩ := ih (fun id h => hids id (Or.inr h))
      (sim.modifyField name Model.Field.blind_recordOccurrence hrel hid)
    exact ⟨_, .retyped hother (hkind.trans href) hrun,
      sim.modifyField name (Model.Field.blind_retyped type creating) hafter hid⟩
  | @absent id _ _ _ _ _ _ hcontains hfield _ ih =>
    have hid : ids id := hids id (Or.inl rfl)
    obtain ⟨d₁, hrun, hafter⟩ := ih hids hrel
    exact ⟨d₁, .absent (sim.contains_of_contains hrel hid hcontains)
      (sim.field?_eq_none hrel hid hfield) hrun, hafter⟩
  | @addFails id _ _ _ _ _ _ hcontains hfield _ ih =>
    have hid : ids id := hids id (Or.inl rfl)
    obtain ⟨d₁, hrun, hafter⟩ := ih (fun id h => hids id (Or.inr h)) hrel
    exact ⟨d₁, .addFails (sim.contains_of_contains hrel hid hcontains)
      (sim.field?_eq_none hrel hid hfield) hrun, hafter⟩
  | @addKnown id name _ required type _ _ _ hcontains hfield _ hknown ih =>
    have hid : ids id := hids id (Or.inl rfl)
    obtain ⟨d₁, hrun, hafter⟩ := ih (fun id h => hids id (Or.inr h)) hrel
    obtain ⟨other, hother, -⟩ := sim.exists_field hafter hid hknown
    exact ⟨_, .addKnown (sim.contains_of_contains hrel hid hcontains)
      (sim.field?_eq_none hrel hid hfield) hrun hother,
      sim.modifyField name (Model.Field.blind_joined type required) hafter hid⟩
  | @addNew id _ _ _ _ _ _ hcontains hfield _ hnew ih =>
    have hid : ids id := hids id (Or.inl rfl)
    obtain ⟨d₁, hrun, hafter⟩ := ih (fun id h => hids id (Or.inr h)) hrel
    exact ⟨_, .addNew (sim.contains_of_contains hrel hid hcontains)
      (sim.field?_eq_none hrel hid hfield) hrun (sim.field?_eq_none hafter hid hnew),
      sim.pushField _ hafter hid⟩
  | rootNil => exact ⟨d, .rootNil, hrel⟩
  | rootFails _ ih =>
    obtain ⟨d₁, hrun, hafter⟩ := ih (fun id h =>
      hids id (h.imp_right fun h => ⟨_, List.mem_cons_self, h⟩)) hrel
    exact ⟨d₁, .rootFails hrun, hafter⟩
  | rootCons _ _ ih1 ih2 =>
    obtain ⟨d₁, hentered, hafter⟩ := ih1 (fun id h =>
      hids id (h.imp_right fun h => ⟨_, List.mem_cons_self, h⟩)) hrel
    obtain ⟨d₂, hrest, hafter'⟩ := ih2 (fun id h => hids id (h.imp_right
      fun ⟨_, hin, h⟩ => ⟨_, List.mem_cons_of_mem _ hin, h⟩)) hafter
    exact ⟨d₂, .rootCons hentered hrest, hafter'⟩

/-! ## Calls in related contexts -/

section Calls

variable {rel : Context ρ → Context ρ → Prop} (sim : Simulation (fun _ => True) rel)
  (policy : Policy) {c d : Context ρ} (hrel : rel c d)

include sim hrel

/-- Run in two related contexts, a task has one outcome and leaves related contexts. -/
theorem Simulation.run (task : Task) (hready : task.Ready c) :
    ((task.step policy).run c).1 = ((task.step policy).run d).1
      ∧ rel ((task.step policy).run c).2 ((task.step policy).run d).2 := by
  obtain ⟨d', hruns, hafter⟩ := (runs_run policy hready).simulate sim (fun _ _ => trivial) hrel
  rw [hruns.run_eq]
  exact ⟨rfl, hafter⟩

/-- A field is refused in both contexts, with one error, or it is added in both. -/
theorem Simulation.run_createField (id name : String) (value : Document) (required : Bool) :
    ((createField policy id name value required).run c).1
        = ((createField policy id name value required).run d).1
      ∧ rel ((createField policy id name value required).run c).2
        ((createField policy id name value required).run d).2 := by
  by_cases hready : (Task.adding id name value required).Ready c
  · exact sim.run policy hrel (.adding id name value required) hready
  · rcases contains_eq_false_or_of_not_ready hready with hid | ⟨field, hfield⟩
    · have hid' : d.registry.contains id = false := (sim.contains hrel trivial).trans hid
      rw [run_createField_of_not_contains policy hid, run_createField_of_not_contains policy hid']
      exact ⟨rfl, hrel⟩
    · obtain ⟨other, hother, -⟩ := sim.exists_field hrel trivial hfield
      rw [run_createField_of_field? policy hfield, run_createField_of_field? policy hother]
      exact ⟨rfl, hrel⟩

end Calls

end Discovery

end DocModel
