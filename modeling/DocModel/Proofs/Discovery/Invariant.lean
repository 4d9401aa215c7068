import DocModel.Proofs.Discovery.Execution
import DocModel.Proofs.Registry.Invariant

set_option autoImplicit false

/-! # Discovery keeps invariants of classes

Also when it fails: an invariant of classes holds at every point of a traversal, because a type is
stored only after typing has registered its target. -/

namespace DocModel.Discovery

variable {ρ : Type}

/-- The type that a task has found so far is known. -/
def Task.Grounded (r : Registry ρ) : Task → Prop
  | .typingRest _ general _ => general.Known fun id => r.contains id = true
  | .typing .. | .entering .. | .folding .. | .member .. | .adding .. | .roots .. => True

/-- The type that a task results in is known, and the class of an object is registered. -/
def Task.Lands (r : Registry ρ) : (task : Task) → Except Error task.Result → Prop
  | .typing .., outcome | .typingRest .., outcome =>
    ∀ type, outcome = .ok type → type.Known fun id => r.contains id = true
  | .entering .., outcome => ∀ id, outcome = .ok id → r.contains id = true
  | .folding .., _ | .member .., _ | .adding .., _ | .roots .., _ => True

theorem Task.lands_error (r : Registry ρ) (task : Task) (e : Error) :
    task.Lands r (.error e) := by
  cases task with
  | typing | typingRest | entering => exact nofun
  | folding | member | adding | roots => trivial

/-- A type that is known is a result to rely on. -/
theorem known_of_ok {r : Registry ρ} {found : ValueType}
    (h : found.Known fun id => r.contains id = true) :
    ∀ type, (.ok found : Except Error ValueType) = .ok type →
      type.Known fun id => r.contains id = true := by
  rintro _ ⟨⟩
  exact h

theorem known_of_leafType? {value : Document} {type : ValueType}
    (h : value.leafType? = some type) (known : String → Prop) : type.Known known := by
  intro id hid
  subst hid
  cases value with
  | array items => cases items <;> simp [Document.leafType?] at h
  | null | bool | number | string | object => simp [Document.leafType?] at h

/-- What typing finds is known afterwards. -/
theorem Runs.lands {policy : Policy} {task : Task} {c c' : Context ρ}
    {outcome : Except Error task.Result} (h : Runs policy task c outcome c')
    (hground : task.Grounded c.registry) : task.Lands c'.registry outcome := by
  induction h with
  | stop => exact Task.lands_error ..
  | leaf _ htype => exact known_of_ok (known_of_leafType? htype _)
  | arrayFails | restFails => exact nofun
  | array _ _ _ _ _ ih1 ih2 => exact ih2 (ih1 trivial _ rfl)
  | @object _ id _ _ c₁ outcome _ _ _ _ ih =>
    cases outcome with
    | error e => exact nofun
    | ok entered =>
      refine known_of_ok fun other hother => ?_
      obtain rfl := ValueType.instanceOf.inj hother
      exact ih trivial _ rfl
  | restNil => exact known_of_ok hground
  | restDiffers => exact known_of_ok (ValueType.known_string _)
  | restAgrees _ _ ih1 ih2 => exact ih2 (ih1 trivial _ rfl)
  | @enter id _ c c₁ outcome _ hfolded =>
    cases outcome with
    | error e => exact nofun
    | ok _ =>
      rintro _ ⟨⟩
      exact hfolded.extends.contains (c.contains_enter _ _)
  | foldNil | foldFails | foldCons | counted | retypeFails | retyped | absent | addFails | addKnown
  | addNew | rootNil | rootFails | rootCons => trivial

section Invariant

variable {P : (String → Prop) → Model.Class ρ → Prop}

theorem each_enter (inv : ClassInvariant P) {c : Context ρ} (h : c.registry.Each P) (id : String)
    (object : Members) : (c.enter id object).registry.Each P := by
  unfold Context.enter
  split
  · exact h.modify inv id Model.Class.id_recordOccurrence fun _ hcls =>
      inv.recordOccurrence (h.get? hcls)
  · exact h.put inv (inv.new _ id)

/-- **Discovery keeps invariants of classes.** -/
theorem Runs.each (inv : ClassInvariant P) {policy : Policy} {task : Task} {c c' : Context ρ}
    {outcome : Except Error task.Result} (h : Runs policy task c outcome c')
    (heach : c.registry.Each P) : c'.registry.Each P := by
  induction h with
  | stop | leaf | restNil | foldNil | rootNil => exact heach
  | arrayFails _ _ _ _ ih | object _ _ _ _ ih | restFails _ ih | restDiffers _ _ ih
  | foldFails _ ih | absent _ _ _ ih | addFails _ _ _ ih | rootFails _ ih => exact ih heach
  | array _ _ _ _ _ ih1 ih2 | restAgrees _ _ ih1 ih2 | foldCons _ _ ih1 ih2
  | rootCons _ _ ih1 ih2 => exact ih2 (ih1 heach)
  | enter _ _ ih => exact ih (each_enter inv heach _ _)
  | counted => exact heach.modifyField inv _ _ (Model.Field.extends_counted _)
  | retypeFails _ _ _ ih =>
    exact ih (heach.modifyField inv _ _ Model.Field.extends_recordOccurrence)
  | @retyped id _ name _ _ _ _ _ _ _ _ ih =>
    have hcounted := heach.modifyField inv id name Model.Field.extends_recordOccurrence
    exact (ih hcounted).modifyField inv _ _ (Model.Field.extends_retyped _ _)
  | addKnown _ _ _ _ ih => exact (ih heach).modifyField inv _ _ (Model.Field.extends_joined _ _)
  | addNew _ _ htyping hnew ih =>
    exact (ih heach).pushField inv _ _ _ (htyping.lands trivial _ rfl) hnew

end Invariant

theorem Runs.sound {policy : Policy} {task : Task} {c c' : Context ρ}
    {outcome : Except Error task.Result} (h : Runs policy task c outcome c')
    (hsound : c.registry.Sound) : c'.registry.Sound := h.each classInvariant_sound hsound

theorem Runs.distinctNames {policy : Policy} {task : Task} {c c' : Context ρ}
    {outcome : Except Error task.Result} (h : Runs policy task c outcome c')
    (hnames : c.registry.DistinctNames) : c'.registry.DistinctNames :=
  h.each classInvariant_distinctNames hnames

end DocModel.Discovery
