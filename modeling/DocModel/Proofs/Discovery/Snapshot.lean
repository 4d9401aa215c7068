import DocModel.Proofs.Discovery.Preservation

set_option autoImplicit false

/-! # The flag of a field and the first object of its class

The object that creates a class is the first one that is handed to it, and it makes the fields of
its members required. Objects of the same class that are nested in it may add these fields before
it does, as optional ones, and they may add others that stay optional. So the flag is compared with
the log here, in both directions: a required field is always a member of the first object
(`Runs.snapshot`), and when a task succeeds no member of a first object that it met is left without
the flag (`Runs.missing`). -/

namespace DocModel

variable {ρ : Type}

/-! ## First objects -/

/-- The first object that was handed to the class of this id. The log has the latest first. -/
def firstObject? (log : List Encounter) (id : String) : Option Members :=
  (log.reverse.find? fun encounter => encounter.id = id).map (·.object)

theorem firstObject?_append (more log : List Encounter) (id : String) :
    firstObject? (more ++ log) id = (firstObject? log id).or (firstObject? more id) := by
  simp [firstObject?, Option.map_or]

theorem firstObject?_cons (encounter : Encounter) (log : List Encounter) (id : String) :
    firstObject? (encounter :: log) id
      = (firstObject? log id).or (if encounter.id = id then some encounter.object else none) := by
  rw [← List.singleton_append, firstObject?_append]
  by_cases hid : encounter.id = id <;> simp [firstObject?, hid]

/-- A class has a first object if an object was handed to it. -/
theorem isSome_firstObject?_iff {log : List Encounter} {id : String} :
    (firstObject? log id).isSome = true ↔ ∃ encounter ∈ log, encounter.id = id := by
  simp [firstObject?, List.find?_isSome]

/-- The first object of the class has a member of this name. -/
def InFirst (log : List Encounter) (id name : String) : Prop :=
  ∃ object, firstObject? log id = some object ∧ name ∈ Assoc.keys object

/-- Later objects do not matter. -/
theorem InFirst.of_isSuffix {log more : List Encounter} (hmore : log <:+ more) {id name : String}
    (h : InFirst log id name) : InFirst more id name := by
  obtain ⟨later, rfl⟩ := hmore
  obtain ⟨object, hfirst, hname⟩ := h
  refine ⟨object, ?_, hname⟩
  rw [firstObject?_append, hfirst, Option.some_or]

/-! ## What a registry knows of them -/

/-- The classes that are registered are those that have a first object. -/
def Met (log : List Encounter) (r : Registry ρ) : Prop :=
  ∀ id, (firstObject? log id).isSome = r.contains id

/-- Required fields are members of the first object. -/
def FlagsInFirst (log : List Encounter) (r : Registry ρ) : Prop :=
  ∀ id name field, r.field? id name = some field → field.required = true → InFirst log id name

/-- The field is there, and it is required. -/
def Registry.Flagged (r : Registry ρ) (id name : String) : Prop :=
  ∃ field, r.field? id name = some field ∧ field.required = true

/-- A member of the first object has no required field, or not yet. -/
def Missing (log : List Encounter) (r : Registry ρ) (id name : String) : Prop :=
  InFirst log id name ∧ ¬ r.Flagged id name

namespace Met

variable {log : List Encounter} {r : Registry ρ}

theorem modifyField (h : Met log r) (id name : String) (f : Model.Field ρ → Model.Field ρ) :
    Met log (r.modifyField id name f) := by
  intro other
  rw [h other, Registry.contains_modifyField]

theorem pushField (h : Met log r) (id : String) (field : Model.Field ρ) :
    Met log (r.pushField id field) := by
  intro other
  rw [h other, Registry.contains_pushField]

theorem enter {c : Context ρ} (h : Met c.encounters c.registry) (id : String) (object : Members) :
    Met (c.enter id object).encounters (c.enter id object).registry := by
  intro other
  show (firstObject? (⟨id, object⟩ :: c.encounters) other).isSome = _
  rw [firstObject?_cons, c.contains_enter_eq, ← h other]
  by_cases heq : id = other <;> simp [heq]

/-- The object that creates a class is the first one of the class. -/
theorem inFirst_enter {c : Context ρ} (h : Met c.encounters c.registry) {id name : String}
    {object : Members} (hnew : c.registry.contains id = false)
    (hname : name ∈ Assoc.keys object) : InFirst (c.enter id object).encounters id name := by
  refine ⟨object, ?_, hname⟩
  have hnone : firstObject? c.encounters id = none := by simpa [hnew] using h id
  show firstObject? (⟨id, object⟩ :: c.encounters) id = some object
  rw [firstObject?_cons, hnone]
  simp

end Met

namespace FlagsInFirst

variable {log : List Encounter} {r : Registry ρ}

theorem modifyField (h : FlagsInFirst log r) {id name : String} {f : Model.Field ρ → Model.Field ρ}
    {marked : Prop} (hf : ∀ field : Model.Field ρ, field.Keeps marked (f field))
    (hmarked : marked → InFirst log id name) : FlagsInFirst log (r.modifyField id name f) := by
  intro other label field hfield hrequired
  rw [Registry.field?_modifyField _ _ _ _ fun field => (hf field).grows.name] at hfield
  split at hfield
  · rename_i heq
    obtain ⟨rfl, rfl⟩ := heq
    obtain ⟨old, hold, rfl⟩ := Option.map_eq_some_iff.1 hfield
    rcases (hf old).required with hsame | ⟨hnow, -⟩
    · exact h other label old hold (hsame ▸ hrequired)
    · exact hmarked hnow
  · exact h other label field hfield hrequired

theorem pushField (h : FlagsInFirst log r) {id : String} {field : Model.Field ρ}
    (hid : r.contains id = true) (hf : field.required = true → InFirst log id field.name) :
    FlagsInFirst log (r.pushField id field) := by
  intro other label found hfound hrequired
  rw [Registry.field?_pushField _ _ _ hid, Option.or_eq_some_iff] at hfound
  rcases hfound with hold | ⟨-, hnew⟩
  · exact h other label found hold hrequired
  · split at hnew
    · rename_i heq
      obtain ⟨rfl, rfl⟩ := heq
      obtain rfl := Option.some.inj hnew
      exact hf hrequired
    · exact absurd hnew nofun

theorem enter {c : Context ρ} (h : FlagsInFirst c.encounters c.registry) (id : String)
    (object : Members) :
    FlagsInFirst (c.enter id object).encounters (c.enter id object).registry := by
  intro other name field hfield hrequired
  rw [c.field?_enter] at hfield
  exact (h other name field hfield hrequired).of_isSuffix (List.suffix_cons _ _)

end FlagsInFirst

/-- A flag is never taken back. -/
theorem Registry.Flagged.keeps {marked : String → String → Prop} {r s : Registry ρ}
    {id name : String} (h : r.Flagged id name) (hkeeps : r.Keeps marked s) :
    s.Flagged id name := by
  obtain ⟨field, hfield, hrequired⟩ := h
  obtain ⟨kept, hkept, hfields⟩ := hkeeps.field? hfield
  exact ⟨kept, hkept, hfields.required_of_required hrequired⟩

theorem Missing.of_keeps {log : List Encounter} {marked : String → String → Prop}
    {r s : Registry ρ} {id name : String} (h : Missing log s id name) (hkeeps : r.Keeps marked s) :
    Missing log r id name :=
  ⟨h.1, fun hflagged => h.2 (hflagged.keeps hkeeps)⟩

theorem Missing.of_modifyField {log : List Encounter} {r : Registry ρ}
    {id name other label : String} {f : Model.Field ρ → Model.Field ρ}
    (h : Missing log (r.modifyField other label f) id name) {marked : Prop}
    (hf : ∀ field : Model.Field ρ, field.Keeps marked (f field)) :
    Missing log r id name :=
  h.of_keeps (r.keeps_modifyField (fun _ _ => marked) other label hf)

/-! ## Tasks -/

namespace Discovery

/-- Classes are registered when they are met, and only then. -/
theorem Runs.met {policy : Policy} {task : Task} {c c' : Context ρ}
    {outcome : Except Error task.Result} (h : Runs policy task c outcome c')
    (hmet : Met c.encounters c.registry) : Met c'.encounters c'.registry := by
  induction h with
  | stop | leaf | restNil | foldNil | rootNil => exact hmet
  | arrayFails _ _ _ _ ih | object _ _ _ _ ih | restFails _ ih | restDiffers _ _ ih
  | foldFails _ ih | absent _ _ _ ih | addFails _ _ _ ih | rootFails _ ih => exact ih hmet
  | array _ _ _ _ _ ih1 ih2 | restAgrees _ _ ih1 ih2 | foldCons _ _ ih1 ih2
  | rootCons _ _ ih1 ih2 => exact ih2 (ih1 hmet)
  | enter _ _ ih => exact ih (hmet.enter _ _)
  | counted => exact hmet.modifyField _ _ _
  | retypeFails _ _ _ ih => exact ih (hmet.modifyField _ _ _)
  | retyped _ _ _ ih => exact (ih (hmet.modifyField _ _ _)).modifyField _ _ _
  | addKnown _ _ _ _ ih => exact (ih hmet).modifyField _ _ _
  | addNew _ _ _ _ ih => exact (ih hmet).pushField _ _

/-- **Only members of the first object are required**, at every point of a traversal. -/
theorem Runs.snapshot {policy : Policy} {task : Task} {c c' : Context ρ}
    {outcome : Except Error task.Result} (h : Runs policy task c outcome c')
    (hmet : Met c.encounters c.registry)
    (hfirst : ∀ id name, task.Requires id name → InFirst c.encounters id name)
    (hflags : FlagsInFirst c.encounters c.registry) :
    FlagsInFirst c'.encounters c'.registry := by
  induction h with
  | stop | leaf | restNil | foldNil | rootNil => exact hflags
  | arrayFails _ _ _ _ ih | object _ _ _ _ ih | restFails _ ih | restDiffers _ _ ih
  | addFails _ _ _ ih | rootFails _ ih => exact ih hmet nofun hflags
  | array _ _ _ hrun _ ih1 ih2 | restAgrees hrun _ ih1 ih2 | rootCons hrun _ ih1 ih2 =>
    exact ih2 (hrun.met hmet) nofun (ih1 hmet nofun hflags)
  | absent _ _ _ ih => exact ih hmet hfirst hflags
  | @enter id object c _ _ _ _ ih =>
    refine ih (hmet.enter id object) ?_ (hflags.enter id object)
    rintro other name ⟨hcreating, rfl, hname⟩
    exact hmet.inFirst_enter (by simpa using hcreating) hname
  | foldFails _ ih =>
    exact ih hmet (fun _ _ h => hfirst _ _ (Task.requires_folding_cons.2 (.inl h))) hflags
  | foldCons hmember _ ih1 ih2 =>
    refine ih2 (hmember.met hmet) (fun _ _ h => ?_) (ih1 hmet (fun _ _ h => ?_) hflags)
    · have hin := hfirst _ _ (Task.requires_folding_cons.2 (.inr h))
      exact hin.of_isSuffix hmember.encounters_isSuffix
    · exact hfirst _ _ (Task.requires_folding_cons.2 (.inl h))
  | @counted id creating name =>
    exact hflags.modifyField (Model.Field.keeps_counted creating) fun hcreating =>
      hfirst id name ⟨hcreating, rfl, rfl⟩
  | @retypeFails id _ name _ _ _ _ _ _ _ _ ih =>
    exact ih (hmet.modifyField _ _ _) nofun
      (hflags.modifyField Model.Field.keeps_recordOccurrence nofun)
  | @retyped id creating name _ _ type _ _ _ _ htyping ih =>
    have hcounted := ih (hmet.modifyField _ _ _) nofun
      (hflags.modifyField Model.Field.keeps_recordOccurrence nofun)
    refine hcounted.modifyField (Model.Field.keeps_retyped type creating) fun hcreating => ?_
    exact (hfirst id name ⟨hcreating, rfl, rfl⟩).of_isSuffix htyping.encounters_isSuffix
  | @addKnown id name _ required type _ _ _ _ _ htyping _ ih =>
    refine (ih hmet nofun hflags).modifyField (Model.Field.keeps_joined type required) ?_
    intro hrequired
    exact (hfirst id name ⟨hrequired, rfl, rfl⟩).of_isSuffix htyping.encounters_isSuffix
  | @addNew id name _ required _ _ _ hid _ htyping _ ih =>
    refine (ih hmet nofun hflags).pushField (htyping.extends.contains hid) fun hrequired => ?_
    exact (hfirst id name ⟨hrequired, rfl, rfl⟩).of_isSuffix htyping.encounters_isSuffix

/-- A task that succeeds has made the fields of its members required. -/
theorem Runs.flagged {policy : Policy} {task : Task} {c c' : Context ρ}
    {outcome : Except Error task.Result} (h : Runs policy task c outcome c')
    (hok : outcome.isOk = true) {id name : String} (hrequires : task.Requires id name) :
    c'.registry.Flagged id name := by
  induction h with
  | stop | arrayFails | restFails | foldFails | retypeFails | addFails | rootFails =>
    exact absurd hok nofun
  | leaf | array | object | restNil | restDiffers | restAgrees | enter | rootNil | rootCons =>
    exact hrequires.elim
  | foldNil => exact absurd hrequires.2.2 List.not_mem_nil
  | foldCons _ hrest ih1 ih2 =>
    rcases Task.requires_folding_cons.1 hrequires with hmember | hlater
    · exact Registry.Flagged.keeps (ih1 rfl hmember) hrest.keeps
    · exact ih2 hok hlater
  | counted hfield _ =>
    obtain ⟨rfl, rfl, rfl⟩ := hrequires
    refine ⟨_, Context.field?_modifyField_self (fun field => ?_) hfield, rfl⟩
    exact (field.extends_counted true).name
  | @retyped _ _ _ _ _ type _ _ hfield _ htyping =>
    obtain ⟨rfl, rfl, rfl⟩ := hrequires
    obtain ⟨again, hagain⟩ := htyping.field?_of_counted hfield
    refine ⟨_, Context.field?_modifyField_self (fun field => ?_) hagain, rfl⟩
    exact (field.extends_retyped type true).name
  | absent _ _ _ ih => exact ih hok hrequires
  | @addKnown _ _ _ _ type field _ _ _ _ _ hknown =>
    obtain ⟨rfl, rfl, rfl⟩ := hrequires
    refine ⟨_, Context.field?_modifyField_self (fun field => ?_) hknown, ?_⟩
    · exact (field.extends_joined type true).name
    · exact (Model.Field.keeps_unify _ type).required_of_required rfl
  | addNew hid _ htyping hnew =>
    obtain ⟨rfl, rfl, rfl⟩ := hrequires
    exact ⟨_, Context.field?_pushField_self (htyping.extends.contains hid) hnew, rfl⟩

/-- **No member of a first object is forgotten**: what is missing when a task succeeds was missing
before, on behalf of an object whose members are still being folded. -/
theorem Runs.missing {policy : Policy} {task : Task} {c c' : Context ρ}
    {outcome : Except Error task.Result} (h : Runs policy task c outcome c')
    (hok : outcome.isOk = true) (hmet : Met c.encounters c.registry) {id name : String}
    (hmissing : Missing c'.encounters c'.registry id name) :
    Missing c.encounters c.registry id name := by
  induction h with
  | stop | arrayFails | restFails | foldFails | retypeFails | addFails | rootFails =>
    exact absurd hok nofun
  | leaf | restNil | foldNil | rootNil => exact hmissing
  | array _ _ _ hrun _ ih1 ih2 | restAgrees hrun _ ih1 ih2 | foldCons hrun _ ih1 ih2
  | rootCons hrun _ ih1 ih2 => exact ih1 rfl hmet (ih2 hok (hrun.met hmet) hmissing)
  | @object _ _ _ _ _ outcome _ _ _ _ ih =>
    cases outcome with
    | error e => exact absurd hok nofun
    | ok _ => exact ih rfl hmet hmissing
  | restDiffers _ _ ih => exact ih rfl hmet hmissing
  | absent _ _ _ ih => exact ih hok hmet hmissing
  | @enter other object c _ outcome _ hfolded ih =>
    cases outcome with
    | error e => exact absurd hok nofun
    | ok _ =>
      obtain ⟨⟨first, hfirst, hname⟩, hunflagged⟩ := ih rfl (hmet.enter other object) hmissing
      have hbefore : ¬ c.registry.Flagged id name := fun hflagged =>
        hunflagged (hflagged.keeps (c.keeps_enter (fun _ _ => False) other object))
      rw [show (c.enter other object).encounters = ⟨other, object⟩ :: c.encounters from rfl,
        firstObject?_cons, Option.or_eq_some_iff] at hfirst
      rcases hfirst with hold | ⟨hnone, hnew⟩
      · exact ⟨⟨first, hold, hname⟩, hbefore⟩
      · -- the object is the first one of its class, so its members have been folded as such
        split at hnew
        · rename_i heq
          subst heq
          obtain rfl := Option.some.inj hnew
          have hcreating : (!c.registry.contains other) = true := by
            rw [← hmet other, hnone]
            rfl
          exact absurd (hfolded.flagged rfl ⟨hcreating, rfl, hname⟩) hmissing.2
        · exact absurd hnew nofun
  | @counted _ creating =>
    exact hmissing.of_modifyField (Model.Field.keeps_counted creating)
  | @retyped _ creating _ _ _ type _ _ _ _ _ ih =>
    have hretyped := hmissing.of_modifyField (Model.Field.keeps_retyped type creating)
    exact (ih rfl (hmet.modifyField _ _ _) hretyped).of_modifyField
      Model.Field.keeps_recordOccurrence
  | @addKnown _ _ _ required type _ _ _ _ _ _ _ ih =>
    exact ih rfl hmet (hmissing.of_modifyField (Model.Field.keeps_joined type required))
  | @addNew id _ _ _ _ _ c₁ _ _ _ _ ih =>
    exact ih rfl hmet (hmissing.of_keeps (c₁.registry.keeps_pushField (fun _ _ => False) id _))

end Discovery

end DocModel
