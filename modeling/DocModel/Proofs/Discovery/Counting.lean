import DocModel.Proofs.Discovery.Invariant
import Mathlib.Algebra.GroupWithZero.Nat

set_option autoImplicit false

/-! # Counting

Every object that is handed to a class is counted once by the class, and once by the field of each
of its members, however objects of one class nest inside one another. An observation is counted in
three places: by the new field, by the known field, and by the field that was added while its own
value was typed. The members that are still to be folded are owed: `Task.owed` is what a task has
yet to count, and the balance of counts, encounters and what is owed is kept by every rule. A task
that fails may leave some of it uncounted, never the other way round. -/

namespace DocModel

variable {ρ : Type}

/-! ## Counts of a registry -/

namespace Registry

/-- How many objects the class of this id has counted; a class that is not there counts none. -/
def classCount (r : Registry ρ) (id : String) : Nat := ((r.get? id).map (·.occurrences)).getD 0

/-- How many objects the first field of this name has counted. -/
def fieldCount (r : Registry ρ) (id name : String) : Nat :=
  ((r.field? id name).map (·.occurrences)).getD 0

theorem classCount_of_mem {r : Registry ρ} {cls : Model.Class ρ} (h : cls ∈ r.classes) :
    r.classCount cls.id = cls.occurrences := by
  simp [classCount, get?_of_mem h]

theorem fieldCount_of_field? {r : Registry ρ} {id name : String} {field : Model.Field ρ}
    (h : r.field? id name = some field) : r.fieldCount id name = field.occurrences := by
  simp [fieldCount, h]

theorem classCount_modify (r : Registry ρ) (id : String) (f : Model.Class ρ → Model.Class ρ)
    (keeps : ∀ cls, (f cls).id = cls.id) (hf : ∀ cls, (f cls).occurrences = cls.occurrences)
    (other : String) : (r.modify id f keeps).classCount other = r.classCount other := by
  rw [classCount, get?_modify]
  split
  · rename_i heq
    subst heq
    cases hcls : r.get? other <;> simp [classCount, hcls, hf]
  · rfl

theorem classCount_modifyField (r : Registry ρ) (id name : String)
    (f : Model.Field ρ → Model.Field ρ) (other : String) :
    (r.modifyField id name f).classCount other = r.classCount other :=
  classCount_modify r id _ (Model.Class.id_modifyField name f) (fun _ => rfl) other

theorem classCount_pushField (r : Registry ρ) (id : String) (field : Model.Field ρ)
    (other : String) : (r.pushField id field).classCount other = r.classCount other :=
  classCount_modify r id _ (Model.Class.id_pushField field) (fun _ => rfl) other

theorem fieldCount_modifyField (r : Registry ρ) {id name : String} {field : Model.Field ρ}
    (hfield : r.field? id name = some field) {f : Model.Field ρ → Model.Field ρ}
    (keeps : ∀ field, (f field).name = field.name) {n : Nat}
    (hf : ∀ field, (f field).occurrences = field.occurrences + n) (other label : String) :
    (r.modifyField id name f).fieldCount other label
      = r.fieldCount other label + if other = id ∧ label = name then n else 0 := by
  rw [fieldCount, field?_modifyField _ _ _ _ keeps]
  split
  · rename_i heq
    obtain ⟨rfl, rfl⟩ := heq
    simp [fieldCount, hfield, hf]
  · simp [fieldCount]

theorem fieldCount_pushField (r : Registry ρ) {id : String} {field : Model.Field ρ}
    (hid : r.contains id = true) (hnew : r.field? id field.name = none) (other label : String) :
    (r.pushField id field).fieldCount other label
      = r.fieldCount other label
        + if other = id ∧ label = field.name then field.occurrences else 0 := by
  rw [fieldCount, field?_pushField _ _ _ hid]
  by_cases heq : other = id ∧ label = field.name
  · obtain ⟨rfl, rfl⟩ := heq
    simp [fieldCount, hnew]
  · have hne : ¬ (other = id ∧ field.name = label) := fun h => heq ⟨h.1, h.2.symm⟩
    simp [fieldCount, heq, hne]

end Registry

/-! ## Counts of the encounters -/

/-- How often this name is among the members of an object that is handed to this class. -/
def observations (id name other : String) (object : Members) : Nat :=
  if other = id then (Assoc.keys object).count name else 0

/-- How many objects were handed to the class of this id. -/
def timesEntered (log : List Encounter) (id : String) : Nat :=
  log.countP fun encounter => encounter.id = id

/-- How often a member of this name was in them. -/
def timesObserved (log : List Encounter) (id name : String) : Nat :=
  (log.map fun encounter => observations id name encounter.id encounter.object).sum

namespace Context

variable (c : Context ρ) (id : String) (object : Members) (other name : String)

theorem classCount_enter :
    (c.enter id object).registry.classCount other
      = c.registry.classCount other + if id = other then 1 else 0 := by
  unfold Registry.classCount enter
  split
  · rw [Registry.get?_modify]
    by_cases heq : other = id
    · subst heq
      rename_i hknown
      rw [Registry.contains_eq_isSome_get?, Option.isSome_iff_exists] at hknown
      obtain ⟨cls, hcls⟩ := hknown
      simp [hcls, Model.Class.recordOccurrence]
    · have hne : ¬ id = other := fun h => heq h.symm
      simp [heq, hne]
  · rw [Registry.get?_put]
    by_cases heq : other = id
    · subst heq
      rename_i hnew
      have hnone : c.registry.get? other = none := by
        simpa [Registry.contains_eq_isSome_get?] using hnew
      simp [hnone, Model.Class.new]
    · have hne : ¬ id = other := fun h => heq h.symm
      simp [heq, hne, Model.Class.new]

theorem fieldCount_enter :
    (c.enter id object).registry.fieldCount other name = c.registry.fieldCount other name := by
  rw [Registry.fieldCount, c.field?_enter, Registry.fieldCount]

theorem timesEntered_enter :
    timesEntered (c.enter id object).encounters other
      = timesEntered c.encounters other + if id = other then 1 else 0 := by
  simp [timesEntered, enter, List.countP_cons]

theorem timesObserved_enter :
    timesObserved (c.enter id object).encounters other name
      = timesObserved c.encounters other name + observations other name id object := by
  simp [timesObserved, enter, Nat.add_comm]

end Context

namespace Discovery

/-! ## The balance -/

/-- How often a task has yet to count a field, for members that it was handed. -/
def Task.owed (id name : String) : Task → Nat
  | .folding other _ members => observations id name other members
  | .member other _ label _ | .adding other label .. => if id = other ∧ name = label then 1 else 0
  | .typing .. | .typingRest .. | .entering .. | .roots .. => 0

theorem owed_folding_cons (id name other label : String) (creating : Bool) (value : Document)
    (rest : Members) :
    Task.owed id name (.folding other creating ((label, value) :: rest))
      = Task.owed id name (.member other creating label value)
        + Task.owed id name (.folding other creating rest) := by
  by_cases hid : other = id
  · subst hid
    by_cases hname : label = name
    · simp [Task.owed, observations, hname, Nat.add_comm]
    · have hne : ¬ name = label := fun h => hname h.symm
      simp [Task.owed, observations, hname, hne]
  · have hne : ¬ id = other := fun h => hid h.symm
    simp [Task.owed, observations, hid, hne]

theorem balance_trans {n₀ n₁ n₂ m₀ m₁ m₂ : Nat} (h1 : n₁ + m₀ = n₀ + m₁)
    (h2 : n₂ + m₁ = n₁ + m₂) : n₂ + m₀ = n₀ + m₂ := by omega

/-- **Classes count their objects**, also when a task fails. -/
theorem Runs.classCount_add {policy : Policy} {task : Task} {c c' : Context ρ}
    {outcome : Except Error task.Result} (h : Runs policy task c outcome c') (id : String) :
    c'.registry.classCount id + timesEntered c.encounters id
      = c.registry.classCount id + timesEntered c'.encounters id := by
  induction h with
  | stop | leaf | restNil | foldNil | rootNil => rfl
  | arrayFails _ _ _ _ ih | object _ _ _ _ ih | restFails _ ih | restDiffers _ _ ih
  | foldFails _ ih | absent _ _ _ ih | addFails _ _ _ ih | rootFails _ ih => exact ih
  | array _ _ _ _ _ ih1 ih2 | restAgrees _ _ ih1 ih2 | foldCons _ _ ih1 ih2
  | rootCons _ _ ih1 ih2 => exact balance_trans ih1 ih2
  | enter _ _ ih =>
    rw [Context.classCount_enter, Context.timesEntered_enter] at ih
    omega
  | counted => simp [Registry.classCount_modifyField]
  | retypeFails _ _ _ ih | retyped _ _ _ ih | addKnown _ _ _ _ ih =>
    simpa [Registry.classCount_modifyField] using ih
  | addNew _ _ _ _ ih => simpa [Registry.classCount_pushField] using ih

/-- Between the two contexts a field has counted what was observed and what was owed: never more,
and exactly that much where it has to be exact. -/
structure Balance (id name : String) (owed : Nat) (exact : Bool) (c c' : Context ρ) : Prop where
  le : c'.registry.fieldCount id name + timesObserved c.encounters id name
    ≤ c.registry.fieldCount id name + timesObserved c'.encounters id name + owed
  eq : exact = true → c'.registry.fieldCount id name + timesObserved c.encounters id name
    = c.registry.fieldCount id name + timesObserved c'.encounters id name + owed

namespace Balance

variable {id name : String}

theorem refl (id name : String) (exact : Bool) (c : Context ρ) : Balance id name 0 exact c c :=
  ⟨Nat.le_refl _, fun _ => rfl⟩

theorem trans {m n : Nat} {exact : Bool} {c c₁ c₂ : Context ρ} (h1 : Balance id name m true c c₁)
    (h2 : Balance id name n exact c₁ c₂) : Balance id name (m + n) exact c c₂ := by
  have heq := h1.eq rfl
  refine ⟨?_, fun hexact => ?_⟩
  · have hle := h2.le
    omega
  · have heq' := h2.eq hexact
    omega

/-- What fails may leave more uncounted. -/
theorem fails {m : Nat} {exact : Bool} {c c' : Context ρ} (h : Balance id name m exact c c')
    (n : Nat) : Balance id name (m + n) false c c' :=
  ⟨Nat.le_trans h.le (by omega), nofun⟩

theorem modifyField (id name : String) {c : Context ρ} {other label : String}
    {field : Model.Field ρ} (hfield : c.registry.field? other label = some field)
    {f : Model.Field ρ → Model.Field ρ}
    (keeps : ∀ field, (f field).name = field.name) {n : Nat}
    (hf : ∀ field, (f field).occurrences = field.occurrences + n) (exact : Bool) :
    Balance id name (if id = other ∧ name = label then n else 0) exact c
      (c.modifyField other label f) := by
  have hcount := c.registry.fieldCount_modifyField hfield keeps hf id name
  simp only [Context.modifyField]
  refine ⟨?_, fun _ => ?_⟩ <;> simp only [hcount] <;> omega

theorem recordOccurrence (id name : String) {c : Context ρ} {other label : String}
    {field : Model.Field ρ} (hfield : c.registry.field? other label = some field) :
    Balance id name (if id = other ∧ name = label then 1 else 0) true c
      (c.modifyField other label Model.Field.recordOccurrence) :=
  modifyField id name hfield (f := Model.Field.recordOccurrence) (fun _ => rfl) (n := 1)
    (fun _ => rfl) true

theorem pushField (id name : String) {c : Context ρ} {other : String} (field : Model.Field ρ)
    (hid : c.registry.contains other = true) (hnew : c.registry.field? other field.name = none)
    (exact : Bool) :
    Balance id name (if id = other ∧ name = field.name then field.occurrences else 0) exact c
      (c.pushField other field) := by
  have hcount := c.registry.fieldCount_pushField hid hnew id name
  simp only [Context.pushField]
  refine ⟨?_, fun _ => ?_⟩ <;> simp only [hcount] <;> omega

/-- The depth does not matter. -/
theorem outside {n : Nat} {exact : Bool} {c c' : Context ρ}
    (h : Balance id name n exact c.inside c') : Balance id name n exact c c'.outside :=
  ⟨h.le, h.eq⟩

/-- The members of an object are owed from the moment on at which it is noted. -/
theorem enter {c c' : Context ρ} {other : String} {object : Members} {exact : Bool}
    (h : Balance id name (observations id name other object) exact (c.enter other object) c') :
    Balance id name 0 exact c c' := by
  -- the object goes on the log at once, while no field has counted it yet
  have hcount := c.fieldCount_enter other object id name
  have hlog := c.timesObserved_enter other object id name
  refine ⟨?_, fun hexact => ?_⟩
  · have hle := h.le
    omega
  · have heq := h.eq hexact
    omega

end Balance

/-- **Fields count the members of their name**: never more of them than were handed in, and exactly
those when the task succeeds. -/
theorem Runs.balance {policy : Policy} {task : Task} {c c' : Context ρ}
    {outcome : Except Error task.Result} (h : Runs policy task c outcome c') (id name : String) :
    Balance id name (task.owed id name) outcome.isOk c c' := by
  induction h with
  | @stop task c e _ =>
    -- nothing was done, so all that was owed is left uncounted
    have hnothing := (Balance.refl id name true c).fails (task.owed id name)
    rwa [Nat.zero_add] at hnothing
  | leaf | restNil | rootNil => exact Balance.refl _ _ _ _
  | @foldNil other =>
    have hnone : observations id name other [] = 0 := by simp [observations]
    rw [Task.owed, hnone]
    exact Balance.refl _ _ _ _
  | arrayFails _ _ _ _ ih => exact ih.outside
  | @object _ _ _ _ _ outcome _ _ _ _ ih => cases outcome <;> exact ih.outside
  | array _ _ _ _ _ ih1 ih2 => exact (ih1.trans ih2).outside
  | restFails _ ih | restDiffers _ _ ih | rootFails _ ih => exact ih
  | restAgrees _ _ ih1 ih2 | rootCons _ _ ih1 ih2 => exact ih1.trans ih2
  | @enter _ _ _ _ outcome _ _ ih => cases outcome <;> exact ih.enter
  | foldFails _ ih =>
    rw [owed_folding_cons]
    exact ih.fails _
  | foldCons _ _ ih1 ih2 =>
    rw [owed_folding_cons]
    exact ih1.trans ih2
  | @counted _ creating _ _ _ _ hfield =>
    refine Balance.modifyField id name hfield ?_ (n := 1) ?_ true
    · exact fun field => (field.extends_counted creating).name
    · exact fun field => Model.Field.occurrences_requireIf creating field.recordOccurrence
  | retypeFails hfield _ _ ih =>
    have hcounted := Balance.recordOccurrence id name hfield
    exact hcounted.trans ih
  | @retyped _ creating _ _ _ type _ _ hfield _ htyping ih =>
    have hcounted := Balance.recordOccurrence id name hfield
    -- the field has counted the value before typing it, and what follows counts nothing
    obtain ⟨again, hagain⟩ := htyping.field?_of_counted hfield
    have hunified := Balance.modifyField id name hagain
      (f := fun field => (field.unify type).requireIf creating)
      (fun field => (field.extends_retyped type creating).name) (n := 0)
      (fun field => by simp) true
    have htotal := (hcounted.trans ih).trans hunified
    simp only [ite_self, Nat.add_zero] at htotal
    exact htotal
  | absent _ _ _ ih => exact ih
  | @addFails other label _ _ _ _ _ _ _ _ ih =>
    have hfailed := ih.fails (if id = other ∧ name = label then 1 else 0)
    rwa [Task.owed, Nat.zero_add] at hfailed
  | @addKnown _ _ _ required type _ _ _ _ _ _ hknown ih =>
    -- the objects inside have counted their own members, this one is still owed
    have hjoined := Balance.modifyField id name hknown
      (f := fun field => (field.recordOccurrence.requireIf required).unify type)
      (fun field => (field.extends_joined type required).name) (n := 1)
      (fun field => by simp [Model.Field.recordOccurrence]) true
    have htotal := ih.trans hjoined
    rwa [Task.owed, Nat.zero_add] at htotal
  | @addNew _ label value required type _ _ hid _ htyping hnew ih =>
    have hpushed := Balance.pushField id name
      (.new label type (multiplicityOf value) required) (htyping.extends.contains hid) hnew true
    have htotal := ih.trans hpushed
    rwa [Task.owed, Nat.zero_add] at htotal

end Discovery

end DocModel
