import DocModel.Discovery
import DocModel.Proofs.Registry.Growth

set_option autoImplicit false

/-! # Rules of discovery

`Runs policy task c outcome c'` says that a task of discovery, started in the context `c`, ends with
this outcome in the context `c'`. The rules are those of the recursive functions with everything
monadic gone: contexts are explicit, and a failure leaves the context where it got to. They have no
rule for a class or a field that is missing after its look-up; `Execution.lean` proves that the
functions never get there, and that they do exactly what the rules say. Everything about whole
traversals is proved by induction on these rules. -/

namespace DocModel

variable {ρ : Type}

/-! ## Changes of a context -/

theorem Model.Class.id_recordOccurrence (cls : Model.Class ρ) : cls.recordOccurrence.id = cls.id :=
  rfl

namespace Context

/-- The context one container deeper. -/
def inside (c : Context ρ) : Context ρ := { c with depth := c.depth + 1 }

/-- The context one container less deep. -/
def outside (c : Context ρ) : Context ρ := { c with depth := c.depth - 1 }

theorem depth_outside {c c' : Context ρ} (h : c'.depth = c.inside.depth) :
    c'.outside.depth = c.depth := by
  show c'.depth - 1 = c.depth
  rw [h]
  rfl

def modifyField (c : Context ρ) (id name : String) (f : Model.Field ρ → Model.Field ρ) :
    Context ρ :=
  { c with registry := c.registry.modifyField id name f }

@[simp]
theorem registry_modifyField (c : Context ρ) (id name : String)
    (f : Model.Field ρ → Model.Field ρ) :
    (c.modifyField id name f).registry = c.registry.modifyField id name f := rfl

@[simp]
theorem encounters_modifyField (c : Context ρ) (id name : String)
    (f : Model.Field ρ → Model.Field ρ) :
    (c.modifyField id name f).encounters = c.encounters := rfl

theorem field?_modifyField_self {c : Context ρ} {id name : String}
    {f : Model.Field ρ → Model.Field ρ} (keeps : ∀ field, (f field).name = field.name)
    {field : Model.Field ρ} (h : c.registry.field? id name = some field) :
    (c.modifyField id name f).registry.field? id name = some (f field) := by
  simp [modifyField, Registry.field?_modifyField _ _ _ _ keeps, h]

/-- Two updates of the same field are one. -/
theorem modifyField_modifyField (c : Context ρ) (id name : String)
    (f g : Model.Field ρ → Model.Field ρ) (keeps : ∀ field, (f field).name = field.name) :
    (c.modifyField id name f).modifyField id name g = c.modifyField id name (g ∘ f) := by
  simp only [modifyField, Registry.modifyField_modifyField _ _ _ _ _ keeps]

def pushField (c : Context ρ) (id : String) (field : Model.Field ρ) : Context ρ :=
  { c with registry := c.registry.pushField id field }

@[simp]
theorem registry_pushField (c : Context ρ) (id : String) (field : Model.Field ρ) :
    (c.pushField id field).registry = c.registry.pushField id field := rfl

@[simp]
theorem encounters_pushField (c : Context ρ) (id : String) (field : Model.Field ρ) :
    (c.pushField id field).encounters = c.encounters := rfl

theorem field?_pushField_self {c : Context ρ} {id : String} {field : Model.Field ρ}
    (hid : c.registry.contains id = true) (h : c.registry.field? id field.name = none) :
    (c.pushField id field).registry.field? id field.name = some field := by
  simp [pushField, Registry.field?_pushField _ _ _ hid, h]

/-- The context after an object was handed to a class and before its members are folded: the object
is noted, and the class is counted or created. -/
def enter (c : Context ρ) (id : String) (object : Members) : Context ρ where
  registry :=
    if c.registry.contains id then
      c.registry.modify id Model.Class.recordOccurrence Model.Class.id_recordOccurrence
    else c.registry.put (.new id)
  depth := c.depth
  encounters := ⟨id, object⟩ :: c.encounters

theorem extends_enter (c : Context ρ) (id : String) (object : Members) :
    c.registry.Extends (c.enter id object).registry := by
  unfold enter
  split
  · exact Registry.extends_modify _ _ Model.Class.id_recordOccurrence
      Model.Class.extends_recordOccurrence
  · rename_i hnew
    exact Registry.extends_put_new _ (by simpa using hnew)

theorem contains_enter (c : Context ρ) (id : String) (object : Members) :
    (c.enter id object).registry.contains id = true := by
  unfold enter
  split
  · rename_i hknown
    simpa [Registry.contains_modify] using hknown
  · simp [Registry.contains_put, Model.Class.new]

/-- The class is registered then, and no other class that was not. -/
theorem contains_enter_eq (c : Context ρ) (id : String) (object : Members) (other : String) :
    (c.enter id object).registry.contains other
      = (c.registry.contains other || decide (id = other)) := by
  by_cases heq : id = other
  · subst heq
    simp [c.contains_enter id object]
  · have hne : ¬ other = id := fun h => heq h.symm
    unfold enter
    split
    · simp [Registry.contains_modify, heq]
    · simp [Registry.contains_put, Model.Class.new, heq, hne]

/-- Entering a class leaves all fields as they are. -/
theorem field?_enter (c : Context ρ) (id : String) (object : Members) (other name : String) :
    (c.enter id object).registry.field? other name = c.registry.field? other name := by
  unfold enter
  split
  · exact Registry.field?_modify_of_fields _ _ _ Model.Class.id_recordOccurrence (fun _ => rfl) ..
  · rename_i hnew
    exact Registry.field?_put_new _ _ (by simpa using hnew) ..

end Context

/-- Mark a field if the object at hand has created its class. -/
def Model.Field.requireIf (required : Bool) (field : Model.Field ρ) : Model.Field ρ :=
  if required then field.markRequired else field

namespace Model.Field

theorem extends_requireIf (required : Bool) (field : Model.Field ρ) :
    field.Extends (field.requireIf required) := by
  cases required
  · exact Extends.refl field
  · exact field.extends_markRequired

/-! The three ways in which a member changes the field of its name. -/

theorem extends_counted (required : Bool) (field : Model.Field ρ) :
    field.Extends (field.recordOccurrence.requireIf required) :=
  field.extends_recordOccurrence.trans (extends_requireIf required _)

theorem extends_retyped (type : ValueType) (required : Bool) (field : Model.Field ρ) :
    field.Extends ((field.unify type).requireIf required) :=
  (field.extends_unify type).trans (extends_requireIf required _)

theorem extends_joined (type : ValueType) (required : Bool) (field : Model.Field ρ) :
    field.Extends ((field.recordOccurrence.requireIf required).unify type) :=
  (field.extends_counted required).trans (extends_unify _ type)

/-- The field has this type, or it will not have it any more: it is a reference or a string. -/
def Agrees (type : ValueType) (field : Model.Field ρ) : Prop :=
  field.isReference = true ∨ field.valueType = type ∨ field.valueType = .string

theorem Agrees.extends {type : ValueType} {before after : Model.Field ρ} (h : before.Agrees type)
    (hext : before.Extends after) : after.Agrees type := by
  rcases h with href | htype
  · exact Or.inl (hext.isReference.trans href)
  · rcases hext.valueType with hsame | ⟨-, hstring⟩
    · exact Or.inr (hsame ▸ htype)
    · exact Or.inr (Or.inr hstring)

theorem agrees_unify (type : ValueType) (field : Model.Field ρ) :
    (field.unify type).Agrees type := by
  unfold unify degradeToString
  split
  · rename_i heq
    exact Or.inr (Or.inl heq)
  · split
    · exact Or.inr (Or.inr rfl)
    · -- what cannot be widened is a reference or a string
      rename_i hwidenable
      by_cases hstring : field.valueType = .string
      · exact Or.inr (Or.inr hstring)
      · refine Or.inl ?_
        rw [← Bool.not_eq_false, isReference_eq_false_iff]
        simpa [isWidenable, isAttribute, hstring] using hwidenable

/-- A field that agrees is not changed by unifying it once more. -/
theorem Agrees.unify_eq {type : ValueType} {field : Model.Field ρ} (h : field.Agrees type) :
    field.unify type = field := by
  unfold unify degradeToString
  split
  · rfl
  · rename_i hne
    rcases h with href | hsame | hstring
    · have hkind : field.isAttribute = false := by
        unfold isReference at href
        unfold isAttribute
        cases hfield : field.kind <;> simp_all
      simp [isWidenable, hkind]
    · exact absurd hsame hne
    · simp [isWidenable, hstring]

@[simp]
theorem occurrences_requireIf (required : Bool) (field : Model.Field ρ) :
    (field.requireIf required).occurrences = field.occurrences := by
  cases required <;> rfl

@[simp]
theorem occurrences_unify (type : ValueType) (field : Model.Field ρ) :
    (field.unify type).occurrences = field.occurrences := by
  unfold unify degradeToString
  split
  · rfl
  · split <;> rfl

end Model.Field

/-- The type of a value that has nothing inside. -/
def Document.leafType? : Document → Option ValueType
  | .null | .string _ | .array [] => some .string
  | .bool _ => some (.scalar .boolean)
  | .number _ => some (.scalar .integer)
  | .array (_ :: _) | .object _ => none

/-- Containers may be nested this deep. -/
def Policy.Admits (policy : Policy) (depth : Nat) : Prop :=
  ∀ limit, policy.maxDepth = some limit → depth ≤ limit

/-- A depth that is admitted is the limit, if the next one is not admitted. -/
theorem Policy.Admits.eq_of_lt {policy : Policy} {depth limit : Nat} (h : policy.Admits depth)
    (hmax : policy.maxDepth = some limit) (hlt : limit < depth + 1) : depth = limit :=
  Nat.le_antisymm (h limit hmax) (Nat.lt_succ_iff.1 hlt)

/-! ## Tasks -/

namespace Discovery

/-- What discovery is doing at some point. -/
inductive Task where
  /-- Type a value under a name. -/
  | typing (name : String) (value : Document)
  /-- Type the items after the first one, which has this type. -/
  | typingRest (name : String) (general : ValueType) (items : List Document)
  /-- Hand an object to the class of an id. -/
  | entering (id : String) (object : Members)
  /-- Fold members into a class that was entered. -/
  | folding (id : String) (creating : Bool) (members : Members)
  /-- Fold one member. -/
  | member (id : String) (creating : Bool) (name : String) (value : Document)
  /-- Add a field that the class did not have when the value was met. -/
  | adding (id name : String) (value : Document) (required : Bool)
  /-- Hand objects to one class, in order. -/
  | roots (id : String) (objects : List Members)

/-- What a task results in. -/
@[reducible]
def Task.Result : Task → Type
  | .typing .. | .typingRest .. => ValueType
  | .entering .. => String
  | .folding .. | .member .. | .adding .. | .roots .. => Unit

/-- The function that does a task. -/
@[reducible]
def Task.step (policy : Policy) : (task : Task) → Discovery ρ task.Result
  | .typing name value => typeOf policy name value
  | .typingRest name general items => typeOfRest policy name general items
  | .entering id object => discoverClass policy id object
  | .folding id creating members => foldMembers policy id creating members
  | .member id creating name value => foldMember id creating name value (typeOf policy name value)
  | .adding id name value required => createField policy id name value required
  | .roots id objects => discoverRoots policy id objects

/-- A task that ends with an error before anything is done. -/
inductive Stops (policy : Policy) (depth : Nat) : Task → Error → Prop
  | unnamed {value} : Stops policy depth (.typing "" value) .emptyFieldName
  | arrayTooDeep {name first rest limit} :
      name ≠ "" → policy.maxDepth = some limit → limit < depth + 1 →
      Stops policy depth (.typing name (.array (first :: rest))) (.tooDeep (depth + 1) limit)
  | arrayUndigested {name first rest e} :
      name ≠ "" → policy.Admits (depth + 1) → policy.digester name = .error e →
      Stops policy depth (.typing name (.array (first :: rest))) e
  | objectUndigested {name object e} :
      name ≠ "" → policy.digester name = .error e →
      Stops policy depth (.typing name (.object object)) e
  | objectTooDeep {name object id limit} :
      name ≠ "" → policy.digester name = .ok id →
      policy.maxDepth = some limit → limit < depth + 1 →
      Stops policy depth (.typing name (.object object)) (.tooDeep (depth + 1) limit)
  | emptyId {object} : Stops policy depth (.entering "" object) .emptyId

/-! ## Rules -/

/-- The task ends with this outcome and takes the first context to the second. -/
inductive Runs (policy : Policy) :
    (task : Task) → Context ρ → Except Error task.Result → Context ρ → Prop
  | stop {task c e} : Stops policy c.depth task e → Runs policy task c (.error e) c
  | leaf {name value type c} :
      name ≠ "" → value.leafType? = some type →
      Runs policy (.typing name value) c (.ok type) c
  | arrayFails {name element first rest c c₁ e} :
      name ≠ "" → policy.Admits (c.depth + 1) → policy.digester name = .ok element →
      Runs policy (.typing element first) c.inside (.error e) c₁ →
      Runs policy (.typing name (.array (first :: rest))) c (.error e) c₁.outside
  | array {name element first rest general c c₁ c₂ outcome} :
      name ≠ "" → policy.Admits (c.depth + 1) → policy.digester name = .ok element →
      Runs policy (.typing element first) c.inside (.ok general) c₁ →
      Runs policy (.typingRest element general rest) c₁ outcome c₂ →
      Runs policy (.typing name (.array (first :: rest))) c outcome c₂.outside
  | object {name id object c c₁ outcome} :
      name ≠ "" → policy.digester name = .ok id → policy.Admits (c.depth + 1) →
      Runs policy (.entering id object) c.inside outcome c₁ →
      Runs policy (.typing name (.object object)) c (outcome.map .instanceOf) c₁.outside
  | restNil {name general c} : Runs policy (.typingRest name general []) c (.ok general) c
  | restFails {name general item rest c c₁ e} :
      Runs policy (.typing name item) c (.error e) c₁ →
      Runs policy (.typingRest name general (item :: rest)) c (.error e) c₁
  | restDiffers {name general item rest other c c₁} :
      Runs policy (.typing name item) c (.ok other) c₁ → other ≠ general →
      Runs policy (.typingRest name general (item :: rest)) c (.ok .string) c₁
  | restAgrees {name general item rest c c₁ c₂ outcome} :
      Runs policy (.typing name item) c (.ok general) c₁ →
      Runs policy (.typingRest name general rest) c₁ outcome c₂ →
      Runs policy (.typingRest name general (item :: rest)) c outcome c₂
  | enter {id object c c₁ outcome} :
      id ≠ "" →
      Runs policy (.folding id (!c.registry.contains id) object) (c.enter id object) outcome c₁ →
      Runs policy (.entering id object) c (outcome.map fun _ => id) c₁
  | foldNil {id creating c} : Runs policy (.folding id creating []) c (.ok ()) c
  | foldFails {id creating name value rest c c₁ e} :
      Runs policy (.member id creating name value) c (.error e) c₁ →
      Runs policy (.folding id creating ((name, value) :: rest)) c (.error e) c₁
  | foldCons {id creating name value rest c c₁ c₂ outcome} :
      Runs policy (.member id creating name value) c (.ok ()) c₁ →
      Runs policy (.folding id creating rest) c₁ outcome c₂ →
      Runs policy (.folding id creating ((name, value) :: rest)) c outcome c₂
  | counted {id creating name value field c} :
      c.registry.field? id name = some field → field.isReference = true →
      Runs policy (.member id creating name value) c (.ok ())
        (c.modifyField id name fun field => field.recordOccurrence.requireIf creating)
  | retypeFails {id creating name value field c c₁ e} :
      c.registry.field? id name = some field → field.isReference = false →
      Runs policy (.typing name value)
        (c.modifyField id name Model.Field.recordOccurrence) (.error e) c₁ →
      Runs policy (.member id creating name value) c (.error e) c₁
  | retyped {id creating name value field type c c₁} :
      c.registry.field? id name = some field → field.isReference = false →
      Runs policy (.typing name value)
        (c.modifyField id name Model.Field.recordOccurrence) (.ok type) c₁ →
      Runs policy (.member id creating name value) c (.ok ())
        (c₁.modifyField id name fun field => (field.unify type).requireIf creating)
  | absent {id creating name value c c₁ outcome} :
      c.registry.contains id = true → c.registry.field? id name = none →
      Runs policy (.adding id name value creating) c outcome c₁ →
      Runs policy (.member id creating name value) c outcome c₁
  | addFails {id name value required c c₁ e} :
      c.registry.contains id = true → c.registry.field? id name = none →
      Runs policy (.typing name value) c (.error e) c₁ →
      Runs policy (.adding id name value required) c (.error e) c₁
  | addKnown {id name value required type field c c₁} :
      c.registry.contains id = true → c.registry.field? id name = none →
      Runs policy (.typing name value) c (.ok type) c₁ →
      c₁.registry.field? id name = some field →
      Runs policy (.adding id name value required) c (.ok ())
        (c₁.modifyField id name fun field =>
          (field.recordOccurrence.requireIf required).unify type)
  | addNew {id name value required type c c₁} :
      c.registry.contains id = true → c.registry.field? id name = none →
      Runs policy (.typing name value) c (.ok type) c₁ →
      c₁.registry.field? id name = none →
      Runs policy (.adding id name value required) c (.ok ())
        (c₁.pushField id (.new name type (multiplicityOf value) required))
  | rootNil {id c} : Runs policy (.roots id []) c (.ok ()) c
  | rootFails {id object rest c c₁ e} :
      Runs policy (.entering id object) c (.error e) c₁ →
      Runs policy (.roots id (object :: rest)) c (.error e) c₁
  | rootCons {id object rest entered c c₁ c₂ outcome} :
      Runs policy (.entering id object) c (.ok entered) c₁ →
      Runs policy (.roots id rest) c₁ outcome c₂ →
      Runs policy (.roots id (object :: rest)) c outcome c₂

/-! ## What every task keeps -/

/-- Nothing is lost on the way, also not when the task fails. -/
theorem Runs.extends {policy : Policy} {task : Task} {c c' : Context ρ}
    {outcome : Except Error task.Result} (h : Runs policy task c outcome c') :
    c.registry.Extends c'.registry := by
  induction h with
  | stop | leaf | restNil | foldNil | rootNil => exact .refl _
  | arrayFails _ _ _ _ ih | object _ _ _ _ ih | restFails _ ih | restDiffers _ _ ih
  | foldFails _ ih | absent _ _ _ ih | addFails _ _ _ ih | rootFails _ ih => exact ih
  | array _ _ _ _ _ ih1 ih2 | restAgrees _ _ ih1 ih2 | foldCons _ _ ih1 ih2
  | rootCons _ _ ih1 ih2 => exact ih1.trans ih2
  | enter _ _ ih => exact (Context.extends_enter _ _ _).trans ih
  | counted => exact Registry.extends_modifyField _ _ _ (Model.Field.extends_counted _)
  | retypeFails _ _ _ ih =>
    exact (Registry.extends_modifyField _ _ _ Model.Field.extends_recordOccurrence).trans ih
  | @retyped id _ name _ _ _ c _ _ _ _ ih =>
    have hcounted :=
      Registry.extends_modifyField c.registry id name Model.Field.extends_recordOccurrence
    exact (hcounted.trans ih).trans
      (Registry.extends_modifyField _ _ _ (Model.Field.extends_retyped _ _))
  | addKnown _ _ _ _ ih =>
    exact ih.trans (Registry.extends_modifyField _ _ _ (Model.Field.extends_joined _ _))
  | addNew _ _ _ _ ih => exact ih.trans (Registry.extends_pushField _ _ _)

/-- An attribute that was counted is still there when its value has been typed. -/
theorem Runs.field?_of_counted {policy : Policy} {task : Task} {c c' : Context ρ}
    {outcome : Except Error task.Result} {id name : String} {field : Model.Field ρ}
    (h : Runs policy task (c.modifyField id name Model.Field.recordOccurrence) outcome c')
    (hfield : c.registry.field? id name = some field) :
    ∃ again, c'.registry.field? id name = some again := by
  have hcounted := Context.field?_modifyField_self (f := .recordOccurrence) (fun _ => rfl) hfield
  obtain ⟨again, hagain, -⟩ := h.extends.field? hcounted
  exact ⟨again, hagain⟩

/-- The depth is the same again afterwards, also when the task fails. -/
theorem Runs.depth_eq {policy : Policy} {task : Task} {c c' : Context ρ}
    {outcome : Except Error task.Result} (h : Runs policy task c outcome c') :
    c'.depth = c.depth := by
  induction h with
  | stop | leaf | restNil | foldNil | counted | rootNil => rfl
  | arrayFails _ _ _ _ ih | object _ _ _ _ ih =>
    exact Context.depth_outside ih
  | array _ _ _ _ _ ih1 ih2 =>
    exact Context.depth_outside (ih2.trans ih1)
  | restAgrees _ _ ih1 ih2 | foldCons _ _ ih1 ih2 | rootCons _ _ ih1 ih2 => exact ih2.trans ih1
  | restFails _ ih | restDiffers _ _ ih | enter _ _ ih | foldFails _ ih | retypeFails _ _ _ ih
  | retyped _ _ _ ih | absent _ _ _ ih | addFails _ _ _ ih | addKnown _ _ _ _ ih
  | addNew _ _ _ _ ih | rootFails _ ih => exact ih

/-- Encounters are kept, and those that are met come before them, latest first. -/
theorem Runs.encounters_isSuffix {policy : Policy} {task : Task} {c c' : Context ρ}
    {outcome : Except Error task.Result} (h : Runs policy task c outcome c') :
    c.encounters <:+ c'.encounters := by
  induction h with
  | stop | leaf | restNil | foldNil | counted | rootNil => exact List.suffix_rfl
  | arrayFails _ _ _ _ ih | object _ _ _ _ ih | restFails _ ih | restDiffers _ _ ih
  | foldFails _ ih | retypeFails _ _ _ ih | retyped _ _ _ ih | absent _ _ _ ih | addFails _ _ _ ih
  | addKnown _ _ _ _ ih | addNew _ _ _ _ ih | rootFails _ ih => exact ih
  | array _ _ _ _ _ ih1 ih2 | restAgrees _ _ ih1 ih2 | foldCons _ _ ih1 ih2
  | rootCons _ _ ih1 ih2 => exact ih1.trans ih2
  | enter _ _ ih => exact (List.suffix_cons _ _).trans ih

end Discovery

end DocModel
