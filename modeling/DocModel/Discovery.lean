import DocModel.Digest
import DocModel.Registry

set_option autoImplicit false

/-! # Discovery

Objects are folded into classes. The first object of an id creates the class and every later one
refines it: fields that the first object has are required, later ones are optional, and nothing is
ever removed. Typing a member that holds an object folds that object into the class named after the
member, so typing and folding are one traversal, and a class may be entered again while one of its
own members is typed.

A step of discovery keeps what it did when it fails: the context holds the registry as far as it
got. It also keeps the encounters, the objects handed to a class so far, latest first; they say of
every count, flag and type of the registry where it comes from. -/

namespace DocModel

/-! ## Contexts and steps -/

/-- An object handed to the class of this id. -/
structure Encounter where
  id : String
  object : Members

/-- The state of a discovery. -/
structure Context (ρ : Type) where
  registry : Registry ρ
  /-- How many containers the value at hand is nested in. -/
  depth : Nat
  /-- Latest first. -/
  encounters : List Encounter

/-- A context that has not done anything yet. -/
def Context.of {ρ : Type} (registry : Registry ρ) : Context ρ := ⟨registry, 0, []⟩

/-- A step takes a context to an outcome and a context, also when it fails. -/
def Discovery (ρ α : Type) : Type := Context ρ → Except Error α × Context ρ

namespace Discovery

variable {ρ α β : Type}

def run (step : Discovery ρ α) (context : Context ρ) : Except Error α × Context ρ := step context

protected def pure (value : α) : Discovery ρ α := fun context => (.ok value, context)

/-- Do one step and then another; a failure ends both. -/
protected def bind (step : Discovery ρ α) (next : α → Discovery ρ β) : Discovery ρ β :=
  fun context =>
    match step context with
    | (.ok value, context) => next value context
    | (.error e, context) => (.error e, context)

instance : Monad (Discovery ρ) where
  pure := Discovery.pure
  bind := Discovery.bind

@[simp]
theorem run_pure (value : α) (context : Context ρ) :
    (pure value : Discovery ρ α).run context = (.ok value, context) := rfl

theorem run_bind (step : Discovery ρ α) (next : α → Discovery ρ β) (context : Context ρ) :
    (step >>= next).run context =
      match step.run context with
      | (.ok value, context) => (next value).run context
      | (.error e, context) => (.error e, context) := rfl

/-- Stop with an error. -/
def fail (e : Error) : Discovery ρ α := fun context => (.error e, context)

/-- An outcome that does not depend on the context. -/
def ofExcept (outcome : Except Error α) : Discovery ρ α := fun context => (outcome, context)

def registry : Discovery ρ (Registry ρ) := fun context => (.ok context.registry, context)

/-- Update the registry. -/
def update (f : Registry ρ → Registry ρ) : Discovery ρ Unit :=
  fun context => (.ok (), { context with registry := f context.registry })

/-- Update the class of this id by a function that keeps ids. -/
def updateClass (id : String) (f : Model.Class ρ → Model.Class ρ)
    (keeps : ∀ cls, (f cls).id = cls.id := by intro _; rfl) : Discovery ρ Unit :=
  update fun registry => registry.modify id f keeps

/-- Update the field of this name of the class of this id. -/
def updateField (id name : String) (f : Model.Field ρ → Model.Field ρ) : Discovery ρ Unit :=
  updateClass id (Model.Class.modifyField name f)

/-- Note that an object was handed to a class. -/
def note (id : String) (object : Members) : Discovery ρ Unit :=
  fun context => (.ok (), { context with encounters := ⟨id, object⟩ :: context.encounters })

/-- The class of this id, which must be registered. -/
def classOf (id : String) : Discovery ρ (Model.Class ρ) := fun context =>
  match context.registry.get? id with
  | some cls => (.ok cls, context)
  | none => (.error (.classNotRegistered id), context)

/-- The field of this name of the class of this id, which must be there. -/
def fieldOf (id name : String) : Discovery ρ (Model.Field ρ) := do
  let cls ← classOf id
  match cls.field? name with
  | some field => pure field
  | none => fail (.noSuchField id name)

/-- Do a step one container deeper. The depth is the same again afterwards, whatever the
outcome. -/
def nested (max : Option Nat) (step : Discovery ρ α) : Discovery ρ α := fun context =>
  match max with
  | some limit =>
    if context.depth + 1 > limit then (.error (.tooDeep (context.depth + 1) limit), context)
    else
      let (outcome, after) := step { context with depth := context.depth + 1 }
      (outcome, { after with depth := after.depth - 1 })
  | none =>
    let (outcome, after) := step { context with depth := context.depth + 1 }
    (outcome, { after with depth := after.depth - 1 })

end Discovery

/-! ## Typing and folding -/

/-- How classes are named and how deep containers may be nested. -/
structure Policy where
  digester : Digester
  maxDepth : Option Nat

namespace Discovery

variable {ρ : Type}

/-- The multiplicity of a field first observed with this value. -/
def multiplicityOf (value : Document) : Multiplicity :=
  if value.isArray then .many else .one

/-- Count one more observation of an existing field. An attribute is typed again and widened on a
conflict; a reference is only counted, whatever the value. -/
def refineField (id name : String) (typing : Discovery ρ ValueType) : Discovery ρ Unit := do
  let field ← fieldOf id name
  updateField id name Model.Field.recordOccurrence
  if field.isReference then pure ()
  else
    let observed ← typing
    discard (fieldOf id name)
    updateField id name (Model.Field.unify observed)

/-- Add a field for a value of this multiplicity and type. Typing the value may enter the class
again and add a field of the same name, which is then refined by this observation. -/
def createFieldTyped (id name : String) (multiplicity : Multiplicity) (required : Bool)
    (typing : Discovery ρ ValueType) : Discovery ρ Unit := do
  let cls ← classOf id
  if cls.hasField name then fail (.fieldExists name id)
  else
    let observed ← typing
    let cls ← classOf id
    if cls.hasField name then
      updateField id name fun field =>
        let counted := field.recordOccurrence
        (if required then counted.markRequired else counted).unify observed
    else
      updateClass id (Model.Class.pushField (.new name observed multiplicity required))

/-- Fold one member of an object into the class. On the object that creates the class fields are
required, also those that an earlier member has added by entering the class again. -/
def foldMember (id : String) (creating : Bool) (name : String) (value : Document)
    (typing : Discovery ρ ValueType) : Discovery ρ Unit := do
  let cls ← classOf id
  if cls.hasField name then
    refineField id name typing
    if creating then
      discard (fieldOf id name)
      updateField id name Model.Field.markRequired
    else pure ()
  else createFieldTyped id name (multiplicityOf value) creating typing

/-- Hand an object to the class of an id, which is created if it is not registered. `folding` folds
the members; it is told whether the class was created. -/
def enterClass (id : String) (object : Members) (folding : Bool → Discovery ρ Unit) :
    Discovery ρ String := do
  if id.isEmpty then fail .emptyId
  else
    note id object
    let registry ← registry
    if registry.contains id then
      updateClass id Model.Class.recordOccurrence
      folding false
    else
      update (·.put (.new id))
      folding true
    pure id

mutual

/-- The type of a value observed under a name. Scalars have their own types, objects are folded
into the class named after the field, and arrays have the type of their items under the digested
name, or string where the items differ. Null and the empty array are strings. -/
def typeOf (policy : Policy) (name : String) : Document → Discovery ρ ValueType
  | .null => if name.isEmpty then fail .emptyFieldName else pure .string
  | .bool _ => if name.isEmpty then fail .emptyFieldName else pure (.scalar .boolean)
  | .number _ => if name.isEmpty then fail .emptyFieldName else pure (.scalar .integer)
  | .string _ => if name.isEmpty then fail .emptyFieldName else pure .string
  | .array [] => if name.isEmpty then fail .emptyFieldName else pure .string
  | .array (first :: rest) =>
    if name.isEmpty then fail .emptyFieldName
    else nested policy.maxDepth do
      let element ← ofExcept (policy.digester name)
      let general ← typeOf policy element first
      typeOfRest policy element general rest
  | .object object =>
    if name.isEmpty then fail .emptyFieldName
    else do
      let id ← ofExcept (policy.digester name)
      let id ← nested policy.maxDepth
        (enterClass id object fun creating => foldMembers policy id creating object)
      pure (.instanceOf id)

/-- The type of the items after the first one, which has type `general`. The first item of another
type ends the typing. -/
def typeOfRest (policy : Policy) (name : String) (general : ValueType) :
    List Document → Discovery ρ ValueType
  | [] => pure general
  | item :: rest => do
    let observed ← typeOf policy name item
    if observed = general then typeOfRest policy name general rest else pure .string

/-- Fold the members of an object into the class, in order. -/
def foldMembers (policy : Policy) (id : String) (creating : Bool) :
    List (String × Document) → Discovery ρ Unit
  | [] => pure ()
  | (name, value) :: rest => do
    foldMember id creating name value (typeOf policy name value)
    foldMembers policy id creating rest

end

/-- Create or refine the class of an id from one object. -/
def discoverClass (policy : Policy) (id : String) (object : Members) : Discovery ρ String :=
  enterClass id object fun creating => foldMembers policy id creating object

/-- Type a value and add it to a class as a new field. -/
def createField (policy : Policy) (id name : String) (value : Document) (required : Bool) :
    Discovery ρ Unit :=
  createFieldTyped id name (multiplicityOf value) required (typeOf policy name value)

/-- Fold objects into one class, in order. -/
def discoverRoots (policy : Policy) (id : String) : List Members → Discovery ρ Unit
  | [] => pure ()
  | root :: rest => do
    discard (discoverClass policy id root)
    discoverRoots policy id rest

end Discovery

end DocModel
