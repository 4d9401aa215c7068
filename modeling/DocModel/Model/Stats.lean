import DocModel.Model.Basic

set_option autoImplicit false

/-! # Statistics of a model -/

namespace DocModel

/-- What a model has how many of. -/
structure Stats where
  /-- Instances of the root class. -/
  rootInstances : Nat
  classes : Nat
  /-- Fields of all classes. -/
  fields : Nat
  attributes : Nat
  references : Nat
  /-- Fields first observed as arrays. -/
  manyValuedFields : Nat
  /-- Fields that the first instance of their class did not have. -/
  optionalFields : Nat
deriving DecidableEq, Inhabited

namespace Model

variable {ρ : Type}

/-- The fields of all classes, class by class. -/
def allFields (model : Model ρ) : List (Field ρ) := model.classes.flatMap (·.fields)

def stats (model : Model ρ) : Stats where
  rootInstances := (model.rootClass?.map (·.occurrences)).getD 0
  classes := model.classes.length
  fields := model.allFields.length
  attributes := model.allFields.countP fun field => !field.isReference
  references := model.allFields.countP Field.isReference
  manyValuedFields := model.allFields.countP (·.multiplicity.isMany)
  optionalFields := model.allFields.countP fun field => !field.required

end Model

end DocModel
