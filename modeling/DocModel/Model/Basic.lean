import DocModel.Ratio

set_option autoImplicit false

/-! # Models

A model is a list of classes. A class has an id, the number of instances it was seen on, and
fields; a field has a type, a multiplicity, the number of instances it was present in and, once
discovery has finished, its coverage. Coverage is kept in any type of ratios. -/

namespace DocModel

/-! ## Types of fields -/

/-- What a scalar field holds. Numbers are not told apart. -/
inductive Scalar where
  | string
  | integer
  | boolean
deriving DecidableEq, Inhabited

def Scalar.typeName : Scalar → String
  | .string => "String"
  | .integer => "Integer"
  | .boolean => "Boolean"

/-- The kind of a field: it holds scalars, or it contains instances of another class. -/
inductive FieldKind where
  | attribute
  | reference
deriving DecidableEq, Inhabited

/-- The type of a field: a scalar, or the class with an id. -/
inductive ValueType where
  | scalar (s : Scalar)
  | instanceOf (id : String)
deriving DecidableEq, Inhabited

namespace ValueType

/-- The type everything can be widened to. -/
abbrev string : ValueType := .scalar .string

def isScalar : ValueType → Bool
  | .scalar _ => true
  | .instanceOf _ => false

def classId? : ValueType → Option String
  | .scalar _ => none
  | .instanceOf id => some id

def typeName : ValueType → String
  | .scalar s => s.typeName
  | .instanceOf id => id

/-- Scalars make attributes, classes make references. -/
def kind : ValueType → FieldKind
  | .scalar _ => .attribute
  | .instanceOf _ => .reference

end ValueType

/-- The upper bound of a field. -/
inductive Multiplicity where
  | one
  | many
deriving DecidableEq, Inhabited

def Multiplicity.isMany : Multiplicity → Bool
  | .one => false
  | .many => true

/-! ## Fields -/

/-- A field of a class. The kind is stored beside the type; the two agree in every field that
`Field.new` makes. -/
structure Model.Field (ρ : Type) where
  name : String
  kind : FieldKind
  valueType : ValueType
  multiplicity : Multiplicity
  required : Bool
  occurrences : Nat
  coverage : Option ρ
deriving BEq, Inhabited

namespace Model.Field

variable {ρ : Type}

/-- A field observed once. -/
def new (name : String) (valueType : ValueType) (multiplicity : Multiplicity) (required : Bool) :
    Model.Field ρ :=
  ⟨name, valueType.kind, valueType, multiplicity, required, 1, none⟩

def isAttribute (field : Model.Field ρ) : Bool := field.kind == .attribute

def isReference (field : Model.Field ρ) : Bool := field.kind == .reference

/-- References own their targets. -/
def containment (field : Model.Field ρ) : Bool := field.isReference

/-- The field can still be widened: it is an attribute of another type than string. -/
def isWidenable (field : Model.Field ρ) : Bool :=
  field.isAttribute && field.valueType != .string

/-- The field after a conflict of types: attributes become strings, references stay. -/
def degradeToString (field : Model.Field ρ) : Model.Field ρ :=
  if field.isWidenable then { field with valueType := .string } else field

/-- The field after an observation of type `observed`. -/
def unify (observed : ValueType) (field : Model.Field ρ) : Model.Field ρ :=
  if field.valueType = observed then field else field.degradeToString

def recordOccurrence (field : Model.Field ρ) : Model.Field ρ :=
  { field with occurrences := field.occurrences + 1 }

def markRequired (field : Model.Field ρ) : Model.Field ρ := { field with required := true }

def withCoverage (ratio : Option ρ) (field : Model.Field ρ) : Model.Field ρ :=
  { field with coverage := ratio }

end Model.Field

/-! ## Classes -/

/-- A class with its fields in the order in which they were first observed. -/
structure Model.Class (ρ : Type) where
  id : String
  fields : List (Model.Field ρ)
  occurrences : Nat
deriving BEq, Inhabited

/-- Apply `f` to the first field with this name. -/
def Model.modifyField {ρ : Type} (name : String) (f : Model.Field ρ → Model.Field ρ) :
    List (Model.Field ρ) → List (Model.Field ρ)
  | [] => []
  | field :: rest =>
    if field.name = name then f field :: rest else field :: modifyField name f rest

namespace Model.Class

variable {ρ : Type}

/-- A class seen on one instance, without fields so far. -/
def new (id : String) : Model.Class ρ := ⟨id, [], 1⟩

def field? (cls : Model.Class ρ) (name : String) : Option (Model.Field ρ) :=
  cls.fields.find? fun field => field.name = name

def hasField (cls : Model.Class ρ) (name : String) : Bool := (cls.field? name).isSome

def references (cls : Model.Class ρ) : List (Model.Field ρ) :=
  cls.fields.filter Model.Field.isReference

def recordOccurrence (cls : Model.Class ρ) : Model.Class ρ :=
  { cls with occurrences := cls.occurrences + 1 }

def pushField (field : Model.Field ρ) (cls : Model.Class ρ) : Model.Class ρ :=
  { cls with fields := cls.fields ++ [field] }

/-- Apply `f` to the first field with this name. -/
def modifyField (name : String) (f : Model.Field ρ → Model.Field ρ) (cls : Model.Class ρ) :
    Model.Class ρ :=
  { cls with fields := Model.modifyField name f cls.fields }

/-- Apply `f` to every field. -/
def mapFields (f : Model.Field ρ → Model.Field ρ) (cls : Model.Class ρ) : Model.Class ρ :=
  { cls with fields := cls.fields.map f }

/-! ### Coverage

The coverage of a field is its share of the instances of its class. It says what `required` does
not: `required` looks at the first instance only. -/

/-- Attach to every field its share of the instances of the class. -/
def computeCoverage [Ratio ρ] (cls : Model.Class ρ) : Model.Class ρ :=
  cls.mapFields fun field => field.withCoverage (some (Ratio.share field.occurrences cls.occurrences))

/-- Remove the coverage of every field. -/
def clearCoverage (cls : Model.Class ρ) : Model.Class ρ :=
  cls.mapFields (Model.Field.withCoverage none)

end Model.Class

/-! ## Models -/

/-- The classes discovered from one source, in the order of their creation. -/
structure Model (ρ : Type) where
  name : String
  nsUri : String
  nsPrefix : String
  /-- The id of the class of the root objects. -/
  root : String
  classes : List (Model.Class ρ)
deriving BEq, Inhabited

namespace Model

variable {ρ : Type}

def class? (model : Model ρ) (id : String) : Option (Model.Class ρ) :=
  model.classes.find? fun cls => cls.id = id

def rootClass? (model : Model ρ) : Option (Model.Class ρ) := model.class? model.root

def classIds (model : Model ρ) : List String := model.classes.map (·.id)

end Model

end DocModel
