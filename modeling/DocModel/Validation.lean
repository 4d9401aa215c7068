import DocModel.Containment
import DocModel.Model.Basic

set_option autoImplicit false

/-! # Validation of models

What should hold of every finished model: references lead to classes of the model, no field was
observed more often than its class, and coverage is what the counts say. Classes that cannot be
reached from the root class and classes that contain themselves are reported as well; they are no
errors. Both are read off a graph with a node for every class. Where ids are repeated, the last
class of an id stands for it, and no reference leads to or from the nodes of the others. -/

namespace DocModel

/-- A reference to a class that the model does not have. -/
structure DanglingReference where
  classId : String
  field : String
  target : String
deriving DecidableEq, Inhabited

/-- A field that was observed more often than its class. -/
structure CountViolation where
  classId : String
  field : String
  fieldCount : Nat
  classCount : Nat
deriving DecidableEq, Inhabited

/-- A coverage that is missing, out of range or not what the counts say. -/
structure CoverageViolation (ρ : Type) where
  classId : String
  field : String
  ratio : Option ρ
  expected : ρ

/-- The result of a validation. -/
structure Findings (ρ : Type) where
  /-- Classes that references do not lead to. -/
  unreachable : List String
  dangling : List DanglingReference
  counts : List CountViolation
  coverage : List (CoverageViolation ρ)
  /-- Classes that contain themselves, directly or through others. -/
  recursive : List String

/-- Unreachable and recursive classes are allowed, everything else is not. -/
def Findings.isValid {ρ : Type} (findings : Findings ρ) : Bool :=
  findings.dangling.isEmpty && findings.counts.isEmpty && findings.coverage.isEmpty

namespace Model

variable {ρ : Type}

def hasClass (model : Model ρ) (id : String) : Bool := model.classIds.contains id

/-- The class that a field refers to, if the field is a reference. -/
def Field.target? (field : Field ρ) : Option String :=
  if field.isReference then field.valueType.classId? else none

/-- From every class to the classes of the model that its references lead to, by their ids. -/
def containment (model : Model ρ) : Graph String :=
  model.classes.flatMap fun cls =>
    (cls.fields.filterMap Field.target?).filterMap fun target =>
      if model.hasClass target then some (cls.id, target) else none

def danglingReferences (model : Model ρ) : List DanglingReference :=
  model.classes.flatMap fun cls =>
    cls.fields.filterMap fun field =>
      field.target?.bind fun target =>
        if model.hasClass target then none else some ⟨cls.id, field.name, target⟩

def countViolations (model : Model ρ) : List CountViolation :=
  model.classes.flatMap fun cls =>
    cls.fields.filterMap fun field =>
      if field.occurrences > cls.occurrences then
        some ⟨cls.id, field.name, field.occurrences, cls.occurrences⟩
      else none

/-- The coverage is there and agrees with the counts. -/
def Field.isCovered [Ratio ρ] (field : Field ρ) (classCount : Nat) : Bool :=
  match field.coverage with
  | some ratio => Ratio.agrees ratio (Ratio.share field.occurrences classCount)
  | none => false

def coverageViolations [Ratio ρ] (model : Model ρ) : List (CoverageViolation ρ) :=
  model.classes.flatMap fun cls =>
    cls.fields.filterMap fun field =>
      if field.isCovered cls.occurrences then none
      else
        some ⟨cls.id, field.name, field.coverage, Ratio.share field.occurrences cls.occurrences⟩

/-! ## The graph of a model -/

/-- A node is a class: its id and its position in the model. -/
abbrev Node := String × Nat

def nodes (model : Model ρ) : List Node := model.classIds.zipIdx

/-- The node that stands for an id, which is that of the last class of this id. -/
def node? (model : Model ρ) (id : String) : Option Node :=
  model.nodes.reverse.find? fun node => node.1 = id

/-- An edge for every reference to a class of the model. -/
def graph (model : Model ρ) : Graph Node :=
  model.classes.flatMap fun cls =>
    (cls.fields.filterMap Field.target?).filterMap fun target => do
      some (← model.node? cls.id, ← model.node? target)

/-- The ids of the nodes that a search has not visited, in the order of the classes. -/
def unvisited (model : Model ρ) (visited : List Node) : List String :=
  (model.nodes.filter fun node => !visited.contains node).map (·.1)

/-- The classes that references do not lead to from the root class; all of them if there is no root
class. -/
def unreachableClasses (model : Model ρ) : List String :=
  match model.node? model.root with
  | some root => model.unvisited (model.graph.closure [root])
  | none => model.classIds

/-- The ids of the components that are on a cycle, in the order of code points. -/
def cyclicIds (model : Model ρ) (components : List (List Node)) : List String :=
  ((components.filter model.graph.isCyclic).flatMap (·.map (·.1))).mergeSort (· ≤ ·)

/-- The classes on a cycle of references, in the order of code points. -/
def recursiveClasses (model : Model ρ) : List String :=
  model.cyclicIds (model.graph.components model.nodes)

def validate [Ratio ρ] (model : Model ρ) : Findings ρ where
  unreachable := model.unreachableClasses
  dangling := model.danglingReferences
  counts := model.countViolations
  coverage := model.coverageViolations
  recursive := model.recursiveClasses

end Model

end DocModel
