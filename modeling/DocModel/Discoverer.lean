import DocModel.Config
import DocModel.Discovery
import DocModel.Source

set_option autoImplicit false

/-! # Runs of discovery

A discoverer folds the root objects of documents into the class named after their source, starting
from nothing or from the classes of a model, and attaches coverage when it has finished. Every run
has a registry of its own. -/

namespace DocModel

/-- A configuration and a way to name classes. -/
structure Discoverer where
  config : Config
  digester : Digester

namespace Discoverer

variable {ρ : Type}

def policy (d : Discoverer) : Policy := ⟨d.digester, d.config.maxDepth⟩

/-- Fold root objects into the class of this id, from a registry. -/
def fold (d : Discoverer) (registry : Registry ρ) (root : String) (roots : List Members) :
    Except Error Unit × Context ρ :=
  (Discovery.discoverRoots d.policy root roots).run (.of registry)

/-- The model of a source, of this root class and of the classes of a registry. -/
def modelOf [Ratio ρ] (d : Discoverer) (name root : String) (registry : Registry ρ) : Model ρ where
  name := name
  nsUri := d.config.nsUri name
  nsPrefix := d.config.nsPrefix name
  root := root
  classes := registry.computeCoverage.classes

/-- Discover the model of a source of this name from a registry. -/
def run [Ratio ρ] (d : Discoverer) (name : String) (registry : Registry ρ)
    (roots : List Members) : Except Error (Model ρ) :=
  match d.digester name with
  | .error e => .error e
  | .ok root =>
    match d.fold registry root roots with
    | (.ok (), context) => .ok (d.modelOf name root context.registry)
    | (.error e, _) => .error e

/-- The classes of a model, without coverage, as the start of another run. -/
def seed (model : Model ρ) : Registry ρ :=
  .ofClasses (model.classes.map Model.Class.clearCoverage)

/-- Discover the model of documents of one source. -/
def discover [Ratio ρ] (d : Discoverer) (name : String) (documents : List Document) :
    Except Error (Model ρ) :=
  if documents.isEmpty then .error (.noDocuments name)
  else d.run name .empty (rootObjects documents)

/-- Discover the model of a source. -/
def discoverSource [Ratio ρ] (d : Discoverer) (source : Source) : Except Error (Model ρ) :=
  if source.isEmpty then .error (.noDocuments source.name)
  else d.run source.name .empty source.roots

/-- Refine a model by more documents of the same source. Counts go on from the model and coverage
is computed anew. -/
def refine [Ratio ρ] (d : Discoverer) (model : Model ρ) (documents : List Document) :
    Except Error (Model ρ) :=
  if documents.isEmpty then .error (.nothingToRefine model.name)
  else d.run model.name (seed model) (rootObjects documents)

/-- Refine a model by the documents of a source. -/
def refineSource [Ratio ρ] (d : Discoverer) (model : Model ρ) (source : Source) :
    Except Error (Model ρ) :=
  if source.isEmpty then .error (.nothingToRefine model.name)
  else d.run model.name (seed model) source.roots

end Discoverer

namespace Model

variable {ρ : Type}

/-- The class of this id, which must be there. -/
def requireClass (model : Model ρ) (id : String) : Except Error (Class ρ) :=
  match model.class? id with
  | some cls => .ok cls
  | none => .error (.noSuchClass id)

/-- The field of this name, which must be there. -/
def Class.requireField (cls : Class ρ) (name : String) : Except Error (Field ρ) :=
  match cls.field? name with
  | some field => .ok field
  | none => .error (.noSuchField cls.id name)

end Model

end DocModel
