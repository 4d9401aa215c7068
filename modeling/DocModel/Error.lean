import DocModel.Json.Reader
import DocModel.Shape.Mismatch

set_option autoImplicit false

/-! # Errors

Why a request cannot be answered, and the text that says so. -/

namespace DocModel

inductive Error where
  /-- An id was to be made of an empty name. -/
  | emptyId
  | emptyFieldName
  | emptySourceName
  | noDocuments (source : String)
  | nothingToRefine (model : String)
  | classNotRegistered (id : String)
  | fieldExists (field id : String)
  | noSuchField (id field : String)
  | noSuchClass (id : String)
  /-- Containers stand `depth` deep inside one another where `max` are allowed. -/
  | tooDeep (depth max : Nat)
  | json (cause : Json.SyntaxError)
  | shape (cause : Shape.Mismatch)
  | yaml
  | unreadable

/-- The text of an error. -/
def Error.message : Error → String
  | .emptyId => "Invalid argument: id cannot be empty"
  | .emptyFieldName => "Invalid argument: field name cannot be empty"
  | .emptySourceName => "Invalid argument: source name cannot be empty"
  | .noDocuments source =>
    "Invalid argument: the source [" ++ source ++ "] must include at least one document"
  | .nothingToRefine model =>
    "Invalid argument: refining [" ++ model ++ "] needs at least one document"
  | .classNotRegistered id => "Invalid argument: class " ++ id ++ " is not registered"
  | .fieldExists field id =>
    "Invalid argument: field " ++ field ++ " already exists in class " ++ id
  | .noSuchField id field => "Invalid argument: class " ++ id ++ " has no field " ++ field
  | .noSuchClass id => "Invalid argument: model has no class " ++ id
  | .tooDeep depth max =>
    "Maximum nesting depth exceeded: " ++ toString depth ++ " > " ++ toString max
  | .json cause => "JSON parsing error: " ++ cause.message
  | .shape cause => "JSON parsing error: " ++ cause.message
  | .yaml => "YAML parsing error"
  | .unreadable => "IO error"

end DocModel
