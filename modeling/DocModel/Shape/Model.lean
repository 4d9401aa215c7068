import DocModel.Config
import DocModel.Model.Stats
import DocModel.Shape.Reader
import DocModel.Source
import DocModel.Validation

set_option autoImplicit false

/-! # Shapes of models

How models, configurations, statistics, sources and findings are written as documents, and the
readers for what was written. -/

namespace DocModel

open Shape

/-! ## Types of fields -/

namespace Scalar

def shapeName : Scalar → String
  | .string => "string"
  | .integer => "integer"
  | .boolean => "boolean"

def toDocument (s : Scalar) : Document := .string s.shapeName

def shape : Reader Scalar :=
  oneOf [("string", .plain .string), ("integer", .plain .integer), ("boolean", .plain .boolean)]

end Scalar

namespace ValueType

def toDocument : ValueType → Document
  | .scalar s => .object [("primitive", s.toDocument)]
  | .instanceOf id => .object [("class", .string id)]

def shape : Reader ValueType :=
  oneOf
    [("primitive", .carrying fun content => (Scalar.shape content).map .scalar),
     ("class", .carrying fun content => (Shape.string content).map .instanceOf)]

end ValueType

namespace FieldKind

def toDocument : FieldKind → Document
  | .attribute => .string "attribute"
  | .reference => .string "reference"

def shape : Reader FieldKind :=
  oneOf [("attribute", .plain .attribute), ("reference", .plain .reference)]

end FieldKind

namespace Multiplicity

def toDocument : Multiplicity → Document
  | .one => .string "one"
  | .many => .string "many"

def shape : Reader Multiplicity := oneOf [("one", .plain .one), ("many", .plain .many)]

end Multiplicity

/-- Text values as an array. -/
def Document.ofStrings (values : List String) : Document := .array (values.map .string)

/-! ## Models -/

namespace Model

def Field.record : Record where
  name := "FieldDef"
  fields := ["name", "kind", "valueType", "multiplicity", "required", "occurrenceCount", "coverage"]

def Field.toDocument (field : Field Float) : Document :=
  Field.record.write
    [some (.string field.name), some field.kind.toDocument, some field.valueType.toDocument,
     some field.multiplicity.toDocument, some (.bool field.required),
     some (.ofNat field.occurrences), field.coverage.map .ofFloat]

def Field.shape : Reader (Field Float) :=
  Field.record.read
    (Field.mk <$> .required 0 Shape.string <*> .required 1 FieldKind.shape
      <*> .required 2 ValueType.shape <*> .required 3 Multiplicity.shape
      <*> .required 4 Shape.bool <*> .required 5 Shape.count <*> .defaulted 6 Shape.float)

def Class.record : Record where
  name := "ClassDef"
  fields := ["id", "fields", "occurrenceCount"]

def Class.toDocument (cls : Class Float) : Document :=
  Class.record.write
    [some (.string cls.id), some (.array (cls.fields.map Field.toDocument)),
     some (.ofNat cls.occurrences)]

def Class.shape : Reader (Class Float) :=
  Class.record.read
    (Class.mk <$> .required 0 Shape.string <*> .required 1 (Shape.list Field.shape)
      <*> .required 2 Shape.count)

def record : Record where
  name := "Model"
  fields := ["name", "nsUri", "nsPrefix", "root", "classes"]

def toDocument (model : Model Float) : Document :=
  record.write
    [some (.string model.name), some (.string model.nsUri), some (.string model.nsPrefix),
     some (.string model.root), some (.array (model.classes.map Class.toDocument))]

def shape : Reader (Model Float) :=
  record.read
    (Model.mk <$> .required 0 Shape.string <*> .required 1 Shape.string
      <*> .required 2 Shape.string <*> .required 3 Shape.string
      <*> .required 4 (Shape.list Class.shape))

end Model

/-! ## Statistics and configuration -/

namespace Stats

def record : Record where
  name := "DiscoveryStats"
  fields :=
    ["rootInstances", "classes", "fields", "attributes", "references", "manyValuedFields",
     "optionalFields"]

def toDocument (stats : Stats) : Document :=
  record.write
    [some (.ofNat stats.rootInstances), some (.ofNat stats.classes), some (.ofNat stats.fields),
     some (.ofNat stats.attributes), some (.ofNat stats.references),
     some (.ofNat stats.manyValuedFields), some (.ofNat stats.optionalFields)]

def shape : Reader Stats :=
  record.read
    (Stats.mk <$> .required 0 Shape.count <*> .required 1 Shape.count <*> .required 2 Shape.count
      <*> .required 3 Shape.count <*> .required 4 Shape.count <*> .required 5 Shape.count
      <*> .required 6 Shape.count)

end Stats

namespace Config

def record : Record where
  name := "DiscoveryConfig"
  fields := ["nsUriBase", "nsPrefixBase", "maxDepth"]

def toDocument (config : Config) : Document :=
  record.write
    [some (.string config.nsUriBase), some (.string config.nsPrefixBase),
     config.maxDepth.map .ofNat]

def shape : Reader Config :=
  record.read
    (Config.mk <$> .required 0 Shape.string <*> .required 1 Shape.string
      <*> .defaulted 2 Shape.count)

end Config

/-! ## Sources -/

namespace SourceDocument

def record : Record where
  name := "SourceDocument"
  fields := ["input", "data"]

def toDocument (document : SourceDocument) : Document :=
  record.write [document.input.map .object, some document.data]

def shape : Reader SourceDocument :=
  record.read (SourceDocument.mk <$> .defaulted 0 Shape.members <*> .required 1 Shape.document)

end SourceDocument

namespace Source

def record : Record where
  name := "DocumentSource"
  fields := ["name", "documents"]

def toDocument (source : Source) : Document :=
  record.write
    [some (.string source.name),
     some (.array (source.documents.map SourceDocument.toDocument))]

def shape : Reader Source :=
  record.read
    (Source.mk <$> .required 0 Shape.string <*> .required 1 (Shape.list SourceDocument.shape))

end Source

/-! ## Findings -/

namespace DanglingReference

def record : Record where
  name := "DanglingReference"
  fields := ["class", "field", "target"]

def toDocument (d : DanglingReference) : Document :=
  record.write [some (.string d.classId), some (.string d.field), some (.string d.target)]

def shape : Reader DanglingReference :=
  record.read
    (DanglingReference.mk <$> .required 0 Shape.string <*> .required 1 Shape.string
      <*> .required 2 Shape.string)

end DanglingReference

namespace CountViolation

def record : Record where
  name := "CountViolation"
  fields := ["class", "field", "fieldCount", "classCount"]

def toDocument (v : CountViolation) : Document :=
  record.write
    [some (.string v.classId), some (.string v.field), some (.ofNat v.fieldCount),
     some (.ofNat v.classCount)]

def shape : Reader CountViolation :=
  record.read
    (CountViolation.mk <$> .required 0 Shape.string <*> .required 1 Shape.string
      <*> .required 2 Shape.count <*> .required 3 Shape.count)

end CountViolation

namespace CoverageViolation

def record : Record where
  name := "CoverageViolation"
  fields := ["class", "field", "ratio", "expected"]

def toDocument (v : CoverageViolation Float) : Document :=
  record.write
    [some (.string v.classId), some (.string v.field),
     some ((v.ratio.map .ofFloat).getD .null), some (.ofFloat v.expected)]

def shape : Reader (CoverageViolation Float) :=
  record.read
    (CoverageViolation.mk <$> .required 0 Shape.string <*> .required 1 Shape.string
      <*> .nullable 2 Shape.float <*> .required 3 Shape.float)

end CoverageViolation

namespace Findings

def record : Record where
  name := "ModelValidationResult"
  fields :=
    ["unreachableClasses", "danglingReferences", "countViolations", "coverageViolations",
     "recursiveClasses"]

def toDocument (findings : Findings Float) : Document :=
  record.write
    [some (.ofStrings findings.unreachable),
     some (.array (findings.dangling.map DanglingReference.toDocument)),
     some (.array (findings.counts.map CountViolation.toDocument)),
     some (.array (findings.coverage.map CoverageViolation.toDocument)),
     some (.ofStrings findings.recursive)]

def shape : Reader (Findings Float) :=
  record.read
    (Findings.mk <$> .required 0 (Shape.list Shape.string)
      <*> .required 1 (Shape.list DanglingReference.shape)
      <*> .required 2 (Shape.list CountViolation.shape)
      <*> .required 3 (Shape.list CoverageViolation.shape)
      <*> .required 4 (Shape.list Shape.string))

end Findings

end DocModel
