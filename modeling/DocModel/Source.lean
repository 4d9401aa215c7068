import DocModel.Error
import DocModel.Yaml.Stream

set_option autoImplicit false

/-! # Sources

A source is a named list of documents with the same meaning, for instance all answers of one
service. A document may be paired with the input object that it is the output for. Sources only grow:
documents are put at the end, one step after the other. How texts are read does not matter for this,
so texts are added with any readers. -/

namespace DocModel

/-- A document and, if it is known, the input object it is the output for. -/
structure SourceDocument where
  input : Option Members
  data : Document
deriving Inhabited

/-- The objects that discovery starts from: objects themselves and the objects that stand directly
in an array. Everything else is skipped. -/
def Document.rootObjects : Document → List Members
  | .array items => items.filterMap Document.members?
  | .object members => [members]
  | _ => []

/-- The root objects of documents, in order. -/
def rootObjects (documents : List Document) : List Members :=
  documents.flatMap Document.rootObjects

/-- How texts are read: one document of JSON, and all documents of a stream of YAML. -/
structure Readers where
  json : String → Except Json.SyntaxError Document
  yaml : String → Option (List Document)

def Readers.usual : Readers := ⟨Json.read, Yaml.readStream⟩

structure Source where
  name : String
  documents : List SourceDocument
deriving Inhabited

namespace Source

/-- A source without documents; its name is not empty. -/
def new (name : String) : Except Error Source :=
  if name.isEmpty then .error .emptySourceName else .ok ⟨name, []⟩

def size (source : Source) : Nat := source.documents.length

def isEmpty (source : Source) : Bool := source.documents.isEmpty

/-! ## Adding -/

/-- A step that adds to a source. What it has added before it fails stays. -/
abbrev Adding (α : Type) := ExceptT Error (StateM Source) α

/-- The outcome of a step on a source, and the source afterwards. -/
def perform {α : Type} (step : Adding α) (source : Source) : Except Error α × Source :=
  StateT.run (ExceptT.run step) source

def push (document : SourceDocument) : Adding Unit :=
  modify fun source => { source with documents := source.documents ++ [document] }

def add (document : Document) : Adding Unit := push ⟨none, document⟩

/-- Add the output for an input object. -/
def addPair (input : Members) (output : Document) : Adding Unit := push ⟨some input, output⟩

/-- Add the document of a JSON text. -/
def addJsonWith (readers : Readers) (text : String) : Adding Unit :=
  match readers.json text with
  | .ok document => add document
  | .error cause => throw (.json cause)

/-- Add every document of a YAML stream, once all of them have been read. -/
def addYamlWith (readers : Readers) (text : String) : Adding Unit :=
  match readers.yaml text with
  | some documents => documents.forM add
  | none => throw .yaml

/-- The text of a file; `none` is a file that cannot be read. -/
def fileText (content : Option ByteArray) : Except Error String :=
  match content.bind String.fromUTF8? with
  | some text => .ok text
  | none => .error .unreadable

/-- Add the document of a JSON file. -/
def addJsonFileWith (readers : Readers) (content : Option ByteArray) : Adding Unit := do
  addJsonWith readers (← fileText content)

/-- Add every document of a YAML file. -/
def addYamlFileWith (readers : Readers) (content : Option ByteArray) : Adding Unit := do
  addYamlWith readers (← fileText content)

def addJson : String → Adding Unit := addJsonWith .usual

def addYaml : String → Adding Unit := addYamlWith .usual

def addJsonFile : Option ByteArray → Adding Unit := addJsonFileWith .usual

def addYamlFile : Option ByteArray → Adding Unit := addYamlFileWith .usual

/-! ## Roots -/

/-- The name of the member that holds the output of a pair. -/
def outputName (source : Source) : String := source.name ++ "Output"

/-- The root objects of one document of the source: the input of a pair with the output put under
its name, or the root objects of the data. -/
def rootsOf (source : Source) (document : SourceDocument) : List Members :=
  match document.input with
  | some input => [Assoc.put source.outputName document.data input]
  | none => document.data.rootObjects

/-- The root objects of the source, in the order of its documents. -/
def roots (source : Source) : List Members := source.documents.flatMap source.rootsOf

end Source

end DocModel
