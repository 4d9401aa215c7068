import DocModel.Source

set_option autoImplicit false

/-! # Sources only grow, by whole additions

A step of adding keeps what it has added when it fails, so it could leave a part of a stream behind.
It never does: what can fail is the reading, and the first document is added after the last one has
been read. So every addition puts its whole contribution at the end of the source or does nothing,
and what a sequence of additions leaves is what the successful ones contribute, in order. All of this
holds with any readers. -/

namespace DocModel

namespace Source

/-! ## Running steps -/

variable {α : Type} (source : Source)

end Source

/-! ## Additions -/

/-- The ways to add to a source. A file is what can be read of it, nothing if it cannot be opened. -/
inductive Addition where
  | document (data : Document)
  | pair (input : Members) (output : Document)
  | json (text : String)
  | yaml (text : String)
  | jsonFile (content : Option ByteArray)
  | yamlFile (content : Option ByteArray)

namespace Addition

open Source

section Readers

variable (readers : Readers)

/-- The step that makes the addition. -/
def step : Addition → Adding Unit
  | .document data => add data
  | .pair input output => addPair input output
  | .json text => addJsonWith readers text
  | .yaml text => addYamlWith readers text
  | .jsonFile content => addJsonFileWith readers content
  | .yamlFile content => addYamlFileWith readers content

/-- A JSON text is one document. -/
def ofJson (text : String) : Except Error (List SourceDocument) :=
  match readers.json text with
  | .ok data => .ok [⟨none, data⟩]
  | .error cause => .error (.json cause)

/-- A YAML text is one document for every document of the stream, in order. -/
def ofYaml (text : String) : Except Error (List SourceDocument) :=
  match readers.yaml text with
  | some documents => .ok (documents.map fun data => ⟨none, data⟩)
  | none => .error .yaml

/-- What is added in the end, or why nothing is. A file is what its text is. -/
def contribution : Addition → Except Error (List SourceDocument)
  | .document data => .ok [⟨none, data⟩]
  | .pair input output => .ok [⟨some input, output⟩]
  | .json text => ofJson readers text
  | .yaml text => ofYaml readers text
  | .jsonFile content => (fileText content).bind (ofJson readers)
  | .yamlFile content => (fileText content).bind (ofYaml readers)

/-- The outcome of the addition, whatever the source. -/
def outcome (addition : Addition) : Except Error Unit :=
  (addition.contribution readers).map fun _ => ()

/-- The documents that the addition leaves in a source. -/
def added (addition : Addition) : List SourceDocument :=
  match addition.contribution readers with
  | .ok documents => documents
  | .error _ => []

/-! ## One addition -/

end Readers

/-- A text that ends within its second document, and one of two whole documents. -/
def mixed : List Addition :=
  [.json "[1]", .yaml "a: 1\n---\n[", .json "[1", .yaml "b: 1\n---\nc: 2", .yamlFile none,
    .pair [("d", .null)] (.object [("e", .null)]), .jsonFile (some "[2]".toUTF8)]

end Addition

end DocModel
