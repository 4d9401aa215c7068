import DocModel.Yaml.BlockText

set_option autoImplicit false

/-! # Documents of YAML nodes

A node becomes a document by giving up what documents do not have: a tag is dropped in favour of
its value, a key becomes its text, and a double that is not finite becomes its text. Entries whose
keys have the same text become one member, at the position of the first and with the value of the
last. Nothing of this depends on how numbers and collections are spelled, so it is done for every
spelling. In the other direction every document is a node. -/

namespace DocModel

/-! ## What a number is -/

namespace Number

/-- The integer that a number is, if 64 bits with a sign hold it. -/
def signed? : Number → Option Int
  | .int i => if -0x8000000000000000 ≤ i ∧ i < 0x8000000000000000 then some i else none
  | .float _ => none

/-- The integer that a number is, if 64 bits without a sign hold it. -/
def unsigned? : Number → Option Int
  | .int i => if 0 ≤ i ∧ i < 0x10000000000000000 then some i else none
  | .float _ => none

/-- The double that a number is, or the one that is nearest to an integer. -/
def double : Number → Float
  | .int i => .ofInt i
  | .float f => f

end Number

namespace Yaml

/-! ## Spellings -/

/-- The texts of nodes that are no texts by themselves. -/
structure Spelling where
  number : Number → String
  /-- The text of a sequence or of a mapping. -/
  collection : Node → String

/-- Doubles have as few digits as possible, and collections are in block notation. -/
def Spelling.usual : Spelling := ⟨numberText, Node.text⟩

namespace Node

/-! ## Documents of nodes -/

/-- The name of the member that an entry with this key becomes. -/
def keyTextWith (spelling : Spelling) : Node → String
  | null => "null"
  | bool b => toString b
  | number n => spelling.number n
  | string s => s
  | tagged _ value => value.keyTextWith spelling
  | sequence items => spelling.collection (sequence items)
  | mapping entries => spelling.collection (mapping entries)

/-- The document of a number: an integer where 64 bits hold it, or else a double. -/
def numberDocument (spelling : Spelling) (n : Number) : Document :=
  match n.signed? with
  | some i => .ofInt i
  | none =>
    match n.unsigned? with
    | some i => .ofInt i
    | none =>
      if n.double.isFinite then .number (.float n.double) else .string (spelling.number n)

mutual

def toDocumentWith (spelling : Spelling) : Node → Document
  | null => .null
  | bool b => .bool b
  | number n => numberDocument spelling n
  | string s => .string s
  | sequence items => .array (itemDocuments spelling items)
  | mapping entries => .object (Assoc.ofEntries (entryDocuments spelling entries))
  | tagged _ value => value.toDocumentWith spelling

def itemDocuments (spelling : Spelling) : List Node → List Document
  | [] => []
  | item :: rest => item.toDocumentWith spelling :: itemDocuments spelling rest

/-- The entries with their key texts, none put over another yet. -/
def entryDocuments (spelling : Spelling) : List (Node × Node) → List (String × Document)
  | [] => []
  | (key, value) :: rest =>
    (key.keyTextWith spelling, value.toDocumentWith spelling) :: entryDocuments spelling rest

end

/-- The document of a node in the usual spelling. -/
def toDocument : Node → Document := toDocumentWith .usual

/-! ## Nodes of documents -/

mutual

/-- The node that a document is. -/
def ofDocument : Document → Node
  | .null => .null
  | .bool b => .bool b
  | .number n => .number n
  | .string s => .string s
  | .array items => .sequence (ofItems items)
  | .object members => .mapping (ofMembers members)

def ofItems : List Document → List Node
  | [] => []
  | item :: rest => ofDocument item :: ofItems rest

def ofMembers : List (String × Document) → List (Node × Node)
  | [] => []
  | (name, value) :: rest => (.string name, ofDocument value) :: ofMembers rest

end

end Node

end Yaml

end DocModel
