import DocModel.Shape.Mismatch

set_option autoImplicit false

/-! # Reading shapes

A reader takes a document of one shape to a value or tells the mismatch. A record is given as an
object, whose members may come in any order and may be more than the record has, or as an array of
its fields in the order of declaration. Of several mismatches in a record the one that stands first
in the document is told; absent fields come after everything that is present. -/

namespace DocModel.Shape

abbrev Reader (α : Type) := Document → Except Mismatch α

variable {α β : Type}

/-! ## Scalars, lists, options -/

/-- The mismatch of a document where `expected` should stand. -/
def unexpected (expected : String) (document : Document) : Except Mismatch α :=
  .error (.invalidType (.of document) expected)

def document : Reader Document := .ok

def string : Reader String
  | .string value => .ok value
  | other => unexpected "a string" other

def bool : Reader Bool
  | .bool value => .ok value
  | other => unexpected "a boolean" other

/-- A count is an integer that is not negative. -/
def count : Reader Nat
  | .number (.int value) =>
    if value < 0 then .error (.invalidValue (.int value) "usize") else .ok value.toNat
  | other => unexpected "usize" other

/-- The double that is nearest to an integer. -/
def floatOfInt (value : Int) : Float := .ofModel (.ofInt value)

/-- A double may be written as an integer. -/
def float : Reader Float
  | .number (.float value) => .ok value
  | .number (.int value) => .ok (floatOfInt value)
  | other => unexpected "f64" other

def members : Reader Members
  | .object members => .ok members
  | other => unexpected "a map" other

/-- The items, up to the first that does not have the shape. -/
def items (item : Reader α) : List Document → Except Mismatch (List α)
  | [] => .ok []
  | head :: rest => do
    let head ← item head
    let rest ← items item rest
    .ok (head :: rest)

def list (item : Reader α) : Reader (List α)
  | .array documents => items item documents
  | other => unexpected "a sequence" other

/-- Null is absence. -/
def optional (value : Reader α) : Reader (Option α)
  | .null => .ok none
  | other => (value other).map some

/-! ## Records -/

/-- A record by its name and the names of its fields, in order of declaration. -/
structure Record where
  name : String
  fields : List String
  nodup : fields.Nodup := by decide

/-- The content of a record: named members, or the fields in order. -/
inductive Content where
  | members (members : Members)
  | items (items : List Document)

/-- The first member of this name, with its position counted from `position`. -/
def findMember? (name : String) (position : Nat) : Members → Option (Nat × Document)
  | [] => none
  | (key, value) :: rest =>
    if key = name then some (position, value) else findMember? name (position + 1) rest

/-- A mismatch and where in the content it stands. -/
structure Fault where
  position : Nat
  cause : Mismatch

namespace Record

/-- What a record of so many fields is called where its items do not suffice. -/
def expected (record : Record) : String :=
  "struct " ++ record.name ++ " with " ++ toString record.fields.length ++
    (if record.fields.length = 1 then " element" else " elements")

/-- The content of the field at `index`, with its position. -/
def find? (record : Record) (index : Nat) : Content → Option (Nat × Document)
  | .members members => findMember? (record.fields.getD index "") 0 members
  | .items items => items[index]?.map fun item => (index, item)

/-- The fault of an absent field. -/
def absent (record : Record) (index : Nat) : Content → Fault
  | .members members => ⟨members.length + index, .missingField (record.fields.getD index "")⟩
  | .items _ => ⟨index, .invalidLength index record.expected⟩

end Record

/-- A reader of some of the fields of a record. -/
structure Fields (α : Type) where
  run : Record → Content → Except Fault α

namespace Fields

/-- Two readings together; of two faults the earlier one is told. -/
def both (f : Except Fault (α → β)) (x : Except Fault α) : Except Fault β :=
  match f, x with
  | .ok f, .ok x => .ok (f x)
  | .ok _, .error b => .error b
  | .error a, .ok _ => .error a
  | .error a, .error b => .error (if b.position < a.position then b else a)

instance : Functor Fields where
  map f x := ⟨fun record content => (x.run record content).map f⟩

instance : Seq Fields where
  seq f x := ⟨fun record content => both (f.run record content) ((x ()).run record content)⟩

/-- The field at `index`, or `otherwise` if it is absent. -/
def field (index : Nat) (value : Reader α)
    (otherwise : Record → Content → Except Fault α) : Fields α :=
  ⟨fun record content =>
    match record.find? index content with
    | some (position, found) => (value found).mapError fun cause => ⟨position, cause⟩
    | none => otherwise record content⟩

/-- The field at `index`, which must be there. -/
def required (index : Nat) (value : Reader α) : Fields α :=
  field index value fun record content => .error (record.absent index content)

/-- The field at `index`, which may be absent or null. -/
def defaulted (index : Nat) (value : Reader α) : Fields (Option α) :=
  field index (optional value) fun _ _ => .ok none

/-- The field at `index`, which may be null, and absent only from an object. -/
def nullable (index : Nat) (value : Reader α) : Fields (Option α) :=
  field index (optional value) fun record content =>
    match content with
    | .members _ => .ok none
    | .items _ => .error (record.absent index content)

end Fields

/-- Read a record. An array may not have more items than the record has fields. -/
def Record.read (record : Record) (fields : Fields α) : Reader α
  | .object members => (fields.run record (.members members)).mapError (·.cause)
  | .array items => do
    let value ← (fields.run record (.items items)).mapError (·.cause)
    if items.length > record.fields.length then
      .error (.invalidLength items.length "fewer elements in array")
    else .ok value
  | other => unexpected ("struct " ++ record.name) other

/-- The fields with their values as members; what is `none` is left out. -/
def namedMembers (fields : List String) (values : List (Option Document)) : Members :=
  (fields.zip values).filterMap fun entry => entry.2.map fun value => (entry.1, value)

/-- Write a record as an object. -/
def Record.write (record : Record) (values : List (Option Document)) : Document :=
  .object (namedMembers record.fields values)

/-! ## Variants -/

/-- A case of a variant type: a name alone, or a name with content. -/
inductive Case (α : Type) where
  | plain (value : α)
  | carrying (content : Reader α)

/-- Read a variant: the name of a plain case, or an object whose only member is named for the case
and holds its content. -/
def oneOf (cases : List (String × Case α)) : Reader α
  | .string name =>
    match cases.lookup name with
    | none => .error (.unknownVariant name (cases.map (·.1)))
    | some (.plain value) => .ok value
    | some (.carrying _) => .error (.invalidType .unitVariant "newtype variant")
  | .object [(name, content)] =>
    match cases.lookup name with
    | none => .error (.unknownVariant name (cases.map (·.1)))
    | some (.plain value) =>
      match content with
      | .null => .ok value
      | other => unexpected "unit" other
    | some (.carrying read) => read content
  | .object _ => .error (.invalidValue .map "map with a single key")
  | other => unexpected "string or map" other

end DocModel.Shape
