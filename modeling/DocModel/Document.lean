import DocModel.Assoc

set_option autoImplicit false

/-! # Documents

A document is a tree of scalars, arrays and objects, whatever notation it was written in. Objects
keep their members in order. A document that was read has distinct member names in every object;
`Document.Distinct` says so. JSON has no numbers but integers of 64 bits and finite doubles;
`Document.IsJson` says that too. -/

namespace DocModel

/-- A number of a document: integers stay integers, everything else is a double. -/
inductive Number where
  | int (value : Int)
  | float (value : Float)
deriving Inhabited

inductive Document where
  | null
  | bool (value : Bool)
  | number (value : Number)
  | string (value : String)
  | array (items : List Document)
  | object (members : List (String × Document))
deriving Inhabited

/-- The members of an object, in order. -/
abbrev Members := List (String × Document)

namespace Document

/-- The integer `value`. -/
def ofInt (value : Int) : Document := .number (.int value)

/-- The count `value`. -/
def ofNat (value : Nat) : Document := .ofInt value

/-- The double `value`, or null for an infinity and for what is not a number. -/
def ofFloat (value : Float) : Document :=
  if value.isFinite then .number (.float value) else .null

/-- The members of an object; nothing else has any. -/
def members? : Document → Option Members
  | .object members => some members
  | _ => none

def isArray : Document → Bool
  | .array _ => true
  | _ => false

mutual

/-- Member names are distinct in every object of the document. -/
def Distinct : Document → Prop
  | .null | .bool _ | .number _ | .string _ => True
  | .array items => DistinctItems items
  | .object members => (Assoc.keys members).Nodup ∧ DistinctMembers members

def DistinctItems : List Document → Prop
  | [] => True
  | item :: rest => item.Distinct ∧ DistinctItems rest

def DistinctMembers : List (String × Document) → Prop
  | [] => True
  | (_, value) :: rest => value.Distinct ∧ DistinctMembers rest

end

/-- The document is a tree of JSON: integers are those of 64 bits, with or without a sign, doubles
are finite, and member names are distinct. -/
inductive IsJson : Document → Prop
  | null : IsJson .null
  | bool (value : Bool) : IsJson (.bool value)
  | int {value : Int} (h : -0x8000000000000000 ≤ value ∧ value < 0x10000000000000000) :
    IsJson (.number (.int value))
  | float {value : Float} (h : value.isFinite = true) : IsJson (.number (.float value))
  | string (value : String) : IsJson (.string value)
  | array {items : List Document} (h : ∀ item ∈ items, IsJson item) : IsJson (.array items)
  | object {members : Members} (hnames : (Assoc.keys members).Nodup)
      (h : ∀ entry ∈ members, IsJson entry.2) : IsJson (.object members)

end Document

end DocModel
