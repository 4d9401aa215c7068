import DocModel.Document

set_option autoImplicit false

/-! # YAML nodes

A YAML document is a tree of scalars, sequences and mappings in which any value may carry a tag.
Unlike members of a document, entries of a mapping may have any node as their key. -/

namespace DocModel.Yaml

inductive Node where
  | null
  | bool (value : Bool)
  | number (value : Number)
  | string (value : String)
  | sequence (items : List Node)
  | mapping (entries : List (Node × Node))
  | tagged (tag : String) (value : Node)
deriving Inhabited

/-- The name of a tag: without its exclamation mark, unless it is nothing else. -/
def tagName (tag : String) : String :=
  match tag.toList with
  | '!' :: c :: rest => String.ofList (c :: rest)
  | _ => tag

/-- Equality of numbers as keys: an integer never equals a double, and a NaN equals every NaN. -/
def sameNumber : Number → Number → Bool
  | .int i, .int j => i == j
  | .float x, .float y => x == y || (x.isNaN && y.isNaN)
  | _, _ => false

namespace Node

mutual

/-- Equality as keys. The order of the entries of a mapping does not matter. -/
def same : Node → Node → Bool
  | null, null => true
  | bool a, bool b => a == b
  | number a, number b => sameNumber a b
  | string a, string b => a == b
  | sequence items, sequence others => sameItems items others
  | mapping entries, mapping others =>
    entries.length == others.length && containedIn entries others
  | tagged tag value, tagged other content => tagName tag == tagName other && value.same content
  | _, _ => false

def sameItems : List Node → List Node → Bool
  | [], [] => true
  | item :: rest, other :: others => item.same other && sameItems rest others
  | _, _ => false

/-- Every entry has an equal key with an equal value among the others. -/
def containedIn : List (Node × Node) → List (Node × Node) → Bool
  | [], _ => true
  | (key, value) :: rest, others =>
    (match others.find? fun other => key.same other.1 with
      | some other => value.same other.2
      | none => false) && containedIn rest others

end

instance : BEq Node := ⟨same⟩

end Node

end DocModel.Yaml
