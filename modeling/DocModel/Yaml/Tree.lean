import DocModel.Yaml.Token

set_option autoImplicit false

/-! # Syntax trees

The nodes of a text as they are written: scalars with their text, nodes with the anchors and tags
they carry, and aliases in place of other nodes. -/

namespace DocModel.Yaml

/-- What a node carries besides its content. -/
structure Properties where
  anchor : Option (List Char)
  tag : Option Octets
deriving DecidableEq, Inhabited

/-- A node as it is written; `ρ` is what an alias refers to. -/
inductive Tree (ρ : Type) where
  | alias (target : ρ)
  | scalar (properties : Properties) (text : String) (plain : Bool)
  | sequence (properties : Properties) (items : List (Tree ρ))
  | mapping (properties : Properties) (entries : List (Tree ρ × Tree ρ))
deriving Inhabited

/-- How many collections may stand inside one another. -/
def maxNesting : Nat := 128

/-- A node whose aliases are names. -/
abbrev NamedTree := Tree (List Char)

namespace Tree

/-- A scalar without text. -/
def blank (properties : Properties) : NamedTree := .scalar properties "" true

/-- The scalar that is left out. -/
def omitted : NamedTree := blank ⟨none, none⟩

mutual

/-- The size of a tree: one for a scalar or an alias, and two for a collection besides what it
holds. -/
def size : NamedTree → Nat
  | .alias _ | .scalar .. => 1
  | .sequence _ items => itemsSize items + 2
  | .mapping _ entries => entriesSize entries + 2

def itemsSize : List NamedTree → Nat
  | [] => 0
  | item :: rest => item.size + itemsSize rest

def entriesSize : List (NamedTree × NamedTree) → Nat
  | [] => 0
  | (key, value) :: rest => key.size + value.size + entriesSize rest

end

end Tree

end DocModel.Yaml
