import DocModel.Assoc
import DocModel.Yaml.Tree

set_option autoImplicit false

/-! # Anchors

Anchors are numbered by how many names are known when they are met. An anchor with a new name may
therefore take over the number of one whose name was known before, and the aliases of a number stand
for the last node that took it. The names of aliases are looked up where the alias stands, the nodes
of numbers once the whole document is read. -/

namespace DocModel.Yaml

/-- A node whose aliases are numbers of anchors. -/
abbrev NumberedTree := Tree Nat

/-- The anchors so far. Every anchored node has a serial number in the order in which nodes begin:
`names` has the number of each name, `holders` the serial number of the node that took a number
last, `nodes` the nodes by their serial numbers and `begun` how many there are. -/
structure Anchors where
  names : List (List Char × Nat)
  holders : List (Nat × Nat)
  nodes : List (Nat × NumberedTree)
  begun : Nat
deriving Inhabited

namespace Anchors

def empty : Anchors := ⟨[], [], [], 0⟩

/-- Take a number for an anchor at the beginning of its node. -/
def define (anchors : Anchors) (name : List Char) : Anchors :=
  let number := anchors.names.length
  { anchors with
    names := Assoc.put name number anchors.names
    holders := Assoc.put number anchors.begun anchors.holders
    begun := anchors.begun + 1 }

/-- The node with a serial number is read. -/
def complete (anchors : Anchors) (serial : Nat) (tree : NumberedTree) : Anchors :=
  { anchors with nodes := (serial, tree) :: anchors.nodes }

/-- The node that the aliases with this number stand for. -/
def node? (anchors : Anchors) (number : Nat) : Option NumberedTree :=
  (Assoc.find? number anchors.holders).bind (Assoc.find? · anchors.nodes)

end Anchors

namespace Tree

/-- Read a node: its anchor, if it has one, is defined before its content is read. -/
def withAnchor (properties : Properties) (anchors : Anchors)
    (content : Anchors → Option (NumberedTree × Anchors)) : Option (NumberedTree × Anchors) :=
  match properties.anchor with
  | none => content anchors
  | some name =>
    (content (anchors.define name)).map fun (tree, after) =>
      (tree, after.complete anchors.begun tree)

mutual

/-- The tree with the names of aliases replaced by numbers; nothing if a name is unknown. -/
def number? : NamedTree → Anchors → Option (NumberedTree × Anchors)
  | .alias name, anchors =>
    (Assoc.find? name anchors.names).map fun number => (.alias number, anchors)
  | .scalar properties text plain, anchors =>
    withAnchor properties anchors fun anchors => some (.scalar properties text plain, anchors)
  | .sequence properties items, anchors =>
    withAnchor properties anchors fun anchors =>
      (numberItems? items anchors).map fun (items, anchors) =>
        (.sequence properties items, anchors)
  | .mapping properties entries, anchors =>
    withAnchor properties anchors fun anchors =>
      (numberEntries? entries anchors).map fun (entries, anchors) =>
        (.mapping properties entries, anchors)

def numberItems? : List NamedTree → Anchors → Option (List NumberedTree × Anchors)
  | [], anchors => some ([], anchors)
  | item :: rest, anchors => do
    let (item, anchors) ← item.number? anchors
    let (rest, anchors) ← numberItems? rest anchors
    some (item :: rest, anchors)

def numberEntries? : List (NamedTree × NamedTree) → Anchors →
    Option (List (NumberedTree × NumberedTree) × Anchors)
  | [], anchors => some ([], anchors)
  | (key, value) :: rest, anchors => do
    let (key, anchors) ← key.number? anchors
    let (value, anchors) ← value.number? anchors
    let (rest, anchors) ← numberEntries? rest anchors
    some ((key, value) :: rest, anchors)

end

end Tree

end DocModel.Yaml
