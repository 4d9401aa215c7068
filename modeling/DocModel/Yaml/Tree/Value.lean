import DocModel.Yaml.Resolution
import DocModel.Yaml.Tree.Anchor

set_option autoImplicit false

/-! # The values of syntax trees

Every alias is replaced by the node that it stands for, tags of the document's own become part of
the value, and scalars are resolved. Keys of a mapping are distinct. How often aliases may be
followed is bounded by the size of the document, and how deep collections may stand inside one
another by `maxNesting`, which also refuses nodes that contain themselves. -/

namespace DocModel.Yaml

namespace Tree

/-! ## Scalars -/

/-- A tag of the standard schema. -/
def schemaTag (name : String) : Octets := .ofChars ("tag:yaml.org,2002:" ++ name).toList

/-- The octet of an exclamation mark. -/
def exclamationMark : UInt8 := 0x21

/-- The name of a tag of the document's own: what follows the exclamation mark, or the mark
alone. -/
def ownTag? (octets : Octets) : Option String :=
  if octets.head? = some exclamationMark then
    let name := if octets.length = 1 then octets else octets.drop 1
    String.fromUTF8? ⟨name.toArray⟩
  else none

/-- The node of a resolution. -/
def resolved? : Resolution → Option Node
  | .node value => some value
  | .tooWide => none

/-- The value of a scalar. The tags of the standard schema for null, booleans and numbers ask for
such a text; under other tags, and in quotes, a scalar is its text. `tagged` says that the tag is
accounted for. -/
def scalarNode? (tagged : Bool) (tag : Option Octets) (text : String) (plain : Bool) :
    Option Node :=
  let untagged := if plain then resolved? (.ofPlain text) else some (.string text)
  match tag with
  | none => untagged
  | some tag =>
    if tagged then untagged
    else if tag = schemaTag "bool" then (Resolution.bool? text).map .bool
    else if tag = schemaTag "int" then (Resolution.ofInteger text).bind resolved?
    else if tag = schemaTag "float" then
      (Resolution.float? text).map fun f => .number (.float f)
    else if tag = schemaTag "null" then
      if Resolution.isNull text && !text.isEmpty then some .null else none
    else if tag.head? = some exclamationMark then untagged
    else some (.string text)

/-! ## Aliases -/

/-- A step of building a node, with the number of times that aliases may still be followed. -/
abbrev Build := StateT Nat Option

/-- The tree itself or, for an alias, the node that it stands for. Only the tree itself may be
`tagged`. -/
def follow (anchors : Anchors) (tagged : Bool) : NumberedTree → Build (Bool × NumberedTree)
  | .alias number => do
    match ← get with
    | 0 => failure
    | jumps + 1 =>
      set jumps
      let tree ← anchors.node? number
      return (false, tree)
  | tree => return (tagged, tree)

/-! ## Collections -/

/-- Add an entry, whose key must be new, to entries in reverse. -/
def addEntry? (done : List (Node × Node)) (key value : Node) : Option (List (Node × Node)) :=
  if done.any fun entry => entry.1 == key then none else some ((key, value) :: done)

/-- The entries of a mapping, `done` in reverse. -/
def buildEntries (key value : NumberedTree → Build Node) (done : List (Node × Node)) :
    List (NumberedTree × NumberedTree) → Build (List (Node × Node))
  | [] => return done.reverse
  | (keyTree, valueTree) :: rest => do
    let done ← addEntry? done (← key keyTree) (← value valueTree)
    buildEntries key value done rest

/-- The tag of a node. -/
def tag? : NumberedTree → Option Octets
  | .alias _ => none
  | .scalar properties .. | .sequence properties _ | .mapping properties _ => properties.tag

/-- The node of a tree in which at most `nesting` collections stand inside one another. Below a tag
of the document's own the node is `tagged`, and so is a key of such a mapping. -/
def build (anchors : Anchors) : (nesting : Nat) → (tagged : Bool) → NumberedTree → Build Node
  | nesting, tagged, tree => do
    let (tagged, tree) ← follow anchors tagged tree
    let tag := tree.tag?
    let own := if tagged then none else tag.bind ownTag?
    let tagged := tagged || own.isSome
    let content ←
      match tree, nesting with
      | .scalar _ text plain, _ => scalarNode? tagged tag text plain
      | .sequence _ items, inner + 1 => .sequence <$> items.mapM (build anchors inner false)
      | .mapping _ entries, inner + 1 =>
        .mapping <$> buildEntries (build anchors inner tagged) (build anchors inner false) [] entries
      | _, _ => failure
    match own with
    | some name => return .tagged name content
    | none => return content

/-- The node that the tree of a document is. -/
def toNode? (tree : NamedTree) : Option Node := do
  let (numbered, anchors) ← tree.number? .empty
  let (node, _) ← (build anchors maxNesting false numbered).run (tree.size * 100)
  some node

end Tree

end DocModel.Yaml
