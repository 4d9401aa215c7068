import DocModel.Assoc
import DocModel.Yaml.Tree

set_option autoImplicit false

/-! # The grammar of nodes

The tree of a node is read from its tokens. At most `maxNesting` collections may stand inside one
another, and what is left out where a node may stand is a scalar without text. -/

namespace DocModel.Yaml.Tree

/-- A reader takes the unread tokens and gives a value and what it left unread. -/
abbrev Reader (α : Type) := List Token → Option (α × List Token)

/-! ## Properties -/

/-- What the handles of tags stand for. -/
abbrev Handles := List (List Char × Octets)

/-- A tag with its handle replaced; nothing if the handle is unknown. -/
def fullTag? (handles : Handles) (handle : List Char) (suffix : Octets) : Option Octets :=
  if handle.isEmpty then some suffix
  else (Assoc.find? handle handles).map (· ++ suffix)

/-- An anchor and a tag in either order; each may be absent. -/
def properties (handles : Handles) : Reader Properties
  | .anchor name :: .tag handle suffix :: rest
  | .tag handle suffix :: .anchor name :: rest =>
    (fullTag? handles handle suffix).map fun tag => (⟨some name, some tag⟩, rest)
  | .anchor name :: rest => some (⟨some name, none⟩, rest)
  | .tag handle suffix :: rest =>
    (fullTag? handles handle suffix).map fun tag => (⟨none, some tag⟩, rest)
  | rest => some (⟨none, none⟩, rest)

/-! ## Collections

A reader of a collection is given the reader of nodes. In every turn it reads a token. -/

/-- Read a node unless one of the given tokens follows, in front of which it is left out. -/
def orOmitted (node : Reader NamedTree) (stops : List Token) : Reader NamedTree := fun tokens =>
  match tokens with
  | token :: _ => if stops.contains token then some (omitted, tokens) else node tokens
  | [] => none

/-- The items of a sequence in block notation. -/
def blockItems (node : Reader NamedTree) : (turns : Nat) → List NamedTree → Reader (List NamedTree)
  | 0, _, _ => none
  | turns + 1, done, tokens =>
    match tokens with
    | .blockEntry :: rest =>
      match orOmitted node [.blockEntry, .blockEnd] rest with
      | some (item, rest) => blockItems node turns (item :: done) rest
      | none => none
    | .blockEnd :: rest => some (done.reverse, rest)
    | _ => none

/-- The items of a sequence at the column of its key, which has no end of its own. -/
def bareItems (node : Reader NamedTree) : (turns : Nat) → List NamedTree → Reader (List NamedTree)
  | 0, _, _ => none
  | turns + 1, done, tokens =>
    match tokens with
    | .blockEntry :: rest =>
      match orOmitted node [.blockEntry, .key, .value, .blockEnd] rest with
      | some (item, rest) => bareItems node turns (item :: done) rest
      | none => none
    | rest => some (done.reverse, rest)

/-- The value after a colon, left out without one. -/
def entryValue (node : Reader NamedTree) (stops : List Token) : Reader NamedTree
  | .value :: rest => orOmitted node stops rest
  | rest => some (omitted, rest)

/-- The entries of a mapping in block notation. -/
def blockEntries (node : Reader NamedTree) :
    (turns : Nat) → List (NamedTree × NamedTree) → Reader (List (NamedTree × NamedTree))
  | 0, _, _ => none
  | turns + 1, done, tokens =>
    match tokens with
    | .key :: rest => do
      let stops := [.key, .value, .blockEnd]
      let (key, rest) ← orOmitted node stops rest
      let (value, rest) ← entryValue node stops rest
      blockEntries node turns ((key, value) :: done) rest
    | .blockEnd :: rest => some (done.reverse, rest)
    | _ => none

/-- Step over the comma that stands in front of every item and entry but the first. -/
def comma (isFirst : Bool) : Reader Unit := fun tokens =>
  if isFirst then some ((), tokens)
  else
    match tokens with
    | .flowEntry :: rest => some ((), rest)
    | _ => none

/-- The one entry of a mapping that is an item in flow notation. A key that is left out takes the
token behind it along. -/
def flowPair (node : Reader NamedTree) : Reader (NamedTree × NamedTree) := fun tokens => do
  let (key, rest) ←
    match tokens with
    | token :: rest =>
      if [.value, .flowEntry, .flowSequenceEnd].contains token then some (omitted, rest)
      else node tokens
    | [] => none
  let (value, rest) ← entryValue node [.flowEntry, .flowSequenceEnd] rest
  some ((key, value), rest)

/-- The items of a sequence in flow notation. A comma may stand behind the last one. -/
def flowItems (node : Reader NamedTree) (pair : Reader (NamedTree × NamedTree)) :
    (turns : Nat) → List NamedTree → Reader (List NamedTree)
  | 0, _, _ => none
  | turns + 1, done, tokens =>
    match tokens with
    | .flowSequenceEnd :: rest => some (done.reverse, rest)
    | _ =>
      match comma done.isEmpty tokens with
      | none => none
      | some ((), .flowSequenceEnd :: rest) => some (done.reverse, rest)
      | some ((), .key :: rest) => do
        let (entry, rest) ← pair rest
        flowItems node pair turns (.mapping ⟨none, none⟩ [entry] :: done) rest
      | some ((), rest) => do
        let (item, rest) ← node rest
        flowItems node pair turns (item :: done) rest

/-- The entries of a mapping in flow notation. A node without a colon is a key without a value. -/
def flowEntries (node : Reader NamedTree) :
    (turns : Nat) → List (NamedTree × NamedTree) → Reader (List (NamedTree × NamedTree))
  | 0, _, _ => none
  | turns + 1, done, tokens =>
    match tokens with
    | .flowMappingEnd :: rest => some (done.reverse, rest)
    | _ =>
      match comma done.isEmpty tokens with
      | none => none
      | some ((), .flowMappingEnd :: rest) => some (done.reverse, rest)
      | some ((), .key :: rest) => do
        let (key, rest) ← orOmitted node [.value, .flowEntry, .flowMappingEnd] rest
        let (value, rest) ← entryValue node [.flowEntry, .flowMappingEnd] rest
        flowEntries node turns ((key, value) :: done) rest
      | some ((), rest) => do
        let (key, rest) ← node rest
        flowEntries node turns ((key, omitted) :: done) rest

/-! ## Nodes -/

/-- The tag of a scalar: an exclamation mark alone says that there is none. -/
def scalarProperties (properties : Properties) : Properties :=
  if properties.tag = some (.ofChars ['!']) then { properties with tag := none } else properties

/-- A node without content, which has to carry something. -/
def blankNode (properties : Properties) : Reader NamedTree := fun tokens =>
  if properties = ⟨none, none⟩ then none else some (blank properties, tokens)

/-- A node in which at most `nesting` collections stand inside one another. Keys and values of a
mapping in block notation may be `bare` sequences, at the column of the mapping. -/
def node (handles : Handles) : (nesting : Nat) → (bare : Bool) → Reader NamedTree
  | nesting, bare, tokens =>
    match tokens with
    | .alias name :: rest => some (.alias name, rest)
    | _ =>
      match properties handles tokens with
      | none => none
      | some (properties, tokens) =>
        let turns := tokens.length
        match tokens with
        | .scalar text plain :: rest => some (.scalar (scalarProperties properties) text plain, rest)
        | .flowSequenceStart :: rest =>
          match nesting with
          | 0 => none
          | inner + 1 =>
            let pair : Reader (NamedTree × NamedTree) := match inner with
              | 0 => fun _ => none
              | inner + 1 => flowPair (node handles inner false)
            (flowItems (node handles inner false) pair turns [] rest).map fun (items, rest) =>
              (.sequence properties items, rest)
        | .flowMappingStart :: rest =>
          match nesting with
          | 0 => none
          | inner + 1 =>
            (flowEntries (node handles inner false) turns [] rest).map fun (entries, rest) =>
              (.mapping properties entries, rest)
        | .blockSequenceStart :: rest =>
          match nesting with
          | 0 => none
          | inner + 1 =>
            (blockItems (node handles inner false) turns [] rest).map fun (items, rest) =>
              (.sequence properties items, rest)
        | .blockMappingStart :: rest =>
          match nesting with
          | 0 => none
          | inner + 1 =>
            (blockEntries (node handles inner true) turns [] rest).map fun (entries, rest) =>
              (.mapping properties entries, rest)
        | .blockEntry :: rest =>
          match bare, nesting with
          | true, inner + 1 =>
            (bareItems (node handles inner false) turns [] (.blockEntry :: rest)).map
              fun (items, rest) => (.sequence properties items, rest)
          | true, 0 => none
          | false, _ => blankNode properties (.blockEntry :: rest)
        | rest => blankNode properties rest

end DocModel.Yaml.Tree
