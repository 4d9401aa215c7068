import DocModel.Yaml.Conversion
import DocModel.Yaml.Token.Lexer
import DocModel.Yaml.Tree.Grammar
import DocModel.Yaml.Tree.Value

set_option autoImplicit false

/-! # Streams

A text is a stream of documents. The first one may begin without a marker, the others begin with a
line of three dashes, before which directives may stand. A stream is read whole or not at all, and
one without any document counts as a document that is null. -/

namespace DocModel.Yaml

namespace Tree

/-! ## Directives -/

/-- The directives in front of a document: handles of tags, each at most once, and at most one
version, which is 1.1 or 1.2. -/
def directives (versioned : Bool) (handles : Handles) : Reader Handles
  | .version major minor :: rest =>
    if versioned ∨ major ≠ 1 ∨ (minor ≠ 1 ∧ minor ≠ 2) then none
    else directives true handles rest
  | .tagHandle handle meaning :: rest =>
    if (Assoc.find? handle handles).isSome then none
    else directives versioned (handles ++ [(handle, meaning)]) rest
  | rest => some (handles, rest)

/-- The handles of every document that does not say otherwise. -/
def standardHandles : Handles :=
  [(['!'], .ofChars ['!']), (['!', '!'], .ofChars "tag:yaml.org,2002:".toList)]

/-! ## Documents -/

/-- Tokens in front of which a document has no content. -/
def endsDocument : Token → Bool
  | .version .. | .tagHandle .. | .documentStart | .documentEnd | .streamEnd => true
  | _ => false

/-- The tokens after the end marker of a document, if it has one. -/
def skipEnd : List Token → List Token
  | .documentEnd :: rest => rest
  | rest => rest

/-- The content of a document, with the marker of its end. -/
def content (handles : Handles) : Reader NamedTree := fun tokens =>
  (node (handles ++ standardHandles) maxNesting false tokens).map fun (tree, rest) =>
    (tree, skipEnd rest)

/-- A document from its directives on. -/
def markedDocument : Reader NamedTree := fun tokens => do
  let (handles, rest) ← directives false [] tokens
  match rest with
  | .documentStart :: token :: rest =>
    if endsDocument token then some (omitted, skipEnd (token :: rest))
    else content handles (token :: rest)
  | _ => none

/-- The documents after the first one. Every turn reads a token. -/
def laterDocuments : (turns : Nat) → List NamedTree → List Token → Option (List NamedTree)
  | 0, _, _ => none
  | turns + 1, done, tokens =>
    match tokens with
    | .streamEnd :: _ => some done.reverse
    | .documentEnd :: rest => laterDocuments turns done rest
    | tokens =>
      match markedDocument tokens with
      | some (tree, rest) => laterDocuments turns (tree :: done) rest
      | none => none

/-- The documents of a stream. Without content there is none. -/
def ofTokens? (tokens : List Token) : Option (List NamedTree) :=
  match tokens with
  | .streamEnd :: _ => some []
  | token :: _ =>
    let first := match token with
      | .version .. | .tagHandle .. | .documentStart => markedDocument tokens
      | _ => content [] tokens
    match first with
    | some (tree, rest) => laterDocuments tokens.length [tree] rest
    | none => none
  | [] => none

end Tree

/-- The nodes that the documents of a text are. -/
def readNodes (text : String) : Option (List Node) := do
  let tokens ← Token.ofText? text
  let trees ← Tree.ofTokens? tokens
  let nodes ← trees.mapM Tree.toNode?
  some (if nodes.isEmpty then [.null] else nodes)

/-- The documents of a text. -/
def readStream (text : String) : Option (List Document) :=
  (readNodes text).map (·.map Node.toDocument)

end DocModel.Yaml
