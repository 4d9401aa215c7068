set_option autoImplicit false

/-! # Tokens

The words of the notation. Indentation shows as tokens of its own: a collection in block notation
begins with a token for its kind and ends with `blockEnd`. -/

namespace DocModel.Yaml

/-- The octets of a tag. Escapes in a tag stand for octets, which need not be the encoding of a
text. -/
abbrev Octets := List UInt8

/-- The octets of a text. -/
def Octets.ofChars (chars : List Char) : Octets := (String.ofList chars).toUTF8.toList

inductive Token where
  /-- The end of the text. -/
  | streamEnd
  /-- The version that a document asks for. -/
  | version (major minor : Nat)
  /-- What a handle in front of tags stands for. -/
  | tagHandle (handle : List Char) (meaning : Octets)
  | documentStart
  | documentEnd
  | blockSequenceStart
  | blockMappingStart
  | blockEnd
  | flowSequenceStart
  | flowSequenceEnd
  | flowMappingStart
  | flowMappingEnd
  | blockEntry
  | flowEntry
  | key
  | value
  | alias (name : List Char)
  | anchor (name : List Char)
  | tag (handle : List Char) (suffix : Octets)
  /-- The text of a scalar, and whether it was written without quotes. -/
  | scalar (text : String) (plain : Bool)
deriving DecidableEq, Inhabited

end DocModel.Yaml
