import DocModel.Document
import DocModel.Decimal.Text
import DocModel.Text.Character

set_option autoImplicit false

/-! # Mismatches

Why a document does not have a shape, with the text that says so. A mismatch names what was found
and what was expected. -/

namespace DocModel.Shape

/-- What stands in the document where something else was expected. -/
inductive Found where
  | null
  | bool (value : Bool)
  | int (value : Int)
  | float (value : Float)
  | string (value : String)
  | sequence
  | map
  | unitVariant

def Found.text : Found → String
  | .null => "null"
  | .bool value => "boolean `" ++ (if value then "true" else "false") ++ "`"
  | .int value => "integer `" ++ toString value ++ "`"
  | .float value => "floating point `" ++ Decimal.floatText value ++ "`"
  | .string value => "string " ++ Text.quoted value
  | .sequence => "sequence"
  | .map => "map"
  | .unitVariant => "unit variant"

/-- What a document is, as far as a mismatch tells. -/
def Found.of : Document → Found
  | .null => .null
  | .bool value => .bool value
  | .number (.int value) => .int value
  | .number (.float value) => .float value
  | .string value => .string value
  | .array _ => .sequence
  | .object _ => .map

inductive Mismatch where
  /-- A value of another type. -/
  | invalidType (found : Found) (expected : String)
  /-- A value of the right type that is not allowed. -/
  | invalidValue (found : Found) (expected : String)
  | invalidLength (length : Nat) (expected : String)
  | missingField (name : String)
  | unknownVariant (name : String) (variants : List String)

/-- The names of the variants between backticks, as the end of a sentence. -/
def variantsText : List String → String
  | [] => "there are no variants"
  | [a] => "expected `" ++ a ++ "`"
  | [a, b] => "expected `" ++ a ++ "` or `" ++ b ++ "`"
  | names => "expected one of " ++ ", ".intercalate (names.map fun name => "`" ++ name ++ "`")

def Mismatch.message : Mismatch → String
  | .invalidType found expected => "invalid type: " ++ found.text ++ ", expected " ++ expected
  | .invalidValue found expected => "invalid value: " ++ found.text ++ ", expected " ++ expected
  | .invalidLength length expected =>
    "invalid length " ++ toString length ++ ", expected " ++ expected
  | .missingField name => "missing field `" ++ name ++ "`"
  | .unknownVariant name variants => "unknown variant `" ++ name ++ "`, " ++ variantsText variants

end DocModel.Shape
