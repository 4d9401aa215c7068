import DocModel.Error
import DocModel.Text.UpperCase

set_option autoImplicit false

/-! # Ids from names

A class is named after the field or the source that introduced it. Names that give the same id
share a class, so the digest decides which objects are merged. -/

namespace DocModel

/-- A way to make class ids of names. -/
abbrev Digester := String → Except Error String

namespace Digester

/-- The characters without one `s` at their end; a name of one character keeps it. -/
def singular (name : List Char) : List Char :=
  if 1 < name.length ∧ name.getLast? = some 's' then name.dropLast else name

/-- The characters with the first one replaced by its image. -/
def capitalize (upper : Char → List Char) : List Char → List Char
  | [] => []
  | first :: rest => upper first ++ rest

/-- Make names singular and capitalize them by the given mapping. The empty name has no id. -/
def pluralStripWith (upper : Char → List Char) : Digester := fun name =>
  if name.isEmpty then .error .emptyId
  else .ok (String.ofList (capitalize upper (singular name.toList)))

/-- The usual digest: `addresses` becomes `Addresse` and `status` becomes `Statu`. -/
def pluralStrip : Digester := pluralStripWith Text.upperCase

/-- Every name is its own id. -/
def verbatim : Digester := .ok

/-- All names have the same id. -/
def constant (id : String) : Digester := fun _ => .ok id

end Digester

end DocModel
