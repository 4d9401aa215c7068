import DocModel.Decimal.Nearest
import DocModel.Text.Character
import DocModel.Yaml.Node

set_option autoImplicit false

/-! # What a plain scalar means

The text of a scalar without quotes stands for null, a boolean, a number or itself. Integers are
decimal, hexadecimal, octal or binary. Those that 64 bits hold are integers, and larger ones that
128 bits hold are refused; beyond that a decimal one is a double. Digits after a leading zero are
text. A double is written in decimal and is finite, or it is one of the words for infinity and for
NaN. -/

namespace DocModel.Yaml

/-- The meaning of a plain scalar; an integer may be too wide to have one. -/
inductive Resolution where
  | node (value : Node)
  | tooWide
deriving Inhabited

namespace Resolution

def isNull (text : String) : Bool :=
  text.isEmpty || ["~", "null", "Null", "NULL"].contains text

def bool? (text : String) : Option Bool :=
  if ["true", "True", "TRUE"].contains text then some true
  else if ["false", "False", "FALSE"].contains text then some false
  else none

/-! ## Integers -/

/-- Two or more digits of which the first is a zero, perhaps after a sign. -/
def isPaddedNumber (text : List Char) : Bool :=
  let digits := match text with
    | '+' :: rest | '-' :: rest => rest
    | _ => text
  match digits with
  | '0' :: rest => !rest.isEmpty && rest.all Char.isDigit
  | _ => false

/-- The size of an integer after its sign; the base is ten unless a marker says otherwise. -/
def magnitude? (text : List Char) : Option Nat :=
  match text with
  | '0' :: 'x' :: digits => Text.natural? 16 digits
  | '0' :: 'o' :: digits => Text.natural? 8 digits
  | '0' :: 'b' :: digits => Text.natural? 2 digits
  | _ => if isPaddedNumber text then none else Text.natural? 10 text

/-- The integer that a text spells out, of any size. -/
def integer? (text : List Char) : Option Int :=
  match text with
  | '-' :: rest => (magnitude? rest).map fun n => -(n : Int)
  | '+' :: rest => (magnitude? rest).map fun n => (n : Int)
  | _ => (magnitude? text).map fun n => (n : Int)

def fits64 (value : Int) : Bool := -0x8000000000000000 ≤ value && value < 0x10000000000000000

def fits128 (value : Int) : Bool :=
  -0x80000000000000000000000000000000 ≤ value && value < 0x100000000000000000000000000000000

/-! ## Doubles -/

/-- The exponent part of a decimal, or nothing at all. -/
def exponent? (text : List Char) : Option Int :=
  match text with
  | [] => some 0
  | mark :: rest =>
    if mark = 'e' ∨ mark = 'E' then
      match rest with
      | '-' :: digits => (Text.natural? 10 digits).map fun n => -(n : Int)
      | '+' :: digits => (Text.natural? 10 digits).map fun n => (n : Int)
      | digits => (Text.natural? 10 digits).map fun n => (n : Int)
    else none

/-- A decimal without its sign: digits with at most one point, at least one digit, and perhaps an
exponent. -/
def decimal? (text : List Char) : Option Float := do
  let whole := text.takeWhile Char.isDigit
  let afterWhole := text.dropWhile Char.isDigit
  let (fraction, afterFraction) := match afterWhole with
    | '.' :: rest => (rest.takeWhile Char.isDigit, rest.dropWhile Char.isDigit)
    | rest => ([], rest)
  let digits ← Text.natural? 10 (whole ++ fraction)
  let exponent ← exponent? afterFraction
  some (Decimal.nearest digits (exponent - fraction.length))

/-- A double with its sign. -/
def signedDecimal? (text : List Char) : Option Float :=
  match text with
  | '-' :: rest => (decimal? rest).map fun f => -f
  | '+' :: rest => decimal? rest
  | _ => decimal? text

/-- The double that a text spells out. -/
def float? (text : String) : Option Float :=
  if [".inf", ".Inf", ".INF", "+.inf", "+.Inf", "+.INF"].contains text then some (1.0 / 0.0)
  else if ["-.inf", "-.Inf", "-.INF"].contains text then some (-1.0 / 0.0)
  else if [".nan", ".NaN", ".NAN"].contains text then some (Float.ofBits 0x7FF8000000000000)
  else (signedDecimal? text.toList).filter Float.isFinite

/-! ## Scalars -/

/-- The integer that a text spells out, unless only more than 128 bits hold it. -/
def ofInteger (text : String) : Option Resolution :=
  match integer? text.toList with
  | some i =>
    if fits64 i then some (.node (.number (.int i)))
    else if fits128 i then some .tooWide
    else none
  | none => none

/-- The meaning of a plain scalar. -/
def ofPlain (text : String) : Resolution :=
  if isNull text then .node .null
  else
    match bool? text with
    | some b => .node (.bool b)
    | none =>
      match ofInteger text with
      | some resolution => resolution
      | none =>
        if isPaddedNumber text.toList then .node (.string text)
        else
          match float? text with
          | some f => .node (.number (.float f))
          | none => .node (.string text)

end Resolution

end DocModel.Yaml
