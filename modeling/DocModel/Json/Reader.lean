import DocModel.Decimal.Nearest
import DocModel.Document
import DocModel.Text.Character

set_option autoImplicit false

/-! # Reading JSON text

`Json.read` turns a text into a document or says why and where it stops. Readers work on the
unread characters; a stop records how many bytes were left unread, from which `locate` computes
line and column. Nesting is structural on the number of containers that may still be opened, and
the loops over items and members are bounded by the length of the text, since every turn reads a
comma.

Numbers that fit 64 bits are integers. Other literals are doubles: the significand is
collected as long as it fits 64 bits and then scaled by a power of ten, so the result may differ
in its last digit from the double that is nearest to the literal. -/

namespace DocModel.Json

/-! ## What can be wrong with a text -/

/-- Why reading stopped. -/
inductive Fault where
  | endInList
  | endInObject
  | endInString
  | endInValue
  | colonExpected
  | listCommaOrEndExpected
  | objectCommaOrEndExpected
  | wordExpected
  | valueExpected
  | invalidEscape
  | invalidNumber
  | numberOutOfRange
  | controlCharacter
  | keyNotString
  | loneSurrogate
  | trailingComma
  | trailingCharacters
  | unexpectedEscapeEnd
  | tooDeep
deriving DecidableEq, Inhabited

def Fault.message : Fault → String
  | .endInList => "EOF while parsing a list"
  | .endInObject => "EOF while parsing an object"
  | .endInString => "EOF while parsing a string"
  | .endInValue => "EOF while parsing a value"
  | .colonExpected => "expected `:`"
  | .listCommaOrEndExpected => "expected `,` or `]`"
  | .objectCommaOrEndExpected => "expected `,` or `\x7d`"
  | .wordExpected => "expected ident"
  | .valueExpected => "expected value"
  | .invalidEscape => "invalid escape"
  | .invalidNumber => "invalid number"
  | .numberOutOfRange => "number out of range"
  | .controlCharacter => "control character (\\u0000-\\u001F) found while parsing a string"
  | .keyNotString => "key must be a string"
  | .loneSurrogate => "lone leading surrogate in hex escape"
  | .trailingComma => "trailing comma"
  | .trailingCharacters => "trailing characters"
  | .unexpectedEscapeEnd => "unexpected end of hex escape"
  | .tooDeep => "recursion limit exceeded"

/-- A fault with its place: lines count from one, columns are bytes read on the line. -/
structure SyntaxError where
  fault : Fault
  line : Nat
  column : Nat
deriving DecidableEq, Inhabited

def SyntaxError.message (e : SyntaxError) : String :=
  e.fault.message ++ " at line " ++ toString e.line ++ " column " ++ toString e.column

/-- A fault before the last `unread` bytes of the text. -/
structure Stop where
  fault : Fault
  unread : Nat

/-- The length in bytes. -/
def byteCount (text : List Char) : Nat :=
  text.foldl (fun n c => n + c.utf8Size) 0

/-- Line and column after `consumed` bytes of the text, counted from the given place. -/
def locate (line column : Nat) : Nat → List Char → Nat × Nat
  | consumed, [] => (line, column + consumed)
  | consumed, c :: rest =>
    if consumed < c.utf8Size then (line, column + consumed)
    else if c = '\n' then locate (line + 1) 0 (consumed - 1) rest
    else locate line (column + c.utf8Size) (consumed - c.utf8Size) rest

def Stop.toSyntaxError (text : List Char) (stop : Stop) : SyntaxError :=
  let (line, column) := locate 1 0 (byteCount text - stop.unread) text
  ⟨stop.fault, line, column⟩

/-! ## Readers -/

/-- A reader takes the unread text and gives a value and what it left unread. -/
abbrev Reader (α : Type) := List Char → Except Stop (α × List Char)

/-- Stop in front of the unread text. -/
def stopBefore {α : Type} (fault : Fault) (unread : List Char) : Except Stop α :=
  .error ⟨fault, byteCount unread⟩

/-- Stop one byte into the unread text, or at its end. -/
def stopInside {α : Type} (fault : Fault) (unread : List Char) : Except Stop α :=
  .error ⟨fault, byteCount unread - 1⟩

def isBlank (c : Char) : Bool :=
  c == ' ' || c == '\n' || c == '\t' || c == '\r'

def skipBlank (text : List Char) : List Char := text.dropWhile isBlank

/-- Read the rest of a word and give its value. -/
def word (value : Document) : List Char → Reader Document
  | [], text => .ok (value, text)
  | _ :: _, [] => stopBefore .endInValue []
  | c :: more, d :: text =>
    if d = c then word value more text else stopInside .wordExpected (d :: text)

/-! ### Numbers -/

/-- The largest significand that is collected exactly. -/
def maxSignificand : Nat := 0xFFFFFFFFFFFFFFFF

/-- The largest exponent that is collected exactly. -/
def maxExponent : Nat := 0x7FFFFFFF

/-- The power of ten as a double, for exponents up to 308. -/
def powerOfTen (exponent : Nat) : Float := Decimal.nearest 1 exponent

/-- Scale `f` by a power of ten. Exponents beyond 308 in size go in steps of 308, downwards only;
nothing when the result is not finite. -/
def scale (f : Float) (exponent : Int) : Nat → Option Float
  | 0 => some f
  | steps + 1 =>
    if exponent.natAbs ≤ 308 then
      if exponent ≥ 0 then
        let scaled := f * powerOfTen exponent.natAbs
        if scaled.isInf then none else some scaled
      else some (f / powerOfTen exponent.natAbs)
    else if f == 0.0 then some f
    else if exponent ≥ 0 then none
    else scale (f / powerOfTen 308) (exponent + 308) steps

/-- The double of a significand and a decimal exponent. After three steps down everything is
zero, so five steps reach the end from any exponent. -/
def floatLiteral (negative : Bool) (significand : Nat) (exponent : Int) : Reader Number :=
  fun text =>
    match scale (Float.ofNat significand) exponent 5 with
    | some f => .ok (.float (if negative then -f else f), text)
    | none => stopBefore .numberOutOfRange text

/-- Digits of an exponent after the first one. An exponent that is too large makes a zero, or a
number out of range if it is positive and the significand is not zero. -/
def exponentDigits (negative : Bool) (significand : Nat) (start : Int) (down : Bool) :
    Nat → Reader Number
  | exponent, [] => floatLiteral negative significand
      (if down then start - exponent else start + exponent) []
  | exponent, c :: text =>
    match Text.digit? 10 c with
    | none => floatLiteral negative significand
        (if down then start - exponent else start + exponent) (c :: text)
    | some d =>
      if exponent * 10 + d > maxExponent then
        if significand ≠ 0 ∧ ¬ down then stopBefore .numberOutOfRange text
        else .ok (.float (if negative then -0.0 else 0.0), text.dropWhile Char.isDigit)
      else exponentDigits negative significand start down (exponent * 10 + d) text

/-- The exponent part after its letter. -/
def exponentPart (negative : Bool) (significand : Nat) (start : Int) : Reader Number := fun text =>
  let (down, digits) := match text with
    | '+' :: rest => (false, rest)
    | '-' :: rest => (true, rest)
    | _ => (false, text)
  match digits with
  | [] => stopBefore .endInValue []
  | c :: rest =>
    match Text.digit? 10 c with
    | none => stopInside .invalidNumber (c :: rest)
    | some d => exponentDigits negative significand start down d rest

/-- The exponent if one follows, else the number as it stands. -/
def exponentOrEnd (negative : Bool) (significand : Nat) (exponent : Int) : Reader Number
  | 'e' :: text | 'E' :: text => exponentPart negative significand exponent text
  | text => floatLiteral negative significand exponent text

/-- Digits after the point, `places` of them read so far. Once the significand is full the other
digits are skipped. -/
def fractionDigits (negative : Bool) (before : Int) : Nat → Nat → Reader Number
  | significand, places, [] =>
    if places = 0 then stopBefore .endInValue []
    else floatLiteral negative significand (before - places) []
  | significand, places, c :: text =>
    match Text.digit? 10 c with
    | some d =>
      if significand * 10 + d > maxSignificand then
        exponentOrEnd negative significand (before - places) (text.dropWhile Char.isDigit)
      else fractionDigits negative before (significand * 10 + d) (places + 1) text
    | none =>
      if places = 0 then stopInside .invalidNumber (c :: text)
      else exponentOrEnd negative significand (before - places) (c :: text)

/-- Digits before the point once the significand is full: each one multiplies by ten. -/
def longDigits (negative : Bool) (significand : Nat) : Nat → Reader Number
  | skipped, [] => floatLiteral negative significand skipped []
  | skipped, c :: text =>
    if c.isDigit then longDigits negative significand (skipped + 1) text
    else if c = '.' then fractionDigits negative skipped significand 0 text
    else exponentOrEnd negative significand skipped (c :: text)

/-- A literal without point and exponent: an integer where 64 bits hold it. The negative zero and
what lies below the signed range are doubles. -/
def wholeNumber (negative : Bool) (significand : Nat) : Number :=
  if ¬ negative then .int significand
  else if significand ≠ 0 ∧ significand ≤ 0x8000000000000000 then .int (-(significand : Int))
  else .float (-(Float.ofNat significand))

/-- What follows the digits before the point. -/
def afterDigits (negative : Bool) (significand : Nat) : Reader Number
  | '.' :: text => fractionDigits negative 0 significand 0 text
  | 'e' :: text | 'E' :: text => exponentPart negative significand 0 text
  | text => .ok (wholeNumber negative significand, text)

/-- Digits before the point after the first one. -/
def wholeDigits (negative : Bool) : Nat → Reader Number
  | significand, [] => afterDigits negative significand []
  | significand, c :: text =>
    match Text.digit? 10 c with
    | none => afterDigits negative significand (c :: text)
    | some d =>
      if significand * 10 + d > maxSignificand then
        longDigits negative significand 1 text
      else wholeDigits negative (significand * 10 + d) text

/-- A number after its sign. -/
def number (negative : Bool) : Reader Number
  | [] => stopBefore .endInValue []
  | c :: text =>
    match Text.digit? 10 c with
    | none => stopInside .invalidNumber (c :: text)
    | some 0 =>
      if (text.head?.map Char.isDigit).getD false then stopInside .invalidNumber text
      else afterDigits negative 0 text
    | some d => wholeDigits negative d text

/-! ### Strings -/

/-- The number of four hexadecimal digits. Four bytes are taken in any case. -/
def hexQuad : Reader Nat := fun text =>
  match text with
  | a :: b :: c :: d :: rest =>
    match Text.digit? 16 a, Text.digit? 16 b, Text.digit? 16 c, Text.digit? 16 d with
    | some a, some b, some c, some d => .ok (((a * 16 + b) * 16 + c) * 16 + d, rest)
    | _, _, _, _ => .error ⟨.invalidEscape, byteCount text - 4⟩
  | _ =>
    if byteCount text < 4 then stopBefore .endInString []
    else .error ⟨.invalidEscape, byteCount text - 4⟩

/-- The one character that must come next in the second half of a surrogate pair. -/
def pairChar (expected : Char) : Reader Unit
  | [] => stopBefore .endInString []
  | c :: text =>
    if c = expected then .ok ((), text) else stopInside .unexpectedEscapeEnd (c :: text)

/-- The character of a hexadecimal escape after its letter; characters beyond the basic plane are
written as two escapes. -/
def hexEscape : Reader Char := fun text => do
  let (high, text) ← hexQuad text
  if 0xDC00 ≤ high ∧ high ≤ 0xDFFF then stopBefore .loneSurrogate text
  else if high < 0xD800 ∨ 0xDBFF < high then .ok (Char.ofNat high, text)
  else
    let ((), text) ← pairChar '\\' text
    let ((), text) ← pairChar 'u' text
    let (low, text) ← hexQuad text
    if low < 0xDC00 ∨ 0xDFFF < low then stopBefore .loneSurrogate text
    else .ok (Char.ofNat ((high - 0xD800) * 0x400 + (low - 0xDC00) + 0x10000), text)

/-- The character of an escape after its backslash. -/
def escape : Reader Char
  | [] => stopBefore .endInString []
  | '"' :: text => .ok ('"', text)
  | '\\' :: text => .ok ('\\', text)
  | '/' :: text => .ok ('/', text)
  | 'b' :: text => .ok ('\x08', text)
  | 'f' :: text => .ok ('\x0c', text)
  | 'n' :: text => .ok ('\n', text)
  | 'r' :: text => .ok ('\r', text)
  | 't' :: text => .ok ('\t', text)
  | 'u' :: text => hexEscape text
  | c :: text => stopInside .invalidEscape (c :: text)

/-- The rest of a string after its opening quote; `done` holds its characters in reverse. Every
turn reads a character, so the length of the text bounds the turns. -/
def stringRest : Nat → List Char → Reader String
  | 0, _, text => stopBefore .endInString text
  | _ + 1, _, [] => stopBefore .endInString []
  | turns + 1, done, c :: text =>
    if c = '"' then .ok (String.ofList done.reverse, text)
    else if c = '\\' then
      match escape text with
      | .ok (escaped, text) => stringRest turns (escaped :: done) text
      | .error stop => .error stop
    else if c.toNat < 0x20 then stopInside .controlCharacter (c :: text)
    else stringRest turns (c :: done) text

def string : Reader String := fun text => stringRest (text.length + 1) [] text

/-! ### Arrays and objects -/

/-- The items after the first one, `done` in reverse. -/
def itemsRest (value : Reader Document) : Nat → List Document → Reader Document
  | 0, _, text => stopBefore .endInList text
  | turns + 1, done, text =>
    match skipBlank text with
    | [] => stopInside .endInList []
    | ']' :: text => .ok (.array done.reverse, text)
    | ',' :: text =>
      match skipBlank text with
      | [] => stopInside .endInValue []
      | ']' :: text => stopInside .trailingComma (']' :: text)
      | text => do
        let (item, text) ← value text
        itemsRest value turns (item :: done) text
    | text => stopInside .listCommaOrEndExpected text

/-- An array after its bracket. -/
def arrayRest (value : Reader Document) : Reader Document := fun text =>
  match skipBlank text with
  | [] => stopInside .endInList []
  | ']' :: text => .ok (.array [], text)
  | text => do
    let (item, text) ← value text
    itemsRest value (text.length + 1) [item] text

/-- One member, from the opening quote of its name. -/
def member (value : Reader Document) : Reader (String × Document) := fun text => do
  let (name, text) ← string (text.drop 1)
  match skipBlank text with
  | [] => stopInside .endInObject []
  | ':' :: text =>
    let (content, text) ← value text
    .ok ((name, content), text)
  | text => stopInside .colonExpected text

/-- The members after the first one. A repeated name keeps its position and takes the last
value. -/
def membersRest (value : Reader Document) : Nat → Members → Reader Document
  | 0, _, text => stopBefore .endInObject text
  | turns + 1, done, text =>
    match skipBlank text with
    | [] => stopInside .endInObject []
    | '\x7d' :: text => .ok (.object done, text)
    | ',' :: text =>
      match skipBlank text with
      | [] => stopInside .endInValue []
      | '"' :: text => do
        let ((name, content), text) ← member value ('"' :: text)
        membersRest value turns (Assoc.put name content done) text
      | '\x7d' :: text => stopInside .trailingComma ('\x7d' :: text)
      | text => stopInside .keyNotString text
    | text => stopInside .objectCommaOrEndExpected text

/-- An object after its brace. -/
def objectRest (value : Reader Document) : Reader Document := fun text =>
  match skipBlank text with
  | [] => stopInside .endInObject []
  | '\x7d' :: text => .ok (.object [], text)
  | '"' :: text => do
    let ((name, content), text) ← member value ('"' :: text)
    membersRest value (text.length + 1) [(name, content)] text
  | text => stopInside .keyNotString text

/-- How many containers may stand inside one another. -/
def maxNesting : Nat := 127

/-- A value in which at most `nesting` containers stand inside one another. -/
def value : (nesting : Nat) → Reader Document
  | nesting, text =>
    match skipBlank text with
    | [] => stopInside .endInValue []
    | 'n' :: text => word .null ['u', 'l', 'l'] text
    | 't' :: text => word (.bool true) ['r', 'u', 'e'] text
    | 'f' :: text => word (.bool false) ['a', 'l', 's', 'e'] text
    | '"' :: text => do
      let (s, text) ← string text
      .ok (.string s, text)
    | '[' :: text =>
      match nesting with
      | 0 => stopInside .tooDeep ('[' :: text)
      | inner + 1 => arrayRest (value inner) text
    | '\x7b' :: text =>
      match nesting with
      | 0 => stopInside .tooDeep ('\x7b' :: text)
      | inner + 1 => objectRest (value inner) text
    | '-' :: text => do
      let (n, text) ← number true text
      .ok (.number n, text)
    | c :: text =>
      if c.isDigit then do
        let (n, text) ← number false (c :: text)
        .ok (.number n, text)
      else stopInside .valueExpected (c :: text)

/-- The document that a text is. -/
def read (text : String) : Except SyntaxError Document :=
  let chars := text.toList
  match value maxNesting chars with
  | .error stop => .error (stop.toSyntaxError chars)
  | .ok (document, rest) =>
    match skipBlank rest with
    | [] => .ok document
    | rest =>
      match stopInside (α := Unit) .trailingCharacters rest with
      | .error stop => .error (stop.toSyntaxError chars)
      | .ok () => .ok document

end DocModel.Json
