import DocModel.Decimal.Text
import DocModel.Yaml.Character
import DocModel.Yaml.Page
import DocModel.Yaml.Resolution

set_option autoImplicit false

/-! # The text of scalars

Scalars are written without quotes where that reads back as the same value, in single quotes
where it would read as something else, in double quotes where characters need escapes, and as an
indented block where they hold line feeds. Lines are never folded. -/

namespace DocModel.Yaml

/-- The text of a number. -/
def numberText : Number → String
  | .int i => toString i
  | .float f =>
    if f.isNaN then ".nan"
    else if f.isInf then (if f < 0.0 then "-.inf" else ".inf")
    else Decimal.floatText f

/-- Ways to write a scalar. -/
inductive ScalarStyle where
  | plain
  | singleQuoted
  | doubleQuoted
  | literal
deriving DecidableEq, Inhabited

namespace ScalarStyle

/-! ## Which ways are open -/

/-- Somewhere in the text a character of the first class stands before one of the second. -/
def hasPair (first second : Char → Bool) (text : List Char) : Bool :=
  (text.zip text.tail).any fun pair => first pair.1 && second pair.2

/-- Characters that cannot begin a word. -/
def isIndicator (c : Char) : Bool := "#,[]\x7b\x7d&*!|>'\"%@\x60".toList.contains c

/-- The text would not be read as one word: it begins with an indicator or a document marker, or
has an indicator of a comment or of a value inside. -/
def hasIndicators (text : List Char) : Bool :=
  (match text with
    | '-' :: '-' :: '-' :: _ | '.' :: '.' :: '.' :: _ => true
    | c :: rest =>
      isIndicator c || ((c == '-' || c == '?') && endsWord rest.head?)
    | [] => false) ||
  (text.zip (text.tail.map some ++ [none])).any (fun pair => pair.1 == ':' && endsWord pair.2) ||
  hasPair isSpacing (· == '#') text

/-- A space or a line end stands at an end of the text. -/
def hasLooseEnd (text : List Char) : Bool :=
  let isLoose (c : Char) : Bool := c == ' ' || isBreak c
  text.head?.any isLoose || text.getLast?.any isLoose

/-- Spaces stand before a line end, or a character needs an escape. -/
def needsEscapes (text : List Char) : Bool :=
  hasPair (· == ' ') isBreak text || text.any fun c => !isShown c

def allowsPlain (text : List Char) : Bool :=
  !hasIndicators text && !hasLooseEnd text && !needsEscapes text && !text.any isBreak

def allowsSingleQuoted (text : List Char) : Bool :=
  !needsEscapes text && !hasPair isBreak (· == ' ') text

def allowsLiteral (text : List Char) : Bool :=
  !needsEscapes text && text.getLast?.all (· != ' ')

/-- The way a string is written for its meaning: as a block if it has several lines, in quotes if
it would not be read as a string. -/
def preferred (text : String) : ScalarStyle :=
  if text.toList.contains '\n' then .literal
  else if Resolution.isPaddedNumber text.toList then .singleQuoted
  else
    match Resolution.ofPlain text with
    | .node (.string _) => .plain
    | _ => .singleQuoted

/-- The preferred way if it is open, else the next one; a key on the same line as its value has
one line. -/
def choose (asKey : Bool) (text : String) : ScalarStyle :=
  let chars := text.toList
  let style := preferred text
  let style := if asKey && chars.any isBreak then .doubleQuoted else style
  let style := if style = .plain && !allowsPlain chars then .singleQuoted else style
  let style := if style = .singleQuoted && !allowsSingleQuoted chars then .doubleQuoted else style
  if style = .literal && (asKey || !allowsLiteral chars) then .doubleQuoted else style

end ScalarStyle

namespace Page

/-! ## Writing -/

/-- Write a word without quotes. -/
def plain (page : Page) (chars : List Char) : Page := page.space.mark chars

/-- The characters of a text in single quotes. A line that begins after a line end is indented. -/
def singleQuotedChars (column : Nat) : (afterBreak : Bool) → List Char → Page → Page
  | afterBreak, [], page => if afterBreak then page.indent column else page
  | afterBreak, c :: rest, page =>
    if c = ' ' then singleQuotedChars column afterBreak rest (page.put [c])
    else if isBreak c then
      let page := if !afterBreak && c == '\n' then page.putBreak '\n' else page
      singleQuotedChars column true rest { page.putBreak c with fresh := true }
    else
      let page := if afterBreak then page.indent column else page
      let page := { page.put (if c = '\'' then [c, c] else [c]) with fresh := false }
      singleQuotedChars column false rest page

def singleQuoted (page : Page) (column : Nat) (chars : List Char) : Page :=
  (singleQuotedChars column false chars (page.space.mark ['\''])).mark ['\'']

/-- The code point in upper case hexadecimal with a fixed number of digits. -/
def paddedCode (digits : Nat) (c : Char) : List Char :=
  let code := (Nat.toDigits 16 c.toNat).map Char.toUpper
  List.replicate (digits - code.length) '0' ++ code

/-- What stands for a character in double quotes. -/
def escaped (c : Char) : List Char :=
  match c.toNat with
  | 0x00 => ['\\', '0']
  | 0x07 => ['\\', 'a']
  | 0x08 => ['\\', 'b']
  | 0x09 => ['\\', 't']
  | 0x0A => ['\\', 'n']
  | 0x0B => ['\\', 'v']
  | 0x0C => ['\\', 'f']
  | 0x0D => ['\\', 'r']
  | 0x1B => ['\\', 'e']
  | 0x22 => ['\\', '\"']
  | 0x5C => ['\\', '\\']
  | 0x85 => ['\\', 'N']
  | 0x2028 => ['\\', 'L']
  | 0x2029 => ['\\', 'P']
  | n =>
    if isShown c then [c]
    else if n ≤ 0xFF then '\\' :: 'x' :: paddedCode 2 c
    else if n ≤ 0xFFFF then '\\' :: 'u' :: paddedCode 4 c
    else '\\' :: 'U' :: paddedCode 8 c

def doubleQuoted (page : Page) (chars : List Char) : Page :=
  page.space.mark (['\"'] ++ chars.flatMap escaped ++ ['\"'])

/-- What follows the indicator of a block: a digit if the text does not show its indentation, and
a sign that tells how many line ends the text has at its end. -/
def literalHints (chars : List Char) : List Char :=
  let indentation := if chars.head?.any fun c => c == ' ' || isBreak c then ['2'] else []
  let ending := match chars.reverse with
    | last :: before =>
      if !isBreak last then ['-']
      else if before.head?.all isBreak then ['+']
      else []
    | [] => ['-']
  indentation ++ ending

/-- The lines of a block; a line is indented before its first character. -/
def literalChars (column : Nat) : (afterBreak : Bool) → List Char → Page → Page
  | _, [], page => page
  | afterBreak, c :: rest, page =>
    if isBreak c then literalChars column true rest { page.putBreak c with fresh := true }
    else
      let page := if afterBreak then page.indent column else page
      literalChars column false rest { page.put [c] with fresh := false }

def literal (page : Page) (column : Nat) (chars : List Char) : Page :=
  let page := (page.space.mark ('|' :: literalHints chars)).putBreak '\n'
  literalChars column true chars { page with spaced := true, fresh := true }

/-- Write a string; a string of several lines has its lines at `column`. -/
def string (page : Page) (asKey : Bool) (column : Nat) (text : String) : Page :=
  match ScalarStyle.choose asKey text with
  | .plain => page.plain text.toList
  | .singleQuoted => page.singleQuoted column text.toList
  | .doubleQuoted => page.doubleQuoted text.toList
  | .literal => page.literal column text.toList

end Page

end DocModel.Yaml
