import DocModel.Text.Character
import DocModel.Yaml.ScalarText

set_option autoImplicit false

/-! # The text of nodes

A node is written in block notation, two columns deeper for every level. Sequences that are values
of a mapping stand at the column of their keys. A value has at most one tag in this notation; a
node in which a tag stands directly on a tag can only be spelled out with the names of its parts. -/

namespace DocModel.Yaml

/-! ## Tags -/

/-- A tag with its exclamation mark. -/
def tagWithMark (tag : String) : List Char :=
  match (tagName tag).toList with
  | '!' :: rest => '!' :: rest
  | name => '!' :: name

/-- The octet after a percent sign. -/
def escapedOctet (octet : UInt8) : List Char :=
  let digits := (Nat.toDigits 16 octet.toNat).map Char.toUpper
  '%' :: (List.replicate (2 - digits.length) '0' ++ digits)

/-- A character of a tag, escaped unless it may stand in one. -/
def tagChar (c : Char) : List Char :=
  if c ≠ '!' ∧ c ≠ '%' ∧ isVerbatimTagChar c then [c]
  else c.toString.toUTF8.toList.flatMap escapedOctet

/-- The text of a tag. The tag that is nothing but its mark has to stand between brackets. -/
def tagText (tag : String) : List Char :=
  match tagWithMark tag with
  | _ :: c :: rest => '!' :: (c :: rest).flatMap tagChar
  | name => ['!', '<'] ++ name.flatMap tagChar ++ ['>']

/-- Write a tag if there is one. -/
def Page.tag (page : Page) : Option String → Page
  | some tag => page.space.mark (tagText tag)
  | none => page

namespace Node

/-! ## Block notation -/

/-- The column of a collection inside one at column `outer`. -/
def nestedColumn : (outer : Option Nat) → Nat
  | some column => column + 2
  | none => 0

/-- The column for the lines of a scalar inside a collection at column `outer`. -/
def scalarColumn (outer : Option Nat) : Nat := outer.getD 0 + 2

/-- How many bytes the key has, if it is a scalar of one line or an empty collection. -/
def keyLength? : Node → Option Nat
  | null => some 4
  | bool b => some (toString b).utf8ByteSize
  | number n => some (numberText n).utf8ByteSize
  | string s => if s.toList.any isBreak then none else some s.utf8ByteSize
  | sequence items => if items.isEmpty then some 0 else none
  | mapping entries => if entries.isEmpty then some 0 else none
  | tagged tag value => value.keyLength?.map (· + (String.ofList (tagWithMark tag)).utf8ByteSize)

/-- Keys that stand on one line with the beginning of their value. -/
def isSimpleKey (key : Node) : Bool := key.keyLength?.any (· ≤ 128)

mutual

/-- Write a node after its tag into a collection at column `outer`; nothing if a tag stands on a
tag. -/
def write (inMapping asKey : Bool) (outer : Option Nat) (tag : Option String) :
    Node → Page → Option Page
  | null, page => some ((page.tag tag).plain "null".toList)
  | bool b, page => some ((page.tag tag).plain (toString b).toList)
  | number n, page => some ((page.tag tag).plain (numberText n).toList)
  | string s, page => some ((page.tag tag).string asKey (scalarColumn outer) s)
  | sequence items, page =>
    let page := page.tag tag
    if items.isEmpty then some (page.plain ['[', ']'])
    else
      let column := if inMapping && !page.fresh then outer.getD 0 else nestedColumn outer
      writeItems column items page
  | mapping entries, page =>
    let page := page.tag tag
    if entries.isEmpty then some (page.plain ['\x7b', '\x7d'])
    else writeEntries (nestedColumn outer) entries page
  | tagged inner value, page =>
    if tag.isSome then none else write inMapping asKey outer (some inner) value page

/-- Write items, each after a dash. -/
def writeItems (column : Nat) : List Node → Page → Option Page
  | [], page => some page
  | item :: rest, page => do
    let page ← write false false (some column) none item ((page.indent column).bullet '-')
    writeItems column rest page

/-- Write entries. A key of several lines stands after a question mark and its value after a colon
on a new line. -/
def writeEntries (column : Nat) : List (Node × Node) → Page → Option Page
  | [], page => some page
  | (key, value) :: rest, page => do
    let page := page.indent column
    let page ←
      if key.isSimpleKey then
        (write true true (some column) none key page).map fun page => page.mark [':']
      else
        (write true false (some column) none key (page.bullet '?')).map fun page =>
          (page.indent column).bullet ':'
    let page ← write true false (some column) none value page
    writeEntries column rest page

end

/-- The block notation of a node; nothing if a tag stands directly on a tag. -/
def blockText? (node : Node) : Option String :=
  (write false false none none node .empty).map Page.text

/-! ## Spelling out -/

/-- Parts between commas. -/
def commaSeparated (parts : List String) : String := ", ".intercalate parts

mutual

/-- The node with the names of its parts. -/
def outline : Node → String
  | null => "Null"
  | bool b => "Bool(" ++ toString b ++ ")"
  | number n => "Number(" ++ numberText n ++ ")"
  | string s => "String(" ++ Text.quoted s ++ ")"
  | sequence items => "Sequence [" ++ commaSeparated (outlineItems items) ++ "]"
  | mapping entries => "Mapping \x7b" ++ commaSeparated (outlineEntries entries) ++ "\x7d"
  | tagged tag value =>
    "TaggedValue \x7b tag: !" ++ tagName tag ++ ", value: " ++ value.outline ++ " \x7d"

def outlineItems : List Node → List String
  | [] => []
  | item :: rest => item.outline :: outlineItems rest

/-- Entries, in which keys that are booleans, numbers or strings stand for themselves. -/
def outlineEntries : List (Node × Node) → List String
  | [] => []
  | (key, value) :: rest =>
    let name := match key with
      | bool b => toString b
      | number n => numberText n
      | string s => Text.quoted s
      | key => key.outline
    (name ++ ": " ++ value.outline) :: outlineEntries rest

end

/-- The text of a node that is a key: its block notation without the end of the last line where it
has one. -/
def text (node : Node) : String :=
  match node.blockText? with
  | some text => Text.trimEnd text
  | none => node.outline

end Node

end DocModel.Yaml
