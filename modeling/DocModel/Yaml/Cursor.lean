import DocModel.Yaml.Character

set_option autoImplicit false

/-! # Cursors

A place in a text: the part that is unread, and how much was read in characters and in lines.
Line ends are read as line feeds, two characters where a carriage return stands before a line
feed, and only the separators of the Unicode standard stay as they are. -/

namespace DocModel.Yaml

structure Cursor where
  rest : List Char
  index : Nat
  line : Nat
  column : Nat
deriving Inhabited

namespace Cursor

/-- The place in front of a text. -/
def start (text : List Char) : Cursor := ⟨text, 0, 0, 0⟩

/-- The next character. -/
def next? (c : Cursor) : Option Char := c.rest.head?

/-- The place after `n` characters of the line. -/
def advance (c : Cursor) (n : Nat) : Cursor :=
  ⟨c.rest.drop n, c.index + n, c.line, c.column + n⟩

/-- The characters up to the first one outside the class; the class holds no line ends. -/
def takeWhile (c : Cursor) (p : Char → Bool) : List Char × Cursor :=
  let chars := c.rest.takeWhile p
  (chars, c.advance chars.length)

def skipWhile (c : Cursor) (p : Char → Bool) : Cursor := (c.takeWhile p).2

/-- The place at the start of the next line, `n` characters ahead. -/
def nextLine (c : Cursor) (n : Nat) : Cursor := ⟨c.rest.drop n, c.index + n, c.line + 1, 0⟩

/-- The line end in front, if there is one, as it is read. -/
def takeBreak (c : Cursor) : List Char × Cursor :=
  match c.rest with
  | '\r' :: '\n' :: _ => (['\n'], c.nextLine 2)
  | ch :: _ =>
    if isSeparator ch then ([ch], c.nextLine 1)
    else if isBreak ch then (['\n'], c.nextLine 1)
    else ([], c)
  | [] => ([], c)

/-- The place after the line end in front, if there is one. -/
def skipBreak (c : Cursor) : Cursor := c.takeBreak.2

/-- The text or a line ends here. -/
def atLineEnd (c : Cursor) : Bool := c.next?.all isBreak

/-- A word ends here. -/
def atWordEnd (c : Cursor) : Bool := endsWord c.next?

/-- The place after a comment, if one begins here. -/
def skipComment (c : Cursor) : Cursor :=
  if c.next? = some '#' then c.skipWhile fun ch => !isBreak ch else c

/-- The place behind what may stand after a directive or the head of a block: blanks, a comment
and the end of the line. -/
def finishLine? (c : Cursor) : Option Cursor :=
  let c := (c.skipWhile isBlank).skipComment
  if c.atLineEnd then some c.skipBreak else none

/-- Three equal characters, a word for themselves, stand at the start of a line. -/
def atMarker (c : Cursor) (mark : Char) : Bool :=
  c.column == 0 && c.rest.take 3 == [mark, mark, mark] && endsWord c.rest[3]?

/-- A document starts or ends here by its marker. -/
def atDocumentMarker (c : Cursor) : Bool := c.atMarker '-' || c.atMarker '.'

end Cursor

end DocModel.Yaml
