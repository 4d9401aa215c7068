set_option autoImplicit false

/-! # Pages

Text under construction in block notation. Whether a line is broken or a space is needed depends
only on the column and on what was written last, so a page keeps these beside its text. -/

namespace DocModel.Yaml

/-- The text so far, its last character first; `column` counts the characters of the last line,
`spaced` says that no space is needed before the next word, and `fresh` that the last line holds
nothing but indentation and indicators. -/
structure Page where
  reversed : List Char
  column : Nat
  spaced : Bool
  fresh : Bool
deriving Inhabited

namespace Page

def empty : Page := ⟨[], 0, true, true⟩

def text (page : Page) : String := String.ofList page.reversed.reverse

/-- Write characters of the current line. -/
def put (page : Page) (chars : List Char) : Page :=
  { page with
    reversed := chars.reverse ++ page.reversed
    column := page.column + chars.length }

/-- Write a character that ends the line. -/
def putBreak (page : Page) (c : Char) : Page :=
  { page with reversed := c :: page.reversed, column := 0 }

/-- Write a space unless there is spacing already. -/
def space (page : Page) : Page := if page.spaced then page else page.put [' ']

/-- Go to a column, on a new line unless the current one can still be indented that far. -/
def indent (page : Page) (column : Nat) : Page :=
  let page :=
    if !page.fresh || page.column > column || (page.column == column && !page.spaced) then
      page.putBreak '\n'
    else page
  { page.put (List.replicate (column - page.column) ' ') with spaced := true, fresh := true }

/-- Write an indicator that a nested collection may follow on the same line. -/
def bullet (page : Page) (c : Char) : Page :=
  { page.space.put [c] with spaced := false }

/-- Write characters after which a word needs a space. -/
def mark (page : Page) (chars : List Char) : Page :=
  { page.put chars with spaced := false, fresh := false }

end Page

end DocModel.Yaml
