import DocModel.Text.Character
import DocModel.Yaml.Cursor

set_option autoImplicit false

/-! # The texts of scalars

Scalars in quotes and without are runs of characters with gaps between them. A gap within a line
stays as it is, and a gap with line ends is folded: one line end becomes a space and of several the
first is dropped. A block scalar is the lines below its head that are indented far enough. Every
loop reads a character or a line in each turn, so the length of the text bounds the turns. -/

namespace DocModel.Yaml.Token

/-! ## Gaps -/

/-- Spacing between two runs of characters: the blanks before the first line end, the first line end
and the others. `broken` says that a line ended, which may have been an escaped line end. -/
structure Gap where
  blanks : List Char
  first : List Char
  others : List Char
  broken : Bool
deriving Inhabited

namespace Gap

def empty : Gap := ⟨[], [], [], false⟩

/-- The gap after an escaped line end. -/
def escaped : Gap := { empty with broken := true }

/-- What a gap stands for. A separator of the Unicode standard is never folded. -/
def text (gap : Gap) : List Char :=
  if !gap.broken then gap.blanks
  else if gap.first = ['\n'] then (if gap.others.isEmpty then [' '] else gap.others)
  else gap.first ++ gap.others

/-- Read the rest of a gap. After a line end no tab may stand before the column `tabsFrom`. -/
def read? (tabsFrom : Nat) : (turns : Nat) → Gap → Cursor → Option (Gap × Cursor)
  | 0, gap, c => some (gap, c)
  | turns + 1, gap, c =>
    match c.next? with
    | none => some (gap, c)
    | some ch =>
      if isBlank ch then
        if gap.broken && c.column < tabsFrom && ch == '\t' then none
        else
          let gap := if gap.broken then gap else { gap with blanks := gap.blanks ++ [ch] }
          read? tabsFrom turns gap (c.advance 1)
      else if isBreak ch then
        let (ending, c) := c.takeBreak
        let gap :=
          if gap.broken then { gap with others := gap.others ++ ending }
          else { gap with first := ending, broken := true }
        read? tabsFrom turns gap c
      else some (gap, c)

end Gap

/-! ## Quoted scalars -/

/-- The character with the code of `n` hexadecimal digits. -/
def escapedCode? (n : Nat) (c : Cursor) : Option (Char × Cursor) :=
  let digits := c.rest.take n
  if digits.length = n then
    match Text.natural? 16 digits with
    | some code => if code.isValidChar then some (.ofNat code, c.advance n) else none
    | none => none
  else none

/-- The character of an escape after its backslash. -/
def escape? (c : Cursor) : Option (Char × Cursor) :=
  let found (ch : Char) : Option (Char × Cursor) := some (ch, c.advance 1)
  match c.next? with
  | some '0' => found '\x00'
  | some 'a' => found '\x07'
  | some 'b' => found '\x08'
  | some 't' | some '\t' => found '\t'
  | some 'n' => found '\n'
  | some 'v' => found '\x0b'
  | some 'f' => found '\x0c'
  | some 'r' => found '\r'
  | some 'e' => found '\x1b'
  | some ' ' => found ' '
  | some '\"' => found '\"'
  | some '/' => found '/'
  | some '\\' => found '\\'
  | some 'N' => found '\u0085'
  | some '_' => found '\u00a0'
  | some 'L' => found '\u2028'
  | some 'P' => found '\u2029'
  | some 'x' => escapedCode? 2 (c.advance 1)
  | some 'u' => escapedCode? 4 (c.advance 1)
  | some 'U' => escapedCode? 8 (c.advance 1)
  | _ => none

/-- The rest of a quoted scalar; `done` holds its characters in reverse. In single quotes a quote
is written twice, in double quotes a backslash begins an escape. No document marker may stand
inside. -/
def quotedRest? (quote : Char) : (turns : Nat) → List Char → Cursor → Option (String × Cursor)
  | 0, _, _ => none
  | turns + 1, done, c =>
    if c.atDocumentMarker then none
    else
      match c.next? with
      | none => none
      | some ch =>
        if ch = quote then
          if quote = '\'' ∧ c.rest[1]? = some '\'' then
            quotedRest? quote turns ('\'' :: done) (c.advance 2)
          else some (String.ofList done.reverse, c.advance 1)
        else if ch = '\\' ∧ quote = '\"' then
          if c.rest[1]?.any isBreak then
            let c := (c.advance 1).skipBreak
            match Gap.read? 0 turns .escaped c with
            | some (gap, c) => quotedRest? quote turns (gap.text.reverse ++ done) c
            | none => none
          else
            match escape? (c.advance 1) with
            | some (ch, c) => quotedRest? quote turns (ch :: done) c
            | none => none
        else if isSpacing ch then
          match Gap.read? 0 turns .empty c with
          | some (gap, c) => quotedRest? quote turns (gap.text.reverse ++ done) c
          | none => none
        else quotedRest? quote turns (ch :: done) (c.advance 1)

/-- The scalar at a quote. -/
def quoted? (quote : Char) (c : Cursor) : Option (String × Cursor) :=
  quotedRest? quote (c.rest.length + 1) [] (c.advance 1)

/-! ## Plain scalars -/

/-- How many characters of a plain scalar stand here without a gap, after `read` others. In flow
notation a colon in front of an indicator is refused. -/
def plainRun? (flow : Bool) (read : Nat) : List Char → Option Nat
  | [] => some read
  | ch :: rest =>
    if isSpacing ch then some read
    else if flow && ch == ':' && rest.head?.any ",?[]\x7b\x7d".toList.contains then none
    else if (ch == ':' && endsWord rest.head?) || (flow && ",[]\x7b\x7d".toList.contains ch) then
      some read
    else plainRun? flow (read + 1) rest

/-- The rest of a plain scalar after a gap. The scalar goes on unless a comment, a document marker
or, in block notation, a line that is not indented to the column `indent` follows. The gap after
the last run does not belong to it; the answer says whether a line ended there. -/
def plainRest? (flow : Bool) (indent : Nat) :
    (turns : Nat) → List Char → Gap → Cursor → Option (String × Bool × Cursor)
  | 0, _, _, _ => none
  | turns + 1, done, gap, c =>
    let stop (done : List Char) (gap : Gap) (c : Cursor) : Option (String × Bool × Cursor) :=
      some (String.ofList done.reverse, gap.broken, c)
    if c.atDocumentMarker || c.next? == some '#' then stop done gap c
    else
      match plainRun? flow 0 c.rest with
      | none => none
      | some 0 => stop done gap c
      | some n =>
        let done := (c.rest.take n).reverse ++ gap.text.reverse ++ done
        let c := c.advance n
        if c.next?.any isSpacing then
          match Gap.read? indent turns .empty c with
          | none => none
          | some (gap, c) =>
            if !flow && c.column < indent then stop done gap c
            else plainRest? flow indent turns done gap c
        else stop done .empty c

/-- The plain scalar that begins here. -/
def plain? (flow : Bool) (indent : Nat) (c : Cursor) : Option (String × Bool × Cursor) :=
  plainRest? flow indent (c.rest.length + 1) [] .empty c

/-! ## Block scalars -/

/-- What becomes of the line ends at the end of a block. -/
inductive Chomping where
  | strip
  | clip
  | keep
deriving DecidableEq, Inhabited

def chomping? (c : Cursor) : Option Chomping :=
  match c.next? with
  | some '+' => some .keep
  | some '-' => some .strip
  | _ => none

/-- The head of a block after its indicator: a sign for the chomping and a digit for the
indentation, in either order, and both may be absent. The digit is not zero. -/
def blockHead? (c : Cursor) : Option (Chomping × Option Nat × Cursor) := do
  let sign (c : Cursor) : Option Chomping × Cursor :=
    match chomping? c with
    | some chomping => (some chomping, c.advance 1)
    | none => (none, c)
  let (before, c) := sign c
  let (digit, c) := match c.next?.bind (Text.digit? 10) with
    | some digit => (some digit, c.advance 1)
    | none => (none, c)
  let (after, c) := if before.isNone && digit.isSome then sign c else (none, c)
  if digit = some 0 then none
  else
    let c ← c.finishLine?
    some ((before.or after).getD .clip, digit, c)

/-- The empty lines in front: their line ends, the largest column that spaces reach, and the place
in front of the next line, at most `indent` columns into it if an indentation is known. A tab does
not count as indentation. -/
def blockBreaks? (indent : Option Nat) :
    (turns : Nat) → List Char → (widest : Nat) → Cursor → Option (List Char × Nat × Cursor)
  | 0, breaks, widest, c => some (breaks, widest, c)
  | turns + 1, breaks, widest, c =>
    let spaces := (c.rest.takeWhile (· == ' ')).length
    let spaces := match indent with
      | some indent => min spaces (indent - c.column)
      | none => spaces
    let c := c.advance spaces
    let widest := max widest c.column
    if indent.all (c.column < ·) && c.next? == some '\t' then none
    else if c.next?.any isBreak then
      let (ending, c) := c.takeBreak
      blockBreaks? indent turns (breaks ++ ending) widest c
    else some (breaks, widest, c)

/-- The lines of a block. `ending` is the line end of the last line and `breaks` those of the empty
lines after it. Folding makes a space of the end of a line unless that line or the next begins with
a blank. -/
def blockLines? (literal : Bool) (indent : Nat) :
    (turns : Nat) → (text ending breaks : List Char) → (afterBlank : Bool) → Cursor →
      Option (List Char × List Char × List Char × Cursor)
  | 0, text, ending, breaks, _, c => some (text, ending, breaks, c)
  | turns + 1, text, ending, breaks, afterBlank, c =>
    if c.column = indent ∧ c.rest ≠ [] then
      let blank := c.next?.any isBlank
      let joint :=
        if !literal && ending == ['\n'] && !afterBlank && !blank then
          if breaks.isEmpty then [' '] else breaks
        else ending ++ breaks
      let (line, c) := c.takeWhile fun ch => !isBreak ch
      let (ending, c) := c.takeBreak
      match blockBreaks? (some indent) turns [] 0 c with
      | some (breaks, _, c) =>
        blockLines? literal indent turns (text ++ joint ++ line) ending breaks blank c
      | none => none
    else some (text, ending, breaks, c)

/-- The block scalar at its indicator inside a collection at column `outer`. An indentation that is
not given is that of the first line that is not empty, or of an empty line that is wider. -/
def block? (literal : Bool) (outer : Option Nat) (c : Cursor) : Option (String × Cursor) := do
  let (chomping, digit, c) ← blockHead? (c.advance 1)
  let given := digit.map (outer.getD 0 + ·)
  let (breaks, widest, c) ← blockBreaks? given (c.rest.length + 1) [] 0 c
  let least := match outer with
    | some column => column + 1
    | none => 1
  let indent := given.getD (max widest least)
  let (text, ending, breaks, c) ←
    blockLines? literal indent (c.rest.length + 1) [] [] breaks false c
  let tail := match chomping with
    | .strip => []
    | .clip => ending
    | .keep => ending ++ breaks
  some (String.ofList (text ++ tail), c)

end DocModel.Yaml.Token
