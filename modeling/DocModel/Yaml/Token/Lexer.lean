import DocModel.Yaml.Token.Scalar
import DocModel.Yaml.Token.Tag

set_option autoImplicit false

/-! # Tokens of a text

The tokens of a text in their order. Two things are known only after the fact. A node is a key on
one line with its value if a colon follows it, so the place of every node that may turn out to be
one is remembered, and the token for the key is inserted there once the colon is met. And a
collection in block notation ends where a line is indented less, so the columns of the open
collections are kept. -/

namespace DocModel.Yaml

/-- A node that is a key if a colon follows it: the number of its first token and its place. In
block notation a node at the column of its mapping is nothing else than a key, so the colon is
required. -/
structure PossibleKey where
  required : Bool
  tokenNumber : Nat
  index : Nat
  line : Nat
  column : Nat
deriving Inhabited

/-- A possible key is too old when it is on another line or more than 1024 characters away. -/
def PossibleKey.isStale (key : PossibleKey) (c : Cursor) : Bool :=
  key.line < c.line || key.index + 1024 < c.index

/-- Tokens of a part of a text. `columns` are the columns of the open collections in block
notation, the innermost first; `key` is the possible key at the current level of flow notation and
`outerKeys` those of the levels around it; `keyAllowed` says that a key may begin here. -/
structure Lexer where
  cursor : Cursor
  tokens : Array Token
  columns : List Nat
  keyAllowed : Bool
  key : Option PossibleKey
  outerKeys : List (Option PossibleKey)
deriving Inhabited

namespace Lexer

/-- In front of a text. -/
def start (text : List Char) : Lexer := ⟨.start text, #[], [], true, none, []⟩

/-- Inside a collection in flow notation. -/
def inFlow (s : Lexer) : Bool := !s.outerKeys.isEmpty

/-- The least column of what is inside the innermost collection in block notation. -/
def innerColumn (s : Lexer) : Nat :=
  match s.columns with
  | column :: _ => column + 1
  | [] => 0

/-- Add a token and go on at `cursor`. -/
def push (s : Lexer) (token : Token) (cursor : Cursor) : Lexer :=
  { s with tokens := s.tokens.push token, cursor }

/-- Add the token of `n` characters. -/
def pushIndicator (s : Lexer) (token : Token) (n : Nat) : Lexer :=
  s.push token (s.cursor.advance n)

def allowKey (s : Lexer) (allowed : Bool) : Lexer := { s with keyAllowed := allowed }

/-! ## Possible keys -/

/-- Give the possible key up, which must not be required. -/
def dropKey? (s : Lexer) : Option Lexer :=
  if s.key.any (·.required) then none else some { s with key := none }

/-- Remember that a key may begin here. -/
def saveKey? (s : Lexer) : Option Lexer :=
  if s.keyAllowed then
    (dropKey? s).map fun s =>
      let required := !s.inFlow && s.columns.head? == some s.cursor.column
      let c := s.cursor
      { s with key := some ⟨required, s.tokens.size, c.index, c.line, c.column⟩ }
  else some s

/-- Give up one possible key if it is too old; a required one must not be. -/
def refresh? (c : Cursor) : Option PossibleKey → Option (Option PossibleKey)
  | some key =>
    if !key.isStale c then some (some key) else if key.required then none else some none
  | none => some none

/-- Give up all possible keys that are too old. -/
def dropStale? (s : Lexer) : Option Lexer := do
  let key ← refresh? s.cursor s.key
  let outerKeys ← s.outerKeys.mapM (refresh? s.cursor)
  some { s with key, outerKeys }

/-! ## Indentation -/

/-- Close the collections to the right of a column; all of them without a column. -/
def close (s : Lexer) (column : Option Nat) : Lexer :=
  if s.inFlow then s
  else
    let closed := s.columns.takeWhile fun inner => column.all (· < inner)
    { s with
      columns := s.columns.drop closed.length
      tokens := s.tokens ++ closed.map fun _ => Token.blockEnd }

/-- Open a collection at a column unless one is open there, with its token at a position. -/
def openAt (s : Lexer) (column position : Nat) (token : Token) : Lexer :=
  if !s.inFlow && s.columns.head?.all (· < column) then
    { s with
      columns := column :: s.columns
      tokens := s.tokens.insertIdxIfInBounds position token }
  else s

/-- Open a collection here. -/
def openHere (s : Lexer) (token : Token) : Lexer :=
  s.openAt s.cursor.column s.tokens.size token

/-! ## Spacing -/

/-- Go to the next token over spacing and comments. Tabs are no indentation where a key may begin,
and on a new line in block notation a key may begin. -/
def skipSpacing : (turns : Nat) → Lexer → Lexer
  | 0, s => s
  | turns + 1, s =>
    let c := s.cursor
    let c := if c.column == 0 && c.next? == some '\ufeff' then c.advance 1 else c
    let skipsTabs := s.inFlow || !s.keyAllowed
    let c := (c.skipWhile fun ch => ch == ' ' || (skipsTabs && ch == '\t')).skipComment
    if c.next?.any isBreak then
      skipSpacing turns { s with cursor := c.skipBreak, keyAllowed := s.keyAllowed || !s.inFlow }
    else { s with cursor := c }

/-! ## Tokens -/

/-- A marker of a document or a directive: it closes all collections. -/
def closeAll? (s : Lexer) : Option Lexer := (dropKey? (s.close none)).map (·.allowKey false)

def directive? (s : Lexer) : Option Lexer := do
  let s ← closeAll? s
  let (token, c) ← Token.directive? s.cursor
  some (s.push token c)

def documentMarker? (s : Lexer) (token : Token) : Option Lexer :=
  (closeAll? s).map (·.pushIndicator token 3)

/-- The beginning of a collection in flow notation, which may itself be a key. -/
def flowStart? (s : Lexer) (token : Token) : Option Lexer :=
  (saveKey? s).map fun s =>
    ({ s with key := none, outerKeys := s.key :: s.outerKeys }.allowKey true).pushIndicator token 1

def flowEnd? (s : Lexer) (token : Token) : Option Lexer :=
  (dropKey? s).map fun s =>
    let s := match s.outerKeys with
      | key :: outerKeys => { s with key, outerKeys }
      | [] => s
    (s.allowKey false).pushIndicator token 1

def flowEntry? (s : Lexer) : Option Lexer :=
  (dropKey? s).map fun s => (s.allowKey true).pushIndicator .flowEntry 1

/-- A dash. In flow notation it is left to the grammar to refuse it. -/
def blockEntry? (s : Lexer) : Option Lexer :=
  if !s.inFlow && !s.keyAllowed then none
  else
    (dropKey? (s.openHere .blockSequenceStart)).map fun s =>
      (s.allowKey true).pushIndicator .blockEntry 1

/-- A question mark. -/
def key? (s : Lexer) : Option Lexer :=
  if !s.inFlow && !s.keyAllowed then none
  else
    (dropKey? (s.openHere .blockMappingStart)).map fun s =>
      (s.allowKey !s.inFlow).pushIndicator .key 1

/-- A colon. The possible key becomes a key, and a mapping opens at its column. -/
def value? (s : Lexer) : Option Lexer :=
  match s.key with
  | some key =>
    let s := { s with tokens := s.tokens.insertIdxIfInBounds key.tokenNumber .key, key := none }
    let s := s.openAt key.column key.tokenNumber .blockMappingStart
    some ((s.allowKey false).pushIndicator .value 1)
  | none =>
    if !s.inFlow && !s.keyAllowed then none
    else
      let s := s.openHere .blockMappingStart
      some ((s.allowKey !s.inFlow).pushIndicator .value 1)

/-- A token with which a node begins, and after which no key may begin on the line. -/
def nodeStart? (s : Lexer) (read? : Cursor → Option (Token × Cursor)) : Option Lexer := do
  let s ← saveKey? s
  let (token, c) ← read? s.cursor
  some ((s.allowKey false).push token c)

def quoted? (s : Lexer) (quote : Char) : Option Lexer :=
  nodeStart? s fun c => (Token.quoted? quote c).map fun (text, c) => (.scalar text false, c)

/-- A plain scalar. If a line ended behind it, a key may begin. -/
def plain? (s : Lexer) : Option Lexer := do
  let s ← saveKey? s
  let (text, lineEnded, c) ← Token.plain? s.inFlow s.innerColumn s.cursor
  some ((s.allowKey lineEnded).push (.scalar text true) c)

/-- A scalar in block notation, which is never a key. -/
def block? (s : Lexer) (literal : Bool) : Option Lexer := do
  let s ← dropKey? s
  let (text, c) ← Token.block? literal s.columns.head? s.cursor
  some ((s.allowKey true).push (.scalar text false) c)

/-- Whether a plain scalar may begin with this character. -/
def beginsPlain (inFlow : Bool) (ch : Char) (next : Option Char) : Bool :=
  !(isSpacing ch || "-?:,[]\x7b\x7d#&*!|>'\"%@\x60".toList.contains ch) ||
    (ch == '-' && !next.any isBlank) ||
    (!inFlow && (ch == '?' || ch == ':') && !endsWord next)

/-- The token that begins with `ch`. -/
def token? (s : Lexer) (ch : Char) : Option Lexer :=
  let c := s.cursor
  let next := c.rest[1]?
  if c.column == 0 && ch == '%' then directive? s
  else if c.atMarker '-' then documentMarker? s .documentStart
  else if c.atMarker '.' then documentMarker? s .documentEnd
  else if ch = '[' then flowStart? s .flowSequenceStart
  else if ch = '\x7b' then flowStart? s .flowMappingStart
  else if ch = ']' then flowEnd? s .flowSequenceEnd
  else if ch = '\x7d' then flowEnd? s .flowMappingEnd
  else if ch = ',' then flowEntry? s
  else if ch = '-' ∧ endsWord next then blockEntry? s
  else if ch = '?' ∧ (s.inFlow ∨ endsWord next) then key? s
  else if ch = ':' ∧ (s.inFlow ∨ endsWord next) then value? s
  else if ch = '*' then
    nodeStart? s fun c => (Token.anchorName? c).map fun (name, c) => (.alias name, c)
  else if ch = '&' then
    nodeStart? s fun c => (Token.anchorName? c).map fun (name, c) => (.anchor name, c)
  else if ch = '!' then nodeStart? s (Token.tag? s.inFlow)
  else if ch = '|' ∧ ¬ s.inFlow then block? s true
  else if ch = '>' ∧ ¬ s.inFlow then block? s false
  else if ch = '\'' ∨ ch = '\"' then quoted? s ch
  else if beginsPlain s.inFlow ch next then plain? s
  else none

/-- The end of the text, in front of which a line ends in any case. -/
def finish? (s : Lexer) : Option (List Token) :=
  (closeAll? s).map fun s => (s.tokens.push .streamEnd).toList

/-- The tokens of the rest of the text; every turn but the last reads a character. -/
def run? : (turns : Nat) → Lexer → Option (List Token)
  | 0, _ => none
  | turns + 1, s =>
    match dropStale? (s.skipSpacing turns) with
    | none => none
    | some s =>
      let s := s.close (some s.cursor.column)
      match s.cursor.next? with
      | none => finish? s
      | some ch =>
        match token? s ch with
        | some s => run? turns s
        | none => none

end Lexer

/-- The tokens of a text. -/
def Token.ofText? (text : String) : Option (List Token) :=
  let chars := text.toList
  if chars.all isAllowed then (Lexer.start chars).run? (chars.length + 2) else none

end DocModel.Yaml
