import DocModel.Text.Character
import DocModel.Yaml.Cursor
import DocModel.Yaml.Token

set_option autoImplicit false

/-! # Tags, anchors and directives

A tag is a handle and a suffix, or stands between angle brackets. A percent sign and two digits in
it stand for an octet, and the escaped octets of a tag have the form of encoded characters. -/

namespace DocModel.Yaml.Token

/-! ## Octets -/

/-- How many octets a character has whose first octet is given. -/
def encodedLength? (octet : Nat) : Option Nat :=
  if octet < 0x80 then some 1
  else if octet / 0x20 = 0x06 then some 2
  else if octet / 0x10 = 0x0E then some 3
  else if octet / 0x08 = 0x1E then some 4
  else none

/-- The escaped octet in front. -/
def octet? (c : Cursor) : Option (Nat × Cursor) :=
  match c.rest with
  | '%' :: high :: low :: _ =>
    match Text.digit? 16 high, Text.digit? 16 low with
    | some high, some low => some (high * 16 + low, c.advance 3)
    | _, _ => none
  | _ => none

/-- `n` more escaped octets of a character. -/
def continuation? : (n : Nat) → Cursor → Option (Octets × Cursor)
  | 0, c => some ([], c)
  | n + 1, c => do
    let (octet, c) ← octet? c
    if octet / 0x40 = 0x02 then
      let (octets, c) ← continuation? n c
      some (.ofNat octet :: octets, c)
    else none

/-- One escaped character. -/
def escapedCharacter? (c : Cursor) : Option (Octets × Cursor) := do
  let (octet, c) ← octet? c
  let length ← encodedLength? octet
  let (octets, c) ← continuation? (length - 1) c
  some (.ofNat octet :: octets, c)

/-- The octets of characters of a class and of escaped characters. Every turn reads a character. -/
def octetsWhile? (p : Char → Bool) : (turns : Nat) → Octets → Cursor → Option (Octets × Cursor)
  | 0, done, c => some (done, c)
  | turns + 1, done, c =>
    match c.next? with
    | some '%' =>
      match escapedCharacter? c with
      | some (octets, c) => octetsWhile? p turns (done ++ octets) c
      | none => none
    | some ch =>
      if p ch then octetsWhile? p turns (done ++ .ofChars [ch]) (c.advance 1) else some (done, c)
    | none => some (done, c)

/-- The octets up to the first one that is zero, where a tag ends. -/
def untilZero (octets : Octets) : Octets := octets.takeWhile (· ≠ 0)

/-- The octets of a tag; there are some unless `optional`. -/
def tagOctets? (p : Char → Bool) (optional : Bool) (c : Cursor) : Option (Octets × Cursor) :=
  match octetsWhile? p c.rest.length [] c with
  | some (octets, c) => if octets.isEmpty && !optional then none else some (untilZero octets, c)
  | none => none

/-! ## Tags -/

/-- The exclamation mark, the word after it, and the exclamation mark after that if there is
one. -/
def handle (c : Cursor) : List Char × Cursor :=
  let (name, c) := (c.advance 1).takeWhile isWordChar
  if c.next? = some '!' then ('!' :: name ++ ['!'], c.advance 1) else ('!' :: name, c)

/-- A tag between angle brackets. -/
def verbatimTag? (c : Cursor) : Option (Token × Cursor) := do
  let (suffix, c) ← tagOctets? isVerbatimTagChar false (c.advance 2)
  if c.next? = some '>' then some (.tag [] suffix, c.advance 1) else none

/-- A tag with a handle. A word after a single exclamation mark is the beginning of the suffix, and
the mark alone is a tag without a handle. -/
def shorthandTag? (c : Cursor) : Option (Token × Cursor) := do
  let (name, c) := handle c
  if name.length > 1 ∧ name.getLast? = some '!' then
    let (suffix, c) ← tagOctets? isTagChar false c
    some (.tag name suffix, c)
  else
    let (suffix, c) ← tagOctets? isTagChar true c
    let suffix := Octets.ofChars (name.drop 1) ++ suffix
    some (if suffix.isEmpty then .tag [] (.ofChars ['!']) else .tag ['!'] suffix, c)

/-- The tag at an exclamation mark. A word ends after it, or an item in flow notation. -/
def tag? (flow : Bool) (c : Cursor) : Option (Token × Cursor) := do
  let (token, c) ← if c.rest[1]? = some '<' then verbatimTag? c else shorthandTag? c
  if c.atWordEnd || (flow && c.next? == some ',') then some (token, c) else none

/-! ## Anchors -/

/-- The name after the mark of an anchor or an alias. -/
def anchorName? (c : Cursor) : Option (List Char × Cursor) :=
  let (name, c) := (c.advance 1).takeWhile isWordChar
  if name.isEmpty then none
  else if c.atWordEnd || c.next?.any "?:,]\x7d%@\x60".toList.contains then some (name, c)
  else none

/-! ## Directives -/

/-- A number of at most nine digits. -/
def versionNumber? (c : Cursor) : Option (Nat × Cursor) :=
  let (digits, c) := c.takeWhile Char.isDigit
  if digits.length > 9 then none else (Text.natural? 10 digits).map fun n => (n, c)

/-- Two numbers with a point between them. -/
def version? (c : Cursor) : Option (Token × Cursor) := do
  let (major, c) ← versionNumber? (c.skipWhile isBlank)
  if c.next? = some '.' then
    let (minor, c) ← versionNumber? (c.advance 1)
    some (.version major minor, c)
  else none

/-- A handle and what it stands for. -/
def tagHandle? (c : Cursor) : Option (Token × Cursor) := do
  let c := c.skipWhile isBlank
  if c.next? = some '!' then
    let (name, c) := handle c
    if (name = ['!'] ∨ (name.length > 1 ∧ name.getLast? = some '!')) ∧ c.next?.any isBlank then
      let (meaning, c) ← tagOctets? isVerbatimTagChar false (c.skipWhile isBlank)
      if c.atWordEnd then some (.tagHandle name meaning, c) else none
    else none
  else none

/-- The directive at a percent sign, with the end of its line. -/
def directive? (c : Cursor) : Option (Token × Cursor) := do
  let (name, c) := (c.advance 1).takeWhile isWordChar
  let (token, c) ←
    if !c.atWordEnd then none
    else if name = "YAML".toList then version? c
    else if name = "TAG".toList then tagHandle? c
    else none
  let c ← c.finishLine?
  some (token, c)

end DocModel.Yaml.Token
