set_option autoImplicit false

/-! # Characters of a YAML stream

The classes that the notation is defined by. -/

namespace DocModel.Yaml

/-- Characters that a stream may hold: no control characters other than tabs and line ends, and no
code points that are no characters. -/
def isAllowed (c : Char) : Bool :=
  let n := c.toNat
  n == 0x09 || n == 0x0A || n == 0x0D || (0x20 ≤ n && n ≤ 0x7E) || n == 0x85 ||
    (0xA0 ≤ n && n ≤ 0xFFFD) || 0x10000 ≤ n

/-- Characters that are written as they are: line feeds and the visible characters of the basic
plane, without the byte order mark. -/
def isShown (c : Char) : Bool :=
  let n := c.toNat
  n == 0x0A || (0x20 ≤ n && n ≤ 0x7E) || (0xA0 ≤ n && n ≤ 0xFFFD && n != 0xFEFF)

/-- A space or a tab. -/
def isBlank (c : Char) : Bool := c == ' ' || c == '\t'

/-- Line separators of the Unicode standard that stay as they are when lines are folded. -/
def isSeparator (c : Char) : Bool := c == '\u2028' || c == '\u2029'

/-- A character that ends a line. -/
def isBreak (c : Char) : Bool := c == '\n' || c == '\r' || c == '\u0085' || isSeparator c

def isSpacing (c : Char) : Bool := isBlank c || isBreak c

/-- Characters of names. -/
def isWordChar (c : Char) : Bool := c.isAlphanum || c == '-' || c == '_'

/-- A word ends in front of this character: at spacing or at the end of the text. -/
def endsWord (next : Option Char) : Bool := next.all isSpacing

/-- Characters of tags; a percent sign stands for an escaped octet. -/
def isTagChar (c : Char) : Bool := isWordChar c || ";/?:@&=+$.%!~*'()".toList.contains c

/-- Characters of tags that stand between angle brackets. -/
def isVerbatimTagChar (c : Char) : Bool := isTagChar c || ",[]".toList.contains c

end DocModel.Yaml
