/-
Texts between quotes, for a reader who inspects a value: whatever would not show on its own is
written as an escape.
-/
import BuilderSpec.Unicode.GraphemeExtend
import BuilderSpec.Unicode.Unprintable

namespace BuilderSpec.Text

open Unicode

/-- The Hangul fillers: letters that hold the place of a letter and are blank themselves. -/
def isFiller (c : Char) : Bool :=
  c == '\u115f' || c == '\u1160' || c == '\u3164' || c == '\uffa0'

/-- The two sound marks of halfwidth Katakana, which belong to the character before them and yet
take up a place of their own. -/
def isHalfwidthMark (c : Char) : Bool :=
  c == '\uff9e' || c == '\uff9f'

/-- Whether a character is drawn inside the place of the one before it. -/
def attaches (c : Char) : Bool :=
  graphemeExtendSet.contains c.toNat && !isHalfwidthMark c

/-- Whether a character draws nothing. -/
def isBlank (c : Char) : Bool :=
  isFiller c || unprintableSet.contains c.toNat

/-- Characters that show: in ASCII those from the blank to the tilde, beyond it those that draw
something in a place of their own. -/
def shows (c : Char) : Bool :=
  if c.toNat < 0x80 then 0x20 ≤ c.toNat && c.toNat < 0x7f
  else !(attaches c || isBlank c)

/-- A character by its code point: in lower-case hexadecimal, without leading zeros. -/
def codePointEscape (c : Char) : List Char :=
  ['\\', 'u', '\x7b'] ++ Nat.toDigits 16 c.toNat ++ ['\x7d']

/-- A character inside a quoted text. The quote and the backslash are escaped, and so is every
character that does not show: four by a letter or digit, the others by their code point. -/
def escape (c : Char) : List Char :=
  if c = '"' then ['\\', '"']
  else if c = '\\' then ['\\', '\\']
  else if c = '\x00' then ['\\', '0']
  else if c = '\x09' then ['\\', 't']
  else if c = '\x0a' then ['\\', 'n']
  else if c = '\x0d' then ['\\', 'r']
  else if shows c then [c]
  else codePointEscape c

/-- A text between quotes. -/
def quote (text : String) : String :=
  .ofList ('"' :: (text.toList.flatMap escape ++ ['"']))

end BuilderSpec.Text
