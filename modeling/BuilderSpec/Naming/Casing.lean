/-
The spellings of a property name: capitalized, decapitalized and in capitals with underscores
between the words.
-/
import BuilderSpec.Unicode.Character

namespace BuilderSpec.Naming

open Unicode

/-! ## The first letter -/

/-- `capitalize` over the characters of a text. -/
def capitalizeChars : List Char → List Char
  | [] => []
  | first :: rest => upper first ++ rest

/-- The text with its first character in upper case. -/
def capitalize (text : String) : String :=
  .ofList (capitalizeChars text.toList)

/-- `decapitalize` over the characters of a text. -/
def decapitalizeChars : List Char → List Char
  | [] => []
  | first :: rest =>
    if isUppercase first && rest.head?.any isUppercase then first :: rest
    else lower first ++ rest

/-- The text with its first character in lower case, except that a text which begins with two
upper-case characters is an acronym and stays as it is. -/
def decapitalize (text : String) : String :=
  .ofList (decapitalizeChars text.toList)

/-! ## Capitals with underscores -/

/-- Whether a word begins at `c`, between the character `before` it and the one `after` it. A word
begins at an upper-case character that follows a lower-case one or a digit, and at the last
upper-case character of a run when a lower-case one follows: `URLName` is `URL` and `Name`. -/
def beginsWord (before : Option Char) (c : Char) (after : Option Char) : Bool :=
  isUppercase c && before.any fun b =>
    isLowercase b || b.isDigit || (isUppercase b && after.any isLowercase)

/-- The rest of a text in capitals, `before` being the character that precedes it. -/
def allCapsChars (before : Option Char) : List Char → List Char
  | [] => []
  | c :: rest =>
    (if beginsWord before c rest.head? then ['_'] else []) ++ upper c ++ allCapsChars (some c) rest

/-- A camel-case text in capitals, with an underscore before each word but the first. -/
def allCaps (text : String) : String :=
  .ofList (allCapsChars none text.toList)

end BuilderSpec.Naming
