/-
Identifiers and package names of the generated sources: which texts are allowed, and the types of
the texts that are.
-/
import BuilderSpec.Unicode.Character

namespace BuilderSpec.Naming

open Unicode

/-! ## Identifiers -/

/-- Characters that may begin an identifier: letters, the underscore and the dollar sign. -/
def isIdentifierStart (c : Char) : Bool :=
  isAlphabetic c || c == '_' || c == '$'

/-- Characters that may stand after the first: those that may begin one, and numerals. -/
def isIdentifierPart (c : Char) : Bool :=
  isAlphanumeric c || c == '_' || c == '$'

/-- `isIdentifier` over the characters of a text. -/
def isIdentifierChars : List Char → Bool
  | [] => false
  | first :: rest => isIdentifierStart first && rest.all isIdentifierPart

/-- A text that begins like an identifier and goes on like one. The empty text is none. -/
def isIdentifier (text : String) : Bool :=
  isIdentifierChars text.toList

theorem isIdentifierPart_of_start {c : Char} (h : isIdentifierStart c = true) :
    isIdentifierPart c = true := by
  simp only [isIdentifierStart, isIdentifierPart, isAlphanumeric, Bool.or_eq_true] at *
  rcases h with (h | h) | h <;> simp [h]

/-- A text that is an identifier. -/
structure Identifier where
  text : String
  valid : isIdentifier text = true
deriving DecidableEq

/-- The identifier with this text, if it is one. -/
def Identifier.ofString? (text : String) : Option Identifier :=
  if h : isIdentifier text = true then some ⟨text, h⟩ else none

theorem Identifier.ofString?_text (i : Identifier) : ofString? i.text = some i := by
  simp [ofString?, i.valid]

theorem Identifier.ofString?_eq_some_iff {text : String} {i : Identifier} :
    ofString? text = some i ↔ i.text = text := by
  constructor
  · intro h
    unfold ofString? at h
    split at h
    · cases h; rfl
    · cases h
  · rintro rfl; exact i.ofString?_text

/-! ## Packages -/

/-- The parts of a text between its dots; a text without a dot is its only part. -/
def dottedParts (text : String) : List String :=
  (text.toList.splitOn '.').map String.ofList

/-- Identifiers joined by dots, or the empty text, which names the default package. -/
def isPackageName (text : String) : Bool :=
  text.isEmpty || (dottedParts text).all isIdentifier

/-- A text that names a package. -/
structure PackageName where
  text : String
  valid : isPackageName text = true
deriving DecidableEq

/-- The package with this name, if it can have one. -/
def PackageName.ofString? (text : String) : Option PackageName :=
  if h : isPackageName text = true then some ⟨text, h⟩ else none

/-- A name inside a package: the default package adds nothing in front of it. -/
def qualify (package name : String) : String :=
  if package.isEmpty then name else package ++ "." ++ name

end BuilderSpec.Naming
