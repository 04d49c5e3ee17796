/-
Character classes and case mappings. ASCII is decided by the classes of `Char`; everything beyond it
by the tables of Unicode properties.
-/
import BuilderSpec.Unicode.Alphabetic
import BuilderSpec.Unicode.Number
import BuilderSpec.Unicode.Uppercase
import BuilderSpec.Unicode.Lowercase
import BuilderSpec.Unicode.CaseMap

namespace BuilderSpec.Unicode

/-- The character is one of the 128 of ASCII. -/
def isAscii (c : Char) : Bool :=
  c.toNat < 0x80

/-! ## Classes -/

/-- Letters, letter numbers and signs used as letters. -/
def isAlphabetic (c : Char) : Bool :=
  if isAscii c then c.isAlpha else alphabeticSet.contains c.toNat

/-- Numerals of every kind, not only decimal digits. -/
def isNumber (c : Char) : Bool :=
  if isAscii c then c.isDigit else numberSet.contains c.toNat

def isAlphanumeric (c : Char) : Bool :=
  isAlphabetic c || isNumber c

/-- Upper-case characters; a titlecase letter is neither upper nor lower case. -/
def isUppercase (c : Char) : Bool :=
  if isAscii c then c.isUpper else uppercaseSet.contains c.toNat

def isLowercase (c : Char) : Bool :=
  if isAscii c then c.isLower else lowercaseSet.contains c.toNat

/-! ## Case mappings -/

/-- The upper-case form of a character, which may be several characters. -/
def upper (c : Char) : List Char :=
  if isAscii c then [c.toUpper] else (upperMap.apply c.toNat).map Char.ofNat

/-- The lower-case form of a character, which may be several characters. -/
def lower (c : Char) : List Char :=
  if isAscii c then [c.toLower] else (lowerMap.apply c.toNat).map Char.ofNat

/-! ## The classes on ASCII -/

section

variable {c : Char} (h : isAscii c = true)
include h

theorem isAlphabetic_of_isAscii : isAlphabetic c = c.isAlpha := by simp [isAlphabetic, h]

theorem isNumber_of_isAscii : isNumber c = c.isDigit := by simp [isNumber, h]

theorem isAlphanumeric_of_isAscii : isAlphanumeric c = (c.isAlpha || c.isDigit) := by
  simp [isAlphanumeric, isAlphabetic_of_isAscii h, isNumber_of_isAscii h]

theorem isUppercase_of_isAscii : isUppercase c = c.isUpper := by simp [isUppercase, h]

theorem isLowercase_of_isAscii : isLowercase c = c.isLower := by simp [isLowercase, h]

theorem upper_of_isAscii : upper c = [c.toUpper] := by simp [upper, h]

theorem lower_of_isAscii : lower c = [c.toLower] := by simp [lower, h]

end

end BuilderSpec.Unicode
