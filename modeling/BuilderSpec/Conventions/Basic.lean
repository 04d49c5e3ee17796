/-
Conventions for the names of generated classes, and what makes them usable.
-/
import BuilderSpec.Naming.Identifier
import BuilderSpec.Text.Inspect

namespace BuilderSpec

open Naming

/-- The three classes that are generated inside a builder. -/
inductive NestedRole where
  | valueClass
  | partialClass
  | propertyEnum
deriving DecidableEq

/-- The name under which conventions and specifications hold the class. -/
def NestedRole.key : NestedRole → String
  | valueClass => "value_class"
  | partialClass => "partial_class"
  | propertyEnum => "property_enum"

/-- The roles in the order in which they are checked. -/
def NestedRole.all : List NestedRole := [valueClass, partialClass, propertyEnum]

/-- How the classes generated for a user type are named. -/
structure Conventions where
  /-- Follows the name of the user type in the name of its builder. -/
  builderSuffix : String := "_Builder"
  /-- The class of finished values. -/
  valueClass : String := "Value"
  /-- The class of values that lack some properties. -/
  partialClass : String := "Partial"
  /-- The enumeration of the properties. -/
  propertyEnum : String := "Property"
deriving DecidableEq

namespace Conventions

/-- The conventions that hold where nothing else is said. -/
def standard : Conventions := {}

/-- The name that the conventions give to a nested class. -/
def nestedName (c : Conventions) : NestedRole → String
  | .valueClass => c.valueClass
  | .partialClass => c.partialClass
  | .propertyEnum => c.propertyEnum

/-- The conventions as a record. -/
def inspect (c : Conventions) : String :=
  Text.record "GenerationConventions" [("builder_suffix", Text.quote c.builderSuffix),
    ("value_class", Text.quote c.valueClass), ("partial_class", Text.quote c.partialClass),
    ("property_enum", Text.quote c.propertyEnum)]

/-! ## Validity -/

/-- Why conventions cannot be used. -/
inductive Fault where
  | emptySuffix
  | suffixCharacters (suffix : String)
  | invalidName (role : NestedRole) (name : String)
  | sharedName (first second : NestedRole) (name : String)
  | builderName (role : NestedRole) (name : String)
deriving DecidableEq

/-- What the fault is. -/
def Fault.detail : Fault → String
  | emptySuffix => "builder_suffix must not be empty"
  | suffixCharacters suffix =>
    "builder_suffix `" ++ suffix ++ "` contains characters not allowed in an identifier"
  | invalidName role name => role.key ++ " `" ++ name ++ "` is not a valid identifier"
  | sharedName first second name =>
    first.key ++ " and " ++ second.key ++ " both name `" ++ name ++ "`"
  | builderName role name => role.key ++ " `" ++ name ++ "` clashes with its enclosing builder"

def Fault.message (f : Fault) : String :=
  "invalid conventions: " ++ f.detail

/-- The suffix must hold a character, and only characters that may go on an identifier. -/
def suffixFault? (c : Conventions) : Option Fault :=
  if c.builderSuffix.isEmpty then some .emptySuffix
  else if c.builderSuffix.toList.all isIdentifierPart then none
  else some (.suffixCharacters c.builderSuffix)

/-- Each nested class must have an identifier for a name. -/
def nameFault? (c : Conventions) : Option Fault :=
  NestedRole.all.findSome? fun role =>
    if isIdentifier (c.nestedName role) then none
    else some (.invalidName role (c.nestedName role))

/-- Each two of the nested classes, in the order in which they are compared. -/
def rolePairs : List (NestedRole × NestedRole) :=
  [(.valueClass, .partialClass), (.valueClass, .propertyEnum), (.partialClass, .propertyEnum)]

/-- No two nested classes may have one name. -/
def sharedNameFault? (c : Conventions) : Option Fault :=
  rolePairs.findSome? fun (first, second) =>
    if c.nestedName first = c.nestedName second then
      some (.sharedName first second (c.nestedName first))
    else none

/-- The first fault: in the suffix, in a nested name, or between two nested names. -/
def fault? (c : Conventions) : Option Fault :=
  c.suffixFault? <|> c.nameFault? <|> c.sharedNameFault?

/-- Accepts conventions without a fault. -/
def validate (c : Conventions) : Except Fault Unit :=
  match c.fault? with
  | some fault => .error fault
  | none => .ok ()

theorem validate_eq_ok_iff {c : Conventions} : c.validate = .ok () ↔ c.fault? = none := by
  unfold validate
  cases c.fault? <;> simp

theorem validate_eq_error_iff {c : Conventions} {fault : Fault} :
    c.validate = .error fault ↔ c.fault? = some fault := by
  unfold validate
  cases c.fault? <;> simp

end Conventions

end BuilderSpec
