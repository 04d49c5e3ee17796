/-
The names that go with one property, and the two ways to find them: from the property's own name,
and from the getter that reads it.
-/
import BuilderSpec.Naming.Casing
import BuilderSpec.Naming.Identifier
import BuilderSpec.Json

namespace BuilderSpec.Naming

open Unicode

/-- How a getter's name begins: `is` for a boolean property, `get` for any other. -/
def getterWord (boolean : Bool) : String :=
  if boolean then "is" else "get"

/-- The name of the getter that reads the property `name`. -/
def getterName (name : String) (boolean : Bool) : String :=
  getterWord boolean ++ capitalize name

/-- The spellings of one property's name. -/
structure NameForms where
  name : String
  capitalizedName : String
  allCapsName : String
  getterName : String
deriving DecidableEq

namespace NameForms

/-- The names that follow from a property's own name. -/
def ofName (name : String) (boolean : Bool) : NameForms :=
  ⟨name, capitalize name, allCaps name, Naming.getterName name boolean⟩

/-- What follows the word `get`, or else `is`, at the beginning of a getter's name. -/
def getterStem? (getter : List Char) : Option (List Char) :=
  match (getterWord false).toList.isPrefixOf? getter with
  | some stem => some stem
  | none => (getterWord true).toList.isPrefixOf? getter

/-- The names that follow from a getter's name. There are none unless the getter goes on with an
identifier that begins in upper case. -/
def ofGetter? (getter : String) : Option NameForms :=
  match getterStem? getter.toList with
  | none => none
  | some stem =>
    if stem.head?.any isUppercase && isIdentifierChars stem then
      let name := decapitalize (.ofList stem)
      some ⟨name, capitalize name, allCaps name, getter⟩
    else none

/-- The names as a record, in the order in which they are declared. -/
def toJson (n : NameForms) : Json :=
  .object [("name", .string n.name), ("capitalized_name", .string n.capitalizedName),
    ("all_caps_name", .string n.allCapsName), ("getter_name", .string n.getterName)]

end NameForms

end BuilderSpec.Naming
