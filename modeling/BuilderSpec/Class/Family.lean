/-
The classes that are generated for one user type: a builder, and inside it the value class, the
partial class and the property enumeration.
-/
import BuilderSpec.Class.Basic
import BuilderSpec.Conventions.Basic

namespace BuilderSpec

/-- The classes generated for one user type. -/
structure ClassFamily where
  builder : GeneratedClass
  valueClass : GeneratedClass
  partialClass : GeneratedClass
  propertyEnum : GeneratedClass
deriving DecidableEq

namespace ClassFamily

/-- Why a family of classes cannot be named. -/
inductive NamingError where
  | identifier (e : InvalidIdentifier)
  | conventions (fault : Conventions.Fault)
deriving DecidableEq

def NamingError.message : NamingError → String
  | identifier e => e.message
  | conventions fault => fault.message

/-- The member of the family with a nested role. -/
def nested (f : ClassFamily) : NestedRole → GeneratedClass
  | .valueClass => f.valueClass
  | .partialClass => f.partialClass
  | .propertyEnum => f.propertyEnum

/-- A nested class may not have the name of the builder around it. -/
def builderNameFault? (conventions : Conventions) (builder : GeneratedClass) :
    Option Conventions.Fault :=
  (NestedRole.all.find? fun role => conventions.nestedName role == builder.simpleName).map
    fun role => .builderName role builder.simpleName

/-- Names the classes for the user type `name` of `package`: the builder at the top level of the
package, the others directly inside it. -/
def forType (package name : String) (conventions : Conventions) :
    Except NamingError ClassFamily := do
  conventions.validate.mapError .conventions
  let builder ← (GeneratedClass.topLevel? package (name ++ conventions.builderSuffix)).mapError
    .identifier
  if let some fault := builderNameFault? conventions builder then
    throw (.conventions fault)
  let member (role : NestedRole) : Except NamingError GeneratedClass :=
    (builder.nested? (conventions.nestedName role)).mapError .identifier
  return {
    builder
    valueClass := ← member .valueClass
    partialClass := ← member .partialClass
    propertyEnum := ← member .propertyEnum }

end ClassFamily

end BuilderSpec
