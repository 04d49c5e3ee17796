/-
Finished specifications of user types: all that is needed to generate a builder and the classes
inside it, what identifies a specification, and how it is written.
-/
import BuilderSpec.BuilderFactory
import BuilderSpec.Class.Family
import BuilderSpec.Property.Basic
import BuilderSpec.ObjectMethod
import BuilderSpec.Symbol.PackageTable

namespace BuilderSpec

/-- The description of one user type. -/
structure Specification (σ : Type) where
  /-- The table that knows the package of the user type. -/
  packages : TableRef
  declaringType : DeclRef
  /-- The builder that users see. -/
  builderType : DeclRef
  builderFactory : Option BuilderFactory
  /-- The classes to generate. -/
  classes : ClassFamily
  /-- The properties in the order of their declaration. -/
  properties : List (Property σ)
  /-- The methods of every object that the user type implements itself. -/
  ownMethods : MethodSet
  builderSerializable : Bool
  gwtSerializable : Bool

namespace Specification

variable {σ : Type}

/-! ## Reading off -/

/-- The package of the user type, as its table answers now. -/
def package (lookup : PackageLookup) (s : Specification σ) : Option String :=
  lookup s.packages s.declaringType

/-- The expression that makes a builder of the user's, if the user type offers one. -/
def builderInvocation (s : Specification σ) : Option String :=
  s.builderFactory.map fun factory => factory.invocation s.declaringType s.builderType

/-- The first property with a name. -/
def property? (s : Specification σ) (name : String) : Option (Property σ) :=
  s.properties.find? fun p => p.name == name

def propertyNames (s : Specification σ) : List String :=
  s.properties.map fun p => p.name

def hasOwn (s : Specification σ) (m : ObjectMethod) : Bool :=
  s.ownMethods.contains m

/-! ## Identity -/

/-- What identifies a specification: of its declarations and classes only the texts, and nothing of
its table. -/
structure View (σ : Type) where
  declaringType : String
  builderType : String
  builderFactory : Option BuilderFactory
  generatedBuilder : String
  valueClass : String
  partialClass : String
  propertyEnum : String
  properties : List (Property.View σ)
  ownMethods : MethodSet
  builderSerializable : Bool
  gwtSerializable : Bool
deriving DecidableEq

def view (s : Specification σ) : View σ where
  declaringType := s.declaringType.text
  builderType := s.builderType.text
  builderFactory := s.builderFactory
  generatedBuilder := s.classes.builder.qualifiedName
  valueClass := s.classes.valueClass.qualifiedName
  partialClass := s.classes.partialClass.qualifiedName
  propertyEnum := s.classes.propertyEnum.qualifiedName
  properties := s.properties.map Property.view
  ownMethods := s.ownMethods
  builderSerializable := s.builderSerializable
  gwtSerializable := s.gwtSerializable

/-- Specifications are the same when what identifies them is. -/
def same [DecidableEq σ] (s t : Specification σ) : Bool :=
  s.view = t.view

/-! ## Writing -/

section

variable [Strategy σ]

/-- The record that a specification is stored as. -/
def View.toJson (v : View σ) : Json :=
  .object [("declaring_type", .string v.declaringType), ("builder_type", .string v.builderType),
    ("builder_factory", .ofOption (v.builderFactory.map BuilderFactory.key)),
    ("generated_builder", .string v.generatedBuilder), ("value_class", .string v.valueClass),
    ("partial_class", .string v.partialClass), ("property_enum", .string v.propertyEnum),
    ("properties", .array (v.properties.map Property.View.toJson)),
    ("underridden_methods", .array (v.ownMethods.toList.map fun m => .string m.key)),
    ("builder_serializable", .boolean v.builderSerializable),
    ("gwt_serializable", .boolean v.gwtSerializable)]

def toJson (s : Specification σ) : Json :=
  s.view.toJson

def fingerprint (s : Specification σ) : Digest.Fingerprint :=
  .ofJson s.toJson

/-- The specification on one line. -/
def summary (s : Specification σ) : String :=
  "Specification\x7bdeclaring_type=" ++ s.declaringType.text ++
  ", builder_type=" ++ s.builderType.text ++
  ", generated_builder=" ++ s.classes.builder.qualifiedName ++
  ", value_class=" ++ s.classes.valueClass.qualifiedName ++
  ", partial_class=" ++ s.classes.partialClass.qualifiedName ++
  ", property_enum=" ++ s.classes.propertyEnum.qualifiedName ++
  ", properties=" ++ Text.list (s.properties.map Property.summary) ++
  ", underridden_methods=" ++
    Text.list (s.ownMethods.toList.map ObjectMethod.methodName) ++
  ", builder_serializable=" ++ Text.boolean s.builderSerializable ++
  ", gwt_serializable=" ++ Text.boolean s.gwtSerializable ++ "\x7d"

/-- The specification as a record, for a reader who inspects it. The table is not shown. -/
def inspect (s : Specification σ) : String :=
  Text.openRecord "Specification" [
    ("declaring_type", s.declaringType.inspect),
    ("builder_type", s.builderType.inspect),
    ("builder_factory", Text.optional (s.builderFactory.map BuilderFactory.key)),
    ("generated_builder", s.classes.builder.inspect),
    ("value_class", s.classes.valueClass.inspect),
    ("partial_class", s.classes.partialClass.inspect),
    ("property_enum", s.classes.propertyEnum.inspect),
    ("properties", Text.list (s.properties.map Property.inspect)),
    ("underridden_methods", Text.set (s.ownMethods.toList.map ObjectMethod.key)),
    ("builder_serializable", Text.boolean s.builderSerializable),
    ("gwt_serializable", Text.boolean s.gwtSerializable)]

end

end Specification

end BuilderSpec
