/-
Drafts of specifications: edits set fields and add properties and methods, and finishing a draft
checks that it is complete and that its classes are nested as they must be.
-/
import BuilderSpec.Event
import BuilderSpec.Specification.Basic

namespace BuilderSpec.Specification

/-- A specification as far as it is known. -/
structure Draft (σ : Type) where
  packages : TableRef
  declaringType : Option DeclRef
  builderType : Option DeclRef
  builderFactory : Option BuilderFactory
  generatedBuilder : Option GeneratedClass
  valueClass : Option GeneratedClass
  partialClass : Option GeneratedClass
  propertyEnum : Option GeneratedClass
  properties : List (Property σ)
  ownMethods : MethodSet
  builderSerializable : Option Bool
  gwtSerializable : Option Bool

/-- A change to a draft that cannot fail. The properties that it adds are given as `π`: as what they
are, or by what stands for them. -/
inductive Edit (π : Type) where
  | declaringType (d : DeclRef)
  | builderType (d : DeclRef)
  | builderFactory (factory : Option BuilderFactory)
  | generatedBuilder (c : GeneratedClass)
  | valueClass (c : GeneratedClass)
  | partialClass (c : GeneratedClass)
  | propertyEnum (c : GeneratedClass)
  | classes (family : ClassFamily)
  | addProperty (p : π)
  | addProperties (ps : List π)
  | addMethod (m : ObjectMethod)
  | addMethods (ms : List ObjectMethod)
  | builderSerializable (b : Bool)
  | gwtSerializable (b : Bool)

/-- The change with what stands for a property looked up, or the first failure to find one. -/
def Edit.resolve {π ρ ε : Type} (find : π → Except ε ρ) : Edit π → Except ε (Edit ρ)
  | .declaringType d => .ok (.declaringType d)
  | .builderType d => .ok (.builderType d)
  | .builderFactory factory => .ok (.builderFactory factory)
  | .generatedBuilder c => .ok (.generatedBuilder c)
  | .valueClass c => .ok (.valueClass c)
  | .partialClass c => .ok (.partialClass c)
  | .propertyEnum c => .ok (.propertyEnum c)
  | .classes family => .ok (.classes family)
  | .addProperty p => (find p).map .addProperty
  | .addProperties ps => (ps.mapM find).map .addProperties
  | .addMethod m => .ok (.addMethod m)
  | .addMethods ms => .ok (.addMethods ms)
  | .builderSerializable b => .ok (.builderSerializable b)
  | .gwtSerializable b => .ok (.gwtSerializable b)

/-! ## Defects -/

/-- The fields that a finished specification must have. -/
inductive Field where
  | builderType
  | generatedBuilder
  | declaringType
  | nested (role : NestedRole)
  | builderSerializable
  | gwtSerializable
deriving DecidableEq

def Field.key : Field → String
  | builderType => "builder_type"
  | generatedBuilder => "generated_builder"
  | declaringType => "declaring_type"
  | nested role => role.key
  | builderSerializable => "builder_serializable"
  | gwtSerializable => "gwt_serializable"

/-- Why a draft cannot be finished: a field is missing, a class is not directly inside the generated
builder, or a property has no strategy. -/
inductive Defect where
  | missing (field : Field)
  | misnested (role : NestedRole) (builder : GeneratedClass) (scope : Option GeneratedClass)
  | noGenerator (index : Nat)
deriving DecidableEq

/-- What an unfinished draft is a draft of. -/
def entityName : String := "Specification"

/-- What is wrong with a draft that lacks a field. -/
def missingMessage (field : String) : String :=
  entityName ++ ": required field `" ++ field ++ "` not set"

/-- What is around a class, for the reader of a message. -/
def scopeText : Option GeneratedClass → String
  | some outer => outer.qualifiedName
  | none => "<top level>"

namespace Defect

/-- The path of the field that is missing, if that is the defect. -/
def missingField? : Defect → Option String
  | missing field => some field.key
  | misnested _ _ _ => none
  | noGenerator index => some ("properties[" ++ index.repr ++ "].code_generator")

def message (d : Defect) : String :=
  match d with
  | missing field => missingMessage field.key
  | misnested role builder scope =>
    role.key ++ " must be nested in " ++ builder.qualifiedName ++
      ", but its enclosing scope is " ++ scopeText scope
  | noGenerator index => missingMessage ("properties[" ++ index.repr ++ "].code_generator")

end Defect

namespace Draft

variable {σ : Type}

/-! ## Editing -/

/-- A draft that says nothing but where to look packages up. -/
def empty (packages : TableRef) : Draft σ where
  packages
  declaringType := none
  builderType := none
  builderFactory := none
  generatedBuilder := none
  valueClass := none
  partialClass := none
  propertyEnum := none
  properties := []
  ownMethods := .empty
  builderSerializable := none
  gwtSerializable := none

/-- A draft that says all that a specification says. -/
def ofSpecification (s : Specification σ) : Draft σ where
  packages := s.packages
  declaringType := some s.declaringType
  builderType := some s.builderType
  builderFactory := s.builderFactory
  generatedBuilder := some s.classes.builder
  valueClass := some s.classes.valueClass
  partialClass := some s.classes.partialClass
  propertyEnum := some s.classes.propertyEnum
  properties := s.properties
  ownMethods := s.ownMethods
  builderSerializable := some s.builderSerializable
  gwtSerializable := some s.gwtSerializable

/-- Makes a change. Fields forget what they held before; properties and methods are added to those
that are there. -/
def apply (d : Draft σ) : Edit (Property σ) → Draft σ
  | .declaringType t => { d with declaringType := some t }
  | .builderType t => { d with builderType := some t }
  | .builderFactory factory => { d with builderFactory := factory }
  | .generatedBuilder c => { d with generatedBuilder := some c }
  | .valueClass c => { d with valueClass := some c }
  | .partialClass c => { d with partialClass := some c }
  | .propertyEnum c => { d with propertyEnum := some c }
  | .classes family =>
    { d with
      generatedBuilder := some family.builder
      valueClass := some family.valueClass
      partialClass := some family.partialClass
      propertyEnum := some family.propertyEnum }
  | .addProperty p => { d with properties := d.properties ++ [p] }
  | .addProperties ps => { d with properties := d.properties ++ ps }
  | .addMethod m => { d with ownMethods := d.ownMethods.insert m }
  | .addMethods ms => { d with ownMethods := d.ownMethods.insertAll ms }
  | .builderSerializable b => { d with builderSerializable := some b }
  | .gwtSerializable b => { d with gwtSerializable := some b }

/-- Makes changes one after another. -/
def applyAll (d : Draft σ) (edits : List (Edit (Property σ))) : Draft σ :=
  edits.foldl apply d

theorem applyAll_nil (d : Draft σ) : d.applyAll [] = d := rfl

theorem applyAll_cons (d : Draft σ) (e : Edit (Property σ)) (edits : List (Edit (Property σ))) :
    d.applyAll (e :: edits) = (d.apply e).applyAll edits := rfl

theorem applyAll_append (d : Draft σ) (first second : List (Edit (Property σ))) :
    d.applyAll (first ++ second) = (d.applyAll first).applyAll second :=
  List.foldl_append

/-! ## Naming the classes -/

/-- Why the classes of a draft cannot be named. -/
inductive NamingError where
  | noDeclaringType
  | naming (e : ClassFamily.NamingError)
deriving DecidableEq

/-- Work on a draft that may fail. What has been written by then stays written. -/
abbrev Work (σ : Type) := ExceptT NamingError (StateM (Draft σ))

/-- Makes a change in the course of some work. -/
def write (e : Edit (Property σ)) : Work σ Unit :=
  modify fun d => d.apply e

/-- Writes the classes of a family, one field after another. -/
def writeFamily (family : ClassFamily) : Work σ Unit := do
  write (.generatedBuilder family.builder)
  write (.valueClass family.valueClass)
  write (.partialClass family.partialClass)
  write (.propertyEnum family.propertyEnum)

/-- Names the classes after the declaring type, which must be known. Its package is what the table
answers now, or the default package, and the names of the declarations around it come before its
own, joined by underscores. -/
def naming (lookup : PackageLookup) (conventions : Conventions) : Work σ Unit := do
  let d ← get
  let some t := d.declaringType | throw .noDeclaringType
  let package := (lookup d.packages t).getD ""
  match ClassFamily.forType package t.declaration.flatName conventions with
  | .error e => throw (.naming e)
  | .ok family => writeFamily family

/-- What naming the classes of a draft answers, and the draft as it is then. -/
def nameClasses (lookup : PackageLookup) (conventions : Conventions) (d : Draft σ) :
    Except NamingError Unit × Draft σ :=
  (naming lookup conventions).run d

section

variable {lookup : PackageLookup} {conventions : Conventions} {d : Draft σ} {t : DeclRef}

theorem run_get_bind {α : Type} (f : Draft σ → Work σ α) (d : Draft σ) :
    (get >>= f).run d = (f d).run d := rfl

/-- Writing the classes one after another comes to the one change that sets all four. -/
theorem run_writeFamily (family : ClassFamily) (d : Draft σ) :
    (writeFamily family).run d = (.ok (), d.apply (.classes family)) := rfl

theorem nameClasses_of_none (h : d.declaringType = none) :
    d.nameClasses lookup conventions = (.error .noDeclaringType, d) := by
  simp only [nameClasses, naming, run_get_bind, h]
  rfl

theorem nameClasses_of_error {e : ClassFamily.NamingError} (ht : d.declaringType = some t)
    (hfamily : ClassFamily.forType ((lookup d.packages t).getD "") t.declaration.flatName conventions =
      .error e) :
    d.nameClasses lookup conventions = (.error (.naming e), d) := by
  simp only [nameClasses, naming, run_get_bind, ht, hfamily]
  rfl

theorem nameClasses_of_ok {family : ClassFamily} (ht : d.declaringType = some t)
    (hfamily : ClassFamily.forType ((lookup d.packages t).getD "") t.declaration.flatName conventions =
      .ok family) :
    d.nameClasses lookup conventions = (.ok (), d.apply (.classes family)) := by
  simp only [nameClasses, naming, run_get_bind, ht, hfamily, run_writeFamily]

end

/-! ## Finishing -/

/-- The value of a field that must be there. -/
def required {α : Type} (field : Field) (value : Option α) : Except Defect α :=
  match value with
  | some a => .ok a
  | none => .error (.missing field)

/-- A class that must be there and directly inside the builder. -/
def requiredInside (builder : GeneratedClass) (role : NestedRole) (value : Option GeneratedClass) :
    Except Defect GeneratedClass := do
  let c ← required (.nested role) value
  if c.isNestedIn builder then return c
  else throw (.misnested role builder c.enclosing)

/-- Every property must have a strategy. -/
def checkGenerators (properties : List (Property σ)) : Except Defect Unit :=
  match properties.findIdx? fun p => p.generator.isNone with
  | some index => .error (.noGenerator index)
  | none => .ok ()

/-- The finished specification, or the first defect of the draft. -/
def check (d : Draft σ) : Except Defect (Specification σ) := do
  let builderType ← required .builderType d.builderType
  let builder ← required .generatedBuilder d.generatedBuilder
  let declaringType ← required .declaringType d.declaringType
  let valueClass ← requiredInside builder .valueClass d.valueClass
  let partialClass ← requiredInside builder .partialClass d.partialClass
  let propertyEnum ← requiredInside builder .propertyEnum d.propertyEnum
  let builderSerializable ← required .builderSerializable d.builderSerializable
  let gwtSerializable ← required .gwtSerializable d.gwtSerializable
  checkGenerators d.properties
  return {
    packages := d.packages
    declaringType, builderType
    builderFactory := d.builderFactory
    classes := { builder, valueClass, partialClass, propertyEnum }
    properties := d.properties
    ownMethods := d.ownMethods
    builderSerializable, gwtSerializable }

/-- The names in a list that stand in it, or among those `seen` before it, already: one entry for
each repetition, in order. -/
def repeatedNames (seen : List String) : List String → List String
  | [] => []
  | name :: rest =>
    if name ∈ seen then name :: repeatedNames seen rest else repeatedNames (name :: seen) rest

/-- What is reported of a finished specification: each repetition of a property's name, and last
that it is finished. -/
def eventsOf (s : Specification σ) : List Event :=
  (repeatedNames [] s.propertyNames).map (.propertyRepeated s.declaringType.text) ++
    [.specificationFinished s.declaringType.text s.classes.builder.qualifiedName
      s.properties.length]

/-- Finishes a draft. Nothing is reported of one that has a defect. -/
def finish (d : Draft σ) : Reported (Except Defect (Specification σ)) :=
  match d.check with
  | .error defect => .silent (.error defect)
  | .ok s => ⟨.ok s, eventsOf s⟩

/-! ## Writing -/

/-- The draft as a record, for a reader who inspects it. The table is not shown. -/
def inspect [Strategy σ] (d : Draft σ) : String :=
  Text.openRecord "SpecificationBuilder" [
    ("declaring_type", Text.optional (d.declaringType.map DeclRef.inspect)),
    ("builder_type", Text.optional (d.builderType.map DeclRef.inspect)),
    ("builder_factory", Text.optional (d.builderFactory.map BuilderFactory.key)),
    ("generated_builder", Text.optional (d.generatedBuilder.map GeneratedClass.inspect)),
    ("value_class", Text.optional (d.valueClass.map GeneratedClass.inspect)),
    ("partial_class", Text.optional (d.partialClass.map GeneratedClass.inspect)),
    ("property_enum", Text.optional (d.propertyEnum.map GeneratedClass.inspect)),
    ("properties", Text.list (d.properties.map Property.inspect)),
    ("underridden_methods", Text.set (d.ownMethods.toList.map ObjectMethod.key)),
    ("builder_serializable", Text.optional (d.builderSerializable.map Text.boolean)),
    ("gwt_serializable", Text.optional (d.gwtSerializable.map Text.boolean))]

end Draft

/-- A draft to change this specification. -/
def toDraft {σ : Type} (s : Specification σ) : Draft σ := .ofSpecification s

end BuilderSpec.Specification
