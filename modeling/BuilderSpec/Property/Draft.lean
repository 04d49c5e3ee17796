/-
Drafts of properties: each edit sets a field, and finishing a draft checks that nothing is missing.
-/
import BuilderSpec.Property.Basic

namespace BuilderSpec.Property

open Naming

/-- A property as far as it is known. -/
structure Draft (σ : Type) where
  declaredType : Option TypeRef
  boxedType : Option TypeRef
  name : Option String
  capitalizedName : Option String
  allCapsName : Option String
  getterName : Option String
  generator : Option σ
  fullyCheckedCast : Option Bool

/-- A change to a draft. The boxed type and the strategy may also be taken away. -/
inductive Edit (σ : Type) where
  | declaredType (t : TypeRef)
  | boxedType (t : Option TypeRef)
  | name (text : String)
  | capitalizedName (text : String)
  | allCapsName (text : String)
  | getterName (text : String)
  | names (names : NameForms)
  | generator (g : Option σ)
  | fullyCheckedCast (b : Bool)

/-- The fields that a finished property must have. -/
inductive Field where
  | declaredType
  | name
  | capitalizedName
  | allCapsName
  | getterName
  | fullyCheckedCast
deriving DecidableEq

def Field.key : Field → String
  | declaredType => "declared_type"
  | name => "name"
  | capitalizedName => "capitalized_name"
  | allCapsName => "all_caps_name"
  | getterName => "getter_name"
  | fullyCheckedCast => "fully_checked_cast"

/-- What an unfinished draft is a draft of. -/
def entityName : String := "PropertyDescriptor"

/-- What is wrong with a draft that lacks a field. -/
def Field.missingMessage (f : Field) : String :=
  entityName ++ ": required field `" ++ f.key ++ "` not set"

namespace Draft

variable {σ : Type}

def empty : Draft σ := ⟨none, none, none, none, none, none, none, none⟩

/-- A draft that says all that a property says. -/
def ofProperty (p : Property σ) : Draft σ where
  declaredType := some p.declaredType
  boxedType := p.boxedType
  name := some p.name
  capitalizedName := some p.capitalizedName
  allCapsName := some p.allCapsName
  getterName := some p.getterName
  generator := p.generator
  fullyCheckedCast := some p.fullyCheckedCast

/-- Makes a change; what the field held before is forgotten. -/
def apply (d : Draft σ) : Edit σ → Draft σ
  | .declaredType t => { d with declaredType := some t }
  | .boxedType t => { d with boxedType := t }
  | .name text => { d with name := some text }
  | .capitalizedName text => { d with capitalizedName := some text }
  | .allCapsName text => { d with allCapsName := some text }
  | .getterName text => { d with getterName := some text }
  | .names n =>
    { d with
      name := some n.name
      capitalizedName := some n.capitalizedName
      allCapsName := some n.allCapsName
      getterName := some n.getterName }
  | .generator g => { d with generator := g }
  | .fullyCheckedCast b => { d with fullyCheckedCast := some b }

/-- Makes changes one after another. -/
def applyAll (d : Draft σ) (edits : List (Edit σ)) : Draft σ :=
  edits.foldl apply d

theorem applyAll_nil (d : Draft σ) : d.applyAll [] = d := rfl

theorem applyAll_cons (d : Draft σ) (e : Edit σ) (edits : List (Edit σ)) :
    d.applyAll (e :: edits) = (d.apply e).applyAll edits := rfl

theorem applyAll_append (d : Draft σ) (first second : List (Edit σ)) :
    d.applyAll (first ++ second) = (d.applyAll first).applyAll second :=
  List.foldl_append

/-- The value of a field that must be there. -/
def required {α : Type} (field : Field) (value : Option α) : Except Field α :=
  match value with
  | some a => .ok a
  | none => .error field

/-- The finished property, or the first field that is missing. The boxed type and the strategy may
be absent. -/
def finish (d : Draft σ) : Except Field (Property σ) := do
  let declaredType ← required .declaredType d.declaredType
  let name ← required .name d.name
  let capitalizedName ← required .capitalizedName d.capitalizedName
  let allCapsName ← required .allCapsName d.allCapsName
  let getterName ← required .getterName d.getterName
  let fullyCheckedCast ← required .fullyCheckedCast d.fullyCheckedCast
  return {
    name, capitalizedName, allCapsName, getterName, declaredType
    boxedType := d.boxedType
    generator := d.generator
    fullyCheckedCast }

/-- The draft as a record, for a reader who inspects it. -/
def inspect [Strategy σ] (d : Draft σ) : String :=
  Text.record "PropertyDescriptorBuilder" [
    ("declared_type", Text.optional (d.declaredType.map TypeRef.inspect)),
    ("boxed_type", Text.optional (d.boxedType.map TypeRef.inspect)),
    ("name", Text.optional (d.name.map Text.quote)),
    ("capitalized_name", Text.optional (d.capitalizedName.map Text.quote)),
    ("all_caps_name", Text.optional (d.allCapsName.map Text.quote)),
    ("getter_name", Text.optional (d.getterName.map Text.quote)),
    ("code_generator", Text.optional (d.generator.map Strategy.inspect)),
    ("fully_checked_cast", Text.optional (d.fullyCheckedCast.map Text.boolean))]

end Draft

/-- A draft to change this property. -/
def toDraft {σ : Type} (p : Property σ) : Draft σ := .ofProperty p

end BuilderSpec.Property
