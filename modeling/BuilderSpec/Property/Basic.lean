/-
Finished descriptions of properties: what identifies one, and how it is written.
-/
import BuilderSpec.Digest.Fingerprint
import BuilderSpec.Naming.NameForms
import BuilderSpec.Strategy
import BuilderSpec.Symbol.Type

namespace BuilderSpec

open Naming

/-- One property of a user type. -/
structure Property (σ : Type) extends NameForms where
  declaredType : TypeRef
  /-- The boxed form of a primitive type. -/
  boxedType : Option TypeRef
  /-- The strategy, which is missing until it has been chosen. -/
  generator : Option σ
  /-- Whether a cast to the declared type is checked in full when it runs. -/
  fullyCheckedCast : Bool

namespace Property

variable {σ : Type}

/-- The same property with a strategy. -/
def withGenerator (p : Property σ) (g : σ) : Property σ :=
  { p with generator := some g }

/-! ## Identity -/

/-- What identifies a property: of its types, only the texts. -/
structure View (σ : Type) where
  declaredType : String
  boxedType : Option String
  names : NameForms
  generator : Option σ
  fullyCheckedCast : Bool
deriving DecidableEq

def view (p : Property σ) : View σ where
  declaredType := p.declaredType.text
  boxedType := p.boxedType.map TypeRef.text
  names := p.toNameForms
  generator := p.generator
  fullyCheckedCast := p.fullyCheckedCast

/-- Properties are the same when what identifies them is. -/
def same [DecidableEq σ] (p q : Property σ) : Bool :=
  p.view = q.view

/-! ## Writing -/

section

variable [Strategy σ]

/-- The record that a property is stored as. -/
def View.toJson (v : View σ) : Json :=
  .object [("declared_type", .string v.declaredType), ("boxed_type", .ofOption v.boxedType),
    ("name", .string v.names.name), ("capitalized_name", .string v.names.capitalizedName),
    ("all_caps_name", .string v.names.allCapsName), ("getter_name", .string v.names.getterName),
    ("code_generator", .ofOption (v.generator.map Strategy.key)),
    ("fully_checked_cast", .boolean v.fullyCheckedCast)]

def toJson (p : Property σ) : Json :=
  p.view.toJson

def fingerprint (p : Property σ) : Digest.Fingerprint :=
  .ofJson p.toJson

/-- The property on one line. -/
def summary (p : Property σ) : String :=
  "PropertyDescriptor\x7bdeclared_type=" ++ p.declaredType.text ++
  ", boxed_type=" ++ (p.boxedType.map TypeRef.text).getD "none" ++
  ", name=" ++ p.name ++
  ", capitalized_name=" ++ p.capitalizedName ++
  ", getter_name=" ++ p.getterName ++
  ", all_caps_name=" ++ p.allCapsName ++
  ", code_generator=" ++ (p.generator.map Strategy.name).getD "none" ++
  ", fully_checked_cast=" ++ Text.boolean p.fullyCheckedCast ++ "\x7d"

/-- The property as a record, for a reader who inspects it. -/
def inspect (p : Property σ) : String :=
  Text.record "PropertyDescriptor" [("declared_type", p.declaredType.inspect),
    ("boxed_type", Text.optional (p.boxedType.map TypeRef.inspect)),
    ("name", Text.quote p.name), ("capitalized_name", Text.quote p.capitalizedName),
    ("all_caps_name", Text.quote p.allCapsName), ("getter_name", Text.quote p.getterName),
    ("code_generator", Text.optional (p.generator.map Strategy.inspect)),
    ("fully_checked_cast", Text.boolean p.fullyCheckedCast)]

end

end Property

end BuilderSpec
