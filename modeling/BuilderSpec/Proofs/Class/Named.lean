/-
The families of classes that conventions name for user types: the builder stands at the top level of
the package, and inside it the other three, under different names, none of which is the builder's.
Naming succeeds exactly when there is such a family.
-/
import BuilderSpec.Class.Family
import BuilderSpec.Proofs.Attempt
import BuilderSpec.Proofs.Class.QualifiedName
import BuilderSpec.Proofs.Conventions.Usable

namespace BuilderSpec

open Naming

namespace GeneratedClass

/-! ## Declaring -/

theorem topLevel?_eq_ok_iff {package name : String} {c : GeneratedClass} :
    topLevel? package name = .ok c ↔
      c.enclosing = none ∧ c.package = package ∧ c.simpleName = name := by
  constructor
  · intro h
    unfold topLevel? at h
    split at h
    · cases h
    · rename_i p hp
      split at h
      · cases h
      · rename_i n hn
        cases h
        exact ⟨rfl, PackageName.text_eq_of_ofString? hp, Identifier.ofString?_eq_some_iff.1 hn⟩
  · rintro ⟨htop, rfl, rfl⟩
    cases c with
    | topLevel p n =>
      simp only [topLevel?, package, simpleName, PackageName.ofString?_text, Identifier.ofString?_text]
    | nested outer n => cases htop

theorem nested?_eq_ok_iff {outer c : GeneratedClass} {name : String} :
    outer.nested? name = .ok c ↔ c.enclosing = some outer ∧ c.simpleName = name := by
  constructor
  · intro h
    unfold nested? at h
    split at h
    · cases h
    · rename_i n hn
      cases h
      exact ⟨rfl, Identifier.ofString?_eq_some_iff.1 hn⟩
  · rintro ⟨houter, rfl⟩
    cases c with
    | topLevel p n => cases houter
    | nested outer' n =>
      cases houter
      simp only [nested?, simpleName, Identifier.ofString?_text]

end GeneratedClass

namespace ClassFamily

/-! ## Families -/

/-- What naming the classes of the user type `name` of `package` makes sure of. -/
structure NamedFor (package name : String) (c : Conventions) (f : ClassFamily) : Prop where
  usable : c.Usable
  builder_enclosing : f.builder.enclosing = none
  builder_package : f.builder.package = package
  builder_simpleName : f.builder.simpleName = name ++ c.builderSuffix
  builder_apart : ∀ role, c.nestedName role ≠ f.builder.simpleName
  enclosing : ∀ role, (f.nested role).enclosing = some f.builder
  simpleName : ∀ role, (f.nested role).simpleName = c.nestedName role

theorem builderNameFault?_eq_none_iff {c : Conventions} {builder : GeneratedClass} :
    builderNameFault? c builder = none ↔ ∀ role, c.nestedName role ≠ builder.simpleName := by
  unfold builderNameFault?
  rw [Option.map_eq_none_iff, List.find?_eq_none]
  constructor
  · intro h role heq
    exact h role role.mem_all (beq_iff_eq.2 heq)
  · intro h role _ heq
    exact h role (beq_iff_eq.1 heq)

/-- Naming succeeds with a family exactly when the family is as it must be. -/
theorem forType_eq_ok_iff {package name : String} {c : Conventions} {f : ClassFamily} :
    forType package name c = .ok f ↔ NamedFor package name c f := by
  simp only [forType, bind_eq_ok_iff, mapError_eq_ok_iff, GeneratedClass.topLevel?_eq_ok_iff]
  constructor
  -- Each step that succeeds gives some of the fields, and the last one leaves the family.
  · rintro ⟨⟨⟩, husable, builder, ⟨htop, hpackage, hname⟩, h⟩
    cases hfault : builderNameFault? c builder with
    | some fault => rw [hfault] at h; cases h
    | none =>
      rw [hfault] at h
      simp only [bind_eq_ok_iff, mapError_eq_ok_iff, GeneratedClass.nested?_eq_ok_iff] at h
      obtain ⟨valueClass, hv, partialClass, hp, propertyEnum, he, h⟩ := h
      cases h
      exact ⟨Conventions.validate_eq_ok_iff_usable.1 husable, htop, hpackage, hname,
        builderNameFault?_eq_none_iff.1 hfault,
        fun | .valueClass => hv.1 | .partialClass => hp.1 | .propertyEnum => he.1,
        fun | .valueClass => hv.2 | .partialClass => hp.2 | .propertyEnum => he.2⟩
  · intro h
    refine ⟨(), Conventions.validate_eq_ok_iff_usable.2 h.usable, f.builder,
      ⟨h.builder_enclosing, h.builder_package, h.builder_simpleName⟩, ?_⟩
    rw [builderNameFault?_eq_none_iff.2 h.builder_apart]
    simp only [bind_eq_ok_iff, mapError_eq_ok_iff, GeneratedClass.nested?_eq_ok_iff]
    exact ⟨_, ⟨h.enclosing .valueClass, h.simpleName .valueClass⟩,
      _, ⟨h.enclosing .partialClass, h.simpleName .partialClass⟩,
      _, ⟨h.enclosing .propertyEnum, h.simpleName .propertyEnum⟩, rfl⟩

theorem NamedFor.builder_qualifiedName {package name : String} {c : Conventions} {f : ClassFamily}
    (h : NamedFor package name c f) :
    f.builder.qualifiedName = qualify package (name ++ c.builderSuffix) := by
  rw [GeneratedClass.qualifiedName_of_enclosing_none h.builder_enclosing, h.builder_package,
    h.builder_simpleName]

/-- The classes with their standard names inside a builder. -/
def standardIn (builder : GeneratedClass) : ClassFamily where
  builder
  valueClass := .nested builder ⟨"Value", by decide⟩
  partialClass := .nested builder ⟨"Partial", by decide⟩
  propertyEnum := .nested builder ⟨"Property", by decide⟩

end ClassFamily

/-! ## Names for examples -/

/-- The package that a user type `Person` is in. -/
def personPackage : PackageName := ⟨"org.example", by decide⟩

/-- The name that its builder has by standard conventions. -/
def personBuilderName : Identifier := ⟨"Person_Builder", by decide⟩

end BuilderSpec
