/-
What is said of a class that is not directly inside the builder. It is refused only when the class around
it is another than the builder, or there is none. The names that are reported of the two differ, but for one
case: a class and a package of one name hold classes of one name, so that the class around it may be
another than the builder and have its qualified name. Conventions put every builder at the top level, and
among classes that they have named the case does not arise.
-/
import BuilderSpec.Proofs.Specification.FirstDefect
import BuilderSpec.Proofs.Specification.SameClasses

namespace BuilderSpec

namespace Specification

open Naming

variable {σ : Type}

/-! ## The names that are reported -/

/-- No class is called as the top level is reported. -/
theorem qualifiedName_ne_topLevel (c : GeneratedClass) : c.qualifiedName ≠ scopeText none := by
  intro h
  have hparts : c.parts = ["<top level>"] := by
    rw [← c.dottedParts_qualifiedName, h]
    decide
  have hid : isIdentifier "<top level>" = true :=
    GeneratedClass.isIdentifier_of_mem_parts (hparts ▸ List.mem_cons_self)
  revert hid
  decide

theorem qualifiedName_eq_scopeText_iff {builder : GeneratedClass} {scope : Option GeneratedClass} :
    builder.qualifiedName = scopeText scope ↔ ∃ outer, scope = some outer ∧ outer.parts = builder.parts := by
  cases scope with
  | none =>
    constructor
    · intro h
      exact absurd h (qualifiedName_ne_topLevel builder)
    · rintro ⟨outer, h, -⟩
      cases h
  | some outer =>
    constructor
    · intro h
      exact ⟨outer, rfl, (GeneratedClass.qualifiedName_eq_iff.1 h).symm⟩
    · rintro ⟨outer', h, hparts⟩
      cases h
      exact GeneratedClass.qualifiedName_eq_iff.2 hparts.symm

/-- Classes that differ, though their parts are the same, differ in all that their parts do not tell. -/
theorem qualifiedName_eq_scopeText_iff_of_ne {builder : GeneratedClass} {scope : Option GeneratedClass}
    (hne : scope ≠ some builder) {α : Type} {f : GeneratedClass → α}
    (hf : ∀ c d : GeneratedClass, c.qualifiedName = d.qualifiedName → f c = f d → c = d) :
    builder.qualifiedName = scopeText scope ↔
      ∃ outer, scope = some outer ∧ outer.parts = builder.parts ∧ f outer ≠ f builder := by
  rw [qualifiedName_eq_scopeText_iff]
  constructor
  · rintro ⟨outer, rfl, hparts⟩
    refine ⟨outer, rfl, hparts, fun heq => hne ?_⟩
    rw [hf outer builder (GeneratedClass.qualifiedName_eq_iff.2 hparts) heq]
  · rintro ⟨outer, hscope, hparts, -⟩
    exact ⟨outer, hscope, hparts⟩

/-! ## Refused classes -/

/-- A class is refused only for not being directly inside the builder of the draft. -/
theorem breaks_of_misnested {d : Draft σ} {role : NestedRole} {builder : GeneratedClass}
    {scope : Option GeneratedClass} (h : d.finish.result = .error (.misnested role builder scope)) :
    d.Breaks (.inside role) (.misnested role builder scope) := by
  obtain ⟨r, -, hbreaks⟩ := (Draft.finish_result_eq_error_iff.1 h).exists_mem
  cases hbreaks with
  | misnested hb hc hne => exact .misnested hb hc hne

/-- A class that is refused stands in another class than the builder of the draft, or in none. Of the
builder and what is around the class, different names are reported, unless they have the same parts and
only their packages end at different places, so that one is nested deeper than the other. That is not so
when conventions have named both the builder and the class. -/
theorem misnested_texts {d : Draft σ} {role : NestedRole} {builder : GeneratedClass}
    {scope : Option GeneratedClass} (h : d.finish.result = .error (.misnested role builder scope)) :
    d.generatedBuilder = some builder ∧
    (∃ c : GeneratedClass, d.held (.nested role) = some c ∧ c.enclosing = scope) ∧
    scope ≠ some builder ∧
    (builder.qualifiedName = scopeText scope ↔
      ∃ outer, scope = some outer ∧ outer.parts = builder.parts ∧ outer.package ≠ builder.package) ∧
    (builder.qualifiedName = scopeText scope ↔
      ∃ outer, scope = some outer ∧ outer.parts = builder.parts ∧ outer.depth ≠ builder.depth) ∧
    (∀ (package package' name name' : String) (c c' : Conventions) (f f' : ClassFamily),
      ClassFamily.forType package name c = .ok f → f.builder = builder →
        ClassFamily.forType package' name' c' = .ok f' →
          d.held (.nested role) = some (f'.nested role) → builder.qualifiedName ≠ scopeText scope) := by
  cases breaks_of_misnested h with
  | @misnested _ _ c hb hc hne =>
    have hdepth := qualifiedName_eq_scopeText_iff_of_ne hne
      fun _ _ => GeneratedClass.eq_of_qualifiedName_of_depth
    refine ⟨hb, ⟨c, hc, rfl⟩, hne, ?_, hdepth, ?_⟩
    · exact qualifiedName_eq_scopeText_iff_of_ne hne fun _ _ => GeneratedClass.eq_of_qualifiedName_of_package
    · rintro package package' name name' conventions conventions' f f' hf rfl hf' hmember heq
      have hnamed := ClassFamily.forType_eq_ok_iff.1 hf
      have hnamed' := ClassFamily.forType_eq_ok_iff.1 hf'
      cases Option.some.inj (hc.symm.trans hmember)
      obtain ⟨outer, houter, -, hapart⟩ := hdepth.1 heq
      cases (hnamed'.enclosing role).symm.trans houter
      rw [GeneratedClass.depth_of_enclosing_none hnamed.builder_enclosing,
        GeneratedClass.depth_of_enclosing_none hnamed'.builder_enclosing] at hapart
      exact hapart rfl

/-- The draft of a user type whose classes are inside a class, and whose builder is called like it and
stands in a package. -/
def astray : Draft StandardStrategy :=
  (personWith (.standardIn builderInClass)).toDraft.apply (.generatedBuilder builderInPackage)

theorem finish_astray : astray.finish.result =
    .error (.misnested .valueClass builderInPackage (some builderInClass)) := rfl

/-- A class may be refused with two equal names: it must be in the one, and is in the other. -/
theorem not_misnested_texts_ne :
    ¬ ∀ (d : Draft StandardStrategy) (role : NestedRole) (builder : GeneratedClass)
        (scope : Option GeneratedClass),
      d.finish.result = .error (.misnested role builder scope) →
        builder.qualifiedName ≠ scopeText scope := by
  intro h
  exact h _ _ _ _ finish_astray (by decide)

/-- Where the names are equal, the packages are not; and of a class at the top level the names differ. -/
theorem misnested_texts_astray :
    (builderInPackage.qualifiedName = scopeText (some builderInClass) ∧
      ∃ outer, some builderInClass = some outer ∧ outer.parts = builderInPackage.parts ∧
        outer.package ≠ builderInPackage.package) ∧
    ∃ d : Draft StandardStrategy,
      d.finish.result = .error (.misnested .partialClass builderInPackage none) ∧
        builderInPackage.qualifiedName ≠ scopeText none := by
  constructor
  · obtain ⟨-, -, -, hpackage, -⟩ := misnested_texts finish_astray
    have heq : builderInPackage.qualifiedName = scopeText (some builderInClass) := by decide
    exact ⟨heq, hpackage.1 heq⟩
  · have hrefused : ((personWith (.standardIn builderInPackage)).toDraft.apply
        (.partialClass builderInPackage)).finish.result =
          .error (.misnested .partialClass builderInPackage none) := rfl
    obtain ⟨-, -, -, hpackage, -⟩ := misnested_texts hrefused
    refine ⟨_, hrefused, fun heq => ?_⟩
    obtain ⟨outer, hscope, -⟩ := hpackage.1 heq
    cases hscope

end Specification

end BuilderSpec
