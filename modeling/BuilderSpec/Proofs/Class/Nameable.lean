/-
The user types whose classes can be named, and why those of others cannot. Asked for are conventions
that can be used, then a package, then an identifier for the name of the builder, and last that no
class has the name of the builder around it. When all that is so there is a family, and its members
have different qualified names; otherwise the first that is not so is reported.
-/
import BuilderSpec.Proofs.Class.Named
import Mathlib.Data.List.Nodup

namespace BuilderSpec

open Naming

namespace GeneratedClass

theorem topLevel?_eq_error_iff {package name : String} {e : InvalidIdentifier} :
    topLevel? package name = .error e ↔
      isPackageName package = false ∧ e = ⟨package⟩ ∨
        isPackageName package = true ∧ isIdentifier name = false ∧ e = ⟨name⟩ := by
  by_cases hp : isPackageName package = true <;> by_cases hn : isIdentifier name = true <;>
    simp [topLevel?, PackageName.ofString?, Identifier.ofString?, hp, hn, eq_comm]

end GeneratedClass

namespace ClassFamily

/-! ## Requirements -/

/-- What is asked for before classes are named. -/
inductive Requirement where
  /-- The conventions can be used. -/
  | conventions
  /-- The package can have its name. -/
  | package
  /-- The builder can have its name. -/
  | builder
  /-- A class inside the builder is called otherwise. -/
  | apart (role : NestedRole)
deriving DecidableEq

/-- The requirements in the order in which they are looked at. -/
def Requirement.inOrder : List Requirement :=
  [.conventions, .package, .builder] ++ NestedRole.all.map .apart

section

variable (package name : String) (c : Conventions)

/-- A requirement is not met, and with which error. -/
inductive Breaks : Requirement → NamingError → Prop
  | conventions {fault : Conventions.Fault} (h : c.validate = .error fault) :
      Breaks .conventions (.conventions fault)
  | package (h : isPackageName package = false) : Breaks .package (.identifier ⟨package⟩)
  | builder (h : isIdentifier (name ++ c.builderSuffix) = false) :
      Breaks .builder (.identifier ⟨name ++ c.builderSuffix⟩)
  | apart {role : NestedRole} (h : c.nestedName role = name ++ c.builderSuffix) :
      Breaks (.apart role) (.conventions (.builderName role (name ++ c.builderSuffix)))

/-- All that is asked for is so. -/
structure Nameable : Prop extends c.Usable where
  package : package = "" ∨ ∀ part ∈ dottedParts package, isIdentifier part = true
  builder : isIdentifier (name ++ c.builderSuffix) = true
  apart : ∀ role, c.nestedName role ≠ name ++ c.builderSuffix

end

variable {package name : String} {c : Conventions}

/-! ## The checks one by one -/

theorem requires_validate (package name : String) (c : Conventions) :
    Requires (Breaks package name c) [.conventions] (c.validate.mapError NamingError.conventions) := by
  refine .singleton fun e => mapError_eq_error_iff.trans ⟨?_, ?_⟩
  · rintro ⟨fault, hfault, rfl⟩
    exact .conventions hfault
  · intro hbreaks
    cases hbreaks with
    | conventions hfault => exact ⟨_, hfault, rfl⟩

theorem requires_topLevel (package name : String) (c : Conventions) :
    Requires (Breaks package name c) [.package, .builder]
      ((GeneratedClass.topLevel? package (name ++ c.builderSuffix)).mapError NamingError.identifier) := by
  intro e
  rw [mapError_eq_error_iff]
  constructor
  · rintro ⟨e, he, rfl⟩
    rcases GeneratedClass.topLevel?_eq_error_iff.1 he with ⟨hpackage, rfl⟩ | ⟨hpackage, hbuilder, rfl⟩
    · exact .here (.package hpackage)
    · refine .later (fun e' hbreaks => ?_) (.here (.builder hbuilder))
      cases hbreaks with
      | package h => rw [hpackage] at h; cases h
  · intro h
    cases h with
    | here h => cases h with
      | package hpackage =>
        exact ⟨_, GeneratedClass.topLevel?_eq_error_iff.2 (.inl ⟨hpackage, rfl⟩), rfl⟩
    | later hmet h =>
      have hpackage : isPackageName package = true := by
        by_contra hnot
        exact hmet _ (.package (eq_false_of_ne_true hnot))
      cases h with
      | here h => cases h with
        | builder hbuilder =>
          exact ⟨_, GeneratedClass.topLevel?_eq_error_iff.2 (.inr ⟨hpackage, hbuilder, rfl⟩), rfl⟩
      | later _ h => cases h

theorem requires_builderNameFault? {builder : GeneratedClass}
    (hname : builder.simpleName = name ++ c.builderSuffix) {e : NamingError} :
    (builderNameFault? c builder).map .conventions = some e ↔
      FirstReason (Breaks package name c) (NestedRole.all.map .apart) e := by
  unfold builderNameFault?
  rw [Option.map_map, hname]
  refine FirstReason.find?_iff fun role e => ?_
  rw [beq_iff_eq]
  constructor
  · intro hbreaks
    cases hbreaks with
    | apart h => exact ⟨h, rfl⟩
  · rintro ⟨h, rfl⟩
    exact .apart h

/-! ## Naming as a whole -/

/-- Inside a builder, each class can have the name that conventions give it. -/
theorem exists_nested?_eq_ok (h : c.Usable) (builder : GeneratedClass) (role : NestedRole) :
    ∃ member, builder.nested? (c.nestedName role) = .ok member :=
  ⟨.nested builder ⟨_, h.identifier role⟩, GeneratedClass.nested?_eq_ok_iff.2 ⟨rfl, rfl⟩⟩

theorem requires_forType (package name : String) (c : Conventions) :
    Requires (Breaks package name c) Requirement.inOrder (forType package name c) := by
  refine (requires_validate package name c).bind fun _ hvalid => ?_
  refine (requires_topLevel package name c).bind fun builder hbuilder => ?_
  rw [mapError_eq_ok_iff] at hvalid hbuilder
  have husable : c.Usable := Conventions.validate_eq_ok_iff_usable.1 hvalid
  have hname : builder.simpleName = name ++ c.builderSuffix :=
    (GeneratedClass.topLevel?_eq_ok_iff.1 hbuilder).2.2
  intro e
  rw [← requires_builderNameFault? hname]
  cases hfault : builderNameFault? c builder with
  | some fault =>
    constructor
    · rintro ⟨⟩
      rfl
    · rintro ⟨⟩
      rfl
  | none =>
    -- Nothing is left to be refused: the three classes can be declared.
    obtain ⟨valueClass, hv⟩ := exists_nested?_eq_ok husable builder .valueClass
    obtain ⟨partialClass, hp⟩ := exists_nested?_eq_ok husable builder .partialClass
    obtain ⟨propertyEnum, he⟩ := exists_nested?_eq_ok husable builder .propertyEnum
    simp only [hv, hp, he]
    constructor <;> (intro h; cases h)

theorem Requirement.mem_inOrder (r : Requirement) : r ∈ inOrder := by
  rcases r with _ | _ | _ | (_ | _ | _) <;> decide

theorem nameable_iff : Nameable package name c ↔ ∀ r e, ¬ Breaks package name c r e := by
  constructor
  · intro h r e hbreaks
    cases hbreaks with
    | conventions hfault =>
      rw [Conventions.validate_eq_ok_iff_usable.2 h.toUsable] at hfault
      cases hfault
    | package hnot => rw [isPackageName_iff.2 h.package] at hnot; cases hnot
    | builder hnot => rw [h.builder] at hnot; cases hnot
    | apart heq => exact h.apart _ heq
  · intro h
    have husable : c.Usable := by
      refine Conventions.validate_eq_ok_iff_usable.1 ?_
      cases hvalidate : c.validate with
      | ok _ => rfl
      | error fault => exact absurd (.conventions hvalidate) (h .conventions _)
    refine ⟨husable, isPackageName_iff.1 ?_, ?_, fun role heq => h _ _ (.apart heq)⟩
    · exact eq_true_of_ne_false fun hnot => h _ _ (.package hnot)
    · exact eq_true_of_ne_false fun hnot => h _ _ (.builder hnot)

theorem exists_forType_eq_ok_iff : (∃ f, forType package name c = .ok f) ↔ Nameable package name c := by
  have hrequires := requires_forType package name c
  rw [nameable_iff]
  constructor
  · rintro ⟨f, hf⟩ r
    rw [hf] at hrequires
    exact hrequires.met r r.mem_inOrder
  · intro h
    cases hf : forType package name c with
    | ok f => exact ⟨f, rfl⟩
    | error e =>
      obtain ⟨r, -, hbreaks⟩ := ((hrequires e).1 hf).exists_mem
      exact absurd hbreaks (h r e)

/-- The classes of a family have different qualified names. -/
theorem NamedFor.qualifiedNames_nodup {f : ClassFamily} (h : NamedFor package name c f) :
    [f.builder.qualifiedName, f.valueClass.qualifiedName, f.partialClass.qualifiedName,
      f.propertyEnum.qualifiedName].Nodup := by
  have hinjective : Function.Injective fun role => (f.nested role).qualifiedName := by
    intro role other heq
    have hname := (GeneratedClass.qualifiedName_eq_iff_of_enclosing (h.enclosing role)
      (h.enclosing other)).1 heq
    rw [h.simpleName, h.simpleName] at hname
    exact h.usable.distinct hname
  change (f.builder.qualifiedName :: NestedRole.all.map fun role => (f.nested role).qualifiedName).Nodup
  refine List.nodup_cons.2 ⟨fun hmem => ?_, List.Nodup.map hinjective (by decide)⟩
  obtain ⟨role, -, heq⟩ := List.mem_map.1 hmem
  exact GeneratedClass.qualifiedName_ne_of_enclosing (h.enclosing role) heq.symm

/-- Classes can be named for exactly the user types for which all is so that is asked for. They are then
a family as it must be, the builder at the top level of the package and the others directly inside it,
under four different qualified names; and otherwise the first requirement in order that is not met is
reported. Once conventions are accepted, no class inside the builder is refused its name, and no user type
its builder whose own name is an identifier. -/
theorem forType_decides (package name : String) (c : Conventions) :
    ((∃ f, forType package name c = .ok f) ↔ Nameable package name c) ∧
    (∀ f, forType package name c = .ok f ↔
      NamedFor package name c f ∧
        [f.builder.qualifiedName, f.valueClass.qualifiedName, f.partialClass.qualifiedName,
          f.propertyEnum.qualifiedName].Nodup) ∧
    (∀ e, forType package name c = .error e ↔
      FirstReason (Breaks package name c) Requirement.inOrder e) ∧
    (c.validate = .ok () →
      (∀ (builder : GeneratedClass) (role : NestedRole),
        ∃ member, builder.nested? (c.nestedName role) = .ok member) ∧
      (isIdentifier name = true → isIdentifier (name ++ c.builderSuffix) = true)) := by
  refine ⟨exists_forType_eq_ok_iff, fun f => ?_, requires_forType package name c, fun hvalid => ?_⟩
  · rw [forType_eq_ok_iff]
    exact ⟨fun h => ⟨h, h.qualifiedNames_nodup⟩, fun h => h.1⟩
  · have husable : c.Usable := Conventions.validate_eq_ok_iff_usable.1 hvalid
    exact ⟨exists_nested?_eq_ok husable, fun h => isIdentifier_append h husable.suffix_part⟩

/-- Of two things that are wrong the first is reported, and a name that is no identifier will do when the
suffix makes it one. -/
example :
    forType "org..example" "1st" .standard = .error (.identifier ⟨"org..example"⟩) ∧
      (forType "org.example" "" .standard).map (fun f => f.builder.qualifiedName) =
        .ok "org.example._Builder" := by
  constructor <;> rfl

end ClassFamily

end BuilderSpec
