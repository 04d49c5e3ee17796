/-
Conventions by which classes can be named: the suffix can stand at the end of an identifier, and the
nested classes have identifiers for names, each its own. These are the conventions that are accepted.
-/
import BuilderSpec.Conventions.Basic
import Mathlib.Data.Option.Basic

namespace BuilderSpec

theorem NestedRole.mem_all (role : NestedRole) : role ∈ NestedRole.all := by
  cases role <;> decide

namespace Conventions

open Naming

/-- What conventions need so that classes can be named by them. -/
structure Usable (c : Conventions) : Prop where
  suffix_ne_empty : c.builderSuffix ≠ ""
  suffix_part : ∀ ch ∈ c.builderSuffix.toList, isIdentifierPart ch = true
  identifier : ∀ role, isIdentifier (c.nestedName role) = true
  distinct : Function.Injective c.nestedName

/-! ## The checks one by one -/

theorem suffixFault?_eq_none_iff {c : Conventions} :
    c.suffixFault? = none ↔
      c.builderSuffix ≠ "" ∧ ∀ ch ∈ c.builderSuffix.toList, isIdentifierPart ch = true := by
  rw [← List.all_eq_true]
  unfold suffixFault?
  split
  · rename_i hempty
    simp [String.isEmpty_iff.1 hempty]
  · rename_i hne
    rw [String.isEmpty_iff] at hne
    split <;> rename_i hpart <;> simp [hne, hpart]

theorem nameFault?_eq_none_iff {c : Conventions} :
    c.nameFault? = none ↔ ∀ role, isIdentifier (c.nestedName role) = true := by
  unfold nameFault?
  rw [List.findSome?_eq_none_iff]
  constructor
  · intro h role
    have := h role role.mem_all
    split at this
    · assumption
    · cases this
  · intro h role _
    rw [if_pos (h role)]

/-- Two different roles are compared, in one order or the other. -/
theorem mem_rolePairs_or {role other : NestedRole} (h : role ≠ other) :
    (role, other) ∈ rolePairs ∨ (other, role) ∈ rolePairs := by
  revert h
  cases role <;> cases other <;> decide

theorem ne_of_mem_rolePairs {role other : NestedRole} (h : (role, other) ∈ rolePairs) :
    role ≠ other := by
  rintro rfl
  revert h
  cases role <;> decide

theorem sharedNameFault?_eq_none_iff {c : Conventions} :
    c.sharedNameFault? = none ↔ Function.Injective c.nestedName := by
  unfold sharedNameFault?
  rw [List.findSome?_eq_none_iff]
  constructor
  · intro h role other heq
    have hne : ∀ first second, (first, second) ∈ rolePairs →
        c.nestedName first ≠ c.nestedName second := by
      intro first second hpair hsame
      have := h (first, second) hpair
      dsimp only at this
      rw [if_pos hsame] at this
      cases this
    by_contra hdiff
    rcases mem_rolePairs_or hdiff with hpair | hpair
    · exact hne _ _ hpair heq
    · exact hne _ _ hpair heq.symm
  · rintro h ⟨first, second⟩ hpair
    exact if_neg (h.ne (ne_of_mem_rolePairs hpair))

/-! ## The checks together -/

theorem fault?_eq_none_iff {c : Conventions} : c.fault? = none ↔ c.Usable := by
  unfold fault?
  rw [Option.orElse_eq_none, Option.orElse_eq_none, suffixFault?_eq_none_iff,
    nameFault?_eq_none_iff, sharedNameFault?_eq_none_iff]
  constructor
  · rintro ⟨⟨hne, hpart⟩, hid, hinj⟩
    exact ⟨hne, hpart, hid, hinj⟩
  · rintro ⟨hne, hpart, hid, hinj⟩
    exact ⟨⟨hne, hpart⟩, hid, hinj⟩

theorem validate_eq_ok_iff_usable {c : Conventions} : c.validate = .ok () ↔ c.Usable :=
  validate_eq_ok_iff.trans fault?_eq_none_iff

end Conventions

end BuilderSpec
