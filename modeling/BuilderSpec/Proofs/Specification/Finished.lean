/-
Finished specifications: the classes inside the builder are directly inside it and every property
has a strategy. A draft is accepted exactly when it says all that such a specification says, so a
specification that any run of calls has made can be reopened and finished again, as often as one
likes, and never changes.
-/
import BuilderSpec.Proofs.Discovery.Origin

namespace BuilderSpec

namespace Specification

variable {σ : Type}

/-- What finishing a draft makes sure of. -/
structure Finished (s : Specification σ) : Prop where
  nested : ∀ role, (s.classes.nested role).enclosing = some s.classes.builder
  generators : ∀ p ∈ s.properties, p.generator.isSome = true

namespace Draft

/-! ## The checks one by one -/

theorem required_eq_ok_iff {α : Type} {field : Field} {value : Option α} {a : α} :
    required field value = .ok a ↔ value = some a := by
  cases value <;> simp [required]

theorem requiredInside_eq_ok_iff {builder c : GeneratedClass} {role : NestedRole}
    {value : Option GeneratedClass} :
    requiredInside builder role value = .ok c ↔ value = some c ∧ c.enclosing = some builder := by
  unfold requiredInside
  rw [bind_eq_ok_iff]
  constructor
  · rintro ⟨c', hc', h⟩
    split at h
    · rename_i hn
      cases h
      exact ⟨required_eq_ok_iff.1 hc', GeneratedClass.isNestedIn_iff.1 hn⟩
    · cases h
  · rintro ⟨hv, hn⟩
    refine ⟨c, required_eq_ok_iff.2 hv, ?_⟩
    rw [if_pos (GeneratedClass.isNestedIn_iff.2 hn)]
    rfl

theorem checkGenerators_eq_ok_iff {properties : List (Property σ)} :
    checkGenerators properties = .ok () ↔ ∀ p ∈ properties, p.generator.isSome = true := by
  unfold checkGenerators
  cases h : properties.findIdx? fun p => p.generator.isNone with
  | none =>
    rw [List.findIdx?_eq_none_iff] at h
    constructor
    · intro _ p hp
      have := h p hp
      rwa [Option.isNone_eq_false_iff] at this
    · exact fun _ => rfl
  | some index =>
    obtain ⟨hi, hnone, -⟩ := List.findIdx?_eq_some_iff_getElem.1 h
    constructor
    · intro h
      cases h
    · intro hall
      have := hall _ (List.getElem_mem hi)
      rw [Option.isNone_iff_eq_none.1 hnone] at this
      cases this

/-! ## The check as a whole -/

/-- A draft is accepted exactly when it says all that a finished specification says, and then the
specification says nothing else. -/
theorem check_eq_ok_iff {d : Draft σ} {s : Specification σ} :
    d.check = .ok s ↔ d = s.toDraft ∧ s.Finished := by
  simp only [check, bind_eq_ok_iff, required_eq_ok_iff, requiredInside_eq_ok_iff]
  constructor
  -- Each check that passes pins one field of the draft down; the last leaves the specification.
  · rintro ⟨builderType, h1, builder, h2, declaringType, h3, valueClass, ⟨h4, hv⟩, partialClass,
      ⟨h5, hp⟩, propertyEnum, ⟨h6, he⟩, serializable, h7, gwt, h8, ⟨⟩, hg, h⟩
    cases h
    refine ⟨?_, ⟨fun role => ?_, checkGenerators_eq_ok_iff.1 hg⟩⟩
    · cases d
      simp only at h1 h2 h3 h4 h5 h6 h7 h8
      subst h1 h2 h3 h4 h5 h6 h7 h8
      rfl
    · cases role
      · exact hv
      · exact hp
      · exact he
  · rintro ⟨rfl, hf⟩
    exact ⟨_, rfl, _, rfl, _, rfl, _, ⟨rfl, hf.nested .valueClass⟩, _, ⟨rfl, hf.nested .partialClass⟩,
      _, ⟨rfl, hf.nested .propertyEnum⟩, _, rfl, _, rfl, (), checkGenerators_eq_ok_iff.2 hf.generators, rfl⟩

theorem finish_result (d : Draft σ) : d.finish.result = d.check := by
  unfold finish
  cases d.check <;> rfl

end Draft

theorem finished_of_finish {d : Draft σ} {s : Specification σ} (h : d.finish.result = .ok s) :
    s.Finished := by
  rw [d.finish_result] at h
  exact (Draft.check_eq_ok_iff.1 h).2

/-! ## Reopening -/

/-- Reopens a specification and finishes it again, `n` times. -/
def refinished : Nat → Specification σ → Except Defect (Specification σ)
  | 0, s => .ok s
  | n + 1, s => do refinished n (← s.toDraft.finish.result)

theorem Finished.finish_toDraft {s : Specification σ} (h : s.Finished) :
    s.toDraft.finish.result = .ok s :=
  s.toDraft.finish_result.trans (Draft.check_eq_ok_iff.2 ⟨rfl, h⟩)

theorem Finished.refinished_eq {s : Specification σ} (h : s.Finished) (n : Nat) :
    refinished n s = .ok s := by
  induction n with
  | zero => rfl
  | succ n ih => rw [refinished, h.finish_toDraft]; exact ih

end Specification

/-! ## Runs of calls -/

namespace Discovery

variable {σ : Type}

/-- Every specification that a pass holds is finished. -/
def AllFinished (s : Discovery σ) : Prop :=
  ∀ t ∈ s.specifications.values, t.Finished

theorem allFinished_empty : (empty : Discovery σ).AllFinished := fun _ h => by cases h

theorem AllFinished.step {s : Discovery σ} (hs : s.AllFinished) (c : Call σ) :
    (s.step c).1.AllFinished := by
  intro u hu
  rcases specification_step hu with hu | ⟨d, -, hd⟩
  · exact hs u hu
  · exact Specification.finished_of_finish hd

theorem AllFinished.after {s : Discovery σ} (hs : s.AllFinished) (calls : List (Call σ)) :
    (s.after calls).AllFinished :=
  after_induction (fun _ c h => h.step c) hs calls

/-- Whatever calls a pass makes, each specification that it comes to hold is finished: reopened and
finished again, once or any number of times, it is the same in every field. -/
theorem refinished_of_mem_after (calls : List (Call σ)) {s : Specification σ}
    (h : s ∈ (empty.after calls).specifications.values) :
    s.Finished ∧ s.toDraft.finish.result = .ok s ∧
      ∀ n, Specification.refinished n s = .ok s := by
  have hs : s.Finished := allFinished_empty.after calls s h
  exact ⟨hs, hs.finish_toDraft, hs.refinished_eq⟩

/-- A pass that finishes the specification of a user type with one property, and then another that
differs from it in how builders are made. -/
def personCalls : List (Call StandardStrategy) := [
  .newProperty "age",
  .editProperty "age" (.declaredType ⟨⟨0⟩, "int", true⟩),
  .editProperty "age" (.names ⟨"age", "Age", "AGE", "getAge"⟩),
  .editProperty "age" (.fullyCheckedCast true),
  .finishProperty "age" "age",
  .withGenerator "age" .default "age",
  .newSpecification ⟨0⟩ "person",
  .edit "person" (.declaringType (DeclPath.toRef ⟨1⟩ (.topLevel "org.example" "Person"))),
  .edit "person" (.builderType (DeclPath.toRef ⟨2⟩ ⟨"org.example", "Person", ["Builder"]⟩)),
  .nameClasses "person" (fun _ _ => some "org.example") .standard,
  .edit "person" (.addProperty "age"),
  .edit "person" (.builderSerializable true),
  .finish "person" "person",
  .edit "person" (.gwtSerializable false),
  .finish "person" "person",
  .reopen "person" "other",
  .edit "other" (.builderFactory (some .builderMethod)),
  .finish "other" "other"]

/-- The second of the two specifications, made from the first one reopened, never changes again. -/
theorem refinished_personCalls :
    ∃ s ∈ (empty.after personCalls).specifications.values,
      s.builderInvocation = some "org.example.Person.builder()" ∧
        s.Finished ∧ s.toDraft.finish.result = .ok s ∧
          ∀ n, Specification.refinished n s = .ok s := by
  have hmade : ((empty.after personCalls).specifications.values.map Specification.builderInvocation) =
      [some "org.example.Person.builder()", none] := by decide
  obtain ⟨s, hs, hinvocation⟩ := List.mem_map.1 (hmade ▸ List.mem_cons_self)
  exact ⟨s, hs, hinvocation, refinished_of_mem_after personCalls hs⟩

end Discovery

end BuilderSpec
