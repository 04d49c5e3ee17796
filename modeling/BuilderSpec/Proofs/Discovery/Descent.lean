/-
Properties without a strategy. Whatever is done to a draft, properties are only added to it, behind those
that are there. So a property without a strategy never goes away: a draft that has one is never finished,
nor is any draft that comes from it.
-/
import BuilderSpec.Proofs.Discovery.Changes
import BuilderSpec.Proofs.Specification.FirstDefect

namespace BuilderSpec

namespace Specification

variable {σ : Type}

/-! ## Properties are only added -/

theorem FirstWithoutGenerator.mono {before after : List (Property σ)} {index : Nat}
    (h : FirstWithoutGenerator before index) (hkept : before <+: after) :
    FirstWithoutGenerator after index := by
  obtain ⟨added, rfl⟩ := hkept
  obtain ⟨first, p, rest, rfl, hindex, hfirst, hp⟩ := h
  exact ⟨first, p, rest ++ added, by rw [List.append_assoc, List.cons_append], hindex, hfirst, hp⟩

namespace Draft

theorem properties_prefix_apply (d : Draft σ) (e : Edit (Property σ)) :
    d.properties <+: (d.apply e).properties :=
  ⟨e.properties, (d.properties_apply e).symm⟩

theorem properties_prefix_changeAll (d : Draft σ) (changes : List (Change σ)) :
    d.properties <+: (d.changeAll changes).properties := by
  refine changeAll_induction (P := fun d' => d.properties <+: d'.properties)
    (fun change _ d' hd' => ?_) List.prefix_rfl
  rcases d'.change_cases change with heq | ⟨e, heq, -⟩
  · rwa [heq]
  · rw [heq]
    exact hd'.trans (d'.properties_prefix_apply e)

end Draft

end Specification

namespace Discovery

open Specification

variable {σ : Type} {s : Discovery σ}

/-! ## Runs of calls -/

/-- A draft that comes from another in a run of calls has its properties, and behind them those that were
added. -/
theorem exists_get_after {calls : List (Call σ)} {name source : String}
    (hsource : s.sourceBefore? calls name = some source) {d : Draft σ}
    (hd : s.drafts.get source = .ok d) :
    ∃ d', (s.after calls).drafts.get name = .ok d' ∧ d.properties <+: d'.properties :=
  ⟨_, get_after hsource hd, d.properties_prefix_changeAll _⟩

/-- A property without a strategy keeps a draft, and whatever is made of it, from ever being finished. The
calls may set fields, add properties with a strategy or without, name the classes or fail to, try to finish
drafts and copy them; when nothing else is missing of the draft that is left, it is the strategy of just
that property. -/
theorem finish_after_of_firstWithoutGenerator {source name : String} {d : Draft σ} {index : Nat}
    (hd : s.drafts.get source = .ok d) (hindex : FirstWithoutGenerator d.properties index)
    {calls : List (Call σ)} (hsource : s.sourceBefore? calls name = some source) :
    ∃ d', (s.after calls).drafts.get name = .ok d' ∧
      (∃ defect, d'.finish = .silent (.error defect)) ∧
      (d'.finish = .silent (.error (.noGenerator index)) ↔ d'.Filled) ∧
      (Defect.noGenerator index).missingField? =
        some ("properties[" ++ index.repr ++ "].code_generator") ∧
      (Defect.noGenerator index).message = "Specification" ++ ": required field `" ++
        ("properties[" ++ index.repr ++ "].code_generator") ++ "` not set" := by
  obtain ⟨d', hd', hkept⟩ := exists_get_after hsource hd
  have hindex' : FirstWithoutGenerator d'.properties index := hindex.mono hkept
  refine ⟨d', hd', ?_, ?_, rfl, rfl⟩
  · exact Draft.exists_finish_eq_silent fun h => h.not_firstWithoutGenerator index hindex'
  · rw [Draft.finish_eq_silent_iff, Draft.finish_result_eq_noGenerator_iff]
    exact and_iff_left hindex'

/-- A pass that holds the draft of a specification whose second property has no strategy. -/
def undecided : Discovery StandardStrategy where
  propertyDrafts := .empty
  properties := Bindings.empty.bind "age" Draft.personAge
  drafts := Bindings.empty.bind "person" ((Draft.empty ⟨0⟩).applyAll
    [.addProperty Draft.personAge, .addProperty { Draft.personAge with generator := none }])
  specifications := .empty

/-- Calls that complete a copy of the draft in all else, and try to finish it on the way. -/
def completingCalls : List (Call StandardStrategy) := [
  .copyDraft "person" "other",
  .nameClasses "other" (fun _ _ => none) .standard,
  .edit "other" (.declaringType (DeclPath.toRef ⟨1⟩ (.topLevel "org.example" "Person"))),
  .finish "other" "other",
  .newSpecification ⟨1⟩ "person",
  .nameClasses "other" (fun _ _ => some "org.example") .standard,
  .edit "other" (.addProperties ["age", "age"]),
  .edit "nobody" (.addProperty "age"),
  .edit "other" (.builderType (DeclPath.toRef ⟨2⟩ ⟨"org.example", "Person", ["Builder"]⟩)),
  .edit "other" (.builderSerializable true),
  .edit "other" (.gwtSerializable false)]

theorem finish_after_completingCalls :
    undecided.sourceBefore? completingCalls "other" = some "person" ∧
      undecided.sourceBefore? completingCalls "person" = none ∧
      ∃ d d', undecided.drafts.get "person" = .ok d ∧ FirstWithoutGenerator d.properties 1 ∧
        (undecided.after completingCalls).drafts.get "other" = .ok d' ∧ d'.Filled ∧
        d'.properties.length = 4 ∧ d'.finish = .silent (.error (.noGenerator 1)) := by
  have hsource : undecided.sourceBefore? completingCalls "other" = some "person" := by decide
  have hindex : FirstWithoutGenerator [Draft.personAge, { Draft.personAge with generator := none }] 1 :=
    ⟨[Draft.personAge], _, [], rfl, rfl, by simp [Draft.personAge], rfl⟩
  obtain ⟨d', hd', -, hiff, -⟩ := finish_after_of_firstWithoutGenerator rfl hindex hsource
  have hfilled : d'.Filled := by
    cases hd'
    refine ⟨fun field => ?_, fun role => ?_⟩
    · rcases field with _ | _ | _ | (_ | _ | _) | _ | _ <;> rfl
    · cases role <;> exact ⟨_, _, rfl, rfl, rfl⟩
  refine ⟨hsource, by decide, _, d', rfl, hindex, hd', hfilled, ?_, hiff.2 hfilled⟩
  cases hd'
  rfl

end Discovery

end BuilderSpec
