/-
What a pass makes of the draft of a property. Whatever else it does on the way, and however often it
finishes the draft or fails to, the draft is what the changes made to it leave, so that finishing it depends
on the last value written to each field alone.
-/
import BuilderSpec.Proofs.Discovery.Changes
import BuilderSpec.Proofs.Property.Edits

namespace BuilderSpec.Discovery

open Property

variable {σ : Type} {s : Discovery σ}

/-! ## Calls on a draft -/

/-- Whether a call begins the draft of a name, anew or from what is there. -/
def Call.beginsProperty (name : String) : Call σ → Bool
  | .newProperty made => made = name
  | .copyPropertyDraft _ made => made = name
  | .reopenProperty _ made => made = name
  | _ => false

/-- The change that a call makes to the draft of a name, if it makes one. -/
def Call.propertyEdit? (name : String) : Call σ → Option (Property.Edit σ)
  | .editProperty draft e => if draft = name then some e else none
  | _ => none

theorem propertyDraft_attempt {c : Call σ} {t : Discovery σ} {o : Outcome σ} (h : s.attempt c = .ok (t, o))
    {name : String} {d : Property.Draft σ} (hd : s.propertyDrafts.get name = .ok d)
    (hc : c.beginsProperty name = false) :
    t.propertyDrafts.get name = .ok (d.applyAll (c.propertyEdit? name).toList) := by
  cases c with
  | newProperty made =>
    cases h
    exact (s.propertyDrafts.get_bind_of_ne (of_decide_eq_false hc) _).trans hd
  | newSpecification packages made =>
    cases h
    exact hd
  | copyPropertyDraft draft made =>
    obtain ⟨d', -, h⟩ := bind_eq_ok_iff.1 h
    cases h
    exact (s.propertyDrafts.get_bind_of_ne (of_decide_eq_false hc) _).trans hd
  | reopenProperty property made =>
    obtain ⟨p, -, h⟩ := bind_eq_ok_iff.1 h
    cases h
    exact (s.propertyDrafts.get_bind_of_ne (of_decide_eq_false hc) _).trans hd
  | editProperty draft e =>
    obtain ⟨d', hd', h⟩ := bind_eq_ok_iff.1 h
    cases h
    rw [Call.propertyEdit?]
    by_cases hname : draft = name
    · subst hname
      cases hd'.symm.trans hd
      rw [if_pos rfl, s.propertyDrafts.get_bind_self]
      rfl
    · rw [if_neg hname, s.propertyDrafts.get_bind_of_ne hname, hd]
      rfl
  | edit draft e =>
    obtain ⟨d', -, h⟩ := bind_eq_ok_iff.1 h
    obtain ⟨e', -, h⟩ := bind_eq_ok_iff.1 h
    cases h
    exact hd
  | _ =>
    -- The other calls look one thing up, and leave the drafts of properties alone.
    obtain ⟨x, -, h⟩ := bind_eq_ok_iff.1 h
    cases h
    exact hd

/-- A call that names something which is not there makes no change to a draft that is. -/
theorem propertyEdit?_of_attempt_eq_error {c : Call σ} {u : Unbound} (h : s.attempt c = .error u)
    {name : String} {d : Property.Draft σ} (hd : s.propertyDrafts.get name = .ok d) :
    c.propertyEdit? name = none := by
  cases c with
  | editProperty draft e =>
    rw [Call.propertyEdit?]
    by_cases hname : draft = name
    · subst hname
      simp only [attempt, hd] at h
      cases h
    · rw [if_neg hname]
  | _ => rfl

/-- A call leaves the draft of a name with the change made that it makes to it. -/
theorem propertyDraft_step {c : Call σ} {name : String} {d : Property.Draft σ}
    (hd : s.propertyDrafts.get name = .ok d) (hc : c.beginsProperty name = false) :
    (s.step c).1.propertyDrafts.get name = .ok (d.applyAll (c.propertyEdit? name).toList) := by
  unfold step
  cases h : s.attempt c with
  | error u =>
    rw [propertyEdit?_of_attempt_eq_error h hd]
    exact hd
  | ok result => exact propertyDraft_attempt h hd hc

/-! ## Runs of calls -/

/-- The changes that calls make to the draft of a name, while it is not begun again. -/
def propertyEdits (name : String) (calls : List (Call σ)) : List (Property.Edit σ) :=
  calls.filterMap fun c => c.propertyEdit? name

theorem propertyEdits_cons (name : String) (c : Call σ) (rest : List (Call σ)) :
    propertyEdits name (c :: rest) = (c.propertyEdit? name).toList ++ propertyEdits name rest := by
  unfold propertyEdits
  rw [List.filterMap_cons]
  cases c.propertyEdit? name <;> rfl

theorem propertyDraft_after {name : String} {d : Property.Draft σ} (hd : s.propertyDrafts.get name = .ok d)
    {calls : List (Call σ)} (hcalls : ∀ c ∈ calls, c.beginsProperty name = false) :
    (s.after calls).propertyDrafts.get name = .ok (d.applyAll (propertyEdits name calls)) := by
  induction calls generalizing s d with
  | nil => exact hd
  | cons c rest ih =>
    obtain ⟨hc, hrest⟩ := List.forall_mem_cons.1 hcalls
    rw [after, ih (propertyDraft_step hd hc) hrest, ← Property.Draft.applyAll_append, propertyEdits_cons]

theorem outcome_finishProperty {draft : String} {d : Property.Draft σ}
    (hd : s.propertyDrafts.get draft = .ok d) (name : String) :
    (s.step (.finishProperty draft name)).2 = .property d.finish := by
  simp only [step, attempt, hd]
  rfl

theorem propertyDraft_newProperty (s : Discovery σ) (name : String) :
    (s.step (.newProperty name)).1.propertyDrafts.get name = .ok .empty :=
  s.propertyDrafts.get_bind_self name .empty

/-- A draft of a property is a record in which the last write wins. Whatever calls a pass makes after it has
begun the draft, as long as it does not begin it again: finishing the draft gives the property with the
values written last, if each required field has been written, and else the first one that has not. A
finished property that is reopened is finished again as it is. To set a strategy in the reopened property is
to attach it: it takes the place of the one that is there, and nothing else changes. To take the strategy away
and attach another is the same as attaching the other. -/
theorem finishProperty_lastWrite :
    (∀ (s : Discovery σ) (draft name : String) (calls : List (Call σ)),
      (∀ c ∈ calls, c.beginsProperty draft = false) →
      ∃ result, (((s.step (.newProperty draft)).1.after calls).step (.finishProperty draft name)).2 =
          .property result ∧
        (∀ p, result = .ok p ↔
          ∀ f, p.value f = (Edit.lastWrite f (propertyEdits draft calls)).getD none) ∧
        ((∃ p, result = .ok p) ↔
          ∀ field, (Edit.lastWrite (.required field) (propertyEdits draft calls)).isSome = true) ∧
        ∀ field, result = .error field ↔
          (Field.inOrder.find? fun f =>
            (Edit.lastWrite (.required f) (propertyEdits draft calls)).isNone) = some field) ∧
    Field.inOrder.map Field.key =
      ["declared_type", "name", "capitalized_name", "all_caps_name", "getter_name", "fully_checked_cast"] ∧
    ∀ (p : Property σ) (g h : σ),
      p.toDraft.finish = .ok p ∧
      (p.toDraft.apply (.generator (some g))).finish = .ok (p.withGenerator g) ∧
      (p.withGenerator g).value .generator = some g ∧
      (∀ f, f ≠ .generator → (p.withGenerator g).value f = p.value f) ∧
      (p.withGenerator h).withGenerator g = p.withGenerator g ∧
      (p.toDraft.apply (.generator none)).finish = .ok p.withoutGenerator ∧
      p.withoutGenerator.withGenerator g = p.withGenerator g ∧
      (p.withGenerator g).withoutGenerator = p.withoutGenerator ∧
      (p.withGenerator g = p ↔ p.generator = some g) ∧
      (p.withoutGenerator = p ↔ p.generator = none) := by
  refine ⟨fun s draft name calls hcalls => ?_, rfl, fun p g h => ?_⟩
  · have hd := propertyDraft_after (propertyDraft_newProperty s draft) hcalls
    exact ⟨_, outcome_finishProperty hd name, fun p => Draft.finish_applyAll_eq_ok_iff,
      Draft.exists_finish_applyAll_eq_ok_iff, fun field => Draft.finish_applyAll_eq_error_iff⟩
  · exact ⟨p.finish_toDraft, p.finish_apply_generator_some g, rfl,
      fun f hf => p.value_withGenerator_of_ne g hf, rfl, p.finish_apply_generator_none, rfl, rfl,
      withGenerator_eq_self_iff, withoutGenerator_eq_self_iff⟩

/-- Calls on the draft of an age, with others between them: the names are written twice, and the boxed type
and the strategy are taken away again. -/
def ageCalls : List (Call Nat) := [
  .editProperty "age" (.name "years"),
  .editProperty "age" (.fullyCheckedCast true),
  .editProperty "age" (.names ⟨"age", "Age", "AGE", "getAge"⟩),
  .finishProperty "age" "early",
  .newProperty "size",
  .editProperty "size" (.names ⟨"size", "Size", "SIZE", "getSize"⟩),
  .editProperty "age" (.boxedType (some ⟨⟨1⟩, "java.lang.Integer", false⟩)),
  .editProperty "age" (.boxedType none),
  .editProperty "age" (.getterName "age"),
  .editProperty "age" (.generator (some 7)),
  .editProperty "age" (.generator none),
  .editProperty "age" (.declaredType ⟨⟨0⟩, "int", true⟩)]

/-- Without the last of them the declared type is missing; with all of them there is a property that says what
was written last. -/
theorem finishProperty_ageCalls :
    (∃ result,
      ((((empty : Discovery Nat).step (.newProperty "age")).1.after ageCalls.dropLast).step
        (.finishProperty "age" "age")).2 = .property result ∧ result = .error .declaredType) ∧
    ∃ result,
      ((((empty : Discovery Nat).step (.newProperty "age")).1.after ageCalls).step
        (.finishProperty "age" "age")).2 = .property result ∧
        result = .ok ⟨⟨"age", "Age", "AGE", "age"⟩, ⟨⟨0⟩, "int", true⟩, none, none, true⟩ := by
  constructor
  · obtain ⟨result, hresult, -, -, herror⟩ :=
      finishProperty_lastWrite.1 (empty : Discovery Nat) "age" "age" ageCalls.dropLast (by decide)
    exact ⟨result, hresult, (herror .declaredType).2 rfl⟩
  · obtain ⟨result, hresult, hok, -⟩ :=
      finishProperty_lastWrite.1 (empty : Discovery Nat) "age" "age" ageCalls (by decide)
    refine ⟨result, hresult, (hok _).2 fun f => ?_⟩
    rcases f with (_ | _ | _ | _ | _ | _) | _ | _ <;> rfl

end BuilderSpec.Discovery
