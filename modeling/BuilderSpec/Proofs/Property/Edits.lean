/-
What a run of changes leaves in the draft of a property: in each field the last value written there. The
names are four fields, which may be written one by one or all at once. A draft in which every field is
written that must be is finished with just these values; of any other the first such field that is missing
is given.
-/
import BuilderSpec.Proofs.Attempt
import BuilderSpec.Property.Draft

namespace BuilderSpec.Property

variable {σ : Type}

/-! ## Fields -/

/-- The required fields in the order in which they are looked at. -/
def Field.inOrder : List Field :=
  [.declaredType, .name, .capitalizedName, .allCapsName, .getterName, .fullyCheckedCast]

/-- What is written into a required field. -/
def Field.Value : Field → Type
  | declaredType => TypeRef
  | name => String
  | capitalizedName => String
  | allCapsName => String
  | getterName => String
  | fullyCheckedCast => Bool

/-- The fields of a draft: the required ones, and the two that may be absent. -/
inductive Slot where
  | required (field : Field)
  | boxedType
  | generator
deriving DecidableEq

def Slot.Value (σ : Type) : Slot → Type
  | required field => field.Value
  | boxedType => TypeRef
  | generator => σ

/-- What a change writes into a field, if it writes there. Into the boxed type and the strategy it may write
that there is none. -/
def Edit.write? : Edit σ → (f : Slot) → Option (Option (f.Value σ))
  | .declaredType t, .required .declaredType => some (some t)
  | .boxedType t, .boxedType => some t
  | .name text, .required .name => some (some text)
  | .capitalizedName text, .required .capitalizedName => some (some text)
  | .allCapsName text, .required .allCapsName => some (some text)
  | .getterName text, .required .getterName => some (some text)
  | .names n, .required .name => some (some n.name)
  | .names n, .required .capitalizedName => some (some n.capitalizedName)
  | .names n, .required .allCapsName => some (some n.allCapsName)
  | .names n, .required .getterName => some (some n.getterName)
  | .generator g, .generator => some g
  | .fullyCheckedCast b, .required .fullyCheckedCast => some (some b)
  | _, _ => none

/-- The last value that changes write into a field, if any of them writes there. -/
def Edit.lastWrite (f : Slot) (edits : List (Edit σ)) : Option (Option (f.Value σ)) :=
  edits.reverse.findSome? fun e => e.write? f

/-- What a property says in a field. -/
def value (p : Property σ) : (f : Slot) → Option (f.Value σ)
  | .required .declaredType => some p.declaredType
  | .required .name => some p.name
  | .required .capitalizedName => some p.capitalizedName
  | .required .allCapsName => some p.allCapsName
  | .required .getterName => some p.getterName
  | .required .fullyCheckedCast => some p.fullyCheckedCast
  | .boxedType => p.boxedType
  | .generator => p.generator

theorem Edit.lastWrite_cons (f : Slot) (e : Edit σ) (rest : List (Edit σ)) :
    Edit.lastWrite f (e :: rest) = (Edit.lastWrite f rest).or (e.write? f) := by
  unfold Edit.lastWrite
  rw [List.reverse_cons, List.findSome?_append, List.findSome?_singleton]

/-- What is written into a required field is always a value. -/
theorem Edit.isNone_lastWrite_required (field : Field) (edits : List (Edit σ)) :
    ((Edit.lastWrite (.required field) edits).getD none).isNone =
      (Edit.lastWrite (.required field) edits).isNone := by
  cases hlast : Edit.lastWrite (.required field) edits with
  | none => rfl
  | some written =>
    obtain ⟨e, -, he⟩ := List.exists_of_findSome?_eq_some hlast
    cases written with
    | some v => rfl
    | none => cases field <;> cases e <;> cases he

namespace Draft

/-- What a draft holds in a field. -/
def held (d : Draft σ) : (f : Slot) → Option (f.Value σ)
  | .required .declaredType => d.declaredType
  | .required .name => d.name
  | .required .capitalizedName => d.capitalizedName
  | .required .allCapsName => d.allCapsName
  | .required .getterName => d.getterName
  | .required .fullyCheckedCast => d.fullyCheckedCast
  | .boxedType => d.boxedType
  | .generator => d.generator

theorem ext_held {d d' : Draft σ} (h : ∀ f, d.held f = d'.held f) : d = d' := by
  cases d
  cases d'
  cases h (.required .declaredType)
  cases h (.required .name)
  cases h (.required .capitalizedName)
  cases h (.required .allCapsName)
  cases h (.required .getterName)
  cases h (.required .fullyCheckedCast)
  cases h .boxedType
  cases h .generator
  rfl

theorem held_empty (f : Slot) : (empty : Draft σ).held f = none := by
  rcases f with (_ | _ | _ | _ | _ | _) | _ | _ <;> rfl

theorem held_toDraft (p : Property σ) (f : Slot) : p.toDraft.held f = p.value f := by
  rcases f with (_ | _ | _ | _ | _ | _) | _ | _ <;> rfl

/-! ## Runs of changes -/

theorem held_apply (d : Draft σ) (e : Edit σ) (f : Slot) :
    (d.apply e).held f = (e.write? f).getD (d.held f) := by
  rcases f with (_ | _ | _ | _ | _ | _) | _ | _ <;> cases e <;> rfl

theorem held_applyAll (d : Draft σ) (edits : List (Edit σ)) (f : Slot) :
    (d.applyAll edits).held f = (Edit.lastWrite f edits).getD (d.held f) := by
  induction edits generalizing d with
  | nil => rfl
  | cons e rest ih =>
    rw [applyAll_cons, ih, held_apply, Edit.lastWrite_cons]
    -- What the rest writes hides what this change writes.
    cases Edit.lastWrite f rest <;> rfl

/-! ## Finishing -/

theorem required_eq_ok_iff {α : Type} {field : Field} {value : Option α} {a : α} :
    required field value = .ok a ↔ value = some a := by
  cases value <;> simp [required]

/-- A draft is finished exactly with the property that says what the draft says. -/
theorem finish_eq_ok_iff {d : Draft σ} {p : Property σ} : d.finish = .ok p ↔ p.toDraft = d := by
  simp only [finish, bind_eq_ok_iff, required_eq_ok_iff]
  constructor
  · rintro ⟨declaredType, h1, name, h2, capitalizedName, h3, allCapsName, h4, getterName, h5, cast, h6, h⟩
    cases h
    cases d
    simp only at h1 h2 h3 h4 h5 h6
    subst h1 h2 h3 h4 h5 h6
    rfl
  · rintro rfl
    exact ⟨_, rfl, _, rfl, _, rfl, _, rfl, _, rfl, _, rfl, rfl⟩

/-- A required field is missing of a draft. -/
def Lacks (d : Draft σ) (field missing : Field) : Prop :=
  (d.held (.required field)).isNone = true ∧ field = missing

theorem requires_required (d : Draft σ) {α : Type} (field : Field) {value : Option α}
    (hvalue : value.isNone = (d.held (.required field)).isNone) :
    Requires d.Lacks [field] (required field value) := by
  refine .singleton fun missing => ?_
  rw [Lacks, ← hvalue]
  cases value <;> simp [required]

theorem requires_finish (d : Draft σ) : Requires d.Lacks Field.inOrder d.finish := by
  refine (d.requires_required .declaredType rfl).bind fun declaredType _ => ?_
  refine (d.requires_required .name rfl).bind fun name _ => ?_
  refine (d.requires_required .capitalizedName rfl).bind fun capitalizedName _ => ?_
  refine (d.requires_required .allCapsName rfl).bind fun allCapsName _ => ?_
  refine (d.requires_required .getterName rfl).bind fun getterName _ => ?_
  exact (d.requires_required .fullyCheckedCast rfl).bind fun fullyCheckedCast _ => .ok _

/-- A draft that cannot be finished lacks a required field, and the first is given. -/
theorem finish_eq_error_iff {d : Draft σ} {field : Field} :
    d.finish = .error field ↔
      (Field.inOrder.find? fun f => (d.held (.required f)).isNone) = some field := by
  have hfirst : (Field.inOrder.find? fun f => (d.held (.required f)).isNone).map id = some field ↔
      FirstReason d.Lacks (Field.inOrder.map id) field := FirstReason.find?_iff fun _ _ => Iff.rfl
  rw [Option.map_id_fun, List.map_id] at hfirst
  exact (d.requires_finish field).trans hfirst.symm

/-! ## Finishing after changes -/

/-- Changes leave an empty draft that is finished with just what they wrote last. -/
theorem finish_applyAll_eq_ok_iff {edits : List (Edit σ)} {p : Property σ} :
    (empty.applyAll edits).finish = .ok p ↔
      ∀ f, p.value f = (Edit.lastWrite f edits).getD none := by
  rw [finish_eq_ok_iff]
  constructor
  · intro h f
    rw [← held_toDraft, h, held_applyAll, held_empty]
  · intro h
    refine ext_held fun f => ?_
    rw [held_toDraft, h, held_applyAll, held_empty]

/-- They leave one that lacks the fields into which none of them wrote. -/
theorem finish_applyAll_eq_error_iff {edits : List (Edit σ)} {field : Field} :
    (empty.applyAll edits).finish = .error field ↔
      (Field.inOrder.find? fun f => (Edit.lastWrite (.required f) edits).isNone) = some field := by
  simp only [finish_eq_error_iff, held_applyAll, held_empty, Edit.isNone_lastWrite_required]

theorem exists_finish_applyAll_eq_ok_iff {edits : List (Edit σ)} :
    (∃ p, (empty.applyAll edits).finish = .ok p) ↔
      ∀ field, (Edit.lastWrite (.required field) edits).isSome = true := by
  constructor
  · rintro ⟨p, h⟩ field
    have hvalue := finish_applyAll_eq_ok_iff.1 h (.required field)
    rw [← Option.not_isNone, ← Edit.isNone_lastWrite_required, ← hvalue]
    cases field <;> rfl
  · intro h
    cases hfinish : (empty.applyAll edits).finish with
    | ok p => exact ⟨p, rfl⟩
    | error field =>
      have hmissing := List.find?_some (finish_applyAll_eq_error_iff.1 hfinish)
      rw [← Option.not_isSome, h field] at hmissing
      cases hmissing

end Draft

/-! ## Strategies -/

/-- The same property without a strategy. -/
def withoutGenerator (p : Property σ) : Property σ :=
  { p with generator := none }

/-- A property that is reopened and finished again is the same in every field. -/
theorem finish_toDraft (p : Property σ) : p.toDraft.finish = .ok p :=
  Draft.finish_eq_ok_iff.2 rfl

/-- A strategy that is set in a reopened property is the one attached to it. -/
theorem finish_apply_generator_some (p : Property σ) (g : σ) :
    (p.toDraft.apply (.generator (some g))).finish = .ok (p.withGenerator g) :=
  Draft.finish_eq_ok_iff.2 rfl

theorem finish_apply_generator_none (p : Property σ) :
    (p.toDraft.apply (.generator none)).finish = .ok p.withoutGenerator :=
  Draft.finish_eq_ok_iff.2 rfl

theorem value_withGenerator_of_ne (p : Property σ) (g : σ) {f : Slot} (h : f ≠ .generator) :
    (p.withGenerator g).value f = p.value f := by
  rcases f with (_ | _ | _ | _ | _ | _) | _ | _
  case generator => exact absurd rfl h
  all_goals rfl

theorem withGenerator_eq_self_iff {p : Property σ} {g : σ} :
    p.withGenerator g = p ↔ p.generator = some g := by
  constructor
  · intro h
    rw [← h]
    rfl
  · intro h
    cases p
    cases h
    rfl

theorem withoutGenerator_eq_self_iff {p : Property σ} :
    p.withoutGenerator = p ↔ p.generator = none := by
  constructor
  · intro h
    rw [← h]
    rfl
  · intro h
    cases p
    cases h
    rfl

end BuilderSpec.Property
