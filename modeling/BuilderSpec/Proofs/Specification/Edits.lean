/-
What a run of changes leaves in a draft: in each field the last value written there, behind the
properties those that were added, in the order of the changes, and among the methods those that
were added, in whatever order, however often and however grouped. Two runs that agree on this leave
the same draft, and so the same specification, defect and events.
-/
import BuilderSpec.Proofs.Class.Named
import BuilderSpec.Specification.Draft
import Mathlib.Data.List.Basic

namespace BuilderSpec.Specification

/-! ## What a change does -/

/-- The fields of a draft that forget what they held when they are written. -/
inductive Slot where
  | declaringType
  | builderType
  | builderFactory
  | generatedBuilder
  | nested (role : NestedRole)
  | builderSerializable
  | gwtSerializable
deriving DecidableEq

/-- What a field holds. -/
def Slot.Held : Slot → Type
  | declaringType => Option DeclRef
  | builderType => Option DeclRef
  | builderFactory => Option BuilderFactory
  | generatedBuilder => Option GeneratedClass
  | nested _ => Option GeneratedClass
  | builderSerializable => Option Bool
  | gwtSerializable => Option Bool

namespace Edit

variable {π : Type}

/-- What a change writes into a field, if it writes there. A family of classes is written into four
fields at once. -/
def write? : Edit π → (f : Slot) → Option f.Held
  | .declaringType d, .declaringType => some (some d)
  | .builderType d, .builderType => some (some d)
  | .builderFactory factory, .builderFactory => some factory
  | .generatedBuilder c, .generatedBuilder => some (some c)
  | .valueClass c, .nested .valueClass => some (some c)
  | .partialClass c, .nested .partialClass => some (some c)
  | .propertyEnum c, .nested .propertyEnum => some (some c)
  | .classes family, .generatedBuilder => some (some family.builder)
  | .classes family, .nested role => some (some (family.nested role))
  | .builderSerializable b, .builderSerializable => some (some b)
  | .gwtSerializable b, .gwtSerializable => some (some b)
  | _, _ => none

/-- The properties that a change adds. -/
def properties : Edit π → List π
  | .addProperty p => [p]
  | .addProperties ps => ps
  | _ => []

/-- The methods that a change adds. -/
def methods : Edit π → List ObjectMethod
  | .addMethod m => [m]
  | .addMethods ms => ms
  | _ => []

/-- The last value that changes write into a field, if any of them writes there. -/
def lastWrite (f : Slot) : List (Edit π) → Option f.Held
  | [] => none
  | e :: rest => (lastWrite f rest).or (e.write? f)

/-- Runs of changes have the same effect when they write the same value last into each field, or
both write none, and add the same list of properties and the same set of methods. -/
structure SameEffect (edits edits' : List (Edit π)) : Prop where
  writes : ∀ f, lastWrite f edits = lastWrite f edits'
  properties : edits.flatMap Edit.properties = edits'.flatMap Edit.properties
  methods : ∀ m, m ∈ edits.flatMap Edit.methods ↔ m ∈ edits'.flatMap Edit.methods

/-! ## Runs of the same effect -/

theorem lastWrite_append (f : Slot) (a b : List (Edit π)) :
    lastWrite f (a ++ b) = (lastWrite f b).or (lastWrite f a) := by
  induction a with
  | nil => exact Option.or_none.symm
  | cons e rest ih => rw [List.cons_append, lastWrite, ih, lastWrite, Option.or_assoc]

namespace SameEffect

variable {a a' b b' : List (Edit π)}

theorem refl (a : List (Edit π)) : SameEffect a a :=
  ⟨fun _ => rfl, rfl, fun _ => Iff.rfl⟩

theorem append (h : SameEffect a a') (h' : SameEffect b b') : SameEffect (a ++ b) (a' ++ b') where
  writes f := by rw [lastWrite_append, lastWrite_append, h.writes f, h'.writes f]
  properties := by rw [List.flatMap_append, List.flatMap_append, h.properties, h'.properties]
  methods m := by
    rw [List.flatMap_append, List.flatMap_append, List.mem_append, List.mem_append, h.methods m,
      h'.methods m]

theorem inside (h : SameEffect a a') (before after : List (Edit π)) :
    SameEffect (before ++ a ++ after) (before ++ a' ++ after) :=
  ((refl before).append h).append (refl after)

end SameEffect

/-- Changes that may be made in either order: they write no field in common, and at most one of them
adds properties. -/
structure Independent (a b : Edit π) : Prop where
  writes : ∀ f, a.write? f = none ∨ b.write? f = none
  properties : a.properties = [] ∨ b.properties = []

theorem Independent.sameEffect_swap {a b : Edit π} (h : Independent a b) :
    SameEffect [a, b] [b, a] where
  writes f := by
    simp only [lastWrite, Option.none_or]
    rcases h.writes f with ha | hb
    · rw [ha, Option.or_none, Option.none_or]
    · rw [hb, Option.or_none, Option.none_or]
  properties := by
    simp only [List.flatMap_cons, List.flatMap_nil, List.append_nil]
    rcases h.properties with ha | hb
    · rw [ha, List.append_nil, List.nil_append]
    · rw [hb, List.append_nil, List.nil_append]
  methods m := by
    simp only [List.flatMap_cons, List.flatMap_nil, List.append_nil, List.mem_append, Or.comm]

/-- The change made in as many steps as it has parts. -/
def singles : Edit π → List (Edit π)
  | .classes family =>
    [.generatedBuilder family.builder, .valueClass family.valueClass,
      .partialClass family.partialClass, .propertyEnum family.propertyEnum]
  | .addProperties ps => ps.map .addProperty
  | .addMethods ms => ms.map .addMethod
  | e => [e]

theorem lastWrite_eq_none {f : Slot} {edits : List (Edit π)} (h : ∀ e ∈ edits, e.write? f = none) :
    lastWrite f edits = none := by
  induction edits with
  | nil => rfl
  | cons e rest ih =>
    rw [lastWrite, ih fun e' he' => h e' (List.mem_cons_of_mem e he'), h e List.mem_cons_self]
    rfl

theorem lastWrite_addProperty (f : Slot) (ps : List π) : lastWrite f (ps.map .addProperty) = none := by
  refine lastWrite_eq_none fun e he => ?_
  obtain ⟨p, -, rfl⟩ := List.mem_map.1 he
  cases f <;> rfl

theorem lastWrite_addMethod (f : Slot) (ms : List ObjectMethod) :
    lastWrite f (ms.map (.addMethod (π := π))) = none := by
  refine lastWrite_eq_none fun e he => ?_
  obtain ⟨m, -, rfl⟩ := List.mem_map.1 he
  cases f <;> rfl

theorem lastWrite_singles (e : Edit π) (f : Slot) : lastWrite f e.singles = e.write? f := by
  cases e with
  | addProperties ps => exact (lastWrite_addProperty f ps).trans (by cases f <;> rfl)
  | addMethods ms => exact (lastWrite_addMethod f ms).trans (by cases f <;> rfl)
  | classes family =>
    rcases f with _ | _ | _ | _ | role | _ | _
    case nested => cases role <;> rfl
    all_goals rfl
  | _ => exact Option.none_or

theorem properties_addMethod (ms : List ObjectMethod) :
    (ms.map (.addMethod (π := π))).flatMap Edit.properties = [] := by
  rw [List.flatMap_eq_nil_iff]
  intro e he
  obtain ⟨m, -, rfl⟩ := List.mem_map.1 he
  rfl

theorem methods_addMethod (ms : List ObjectMethod) :
    (ms.map (.addMethod (π := π))).flatMap Edit.methods = ms := by
  rw [List.flatMap_map]
  exact List.flatMap_singleton' ms

theorem properties_singles (e : Edit π) : e.singles.flatMap Edit.properties = e.properties := by
  cases e with
  | addProperties ps =>
    rw [singles, List.flatMap_map]
    exact List.flatMap_singleton' ps
  | addMethods ms => exact properties_addMethod ms
  | _ => rfl

theorem methods_singles (e : Edit π) : e.singles.flatMap Edit.methods = e.methods := by
  cases e with
  | addProperties ps => simp [singles, Edit.methods, List.flatMap_map]
  | addMethods ms => exact methods_addMethod ms
  | _ => rfl

/-- It does not matter how additions and classes are grouped. -/
theorem sameEffect_singles (edits : List (Edit π)) : SameEffect edits (edits.flatMap singles) := by
  induction edits with
  | nil => exact .refl []
  | cons e rest ih =>
    refine SameEffect.append (a := [e]) ⟨fun f => ?_, ?_, fun m => ?_⟩ ih
    · rw [lastWrite_singles]
      exact Option.none_or
    · rw [properties_singles, List.flatMap_singleton]
    · rw [methods_singles, List.flatMap_singleton]

/-- It does not matter in which order methods are added, nor how often. -/
theorem sameEffect_addMethod {ms ms' : List ObjectMethod} (h : ∀ m, m ∈ ms ↔ m ∈ ms') :
    SameEffect (ms.map (.addMethod (π := π))) (ms'.map .addMethod) where
  writes f := by rw [lastWrite_addMethod, lastWrite_addMethod]
  properties := by rw [properties_addMethod, properties_addMethod]
  methods m := by rw [methods_addMethod, methods_addMethod, h m]

end Edit

namespace Draft

variable {σ : Type}

/-- What a draft holds in a field. -/
def held (d : Draft σ) : (f : Slot) → f.Held
  | .declaringType => d.declaringType
  | .builderType => d.builderType
  | .builderFactory => d.builderFactory
  | .generatedBuilder => d.generatedBuilder
  | .nested .valueClass => d.valueClass
  | .nested .partialClass => d.partialClass
  | .nested .propertyEnum => d.propertyEnum
  | .builderSerializable => d.builderSerializable
  | .gwtSerializable => d.gwtSerializable

/-- A draft is where it looks packages up, what its fields hold, its properties and its methods. -/
theorem ext_held {d d' : Draft σ} (hk : d.packages = d'.packages) (hf : ∀ f, d.held f = d'.held f)
    (hp : d.properties = d'.properties) (hm : d.ownMethods = d'.ownMethods) : d = d' := by
  cases d
  cases d'
  cases hk
  cases hp
  cases hm
  cases hf .declaringType
  cases hf .builderType
  cases hf .builderFactory
  cases hf .generatedBuilder
  cases hf (.nested .valueClass)
  cases hf (.nested .partialClass)
  cases hf (.nested .propertyEnum)
  cases hf .builderSerializable
  cases hf .gwtSerializable
  rfl

theorem held_toDraft (s : Specification σ) (role : NestedRole) :
    s.toDraft.held (.nested role) = some (s.classes.nested role) := by
  cases role <;> rfl

/-! ## One change -/

theorem packages_apply (d : Draft σ) (e : Edit (Property σ)) : (d.apply e).packages = d.packages := by
  cases e <;> rfl

theorem held_apply (d : Draft σ) (e : Edit (Property σ)) (f : Slot) :
    (d.apply e).held f = (e.write? f).getD (d.held f) := by
  rcases f with _ | _ | _ | _ | role | _ | _
  case nested => cases role <;> cases e <;> rfl
  all_goals cases e <;> rfl

theorem held_apply_of_none {d : Draft σ} {e : Edit (Property σ)} {f : Slot} (h : e.write? f = none) :
    (d.apply e).held f = d.held f := by
  rw [held_apply, h]
  rfl

theorem properties_apply (d : Draft σ) (e : Edit (Property σ)) :
    (d.apply e).properties = d.properties ++ e.properties := by
  cases e <;> first | rfl | exact (List.append_nil _).symm

theorem contains_ownMethods_apply (d : Draft σ) (e : Edit (Property σ)) (m : ObjectMethod) :
    (d.apply e).ownMethods.contains m = (decide (m ∈ e.methods) || d.ownMethods.contains m) := by
  cases e with
  | addMethod n => simp only [apply, Edit.methods, MethodSet.contains_insert, List.mem_singleton]
  | addMethods ms => exact MethodSet.contains_insertAll d.ownMethods ms m
  | _ => simp [apply, Edit.methods]

/-! ## Runs of changes -/

theorem packages_applyAll (d : Draft σ) (edits : List (Edit (Property σ))) :
    (d.applyAll edits).packages = d.packages := by
  induction edits generalizing d with
  | nil => rfl
  | cons e rest ih => rw [applyAll_cons, ih, packages_apply]

theorem held_applyAll (d : Draft σ) (edits : List (Edit (Property σ))) (f : Slot) :
    (d.applyAll edits).held f = (Edit.lastWrite f edits).getD (d.held f) := by
  induction edits generalizing d with
  | nil => rfl
  | cons e rest ih =>
    rw [applyAll_cons, ih, held_apply, Edit.lastWrite]
    -- What the rest writes hides what this change writes.
    cases Edit.lastWrite f rest <;> rfl

theorem properties_applyAll (d : Draft σ) (edits : List (Edit (Property σ))) :
    (d.applyAll edits).properties = d.properties ++ edits.flatMap Edit.properties := by
  induction edits generalizing d with
  | nil => exact (List.append_nil _).symm
  | cons e rest ih => rw [applyAll_cons, ih, properties_apply, List.flatMap_cons, List.append_assoc]

theorem contains_ownMethods_applyAll (d : Draft σ) (edits : List (Edit (Property σ))) (m : ObjectMethod) :
    (d.applyAll edits).ownMethods.contains m =
      (decide (m ∈ edits.flatMap Edit.methods) || d.ownMethods.contains m) := by
  induction edits generalizing d with
  | nil => rfl
  | cons e rest ih =>
    rw [applyAll_cons, ih, contains_ownMethods_apply, List.flatMap_cons, ← Bool.or_assoc,
      ← Bool.decide_or]
    simp only [List.mem_append, Or.comm]

/-- Runs of the same effect leave the same draft. -/
theorem applyAll_eq_of_sameEffect (d : Draft σ) {edits edits' : List (Edit (Property σ))}
    (h : Edit.SameEffect edits edits') : d.applyAll edits = d.applyAll edits' := by
  refine ext_held ?_ (fun f => ?_) ?_ (MethodSet.ext fun m => ?_)
  · rw [packages_applyAll, packages_applyAll]
  · rw [held_applyAll, held_applyAll, h.writes f]
  · rw [properties_applyAll, properties_applyAll, h.properties]
  · rw [contains_ownMethods_applyAll, contains_ownMethods_applyAll, decide_eq_decide.2 (h.methods m)]

/-- The order of independent changes does not matter: runs of the same effect leave the same draft,
and finishing it gives the same specification or defect and reports the same events. Of the same
effect are runs that differ in the order of two changes that write no field in common and do not both
add properties, in how additions and classes are grouped, and in the order in which methods are added
and how often. -/
theorem finish_applyAll_of_sameEffect (d : Draft σ) :
    (∀ edits edits' : List (Edit (Property σ)), Edit.SameEffect edits edits' →
      d.applyAll edits = d.applyAll edits' ∧
        (d.applyAll edits).finish = (d.applyAll edits').finish) ∧
    (∀ (before after : List (Edit (Property σ))) (a b : Edit (Property σ)), Edit.Independent a b →
      Edit.SameEffect (before ++ [a, b] ++ after) (before ++ [b, a] ++ after)) ∧
    (∀ edits : List (Edit (Property σ)), Edit.SameEffect edits (edits.flatMap Edit.singles)) ∧
    (∀ (before after : List (Edit (Property σ))) (ms ms' : List ObjectMethod),
      (∀ m, m ∈ ms ↔ m ∈ ms') →
        Edit.SameEffect (before ++ ms.map .addMethod ++ after)
          (before ++ ms'.map .addMethod ++ after)) := by
  refine ⟨fun edits edits' h => ?_, fun before after a b h => ?_, Edit.sameEffect_singles,
    fun before after ms ms' h => ?_⟩
  · have heq := applyAll_eq_of_sameEffect d h
    exact ⟨heq, congrArg finish heq⟩
  · exact h.sameEffect_swap.inside before after
  · exact (Edit.sameEffect_addMethod h).inside before after

/-- What there is to say of a user type with one property, all classes at once. -/
def personEdits (family : ClassFamily) (age : Property StandardStrategy) :
    List (Edit (Property StandardStrategy)) := [
  .declaringType (DeclPath.toRef ⟨1⟩ (.topLevel "org.example" "Person")),
  .builderType (DeclPath.toRef ⟨2⟩ ⟨"org.example", "Person", ["Builder"]⟩),
  .classes family,
  .addMethods [.equals, .hashCode],
  .addProperties [age, age],
  .builderSerializable true,
  .gwtSerializable false]

/-- The same in another order, piece by piece, with second thoughts and repetitions. -/
def personEdits' (family : ClassFamily) (age : Property StandardStrategy) :
    List (Edit (Property StandardStrategy)) := [
  .addMethod .hashCode,
  .gwtSerializable true,
  .propertyEnum family.propertyEnum,
  .partialClass family.partialClass,
  .addProperty age,
  .valueClass family.builder,
  .generatedBuilder family.builder,
  .builderType (DeclPath.toRef ⟨2⟩ ⟨"org.example", "Person", ["Builder"]⟩),
  .gwtSerializable false,
  .addMethods [.equals, .hashCode, .equals],
  .valueClass family.valueClass,
  .addProperties [],
  .builderSerializable true,
  .declaringType (DeclPath.toRef ⟨1⟩ (.topLevel "org.example" "Person")),
  .addProperty age]

/-- The classes of the user type. -/
def personFamily : ClassFamily :=
  .standardIn (.topLevel personPackage personBuilderName)

/-- Its property. -/
def personAge : Property StandardStrategy where
  name := "age"
  capitalizedName := "Age"
  allCapsName := "AGE"
  getterName := "getAge"
  declaredType := ⟨⟨0⟩, "int", true⟩
  boxedType := none
  generator := some .default
  fullyCheckedCast := true

/-- Both runs leave the same draft, which can be finished, with a repeated name to report. -/
theorem finish_personEdits :
    Edit.SameEffect (personEdits personFamily personAge) (personEdits' personFamily personAge) ∧
      ((empty ⟨0⟩).applyAll (personEdits personFamily personAge)).finish.events.length = 2 ∧
      ((empty ⟨0⟩).applyAll (personEdits personFamily personAge) =
          (empty ⟨0⟩).applyAll (personEdits' personFamily personAge) ∧
        ((empty ⟨0⟩).applyAll (personEdits personFamily personAge)).finish =
          ((empty ⟨0⟩).applyAll (personEdits' personFamily personAge)).finish) := by
  have hsame : Edit.SameEffect (personEdits personFamily personAge)
      (personEdits' personFamily personAge) := by
    refine ⟨fun f => ?_, rfl, fun m => ?_⟩
    · rcases f with _ | _ | _ | _ | role | _ | _
      case nested => cases role <;> rfl
      all_goals rfl
    · cases m <;> decide
  exact ⟨hsame, by decide, (finish_applyAll_of_sameEffect (empty ⟨0⟩)).1 _ _ hsame⟩

end Draft

end BuilderSpec.Specification
