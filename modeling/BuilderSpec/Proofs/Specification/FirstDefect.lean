/-
What is asked of a draft before it is finished, in the order in which it is asked: that the fields are
there, that each class inside the builder is directly inside it, asked as soon as the class is known to be
there, and last that every property has a strategy. A draft of which nothing is missing is finished with
just what it says; of any other the first defect is given, however many it has.
-/
import BuilderSpec.Proofs.Specification.Edits
import BuilderSpec.Proofs.Specification.Finished

namespace BuilderSpec.Specification

/-! ## Requirements -/

/-- What a draft must be to be finished. -/
inductive Requirement where
  /-- A field is there. -/
  | present (field : Field)
  /-- A class is directly inside the builder. -/
  | inside (role : NestedRole)
  /-- Every property has a strategy. -/
  | generators
deriving DecidableEq

/-- The requirements in the order in which they are looked at. -/
def Requirement.inOrder : List Requirement := [
  .present .builderType, .present .generatedBuilder, .present .declaringType,
  .present (.nested .valueClass), .inside .valueClass,
  .present (.nested .partialClass), .inside .partialClass,
  .present (.nested .propertyEnum), .inside .propertyEnum,
  .present .builderSerializable, .present .gwtSerializable,
  .generators]

/-- The fields in the order in which they are looked for. -/
def Field.inOrder : List Field := [
  .builderType, .generatedBuilder, .declaringType, .nested .valueClass, .nested .partialClass,
  .nested .propertyEnum, .builderSerializable, .gwtSerializable]

theorem Field.mem_inOrder (field : Field) : field ∈ inOrder := by
  rcases field with _ | _ | _ | (_ | _ | _) | _ | _ <;> decide

variable {σ : Type}

/-- The property at `index` has no strategy, and those before it have one. -/
def FirstWithoutGenerator (properties : List (Property σ)) (index : Nat) : Prop :=
  ∃ before p after, properties = before ++ p :: after ∧ before.length = index ∧
    (∀ q ∈ before, q.generator.isSome = true) ∧ p.generator = none

namespace Draft

/-- Whether a field is there. -/
def has (d : Draft σ) : Field → Bool
  | .builderType => d.builderType.isSome
  | .generatedBuilder => d.generatedBuilder.isSome
  | .declaringType => d.declaringType.isSome
  | .nested .valueClass => d.valueClass.isSome
  | .nested .partialClass => d.partialClass.isSome
  | .nested .propertyEnum => d.propertyEnum.isSome
  | .builderSerializable => d.builderSerializable.isSome
  | .gwtSerializable => d.gwtSerializable.isSome

/-- The draft does not meet a requirement, and with which defect. That a class is not inside the builder
can be said only when both are there. -/
inductive Breaks (d : Draft σ) : Requirement → Defect → Prop
  | missing {field : Field} (h : d.has field = false) : Breaks d (.present field) (.missing field)
  | misnested {role : NestedRole} {builder c : GeneratedClass} (hb : d.generatedBuilder = some builder)
      (hc : d.held (.nested role) = some c) (h : c.enclosing ≠ some builder) :
      Breaks d (.inside role) (.misnested role builder c.enclosing)
  | noGenerator {index : Nat} (h : FirstWithoutGenerator d.properties index) :
      Breaks d .generators (.noGenerator index)

/-- All fields are there, and each class that must be directly inside the builder is. -/
structure Filled (d : Draft σ) : Prop where
  has : ∀ field, d.has field = true
  inside : ∀ role, ∃ builder c, d.generatedBuilder = some builder ∧
    d.held (.nested role) = some c ∧ c.enclosing = some builder

/-- Nothing is missing of the draft. -/
structure Complete (d : Draft σ) : Prop extends d.Filled where
  generators : ∀ p ∈ d.properties, p.generator.isSome = true

/-! ## The checks one by one -/

theorem findIdx?_generator_eq_some_iff {properties : List (Property σ)} {index : Nat} :
    (properties.findIdx? fun p => p.generator.isNone) = some index ↔
      FirstWithoutGenerator properties index := by
  rw [List.findIdx?_eq_some_iff_getElem]
  constructor
  · rintro ⟨hindex, hnone, hfirst⟩
    refine ⟨properties.take index, properties[index], properties.drop (index + 1), ?_,
      List.length_take_of_le (Nat.le_of_lt hindex), fun q hq => ?_, Option.isNone_iff_eq_none.1 hnone⟩
    · rw [List.getElem_cons_drop, List.take_append_drop]
    · obtain ⟨j, hj, rfl⟩ := List.mem_take_iff_getElem.1 hq
      have hgenerator := hfirst j (Nat.lt_of_lt_of_le hj (Nat.min_le_left _ _))
      rwa [Bool.not_eq_true, Option.isNone_eq_false_iff] at hgenerator
  · rintro ⟨before, p, after, rfl, rfl, hbefore, hp⟩
    refine ⟨by simp, by simp [hp], fun j hj => ?_⟩
    rw [List.getElem_append_left hj, Bool.not_eq_true, Option.isNone_eq_false_iff]
    exact hbefore _ (List.getElem_mem hj)

theorem Complete.not_firstWithoutGenerator {d : Draft σ} (h : d.Complete) (index : Nat) :
    ¬ FirstWithoutGenerator d.properties index := by
  rintro ⟨before, p, after, hproperties, -, -, hp⟩
  have hsome := h.generators p (hproperties ▸ List.mem_append_right before List.mem_cons_self)
  rw [hp] at hsome
  cases hsome

theorem checkGenerators_eq_error_iff {properties : List (Property σ)} {defect : Defect} :
    checkGenerators properties = .error defect ↔
      ∃ index, FirstWithoutGenerator properties index ∧ .noGenerator index = defect := by
  unfold checkGenerators
  simp only [← findIdx?_generator_eq_some_iff]
  cases properties.findIdx? fun p => p.generator.isNone <;> simp

theorem requires_generators (d : Draft σ) : Requires d.Breaks [.generators] (checkGenerators d.properties) := by
  refine .singleton fun defect => checkGenerators_eq_error_iff.trans ⟨?_, ?_⟩
  · rintro ⟨index, hindex, rfl⟩
    exact .noGenerator hindex
  · intro h
    cases h with
    | noGenerator h => exact ⟨_, h, rfl⟩

theorem requires_present (d : Draft σ) {α : Type} (field : Field) {value : Option α}
    (hvalue : value.isSome = d.has field) : Requires d.Breaks [.present field] (required field value) := by
  refine .singleton fun defect => ?_
  constructor
  · intro h
    cases value with
    | none => cases h; exact .missing hvalue.symm
    | some a => cases h
  · intro h
    cases h with
    | missing h =>
      rw [← hvalue, Option.isSome_eq_false_iff, Option.isNone_iff_eq_none] at h
      rw [h]
      rfl

theorem has_nested (d : Draft σ) (role : NestedRole) :
    d.has (.nested role) = Option.isSome (α := GeneratedClass) (d.held (.nested role)) := by
  cases role <;> rfl

/-- A class must be there before it can be asked where it is. -/
theorem requires_inside (d : Draft σ) {builder : GeneratedClass} (hbuilder : d.generatedBuilder = some builder)
    (role : NestedRole) {value : Option GeneratedClass} (hvalue : d.held (.nested role) = value) :
    Requires d.Breaks [.present (.nested role), .inside role] (requiredInside builder role value) := by
  subst hvalue
  refine (d.requires_present (.nested role) (d.has_nested role).symm).bind fun c hpresent => ?_
  have hc : d.held (.nested role) = some c := required_eq_ok_iff.1 hpresent
  refine .singleton fun defect => ?_
  constructor
  · intro h
    split at h
    · cases h
    · rename_i hnot
      cases h
      exact .misnested hbuilder hc (mt GeneratedClass.isNestedIn_iff.2 hnot)
  · intro h
    cases h with
    | misnested hb hc' hne =>
      cases Option.some.inj (hb.symm.trans hbuilder)
      cases Option.some.inj (hc'.symm.trans hc)
      rw [if_neg (mt GeneratedClass.isNestedIn_iff.1 hne)]
      rfl

/-! ## The check as a whole -/

theorem requires_check (d : Draft σ) : Requires d.Breaks Requirement.inOrder d.check := by
  refine (d.requires_present .builderType rfl).bind fun builderType _ => ?_
  refine (d.requires_present .generatedBuilder rfl).bind fun builder hpresent => ?_
  have hbuilder : d.generatedBuilder = some builder := required_eq_ok_iff.1 hpresent
  refine (d.requires_present .declaringType rfl).bind fun declaringType _ => ?_
  refine (d.requires_inside hbuilder .valueClass rfl).bind fun valueClass _ => ?_
  refine (d.requires_inside hbuilder .partialClass rfl).bind fun partialClass _ => ?_
  refine (d.requires_inside hbuilder .propertyEnum rfl).bind fun propertyEnum _ => ?_
  refine (d.requires_present .builderSerializable rfl).bind fun builderSerializable _ => ?_
  refine (d.requires_present .gwtSerializable rfl).bind fun gwtSerializable _ => ?_
  exact d.requires_generators.bind fun _ _ => .ok _

/-- Nothing is missing of a draft that says what a specification says when the specification is finished. -/
theorem complete_toDraft_iff {s : Specification σ} : s.toDraft.Complete ↔ s.Finished := by
  constructor
  · intro h
    refine ⟨fun role => ?_, h.generators⟩
    obtain ⟨builder, c, hbuilder, hc, henclosing⟩ := h.inside role
    rw [Option.some.inj ((held_toDraft s role).symm.trans hc), henclosing, ← hbuilder]
    rfl
  · intro h
    refine ⟨⟨fun field => ?_, fun role => ?_⟩, h.generators⟩
    · rcases field with _ | _ | _ | (_ | _ | _) | _ | _ <;> rfl
    · exact ⟨_, _, rfl, held_toDraft s role, h.nested role⟩

/-- A draft of which nothing is missing says what some specification says. -/
theorem Complete.exists_toDraft_eq {d : Draft σ} (h : d.Complete) :
    ∃ s : Specification σ, s.toDraft = d := by
  have hdeclaringType := h.has .declaringType
  have hbuilderType := h.has .builderType
  have hserializable := h.has .builderSerializable
  have hgwt := h.has .gwtSerializable
  obtain ⟨builder, valueClass, hbuilder, hvalue, -⟩ := h.inside .valueClass
  obtain ⟨-, partialClass, -, hpartial, -⟩ := h.inside .partialClass
  obtain ⟨-, propertyEnum, -, henum, -⟩ := h.inside .propertyEnum
  obtain ⟨packages, declaringType, builderType, factory, _, _, _, _, properties, ownMethods,
    serializable, gwt⟩ := d
  obtain ⟨declaringType, rfl⟩ := Option.isSome_iff_exists.1 hdeclaringType
  obtain ⟨builderType, rfl⟩ := Option.isSome_iff_exists.1 hbuilderType
  obtain ⟨serializable, rfl⟩ := Option.isSome_iff_exists.1 hserializable
  obtain ⟨gwt, rfl⟩ := Option.isSome_iff_exists.1 hgwt
  cases hbuilder
  cases hvalue
  cases hpartial
  cases henum
  exact ⟨⟨packages, declaringType, builderType, factory, ⟨builder, valueClass, partialClass,
    propertyEnum⟩, properties, ownMethods, serializable, gwt⟩, rfl⟩

theorem finish_result_eq_ok_iff {d : Draft σ} {s : Specification σ} :
    d.finish.result = .ok s ↔ s.toDraft = d ∧ d.Complete := by
  rw [finish_result, check_eq_ok_iff]
  constructor
  · rintro ⟨rfl, h⟩
    exact ⟨rfl, complete_toDraft_iff.2 h⟩
  · rintro ⟨rfl, h⟩
    exact ⟨rfl, complete_toDraft_iff.1 h⟩

theorem finish_result_eq_error_iff {d : Draft σ} {defect : Defect} :
    d.finish.result = .error defect ↔ FirstReason d.Breaks Requirement.inOrder defect := by
  rw [finish_result]
  exact d.requires_check defect

/-- Nothing is reported of a draft that has a defect. -/
theorem finish_eq_silent_iff {d : Draft σ} {defect : Defect} :
    d.finish = .silent (.error defect) ↔ d.finish.result = .error defect := by
  unfold finish
  cases d.check <;> simp [Reported.silent]

theorem exists_finish_eq_silent {d : Draft σ} (h : ¬ d.Complete) :
    ∃ defect, d.finish = .silent (.error defect) := by
  simp only [finish_eq_silent_iff]
  cases hresult : d.finish.result with
  | error defect => exact ⟨defect, rfl⟩
  | ok s => exact absurd (finish_result_eq_ok_iff.1 hresult).2 h

/-- Fields and classes are all that is asked for before the strategies. -/
theorem mem_dropLast_inOrder_iff {r : Requirement} :
    r ∈ Requirement.inOrder.dropLast ↔ r ≠ .generators := by
  rcases r with (_ | _ | _ | (_ | _ | _) | _ | _) | (_ | _ | _) | _ <;> decide

theorem not_breaks_inside {d : Draft σ} {role : NestedRole}
    (h : ∃ builder c, d.generatedBuilder = some builder ∧ d.held (.nested role) = some c ∧
      c.enclosing = some builder) (defect : Defect) :
    ¬ d.Breaks (.inside role) defect := by
  intro hbreaks
  obtain ⟨builder, c, hb, hc, henclosing⟩ := h
  cases hbreaks with
  | misnested hb' hc' hne =>
    cases Option.some.inj (hb.symm.trans hb')
    cases Option.some.inj (hc.symm.trans hc')
    exact hne henclosing

theorem filled_iff {d : Draft σ} :
    d.Filled ↔ ∀ r ∈ Requirement.inOrder.dropLast, ∀ defect, ¬ d.Breaks r defect := by
  constructor
  · intro h r hr defect hbreaks
    cases hbreaks with
    | missing hmissing => rw [h.has] at hmissing; cases hmissing
    | @misnested role builder c hb hc hne =>
      exact not_breaks_inside (h.inside role) _ (.misnested hb hc hne)
    | noGenerator _ => exact mem_dropLast_inOrder_iff.1 hr rfl
  · intro h
    have hhas : ∀ field, d.has field = true := by
      intro field
      by_contra hmissing
      exact h (.present field) (mem_dropLast_inOrder_iff.2 nofun) _
        (.missing (eq_false_of_ne_true hmissing))
    refine ⟨hhas, fun role => ?_⟩
    obtain ⟨builder, hb⟩ := Option.isSome_iff_exists.1 (hhas .generatedBuilder)
    obtain ⟨c, hc⟩ := Option.isSome_iff_exists.1 ((d.has_nested role).symm.trans (hhas (.nested role)))
    refine ⟨builder, c, hb, hc, ?_⟩
    by_contra hne
    exact h (.inside role) (mem_dropLast_inOrder_iff.2 nofun) _ (.misnested hb hc hne)

/-- That a property has no strategy is reported when there is nothing else to report. -/
theorem finish_result_eq_noGenerator_iff {d : Draft σ} {index : Nat} :
    d.finish.result = .error (.noGenerator index) ↔
      d.Filled ∧ FirstWithoutGenerator d.properties index := by
  rw [finish_result_eq_error_iff, filled_iff]
  change FirstReason d.Breaks (Requirement.inOrder.dropLast ++ [.generators]) _ ↔ _
  rw [FirstReason.append_iff]
  constructor
  · rintro (h | ⟨hfilled, h⟩)
    · obtain ⟨r, hr, hbreaks⟩ := h.exists_mem
      cases hbreaks
      exact absurd rfl (mem_dropLast_inOrder_iff.1 hr)
    · refine ⟨hfilled, ?_⟩
      cases h with
      | here h => cases h with
        | noGenerator h => exact h
      | later _ h => cases h
  · rintro ⟨hfilled, h⟩
    exact .inr ⟨hfilled, .here (.noGenerator h)⟩

/-- A defect that is a missing field says so, and which. -/
theorem message_of_missingField? {defect : Defect} {key : String} (h : defect.missingField? = some key) :
    defect.message = missingMessage key := by
  cases defect with
  | misnested role builder scope => cases h
  | _ =>
    cases h
    rfl

/-- A draft is finished exactly when nothing is missing of it, and what it is finished with says what the
draft says and nothing else. For any other draft the defect is that of the first requirement in order that
it does not meet. A field that is missing is reported under its name, and so is the strategy of a property,
with the place of the property. A class that is not directly inside the builder is reported with the qualified
name of the builder and that of the class around it, if there is one. -/
theorem finish_result_decides (d : Draft σ) :
    ((∃ s, d.finish.result = .ok s) ↔ d.Complete) ∧
    (∀ s, d.finish.result = .ok s ↔ s.toDraft = d ∧ d.Complete) ∧
    (∀ defect, d.finish.result = .error defect ↔ FirstReason d.Breaks Requirement.inOrder defect) ∧
    (∀ (role : NestedRole) (builder : GeneratedClass) (scope : Option GeneratedClass),
      (Defect.misnested role builder scope).missingField? = none ∧
      (Defect.misnested role builder scope).message =
        role.key ++ " must be nested in " ++ builder.qualifiedName ++
          ", but its enclosing scope is " ++ scope.elim "<top level>" GeneratedClass.qualifiedName) ∧
    (∀ field, field ∈ Field.inOrder) ∧
    (Field.inOrder.map fun field => (Defect.missing field).missingField?) =
      ["builder_type", "generated_builder", "declaring_type", "value_class", "partial_class", "property_enum",
        "builder_serializable", "gwt_serializable"].map some ∧
    (∀ index, (Defect.noGenerator index).missingField? =
      some ("properties[" ++ index.repr ++ "].code_generator")) ∧
    ∀ (defect : Defect) (key : String), defect.missingField? = some key →
      defect.message = "Specification: required field `" ++ key ++ "` not set" := by
  refine ⟨⟨?_, ?_⟩, fun s => finish_result_eq_ok_iff, fun defect => finish_result_eq_error_iff,
    fun role builder scope => ⟨rfl, ?_⟩, Field.mem_inOrder, rfl, fun _ => rfl,
    fun _ _ => message_of_missingField?⟩
  · rintro ⟨s, h⟩
    exact (finish_result_eq_ok_iff.1 h).2
  · intro h
    obtain ⟨s, hs⟩ := h.exists_toDraft_eq
    exact ⟨s, finish_result_eq_ok_iff.2 ⟨hs, h⟩⟩
  · cases scope <;> rfl

/-- Of three defects, two classes that stand at the top level and no word on serialization, the first is
given. -/
example (t : DeclRef) (builder : GeneratedClass) (package : Naming.PackageName)
    (name : Naming.Identifier) :
    ((empty ⟨0⟩ : Draft σ).applyAll [.generatedBuilder builder, .declaringType t, .builderType t,
      .partialClass (.topLevel package name), .valueClass (.topLevel package name)]).finish.result =
      .error (.misnested .valueClass builder none) :=
  rfl

end Draft

end BuilderSpec.Specification
