/-
Specifications that differ in nothing but symbols and tables: each declaration of one stands for one
of the other with the same text, and so does its table, whatever the two know. Changes, naming the
classes and finishing keep drafts of such specifications counterparts, as long as the names after
which classes are named, and the packages in which, are the same. Nothing that is asked of a
specification tells it from its counterpart.
-/
import BuilderSpec.Proofs.Property.Counterpart
import BuilderSpec.Proofs.Symbol.Path
import BuilderSpec.Specification.Draft
import Mathlib.Data.Option.Basic

namespace BuilderSpec

/-- Which declarations and which tables of one pass stand for which of another. Declarations that
stand for each other have the same text; their symbols, their own names and the declarations around
them may differ. -/
structure Correspondence where
  declarations : DeclRef → DeclRef → Prop
  tables : TableRef → TableRef → Prop
  text_eq : ∀ {d e}, declarations d e → d.text = e.text

/-- Classes are named alike after declarations that stand for each other: the names around these are
the same, and so are their packages, asked of tables that stand for each other. -/
def Correspondence.NamesAlike (C : Correspondence) (lookup lookup' : PackageLookup) : Prop :=
  ∀ {d e r r'}, C.declarations d e → C.tables r r' →
    d.declaration.names = e.declaration.names ∧ lookup r d = lookup' r' e

namespace Specification

variable {σ : Type} {C : Correspondence}

/-! ## Finished specifications -/

/-- Specifications that agree on all but their table and what is known of their declarations and
types beyond the texts. -/
structure Counterpart (C : Correspondence) (s t : Specification σ) : Prop where
  packages : C.tables s.packages t.packages
  declaringType : C.declarations s.declaringType t.declaringType
  builderType : s.builderType.text = t.builderType.text
  builderFactory : s.builderFactory = t.builderFactory
  classes : s.classes = t.classes
  properties : List.Forall₂ (fun p q => p.view = q.view) s.properties t.properties
  ownMethods : s.ownMethods = t.ownMethods
  builderSerializable : s.builderSerializable = t.builderSerializable
  gwtSerializable : s.gwtSerializable = t.gwtSerializable

/-- Nothing that is asked of two specifications tells them apart. Their tables may answer
differently. -/
structure Indistinguishable [DecidableEq σ] [Strategy σ] (s t : Specification σ) : Prop where
  same : s.same t = true
  fingerprint : s.fingerprint = t.fingerprint
  summary : s.summary = t.summary
  inspect : s.inspect = t.inspect
  builderInvocation : s.builderInvocation = t.builderInvocation

/-- What is a function of the views of properties comes out the same for lists with the same views. -/
theorem map_eq_of_forall₂_view {α : Type} {f : Property σ → α}
    (hf : ∀ p q, p.view = q.view → f p = f q) {ps qs : List (Property σ)}
    (h : List.Forall₂ (fun p q => p.view = q.view) ps qs) : ps.map f = qs.map f := by
  induction h with
  | nil => rfl
  | cons hpq _ ih => rw [List.map_cons, List.map_cons, hf _ _ hpq, ih]

namespace Counterpart

variable {s t : Specification σ}

theorem view_eq (h : s.Counterpart C t) : s.view = t.view := by
  have hproperties := map_eq_of_forall₂_view (fun _ _ => id) h.properties
  simp only [view, C.text_eq h.declaringType, h.builderType, h.builderFactory, h.classes,
    hproperties, h.ownMethods, h.builderSerializable, h.gwtSerializable]

theorem propertyNames_eq (h : s.Counterpart C t) : s.propertyNames = t.propertyNames :=
  map_eq_of_forall₂_view (fun _ _ hview => congrArg (fun v => v.names.name) hview) h.properties

theorem builderInvocation_eq (h : s.Counterpart C t) : s.builderInvocation = t.builderInvocation := by
  have hinvocation : ∀ factory : BuilderFactory,
      factory.invocation s.declaringType s.builderType =
        factory.invocation t.declaringType t.builderType := by
    intro factory
    cases factory <;> simp only [BuilderFactory.invocation, C.text_eq h.declaringType, h.builderType]
  unfold builderInvocation
  rw [h.builderFactory]
  exact Option.map_congr fun factory _ => hinvocation factory

theorem eventsOf_eq (h : s.Counterpart C t) : Draft.eventsOf s = Draft.eventsOf t := by
  unfold Draft.eventsOf
  rw [h.propertyNames_eq, C.text_eq h.declaringType, h.classes, h.properties.length_eq]

section

variable [Strategy σ]

theorem summary_eq (h : s.Counterpart C t) : s.summary = t.summary := by
  have hproperties := map_eq_of_forall₂_view (fun _ _ => Property.summary_eq) h.properties
  unfold summary
  rw [C.text_eq h.declaringType, h.builderType, h.classes, hproperties, h.ownMethods,
    h.builderSerializable, h.gwtSerializable]

theorem inspect_eq (h : s.Counterpart C t) : s.inspect = t.inspect := by
  have hproperties := map_eq_of_forall₂_view (fun _ _ => Property.inspect_eq) h.properties
  unfold inspect DeclRef.inspect
  rw [C.text_eq h.declaringType, h.builderType, h.builderFactory, h.classes, hproperties,
    h.ownMethods, h.builderSerializable, h.gwtSerializable]

theorem indistinguishable [DecidableEq σ] (h : s.Counterpart C t) : s.Indistinguishable t where
  same := decide_eq_true h.view_eq
  fingerprint := by
    unfold fingerprint toJson
    rw [h.view_eq]
  summary := h.summary_eq
  inspect := h.inspect_eq
  builderInvocation := h.builderInvocation_eq

end

end Counterpart

/-! ## Changes -/

/-- A change may name another declaration that stands for the first, and add other properties `P`
that stand for the first. -/
inductive Edit.Counterpart (C : Correspondence) {π ρ : Type} (P : π → ρ → Prop) :
    Edit π → Edit ρ → Prop
  | declaringType {d e : DeclRef} (h : C.declarations d e) :
    Counterpart C P (.declaringType d) (.declaringType e)
  | builderType {d e : DeclRef} (h : d.text = e.text) :
    Counterpart C P (.builderType d) (.builderType e)
  | builderFactory (factory : Option BuilderFactory) :
    Counterpart C P (.builderFactory factory) (.builderFactory factory)
  | generatedBuilder (c : GeneratedClass) : Counterpart C P (.generatedBuilder c) (.generatedBuilder c)
  | valueClass (c : GeneratedClass) : Counterpart C P (.valueClass c) (.valueClass c)
  | partialClass (c : GeneratedClass) : Counterpart C P (.partialClass c) (.partialClass c)
  | propertyEnum (c : GeneratedClass) : Counterpart C P (.propertyEnum c) (.propertyEnum c)
  | classes (family : ClassFamily) : Counterpart C P (.classes family) (.classes family)
  | addProperty {p : π} {q : ρ} (h : P p q) : Counterpart C P (.addProperty p) (.addProperty q)
  | addProperties {ps : List π} {qs : List ρ} (h : List.Forall₂ P ps qs) :
    Counterpart C P (.addProperties ps) (.addProperties qs)
  | addMethod (m : ObjectMethod) : Counterpart C P (.addMethod m) (.addMethod m)
  | addMethods (ms : List ObjectMethod) : Counterpart C P (.addMethods ms) (.addMethods ms)
  | builderSerializable (b : Bool) : Counterpart C P (.builderSerializable b) (.builderSerializable b)
  | gwtSerializable (b : Bool) : Counterpart C P (.gwtSerializable b) (.gwtSerializable b)

/-- When what stands for properties is looked up alike, so is what changes add. -/
theorem Edit.Counterpart.resolve {π ρ α β ε : Type} {P : π → ρ → Prop} {Q : α → β → Prop}
    {find : π → Except ε α} {find' : ρ → Except ε β} {e : Edit π} {f : Edit ρ}
    (h : e.Counterpart C P f) (hfind : ∀ p q, P p q → FareAlike Q (find p) (find' q)) :
    FareAlike (Edit.Counterpart C Q) (e.resolve find) (f.resolve find') := by
  cases h with
  | declaringType h => exact .ok (.declaringType h)
  | builderType h => exact .ok (.builderType h)
  | builderFactory factory => exact .ok (.builderFactory factory)
  | generatedBuilder c => exact .ok (.generatedBuilder c)
  | valueClass c => exact .ok (.valueClass c)
  | partialClass c => exact .ok (.partialClass c)
  | propertyEnum c => exact .ok (.propertyEnum c)
  | classes family => exact .ok (.classes family)
  | addProperty h => exact (hfind _ _ h).map fun _ _ => .addProperty
  | addProperties h => exact (FareAlike.mapM hfind h).map fun _ _ => .addProperties
  | addMethod m => exact .ok (.addMethod m)
  | addMethods ms => exact .ok (.addMethods ms)
  | builderSerializable b => exact .ok (.builderSerializable b)
  | gwtSerializable b => exact .ok (.gwtSerializable b)

/-! ## Drafts -/

namespace Draft

/-- Drafts that agree on all but their table and what is known of their declarations and types
beyond the texts. -/
structure Counterpart (C : Correspondence) (d e : Draft σ) : Prop where
  packages : C.tables d.packages e.packages
  declaringType : Option.Rel C.declarations d.declaringType e.declaringType
  builderType : Option.Rel (fun a b => a.text = b.text) d.builderType e.builderType
  builderFactory : d.builderFactory = e.builderFactory
  generatedBuilder : d.generatedBuilder = e.generatedBuilder
  valueClass : d.valueClass = e.valueClass
  partialClass : d.partialClass = e.partialClass
  propertyEnum : d.propertyEnum = e.propertyEnum
  properties : List.Forall₂ (fun p q => p.view = q.view) d.properties e.properties
  ownMethods : d.ownMethods = e.ownMethods
  builderSerializable : d.builderSerializable = e.builderSerializable
  gwtSerializable : d.gwtSerializable = e.gwtSerializable

theorem Counterpart.empty {r r' : TableRef} (h : C.tables r r') :
    (empty r : Draft σ).Counterpart C (empty r') :=
  ⟨h, .none, .none, rfl, rfl, rfl, rfl, rfl, .nil, rfl, rfl, rfl⟩

theorem required_alike {α β : Type} {R : α → β → Prop} {field : Field} {a : Option α} {b : Option β}
    (h : Option.Rel R a b) : FareAlike R (required field a) (required field b) := by
  cases h with
  | none => exact .error _
  | some h => exact .ok h

/-- Strategies are part of the views, so the first property that lacks one stands in one place. -/
theorem checkGenerators_eq {ps qs : List (Property σ)}
    (h : List.Forall₂ (fun p q => p.view = q.view) ps qs) :
    checkGenerators ps = checkGenerators qs := by
  have hmap (ps : List (Property σ)) : (ps.findIdx? fun p => p.generator.isNone) =
      (ps.map Property.generator).findIdx? Option.isNone := by
    rw [List.findIdx?_map]
    rfl
  have hgenerators : ps.map Property.generator = qs.map Property.generator :=
    map_eq_of_forall₂_view (fun _ _ hview => congrArg Property.View.generator hview) h
  unfold checkGenerators
  rw [hmap, hmap, hgenerators]

namespace Counterpart

variable {d d' : Draft σ}

theorem apply {e f : Edit (Property σ)} (hd : d.Counterpart C d')
    (he : e.Counterpart C (fun p q => p.view = q.view) f) : (d.apply e).Counterpart C (d'.apply f) := by
  cases he with
  | declaringType h => exact { hd with declaringType := .some h }
  | builderType h => exact { hd with builderType := .some h }
  | builderFactory factory => exact { hd with builderFactory := rfl }
  | generatedBuilder c => exact { hd with generatedBuilder := rfl }
  | valueClass c => exact { hd with valueClass := rfl }
  | partialClass c => exact { hd with partialClass := rfl }
  | propertyEnum c => exact { hd with propertyEnum := rfl }
  | classes family =>
    exact { hd with generatedBuilder := rfl, valueClass := rfl, partialClass := rfl, propertyEnum := rfl }
  | addProperty h => exact { hd with properties := List.rel_append hd.properties (.cons h .nil) }
  | addProperties h => exact { hd with properties := List.rel_append hd.properties h }
  | addMethod m => exact { hd with ownMethods := congrArg (MethodSet.insert · m) hd.ownMethods }
  | addMethods ms => exact { hd with ownMethods := congrArg (MethodSet.insertAll · ms) hd.ownMethods }
  | builderSerializable b => exact { hd with builderSerializable := rfl }
  | gwtSerializable b => exact { hd with gwtSerializable := rfl }

/-- Naming the classes answers the same of either draft, and leaves counterparts behind. -/
theorem nameClasses {lookup lookup' : PackageLookup} (hd : d.Counterpart C d')
    (hlookup : C.NamesAlike lookup lookup') (conventions : Conventions) :
    (d.nameClasses lookup conventions).1 = (d'.nameClasses lookup' conventions).1 ∧
      (d.nameClasses lookup conventions).2.Counterpart C (d'.nameClasses lookup' conventions).2 := by
  have hdeclaring := hd.declaringType
  generalize ht : d.declaringType = t? at hdeclaring
  generalize ht' : d'.declaringType = u? at hdeclaring
  cases hdeclaring with
  | none =>
    rw [nameClasses_of_none ht, nameClasses_of_none ht']
    exact ⟨rfl, hd⟩
  | @some t u h =>
    -- Nothing else is read off the declarations, so the same family comes of both, or none.
    obtain ⟨hnames, hpackage⟩ := hlookup h hd.packages
    have hfamily : ClassFamily.forType ((lookup d.packages t).getD "") t.declaration.flatName conventions =
        ClassFamily.forType ((lookup' d'.packages u).getD "") u.declaration.flatName conventions := by
      rw [hpackage, Declaration.flatName_eq, Declaration.flatName_eq, hnames]
    cases hnamed : ClassFamily.forType ((lookup' d'.packages u).getD "") u.declaration.flatName
        conventions with
    | error e =>
      rw [nameClasses_of_error ht (hfamily.trans hnamed), nameClasses_of_error ht' hnamed]
      exact ⟨rfl, hd⟩
    | ok family =>
      rw [nameClasses_of_ok ht (hfamily.trans hnamed), nameClasses_of_ok ht' hnamed]
      exact ⟨rfl, hd.apply (.classes family)⟩

theorem check (hd : d.Counterpart C d') :
    FareAlike (Specification.Counterpart C) d.check d'.check := by
  unfold Draft.check
  rw [hd.builderFactory, hd.generatedBuilder, hd.valueClass, hd.partialClass, hd.propertyEnum,
    hd.ownMethods, hd.builderSerializable, hd.gwtSerializable, checkGenerators_eq hd.properties]
  refine (required_alike hd.builderType).bind fun builderType _ hbuilderType => ?_
  refine .bind_same fun builder => ?_
  refine (required_alike hd.declaringType).bind fun declaringType _ hdeclaringType => ?_
  refine .bind_same fun valueClass => ?_
  refine .bind_same fun partialClass => ?_
  refine .bind_same fun propertyEnum => ?_
  refine .bind_same fun builderSerializable => ?_
  refine .bind_same fun gwtSerializable => ?_
  refine .bind_same fun _ => ?_
  exact .ok ⟨hd.packages, hdeclaringType, hbuilderType, rfl, rfl, hd.properties, rfl, rfl, rfl⟩

/-- Finishing reports the same of either draft, and makes counterparts or fails for one reason. -/
theorem finish (hd : d.Counterpart C d') :
    d.finish.events = d'.finish.events ∧
      FareAlike (Specification.Counterpart C) d.finish.result d'.finish.result := by
  have hcheck := hd.check
  unfold Draft.finish
  generalize d.check = x at hcheck
  generalize d'.check = y at hcheck
  cases hcheck with
  | error defect => exact ⟨rfl, .error defect⟩
  | ok h => exact ⟨h.eventsOf_eq, .ok h⟩

end Counterpart

end Draft

theorem Counterpart.toDraft {s t : Specification σ} (h : s.Counterpart C t) :
    s.toDraft.Counterpart C t.toDraft where
  packages := h.packages
  declaringType := .some h.declaringType
  builderType := .some h.builderType
  builderFactory := h.builderFactory
  generatedBuilder := congrArg (fun family : ClassFamily => some family.builder) h.classes
  valueClass := congrArg (fun family : ClassFamily => some family.valueClass) h.classes
  partialClass := congrArg (fun family : ClassFamily => some family.partialClass) h.classes
  propertyEnum := congrArg (fun family : ClassFamily => some family.propertyEnum) h.classes
  properties := h.properties
  ownMethods := h.ownMethods
  builderSerializable := congrArg some h.builderSerializable
  gwtSerializable := congrArg some h.gwtSerializable

end Specification

end BuilderSpec
