/-
What the record of a specification tells: its bytes, which are what its fingerprint is the digest
of, are those of another specification exactly when the two agree on all that identifies them, of a
strategy on nothing but its key. So specifications that are the same have one fingerprint, and two
that are not can only share their bytes when somewhere two strategies have one key.
-/
import BuilderSpec.Proofs.Json.Injective
import BuilderSpec.Specification.Basic
import Mathlib.Data.List.Forall2

namespace BuilderSpec

/-! ## Parts of a record -/

theorem Json.ofOption_inj {a b : Option String} : Json.ofOption a = Json.ofOption b ↔ a = b := by
  cases a <;> cases b <;> simp [Json.ofOption]

theorem ObjectMethod.key_injective : Function.Injective ObjectMethod.key := by
  intro m n h
  cases m <;> cases n <;> first | rfl | (exact absurd h (by decide))

theorem BuilderFactory.key_injective : Function.Injective BuilderFactory.key := by
  intro a b h
  cases a <;> cases b <;> first | rfl | (exact absurd h (by decide))

/-- The members in their fixed order determine the set. -/
theorem MethodSet.toList_injective : Function.Injective MethodSet.toList := by
  intro a b h
  refine MethodSet.ext fun m => Bool.eq_iff_iff.2 ?_
  rw [← mem_toList, ← mem_toList, h]

theorem map_eq_map_iff_forall₂ {α β : Type} {f : α → β} {xs ys : List α} :
    xs.map f = ys.map f ↔ List.Forall₂ (fun x y => f x = f y) xs ys := by
  rw [← List.forall₂_eq_eq_eq, List.forall₂_map_left_iff, List.forall₂_map_right_iff]

/-! ## Properties -/

namespace Property

variable {σ : Type} [Strategy σ]

/-- Properties agree when their types have one text each, their names are equal, and their
strategies have one key. -/
structure Agrees (p q : Property σ) : Prop where
  declaredType : p.declaredType.text = q.declaredType.text
  boxedType : p.boxedType.map TypeRef.text = q.boxedType.map TypeRef.text
  name : p.name = q.name
  capitalizedName : p.capitalizedName = q.capitalizedName
  allCapsName : p.allCapsName = q.allCapsName
  getterName : p.getterName = q.getterName
  generator : p.generator.map Strategy.key = q.generator.map Strategy.key
  fullyCheckedCast : p.fullyCheckedCast = q.fullyCheckedCast

theorem toJson_eq_iff {p q : Property σ} : p.toJson = q.toJson ↔ p.Agrees q := by
  simp only [toJson, view, View.toJson, Json.object.injEq, List.cons.injEq, Prod.mk.injEq,
    Json.string.injEq, Json.boolean.injEq, Json.ofOption_inj, true_and, and_true]
  constructor
  · rintro ⟨h1, h2, h3, h4, h5, h6, h7, h8⟩
    exact ⟨h1, h2, h3, h4, h5, h6, h7, h8⟩
  · rintro ⟨h1, h2, h3, h4, h5, h6, h7, h8⟩
    exact ⟨h1, h2, h3, h4, h5, h6, h7, h8⟩

omit [Strategy σ] in
/-- The view of a property without its strategy. -/
def View.plain (v : View σ) : View σ :=
  { v with generator := none }

theorem Agrees.plain_eq {p q : Property σ} (h : p.Agrees q) : p.view.plain = q.view.plain := by
  have hnames : p.toNameForms = q.toNameForms := by
    show (⟨p.name, p.capitalizedName, p.allCapsName, p.getterName⟩ : Naming.NameForms) = _
    rw [h.name, h.capitalizedName, h.allCapsName, h.getterName]
  simp only [view, View.plain, h.declaredType, h.boxedType, hnames, h.fullyCheckedCast]

/-- Two properties have different strategies of one key. -/
def SharesKey (p q : Property σ) : Prop :=
  ∃ g h, p.generator = some g ∧ q.generator = some h ∧ g ≠ h ∧ Strategy.key g = Strategy.key h

/-- Properties that agree are the same, unless their strategies differ and have one key. -/
theorem Agrees.view_eq_or {p q : Property σ} (h : p.Agrees q) : p.view = q.view ∨ p.SharesKey q := by
  have hplain := h.plain_eq
  have hview : p.generator = q.generator → p.view = q.view := by
    intro hg
    simp only [View.plain, view, View.mk.injEq] at hplain ⊢
    exact ⟨hplain.1, hplain.2.1, hplain.2.2.1, hg, hplain.2.2.2.2⟩
  have hkey := h.generator
  rcases hp : p.generator with _ | g <;> rcases hq : q.generator with _ | g' <;> rw [hp, hq] at hkey hview
  · exact .inl (hview rfl)
  · cases hkey
  · cases hkey
  · by_cases hg : g = g'
    · exact .inl (hview (by rw [hg]))
    · exact .inr ⟨g, g', hp, hq, hg, Option.some.inj hkey⟩

end Property

/-! ## Specifications -/

namespace Specification

variable {σ : Type} [Strategy σ]

/-- Specifications agree when their declarations and classes have one text each, they have the same
methods, flags and way to a builder, and their properties agree one by one. -/
structure Agrees (s t : Specification σ) : Prop where
  declaringType : s.declaringType.text = t.declaringType.text
  builderType : s.builderType.text = t.builderType.text
  builderFactory : s.builderFactory = t.builderFactory
  generatedBuilder : s.classes.builder.qualifiedName = t.classes.builder.qualifiedName
  valueClass : s.classes.valueClass.qualifiedName = t.classes.valueClass.qualifiedName
  partialClass : s.classes.partialClass.qualifiedName = t.classes.partialClass.qualifiedName
  propertyEnum : s.classes.propertyEnum.qualifiedName = t.classes.propertyEnum.qualifiedName
  properties : List.Forall₂ Property.Agrees s.properties t.properties
  ownMethods : ∀ m, s.hasOwn m = t.hasOwn m
  builderSerializable : s.builderSerializable = t.builderSerializable
  gwtSerializable : s.gwtSerializable = t.gwtSerializable

theorem properties_json_eq_iff {ps qs : List (Property σ)} :
    (ps.map Property.view).map Property.View.toJson = (qs.map Property.view).map Property.View.toJson ↔
      List.Forall₂ Property.Agrees ps qs := by
  rw [List.map_map, List.map_map]
  show ps.map Property.toJson = qs.map Property.toJson ↔ _
  simp only [map_eq_map_iff_forall₂, Property.toJson_eq_iff]

theorem ownMethods_json_eq_iff {a b : MethodSet} :
    (a.toList.map fun m => Json.string m.key) = (b.toList.map fun m => Json.string m.key) ↔
      ∀ m, a.contains m = b.contains m := by
  have hinj : Function.Injective fun m : ObjectMethod => Json.string m.key := fun m n h =>
    ObjectMethod.key_injective (Json.string.inj h)
  constructor
  · intro h m
    rw [MethodSet.toList_injective (hinj.list_map h)]
  · intro h
    rw [MethodSet.ext h]

theorem factory_json_eq_iff {a b : Option BuilderFactory} :
    Json.ofOption (a.map BuilderFactory.key) = Json.ofOption (b.map BuilderFactory.key) ↔ a = b := by
  rw [Json.ofOption_inj]
  exact (Option.map_injective BuilderFactory.key_injective).eq_iff

/-- The record tells all that specifications must agree on, and no more. -/
theorem toJson_eq_iff {s t : Specification σ} : s.toJson = t.toJson ↔ s.Agrees t := by
  simp only [toJson, view, View.toJson, Json.object.injEq, List.cons.injEq, Prod.mk.injEq,
    Json.string.injEq, Json.boolean.injEq, Json.array.injEq, true_and, and_true,
    factory_json_eq_iff, properties_json_eq_iff, ownMethods_json_eq_iff]
  constructor
  · rintro ⟨h1, h2, h3, h4, h5, h6, h7, h8, h9, h10, h11⟩
    exact ⟨h1, h2, h3, h4, h5, h6, h7, h8, h9, h10, h11⟩
  · rintro ⟨h1, h2, h3, h4, h5, h6, h7, h8, h9, h10, h11⟩
    exact ⟨h1, h2, h3, h4, h5, h6, h7, h8, h9, h10, h11⟩

omit [Strategy σ] in
/-- The view of a specification without the strategies of its properties. -/
def View.plain (v : View σ) : View σ :=
  { v with properties := v.properties.map Property.View.plain }

/-- Lists of properties that agree have the same views, unless two strategies at one position differ
and have one key. -/
theorem views_eq_or_sharesKey {ps qs : List (Property σ)} (h : List.Forall₂ Property.Agrees ps qs) :
    ps.map Property.view = qs.map Property.view ∨
      ∃ (i : Nat) (p q : Property σ), ps[i]? = some p ∧ qs[i]? = some q ∧ p.SharesKey q := by
  induction h with
  | nil => exact .inl rfl
  | @cons p q ps qs hpq hrest ih =>
    rcases hpq.view_eq_or with hv | hk
    · rcases ih with hvs | ⟨i, p', q', hp, hq, hk⟩
      · exact .inl (by rw [List.map_cons, List.map_cons, hv, hvs])
      · exact .inr ⟨i + 1, p', q', hp, hq, hk⟩
    · exact .inr ⟨0, p, q, rfl, rfl, hk⟩

theorem plain_properties_eq {ps qs : List (Property σ)} (h : List.Forall₂ Property.Agrees ps qs) :
    (ps.map Property.view).map Property.View.plain = (qs.map Property.view).map Property.View.plain := by
  induction h with
  | nil => rfl
  | cons hpq hrest ih => simp only [List.map_cons, hpq.plain_eq, ih]

theorem Agrees.plain_eq {s t : Specification σ} (h : s.Agrees t) : s.view.plain = t.view.plain := by
  have hmethods : s.ownMethods = t.ownMethods := MethodSet.ext h.ownMethods
  simp only [View.plain, view, h.declaringType, h.builderType, h.builderFactory, h.generatedBuilder,
    h.valueClass, h.partialClass, h.propertyEnum, plain_properties_eq h.properties, hmethods,
    h.builderSerializable, h.gwtSerializable]

theorem Agrees.view_eq {s t : Specification σ} (h : s.Agrees t)
    (hp : s.properties.map Property.view = t.properties.map Property.view) : s.view = t.view := by
  have hmethods : s.ownMethods = t.ownMethods := MethodSet.ext h.ownMethods
  simp only [view, h.declaringType, h.builderType, h.builderFactory, h.generatedBuilder,
    h.valueClass, h.partialClass, h.propertyEnum, hp, hmethods, h.builderSerializable,
    h.gwtSerializable]

/-- The bytes that the fingerprint digests are a faithful record of what specifications agree on.
Those that are the same share them; two that are not share them only if they differ in nothing but
strategies, of which two at one position differ and have one key. -/
theorem bytes_eq_iff_agrees [DecidableEq σ] (s t : Specification σ) :
    s.fingerprint = ⟨Digest.Sha256.digest s.toJson.bytes⟩ ∧
      (s.toJson.bytes = t.toJson.bytes ↔ s.Agrees t) ∧
      (s.same t = true → s.toJson.bytes = t.toJson.bytes ∧ s.fingerprint = t.fingerprint) ∧
      (s.same t = false → s.toJson.bytes = t.toJson.bytes →
        s.view.plain = t.view.plain ∧
          ∃ (i : Nat) (p q : Property σ),
            s.properties[i]? = some p ∧ t.properties[i]? = some q ∧ p.SharesKey q) := by
  have hiff : s.toJson.bytes = t.toJson.bytes ↔ s.Agrees t :=
    Json.bytes_injective.eq_iff.trans toJson_eq_iff
  refine ⟨rfl, hiff, fun hsame => ?_, fun hdiff hbytes => ?_⟩
  · have hjson : s.toJson = t.toJson := congrArg View.toJson (of_decide_eq_true hsame)
    exact ⟨congrArg Json.bytes hjson, congrArg Digest.Fingerprint.ofJson hjson⟩
  · -- Agreement leaves nothing but strategies to differ in.
    have ha := hiff.1 hbytes
    refine ⟨ha.plain_eq, ?_⟩
    rcases views_eq_or_sharesKey ha.properties with hviews | hshared
    · exact absurd (ha.view_eq hviews) (of_decide_eq_false hdiff)
    · exact hshared

end Specification

end BuilderSpec
