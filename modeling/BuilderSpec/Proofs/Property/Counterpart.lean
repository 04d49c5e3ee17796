/-
Properties that differ in nothing but the symbols behind their types: each type of one has the text
of its counterpart in the other, under whatever symbol and primitive or not. Changes and finishing
keep drafts of such properties counterparts, and nothing that is asked of a property tells it from
its counterpart.
-/
import BuilderSpec.Proofs.Attempt
import BuilderSpec.Property.Draft

namespace BuilderSpec

/-- What is shown of an optional type depends on its text. -/
theorem TypeRef.map_inspect_eq {a b : Option TypeRef} (h : a.map TypeRef.text = b.map TypeRef.text) :
    a.map TypeRef.inspect = b.map TypeRef.inspect := by
  have hinspect : TypeRef.inspect =
      (fun text => Text.tagged "TypeRef" (Text.quote text)) ∘ TypeRef.text := rfl
  rw [hinspect, ← Option.map_map, ← Option.map_map, h]

namespace Property

variable {σ : Type}

/-! ## Finished properties -/

/-- Nothing that is asked of two properties tells them apart. -/
structure Indistinguishable [DecidableEq σ] [Strategy σ] (p q : Property σ) : Prop where
  same : p.same q = true
  fingerprint : p.fingerprint = q.fingerprint
  summary : p.summary = q.summary
  inspect : p.inspect = q.inspect

theorem view_eq_iff {p q : Property σ} :
    p.view = q.view ↔ p.declaredType.text = q.declaredType.text ∧
      p.boxedType.map TypeRef.text = q.boxedType.map TypeRef.text ∧
      p.toNameForms = q.toNameForms ∧ p.generator = q.generator ∧
      p.fullyCheckedCast = q.fullyCheckedCast := by
  simp only [view, View.mk.injEq]

section

variable [Strategy σ]

theorem summary_eq {p q : Property σ} (h : p.view = q.view) : p.summary = q.summary := by
  obtain ⟨hdeclared, hboxed, hnames, hgenerator, hcast⟩ := view_eq_iff.1 h
  unfold summary
  rw [hdeclared, hboxed, hnames, hgenerator, hcast]

theorem inspect_eq {p q : Property σ} (h : p.view = q.view) : p.inspect = q.inspect := by
  obtain ⟨hdeclared, hboxed, hnames, hgenerator, hcast⟩ := view_eq_iff.1 h
  simp only [inspect, TypeRef.inspect, hdeclared, TypeRef.map_inspect_eq hboxed, hnames, hgenerator,
    hcast]

theorem indistinguishable_of_view_eq [DecidableEq σ] {p q : Property σ} (h : p.view = q.view) :
    p.Indistinguishable q where
  same := decide_eq_true h
  fingerprint := by
    unfold fingerprint toJson
    rw [h]
  summary := summary_eq h
  inspect := inspect_eq h

end

theorem view_withGenerator {p q : Property σ} (h : p.view = q.view) (g : σ) :
    (p.withGenerator g).view = (q.withGenerator g).view := by
  obtain ⟨hdeclared, hboxed, hnames, -, hcast⟩ := view_eq_iff.1 h
  exact view_eq_iff.2 ⟨hdeclared, hboxed, hnames, rfl, hcast⟩

/-! ## Drafts -/

/-- A change may name another type of the same text. -/
inductive Edit.Counterpart : Edit σ → Edit σ → Prop
  | declaredType {t u : TypeRef} (h : t.text = u.text) :
    Counterpart (.declaredType t) (.declaredType u)
  | boxedType {t u : Option TypeRef} (h : t.map TypeRef.text = u.map TypeRef.text) :
    Counterpart (.boxedType t) (.boxedType u)
  | same (e : Edit σ) : Counterpart e e

namespace Draft

/-- Drafts that agree on all but the symbols of their types and what is known of these. -/
structure Counterpart (d e : Draft σ) : Prop where
  declaredType : d.declaredType.map TypeRef.text = e.declaredType.map TypeRef.text
  boxedType : d.boxedType.map TypeRef.text = e.boxedType.map TypeRef.text
  name : d.name = e.name
  capitalizedName : d.capitalizedName = e.capitalizedName
  allCapsName : d.allCapsName = e.allCapsName
  getterName : d.getterName = e.getterName
  generator : d.generator = e.generator
  fullyCheckedCast : d.fullyCheckedCast = e.fullyCheckedCast

theorem Counterpart.refl (d : Draft σ) : d.Counterpart d :=
  ⟨rfl, rfl, rfl, rfl, rfl, rfl, rfl, rfl⟩

theorem Counterpart.apply {d e : Draft σ} {f g : Edit σ} (hd : d.Counterpart e)
    (hf : f.Counterpart g) : (d.apply f).Counterpart (e.apply g) := by
  cases hf with
  | declaredType h => exact { hd with declaredType := congrArg some h }
  | boxedType h => exact { hd with boxedType := h }
  | same f =>
    cases f with
    | declaredType t => exact { hd with declaredType := rfl }
    | boxedType t => exact { hd with boxedType := rfl }
    | name text => exact { hd with name := rfl }
    | capitalizedName text => exact { hd with capitalizedName := rfl }
    | allCapsName text => exact { hd with allCapsName := rfl }
    | getterName text => exact { hd with getterName := rfl }
    | names n =>
      exact { hd with name := rfl, capitalizedName := rfl, allCapsName := rfl, getterName := rfl }
    | generator g => exact { hd with generator := rfl }
    | fullyCheckedCast b => exact { hd with fullyCheckedCast := rfl }

theorem required_alike {α β : Type} {field : Field} {f : α → β} {a b : Option α}
    (h : a.map f = b.map f) :
    FareAlike (fun x y => f x = f y) (required field a) (required field b) := by
  cases a <;> cases b
  · exact .error field
  · cases h
  · cases h
  · exact .ok (Option.some.inj h)

theorem Counterpart.finish {d e : Draft σ} (h : d.Counterpart e) :
    FareAlike (fun p q => p.view = q.view) d.finish e.finish := by
  unfold Draft.finish
  rw [h.name, h.capitalizedName, h.allCapsName, h.getterName, h.generator, h.fullyCheckedCast]
  refine (required_alike h.declaredType).bind fun t u htext => ?_
  refine .bind_same fun name => ?_
  refine .bind_same fun capitalizedName => ?_
  refine .bind_same fun allCapsName => ?_
  refine .bind_same fun getterName => ?_
  refine .bind_same fun fullyCheckedCast => ?_
  exact .ok (view_eq_iff.2 ⟨htext, h.boxedType, rfl, rfl, rfl⟩)

end Draft

theorem toDraft_counterpart {p q : Property σ} (h : p.view = q.view) :
    p.toDraft.Counterpart q.toDraft := by
  obtain ⟨hdeclared, hboxed, hnames, hgenerator, hcast⟩ := view_eq_iff.1 h
  have hname (f : Naming.NameForms → String) : some (f p.toNameForms) = some (f q.toNameForms) := by
    rw [hnames]
  exact ⟨congrArg some hdeclared, hboxed, hname _, hname _, hname _, hname _, hgenerator,
    congrArg some hcast⟩

end Property

end BuilderSpec
