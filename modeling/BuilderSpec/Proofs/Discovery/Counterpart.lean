/-
Two passes that make the same calls on other symbols and other tables: what one holds stays the
counterpart of what the other holds, and what they answer cannot be told apart. So no symbol and no
table shows in a specification.
-/
import BuilderSpec.Discovery
import BuilderSpec.Proofs.Specification.Counterpart

namespace BuilderSpec

/-! ## Names -/

namespace Bindings

variable {α β ε : Type} {R : α → β → Prop}

/-- The same names, given in the same order to values that `R` relates. -/
def Alike (R : α → β → Prop) (b : Bindings α) (c : Bindings β) : Prop :=
  List.Forall₂ (fun x y => x.1 = y.1 ∧ R x.2 y.2) b.entries c.entries

namespace Alike

variable {b : Bindings α} {c : Bindings β}

theorem get (h : Alike R b c) (name : String) : FareAlike R (b.get name) (c.get name) := by
  obtain ⟨entries⟩ := b
  obtain ⟨entries'⟩ := c
  change List.Forall₂ _ entries entries' at h
  unfold Bindings.get
  induction h with
  | nil => exact .error _
  | @cons x y _ _ hxy _ ih =>
    obtain ⟨key, a⟩ := x
    obtain ⟨key', a'⟩ := y
    obtain ⟨hkey, ha⟩ := hxy
    cases hkey
    -- The keys are the same on both sides, so both searches stop here, or neither does.
    rw [List.lookup_cons, List.lookup_cons]
    cases name == key with
    | true => exact .ok ha
    | false => exact ih

theorem bind (h : Alike R b c) (name : String) {x : α} {y : β} (hxy : R x y) :
    Alike R (b.bind name x) (c.bind name y) :=
  .cons ⟨rfl, hxy⟩ h

theorem bindResult (h : Alike R b c) (name : String) {x : Except ε α} {y : Except ε β}
    (hxy : FareAlike R x y) : Alike R (b.bindResult name x) (c.bindResult name y) := by
  cases hxy with
  | error e => exact h
  | ok hab => exact h.bind name hab

end Alike

end Bindings

namespace Discovery

variable {σ : Type} {C : Correspondence}

/-! ## Calls and answers -/

/-- The same call, made on other types and declarations of the same texts and on other tables. A
call that names classes may only ask tables that name them alike. -/
inductive Call.Counterpart (C : Correspondence) : Call σ → Call σ → Prop
  | newProperty (name : String) : Counterpart C (.newProperty name) (.newProperty name)
  | copyPropertyDraft (draft name : String) :
    Counterpart C (.copyPropertyDraft draft name) (.copyPropertyDraft draft name)
  | reopenProperty (property name : String) :
    Counterpart C (.reopenProperty property name) (.reopenProperty property name)
  | editProperty (draft : String) {e f : Property.Edit σ} (h : e.Counterpart f) :
    Counterpart C (.editProperty draft e) (.editProperty draft f)
  | finishProperty (draft name : String) :
    Counterpart C (.finishProperty draft name) (.finishProperty draft name)
  | withGenerator (property : String) (g : σ) (name : String) :
    Counterpart C (.withGenerator property g name) (.withGenerator property g name)
  | newSpecification {r r' : TableRef} (h : C.tables r r') (name : String) :
    Counterpart C (.newSpecification r name) (.newSpecification r' name)
  | copyDraft (draft name : String) : Counterpart C (.copyDraft draft name) (.copyDraft draft name)
  | reopen (specification name : String) :
    Counterpart C (.reopen specification name) (.reopen specification name)
  | edit (draft : String) {e f : Specification.Edit String} (h : e.Counterpart C Eq f) :
    Counterpart C (.edit draft e) (.edit draft f)
  | nameClasses (draft : String) {lookup lookup' : PackageLookup} (h : C.NamesAlike lookup lookup')
    (conventions : Conventions) :
    Counterpart C (.nameClasses draft lookup conventions) (.nameClasses draft lookup' conventions)
  | finish (draft name : String) : Counterpart C (.finish draft name) (.finish draft name)

/-- Nothing tells two answers apart: they fail for one reason and report the same events, and what
they hold is indistinguishable. -/
inductive Outcome.Indistinguishable [DecidableEq σ] [Strategy σ] : Outcome σ → Outcome σ → Prop
  | unbound (u : Unbound) : Indistinguishable (.unbound u) (.unbound u)
  | quiet : Indistinguishable .quiet .quiet
  | property {x y : Except Property.Field (Property σ)}
    (h : FareAlike Property.Indistinguishable x y) : Indistinguishable (.property x) (.property y)
  | named (x : Except Specification.Draft.NamingError Unit) : Indistinguishable (.named x) (.named x)
  | specification {x y : Reported (Except Specification.Defect (Specification σ))}
    (events : x.events = y.events) (result : FareAlike Specification.Indistinguishable x.result y.result) :
    Indistinguishable (.specification x) (.specification y)

/-! ## Passes -/

/-- Passes that hold counterparts under the same names. -/
structure Counterpart (C : Correspondence) (s t : Discovery σ) : Prop where
  propertyDrafts : Bindings.Alike Property.Draft.Counterpart s.propertyDrafts t.propertyDrafts
  properties : Bindings.Alike (fun p q => p.view = q.view) s.properties t.properties
  drafts : Bindings.Alike (Specification.Draft.Counterpart C) s.drafts t.drafts
  specifications : Bindings.Alike (Specification.Counterpart C) s.specifications t.specifications

theorem Counterpart.empty : (empty : Discovery σ).Counterpart C empty :=
  ⟨.nil, .nil, .nil, .nil⟩

section

variable [DecidableEq σ] [Strategy σ]

/-- What two attempts lead to: passes that are counterparts again, and answers that cannot be told
apart. -/
def Results (C : Correspondence) (x y : Discovery σ × Outcome σ) : Prop :=
  x.1.Counterpart C y.1 ∧ x.2.Indistinguishable y.2

theorem Counterpart.attempt {s t : Discovery σ} {c c' : Call σ} (hs : s.Counterpart C t)
    (hc : c.Counterpart C c') : FareAlike (Results C) (s.attempt c) (t.attempt c') := by
  cases hc with
  | newProperty name =>
    exact .ok ⟨{ hs with propertyDrafts := hs.propertyDrafts.bind name (.refl _) }, .quiet⟩
  | copyPropertyDraft draft name =>
    refine (hs.propertyDrafts.get draft).bind fun d e h => ?_
    exact .ok ⟨{ hs with propertyDrafts := hs.propertyDrafts.bind name h }, .quiet⟩
  | reopenProperty property name =>
    refine (hs.properties.get property).bind fun p q h => ?_
    have hdraft := Property.toDraft_counterpart h
    exact .ok ⟨{ hs with propertyDrafts := hs.propertyDrafts.bind name hdraft }, .quiet⟩
  | editProperty draft he =>
    refine (hs.propertyDrafts.get draft).bind fun d e h => ?_
    exact .ok ⟨{ hs with propertyDrafts := hs.propertyDrafts.bind draft (h.apply he) }, .quiet⟩
  | finishProperty draft name =>
    refine (hs.propertyDrafts.get draft).bind fun d e h => ?_
    have hfinish := h.finish
    exact .ok ⟨{ hs with properties := hs.properties.bindResult name hfinish },
      .property (hfinish.imp fun _ _ => Property.indistinguishable_of_view_eq)⟩
  | withGenerator property g name =>
    refine (hs.properties.get property).bind fun p q h => ?_
    have hview := Property.view_withGenerator h g
    exact .ok ⟨{ hs with properties := hs.properties.bind name hview },
      .property (.ok (Property.indistinguishable_of_view_eq hview))⟩
  | newSpecification h name =>
    exact .ok ⟨{ hs with drafts := hs.drafts.bind name (.empty h) }, .quiet⟩
  | copyDraft draft name =>
    refine (hs.drafts.get draft).bind fun d e h => ?_
    exact .ok ⟨{ hs with drafts := hs.drafts.bind name h }, .quiet⟩
  | reopen specification name =>
    refine (hs.specifications.get specification).bind fun d e h => ?_
    exact .ok ⟨{ hs with drafts := hs.drafts.bind name h.toDraft }, .quiet⟩
  | edit draft he =>
    refine (hs.drafts.get draft).bind fun d e h => ?_
    have hfind : ∀ p q, p = q → FareAlike (fun p q => p.view = q.view) (s.properties.get p)
        (t.properties.get q) := by
      rintro p _ rfl
      exact hs.properties.get p
    refine (he.resolve hfind).bind fun f g hfg => ?_
    exact .ok ⟨{ hs with drafts := hs.drafts.bind draft (h.apply hfg) }, .quiet⟩
  | nameClasses draft hlookup conventions =>
    refine (hs.drafts.get draft).bind fun d e h => ?_
    obtain ⟨hanswer, hafter⟩ := h.nameClasses hlookup conventions
    exact .ok ⟨{ hs with drafts := hs.drafts.bind draft hafter }, hanswer ▸ .named _⟩
  | finish draft name =>
    refine (hs.drafts.get draft).bind fun d e h => ?_
    obtain ⟨hevents, hresult⟩ := h.finish
    exact .ok ⟨{ hs with specifications := hs.specifications.bindResult name hresult },
      .specification hevents (hresult.imp fun _ _ h => h.indistinguishable)⟩

theorem Counterpart.step {s t : Discovery σ} {c c' : Call σ} (hs : s.Counterpart C t)
    (hc : c.Counterpart C c') : Results C (s.step c) (t.step c') := by
  have hattempt := hs.attempt hc
  unfold Discovery.step
  generalize s.attempt c = x at hattempt
  generalize t.attempt c' = y at hattempt
  cases hattempt with
  | error u => exact ⟨hs, .unbound u⟩
  | ok h => exact h

theorem Counterpart.outcomes {s t : Discovery σ} {calls calls' : List (Call σ)}
    (hs : s.Counterpart C t) (h : List.Forall₂ (Call.Counterpart C) calls calls') :
    List.Forall₂ Outcome.Indistinguishable (s.outcomes calls) (t.outcomes calls') := by
  induction h generalizing s t with
  | nil => exact .nil
  | cons hc _ ih =>
    obtain ⟨hnext, houtcome⟩ := hs.step hc
    exact .cons houtcome (ih hnext)

/-- No symbol and no table shows in what a pass makes. Calls that name classes ask for the names
around declarations and for their packages, so they need these to be the same; without such calls
any declarations of one text may stand for each other, and any tables. -/
theorem outcomes_indistinguishable {calls calls' : List (Call σ)}
    (h : List.Forall₂ (Call.Counterpart C) calls calls') :
    List.Forall₂ Outcome.Indistinguishable (empty.outcomes calls) (empty.outcomes calls') :=
  Counterpart.empty.outcomes h

end

/-- A pass over a user type with one property, by what the host compiler knows of the two types, the
builder and the package. -/
def personPass (int : TypeRef) (person builder : DeclRef) (packages : TableRef)
    (lookup : PackageLookup) : List (Call StandardStrategy) := [
  .newProperty "age",
  .editProperty "age" (.declaredType int),
  .editProperty "age" (.names ⟨"age", "Age", "AGE", "getAge"⟩),
  .editProperty "age" (.fullyCheckedCast true),
  .finishProperty "age" "age",
  .withGenerator "age" .default "age",
  .newSpecification packages "person",
  .nameClasses "person" lookup .standard,
  .edit "person" (.declaringType person),
  .edit "person" (.builderType builder),
  .nameClasses "person" lookup .standard,
  .edit "person" (.addProperties ["age", "age"]),
  .edit "person" (.builderSerializable true),
  .finish "person" "person",
  .edit "person" (.gwtSerializable false),
  .finish "person" "person"]

/-- The user type under a symbol. -/
def personRef (symbol : SymbolId) : DeclRef :=
  DeclPath.toRef symbol (.topLevel "org.example" "Person")

/-- Tables of which the last knows the package of the user type. -/
def personTables (symbol : SymbolId) (others : List PackageTable) : PackageTables :=
  ⟨others ++ [PackageTable.empty.register (personRef symbol) "org.example"]⟩

/-- Declarations of one text and with the same names around them stand for each other, and the first
table of one pass for the second of the other. -/
def personCorrespondence : Correspondence where
  declarations d e := d.text = e.text ∧ d.declaration.names = e.declaration.names
  tables r r' := r = ⟨0⟩ ∧ r' = ⟨1⟩
  text_eq h := h.1

/-- Two passes under different symbols, with a type that only one of them takes for primitive and a
builder that they know by different names, finish specifications that cannot be told apart. -/
theorem outcomes_personPass :
    (∃ s ∈ (empty.after (personPass ⟨⟨1⟩, "int", true⟩ (personRef ⟨2⟩)
        ⟨⟨3⟩, .topLevel "org.example.Person.Builder" "Builder"⟩ ⟨0⟩
        (personTables ⟨2⟩ []).lookup)).specifications.values,
      s.classes.builder.qualifiedName = "org.example.Person_Builder") ∧
    List.Forall₂ Outcome.Indistinguishable
      (empty.outcomes (personPass ⟨⟨1⟩, "int", true⟩ (personRef ⟨2⟩)
        ⟨⟨3⟩, .topLevel "org.example.Person.Builder" "Builder"⟩ ⟨0⟩ (personTables ⟨2⟩ []).lookup))
      (empty.outcomes (personPass ⟨⟨5⟩, "int", false⟩ (personRef ⟨6⟩)
        ⟨⟨7⟩, .topLevel "org.example.Person.Builder" "Person$Builder"⟩ ⟨1⟩
        (personTables ⟨6⟩ [.empty]).lookup)) := by
  have hnames : personCorrespondence.NamesAlike (personTables ⟨2⟩ []).lookup
      (personTables ⟨6⟩ [.empty]).lookup := by
    rintro d e r r' ⟨htext, hnames⟩ ⟨rfl, rfl⟩
    refine ⟨hnames, ?_⟩
    show List.lookup d.text [("org.example.Person", "org.example")] = List.lookup e.text _
    rw [htext]
    rfl
  have hperson : personCorrespondence.declarations (personRef ⟨2⟩) (personRef ⟨6⟩) := ⟨rfl, rfl⟩
  have htables : personCorrespondence.tables ⟨0⟩ ⟨1⟩ := ⟨rfl, rfl⟩
  refine ⟨?_, outcomes_indistinguishable (C := personCorrespondence) ?_⟩
  · decide
  · refine .cons (.newProperty _) (.cons (.editProperty _ (.declaredType rfl)) ?_)
    refine .cons (.editProperty _ (.same _)) (.cons (.editProperty _ (.same _)) ?_)
    refine .cons (.finishProperty _ _) (.cons (.withGenerator _ _ _) ?_)
    refine .cons (.newSpecification htables _) (.cons (.nameClasses _ hnames _) ?_)
    refine .cons (.edit _ (.declaringType hperson)) (.cons (.edit _ (.builderType rfl)) ?_)
    refine .cons (.nameClasses _ hnames _) (.cons (.edit _ (.addProperties ?_)) ?_)
    · exact List.forall₂_same.2 fun _ _ => rfl
    refine .cons (.edit _ (.builderSerializable _)) (.cons (.finish _ _) ?_)
    exact .cons (.edit _ (.gwtSerializable _)) (.cons (.finish _ _) .nil)

end Discovery

end BuilderSpec
