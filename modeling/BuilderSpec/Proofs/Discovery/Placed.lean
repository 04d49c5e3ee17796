/-
Naming the classes of a draft, and what comes after. The classes are written all four or not at all, and
where they are written they are placed as they must be: each directly inside the builder. They stay so
whatever is done to the draft from then on, as long as no class is set on its own, for the classes of a
family that conventions name are placed so as well. What may be missing of such a draft is the builder that
users see, a word on serialization or the strategy of a property, and nothing else.
-/
import BuilderSpec.Proofs.Discovery.Changes
import BuilderSpec.Proofs.Specification.FirstDefect

namespace BuilderSpec

namespace Specification

variable {σ : Type}

/-! ## Changes that set classes together -/

/-- A change that sets no class on its own, and the four together only to such as conventions name for some
user type. -/
def Edit.SetsTogether {π : Type} : Edit π → Prop
  | .generatedBuilder _ => False
  | .valueClass _ => False
  | .partialClass _ => False
  | .propertyEnum _ => False
  | .classes family =>
    ∃ package name conventions, ClassFamily.forType package name conventions = .ok family
  | _ => True

/-- Such a change sets the classes of a family that conventions name, or writes none of the four. -/
theorem Edit.SetsTogether.cases {π : Type} {e : Edit π} (he : e.SetsTogether) :
    (∃ package name conventions family,
      ClassFamily.forType package name conventions = .ok family ∧ e = .classes family) ∨
      e.write? .generatedBuilder = none ∧ ∀ role, e.write? (.nested role) = none := by
  cases e with
  | generatedBuilder c => exact he.elim
  | valueClass c => exact he.elim
  | partialClass c => exact he.elim
  | propertyEnum c => exact he.elim
  | classes family =>
    obtain ⟨package, name, conventions, hfamily⟩ := he
    exact .inl ⟨package, name, conventions, family, hfamily, rfl⟩
  | _ => exact .inr ⟨rfl, fun role => by cases role <;> rfl⟩

namespace Draft

/-- The same of any change. Naming the classes always sets them together. -/
def Change.SetsTogether : Change σ → Prop
  | .edit e => e.SetsTogether
  | .nameClasses _ _ => True

variable {d : Draft σ}

/-- Two drafts differ in nothing but the four classes. -/
structure SameButClasses (d d' : Draft σ) : Prop where
  packages : d'.packages = d.packages
  held : ∀ slot, slot ≠ .generatedBuilder → (∀ role, slot ≠ .nested role) → d'.held slot = d.held slot
  properties : d'.properties = d.properties
  ownMethods : d'.ownMethods = d.ownMethods

theorem sameButClasses_apply (d : Draft σ) (family : ClassFamily) :
    d.SameButClasses (d.apply (.classes family)) where
  packages := rfl
  held slot hbuilder hnested := by
    rw [held_apply]
    cases slot with
    | generatedBuilder => exact absurd rfl hbuilder
    | nested role => exact absurd rfl (hnested role)
    | _ => rfl
  properties := rfl
  ownMethods := rfl

theorem has_apply {field : Field} (h : d.has field = true) (e : Edit (Property σ)) :
    (d.apply e).has field = true := by
  rcases field with _ | _ | _ | role | _ | _
  case nested => cases role <;> cases e <;> first | exact h | rfl
  all_goals cases e <;> first | exact h | rfl

/-! ## Drafts whose classes are placed -/

/-- The declaring type is known, and the classes are there and directly inside the builder. -/
structure Placed (d : Draft σ) : Prop where
  declared : d.has .declaringType = true
  inside : ∀ role, ∃ builder c, d.generatedBuilder = some builder ∧
    d.held (.nested role) = some c ∧ c.enclosing = some builder

theorem placed_apply_classes {package name : String} {conventions : Conventions} {family : ClassFamily}
    (hdeclared : d.has .declaringType = true)
    (hfamily : ClassFamily.forType package name conventions = .ok family) :
    (d.apply (.classes family)).Placed where
  declared := has_apply hdeclared _
  inside role := ⟨family.builder, family.nested role, rfl, held_apply d _ (.nested role),
    (ClassFamily.forType_eq_ok_iff.1 hfamily).enclosing role⟩

theorem placed_of_nameClasses {lookup : PackageLookup} {conventions : Conventions} {d' : Draft σ}
    (h : d.nameClasses lookup conventions = (.ok (), d')) : d'.Placed := by
  obtain ⟨t, family, ht, hfamily, rfl⟩ := nameClasses_eq_ok_iff.1 h
  exact placed_apply_classes (congrArg Option.isSome ht) hfamily

theorem Placed.of_held (h : d.Placed) {d' : Draft σ} (hdeclared : d'.has .declaringType = true)
    (hbuilder : d'.held .generatedBuilder = d.held .generatedBuilder)
    (hnested : ∀ role, d'.held (.nested role) = d.held (.nested role)) : d'.Placed where
  declared := hdeclared
  inside role := by
    obtain ⟨builder, c, hb, hc, henclosing⟩ := h.inside role
    exact ⟨builder, c, hbuilder.trans hb, (hnested role).trans hc, henclosing⟩

theorem Placed.apply (h : d.Placed) {e : Edit (Property σ)} (he : e.SetsTogether) :
    (d.apply e).Placed := by
  rcases he.cases with ⟨package, name, conventions, family, hfamily, rfl⟩ | ⟨hbuilder, hnested⟩
  · exact placed_apply_classes h.declared hfamily
  · exact h.of_held (has_apply h.declared e) (held_apply_of_none hbuilder)
      fun role => held_apply_of_none (hnested role)

theorem Placed.change (h : d.Placed) {change : Change σ} (hchange : change.SetsTogether) :
    (d.change change).Placed := by
  rcases d.change_cases change with heq | ⟨e, heq, rfl | ⟨package, name, conventions, family, hfamily, rfl⟩⟩
  · rwa [heq]
  · rw [heq]
    exact h.apply hchange
  · rw [heq]
    exact h.apply ⟨package, name, conventions, hfamily⟩

theorem Placed.changeAll (h : d.Placed) {changes : List (Change σ)}
    (hchanges : ∀ change ∈ changes, change.SetsTogether) : (d.changeAll changes).Placed :=
  changeAll_induction (fun change hmem _ h' => h'.change (hchanges change hmem)) h

/-- All that can be missing of a draft whose classes are placed. -/
theorem Placed.defect (h : d.Placed) {defect : Defect} (hdefect : d.finish.result = .error defect) :
    defect = .missing .builderType ∨ defect = .missing .builderSerializable ∨
      defect = .missing .gwtSerializable ∨
        ∃ index, FirstWithoutGenerator d.properties index ∧ defect = .noGenerator index := by
  obtain ⟨r, -, hbreaks⟩ := (finish_result_eq_error_iff.1 hdefect).exists_mem
  cases hbreaks with
  | @missing field hmissing =>
    cases field with
    | builderType => exact .inl rfl
    | builderSerializable => exact .inr (.inl rfl)
    | gwtSerializable => exact .inr (.inr (.inl rfl))
    | declaringType =>
      rw [h.declared] at hmissing
      cases hmissing
    | generatedBuilder =>
      obtain ⟨builder, -, hbuilder, -, -⟩ := h.inside .valueClass
      simp only [has, hbuilder] at hmissing
      cases hmissing
    | nested role =>
      obtain ⟨-, c, -, hc, -⟩ := h.inside role
      rw [has_nested, hc] at hmissing
      cases hmissing
  | @misnested role builder c hb hc hne =>
    exact absurd (.misnested hb hc hne) (not_breaks_inside (h.inside role) _)
  | @noGenerator index hindex => exact .inr (.inr (.inr ⟨index, hindex, rfl⟩))

end Draft

end Specification

/-! ## Naming the classes in a pass -/

namespace Discovery

open Specification Draft

variable {σ : Type} {s : Discovery σ}

/-- Naming classes in a pass puts the draft back as it is then, whatever is answered. -/
theorem step_nameClasses {draft : String} {d d' : Draft σ} {lookup : PackageLookup}
    {conventions : Conventions} {result : Except NamingError Unit} (hd : s.drafts.get draft = .ok d)
    (h : d.nameClasses lookup conventions = (result, d')) :
    s.step (.nameClasses draft lookup conventions) =
      ({ s with drafts := s.drafts.bind draft d' }, .named result) := by
  simp only [step, attempt, hd]
  show ({ s with drafts := s.drafts.bind draft (d.nameClasses lookup conventions).2 },
    Outcome.named (d.nameClasses lookup conventions).1) = _
  rw [h]

/-- Naming the classes of a draft leaves that draft as it is when it fails, and else changes nothing but its
four classes. All else in the pass stays what it is. From then on no draft that comes from it has a class in
the wrong place, and each defect is one of four, as long as no class is set on its own. The calls may change
the declaring type and all other fields, add properties and methods, name the classes again or fail to, set
classes that were named for another user type, copy drafts and finish them, and do to other drafts whatever
they like. -/
theorem nameClasses_atomic {draft : String} {d : Draft σ} (hd : s.drafts.get draft = .ok d)
    (lookup : PackageLookup) (conventions : Conventions) :
    ∃ t result d', d.nameClasses lookup conventions = (result, d') ∧
      s.step (.nameClasses draft lookup conventions) = (t, .named result) ∧
      t = { s with drafts := s.drafts.bind draft d' } ∧
      (∀ e, result = .error e → d' = d ∧ ∀ name, t.drafts.get name = s.drafts.get name) ∧
      (result = .ok () → d.SameButClasses d' ∧
        ∀ (calls : List (Call σ)) (name : String), t.sourceBefore? calls name = some draft →
          (∀ change ∈ t.changesTo calls name, change.SetsTogether) →
            ∃ later, (t.after calls).drafts.get name = .ok later ∧
              ∀ defect, later.finish.result = .error defect →
                (∀ role builder scope, defect ≠ .misnested role builder scope) ∧
                ∃ key, defect.missingField? = some key ∧ defect.message = missingMessage key ∧
                  (key ∈ ["builder_type", "builder_serializable", "gwt_serializable"] ∨
                    ∃ index, FirstWithoutGenerator later.properties index ∧
                      key = "properties[" ++ index.repr ++ "].code_generator")) := by
  rcases d.nameClasses_cases lookup conventions with ⟨e, hnamed⟩ | ⟨t, family, -, -, hnamed⟩
  · refine ⟨_, _, _, hnamed, step_nameClasses hd hnamed, rfl,
      fun _ _ => ⟨rfl, Bindings.get_bind_of_get hd⟩, fun h => ?_⟩
    cases h
  · -- The draft has its classes placed right after they were named, and so has what becomes of it.
    have hplaced : (d.apply (.classes family)).Placed := placed_of_nameClasses hnamed
    refine ⟨_, _, _, hnamed, step_nameClasses hd hnamed, rfl,
      fun _ h => ?_, fun _ => ⟨d.sameButClasses_apply family, fun calls name hsource htogether => ?_⟩⟩
    · cases h
    · refine ⟨_, get_after hsource (s.drafts.get_bind_self draft _), fun defect hdefect => ?_⟩
      obtain rfl | rfl | rfl | ⟨index, hindex, rfl⟩ := (hplaced.changeAll htogether).defect hdefect
      · exact ⟨fun _ _ _ h => (by cases h), _, rfl, rfl, .inl (by decide)⟩
      · exact ⟨fun _ _ _ h => (by cases h), _, rfl, rfl, .inl (by decide)⟩
      · exact ⟨fun _ _ _ h => (by cases h), _, rfl, rfl, .inl (by decide)⟩
      · exact ⟨fun _ _ _ h => (by cases h), _, rfl, rfl, .inr ⟨index, hindex, rfl⟩⟩

/-- The builder of a user type, at the top level of its package. -/
def builderOf (name : Naming.Identifier) : GeneratedClass :=
  .topLevel personPackage name

/-- The draft of a user type with a builder that was set by hand and classes which are not inside it. -/
def scatteredDraft : Draft StandardStrategy :=
  (Draft.empty ⟨0⟩).applyAll [
    .declaringType (DeclPath.toRef ⟨1⟩ (.topLevel "org.example" "Person")),
    .builderType (DeclPath.toRef ⟨2⟩ ⟨"org.example", "Person", ["Builder"]⟩),
    .classes (.standardIn (builderOf ⟨"Builder", by decide⟩)),
    .generatedBuilder (builderOf ⟨"Other", by decide⟩)]

/-- A pass that holds this draft and nothing else. -/
def scattered : Discovery StandardStrategy where
  propertyDrafts := .empty
  properties := .empty
  drafts := Bindings.empty.bind "person" scatteredDraft
  specifications := .empty

/-- The pass when the classes of the draft have been named. -/
def gathered : Discovery StandardStrategy where
  propertyDrafts := .empty
  properties := .empty
  drafts := scattered.drafts.bind "person"
    (scatteredDraft.apply (.classes (.standardIn (builderOf personBuilderName))))
  specifications := .empty

/-- Calls by which the draft goes astray again when it has been copied. The copy is told another declaring
type, is named for it and at last gets the classes of a third type. -/
def strayingCalls : List (Call StandardStrategy) := [
  .copyDraft "person" "copy",
  .edit "person" (.generatedBuilder (builderOf ⟨"Other", by decide⟩)),
  .nameClasses "copy" (fun _ _ => some "1") .standard,
  .edit "copy" (.declaringType (DeclPath.toRef ⟨3⟩ (.topLevel "org.example" "Employee"))),
  .nameClasses "copy" (fun _ _ => none) .standard,
  .finish "copy" "copy",
  .edit "copy" (.classes (.standardIn (builderOf ⟨"Pet_Builder", by decide⟩))),
  .edit "copy" (.addProperties ["nothing"]),
  .edit "copy" (.gwtSerializable true)]

theorem setsTogether_strayingCalls :
    ∀ change ∈ gathered.changesTo strayingCalls "copy", change.SetsTogether := by
  have hchanges : gathered.changesTo strayingCalls "copy" = [
      .nameClasses (fun _ _ => some "1") .standard,
      .edit (.declaringType (DeclPath.toRef ⟨3⟩ (.topLevel "org.example" "Employee"))),
      .nameClasses (fun _ _ => none) .standard,
      .edit (.classes (.standardIn (builderOf ⟨"Pet_Builder", by decide⟩))),
      .edit (.gwtSerializable true)] := rfl
  have hfamily : (Edit.classes (π := Property StandardStrategy)
      (.standardIn (builderOf ⟨"Pet_Builder", by decide⟩))).SetsTogether :=
    ⟨"org.example", "Pet", .standard, rfl⟩
  rw [hchanges]
  simp only [List.forall_mem_cons]
  exact ⟨trivial, trivial, trivial, hfamily, trivial, List.forall_mem_nil _⟩

theorem nameClasses_atomic_scattered :
    scatteredDraft.finish.result = .error (.misnested .valueClass (builderOf ⟨"Other", by decide⟩)
      (some (builderOf ⟨"Builder", by decide⟩))) ∧
    (∃ e, scatteredDraft.nameClasses (fun _ _ => some "1") .standard = (.error e, scatteredDraft)) ∧
    scattered.step (.nameClasses "person" (fun _ _ => some "org.example") .standard) =
      (gathered, .named (.ok ())) ∧
    gathered.sourceBefore? strayingCalls "copy" = some "person" ∧
    ∃ later, (gathered.after strayingCalls).drafts.get "copy" = .ok later ∧
      later.finish.result = .error (.missing .builderSerializable) ∧
      ∀ role builder scope, later.finish.result ≠ .error (.misnested role builder scope) := by
  have hd : scattered.drafts.get "person" = .ok scatteredDraft := rfl
  have hstep : scattered.step (.nameClasses "person" (fun _ _ => some "org.example") .standard) =
      (gathered, .named (.ok ())) := rfl
  have hsource : gathered.sourceBefore? strayingCalls "copy" = some "person" := by decide
  refine ⟨rfl, ?_, hstep, hsource, ?_⟩
  · obtain ⟨t, result, d', hnaming, -, -, hfailed, -⟩ :=
      nameClasses_atomic hd (fun _ _ => some "1") .standard
    have hresult : result = .error (.naming (.identifier ⟨"1"⟩)) := (congrArg Prod.fst hnaming).symm
    rw [hresult, (hfailed _ hresult).1] at hnaming
    exact ⟨_, hnaming⟩
  · obtain ⟨t, result, d', -, hnaming, -, -, hnamed⟩ :=
      nameClasses_atomic hd (fun _ _ => some "org.example") .standard
    cases hnaming.symm.trans hstep
    obtain ⟨later, hlater, hdefects⟩ :=
      (hnamed rfl).2 strayingCalls "copy" hsource setsTogether_strayingCalls
    refine ⟨later, hlater, ?_, fun role builder scope h => (hdefects _ h).1 role builder scope rfl⟩
    cases hlater
    rfl

end Discovery

end BuilderSpec
