/-
The names of the four classes of a specification. None of the nested classes has the qualified name of
the builder, and two of them have one qualified name only when they have one name. Finishing a draft does
not look at that: it is for whoever names the classes. Conventions give different names, so that classes
which one and the same conventions have named are different, whatever calls put them where they are. They
are classes of that kind wherever no call sets a class on its own.
-/
import BuilderSpec.Proofs.Class.Named
import BuilderSpec.Proofs.Discovery.Origin
import BuilderSpec.Proofs.Discovery.Placed
import BuilderSpec.Proofs.Specification.BuilderName
import BuilderSpec.Proofs.Specification.Edits
import BuilderSpec.Proofs.Specification.SameClasses

namespace BuilderSpec

/-! ## Classes that conventions have named -/

/-- The class has the role in a family that the conventions name for some user type. -/
def Conventions.Names (conventions : Conventions) (role : NestedRole) (c : GeneratedClass) : Prop :=
  ∃ (package name : String) (family : ClassFamily),
    ClassFamily.forType package name conventions = .ok family ∧ family.nested role = c

namespace Conventions.Names

variable {conventions : Conventions} {role : NestedRole} {c : GeneratedClass}

theorem simpleName (h : conventions.Names role c) : c.simpleName = conventions.nestedName role := by
  obtain ⟨package, name, family, hfamily, rfl⟩ := h
  exact (ClassFamily.forType_eq_ok_iff.1 hfamily).simpleName role

theorem distinct (h : conventions.Names role c) : Function.Injective conventions.nestedName := by
  obtain ⟨package, name, family, hfamily, -⟩ := h
  exact (ClassFamily.forType_eq_ok_iff.1 hfamily).usable.distinct

/-- The builder around the class has none of the names of nested classes. -/
theorem builder_apart (h : conventions.Names role c) {builder : GeneratedClass}
    (hc : c.enclosing = some builder) (other : NestedRole) :
    conventions.nestedName other ≠ builder.simpleName := by
  obtain ⟨package, name, family, hfamily, rfl⟩ := h
  have hnamed := ClassFamily.forType_eq_ok_iff.1 hfamily
  have hbuilder : family.builder = builder := Option.some.inj ((hnamed.enclosing role).symm.trans hc)
  rw [← hbuilder]
  exact hnamed.builder_apart other

end Conventions.Names

namespace Specification

variable {σ : Type}

/-- The names of the four classes are all different, and no class has the name of the one around it. -/
structure NamesApart (s : Specification σ) : Prop where
  builder : ∀ role, s.classes.builder.qualifiedName ≠ (s.classes.nested role).qualifiedName
  nested : ∀ role other, role ≠ other →
    (s.classes.nested role).qualifiedName ≠ (s.classes.nested other).qualifiedName
  shadowing : ∀ role, (s.classes.nested role).simpleName ≠ s.classes.builder.simpleName

theorem Finished.builder_ne {s : Specification σ} (h : s.Finished) (role : NestedRole) :
    s.classes.builder.qualifiedName ≠ (s.classes.nested role).qualifiedName :=
  GeneratedClass.qualifiedName_ne_of_enclosing (h.nested role)

theorem Finished.qualifiedName_eq_iff {s : Specification σ} (h : s.Finished) (role other : NestedRole) :
    (s.classes.nested role).qualifiedName = (s.classes.nested other).qualifiedName ↔
      (s.classes.nested role).simpleName = (s.classes.nested other).simpleName :=
  GeneratedClass.qualifiedName_eq_iff_of_enclosing (h.nested role) (h.nested other)

theorem Finished.simpleName_ne_builder {s : Specification σ} (h : s.Finished) {conventions : Conventions}
    {role : NestedRole} (hnamed : conventions.Names role (s.classes.nested role)) :
    (s.classes.nested role).simpleName ≠ s.classes.builder.simpleName := by
  rw [hnamed.simpleName]
  exact hnamed.builder_apart (h.nested role) role

theorem Finished.namesApart {s : Specification σ} (h : s.Finished) {conventions : Conventions}
    (hnamed : ∀ role, conventions.Names role (s.classes.nested role)) : s.NamesApart where
  builder := h.builder_ne
  nested role other hne heq := by
    rw [h.qualifiedName_eq_iff, (hnamed role).simpleName, (hnamed other).simpleName] at heq
    exact hne ((hnamed role).distinct heq)
  shadowing role := h.simpleName_ne_builder (hnamed role)

/-! ## Drafts and changes -/

/-- A change that sets classes together does so whatever the properties are that it adds. -/
theorem Edit.SetsTogether.of_resolve {π ρ ε : Type} {find : π → Except ε ρ} {e : Edit π} {e' : Edit ρ}
    (he : e.SetsTogether) (h : e.resolve find = .ok e') : e'.SetsTogether := by
  cases e with
  | addProperty p =>
    rw [resolve] at h
    cases hp : find p <;> rw [hp] at h <;> cases h
    trivial
  | addProperties ps =>
    rw [resolve] at h
    cases hps : ps.mapM find <;> rw [hps] at h <;> cases h
    trivial
  | _ =>
    cases h
    exact he

namespace Draft

/-- The nested classes that a draft holds are all named by one and the same conventions. -/
def NamedAlike (d : Draft σ) : Prop :=
  ∃ conventions : Conventions, ∀ role c, d.held (.nested role) = some c → conventions.Names role c

variable {d : Draft σ}

theorem namedAlike_empty (packages : TableRef) : (empty packages : Draft σ).NamedAlike := by
  refine ⟨.standard, fun role c h => ?_⟩
  cases role <;> cases h

theorem NamedAlike.apply (h : d.NamedAlike) {e : Edit (Property σ)} (he : e.SetsTogether) :
    (d.apply e).NamedAlike := by
  rcases he.cases with ⟨package, name, conventions, family, hfamily, rfl⟩ | ⟨-, hnested⟩
  · -- All three classes are new, whatever named those before them.
    refine ⟨conventions, fun role c hc => ⟨package, name, family, hfamily, ?_⟩⟩
    rw [held_apply] at hc
    exact Option.some.inj hc
  · obtain ⟨conventions, hnamed⟩ := h
    refine ⟨conventions, fun role c hc => hnamed role c ?_⟩
    rwa [held_apply_of_none (hnested role)] at hc

theorem NamedAlike.nameClasses (h : d.NamedAlike) {lookup : PackageLookup} {conventions : Conventions}
    {d' : Draft σ} (hnamed : d.nameClasses lookup conventions = (.ok (), d')) : d'.NamedAlike := by
  obtain ⟨t, family, -, hfamily, rfl⟩ := nameClasses_eq_ok_iff.1 hnamed
  exact h.apply ⟨_, _, conventions, hfamily⟩

theorem NamedAlike.of_finish (h : d.NamedAlike) {s : Specification σ} (hs : d.finish.result = .ok s) :
    s.toDraft.NamedAlike := by
  rw [d.finish_result] at hs
  rwa [(check_eq_ok_iff.1 hs).1] at h

end Draft

end Specification

/-! ## Runs of calls -/

namespace Discovery

open Specification

variable {σ : Type}

/-- The call sets no class of a draft on its own, and the four together only to such as conventions name for
some user type. -/
def Call.SetsTogether : Call σ → Prop
  | .edit _ e => e.SetsTogether
  | _ => True

theorem DraftOrigin.namedAlike {s : Discovery σ} {c : Call σ} (hc : c.SetsTogether)
    (hs : Holds Draft.NamedAlike (fun t => t.toDraft.NamedAlike) s) {d : Draft σ}
    (hd : DraftOrigin s c d) : d.NamedAlike := by
  cases hd with
  | kept h => exact hs.drafts d h
  | new => exact Draft.namedAlike_empty _
  | reopened h => exact hs.specifications _ h
  | edited h he => exact (hs.drafts _ h).apply (hc.of_resolve he)
  | named h hn => exact (hs.drafts _ h).nameClasses hn

theorem namedAlike_of_mem_after {calls : List (Call σ)} (hcalls : ∀ c ∈ calls, c.SetsTogether)
    {d : Draft σ} (hd : d ∈ (empty.after calls).drafts.values) : d.NamedAlike :=
  (Holds.after (fun _ _ _ hc hs hd => hd.namedAlike hc hs) (fun _ _ hd h => hd.of_finish h)
    (holds_empty _ _) hcalls).drafts d hd

/-- Whatever calls lead to a draft that can be finished, the builder of the specification has a qualified
name of its own, and two of the nested classes share one exactly when they share a name. A nested class that
any conventions have named is not called like the builder, and when one and the same conventions have named
all three, by whatever calls they came there, the four names are different. So they are after calls that set
no class on its own: the classes may be named under one conventions after another, may fail to be named, and
may be set to others that were named together. -/
theorem names_of_finish_after (calls : List (Call σ)) {d : Draft σ} {s : Specification σ}
    (hd : d ∈ (empty.after calls).drafts.values) (hs : d.finish.result = .ok s) :
    (∀ role, s.classes.builder.qualifiedName ≠ (s.classes.nested role).qualifiedName) ∧
    (∀ role other, (s.classes.nested role).qualifiedName = (s.classes.nested other).qualifiedName ↔
      (s.classes.nested role).simpleName = (s.classes.nested other).simpleName) ∧
    (∀ (conventions : Conventions) (role : NestedRole), conventions.Names role (s.classes.nested role) →
      (s.classes.nested role).simpleName ≠ s.classes.builder.simpleName) ∧
    (∀ conventions : Conventions, (∀ role, conventions.Names role (s.classes.nested role)) →
      s.NamesApart) ∧
    ((∀ c ∈ calls, c.SetsTogether) → s.NamesApart) := by
  have hfinished : s.Finished := finished_of_finish hs
  refine ⟨hfinished.builder_ne, hfinished.qualifiedName_eq_iff,
    fun _ _ hnamed => hfinished.simpleName_ne_builder hnamed,
    fun _ hnamed => hfinished.namesApart hnamed, fun hcalls => ?_⟩
  obtain ⟨conventions, hnamed⟩ := (namedAlike_of_mem_after hcalls hd).of_finish hs
  exact hfinished.namesApart fun role => hnamed role _ (Draft.held_toDraft s role)

/-! ## Classes that are set by hand -/

/-- Calls that set the four classes one by one. -/
def handCalls (classes : ClassFamily) : List (Call StandardStrategy) := [
  .newSpecification ⟨0⟩ "person",
  .edit "person" (.declaringType (DeclPath.toRef ⟨1⟩ (.topLevel "org.example" "Person"))),
  .edit "person" (.builderType (DeclPath.toRef ⟨2⟩ ⟨"org.example", "Person", ["Builder"]⟩)),
  .edit "person" (.propertyEnum classes.propertyEnum),
  .edit "person" (.partialClass classes.partialClass),
  .edit "person" (.valueClass classes.valueClass),
  .edit "person" (.generatedBuilder classes.builder),
  .edit "person" (.builderSerializable false),
  .edit "person" (.gwtSerializable false)]

theorem mem_after_handCalls (classes : ClassFamily) :
    (personWith classes).toDraft ∈ (empty.after (handCalls classes)).drafts.values :=
  List.mem_cons_self

/-- A builder with two classes of one name, and a third that is called like the builder. -/
def clashingFamily : ClassFamily :=
  let named : ClassFamily := .standardIn (.topLevel personPackage personBuilderName)
  { named with
    partialClass := named.valueClass
    propertyEnum := .nested named.builder personBuilderName }

/-- A draft may be finished whose classes, set by hand, share their names. -/
theorem not_namesApart_of_finish :
    ¬ ∀ (calls : List (Call StandardStrategy)) (d : Draft StandardStrategy)
        (s : Specification StandardStrategy),
      d ∈ (empty.after calls).drafts.values → d.finish.result = .ok s → s.NamesApart := by
  intro h
  have hfinish := @finish_personWith clashingFamily fun role => by cases role <;> rfl
  have happart := h _ _ _ (mem_after_handCalls clashingFamily) hfinish
  exact happart.nested .valueClass .partialClass (by decide) rfl

/-- The classes by their standard names. -/
def namedFamily : ClassFamily :=
  .standardIn (.topLevel personPackage personBuilderName)

theorem names_namedFamily (role : NestedRole) :
    Conventions.standard.Names role (namedFamily.nested role) :=
  ⟨"org.example", "Person", namedFamily, rfl, rfl⟩

/-- The standard conventions with two names in each other's place. -/
def swapped : Conventions :=
  { valueClass := "Partial", partialClass := "Value" }

/-- The classes by these names, which are those of the standard ones in each other's place. -/
def swappedFamily : ClassFamily :=
  { namedFamily with valueClass := namedFamily.partialClass, partialClass := namedFamily.valueClass }

/-- Calls that name the classes under both conventions, and fail to name them in between. -/
def renamingCalls : List (Call StandardStrategy) := [
  .newSpecification ⟨0⟩ "person",
  .edit "person" (.declaringType (DeclPath.toRef ⟨1⟩ (.topLevel "org.example" "Person"))),
  .nameClasses "person" (fun _ _ => some "org.example") .standard,
  .nameClasses "person" (fun _ _ => some "1") .standard,
  .edit "person" (.builderType (DeclPath.toRef ⟨2⟩ ⟨"org.example", "Person", ["Builder"]⟩)),
  .edit "person" (.builderSerializable false),
  .edit "person" (.gwtSerializable false),
  .nameClasses "person" (fun _ _ => some "org.example") swapped]

theorem mem_after_renamingCalls :
    (personWith swappedFamily).toDraft ∈ (empty.after renamingCalls).drafts.values :=
  List.mem_cons_self

theorem setsTogether_renamingCalls : ∀ c ∈ renamingCalls, c.SetsTogether := by
  simp only [renamingCalls, List.forall_mem_cons]
  exact ⟨trivial, trivial, trivial, trivial, trivial, trivial, trivial, trivial, List.forall_mem_nil _⟩

/-- Set by hand, classes that conventions have named have different names as well, and so have those that
were named under one conventions after another. -/
theorem names_of_finish_after_handCalls :
    (∃ (d : Draft StandardStrategy) (s : Specification StandardStrategy),
      d ∈ (empty.after (handCalls namedFamily)).drafts.values ∧ d.finish.result = .ok s ∧
        s.classes.valueClass.qualifiedName = "org.example.Person_Builder.Value" ∧ s.NamesApart) ∧
    ∃ (d : Draft StandardStrategy) (s : Specification StandardStrategy),
      d ∈ (empty.after renamingCalls).drafts.values ∧ d.finish.result = .ok s ∧
        s.classes.valueClass.qualifiedName = "org.example.Person_Builder.Partial" ∧ s.NamesApart := by
  have hmem := mem_after_handCalls namedFamily
  have hfinish := finish_personWith_standardIn namedFamily.builder
  have hswapped := @finish_personWith swappedFamily fun role => by cases role <;> rfl
  constructor
  · exact ⟨_, _, hmem, hfinish, by decide,
      (names_of_finish_after (handCalls namedFamily) hmem hfinish).2.2.2.1 .standard names_namedFamily⟩
  · exact ⟨_, _, mem_after_renamingCalls, hswapped, by decide,
      (names_of_finish_after renamingCalls mem_after_renamingCalls hswapped).2.2.2.2
        setsTogether_renamingCalls⟩

end Discovery

end BuilderSpec
