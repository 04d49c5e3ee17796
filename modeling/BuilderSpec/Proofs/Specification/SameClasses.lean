/-
How far specifications that are the same stand for the same classes. They agree on all that the
qualified names of their classes tell; where the package of the builder ends is the one thing that they
may differ in, and with it they differ in all four classes. Builders that are named by conventions stand
at the top level of their packages, so there the classes are the same.
-/
import BuilderSpec.Proofs.Class.Named
import BuilderSpec.Proofs.Specification.Finished

namespace BuilderSpec

theorem ClassFamily.ext_nested {f g : ClassFamily} (hb : f.builder = g.builder)
    (hn : ∀ role, f.nested role = g.nested role) : f = g := by
  cases f
  cases g
  cases hb
  cases hn .valueClass
  cases hn .partialClass
  cases hn .propertyEnum
  rfl

namespace Specification

variable {σ : Type}

/-- Families have one text for each member. -/
structure SameNames (f g : ClassFamily) : Prop where
  builder : f.builder.qualifiedName = g.builder.qualifiedName
  nested : ∀ role, (f.nested role).qualifiedName = (g.nested role).qualifiedName

theorem sameNames_of_same [DecidableEq σ] {s t : Specification σ} (h : s.same t = true) :
    SameNames s.classes t.classes := by
  have hview : s.view = t.view := of_decide_eq_true h
  refine ⟨congrArg View.generatedBuilder hview, fun role => ?_⟩
  cases role with
  | valueClass => exact congrArg View.valueClass hview
  | partialClass => exact congrArg View.partialClass hview
  | propertyEnum => exact congrArg View.propertyEnum hview

section Nested

variable {f g : ClassFamily} (h : SameNames f g)
  (hf : ∀ role, (f.nested role).enclosing = some f.builder)
  (hg : ∀ role, (g.nested role).enclosing = some g.builder)
include h hf hg

/-- Inside one builder, families of the same names are the same. -/
theorem SameNames.eq_of_builder (hb : f.builder = g.builder) : f = g := by
  refine ClassFamily.ext_nested hb fun role => ?_
  refine GeneratedClass.eq_of_qualifiedName_of_package (h.nested role) ?_
  rw [GeneratedClass.package_of_enclosing (hf role), GeneratedClass.package_of_enclosing (hg role), hb]

theorem SameNames.eq_iff_package : f = g ↔ f.builder.package = g.builder.package := by
  constructor
  · intro heq
    rw [heq]
  · intro hp
    exact h.eq_of_builder hf hg (GeneratedClass.eq_of_qualifiedName_of_package h.builder hp)

theorem SameNames.eq_iff_depth : f = g ↔ f.builder.depth = g.builder.depth := by
  constructor
  · intro heq
    rw [heq]
  · intro hd
    exact h.eq_of_builder hf hg (GeneratedClass.eq_of_qualifiedName_of_depth h.builder hd)

end Nested

/-- Conventions put every builder at the top level, so families that they name, for whatever user types,
are the same when they have one text for each member. -/
theorem SameNames.eq_of_namedFor {f g : ClassFamily} (h : SameNames f g)
    {package package' name name' : String} {c c' : Conventions}
    (hf : f.NamedFor package name c) (hg : g.NamedFor package' name' c') : f = g := by
  refine (h.eq_iff_depth hf.enclosing hg.enclosing).2 ?_
  rw [GeneratedClass.depth_of_enclosing_none hf.builder_enclosing,
    GeneratedClass.depth_of_enclosing_none hg.builder_enclosing]

/-- Specifications that are the same have classes of the same parts: the packages, the classes around
and the names of theirs make up the same list, and the names are the same. The classes themselves are
the same exactly when the builders have one package, or as many classes around them; and always when
conventions have named them. -/
theorem classes_eq_iff_of_same [DecidableEq σ] {d e : Draft σ} {s t : Specification σ}
    (hs : d.finish.result = .ok s) (ht : e.finish.result = .ok t) (hsame : s.same t = true) :
    (s.classes.builder.parts = t.classes.builder.parts ∧
      s.classes.builder.simpleName = t.classes.builder.simpleName ∧
      ∀ role, (s.classes.nested role).parts = (t.classes.nested role).parts ∧
        (s.classes.nested role).simpleName = (t.classes.nested role).simpleName) ∧
    (s.classes = t.classes ↔ s.classes.builder.package = t.classes.builder.package) ∧
    (s.classes = t.classes ↔ s.classes.builder.depth = t.classes.builder.depth) ∧
    (∀ (package package' name name' : String) (c c' : Conventions),
      ClassFamily.forType package name c = .ok s.classes →
        ClassFamily.forType package' name' c' = .ok t.classes → s.classes = t.classes) := by
  have hnames : SameNames s.classes t.classes := sameNames_of_same hsame
  have hnested := (finished_of_finish hs).nested
  have hnested' := (finished_of_finish ht).nested
  have hbuilder := GeneratedClass.qualifiedName_eq_iff.1 hnames.builder
  have hbuilderName := GeneratedClass.simpleName_eq_of_qualifiedName_eq hnames.builder
  refine ⟨⟨hbuilder, hbuilderName, fun role => ⟨?_, ?_⟩⟩, hnames.eq_iff_package hnested hnested',
    hnames.eq_iff_depth hnested hnested', fun package package' name name' c c' hf hg => ?_⟩
  · exact GeneratedClass.qualifiedName_eq_iff.1 (hnames.nested role)
  · exact GeneratedClass.simpleName_eq_of_qualifiedName_eq (hnames.nested role)
  · exact hnames.eq_of_namedFor (ClassFamily.forType_eq_ok_iff.1 hf) (ClassFamily.forType_eq_ok_iff.1 hg)

/-! ## A package and a class of one name -/

/-- The specification of a user type without properties. -/
def personWith (classes : ClassFamily) : Specification StandardStrategy where
  packages := ⟨0⟩
  declaringType := DeclPath.toRef ⟨1⟩ (.topLevel "org.example" "Person")
  builderType := DeclPath.toRef ⟨2⟩ ⟨"org.example", "Person", ["Builder"]⟩
  builderFactory := none
  classes
  properties := []
  ownMethods := .empty
  builderSerializable := false
  gwtSerializable := false

/-- A builder inside the class `Outer`. -/
def builderInClass : GeneratedClass :=
  .nested (.topLevel personPackage ⟨"Outer", by decide⟩) personBuilderName

/-- A builder in the package `Outer`. -/
def builderInPackage : GeneratedClass :=
  .topLevel ⟨"org.example.Outer", by decide⟩ personBuilderName

theorem finish_personWith {classes : ClassFamily}
    (h : ∀ role, (classes.nested role).enclosing = some classes.builder) :
    (personWith classes).toDraft.finish.result = .ok (personWith classes) :=
  Finished.finish_toDraft ⟨h, fun _ hp => by cases hp⟩

theorem finish_personWith_standardIn (builder : GeneratedClass) :
    (personWith (.standardIn builder)).toDraft.finish.result = .ok (personWith (.standardIn builder)) :=
  finish_personWith fun role => by cases role <;> rfl

/-- Specifications may be the same and yet ask for different classes: a class and a package of one
name cannot be told apart by the names of what they hold. -/
theorem not_classes_eq_of_same :
    ¬ ∀ (d e : Draft StandardStrategy) (s t : Specification StandardStrategy),
      d.finish.result = .ok s → e.finish.result = .ok t → s.same t = true →
        s.classes.builder = t.classes.builder ∧ ∀ role, s.classes.nested role = t.classes.nested role := by
  intro h
  have hsame : (personWith (.standardIn builderInClass)).same (personWith (.standardIn builderInPackage)) = true := by
    decide
  have heq := (h _ _ _ _ (finish_personWith_standardIn builderInClass)
    (finish_personWith_standardIn builderInPackage) hsame).1
  cases heq

/-- The two specifications agree on the parts of their classes, and differ in the packages and in the
classes. -/
theorem classes_eq_iff_of_same_person :
    ∃ s t : Specification StandardStrategy,
      s.classes.builder.package ≠ t.classes.builder.package ∧
        (s.classes.builder.parts = t.classes.builder.parts ∧
          s.classes.builder.simpleName = t.classes.builder.simpleName ∧
          ∀ role, (s.classes.nested role).parts = (t.classes.nested role).parts ∧
            (s.classes.nested role).simpleName = (t.classes.nested role).simpleName) ∧
        (s.classes = t.classes ↔ s.classes.builder.package = t.classes.builder.package) ∧
        (s.classes = t.classes ↔ s.classes.builder.depth = t.classes.builder.depth) ∧
        (∀ (package package' name name' : String) (c c' : Conventions),
          ClassFamily.forType package name c = .ok s.classes →
            ClassFamily.forType package' name' c' = .ok t.classes → s.classes = t.classes) :=
  ⟨personWith (.standardIn builderInClass), personWith (.standardIn builderInPackage), by decide,
    classes_eq_iff_of_same (finish_personWith_standardIn builderInClass)
      (finish_personWith_standardIn builderInPackage) (by decide)⟩

end Specification

end BuilderSpec
