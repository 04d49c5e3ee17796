/-
The names of the builders that are generated for user types. Naming the classes of a draft gives its
builder the joined names of the declaring type and those around it, and the suffix. In one package, two
user types get one builder name exactly when their joined names are equal. That does not need one path:
an underscore may stand in a name as well as between two.
-/
import BuilderSpec.Proofs.Class.Named
import BuilderSpec.Proofs.Symbol.Path
import BuilderSpec.Specification.Draft

namespace BuilderSpec

namespace Naming

theorem qualify_inj {package name name' : String} :
    qualify package name = qualify package name' ↔ name = name' := by
  unfold qualify
  split
  · rfl
  · exact String.append_right_inj _

end Naming

namespace Specification.Draft

open Naming

variable {σ : Type}

/-! ## Naming the classes of a draft -/

/-- Naming the classes either fails and leaves the draft as it is, or succeeds and changes nothing but the
four classes, which are then those of a family that the conventions name. -/
theorem nameClasses_cases (lookup : PackageLookup) (conventions : Conventions) (d : Draft σ) :
    (∃ e, d.nameClasses lookup conventions = (.error e, d)) ∨
      ∃ t family, d.declaringType = some t ∧
        ClassFamily.forType ((lookup d.packages t).getD "") t.declaration.flatName conventions =
            .ok family ∧
          d.nameClasses lookup conventions = (.ok (), d.apply (.classes family)) := by
  cases ht : d.declaringType with
  | none => exact .inl ⟨_, nameClasses_of_none ht⟩
  | some t =>
    cases hfamily : ClassFamily.forType ((lookup d.packages t).getD "") t.declaration.flatName
        conventions with
    | error e => exact .inl ⟨_, nameClasses_of_error ht hfamily⟩
    | ok family => exact .inr ⟨t, family, rfl, hfamily, nameClasses_of_ok ht hfamily⟩

/-- Naming succeeds when the declaring type is known and a family can be named for it, and then changes
nothing but the four classes. -/
theorem nameClasses_eq_ok_iff {lookup : PackageLookup} {conventions : Conventions} {d d' : Draft σ} :
    d.nameClasses lookup conventions = (.ok (), d') ↔
      ∃ t family, d.declaringType = some t ∧
        ClassFamily.forType ((lookup d.packages t).getD "") t.declaration.flatName conventions =
            .ok family ∧
          d' = d.apply (.classes family) := by
  constructor
  · intro h
    obtain ⟨e, hfailed⟩ | ⟨t, family, ht, hfamily, hnamed⟩ := nameClasses_cases lookup conventions d
    · cases h.symm.trans hfailed
    · cases h.symm.trans hnamed
      exact ⟨t, family, ht, hfamily, rfl⟩
  · rintro ⟨t, family, ht, hfamily, rfl⟩
    exact nameClasses_of_ok ht hfamily

/-- The name of the builder of a declaration that a path leads to. -/
theorem builder_qualifiedName_of_path {lookup : PackageLookup} {conventions : Conventions}
    {d d' : Draft σ} {p : DeclPath} {i : SymbolId} (hd : d.declaringType = some (p.toRef i))
    (h : d.nameClasses lookup conventions = (.ok (), d')) :
    ∃ builder, d'.generatedBuilder = some builder ∧
      builder.qualifiedName = qualify ((lookup d.packages (p.toRef i)).getD "")
        ("_".intercalate p.names ++ conventions.builderSuffix) := by
  obtain ⟨t, family, ht, hfamily, rfl⟩ := nameClasses_eq_ok_iff.1 h
  rw [hd] at ht
  cases ht
  refine ⟨family.builder, rfl, ?_⟩
  rw [(ClassFamily.forType_eq_ok_iff.1 hfamily).builder_qualifiedName, ← p.flatName_toDeclaration]
  rfl

/-- Builders of user types of one package have one name exactly when the joined names of the types are
equal. Of different types whose paths begin with one package they are not, if no name holds an
underscore or both types stand at the top level. -/
theorem builderName_eq_iff {ts : PackageTables} {conventions : Conventions} {d e d' e' : Draft σ}
    {p q : DeclPath} {i j : SymbolId} {package : String}
    (hd : d.declaringType = some (p.toRef i)) (he : e.declaringType = some (q.toRef j))
    (hp : ts.lookup d.packages (p.toRef i) = some package)
    (hq : ts.lookup e.packages (q.toRef j) = some package)
    (hd' : d.nameClasses ts.lookup conventions = (.ok (), d'))
    (he' : e.nameClasses ts.lookup conventions = (.ok (), e')) :
    ∃ b c : GeneratedClass, d'.generatedBuilder = some b ∧ e'.generatedBuilder = some c ∧
      (b.qualifiedName = c.qualifiedName ↔ "_".intercalate p.names = "_".intercalate q.names) ∧
      (p.package = q.package → (p.toRef i).text ≠ (q.toRef j).text →
        (∀ name ∈ p.names ++ q.names, '_' ∉ name.toList) ∨ (p.inner = [] ∧ q.inner = []) →
          b.qualifiedName ≠ c.qualifiedName) := by
  obtain ⟨b, hb, hbname⟩ := builder_qualifiedName_of_path hd hd'
  obtain ⟨c, hc, hcname⟩ := builder_qualifiedName_of_path he he'
  have hiff : b.qualifiedName = c.qualifiedName ↔
      "_".intercalate p.names = "_".intercalate q.names := by
    rw [hbname, hcname, hp, hq, qualify_inj, String.append_left_inj]
  refine ⟨b, c, hb, hc, hiff, fun hpackage htext hplain heq => htext ?_⟩
  -- One package and one list of names make one path, so the texts would be one text.
  have hnames : p.names = q.names := DeclPath.names_eq_of_joined (hiff.1 heq) hplain
  rw [DeclPath.eq_of_names hpackage hnames]
  rfl

/-! ## Underscores in names -/

/-- A type inside another. -/
def innerPath : DeclPath := ⟨"org.example", "Outer", ["Inner"]⟩

/-- A type at the top level whose name joins the names of those two. -/
def joinedPath : DeclPath := ⟨"org.example", "Outer_Inner", []⟩

/-- A type at the top level that is called like the inner one. -/
def outerlessPath : DeclPath := ⟨"org.example", "Inner", []⟩

/-- A table that knows all three. -/
def pathTables : PackageTables :=
  ⟨[((PackageTable.empty.registerPath ⟨0⟩ innerPath).registerPath ⟨1⟩ joinedPath).registerPath ⟨2⟩
    outerlessPath]⟩

/-- A draft that knows its declaring type. -/
def draftOf (p : DeclPath) : Draft StandardStrategy :=
  (empty ⟨0⟩).apply (.declaringType (p.toRef ⟨3⟩))

/-- The same draft when its classes have been named. -/
def namedDraftOf (p : DeclPath) (builderName : Identifier) : Draft StandardStrategy :=
  (draftOf p).apply (.classes (.standardIn (.topLevel personPackage builderName)))

theorem nameClasses_innerPath : (draftOf innerPath).nameClasses pathTables.lookup .standard =
    (.ok (), namedDraftOf innerPath ⟨"Outer_Inner_Builder", by decide⟩) := rfl

theorem nameClasses_joinedPath : (draftOf joinedPath).nameClasses pathTables.lookup .standard =
    (.ok (), namedDraftOf joinedPath ⟨"Outer_Inner_Builder", by decide⟩) := rfl

theorem nameClasses_outerlessPath : (draftOf outerlessPath).nameClasses pathTables.lookup .standard =
    (.ok (), namedDraftOf outerlessPath ⟨"Inner_Builder", by decide⟩) := rfl

/-- User types of one package may be different and yet get one builder name: that of a type inside
another is also that of a type at the top level whose name joins theirs. -/
theorem not_builderName_ne :
    ¬ ∀ (ts : PackageTables) (conventions : Conventions) (d e d' e' : Draft StandardStrategy)
        (p q : DeclPath) (i j : SymbolId) (package : String) (b c : GeneratedClass),
      (∀ name ∈ p.names ++ q.names, isIdentifier name = true) →
        d.packages = e.packages → d.declaringType = some (p.toRef i) →
          e.declaringType = some (q.toRef j) → ts.lookup d.packages (p.toRef i) = some package →
            ts.lookup e.packages (q.toRef j) = some package → (p.toRef i).text ≠ (q.toRef j).text →
              d.nameClasses ts.lookup conventions = (.ok (), d') →
                e.nameClasses ts.lookup conventions = (.ok (), e') → d'.generatedBuilder = some b →
                  e'.generatedBuilder = some c → b.qualifiedName ≠ c.qualifiedName := by
  intro h
  refine h pathTables .standard (draftOf innerPath) (draftOf joinedPath) _ _ innerPath joinedPath ⟨3⟩ ⟨3⟩
    "org.example" _ _ ?_ rfl rfl rfl rfl rfl ?_ nameClasses_innerPath nameClasses_joinedPath rfl rfl rfl
  · decide
  · decide

/-- The builder of the inner type has the name that the joined names call for, and not that of the type
which is called like it. -/
theorem builderName_eq_iff_paths :
    (∃ b c : GeneratedClass,
      (namedDraftOf innerPath ⟨"Outer_Inner_Builder", by decide⟩).generatedBuilder = some b ∧
        (namedDraftOf joinedPath ⟨"Outer_Inner_Builder", by decide⟩).generatedBuilder = some c ∧
          b.qualifiedName = c.qualifiedName) ∧
    ∃ b c : GeneratedClass,
      (namedDraftOf innerPath ⟨"Outer_Inner_Builder", by decide⟩).generatedBuilder = some b ∧
        (namedDraftOf outerlessPath ⟨"Inner_Builder", by decide⟩).generatedBuilder = some c ∧
          b.qualifiedName ≠ c.qualifiedName := by
  have hregistered : ∀ p ∈ [innerPath, joinedPath, outerlessPath],
      pathTables.lookup ⟨0⟩ (p.toRef ⟨3⟩) = some "org.example" := by decide
  have hinner := hregistered innerPath (by decide)
  constructor
  · obtain ⟨b, c, hb, hc, hiff, -⟩ := builderName_eq_iff rfl rfl hinner
      (hregistered joinedPath (by decide)) nameClasses_innerPath nameClasses_joinedPath
    exact ⟨b, c, hb, hc, hiff.2 (by decide)⟩
  · obtain ⟨b, c, hb, hc, -, hne⟩ := builderName_eq_iff rfl rfl hinner
      (hregistered outerlessPath (by decide)) nameClasses_innerPath nameClasses_outerlessPath
    exact ⟨b, c, hb, hc, hne rfl (by decide) (.inl (by decide))⟩

end Specification.Draft

end BuilderSpec
