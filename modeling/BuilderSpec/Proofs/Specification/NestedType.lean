/-
How the classes of a user type inside others are named. The declarations around the type are those of its
path, without one name after another, and naming the classes of a draft names them after the whole path, its
names joined by underscores, in the package in which the type was registered last, by whatever declaration
of its text.
-/
import BuilderSpec.Proofs.Specification.BuilderName
import BuilderSpec.Proofs.Symbol.Nesting
import BuilderSpec.Proofs.Symbol.Registrations

namespace BuilderSpec.Specification.Draft

open Naming PackageTable

variable {σ : Type}

/-- A user type inside others is named by its whole path. Going outwards from its declaration, under whatever
symbols, one comes after `n` steps to the declaration of the path without its last `n` names, and no further
than to the outermost; the text of each is that of the next, a dot and its own name. The classes are those
that the conventions name for the joined names, in the package of the latest registration of its text, or
the default package if there is none. -/
theorem nameClasses_of_nested {ts : PackageTables} {told : List Registration} {d : Draft σ} {p : DeclPath}
    {symbol : SymbolId} (htable : ts.get d.packages = PackageTable.empty.tellAll told)
    (hd : d.declaringType = some (p.toRef symbol)) (conventions : Conventions) :
    p = p.inner.foldl DeclPath.nested (.topLevel p.package p.outermost) ∧
    (∀ symbols, (p.toRef symbol).outward symbols = none ↔ p.inner.length < symbols.length) ∧
    (∀ symbols outer, (p.toRef symbol).outward symbols = some outer →
      outer.text = qualify p.package (".".intercalate (p.names.take (p.inner.length + 1 - symbols.length))) ∧
      ∀ fresh around, outer.enclosing fresh = some around →
        outer.text = around.text ++ "." ++ outer.simpleName) ∧
    (∀ family, ClassFamily.forType ((latest? told (p.toRef symbol).text).getD "") ("_".intercalate p.names)
        conventions = .ok family →
      d.nameClasses ts.lookup conventions = (.ok (), d.apply (.classes family))) ∧
    ∀ e, ClassFamily.forType ((latest? told (p.toRef symbol).text).getD "") ("_".intercalate p.names)
        conventions = .error e →
      d.nameClasses ts.lookup conventions = (.error (.naming e), d) := by
  have hends : ∀ symbols, (p.toRef symbol).outward symbols = none ↔ p.inner.length < symbols.length := by
    intro symbols
    constructor
    · intro hnone
      by_contra hle
      obtain ⟨shown, hsome⟩ := p.exists_outward_eq_some symbol (Nat.not_lt.1 hle)
      rw [hnone] at hsome
      cases hsome
    · exact DeclPath.outward_eq_none
  have hpackage : ts.lookup d.packages (p.toRef symbol) = latest? told (p.toRef symbol).text := by
    rw [PackageTables.lookup, htable, package?_tellAll, package?_empty, Option.or_none]
  rw [← hpackage, ← p.flatName_toDeclaration]
  refine ⟨p.foldl_nested.symm, hends, fun symbols outer houter => ?_, fun family => nameClasses_of_ok hd,
    fun e => nameClasses_of_error hd⟩
  have hle : symbols.length ≤ p.inner.length := by
    rw [← Nat.not_lt, ← hends, houter]
    exact Option.some_ne_none outer
  obtain ⟨shown, hshown⟩ := p.exists_outward_eq_some symbol hle
  rw [houter] at hshown
  cases hshown
  refine ⟨?_, fun fresh around => DeclPath.text_of_enclosing⟩
  rw [DeclPath.text_toRef, DeclPath.names_dropInner p hle]
  rfl

/-- A type inside a type inside another. -/
def innermostPath : DeclPath := ⟨"org.example", "Outer", ["Middle", "Inner"]⟩

/-- What a table is told of it: its own package, then of another type, and then that a declaration of its
text, found by other means, has moved. -/
def movedRegistrations : List Registration := [
  .path ⟨0⟩ innermostPath,
  .path ⟨1⟩ innerPath,
  .declaration ⟨⟨2⟩, .topLevel "org.example.Outer.Middle.Inner" "Renamed"⟩ "org.moved",
  .declaration ⟨⟨3⟩, .topLevel "org.example.Outer.Middle" "Middle"⟩ "org.elsewhere"]

theorem nameClasses_of_nested_innermostPath :
    ((innermostPath.toRef ⟨3⟩).outward [⟨4⟩, ⟨5⟩]).map DeclRef.text = some "org.example.Outer" ∧
      (innermostPath.toRef ⟨3⟩).outward [⟨4⟩, ⟨5⟩, ⟨6⟩] = none ∧
      (draftOf innermostPath).nameClasses
          (PackageTables.lookup ⟨[PackageTable.empty.tellAll movedRegistrations]⟩) .standard =
        (.ok (), (draftOf innermostPath).apply (.classes (.standardIn
          (.topLevel ⟨"org.moved", by decide⟩ ⟨"Outer_Middle_Inner_Builder", by decide⟩)))) := by
  obtain ⟨-, hends, htext, hnamed, -⟩ := nameClasses_of_nested
    (show PackageTables.get ⟨[PackageTable.empty.tellAll movedRegistrations]⟩ (draftOf innermostPath).packages =
      PackageTable.empty.tellAll movedRegistrations from rfl)
    (show (draftOf innermostPath).declaringType = some (innermostPath.toRef ⟨3⟩) from rfl) .standard
  refine ⟨?_, (hends _).2 (by decide), hnamed _ rfl⟩
  exact congrArg some (htext [⟨4⟩, ⟨5⟩] _ rfl).1

end BuilderSpec.Specification.Draft
