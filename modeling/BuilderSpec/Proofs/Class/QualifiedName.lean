/-
What the qualified name of a class tells: its parts between dots are those of the package, then the
names of the classes around the class and its own. It does not tell where the package ends. A class is
known by its qualified name together with its package, or with how many classes stand around it.
-/
import BuilderSpec.Class.Basic
import BuilderSpec.Proofs.Naming.Parts

namespace BuilderSpec

namespace GeneratedClass

open Naming

/-! ## The parts of a qualified name -/

/-- The package in which the outermost class around this one is declared. -/
def packageName : GeneratedClass → PackageName
  | topLevel package _ => package
  | nested outer _ => outer.packageName

/-- The names of the classes around this one and its own, the outermost first. -/
def names : GeneratedClass → List String
  | topLevel _ name => [name.text]
  | nested outer name => outer.names ++ [name.text]

/-- The parts of the package, followed by the names of the classes. -/
def parts (c : GeneratedClass) : List String :=
  c.packageName.parts ++ c.names

theorem text_packageName (c : GeneratedClass) : c.packageName.text = c.package := by
  induction c with
  | topLevel package name => rfl
  | nested outer name ih => exact ih

theorem length_names (c : GeneratedClass) : c.names.length = c.depth + 1 := by
  induction c with
  | topLevel package name => rfl
  | nested outer name ih => rw [names, List.length_append, ih, depth]; rfl

theorem names_ne_nil (c : GeneratedClass) : c.names ≠ [] := by
  intro h
  have := c.length_names
  rw [h] at this
  cases this

theorem getLast?_parts (c : GeneratedClass) : c.parts.getLast? = some c.simpleName := by
  unfold parts
  cases c with
  | topLevel package name => exact List.getLast?_concat
  | nested outer name => rw [names, ← List.append_assoc]; exact List.getLast?_concat

theorem isIdentifier_of_mem_names {c : GeneratedClass} {name : String} (h : name ∈ c.names) :
    isIdentifier name = true := by
  induction c with
  | topLevel package n => rw [List.mem_singleton.1 h]; exact n.valid
  | nested outer n ih =>
    rcases List.mem_append.1 h with h | h
    · exact ih h
    · rw [List.mem_singleton.1 h]; exact n.valid

theorem isIdentifier_of_mem_parts {c : GeneratedClass} {part : String} (h : part ∈ c.parts) :
    isIdentifier part = true := by
  rcases List.mem_append.1 h with h | h
  · exact PackageName.isIdentifier_of_mem_parts h
  · exact isIdentifier_of_mem_names h

theorem qualifiedName_eq_intercalate (c : GeneratedClass) :
    c.qualifiedName = ".".intercalate c.parts := by
  induction c with
  | topLevel package name => exact package.qualify_text name.text
  | nested outer name ih =>
    have hne : outer.parts ≠ [] := List.append_ne_nil_of_right_ne_nil _ outer.names_ne_nil
    rw [qualifiedName, ih, show (outer.nested name).parts = outer.parts ++ [name.text] from
      (List.append_assoc _ _ _).symm,
      String.intercalate_append_of_ne_nil hne (List.cons_ne_nil _ _), String.intercalate_singleton]

/-- No part holds a dot, so the parts can be read off the qualified name. -/
theorem dottedParts_qualifiedName (c : GeneratedClass) : dottedParts c.qualifiedName = c.parts := by
  rw [qualifiedName_eq_intercalate]
  refine dottedParts_intercalate (List.append_ne_nil_of_right_ne_nil _ c.names_ne_nil) ?_
  exact fun part hpart => dot_notMem_of_isIdentifier (isIdentifier_of_mem_parts hpart)

theorem qualifiedName_eq_iff {c d : GeneratedClass} :
    c.qualifiedName = d.qualifiedName ↔ c.parts = d.parts := by
  constructor
  · intro h
    rw [← dottedParts_qualifiedName, h, dottedParts_qualifiedName]
  · intro h
    rw [qualifiedName_eq_intercalate, h, ← qualifiedName_eq_intercalate]

theorem simpleName_eq_of_qualifiedName_eq {c d : GeneratedClass}
    (h : c.qualifiedName = d.qualifiedName) : c.simpleName = d.simpleName := by
  have hlast := congrArg List.getLast? (qualifiedName_eq_iff.1 h)
  rw [getLast?_parts, getLast?_parts] at hlast
  exact Option.some.inj hlast

/-! ## What determines a class -/

/-- A class is known by its package and the names down to it. -/
theorem eq_of_package_names {c d : GeneratedClass} (hp : c.packageName = d.packageName)
    (hn : c.names = d.names) : c = d := by
  induction c generalizing d with
  | topLevel package name =>
    cases d with
    | topLevel package' name' =>
      rw [show package = package' from hp, Identifier.text_injective (List.singleton_injective hn)]
    | nested outer name' =>
      -- At the top level there is one name, inside a class there are more.
      have hdepth : (topLevel package name).depth = (nested outer name').depth := by
        simpa [length_names] using congrArg List.length hn
      cases hdepth
  | nested outer name ih =>
    cases d with
    | topLevel package name' =>
      have hdepth : (nested outer name).depth = (topLevel package name').depth := by
        simpa [length_names] using congrArg List.length hn
      cases hdepth
    | nested outer' name' =>
      obtain ⟨houter, hname⟩ := List.append_inj' hn rfl
      have hsame : outer = outer' := ih hp houter
      rw [hsame, Identifier.text_injective (List.singleton_injective hname)]

/-- With its qualified name, the package of a class determines it. -/
theorem eq_of_qualifiedName_of_package {c d : GeneratedClass} (h : c.qualifiedName = d.qualifiedName)
    (hp : c.package = d.package) : c = d := by
  have hpackage : c.packageName = d.packageName :=
    PackageName.text_injective (by rw [text_packageName, text_packageName, hp])
  have hparts := qualifiedName_eq_iff.1 h
  rw [parts, parts, hpackage] at hparts
  exact eq_of_package_names hpackage (List.append_cancel_left hparts)

/-- With its qualified name, the number of classes around a class determines it. -/
theorem eq_of_qualifiedName_of_depth {c d : GeneratedClass} (h : c.qualifiedName = d.qualifiedName)
    (hd : c.depth = d.depth) : c = d := by
  obtain ⟨hpackage, hnames⟩ := List.append_inj' (qualifiedName_eq_iff.1 h)
    (by rw [length_names, length_names, hd])
  exact eq_of_package_names (PackageName.parts_injective hpackage) hnames

/-! ## The class around a class -/

theorem depth_of_enclosing_none {c : GeneratedClass} (h : c.enclosing = none) : c.depth = 0 := by
  cases c with
  | topLevel package name => rfl
  | nested outer name => cases h

theorem qualifiedName_of_enclosing_none {c : GeneratedClass} (h : c.enclosing = none) :
    c.qualifiedName = qualify c.package c.simpleName := by
  cases c with
  | topLevel package name => rfl
  | nested outer name => cases h

theorem qualifiedName_of_enclosing {c outer : GeneratedClass} (h : c.enclosing = some outer) :
    c.qualifiedName = outer.qualifiedName ++ "." ++ c.simpleName := by
  cases c with
  | topLevel package name => cases h
  | nested outer' name => cases h; rfl

theorem package_of_enclosing {c outer : GeneratedClass} (h : c.enclosing = some outer) :
    c.package = outer.package := by
  cases c with
  | topLevel package name => cases h
  | nested outer' name => cases h; rfl

theorem depth_of_enclosing {c outer : GeneratedClass} (h : c.enclosing = some outer) :
    c.depth = outer.depth + 1 := by
  cases c with
  | topLevel package name => cases h
  | nested outer' name => cases h; rfl

/-- The qualified name of a class and the number of classes around it tell which class is directly
around it. -/
theorem enclosing_eq_some_iff {c outer : GeneratedClass} :
    c.enclosing = some outer ↔
      c.depth = outer.depth + 1 ∧ c.qualifiedName = outer.qualifiedName ++ "." ++ c.simpleName := by
  constructor
  · intro h
    exact ⟨depth_of_enclosing h, qualifiedName_of_enclosing h⟩
  · rintro ⟨hdepth, hname⟩
    cases henclosing : c.enclosing with
    | none =>
      rw [depth_of_enclosing_none henclosing] at hdepth
      cases hdepth
    | some outer' =>
      -- Without the dot and the name of `c`, the rest of its qualified name is that of both.
      rw [qualifiedName_of_enclosing henclosing, String.append_assoc, String.append_assoc] at hname
      have houter : outer'.qualifiedName = outer.qualifiedName := (String.append_left_inj _).1 hname
      rw [depth_of_enclosing henclosing] at hdepth
      rw [eq_of_qualifiedName_of_depth houter (Nat.succ.inj hdepth)]

/-- A class does not have the qualified name of the class around it. -/
theorem qualifiedName_ne_of_enclosing {c outer : GeneratedClass} (h : c.enclosing = some outer) :
    outer.qualifiedName ≠ c.qualifiedName := by
  intro heq
  have hlen := congrArg String.length heq
  rw [qualifiedName_of_enclosing h, String.length_append, String.length_append,
    show ".".length = 1 from rfl] at hlen
  omega

/-- Classes inside one class have different qualified names when they have different names. -/
theorem qualifiedName_eq_iff_of_enclosing {c d outer : GeneratedClass} (hc : c.enclosing = some outer)
    (hd : d.enclosing = some outer) : c.qualifiedName = d.qualifiedName ↔ c.simpleName = d.simpleName := by
  rw [qualifiedName_of_enclosing hc, qualifiedName_of_enclosing hd]
  exact String.append_right_inj _

/-! ## What the qualified name leaves open -/

/-- All that the qualified name of a class leaves open is where the package ends. Two classes are the
same when they have one qualified name and are nested equally deep, and also when they have one
qualified name and one package; and a class is directly inside another when it is nested deeper by one
and its qualified name is that of the other with a dot and its own name behind it. -/
theorem eq_iff_qualifiedName (c d : GeneratedClass) :
    (c = d ↔ c.qualifiedName = d.qualifiedName ∧ c.depth = d.depth) ∧
    (c = d ↔ c.qualifiedName = d.qualifiedName ∧ c.package = d.package) ∧
    (c.isNestedIn d = true ↔
      c.depth = d.depth + 1 ∧ c.qualifiedName = d.qualifiedName ++ "." ++ c.simpleName) := by
  refine ⟨⟨?_, ?_⟩, ⟨?_, ?_⟩, isNestedIn_iff.trans enclosing_eq_some_iff⟩
  · rintro rfl
    exact ⟨rfl, rfl⟩
  · rintro ⟨hname, hdepth⟩
    exact eq_of_qualifiedName_of_depth hname hdepth
  · rintro rfl
    exact ⟨rfl, rfl⟩
  · rintro ⟨hname, hpackage⟩
    exact eq_of_qualifiedName_of_package hname hpackage

end GeneratedClass

end BuilderSpec
