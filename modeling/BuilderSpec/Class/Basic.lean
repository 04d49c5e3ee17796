/-
Classes that are to be generated. No compiler knows them yet, so a class is plain data: where it
is declared and what it is called.
-/
import BuilderSpec.Naming.Identifier
import BuilderSpec.Json
import BuilderSpec.Text.Inspect

namespace BuilderSpec

open Naming

/-- A class to generate: at the top level of a package, or directly inside another such class. -/
inductive GeneratedClass where
  | topLevel (package : PackageName) (name : Identifier)
  | nested (outer : GeneratedClass) (name : Identifier)
deriving DecidableEq

/-- A text that was to name a package or a class, and cannot. -/
structure InvalidIdentifier where
  text : String
deriving DecidableEq

def InvalidIdentifier.message (e : InvalidIdentifier) : String :=
  "`" ++ e.text ++ "` is not a valid identifier"

namespace GeneratedClass

/-! ## Declaring -/

/-- The class called `name` at the top level of `package`. The package is checked first. -/
def topLevel? (package name : String) : Except InvalidIdentifier GeneratedClass :=
  match PackageName.ofString? package with
  | none => .error ⟨package⟩
  | some p =>
    match Identifier.ofString? name with
    | none => .error ⟨name⟩
    | some n => .ok (.topLevel p n)

/-- The class called `name` directly inside `outer`. -/
def nested? (outer : GeneratedClass) (name : String) : Except InvalidIdentifier GeneratedClass :=
  match Identifier.ofString? name with
  | none => .error ⟨name⟩
  | some n => .ok (.nested outer n)

/-! ## Reading off -/

/-- The unqualified name. -/
def simpleName : GeneratedClass → String
  | topLevel _ name => name.text
  | nested _ name => name.text

/-- The package in which the outermost class around this one is declared. -/
def package : GeneratedClass → String
  | topLevel package _ => package.text
  | nested outer _ => outer.package

/-- The class directly around this one. -/
def enclosing : GeneratedClass → Option GeneratedClass
  | topLevel _ _ => none
  | nested outer _ => some outer

/-- How many classes stand around this one. -/
def depth : GeneratedClass → Nat
  | topLevel _ _ => 0
  | nested outer _ => outer.depth + 1

/-- The package, the names of the classes around this one and its own, joined by dots. -/
def qualifiedName : GeneratedClass → String
  | topLevel package name => qualify package.text name.text
  | nested outer name => outer.qualifiedName ++ "." ++ name.text

/-- Whether `outer` is directly around this class. Both its package and its nesting count, not only
the name that they spell. -/
def isNestedIn (c outer : GeneratedClass) : Bool :=
  c.enclosing == some outer

theorem isNestedIn_iff {c outer : GeneratedClass} :
    c.isNestedIn outer = true ↔ c.enclosing = some outer :=
  beq_iff_eq

/-! ## Writing -/

def toJson (c : GeneratedClass) : Json :=
  .string c.qualifiedName

/-- The class as a record, with the classes around it. -/
def inspect : GeneratedClass → String
  | topLevel package name => text package.text name.text none
  | nested outer name => text outer.package name.text (some outer.inspect)
where
  text (package name : String) (enclosing : Option String) : String :=
    Text.record "GeneratedClass" [("package", Text.quote package),
      ("simple_name", Text.quote name), ("enclosing", Text.optional enclosing)]

end GeneratedClass

end BuilderSpec
