/-
Which package a declaration belongs to. The tables that say so live as long as the analysis and may
grow at any time, so a specification keeps a reference to its table and asks it when asked itself.
-/
import BuilderSpec.Symbol.Declaration

namespace BuilderSpec

/-- Packages by the canonical texts of declarations, the latest registration first. -/
structure PackageTable where
  registrations : List (String × String)

namespace PackageTable

def empty : PackageTable := ⟨[]⟩

/-- Says that a declaration belongs to a package. What was said of it before no longer counts. -/
def register (t : PackageTable) (d : DeclRef) (package : String) : PackageTable :=
  ⟨(d.text, package) :: t.registrations⟩

/-- Says that the declaration of a path belongs to the package that the path begins with. -/
def registerPath (t : PackageTable) (symbol : SymbolId) (d : DeclPath) : PackageTable :=
  t.register (d.toRef symbol) d.package

/-- The package that a declaration belongs to, if the table has been told. -/
def package? (t : PackageTable) (d : DeclRef) : Option String :=
  t.registrations.lookup d.text

theorem package?_empty (d : DeclRef) : empty.package? d = none := rfl

/-- The latest registration of a text decides, and leaves what is said of other texts alone. -/
theorem package?_register (t : PackageTable) (d e : DeclRef) (package : String) :
    (t.register d package).package? e = if e.text = d.text then some package else t.package? e := by
  by_cases h : e.text = d.text
  · simp [register, package?, h]
  · simp [register, package?, h, List.lookup_cons, beq_eq_false_iff_ne.2 h]

end PackageTable

/-! ## Live tables -/

/-- A reference to a live table. -/
structure TableRef where
  index : Nat
deriving DecidableEq

/-- What tables answer when they are asked for the package of a declaration. A host may keep its
tables as it likes. -/
abbrev PackageLookup := TableRef → DeclRef → Option String

/-- The live tables of an analysis, in the order in which they were made. -/
structure PackageTables where
  tables : List PackageTable

namespace PackageTables

def empty : PackageTables := ⟨[]⟩

/-- What a table says now. -/
def get (ts : PackageTables) (r : TableRef) : PackageTable :=
  ts.tables.getD r.index .empty

/-- What the tables answer now. -/
def lookup (ts : PackageTables) : PackageLookup := fun r d =>
  (ts.get r).package? d

/-- Makes a new table that says nothing yet. -/
def create (ts : PackageTables) : PackageTables × TableRef :=
  (⟨ts.tables ++ [.empty]⟩, ⟨ts.tables.length⟩)

/-- Changes what a table says. -/
def modify (ts : PackageTables) (r : TableRef) (f : PackageTable → PackageTable) : PackageTables :=
  ⟨ts.tables.modify r.index f⟩

/-- A table that is there changes as it is told to. -/
theorem get_modify_self {ts : PackageTables} {r : TableRef} (h : r.index < ts.tables.length)
    (f : PackageTable → PackageTable) : (ts.modify r f).get r = f (ts.get r) := by
  simp [get, modify, h]

/-- A change to one table does not show in another. -/
theorem get_modify_of_ne {ts : PackageTables} {r s : TableRef} (h : r.index ≠ s.index)
    (f : PackageTable → PackageTable) : (ts.modify r f).get s = ts.get s := by
  simp [get, modify, List.getD_eq_getElem?_getD, h]

end PackageTables

end BuilderSpec
