/-
What a table answers after any registrations: for each declaration the package in the latest registration
of its text, whatever declaration that was made of, and what the table answered before if there is none.
-/
import BuilderSpec.Symbol.PackageTable

namespace BuilderSpec

namespace PackageTable

/-- Something that a table is told. -/
inductive Registration where
  /-- A declaration belongs to a package. -/
  | declaration (d : DeclRef) (package : String)
  /-- The declaration of a path, under a symbol, belongs to the package that the path begins with. -/
  | path (symbol : SymbolId) (p : DeclPath)

namespace Registration

/-- The text of the declaration. -/
def text : Registration → String
  | declaration d _ => d.text
  | path symbol p => (p.toRef symbol).text

/-- The package that it is said to belong to. -/
def package : Registration → String
  | declaration _ package => package
  | path _ p => p.package

end Registration

/-- Tells a table something. -/
def tell (t : PackageTable) : Registration → PackageTable
  | .declaration d package => t.register d package
  | .path symbol p => t.registerPath symbol p

/-- Tells a table one thing after another. -/
def tellAll (t : PackageTable) (told : List Registration) : PackageTable :=
  told.foldl tell t

/-- The package in the latest of the registrations of a text. -/
def latest? (told : List Registration) (text : String) : Option String :=
  (told.reverse.find? fun r => r.text == text).map Registration.package

theorem latest?_cons (r : Registration) (rest : List Registration) (text : String) :
    latest? (r :: rest) text = (latest? rest text).or (if text = r.text then some r.package else none) := by
  unfold latest?
  rw [List.reverse_cons, List.find?_append, Option.map_or]
  congr 1
  by_cases h : text = r.text
  · simp [h]
  · simp [h, Ne.symm h]

theorem package?_tell (t : PackageTable) (r : Registration) (d : DeclRef) :
    (t.tell r).package? d = if d.text = r.text then some r.package else t.package? d := by
  cases r with
  | declaration e package => exact t.package?_register e d package
  | path symbol p => exact t.package?_register (p.toRef symbol) d p.package

theorem package?_tellAll (t : PackageTable) (told : List Registration) (d : DeclRef) :
    (t.tellAll told).package? d = (latest? told d.text).or (t.package? d) := by
  induction told generalizing t with
  | nil => rfl
  | cons r rest ih =>
    rw [tellAll, List.foldl_cons, ← tellAll, ih, package?_tell, latest?_cons, Option.or_assoc]
    congr 1
    split <;> rfl

end PackageTable

end BuilderSpec
