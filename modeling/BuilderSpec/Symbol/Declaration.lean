/-
Declarations of types as the host compiler knows them, compared by their canonical texts, and the
paths by which declarations can be made up without a compiler.
-/
import BuilderSpec.Naming.Identifier
import BuilderSpec.Symbol.Type

namespace BuilderSpec

/-- A declaration: its canonical text, its unqualified name, and the declaration around it. -/
inductive Declaration where
  | topLevel (text simpleName : String)
  | nested (outer : Declaration) (text simpleName : String)
deriving DecidableEq

namespace Declaration

def text : Declaration → String
  | topLevel text _ => text
  | nested _ text _ => text

def simpleName : Declaration → String
  | topLevel _ simpleName => simpleName
  | nested _ _ simpleName => simpleName

/-- The declaration directly around this one. -/
def enclosing : Declaration → Option Declaration
  | topLevel _ _ => none
  | nested outer _ _ => some outer

/-- The names of the declarations around this one and its own, the outermost first. -/
def names : Declaration → List String
  | topLevel _ simpleName => [simpleName]
  | nested outer _ simpleName => outer.names ++ [simpleName]

/-- The names that are met on the way outwards, behind those met before: its own is the next. -/
def namesOutward (met : List String) : Declaration → List String
  | topLevel _ simpleName => met ++ [simpleName]
  | nested outer _ simpleName => outer.namesOutward (met ++ [simpleName])

/-- The names as one, the outermost first, with underscores between them. -/
def flatName (d : Declaration) : String :=
  "_".intercalate (d.namesOutward []).reverse

end Declaration

/-! ## References -/

/-- A reference to a declaration. -/
structure DeclRef where
  symbol : SymbolId
  declaration : Declaration

namespace DeclRef

def text (d : DeclRef) : String := d.declaration.text

def simpleName (d : DeclRef) : String := d.declaration.simpleName

/-- The declaration around this one, under a new symbol. -/
def enclosing (fresh : SymbolId) (d : DeclRef) : Option DeclRef :=
  d.declaration.enclosing.map fun outer => ⟨fresh, outer⟩

/-- Declarations are the same when their texts are. -/
def same (a b : DeclRef) : Bool :=
  a.text == b.text

/-- Whether two references stand for the very same symbol object. -/
def sameSymbol (a b : DeclRef) : Bool :=
  a.symbol == b.symbol

/-- Declarations are ordered by their texts, code point by code point. -/
instance : Ord DeclRef where
  compare a b := compareOfLessAndEq a.text b.text

def inspect (d : DeclRef) : String :=
  Text.tagged "DeclRef" (Text.quote d.text)

def toJson (d : DeclRef) : Json :=
  .string d.text

end DeclRef

/-! ## Paths -/

/-- A declaration made up of a package and names: one at the top level, the others each inside the
one before. -/
structure DeclPath where
  package : String
  outermost : String
  inner : List String
deriving DecidableEq

namespace DeclPath

/-- A declaration at the top level of a package. -/
def topLevel (package name : String) : DeclPath :=
  ⟨package, name, []⟩

/-- A declaration directly inside this one. -/
def nested (d : DeclPath) (name : String) : DeclPath :=
  { d with inner := d.inner ++ [name] }

/-- The names, the outermost first. -/
def names (d : DeclPath) : List String :=
  d.outermost :: d.inner

/-- A dot and a name after the text of the declaration around it. -/
def nest (outer : Declaration) (name : String) : Declaration :=
  .nested outer (outer.text ++ "." ++ name) name

/-- The declaration as the host compiler would show it. -/
def toDeclaration (d : DeclPath) : Declaration :=
  d.inner.foldl nest (.topLevel (Naming.qualify d.package d.outermost) d.outermost)

/-- A reference to the declaration. -/
def toRef (symbol : SymbolId) (d : DeclPath) : DeclRef :=
  ⟨symbol, d.toDeclaration⟩

end DeclPath

end BuilderSpec
