/-
Types as the host compiler knows them. Its symbols keep their identity for one pass of analysis
only, so a type is compared by its canonical text.
-/
import BuilderSpec.Json
import BuilderSpec.Text.Inspect

namespace BuilderSpec

/-- Tells one symbol object of the host compiler from another. -/
structure SymbolId where
  number : Nat
deriving DecidableEq

/-- A reference to a type: the symbol that stands for it, its canonical text, and whether it is a
primitive type, which has a boxed counterpart. -/
structure TypeRef where
  symbol : SymbolId
  text : String
  primitive : Bool

namespace TypeRef

/-- Types are the same when their texts are. -/
def same (a b : TypeRef) : Bool :=
  a.text == b.text

/-- Whether two references stand for the very same symbol object. -/
def sameSymbol (a b : TypeRef) : Bool :=
  a.symbol == b.symbol

/-- Types are ordered by their texts, code point by code point. -/
instance : Ord TypeRef where
  compare a b := compareOfLessAndEq a.text b.text

def inspect (t : TypeRef) : String :=
  Text.tagged "TypeRef" (Text.quote t.text)

def toJson (t : TypeRef) : Json :=
  .string t.text

end TypeRef

end BuilderSpec
