/-
Strategies that generate the code of a property. A specification only keeps the strategy chosen for
each property: it compares strategies by value and otherwise asks for nothing but texts, so any type
can serve.
-/
import BuilderSpec.Text.Inspect

namespace BuilderSpec

/-- What a type of strategies has to tell about each of them. -/
class Strategy (σ : Type) where
  /-- A short name. -/
  name : σ → String
  /-- The strategy and its settings as a text, for fingerprints. -/
  key : σ → String
  /-- The strategy for a reader who inspects it. -/
  inspect : σ → String

/-- Strategies of different types in one: the plain one, the two for values that may be absent or
repeated, and one that is any of the three by number. -/
inductive StandardStrategy where
  | default
  | optional (element : String)
  | list (element : String)
  | kind (number : Int)
deriving DecidableEq

namespace StandardStrategy

/-- The name of a strategy that is chosen by number. -/
def kindName (number : Int) : String :=
  if number = 0 then "default" else if number = 1 then "optional" else "list"

def name : StandardStrategy → String
  | default => "default"
  | optional _ => "optional"
  | list _ => "list"
  | kind number => kindName number

def key : StandardStrategy → String
  | default => "default"
  | optional element => "optional<" ++ element ++ ">"
  | list element => "list<" ++ element ++ ">"
  | kind number => kindName number

def inspect : StandardStrategy → String
  | default => "DefaultProperty"
  | optional element => Text.record "Optional" [("element", Text.quote element)]
  | list element => Text.record "List" [("element", Text.quote element)]
  | kind number => Text.record "Kind" [("kind", number.repr)]

instance : Strategy StandardStrategy := ⟨name, key, inspect⟩

end StandardStrategy

end BuilderSpec
