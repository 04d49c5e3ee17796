/-
What is reported while conventions are loaded and specifications are finished.
-/
import BuilderSpec.Conventions.Basic

namespace BuilderSpec

inductive Event where
  | conventionsLoaded (conventions : Conventions)
  | propertyRepeated (declaringType property : String)
  | specificationFinished (declaringType generatedBuilder : String) (properties : Nat)
deriving DecidableEq

namespace Event

/-- Whether an event needs attention. -/
def isWarning : Event → Bool
  | propertyRepeated _ _ => true
  | _ => false

def level (e : Event) : String :=
  if e.isWarning then "WARN" else "DEBUG"

def message : Event → String
  | conventionsLoaded _ => "loaded generation conventions"
  | propertyRepeated _ _ => "specification lists property more than once"
  | specificationFinished _ _ _ => "built specification"

/-- The values that an event carries, by name. -/
def fields : Event → List (String × String)
  | conventionsLoaded conventions => [("conventions", conventions.inspect)]
  | propertyRepeated declaringType property =>
    [("declaring_type", declaringType), ("property", property)]
  | specificationFinished declaringType generatedBuilder properties =>
    [("declaring_type", declaringType), ("generated_builder", generatedBuilder),
      ("properties", properties.repr)]

end Event

/-- A result, and the events reported on the way to it. -/
structure Reported (α : Type) where
  result : α
  events : List Event

/-- A result that comes without a report. -/
def Reported.silent {α : Type} (result : α) : Reported α := ⟨result, []⟩

end BuilderSpec
