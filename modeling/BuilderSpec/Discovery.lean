/-
A pass of discovery over user types: the drafts, properties and specifications that it holds, each
under a name, and the calls by which it makes more of them.
-/
import BuilderSpec.Property.Draft
import BuilderSpec.Specification.Draft

namespace BuilderSpec

/-! ## Names -/

/-- Values by the names that they were given, the latest first. -/
structure Bindings (α : Type) where
  entries : List (String × α)

/-- A name that stands for nothing. -/
structure Unbound where
  name : String
deriving DecidableEq

namespace Bindings

variable {α : Type}

def empty : Bindings α := ⟨[]⟩

/-- The value that a name was given last. -/
def get (b : Bindings α) (name : String) : Except Unbound α :=
  match b.entries.lookup name with
  | some a => .ok a
  | none => .error ⟨name⟩

/-- Gives a name to a value. What the name stood for before it no longer does. -/
def bind (b : Bindings α) (name : String) (a : α) : Bindings α :=
  ⟨(name, a) :: b.entries⟩

/-- Gives a name to the result of an attempt, if there is one. -/
def bindResult {ε : Type} (b : Bindings α) (name : String) (result : Except ε α) : Bindings α :=
  match result with
  | .ok a => b.bind name a
  | .error _ => b

/-- All values that ever got a name. -/
def values (b : Bindings α) : List α :=
  b.entries.map Prod.snd

end Bindings

/-! ## Calls -/

/-- What a pass holds. -/
structure Discovery (σ : Type) where
  propertyDrafts : Bindings (Property.Draft σ)
  properties : Bindings (Property σ)
  drafts : Bindings (Specification.Draft σ)
  specifications : Bindings (Specification σ)

namespace Discovery

/-- A call on what a pass holds. The last name is the one that the result gets. -/
inductive Call (σ : Type) where
  | newProperty (name : String)
  | copyPropertyDraft (draft name : String)
  | reopenProperty (property name : String)
  | editProperty (draft : String) (e : Property.Edit σ)
  | finishProperty (draft name : String)
  | withGenerator (property : String) (g : σ) (name : String)
  | newSpecification (packages : TableRef) (name : String)
  | copyDraft (draft name : String)
  | reopen (specification name : String)
  | edit (draft : String) (e : Specification.Edit String)
  | nameClasses (draft : String) (lookup : PackageLookup) (conventions : Conventions)
  | finish (draft name : String)

/-- What a call answers. -/
inductive Outcome (σ : Type) where
  | unbound (u : Unbound)
  | quiet
  | property (result : Except Property.Field (Property σ))
  | named (result : Except Specification.Draft.NamingError Unit)
  | specification (report : Reported (Except Specification.Defect (Specification σ)))

variable {σ : Type}

/-- A pass that holds nothing yet. -/
def empty : Discovery σ := ⟨.empty, .empty, .empty, .empty⟩

/-- Makes a call, if all that it names is there. A draft that is worked on gets its name again, as
it is after the work, also when the work has failed. -/
def attempt (s : Discovery σ) : Call σ → Except Unbound (Discovery σ × Outcome σ)
  | .newProperty name =>
    return ({ s with propertyDrafts := s.propertyDrafts.bind name .empty }, .quiet)
  | .copyPropertyDraft draft name => do
    let d ← s.propertyDrafts.get draft
    return ({ s with propertyDrafts := s.propertyDrafts.bind name d }, .quiet)
  | .reopenProperty property name => do
    let p ← s.properties.get property
    return ({ s with propertyDrafts := s.propertyDrafts.bind name p.toDraft }, .quiet)
  | .editProperty draft e => do
    let d ← s.propertyDrafts.get draft
    return ({ s with propertyDrafts := s.propertyDrafts.bind draft (d.apply e) }, .quiet)
  | .finishProperty draft name => do
    let d ← s.propertyDrafts.get draft
    return ({ s with properties := s.properties.bindResult name d.finish }, .property d.finish)
  | .withGenerator property g name => do
    let p ← s.properties.get property
    return ({ s with properties := s.properties.bind name (p.withGenerator g) },
      .property (.ok (p.withGenerator g)))
  | .newSpecification packages name =>
    return ({ s with drafts := s.drafts.bind name (.empty packages) }, .quiet)
  | .copyDraft draft name => do
    let d ← s.drafts.get draft
    return ({ s with drafts := s.drafts.bind name d }, .quiet)
  | .reopen specification name => do
    let t ← s.specifications.get specification
    return ({ s with drafts := s.drafts.bind name t.toDraft }, .quiet)
  | .edit draft e => do
    let d ← s.drafts.get draft
    let e ← e.resolve s.properties.get
    return ({ s with drafts := s.drafts.bind draft (d.apply e) }, .quiet)
  | .nameClasses draft lookup conventions => do
    let d ← s.drafts.get draft
    let (result, d) := d.nameClasses lookup conventions
    return ({ s with drafts := s.drafts.bind draft d }, .named result)
  | .finish draft name => do
    let d ← s.drafts.get draft
    return ({ s with specifications := s.specifications.bindResult name d.finish.result },
      .specification d.finish)

/-- Makes a call. One that names something which is not there changes nothing. -/
def step (s : Discovery σ) (c : Call σ) : Discovery σ × Outcome σ :=
  match s.attempt c with
  | .ok result => result
  | .error u => (s, .unbound u)

/-- What the pass holds after calls made one after another. -/
def after (s : Discovery σ) : List (Call σ) → Discovery σ
  | [] => s
  | c :: rest => (s.step c).1.after rest

/-- What every call preserves holds after any calls. -/
theorem after_induction {P : Discovery σ → Prop} (hstep : ∀ s c, P s → P (s.step c).1)
    {s : Discovery σ} (hs : P s) (calls : List (Call σ)) : P (s.after calls) := by
  induction calls generalizing s with
  | nil => exact hs
  | cons c rest ih => exact ih (hstep s c hs)

/-- What calls made one after another answer. -/
def outcomes (s : Discovery σ) : List (Call σ) → List (Outcome σ)
  | [] => []
  | c :: rest => (s.step c).2 :: (s.step c).1.outcomes rest

end Discovery

end BuilderSpec
