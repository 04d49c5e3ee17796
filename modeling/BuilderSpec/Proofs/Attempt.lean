/-
Attempts that may fail: when a sequence of them succeeds, how two sequences of them compare, made side
by side, that take their steps for the same reasons, and for which of several reasons a sequence fails.
-/
import Mathlib.Data.List.Forall2

namespace BuilderSpec

variable {ε α β γ δ : Type}

/-- A sequence of attempts succeeds when each of them does. -/
theorem bind_eq_ok_iff {x : Except ε α} {f : α → Except ε β} {b : β} :
    x >>= f = .ok b ↔ ∃ a, x = .ok a ∧ f a = .ok b := by
  cases x with
  | error e =>
    constructor
    · intro h; cases h
    · rintro ⟨a, h, -⟩; cases h
  | ok a =>
    constructor
    · intro h; exact ⟨a, rfl, h⟩
    · rintro ⟨a', h, hf⟩; cases h; exact hf

/-- Saying otherwise why an attempt fails does not make it succeed. -/
theorem mapError_eq_ok_iff {ε' : Type} {x : Except ε α} {f : ε → ε'} {a : α} :
    x.mapError f = .ok a ↔ x = .ok a := by
  cases x with
  | error e => constructor <;> (intro h; cases h)
  | ok a' => constructor <;> (intro h; cases h; rfl)

/-- An attempt that fails for a reason said otherwise fails for that reason. -/
theorem mapError_eq_error_iff {ε' : Type} {x : Except ε α} {f : ε → ε'} {e' : ε'} :
    x.mapError f = .error e' ↔ ∃ e, x = .error e ∧ f e = e' := by
  cases x with
  | error e =>
    constructor
    · rintro ⟨⟩
      exact ⟨e, rfl, rfl⟩
    · rintro ⟨_, ⟨⟩, rfl⟩
      rfl
  | ok a =>
    constructor
    · intro h; cases h
    · rintro ⟨_, h, -⟩; cases h

/-- Two attempts fare alike when both fail for one reason, or both succeed with values that `R`
relates. -/
inductive FareAlike (R : α → β → Prop) : Except ε α → Except ε β → Prop
  | error (e : ε) : FareAlike R (.error e) (.error e)
  | ok {a : α} {b : β} (h : R a b) : FareAlike R (.ok a) (.ok b)

namespace FareAlike

variable {R : α → β → Prop} {S : γ → δ → Prop}

/-- Attempts that fare alike may be continued by such as fare alike on related values. -/
theorem bind {x : Except ε α} {y : Except ε β} {f : α → Except ε γ} {g : β → Except ε δ}
    (hx : FareAlike R x y) (hf : ∀ a b, R a b → FareAlike S (f a) (g b)) :
    FareAlike S (x >>= f) (y >>= g) := by
  cases hx with
  | error e => exact .error e
  | ok h => exact hf _ _ h

/-- One attempt may be continued in two ways that fare alike on each value. -/
theorem bind_same {x : Except ε α} {f : α → Except ε γ} {g : α → Except ε δ}
    (hf : ∀ a, FareAlike S (f a) (g a)) : FareAlike S (x >>= f) (x >>= g) := by
  cases x with
  | error e => exact .error e
  | ok a => exact hf a

theorem map {x : Except ε α} {y : Except ε β} {f : α → γ} {g : β → δ} (hx : FareAlike R x y)
    (hf : ∀ a b, R a b → S (f a) (g b)) : FareAlike S (x.map f) (y.map g) := by
  cases hx with
  | error e => exact .error e
  | ok h => exact .ok (hf _ _ h)

theorem imp {R' : α → β → Prop} {x : Except ε α} {y : Except ε β} (hx : FareAlike R x y)
    (h : ∀ a b, R a b → R' a b) : FareAlike R' x y := by
  cases hx with
  | error e => exact .error e
  | ok hr => exact .ok (h _ _ hr)

/-- Attempts made on the members of related lists fare alike when they do one by one. -/
theorem mapM {f : α → Except ε γ} {g : β → Except ε δ} (hf : ∀ a b, R a b → FareAlike S (f a) (g b))
    {xs : List α} {ys : List β} (h : List.Forall₂ R xs ys) :
    FareAlike (List.Forall₂ S) (xs.mapM f) (ys.mapM g) := by
  induction h with
  | nil => exact .ok .nil
  | cons hab _ ih =>
    rw [List.mapM_cons, List.mapM_cons]
    exact (hf _ _ hab).bind fun _ _ hcd => ih.bind fun _ _ hs => .ok (.cons hcd hs)

end FareAlike

/-! ## Requirements met one after another -/

section

variable {ρ : Type} {against : ρ → ε → Prop}

/-- There is a reason against one of the requirements in a list, and none against those before it. -/
inductive FirstReason (against : ρ → ε → Prop) : List ρ → ε → Prop
  | here {r : ρ} {rest : List ρ} {e : ε} (h : against r e) : FirstReason against (r :: rest) e
  | later {r : ρ} {rest : List ρ} {e : ε} (hr : ∀ e', ¬ against r e')
      (h : FirstReason against rest e) : FirstReason against (r :: rest) e

/-- An attempt that fails when a requirement in a list is not met, for the first reason that there is,
and else succeeds. -/
def Requires (against : ρ → ε → Prop) (requirements : List ρ) (x : Except ε α) : Prop :=
  ∀ e, x = .error e ↔ FirstReason against requirements e

namespace FirstReason

theorem append_iff {before after : List ρ} {e : ε} :
    FirstReason against (before ++ after) e ↔
      FirstReason against before e ∨
        (∀ r ∈ before, ∀ e', ¬ against r e') ∧ FirstReason against after e := by
  induction before with
  | nil =>
    constructor
    · intro h
      exact .inr ⟨List.forall_mem_nil _, h⟩
    · rintro (h | ⟨-, h⟩)
      · cases h
      · exact h
  | cons r rest ih =>
    rw [List.cons_append]
    constructor
    · intro h
      cases h with
      | here h => exact .inl (.here h)
      | later hr h =>
        rcases ih.1 h with h | ⟨hrest, h⟩
        · exact .inl (.later hr h)
        · exact .inr ⟨List.forall_mem_cons.2 ⟨hr, hrest⟩, h⟩
    · rintro (h | ⟨hall, h⟩)
      · cases h with
        | here h => exact .here h
        | later hr h => exact .later hr (ih.2 (.inl h))
      · obtain ⟨hr, hrest⟩ := List.forall_mem_cons.1 hall
        exact .later hr (ih.2 (.inr ⟨hrest, h⟩))

theorem exists_mem {requirements : List ρ} {e : ε} (h : FirstReason against requirements e) :
    ∃ r ∈ requirements, against r e := by
  induction h with
  | here h => exact ⟨_, List.mem_cons_self, h⟩
  | later _ _ ih =>
    obtain ⟨r, hr, h⟩ := ih
    exact ⟨r, List.mem_cons_of_mem _ hr, h⟩

/-- When there is a reason against some requirement, there is a first one. -/
theorem exists_of_mem {requirements : List ρ} {r : ρ} (hr : r ∈ requirements) {e : ε}
    (h : against r e) : ∃ e', FirstReason against requirements e' := by
  induction requirements with
  | nil => cases hr
  | cons r' rest ih =>
    by_cases hfirst : ∃ e', against r' e'
    · obtain ⟨e', he'⟩ := hfirst
      exact ⟨e', .here he'⟩
    · rcases List.mem_cons.1 hr with rfl | hr
      · exact absurd ⟨e, h⟩ hfirst
      · obtain ⟨e', he'⟩ := ih hr
        exact ⟨e', .later (not_exists.1 hfirst) he'⟩

/-- Where one test tells what there is a reason against, the first reason is that against the first thing
which the test finds. -/
theorem find?_iff {g : α → ρ} {p : α → Bool} {f : α → ε}
    (h : ∀ a e, against (g a) e ↔ p a = true ∧ f a = e) {l : List α} {e : ε} :
    (l.find? p).map f = some e ↔ FirstReason against (l.map g) e := by
  induction l with
  | nil => constructor <;> (intro h; cases h)
  | cons a rest ih =>
    rw [List.map_cons]
    by_cases hp : p a = true
    · rw [List.find?_cons_of_pos hp]
      constructor
      · rintro ⟨⟩
        exact .here ((h a _).2 ⟨hp, rfl⟩)
      · intro hfirst
        cases hfirst with
        | here ha => rw [← ((h a e).1 ha).2]; rfl
        | later hmet _ => exact absurd ((h a _).2 ⟨hp, rfl⟩) (hmet _)
    · rw [List.find?_cons_of_neg hp, ih]
      constructor
      · exact .later fun e' ha => hp ((h a e').1 ha).1
      · intro hfirst
        cases hfirst with
        | here ha => exact absurd ((h a e).1 ha).1 hp
        | later _ hrest => exact hrest

end FirstReason

namespace Requires

theorem singleton {r : ρ} {x : Except ε α} (h : ∀ e, x = .error e ↔ against r e) :
    Requires against [r] x := by
  intro e
  rw [h e]
  constructor
  · exact .here
  · intro hfirst
    cases hfirst with
    | here h => exact h
    | later _ h => cases h

/-- What succeeds requires nothing. -/
theorem ok (a : α) : Requires against [] (.ok a : Except ε α) := by
  intro e
  constructor <;> (intro h; cases h)

/-- What an attempt that succeeds requires is met. -/
theorem met {requirements : List ρ} {a : α} (h : Requires against requirements (.ok a)) :
    ∀ r ∈ requirements, ∀ e, ¬ against r e := by
  intro r hr e he
  obtain ⟨e', he'⟩ := FirstReason.exists_of_mem hr he
  cases (h e').2 he'

/-- An attempt made after another requires what the other does, and then what it does itself. -/
theorem bind {before after : List ρ} {x : Except ε α} {f : α → Except ε β}
    (hx : Requires against before x) (hf : ∀ a, x = .ok a → Requires against after (f a)) :
    Requires against (before ++ after) (x >>= f) := by
  intro e
  rw [FirstReason.append_iff]
  cases x with
  | error e' =>
    constructor
    · intro h
      cases h
      exact .inl ((hx e).1 rfl)
    · rintro (h | ⟨hmet, -⟩)
      · cases (hx e).2 h
        rfl
      · obtain ⟨r, hr, h⟩ := ((hx e').1 rfl).exists_mem
        exact absurd h (hmet r hr e')
  | ok a =>
    constructor
    · intro h
      exact .inr ⟨hx.met, (hf a rfl e).1 h⟩
    · rintro (h | ⟨-, h⟩)
      · cases (hx e).2 h
      · exact (hf a rfl e).2 h

end Requires

end

end BuilderSpec
