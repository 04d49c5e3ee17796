/-
Where what a pass holds comes from. A draft that is there after a call was there before it, or the call
has made it: anew, from a specification, by a change or by naming its classes. A specification that is
there after a call was there before it, or is a draft that was, finished. So a property of drafts and
specifications holds after a run when it survives each of these ways.
-/
import BuilderSpec.Discovery
import BuilderSpec.Proofs.Attempt
import BuilderSpec.Proofs.Specification.BuilderName

namespace BuilderSpec

namespace Bindings

variable {α ε : Type}

theorem mem_values_bind {b : Bindings α} {name : String} {a a' : α}
    (h : a ∈ (b.bind name a').values) : a ∈ b.values ∨ a = a' := by
  rcases List.mem_cons.1 h with rfl | h
  · exact .inr rfl
  · exact .inl h

theorem mem_values_bindResult {b : Bindings α} {name : String} {result : Except ε α} {a : α}
    (h : a ∈ (b.bindResult name result).values) : a ∈ b.values ∨ result = .ok a := by
  cases result with
  | error e => exact .inl h
  | ok a' =>
    rcases List.mem_cons.1 h with rfl | h
    · exact .inr rfl
    · exact .inl h

theorem mem_values_of_get {b : Bindings α} {name : String} {a : α} (h : b.get name = .ok a) :
    a ∈ b.values := by
  unfold get at h
  cases hlookup : b.entries.lookup name with
  | none => rw [hlookup] at h; cases h
  | some a' =>
    rw [hlookup] at h
    cases h
    obtain ⟨before, after, heq, -⟩ := List.lookup_eq_some_iff.1 hlookup
    exact List.mem_map.2 ⟨(name, a), heq ▸ List.mem_append_right before List.mem_cons_self, rfl⟩

end Bindings

namespace Discovery

open Specification

variable {σ : Type} {s : Discovery σ} {c : Call σ}

/-! ## One call -/

/-- How a draft comes to be among those that a pass holds after a call. -/
inductive DraftOrigin (s : Discovery σ) : Call σ → Draft σ → Prop
  | kept {c : Call σ} {d : Draft σ} (h : d ∈ s.drafts.values) : DraftOrigin s c d
  | new {packages : TableRef} {name : String} :
      DraftOrigin s (.newSpecification packages name) (.empty packages)
  | reopened {specification name : String} {t : Specification σ} (h : t ∈ s.specifications.values) :
      DraftOrigin s (.reopen specification name) t.toDraft
  | edited {draft : String} {e : Edit String} {e' : Edit (Property σ)} {d : Draft σ}
      (h : d ∈ s.drafts.values) (he : e.resolve s.properties.get = .ok e') :
      DraftOrigin s (.edit draft e) (d.apply e')
  | named {draft : String} {lookup : PackageLookup} {conventions : Conventions} {d d' : Draft σ}
      (h : d ∈ s.drafts.values) (hn : d.nameClasses lookup conventions = (.ok (), d')) :
      DraftOrigin s (.nameClasses draft lookup conventions) d'

theorem draftOrigin_attempt {t : Discovery σ} {o : Outcome σ} (h : s.attempt c = .ok (t, o))
    {d : Draft σ} (hd : d ∈ t.drafts.values) : DraftOrigin s c d := by
  cases c with
  | newProperty name => cases h; exact .kept hd
  | newSpecification packages name =>
    cases h
    rcases Bindings.mem_values_bind hd with hd | rfl
    · exact .kept hd
    · exact .new
  | copyDraft draft name =>
    obtain ⟨d', hd', h⟩ := bind_eq_ok_iff.1 h
    cases h
    rcases Bindings.mem_values_bind hd with hd | rfl
    · exact .kept hd
    · exact .kept (Bindings.mem_values_of_get hd')
  | reopen specification name =>
    obtain ⟨u, hu, h⟩ := bind_eq_ok_iff.1 h
    cases h
    rcases Bindings.mem_values_bind hd with hd | rfl
    · exact .kept hd
    · exact .reopened (Bindings.mem_values_of_get hu)
  | edit draft e =>
    obtain ⟨d', hd', h⟩ := bind_eq_ok_iff.1 h
    obtain ⟨e', he', h⟩ := bind_eq_ok_iff.1 h
    cases h
    rcases Bindings.mem_values_bind hd with hd | rfl
    · exact .kept hd
    · exact .edited (Bindings.mem_values_of_get hd') he'
  | nameClasses draft lookup conventions =>
    obtain ⟨d', hd', h⟩ := bind_eq_ok_iff.1 h
    have hbound : d ∈ (s.drafts.bind draft (d'.nameClasses lookup conventions).2).values := by
      cases h
      exact hd
    rcases Bindings.mem_values_bind hbound with hd | rfl
    · exact .kept hd
    · -- A failed attempt puts back what was there.
      rcases d'.nameClasses_cases lookup conventions with ⟨e, hnamed⟩ | ⟨t, family, -, -, hnamed⟩
      · rw [hnamed]
        exact .kept (Bindings.mem_values_of_get hd')
      · rw [hnamed]
        exact .named (Bindings.mem_values_of_get hd') hnamed
  | _ =>
    -- The other calls look one thing up, and leave the drafts alone.
    obtain ⟨x, -, h⟩ := bind_eq_ok_iff.1 h
    cases h
    exact .kept hd

theorem draftOrigin_step {d : Draft σ} (hd : d ∈ (s.step c).1.drafts.values) : DraftOrigin s c d := by
  unfold step at hd
  cases h : s.attempt c with
  | error u => rw [h] at hd; exact .kept hd
  | ok result => rw [h] at hd; exact draftOrigin_attempt h hd

theorem specification_attempt {t : Discovery σ} {o : Outcome σ} (h : s.attempt c = .ok (t, o))
    {u : Specification σ} (hu : u ∈ t.specifications.values) :
    u ∈ s.specifications.values ∨ ∃ d ∈ s.drafts.values, d.finish.result = .ok u := by
  cases c with
  | newProperty name => cases h; exact .inl hu
  | newSpecification packages name => cases h; exact .inl hu
  | edit draft e =>
    obtain ⟨d, -, h⟩ := bind_eq_ok_iff.1 h
    obtain ⟨e', -, h⟩ := bind_eq_ok_iff.1 h
    cases h
    exact .inl hu
  | finish draft name =>
    obtain ⟨d, hd, h⟩ := bind_eq_ok_iff.1 h
    cases h
    rcases Bindings.mem_values_bindResult hu with hu | hu
    · exact .inl hu
    · exact .inr ⟨d, Bindings.mem_values_of_get hd, hu⟩
  | _ =>
    obtain ⟨x, -, h⟩ := bind_eq_ok_iff.1 h
    cases h
    exact .inl hu

theorem specification_step {u : Specification σ} (hu : u ∈ (s.step c).1.specifications.values) :
    u ∈ s.specifications.values ∨ ∃ d ∈ s.drafts.values, d.finish.result = .ok u := by
  unfold step at hu
  cases h : s.attempt c with
  | error e => rw [h] at hu; exact .inl hu
  | ok result => rw [h] at hu; exact specification_attempt h hu

/-! ## Runs of calls -/

/-- A property of the drafts and one of the specifications that a pass holds. -/
structure Holds (P : Draft σ → Prop) (Q : Specification σ → Prop) (s : Discovery σ) : Prop where
  drafts : ∀ d ∈ s.drafts.values, P d
  specifications : ∀ t ∈ s.specifications.values, Q t

/-- Calls of a kind keep two properties when each way to a draft does, and finishing leads from one
property to the other. -/
theorem Holds.after {P : Draft σ → Prop} {Q : Specification σ → Prop} {allowed : Call σ → Prop}
    (hdraft : ∀ (s : Discovery σ) (c : Call σ) (d : Draft σ), allowed c → Holds P Q s →
      DraftOrigin s c d → P d)
    (hfinish : ∀ (d : Draft σ) (t : Specification σ), P d → d.finish.result = .ok t → Q t)
    {s : Discovery σ} (hs : Holds P Q s) {calls : List (Call σ)} (hcalls : ∀ c ∈ calls, allowed c) :
    Holds P Q (s.after calls) := by
  induction calls generalizing s with
  | nil => exact hs
  | cons c rest ih =>
    have hc : allowed c := hcalls c List.mem_cons_self
    refine ih ⟨fun d hd => hdraft s c d hc hs (draftOrigin_step hd), fun t ht => ?_⟩
      fun c' hc' => hcalls c' (List.mem_cons_of_mem c hc')
    rcases specification_step ht with ht | ⟨d, hd, hd'⟩
    · exact hs.specifications t ht
    · exact hfinish d t (hs.drafts d hd) hd'

theorem holds_empty (P : Draft σ → Prop) (Q : Specification σ → Prop) :
    Holds P Q (empty : Discovery σ) :=
  ⟨fun _ h => (List.not_mem_nil h).elim, fun _ h => (List.not_mem_nil h).elim⟩

end Discovery

end BuilderSpec
