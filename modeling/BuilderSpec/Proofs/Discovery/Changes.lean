/-
What becomes of a draft. A call changes a draft, copies it or leaves it alone, so each draft that a pass
holds under a name was, before any run of calls, the draft of some name, unless it was begun anew or
reopened since. It is that draft with the changes made which the calls made to it on the way, under
whatever names it went, one after another.
-/
import BuilderSpec.Discovery
import BuilderSpec.Proofs.Specification.BuilderName

namespace BuilderSpec

namespace Bindings

variable {α : Type}

theorem get_bind_self (b : Bindings α) (name : String) (a : α) : (b.bind name a).get name = .ok a := by
  simp [get, bind]

theorem get_bind_of_ne (b : Bindings α) {name other : String} (h : name ≠ other) (a : α) :
    (b.bind name a).get other = b.get other := by
  have hne : (other == name) = false := beq_eq_false_iff_ne.2 h.symm
  simp only [get, bind, List.lookup_cons, hne]

/-- To give a name to what it stands for already changes nothing that is looked up. -/
theorem get_bind_of_get {b : Bindings α} {name : String} {a : α} (h : b.get name = .ok a)
    (other : String) : (b.bind name a).get other = b.get other := by
  by_cases heq : name = other
  · subst heq
    rw [b.get_bind_self, h]
  · exact b.get_bind_of_ne heq a

end Bindings

namespace Specification.Draft

variable {σ : Type}

/-! ## Changes -/

/-- What can be done to a draft. -/
inductive Change (σ : Type) where
  | edit (e : Edit (Property σ))
  | nameClasses (lookup : PackageLookup) (conventions : Conventions)

/-- Makes a change. -/
def change (d : Draft σ) : Change σ → Draft σ
  | .edit e => d.apply e
  | .nameClasses lookup conventions => (d.nameClasses lookup conventions).2

/-- Makes changes one after another. -/
def changeAll (d : Draft σ) (changes : List (Change σ)) : Draft σ :=
  changes.foldl change d

/-- A change leaves a draft as it is or makes an edit: the one that it is, or one that sets the classes of a
family which conventions name. -/
theorem change_cases (d : Draft σ) (c : Change σ) :
    d.change c = d ∨ ∃ e, d.change c = d.apply e ∧
      (c = .edit e ∨ ∃ package name conventions family,
        ClassFamily.forType package name conventions = .ok family ∧ e = .classes family) := by
  cases c with
  | edit e => exact .inr ⟨e, rfl, .inl rfl⟩
  | nameClasses lookup conventions =>
    rcases d.nameClasses_cases lookup conventions with ⟨e, hnamed⟩ | ⟨t, family, -, hfamily, hnamed⟩
    · exact .inl (congrArg Prod.snd hnamed)
    · exact .inr ⟨.classes family, congrArg Prod.snd hnamed,
        .inr ⟨_, _, conventions, family, hfamily, rfl⟩⟩

theorem changeAll_append (d : Draft σ) (first second : List (Change σ)) :
    d.changeAll (first ++ second) = (d.changeAll first).changeAll second :=
  List.foldl_append

/-- What every change in a list keeps holds after all of them. -/
theorem changeAll_induction {P : Draft σ → Prop} {changes : List (Change σ)}
    (hchange : ∀ c ∈ changes, ∀ d : Draft σ, P d → P (d.change c)) {d : Draft σ} (hd : P d) :
    P (d.changeAll changes) := by
  induction changes generalizing d with
  | nil => exact hd
  | cons c rest ih =>
    have hrest : ∀ c' ∈ rest, ∀ d : Draft σ, P d → P (d.change c') :=
      fun c' hc' => hchange c' (List.mem_cons_of_mem c hc')
    exact ih hrest (hchange c List.mem_cons_self d hd)

end Specification.Draft

namespace Discovery

open Specification

variable {σ : Type} {s : Discovery σ} {c : Call σ}

/-! ## Which draft a draft was -/

/-- The name before a call of the draft that has a name after it, if it is made from one. -/
def Call.source? (c : Call σ) (name : String) : Option String :=
  match c with
  | .newSpecification _ made => if made = name then none else some name
  | .reopen _ made => if made = name then none else some name
  | .copyDraft draft made => if made = name then some draft else some name
  | _ => some name

/-- The same in a pass, where a call that names something which is not there changes nothing. -/
def source? (s : Discovery σ) (c : Call σ) (name : String) : Option String :=
  match s.attempt c with
  | .ok _ => c.source? name
  | .error _ => some name

/-- The name before calls made one after another of the draft that has a name after them. -/
def sourceBefore? (s : Discovery σ) : List (Call σ) → String → Option String
  | [], name => some name
  | c :: rest, name => ((s.step c).1.sourceBefore? rest name).bind (s.source? c)

/-! ## What is done to it -/

/-- The change that a call makes to the draft of a name, if it makes one. -/
def change? (s : Discovery σ) (c : Call σ) (name : String) : Option (Draft.Change σ) :=
  match c with
  | .edit draft e =>
    if draft = name then (e.resolve s.properties.get).toOption.map .edit else none
  | .nameClasses draft lookup conventions =>
    if draft = name then some (.nameClasses lookup conventions) else none
  | _ => none

/-- The changes that calls made one after another make to the draft that has a name after them, each while
the draft has the name that it has then. -/
def changesTo (s : Discovery σ) : List (Call σ) → String → List (Draft.Change σ)
  | [], _ => []
  | c :: rest, name =>
    (((s.step c).1.sourceBefore? rest name).bind (s.change? c)).toList ++
      (s.step c).1.changesTo rest name

/-! ## One call -/

/-- A changed draft that is put in the place of what it was is what the name stands for after that. What
other names stand for stays. -/
theorem get_bind_change {drafts : Bindings (Draft σ)} {draft name : String} {old d : Draft σ}
    (hold : drafts.get draft = .ok old) (hd : drafts.get name = .ok d) (change : Draft.Change σ) :
    (drafts.bind draft (old.change change)).get name =
      .ok (d.changeAll (if draft = name then some change else none).toList) := by
  by_cases heq : draft = name
  · subst heq
    cases hold.symm.trans hd
    rw [if_pos rfl, drafts.get_bind_self]
    rfl
  · rw [if_neg heq, drafts.get_bind_of_ne heq, hd]
    rfl

theorem get_attempt {t : Discovery σ} {o : Outcome σ} (h : s.attempt c = .ok (t, o))
    {name source : String} (hsource : c.source? name = some source) {d : Draft σ}
    (hd : s.drafts.get source = .ok d) :
    t.drafts.get name = .ok (d.changeAll (s.change? c name).toList) := by
  cases c with
  | newProperty made =>
    cases h
    cases hsource
    exact hd
  | newSpecification packages made =>
    cases h
    simp only [Call.source?] at hsource
    split at hsource
    · cases hsource
    · rename_i hne
      cases hsource
      exact (s.drafts.get_bind_of_ne hne _).trans hd
  | copyDraft draft made =>
    obtain ⟨d', hd', h⟩ := bind_eq_ok_iff.1 h
    cases h
    simp only [Call.source?] at hsource
    split at hsource
    · rename_i heq
      cases hsource
      cases hd'.symm.trans hd
      subst heq
      exact s.drafts.get_bind_self made d
    · rename_i hne
      cases hsource
      exact (s.drafts.get_bind_of_ne hne _).trans hd
  | reopen specification made =>
    obtain ⟨u, -, h⟩ := bind_eq_ok_iff.1 h
    cases h
    simp only [Call.source?] at hsource
    split at hsource
    · cases hsource
    · rename_i hne
      cases hsource
      exact (s.drafts.get_bind_of_ne hne _).trans hd
  | edit draft e =>
    obtain ⟨old, hold, h⟩ := bind_eq_ok_iff.1 h
    obtain ⟨e', he', h⟩ := bind_eq_ok_iff.1 h
    cases h
    cases hsource
    simp only [change?, he', Except.toOption, Option.map_some]
    exact get_bind_change hold hd (.edit e')
  | nameClasses draft lookup conventions =>
    obtain ⟨old, hold, h⟩ := bind_eq_ok_iff.1 h
    cases h
    cases hsource
    exact get_bind_change hold hd (.nameClasses lookup conventions)
  | _ =>
    -- The other calls look one thing up, and leave the drafts alone.
    obtain ⟨x, -, h⟩ := bind_eq_ok_iff.1 h
    cases h
    cases hsource
    exact hd

/-- A call that names something which is not there makes no change to a draft that is. -/
theorem change?_of_attempt_eq_error {u : Unbound} (h : s.attempt c = .error u) {name : String}
    {d : Draft σ} (hd : s.drafts.get name = .ok d) : s.change? c name = none := by
  cases c with
  | edit draft e =>
    simp only [change?]
    split
    · rename_i heq
      subst heq
      cases he : e.resolve s.properties.get with
      | error u' => rfl
      | ok e' =>
        simp only [attempt, hd, he] at h
        cases h
    · rfl
  | nameClasses draft lookup conventions =>
    simp only [change?]
    split
    · rename_i heq
      subst heq
      simp only [attempt, hd] at h
      cases h
    · rfl
  | _ => rfl

theorem get_step {name source : String} (hsource : s.source? c name = some source) {d : Draft σ}
    (hd : s.drafts.get source = .ok d) :
    (s.step c).1.drafts.get name = .ok (d.changeAll (s.change? c name).toList) := by
  unfold source? at hsource
  unfold step
  cases h : s.attempt c with
  | error u =>
    rw [h] at hsource
    cases hsource
    rw [change?_of_attempt_eq_error h hd]
    exact hd
  | ok result =>
    rw [h] at hsource
    exact get_attempt h hsource hd

/-! ## Runs of calls -/

/-- A draft that comes from another in a run of calls is the other with the changes made that the calls made
to it: by induction on the calls, the draft of each name being traced back through the first of them. -/
theorem get_after {calls : List (Call σ)} {name source : String}
    (hsource : s.sourceBefore? calls name = some source) {d : Draft σ}
    (hd : s.drafts.get source = .ok d) :
    (s.after calls).drafts.get name = .ok (d.changeAll (s.changesTo calls name)) := by
  induction calls generalizing s source d with
  | nil =>
    cases hsource
    exact hd
  | cons c rest ih =>
    obtain ⟨between, hbetween, hsource⟩ := Option.bind_eq_some_iff.1 hsource
    rw [changesTo, hbetween, Option.bind_some, Draft.changeAll_append]
    exact ih hbetween (get_step hsource hd)

end Discovery

end BuilderSpec
