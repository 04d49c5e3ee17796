/-
Names that several properties have. Finishing a draft keeps every property. Each one that has the name of a
property before it is reported, in the order of the properties, and of the properties of one name the one
that is not reported is found under it.
-/
import BuilderSpec.Proofs.Specification.FirstDefect
import Mathlib.Data.Fintype.Card

namespace BuilderSpec.Specification

variable {σ : Type}

/-! ## Where names are repeated -/

/-- A property before the one at `i` has its name. -/
def Repeats (properties : List (Property σ)) (i : Fin properties.length) : Prop :=
  ∃ j < i, properties[j].name = properties[i].name

instance (properties : List (Property σ)) : DecidablePred (Repeats properties) := fun i =>
  inferInstanceAs (Decidable (∃ j < i, properties[j].name = properties[i].name))

/-- The places at which a name is repeated, in order. -/
def repetitions (properties : List (Property σ)) : List (Fin properties.length) :=
  (List.finRange properties.length).filter fun i => Repeats properties i

theorem mem_repetitions_iff {properties : List (Property σ)} {i : Fin properties.length} :
    i ∈ repetitions properties ↔ Repeats properties i := by
  simp [repetitions]

theorem not_repeats_zero (p : Property σ) (rest : List (Property σ)) : ¬ Repeats (p :: rest) 0 := by
  rintro ⟨j, hj, -⟩
  exact absurd hj (Fin.not_lt_zero j)

theorem repeats_succ_iff {p : Property σ} {rest : List (Property σ)} {i : Fin rest.length} :
    Repeats (p :: rest) i.succ ↔ p.name = rest[i].name ∨ Repeats rest i := by
  refine Fin.exists_fin_succ.trans ?_
  simp [Repeats]

/-- Of the properties of one name, only one repeats none before it. -/
theorem eq_of_not_repeats {properties : List (Property σ)} {i j : Fin properties.length}
    (hi : ¬ Repeats properties i) (hj : ¬ Repeats properties j)
    (h : properties[i].name = properties[j].name) : i = j := by
  rcases lt_trichotomy i j with hlt | heq | hlt
  · exact absurd ⟨i, hlt, h⟩ hj
  · exact heq
  · exact absurd ⟨j, hlt, h.symm⟩ hi

namespace Draft

/-! ## The repetitions that are reported -/

/-- The names that are reported stand where a name has been seen before: among `seen`, or on a property
further in front. -/
theorem repeatedNames_eq (seen : List String) (properties : List (Property σ)) :
    repeatedNames seen (properties.map fun p => p.name) =
      ((List.finRange properties.length).filter fun i =>
        properties[i].name ∈ seen ∨ Repeats properties i).map fun i => properties[i].name := by
  induction properties generalizing seen with
  | nil => rfl
  | cons p rest ih =>
    have hrest : ∀ seen', (∀ name, name ∈ seen' ↔ name = p.name ∨ name ∈ seen) →
        repeatedNames seen' (rest.map fun q => q.name) =
          (((List.finRange rest.length).map Fin.succ).filter fun i =>
            (p :: rest)[i].name ∈ seen ∨ Repeats (p :: rest) i).map fun i => (p :: rest)[i].name := by
      intro seen' hseen
      have hsame : ∀ i : Fin rest.length, (rest[i].name ∈ seen' ∨ Repeats rest i) ↔
          ((p :: rest)[i.succ].name ∈ seen ∨ Repeats (p :: rest) i.succ) := by
        intro i
        rw [hseen, repeats_succ_iff, eq_comm (a := p.name), or_assoc, or_left_comm]
        rfl
      rw [ih, List.filter_map, List.map_map]
      simp only [hsame]
      rfl
    have hplaces : List.finRange (p :: rest).length = 0 :: (List.finRange rest.length).map Fin.succ :=
      List.finRange_succ
    have hfirst : (decide ((p :: rest)[(0 : Fin (p :: rest).length)].name ∈ seen ∨ Repeats (p :: rest) 0) =
        true) ↔ p.name ∈ seen :=
      decide_eq_true_iff.trans (or_iff_left (not_repeats_zero p rest))
    rw [List.map_cons, repeatedNames, hplaces, List.filter_cons]
    by_cases hp : p.name ∈ seen
    · rw [if_pos hp, if_pos (hfirst.2 hp), List.map_cons, hrest seen fun name => ?_]
      · rfl
      · exact (or_iff_right_of_imp fun h => h ▸ hp).symm
    · rw [if_neg hp, if_neg (mt hfirst.1 hp), hrest (p.name :: seen) fun name => List.mem_cons]

theorem repeatedNames_nil_eq (properties : List (Property σ)) :
    repeatedNames [] (properties.map fun p => p.name) =
      (repetitions properties).map fun i => properties[i].name := by
  rw [repeatedNames_eq, repetitions]
  simp only [List.not_mem_nil, false_or]

/-- A name is reported as often as it is repeated, so with the distinct names that have not been seen
before, the reported ones are as many as all names. -/
theorem length_repeatedNames_add_card (seen names : List String) :
    (repeatedNames seen names).length + (names.toFinset \ seen.toFinset).card = names.length := by
  induction names generalizing seen with
  | nil => simp [repeatedNames]
  | cons name rest ih =>
    rw [repeatedNames, List.toFinset_cons, List.length_cons]
    by_cases hname : name ∈ seen
    · rw [if_pos hname, Finset.insert_sdiff_of_mem _ (List.mem_toFinset.2 hname), List.length_cons,
        Nat.add_right_comm, ih]
    · have hnew : insert name rest.toFinset \ seen.toFinset =
          insert name (rest.toFinset \ (name :: seen).toFinset) := by
        ext other
        simp only [Finset.mem_sdiff, Finset.mem_insert, List.mem_toFinset, List.mem_cons]
        by_cases hother : other = name
        · simp [hother, hname]
        · simp [hother]
      rw [if_neg hname, hnew, Finset.card_insert_of_notMem (by simp), ← Nat.add_assoc, ih]

theorem length_repetitions_add_card (properties : List (Property σ)) :
    (repetitions properties).length + (properties.map fun p => p.name).toFinset.card =
      properties.length := by
  have hcount := length_repeatedNames_add_card [] (properties.map fun p => p.name)
  rwa [repeatedNames_nil_eq, List.length_map, List.length_map, List.toFinset_nil, Finset.sdiff_empty]
    at hcount

end Draft

/-! ## The properties that are found -/

/-- The property found under a name is the one that has it and repeats none before it. -/
theorem property?_eq_some_iff {s : Specification σ} {name : String} {p : Property σ} :
    s.property? name = some p ↔
      ∃ i : Fin s.properties.length, s.properties[i] = p ∧ p.name = name ∧ ¬ Repeats s.properties i := by
  rw [property?, List.find?_eq_some_iff_getElem]
  simp only [beq_iff_eq, Bool.not_eq_true', beq_eq_false_iff_ne]
  constructor
  · rintro ⟨rfl, i, hi, rfl, hfirst⟩
    refine ⟨⟨i, hi⟩, rfl, rfl, ?_⟩
    rintro ⟨j, hj, hname⟩
    exact hfirst j hj hname
  · rintro ⟨i, rfl, rfl, hfirst⟩
    refine ⟨rfl, i, i.isLt, rfl, fun j hj hname => ?_⟩
    exact hfirst ⟨⟨j, hj.trans i.isLt⟩, hj, hname⟩

theorem isSome_property?_iff {s : Specification σ} {name : String} :
    (s.property? name).isSome = true ↔ name ∈ s.propertyNames := by
  simp [property?, propertyNames]

/-- Of the properties of one name exactly one is not reported, and it is the one that is found. -/
theorem exists_property?_eq {s : Specification σ} {name : String} (h : name ∈ s.propertyNames) :
    ∃ i : Fin s.properties.length, s.property? name = some s.properties[i] ∧
      ∀ j, s.properties[j].name = name ∧ j ∉ repetitions s.properties ↔ j = i := by
  obtain ⟨p, hp⟩ := Option.isSome_iff_exists.1 (isSome_property?_iff.2 h)
  obtain ⟨i, rfl, hname, hfirst⟩ := property?_eq_some_iff.1 hp
  refine ⟨i, hp, fun j => ?_⟩
  rw [mem_repetitions_iff]
  constructor
  · rintro ⟨hj, hjfirst⟩
    exact eq_of_not_repeats hjfirst hfirst (hj.trans hname.symm)
  · rintro rfl
    exact ⟨hname, hfirst⟩

namespace Draft

/-! ## Finishing -/

theorem finish_events {d : Draft σ} {s : Specification σ} (h : d.finish.result = .ok s) :
    d.finish.events = ((repetitions s.properties).map fun i =>
        .propertyRepeated s.declaringType.text s.properties[i].name) ++
      [.specificationFinished s.declaringType.text s.classes.builder.qualifiedName
        s.properties.length] := by
  rw [finish_result] at h
  unfold finish
  rw [h]
  simp only [eventsOf, propertyNames, repeatedNames_nil_eq, List.map_map, Function.comp_def]

/-- What is reported when a draft is finished. The properties of the specification are those of the draft.
A warning with the name of the user type and its own is given for each that has the name of one before it, in
order, and then it is said which builder is generated and how many properties there are; so warnings and
names are together as many as properties. Under each name the one property that has it and of which no
warning was given is found, and under no other text any. Of a draft that has a defect nothing is reported. -/
theorem finish_reports_repetitions (d : Draft σ) :
    (∀ s, d.finish.result = .ok s →
      s.properties = d.properties ∧ d.declaringType = some s.declaringType ∧
      d.finish.events = ((repetitions s.properties).map fun i =>
          .propertyRepeated s.declaringType.text s.properties[i].name) ++
        [.specificationFinished s.declaringType.text s.classes.builder.qualifiedName
          s.properties.length] ∧
      d.finish.events.map Event.level =
        List.replicate (repetitions s.properties).length "WARN" ++ ["DEBUG"] ∧
      d.finish.events.map Event.message =
        List.replicate (repetitions s.properties).length "specification lists property more than once" ++
          ["built specification"] ∧
      d.finish.events.map Event.fields =
        ((repetitions s.properties).map fun i =>
          [("declaring_type", s.declaringType.text), ("property", s.properties[i].name)]) ++
          [[("declaring_type", s.declaringType.text),
            ("generated_builder", s.classes.builder.qualifiedName),
            ("properties", s.properties.length.repr)]] ∧
      (repetitions s.properties).length + s.propertyNames.toFinset.card = s.properties.length ∧
      ∀ name, ((s.property? name).isSome = true ↔ name ∈ s.propertyNames) ∧
        (name ∈ s.propertyNames → ∃ i : Fin s.properties.length, s.property? name = some s.properties[i] ∧
          ∀ j, s.properties[j].name = name ∧ j ∉ repetitions s.properties ↔ j = i)) ∧
    ∀ defect, d.finish.result = .error defect → d.finish.events = [] := by
  constructor
  · intro s h
    obtain ⟨rfl, -⟩ := finish_result_eq_ok_iff.1 h
    have hevents := finish_events h
    refine ⟨rfl, rfl, hevents, ?_, ?_, ?_, length_repetitions_add_card s.properties,
      fun name => ⟨isSome_property?_iff, exists_property?_eq⟩⟩
    · rw [hevents, List.map_append, List.map_map, ← List.map_const']
      rfl
    · rw [hevents, List.map_append, List.map_map, ← List.map_const']
      rfl
    · rw [hevents, List.map_append, List.map_map]
      rfl
  · intro defect h
    rw [finish_eq_silent_iff.2 h]
    rfl

/-- The draft of a user type with two properties, one of them given three times. -/
def repeatingDraft : Draft StandardStrategy :=
  (empty ⟨0⟩).applyAll (personEdits personFamily personAge ++
    [.addProperty { personAge with name := "size" }, .addProperty personAge])

/-- Two of four properties are reported, and each name leads to the first that has it. -/
theorem finish_repeatingDraft :
    ∃ s, repeatingDraft.finish.result = .ok s ∧ s.propertyNames = ["age", "age", "size", "age"] ∧
      repeatingDraft.finish.events = [.propertyRepeated "org.example.Person" "age",
        .propertyRepeated "org.example.Person" "age",
        .specificationFinished "org.example.Person" "org.example.Person_Builder" 4] ∧
      repeatingDraft.finish.events.map Event.fields = [
        [("declaring_type", "org.example.Person"), ("property", "age")],
        [("declaring_type", "org.example.Person"), ("property", "age")],
        [("declaring_type", "org.example.Person"), ("generated_builder", "org.example.Person_Builder"),
          ("properties", "4")]] ∧
      s.property? "Age" = none ∧ s.property? "size" = s.properties[2]? := by
  obtain ⟨-, -, hevents, -, -, hfields, -, hfound⟩ :=
    (finish_reports_repetitions repeatingDraft).1 _ rfl
  refine ⟨_, rfl, rfl, hevents.trans (by decide), hfields.trans (by decide), ?_, ?_⟩
  · rw [← Option.not_isSome_iff_eq_none, (hfound "Age").1]
    decide
  · obtain ⟨i, hi, honly⟩ := (hfound "size").2 (by decide)
    rw [hi, ← (honly ⟨2, by decide⟩).1 (by decide)]
    rfl

end Draft

end BuilderSpec.Specification
