/-
Which of the names that are found in a getter are identifiers. The getter always is one, and so are the
others, but for what the case mappings do to a few letters: the name and the capitalized name fail for a stem
that begins with the dotted capital I, and the name in capitals fails also for a stem with a marked letter.
-/
import BuilderSpec.Proofs.Naming.Getter
import BuilderSpec.Proofs.Naming.Parts
import BuilderSpec.Proofs.Unicode.CaseForms

namespace BuilderSpec.Naming

open Unicode

/-! ## Spellings of an identifier -/

theorem isIdentifierChars_iff_of_start {first : Char} {rest : List Char}
    (h : isIdentifierStart first = true) :
    isIdentifierChars (first :: rest) = true ↔ ∀ c ∈ first :: rest, isIdentifierPart c = true := by
  rw [isIdentifierChars_cons_iff, List.forall_mem_cons]
  simp [h, isIdentifierPart_of_start h]

theorem isIdentifierChars_capitalizeChars {first : Char} {rest : List Char}
    (h : isIdentifierChars (first :: rest) = true) (hmarked : first ∉ markedLetters) :
    isIdentifierChars (capitalizeChars (first :: rest)) = true := by
  obtain ⟨hstart, hrest⟩ := isIdentifierChars_cons_iff.1 h
  have hparts := isIdentifierPart_of_mem_upper (isIdentifierPart_of_start hstart) hmarked
  obtain ⟨d, ds, hupper, hd⟩ := exists_upper_eq_cons hstart
  rw [hupper] at hparts
  rw [capitalizeChars, hupper, List.cons_append, isIdentifierChars_cons_iff]
  refine ⟨hd, fun c hc => ?_⟩
  rcases List.mem_append.1 hc with hc | hc
  · exact hparts c (List.mem_cons_of_mem d hc)
  · exact hrest c hc

/-- The underscores that are put in are no hindrance to an identifier. -/
theorem forall_allCapsChars_iff (before : Option Char) (text : List Char) :
    (∀ d ∈ allCapsChars before text, isIdentifierPart d = true) ↔
      ∀ c ∈ text, ∀ d ∈ upper c, isIdentifierPart d = true := by
  induction text generalizing before with
  | nil => simp [allCapsChars]
  | cons c rest ih =>
    have hunderscore : isIdentifierPart '_' = true := by decide
    rw [allCapsChars, List.forall_mem_append, List.forall_mem_append, ih, List.forall_mem_cons]
    refine and_congr_left fun _ => ?_
    split <;> simp [hunderscore]

theorem isIdentifierChars_allCapsChars_iff {first : Char} {rest : List Char}
    (h : isIdentifierStart first = true) :
    isIdentifierChars (allCapsChars none (first :: rest)) = true ↔
      ∀ c ∈ first :: rest, ∀ d ∈ upper c, isIdentifierPart d = true := by
  obtain ⟨d, ds, hupper, hd⟩ := exists_upper_eq_cons h
  have hcaps : allCapsChars none (first :: rest) = d :: (ds ++ allCapsChars (some first) rest) := by
    rw [allCapsChars, hupper]
    simp [beginsWord]
  rw [hcaps, isIdentifierChars_iff_of_start hd, ← hcaps, forall_allCapsChars_iff]

/-! ## The stem in lower case -/

/-- The stem begins with the dotted capital I, and is not taken for an acronym. -/
def beginsDotted : List Char → Bool
  | [] => false
  | first :: rest => first == dottedI && !rest.head?.any isUppercase

section

variable {first : Char} {rest : List Char} (hid : isIdentifierChars (first :: rest) = true)
  (hupper : isUppercase first = true)
include hid hupper

/-- In lower case the stem gets a dot behind its first letter, or it begins with another letter that is not
marked. -/
theorem decapitalizeChars_cases :
    (beginsDotted (first :: rest) = true ∧ decapitalizeChars (first :: rest) = 'i' :: dotAbove :: rest) ∨
      (beginsDotted (first :: rest) = false ∧ ∃ d, decapitalizeChars (first :: rest) = d :: rest ∧
        isIdentifierStart d = true ∧ d ∉ markedLetters) := by
  have hstart := (isIdentifierChars_cons_iff.1 hid).1
  have hmarked := notMem_markedLetters_of_isUppercase hupper
  rw [decapitalizeChars, beginsDotted, hupper, Bool.true_and]
  cases rest.head?.any isUppercase with
  | true => exact .inr ⟨by simp, first, rfl, hstart, hmarked⟩
  | false =>
    by_cases hdotted : first = dottedI
    · subst hdotted
      exact .inl ⟨by simp, by rw [lower_dottedI]; rfl⟩
    · obtain ⟨d, hlower, hd, hdmarked⟩ := lower_eq_singleton hdotted
      exact .inr ⟨by simp [hdotted], d, by rw [hlower]; rfl, hd hstart, hdmarked hmarked⟩

/-- The name and the capitalized name are identifiers, unless there is a dot in the way. -/
theorem isIdentifierChars_decapitalizeChars_iff :
    (isIdentifierChars (decapitalizeChars (first :: rest)) = true ↔ beginsDotted (first :: rest) = false) ∧
      (isIdentifierChars (capitalizeChars (decapitalizeChars (first :: rest))) = true ↔
        beginsDotted (first :: rest) = false) := by
  rcases decapitalizeChars_cases hid hupper with ⟨hdotted, hname⟩ | ⟨hdotted, d, hname, hd, hmarked⟩
  · have hupperI : upper 'i' = ['I'] := by decide
    rw [hname, hdotted, capitalizeChars, hupperI]
    simp [isIdentifierChars_cons_iff, not_isIdentifierPart_dotAbove]
  · have hname' : isIdentifierChars (d :: rest) = true :=
      isIdentifierChars_cons_iff.2 ⟨hd, (isIdentifierChars_cons_iff.1 hid).2⟩
    rw [hname, hdotted]
    simp [hname', isIdentifierChars_capitalizeChars hname' hmarked]

/-- The name in capitals is an identifier, unless there is a dot or a mark in the way. -/
theorem isIdentifierChars_allCapsChars_decapitalizeChars_iff :
    isIdentifierChars (allCapsChars none (decapitalizeChars (first :: rest))) = true ↔
      beginsDotted (first :: rest) = false ∧ ∀ c ∈ first :: rest, c ∉ markedLetters := by
  obtain ⟨hstart, hrest⟩ := isIdentifierChars_cons_iff.1 hid
  have hfirst := notMem_markedLetters_of_isUppercase hupper
  rcases decapitalizeChars_cases hid hupper with ⟨hdotted, hname⟩ | ⟨hdotted, d, hname, hd, hmarked⟩
  · rw [hname, hdotted, isIdentifierChars_allCapsChars_iff (by decide)]
    simp [upper_dotAbove, not_isIdentifierPart_dotAbove]
  · rw [hname, hdotted, isIdentifierChars_allCapsChars_iff hd, List.forall_mem_cons, List.forall_mem_cons]
    -- Behind the first letter each character counts by itself.
    have hparts : ∀ c ∈ rest, (∀ e ∈ upper c, isIdentifierPart e = true) ↔ c ∉ markedLetters := by
      intro c hc
      constructor
      · intro h hmem
        obtain ⟨-, -, -, e, he, hpart⟩ := of_mem_markedLetters hmem
        rw [h e he] at hpart
        cases hpart
      · exact isIdentifierPart_of_mem_upper (hrest c hc)
    have hd' := isIdentifierPart_of_mem_upper (isIdentifierPart_of_start hd) hmarked
    simp only [true_and, hfirst, not_false_eq_true, iff_true_intro hd']
    exact forall₂_congr hparts

end

/-! ## The names in a getter -/

namespace NameForms

/-- Among the names found in a getter, the getter itself is an identifier; the name and the capitalized name
are, unless the stem begins with the dotted capital I; and the name in capitals is, unless the stem begins
so or has a marked letter. -/
theorem isIdentifier_of_ofGetter? {getter : String} {n : NameForms} (h : ofGetter? getter = some n) :
    isIdentifier n.getterName = true ∧ ∃ boolean stem, Reads getter boolean stem ∧
      (isIdentifier n.name = true ↔ beginsDotted stem.toList = false) ∧
      (isIdentifier n.capitalizedName = true ↔ beginsDotted stem.toList = false) ∧
      (isIdentifier n.allCapsName = true ↔
        beginsDotted stem.toList = false ∧ ∀ c ∈ stem.toList, c ∉ markedLetters) := by
  obtain ⟨boolean, stem, hreads, rfl⟩ := ofGetter?_eq_some_iff.1 h
  refine ⟨?_, boolean, stem, hreads, ?_⟩
  · have hword : isIdentifier (getterWord boolean) = true := by cases boolean <;> decide
    change isIdentifier getter = true
    rw [hreads.spelled]
    exact isIdentifier_append hword fun c => isIdentifierPart_of_mem hreads.identifier
  · obtain ⟨first, hfirst, hupper⟩ := hreads.upper
    obtain ⟨rest, hstem⟩ := List.head?_eq_some_iff.1 hfirst
    have hid := hreads.identifier
    rw [isIdentifier, hstem] at hid
    obtain ⟨hname, hcapitalized⟩ := isIdentifierChars_decapitalizeChars_iff hid hupper
    simp only [ofName, isIdentifier, capitalize, decapitalize, allCaps, String.toList_ofList, hstem]
    exact ⟨hname, hcapitalized, isIdentifierChars_allCapsChars_decapitalizeChars_iff hid hupper⟩

/-- What two getters give, one with a marked letter and one with the dotted capital I. -/
theorem ofGetter?_marked_dotted :
    ofGetter? "getA\u01f0" = some ⟨"a\u01f0", "A\u01f0", "AJ\u030c", "getA\u01f0"⟩ ∧
      ofGetter? "is\u0130d" = some ⟨"i\u0307d", "I\u0307d", "I\u0307D", "is\u0130d"⟩ := by
  decide +kernel

/-- The dot that is left of a dotted capital I is no part of an identifier. -/
theorem not_isIdentifier_of_ofGetter? :
    ¬ ∀ (getter : String) (n : NameForms), ofGetter? getter = some n →
      isIdentifier n.name = true ∧ isIdentifier n.capitalizedName = true ∧
        isIdentifier n.allCapsName = true ∧ isIdentifier n.getterName = true := by
  intro h
  have hdot : dotAbove ∈ "i\u0307d".toList := by decide
  have hpart := isIdentifierPart_of_mem (h _ _ ofGetter?_marked_dotted.2).1 hdot
  rw [not_isIdentifierPart_dotAbove] at hpart
  cases hpart

/-- A marked letter spoils the name in capitals only; a dot spoils all names but the getter. -/
theorem isIdentifier_of_ofGetter?_marked_dotted :
    (∃ n, ofGetter? "getA\u01f0" = some n ∧ isIdentifier n.getterName = true ∧ isIdentifier n.name = true ∧
      isIdentifier n.capitalizedName = true ∧ isIdentifier n.allCapsName = false) ∧
    ∃ n, ofGetter? "is\u0130d" = some n ∧ isIdentifier n.getterName = true ∧ isIdentifier n.name = false ∧
      isIdentifier n.capitalizedName = false ∧ isIdentifier n.allCapsName = false := by
  constructor
  · obtain ⟨hgetter, boolean, stem, hreads, hname, hcapitalized, hcaps⟩ :=
      isIdentifier_of_ofGetter? ofGetter?_marked_dotted.1
    have hspelled : "getA\u01f0" = getterWord false ++ "A\u01f0" := by decide
    obtain ⟨rfl, rfl⟩ := getterWord_append_inj.1 (hspelled.symm.trans hreads.spelled)
    have hdotted : beginsDotted "A\u01f0".toList = false := by decide
    have hmarked : '\u01f0' ∈ "A\u01f0".toList ∧ '\u01f0' ∈ markedLetters := by decide
    refine ⟨_, ofGetter?_marked_dotted.1, hgetter, hname.2 hdotted, hcapitalized.2 hdotted, ?_⟩
    exact Bool.eq_false_iff.2 fun h => (hcaps.1 h).2 _ hmarked.1 hmarked.2
  · obtain ⟨hgetter, boolean, stem, hreads, hname, hcapitalized, hcaps⟩ :=
      isIdentifier_of_ofGetter? ofGetter?_marked_dotted.2
    have hspelled : "is\u0130d" = getterWord true ++ "\u0130d" := by decide
    obtain ⟨rfl, rfl⟩ := getterWord_append_inj.1 (hspelled.symm.trans hreads.spelled)
    have hdotted : ¬ beginsDotted "\u0130d".toList = false := by decide
    exact ⟨_, ofGetter?_marked_dotted.2, hgetter, Bool.eq_false_iff.2 fun h => hdotted (hname.1 h),
      Bool.eq_false_iff.2 fun h => hdotted (hcapitalized.1 h),
      Bool.eq_false_iff.2 fun h => hdotted (hcaps.1 h).1⟩

end NameForms

end BuilderSpec.Naming
