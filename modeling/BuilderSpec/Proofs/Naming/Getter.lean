/-
Getters and the names of properties. A getter is read in one way at most: as the word `get` or `is` with a
stem behind it, which is an identifier that begins in upper case. The names found in a getter are those of
the property it belongs to exactly when capitalizing the property's name gives the stem back, and over ASCII
it is decided by a name's first two characters whether its getter leads back to it.
-/
import BuilderSpec.Naming.NameForms
import BuilderSpec.Proofs.Unicode.Ascii

namespace BuilderSpec.Naming

open Unicode

/-! ## The two words -/

/-- The words begin differently, so that a getter has one of them and one stem. -/
theorem getterWord_chars_append_inj {boolean boolean' : Bool} {stem stem' : List Char} :
    (getterWord boolean).toList ++ stem = (getterWord boolean').toList ++ stem' ↔
      boolean = boolean' ∧ stem = stem' := by
  constructor
  · intro h
    have hword : boolean = boolean' := by
      have hfirst := congrArg List.head? h
      cases boolean <;> cases boolean' <;> first | rfl | (simp [getterWord] at hfirst)
    subst hword
    exact ⟨rfl, List.append_cancel_left h⟩
  · rintro ⟨rfl, rfl⟩
    rfl

theorem getterWord_append_inj {boolean boolean' : Bool} {stem stem' : String} :
    getterWord boolean ++ stem = getterWord boolean' ++ stem' ↔ boolean = boolean' ∧ stem = stem' := by
  rw [← String.toList_inj, String.toList_append, String.toList_append, getterWord_chars_append_inj,
    String.toList_inj]

namespace NameForms

theorem getterStem?_eq_some_iff {getter stem : List Char} :
    getterStem? getter = some stem ↔ ∃ boolean, getter = (getterWord boolean).toList ++ stem := by
  unfold getterStem?
  cases hget : (getterWord false).toList.isPrefixOf? getter with
  | some found =>
    rw [← List.isPrefixOf?_eq_some_iff_append_eq.1 hget]
    simp only [getterWord_chars_append_inj, exists_eq_left', Option.some.injEq]
  | none =>
    -- The getter does not begin with `get`, so that only `is` is left.
    simp only [List.isPrefixOf?_eq_some_iff_append_eq]
    constructor
    · intro h
      exact ⟨true, h.symm⟩
    · rintro ⟨boolean, rfl⟩
      cases boolean with
      | true => rfl
      | false =>
        rw [List.isPrefixOf?_eq_some_iff_append_eq.2 rfl] at hget
        cases hget

/-! ## How a getter is read -/

/-- `getter` reads a property whose kind and stem are these. -/
structure Reads (getter : String) (boolean : Bool) (stem : String) : Prop where
  spelled : getter = getterWord boolean ++ stem
  identifier : isIdentifier stem = true
  upper : ∃ first, stem.toList.head? = some first ∧ isUppercase first = true

/-- There are names exactly where the getter can be read. They are those of the decapitalized stem, the
getter apart, which stays as it is. -/
theorem ofGetter?_eq_some_iff {getter : String} {n : NameForms} :
    ofGetter? getter = some n ↔ ∃ boolean stem, Reads getter boolean stem ∧
      n = { ofName (decapitalize stem) boolean with getterName := getter } := by
  unfold ofGetter?
  cases hstem : getterStem? getter.toList with
  | none =>
    constructor
    · intro h
      cases h
    · rintro ⟨boolean, stem, hreads, -⟩
      rw [getterStem?_eq_some_iff.2 ⟨boolean, by rw [hreads.spelled, String.toList_append]⟩] at hstem
      cases hstem
  | some stem =>
    obtain ⟨boolean, hgetter⟩ := getterStem?_eq_some_iff.1 hstem
    have hspelled : getter = getterWord boolean ++ String.ofList stem := by
      rw [← String.toList_inj, hgetter, String.toList_append, String.toList_ofList]
    have hreads : Reads getter boolean (.ofList stem) ↔
        (stem.head?.any isUppercase && isIdentifierChars stem) = true := by
      rw [Bool.and_eq_true, Option.any_eq_true]
      constructor
      · rintro ⟨-, hid, hupper⟩
        rw [isIdentifier, String.toList_ofList] at hid
        rw [String.toList_ofList] at hupper
        exact ⟨hupper, hid⟩
      · rintro ⟨hupper, hid⟩
        exact ⟨hspelled, by rwa [isIdentifier, String.toList_ofList], by rwa [String.toList_ofList]⟩
    constructor
    · intro h
      by_cases hcond : (stem.head?.any isUppercase && isIdentifierChars stem) = true
      · simp only [if_pos hcond] at h
        exact ⟨boolean, .ofList stem, hreads.2 hcond, (Option.some.inj h).symm⟩
      · simp only [if_neg hcond] at h
        cases h
    · rintro ⟨boolean', stem', hreads', rfl⟩
      obtain ⟨rfl, rfl⟩ := getterWord_append_inj.1 (hspelled.symm.trans hreads'.spelled)
      simp only [if_pos (hreads.1 hreads')]
      rfl

/-- A getter that has names and is spelled so, is read so. -/
theorem Reads.of_spelled {getter : String} {n : NameForms} (h : ofGetter? getter = some n) {boolean : Bool}
    {stem : String} (hspelled : getter = getterWord boolean ++ stem) :
    Reads getter boolean stem ∧ n = { ofName (decapitalize stem) boolean with getterName := getter } := by
  obtain ⟨boolean', stem', hreads, hn⟩ := ofGetter?_eq_some_iff.1 h
  obtain ⟨rfl, rfl⟩ := getterWord_append_inj.1 (hspelled.symm.trans hreads.spelled)
  exact ⟨hreads, hn⟩

/-! ## The two ways to find names -/

/-- Names that follow from a getter follow from the property's name too, when the getter is the one that
reads a property of this name. -/
theorem eq_ofName_iff {getter : String} {n : NameForms} (h : ofGetter? getter = some n) (boolean : Bool) :
    n = ofName n.name boolean ↔ getter = Naming.getterName n.name boolean := by
  obtain ⟨_, stem, -, rfl⟩ := ofGetter?_eq_some_iff.1 h
  simp [ofName]

theorem capitalizeChars_decapitalizeChars {first : Char} (h : first.isUpper = true) (rest : List Char) :
    capitalizeChars (decapitalizeChars (first :: rest)) = first :: rest := by
  have hupper : first.toUpper = first :=
    Char.toUpper_eq_of_not_isLower (Char.not_isLower_of_isUpper h)
  have hascii := isAscii_of_isUpper h
  rw [decapitalizeChars]
  split
  · rw [capitalizeChars, upper_of_isAscii hascii, hupper, List.singleton_append]
  · have hlower : isAscii first.toLower = true := isAscii_of_isAlpha (by simp [Char.isAlpha, h])
    rw [lower_of_isAscii hascii, List.singleton_append, capitalizeChars, upper_of_isAscii hlower,
      Char.toUpper_toLower_eq_toUpper, hupper, List.singleton_append]

/-- The getters that have names are those that can be read. The property's name is the decapitalized stem, and
the names are those that follow from it, with the getter for its own. They are just those that follow from it
when the property is of the kind that the getter's word tells and capitalizing its name gives the stem, as it
does for a stem that begins in ASCII. -/
theorem ofGetter?_decides (getter : String) :
    ((∃ n, ofGetter? getter = some n) ↔ ∃ boolean stem, Reads getter boolean stem) ∧
    ∀ n, ofGetter? getter = some n → ∀ word stem, getter = getterWord word ++ stem →
      n = { ofName (decapitalize stem) word with getterName := getter } ∧
      (∀ boolean, n = ofName n.name boolean ↔ boolean = word ∧ capitalize n.name = stem) ∧
      ((∃ first, stem.toList.head? = some first ∧ first.isAlpha = true) → capitalize n.name = stem) := by
  refine ⟨⟨?_, ?_⟩, ?_⟩
  · rintro ⟨n, hn⟩
    obtain ⟨boolean, stem, hreads, -⟩ := ofGetter?_eq_some_iff.1 hn
    exact ⟨boolean, stem, hreads⟩
  · rintro ⟨boolean, stem, hreads⟩
    exact ⟨_, ofGetter?_eq_some_iff.2 ⟨boolean, stem, hreads, rfl⟩⟩
  · intro n hn word stem hspelled
    refine ⟨(Reads.of_spelled hn hspelled).2, ?_, ?_⟩
    · intro boolean
      rw [eq_ofName_iff hn, hspelled, Naming.getterName, getterWord_append_inj]
      exact and_congr eq_comm eq_comm
    · rintro ⟨first, hfirst, halpha⟩
      obtain ⟨hreads, rfl⟩ := Reads.of_spelled hn hspelled
      obtain ⟨first', hfirst', hupper⟩ := hreads.upper
      cases hfirst.symm.trans hfirst'
      obtain ⟨rest, hstem⟩ := List.head?_eq_some_iff.1 hfirst
      have hcapital := isUpper_of_isUppercase hupper (isAscii_of_isAlpha halpha)
      change capitalize (decapitalize stem) = stem
      rw [← String.toList_inj, capitalize, decapitalize, String.toList_ofList, String.toList_ofList, hstem,
        capitalizeChars_decapitalizeChars hcapital]

/-- The Greek capital theta for symbols has a lower-case form, but is not the upper-case form of it. An acronym
stays what it is. -/
theorem ofGetter?_decides_theta_URL :
    (∃ n, ofGetter? "get\u03f4" = some n ∧ n.name = "\u03b8" ∧ ∀ boolean, n ≠ ofName n.name boolean) ∧
    ∃ n, ofGetter? "isURL" = some n ∧ n.name = "URL" ∧
      ∀ boolean, n = ofName n.name boolean ↔ boolean = true := by
  have htheta : ofGetter? "get\u03f4" = some ⟨"\u03b8", "\u0398", "\u0398", "get\u03f4"⟩ := by
    decide +kernel
  have hURL : ofGetter? "isURL" = some ⟨"URL", "URL", "URL", "isURL"⟩ := by decide +kernel
  constructor
  · obtain ⟨-, hagree, -⟩ := (ofGetter?_decides "get\u03f4").2 _ htheta false "\u03f4" rfl
    refine ⟨_, htheta, rfl, fun boolean h => ?_⟩
    exact absurd ((hagree boolean).1 h).2 (by decide +kernel)
  · obtain ⟨-, hagree, hascii⟩ := (ofGetter?_decides "isURL").2 _ hURL true "URL" rfl
    refine ⟨_, hURL, rfl, fun boolean => (hagree boolean).trans (and_iff_left ?_)⟩
    exact hascii ⟨'U', rfl, by decide⟩

/-! ## From a name to its getter and back -/

/-- A getter leads back to the name it was made of when capitalizing the name gives a stem, of which the name
is what decapitalizing makes. -/
theorem ofGetter?_getterName_eq_ofName_iff (name : String) (boolean : Bool) :
    ofGetter? (Naming.getterName name boolean) = some (ofName name boolean) ↔
      isIdentifier (capitalize name) = true ∧
        (∃ first, (capitalize name).toList.head? = some first ∧ isUppercase first = true) ∧
        decapitalize (capitalize name) = name := by
  constructor
  · intro h
    obtain ⟨hreads, hn⟩ := Reads.of_spelled h rfl
    exact ⟨hreads.identifier, hreads.upper, (congrArg NameForms.name hn).symm⟩
  · rintro ⟨hid, hupper, hname⟩
    refine ofGetter?_eq_some_iff.2 ⟨boolean, capitalize name, ⟨rfl, hid, hupper⟩, ?_⟩
    rw [hname]
    rfl

/-- Names that begin as a getter can give them back: with a letter in lower case and no capital after it, or
with two capitals. -/
def isReadBack : List Char → Bool
  | [] => false
  | first :: rest =>
    first.isLower && !rest.head?.any Char.isUpper || first.isUpper && rest.head?.any Char.isUpper

section

variable {c : Char}

theorem toUpper_eq_self_iff (h : c.isAlpha = true) : c.toUpper = c ↔ c.isUpper = true := by
  constructor
  · intro heq
    rw [← heq, Char.isUpper_toUpper_eq_isAlpha, h]
  · intro hupper
    exact Char.toUpper_eq_of_not_isLower (Char.not_isLower_of_isUpper hupper)

theorem toLower_eq_self_iff (h : c.isAlpha = true) : c.toLower = c ↔ c.isLower = true := by
  constructor
  · intro heq
    rw [← heq, Char.isLower_toLower_eq_isAlpha, h]
  · intro hlower
    exact Char.toLower_eq_of_not_isUpper (Char.not_isUpper_of_isLower hlower)

theorem isIdentifierStart_toUpper (h : isAscii c = true) : isIdentifierStart c.toUpper = isIdentifierStart c :=
  beq_iff_eq.1 (forall_isAscii (p := fun c => isIdentifierStart c.toUpper == isIdentifierStart c) (by decide) h)

end

/-- Over ASCII, decapitalizing undoes capitalizing a name that begins with a letter exactly when its first two
characters allow it. -/
theorem decapitalizeChars_capitalizeChars_eq_self_iff {first : Char} {rest : List Char}
    (h : ∀ c ∈ first :: rest, isAscii c = true) (halpha : first.isAlpha = true) :
    decapitalizeChars (capitalizeChars (first :: rest)) = first :: rest ↔
      isReadBack (first :: rest) = true := by
  have hfirst := h first List.mem_cons_self
  have hupper : isUppercase first.toUpper = true :=
    isUppercase_of_isUpper (by rw [Char.isUpper_toUpper_eq_isAlpha, halpha])
  have hsecond : rest.head?.any isUppercase = rest.head?.any Char.isUpper := by
    cases rest with
    | nil => rfl
    | cons second rest =>
      exact isUppercase_of_isAscii (h second (List.mem_cons_of_mem first List.mem_cons_self))
  -- Before a second capital the first stays; otherwise it goes back to lower case.
  rw [capitalizeChars, upper_of_isAscii hfirst, List.singleton_append, decapitalizeChars, hupper, hsecond,
    isReadBack]
  cases rest.head?.any Char.isUpper with
  | true => simp [toUpper_eq_self_iff halpha]
  | false => simp [lower_of_isAscii (isAscii_toUpper hfirst), toLower_eq_self_iff halpha]

/-- Over ASCII, the getter of a property leads back to all its names exactly when the name is an identifier
and begins as a getter can give it back. -/
theorem ofGetter?_getterName_of_isAscii {name : String} (h : ∀ c ∈ name.toList, isAscii c = true)
    (boolean : Bool) :
    ofGetter? (Naming.getterName name boolean) = some (ofName name boolean) ↔
      isIdentifier name = true ∧ isReadBack name.toList = true := by
  rw [ofGetter?_getterName_eq_ofName_iff, ← String.toList_inj, decapitalize, capitalize, String.toList_ofList,
    String.toList_ofList, isIdentifier, String.toList_ofList, isIdentifier]
  cases hname : name.toList with
  | nil => simp [capitalizeChars, isIdentifierChars]
  | cons first rest =>
    rw [hname] at h
    have hfirst := h first List.mem_cons_self
    have hid : isIdentifierChars (capitalizeChars (first :: rest)) = isIdentifierChars (first :: rest) := by
      rw [capitalizeChars, upper_of_isAscii hfirst, List.singleton_append, isIdentifierChars, isIdentifierChars,
        isIdentifierStart_toUpper hfirst]
    have hhead : (∃ c, (capitalizeChars (first :: rest)).head? = some c ∧ isUppercase c = true) ↔
        first.isAlpha = true := by
      rw [capitalizeChars, upper_of_isAscii hfirst, List.singleton_append]
      simp [isUppercase_of_isAscii (isAscii_toUpper hfirst)]
    rw [hid, hhead]
    by_cases halpha : first.isAlpha = true
    · simp [halpha, decapitalizeChars_capitalizeChars_eq_self_iff h halpha]
    · have hback : isReadBack (first :: rest) = false := by
        simp only [Char.isAlpha, Bool.or_eq_true, not_or, Bool.not_eq_true] at halpha
        simp [isReadBack, halpha.1, halpha.2]
      simp [halpha, hback]

/-- An acronym is given back, and a single letter in lower case with a capital after it is not. -/
theorem ofGetter?_getterName_URL_xAxis :
    ofGetter? (Naming.getterName "URL" true) = some (ofName "URL" true) ∧
      ofGetter? (Naming.getterName "xAxis" false) ≠ some (ofName "xAxis" false) := by
  have hURL : ∀ c ∈ "URL".toList, isAscii c = true := List.all_eq_true.1 (by decide)
  have hxAxis : ∀ c ∈ "xAxis".toList, isAscii c = true := List.all_eq_true.1 (by decide)
  constructor
  · exact (ofGetter?_getterName_of_isAscii hURL true).2 (by decide)
  · intro h
    exact absurd ((ofGetter?_getterName_of_isAscii hxAxis false).1 h).2 (by decide)

end NameForms

end BuilderSpec.Naming
