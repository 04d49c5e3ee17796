/-
A text in capitals is the text itself, character by character in upper case, and underscores between some of
the characters. They cut the text into words: no word is empty, so that no underscore is put at the start, at
the end or beside another, and none is put beside an underscore of the text. Without its underscores the text
is in capitals what it is with them, and a text that uses underscores as separators alone goes on doing so.
-/
import BuilderSpec.Proofs.Naming.Words
import BuilderSpec.Proofs.Unicode.CaseForms

namespace BuilderSpec.Naming

open Unicode

/-! ## The words of a text -/

/-- A text cut where an underscore is put: what goes on from the character `before` it, and the words that
begin in it. -/
def cut (before : Option Char) : List Char → List Char × List (List Char)
  | [] => ([], [])
  | c :: rest =>
    if beginsWord before c rest.head? then ([], (c :: (cut (some c) rest).1) :: (cut (some c) rest).2)
    else (c :: (cut (some c) rest).1, (cut (some c) rest).2)

section

variable {before : Option Char} {c : Char} {rest : List Char}

theorem cut_of_beginsWord (h : beginsWord before c rest.head? = true) :
    cut before (c :: rest) = ([], (c :: (cut (some c) rest).1) :: (cut (some c) rest).2) := by
  rw [cut, if_pos h]

theorem cut_of_not_beginsWord (h : beginsWord before c rest.head? = false) :
    cut before (c :: rest) = (c :: (cut (some c) rest).1, (cut (some c) rest).2) := by
  rw [cut, if_neg (Bool.eq_false_iff.1 h)]

end

theorem cut_append_flatten (before : Option Char) (text : List Char) :
    (cut before text).1 ++ (cut before text).2.flatten = text := by
  induction text generalizing before with
  | nil => rfl
  | cons c rest ih =>
    cases h : beginsWord before c rest.head? with
    | true => rw [cut_of_beginsWord h, List.nil_append, List.flatten_cons, List.cons_append, ih]
    | false => rw [cut_of_not_beginsWord h, List.cons_append, ih]

theorem nil_notMem_cut (before : Option Char) (text : List Char) : [] ∉ (cut before text).2 := by
  induction text generalizing before with
  | nil => exact List.not_mem_nil
  | cons c rest ih =>
    cases h : beginsWord before c rest.head? with
    | true =>
      rw [cut_of_beginsWord h, List.mem_cons, not_or]
      exact ⟨(List.cons_ne_nil _ _).symm, ih (some c)⟩
    | false =>
      rw [cut_of_not_beginsWord h]
      exact ih (some c)

/-- In capitals, an underscore stands before each word that begins in the text. -/
theorem allCapsChars_eq_cut (before : Option Char) (text : List Char) :
    allCapsChars before text = (cut before text).1.flatMap upper ++
      (cut before text).2.flatMap fun word => '_' :: word.flatMap upper := by
  induction text generalizing before with
  | nil => rfl
  | cons c rest ih =>
    rw [allCapsChars, ih]
    cases h : beginsWord before c rest.head? with
    | true => simp [cut_of_beginsWord h]
    | false => simp [cut_of_not_beginsWord h]

/-! ## Where words meet -/

/-- An underscore may be put between two words: the text has none there. -/
def Meet (word next : List Char) : Prop :=
  word.getLast? ≠ some '_' ∧ next.head? ≠ some '_'

/-- A word begins at a capital, behind a letter or a digit. -/
theorem not_underscore_of_beginsWord {before after : Option Char} {c : Char}
    (h : beginsWord before c after = true) : before ≠ some '_' ∧ c ≠ '_' := by
  have hunderscore : isUppercase '_' = false ∧ isLowercase '_' = false := by decide
  obtain ⟨hc, hbefore⟩ := Bool.and_eq_true_iff.1 h
  constructor
  · rintro rfl
    simp [hunderscore] at hbefore
  · rintro rfl
    rw [hunderscore.1] at hc
    cases hc

/-- By induction on the text. What goes on from `before` is shown with `before` in front, since the underscore
that ends it may stand directly behind that character. -/
theorem isChain_cut (before : Option Char) (text : List Char) :
    ((before.toList ++ (cut before text).1) :: (cut before text).2).IsChain Meet := by
  induction text generalizing before with
  | nil => exact .singleton _
  | cons c rest ih =>
    cases h : beginsWord before c rest.head? with
    | true =>
      obtain ⟨hbefore, hc⟩ := not_underscore_of_beginsWord h
      rw [cut_of_beginsWord h, List.append_nil]
      refine .cons_cons ⟨?_, ?_⟩ (ih (some c))
      · cases before with
        | none => nofun
        | some b => exact hbefore
      · simpa using hc
    | false =>
      obtain ⟨hfirst, hwords⟩ := List.isChain_cons.1 (ih (some c))
      rw [cut_of_not_beginsWord h]
      refine List.isChain_cons.2 ⟨fun next hnext => ⟨?_, (hfirst next hnext).2⟩, hwords⟩
      rw [List.getLast?_append_cons]
      exact (hfirst next hnext).1

/-- Words between which underscores may be put. -/
structure Separable (words : List (List Char)) : Prop where
  nonempty : [] ∉ words
  meet : words.IsChain Meet

/-- The words of a text as a whole. -/
def words : List Char → List (List Char)
  | [] => []
  | c :: rest => (cut none (c :: rest)).1 :: (cut none (c :: rest)).2

theorem flatten_words (text : List Char) : (words text).flatten = text := by
  cases text with
  | nil => rfl
  | cons c rest => exact cut_append_flatten none (c :: rest)

theorem separable_words (text : List Char) : Separable (words text) := by
  cases text with
  | nil => exact ⟨List.not_mem_nil, .nil⟩
  | cons c rest =>
    refine ⟨?_, isChain_cut none (c :: rest)⟩
    -- Nothing stands before the first word, so that no other begins at its start.
    have hfirst : beginsWord none c rest.head? = false := Bool.and_false _
    rw [words, List.mem_cons, not_or]
    refine ⟨?_, nil_notMem_cut none (c :: rest)⟩
    rw [cut_of_not_beginsWord hfirst]
    exact (List.cons_ne_nil _ _).symm

theorem allCapsChars_eq_intercalate (text : List Char) :
    allCapsChars none text = ['_'].intercalate ((words text).map fun word => word.flatMap upper) := by
  cases text with
  | nil => rfl
  | cons c rest =>
    rw [allCapsChars_eq_cut, words, List.map_cons, intercalate_cons, List.flatMap_map]
    rfl

/-! ## Without the underscores -/

theorem filter_flatMap_upper (text : List Char) :
    (text.flatMap upper).filter (· ≠ '_') = (text.filter (· ≠ '_')).flatMap upper := by
  induction text with
  | nil => rfl
  | cons c rest ih =>
    rw [List.flatMap_cons, List.filter_append, ih]
    by_cases hc : c = '_'
    · subst hc
      rw [upper_underscore]
      rfl
    · have hall : ∀ d ∈ upper c, decide (d ≠ '_') = true := by
        intro d hd
        rw [decide_eq_true_eq]
        rintro rfl
        exact hc (underscore_mem_upper_iff.1 hd)
      rw [List.filter_eq_self.2 hall, List.filter_cons_of_pos (by simpa using hc), List.flatMap_cons]

/-- An underscore that is put is taken away again. -/
theorem filter_allCapsChars (before : Option Char) (text : List Char) :
    (allCapsChars before text).filter (· ≠ '_') = (text.flatMap upper).filter (· ≠ '_') := by
  induction text generalizing before with
  | nil => rfl
  | cons c rest ih =>
    rw [allCapsChars, List.filter_append, List.filter_append, ih, List.flatMap_cons, List.filter_append]
    cases beginsWord before c rest.head? <;> rfl

/-! ## Underscores as separators -/

/-- Not both characters are underscores. -/
def Apart (c d : Char) : Prop :=
  ¬ (c = '_' ∧ d = '_')

instance : DecidableRel Apart := fun c d => inferInstanceAs (Decidable (¬ (c = '_' ∧ d = '_')))

/-- No underscore stands at the start or at the end, and no two stand side by side. -/
structure Tidy (text : List Char) : Prop where
  head : text.head? ≠ some '_'
  last : text.getLast? ≠ some '_'
  apart : text.IsChain Apart

theorem tidy_nil : Tidy [] := ⟨nofun, nofun, .nil⟩

section

variable {text behind : List Char}

theorem Tidy.of_append_left (h : Tidy (text ++ behind)) (hlast : text.getLast? ≠ some '_') : Tidy text := by
  refine ⟨fun hhead => h.head ?_, hlast, (List.isChain_append.1 h.apart).1⟩
  rw [List.head?_append, hhead, Option.some_or]

theorem Tidy.of_append_right (h : Tidy (text ++ behind)) (hhead : behind.head? ≠ some '_') : Tidy behind := by
  refine ⟨hhead, fun hlast => h.last ?_, (List.isChain_append.1 h.apart).2.1⟩
  rw [List.getLast?_append, hlast, Option.some_or]

/-- An underscore may stand between two texts that hold something. -/
theorem Tidy.separate (htext : Tidy text) (hbehind : Tidy behind) (hne : text ≠ []) (hne' : behind ≠ []) :
    Tidy (text ++ ['_'] ++ behind) := by
  refine ⟨?_, ?_, List.isChain_append.2 ⟨List.isChain_append.2 ⟨htext.apart, .singleton _, ?_⟩,
    hbehind.apart, ?_⟩⟩
  · rw [List.append_assoc, List.head?_append_of_ne_nil _ hne]
    exact htext.head
  · rw [List.getLast?_append_of_ne_nil _ hne']
    exact hbehind.last
  · rintro c hc d - ⟨rfl, -⟩
    exact htext.last hc
  · rintro c - d hd ⟨-, rfl⟩
    exact hbehind.head hd

end

theorem Tidy.intercalate {words : List (List Char)} (hne : [] ∉ words) (h : ∀ word ∈ words, Tidy word) :
    Tidy (['_'].intercalate words) := by
  induction words with
  | nil => exact tidy_nil
  | cons word rest ih =>
    obtain ⟨hword, hrest⟩ := List.forall_mem_cons.1 h
    obtain ⟨hwordNe, hrestNe⟩ := not_or.1 (mt List.mem_cons.2 hne)
    cases rest with
    | nil =>
      rw [List.intercalate_singleton]
      exact hword
    | cons next rest =>
      have hnext : ['_'].intercalate (next :: rest) ≠ [] := by
        rw [intercalate_cons]
        exact List.append_ne_nil_of_left_ne_nil (fun heq => hrestNe (heq ▸ List.mem_cons_self)) _
      rw [List.intercalate_cons_cons]
      exact hword.separate (ih hrestNe hrest) (Ne.symm hwordNe) hnext

theorem Separable.tail {word : List Char} {rest : List (List Char)} (h : Separable (word :: rest)) :
    Separable rest :=
  ⟨fun hmem => h.nonempty (List.mem_cons_of_mem _ hmem), h.meet.tail⟩

/-- Of a tidy text, the words between which underscores may be put are tidy. -/
theorem Separable.tidy {words : List (List Char)} (hwords : Separable words) (h : Tidy words.flatten) :
    ∀ word ∈ words, Tidy word := by
  induction words with
  | nil => exact List.forall_mem_nil _
  | cons word rest ih =>
    rw [List.flatten_cons] at h
    cases rest with
    | nil =>
      rw [List.flatten_nil, List.append_nil] at h
      exact List.forall_mem_singleton.2 h
    | cons next rest =>
      obtain ⟨hlast, hhead⟩ := (List.isChain_cons_cons.1 hwords.meet).1
      have hnext : next ≠ [] := fun heq => hwords.nonempty (heq ▸ List.mem_cons_of_mem _ List.mem_cons_self)
      refine List.forall_mem_cons.2 ⟨h.of_append_left hlast, ih hwords.tail (h.of_append_right ?_)⟩
      rwa [List.flatten_cons, List.head?_append_of_ne_nil _ hnext]

/-! ## Underscores in upper case -/

theorem flatMap_upper_eq_nil_iff {text : List Char} : text.flatMap upper = [] ↔ text = [] := by
  constructor
  · intro h
    cases text with
    | nil => rfl
    | cons c rest => exact absurd (List.flatMap_eq_nil_iff.1 h c List.mem_cons_self) (upper_ne_nil c)
  · rintro rfl
    rfl

theorem head?_of_flatMap_upper {text : List Char} (h : (text.flatMap upper).head? = some '_') :
    text.head? = some '_' := by
  cases text with
  | nil => cases h
  | cons c rest =>
    rw [List.flatMap_cons, List.head?_append_of_ne_nil _ (upper_ne_nil c)] at h
    rw [List.head?_cons, underscore_mem_upper_iff.1 (List.mem_of_head? h)]

theorem getLast?_of_flatMap_upper {text : List Char} (h : (text.flatMap upper).getLast? = some '_') :
    text.getLast? = some '_' := by
  rcases List.eq_nil_or_concat text with rfl | ⟨before, c, rfl⟩
  · cases h
  · rw [List.concat_eq_append, List.flatMap_append, List.flatMap_singleton,
      List.getLast?_append_of_ne_nil _ (upper_ne_nil c)] at h
    rw [List.concat_eq_append, List.getLast?_concat, underscore_mem_upper_iff.1 (List.mem_of_getLast? h)]

theorem isChain_upper (c : Char) : (upper c).IsChain Apart := by
  by_cases hc : c = '_'
  · subst hc
    rw [upper_underscore]
    exact .singleton _
  · refine List.Pairwise.isChain (List.pairwise_of_forall_mem_list fun d hd e he => ?_)
    rintro ⟨rfl, -⟩
    exact hc (underscore_mem_upper_iff.1 hd)

theorem isChain_flatMap_upper {text : List Char} (h : text.IsChain Apart) :
    (text.flatMap upper).IsChain Apart := by
  induction text with
  | nil => exact .nil
  | cons c rest ih =>
    obtain ⟨hnext, hrest⟩ := List.isChain_cons.1 h
    rw [List.flatMap_cons]
    refine List.isChain_append.2 ⟨isChain_upper c, ih hrest, ?_⟩
    -- Underscores that meet here in upper case have met in the text.
    rintro d hd e he ⟨rfl, rfl⟩
    exact hnext '_' (head?_of_flatMap_upper he) ⟨underscore_mem_upper_iff.1 (List.mem_of_getLast? hd), rfl⟩

theorem Tidy.flatMap_upper {text : List Char} (h : Tidy text) : Tidy (text.flatMap upper) where
  head hhead := h.head (head?_of_flatMap_upper hhead)
  last hlast := h.last (getLast?_of_flatMap_upper hlast)
  apart := isChain_flatMap_upper h.apart

theorem Tidy.allCapsChars {text : List Char} (h : Tidy text) : Tidy (allCapsChars none text) := by
  have hwords : ∀ word ∈ words text, Tidy word :=
    (separable_words text).tidy ((flatten_words text).symm ▸ h)
  rw [allCapsChars_eq_intercalate]
  refine Tidy.intercalate ?_ (List.forall_mem_map.2 fun word hword => (hwords word hword).flatMap_upper)
  rw [List.mem_map]
  rintro ⟨word, hword, hempty⟩
  exact (separable_words text).nonempty (flatMap_upper_eq_nil_iff.1 hempty ▸ hword)

/-- In capitals a text is itself in upper case with underscores put between some of its characters. The
underscores cut it into words that are not empty and do not meet at an underscore of the text, so that none
stands at the start, at the end or beside another: nothing is lost in upper case, and only an underscore
becomes one. Hence without underscores the text in capitals is the text without underscores in upper case, and
if no underscore stands at the start or at the end of the text or beside another, none does in capitals. -/
theorem allCaps_separates (text : String) :
    (∃ words : List (List Char), words.flatten = text.toList ∧ Separable words ∧
      (allCaps text).toList = ['_'].intercalate (words.map fun word => word.flatMap upper)) ∧
    (∀ c, upper c ≠ [] ∧ ('_' ∈ upper c ↔ c = '_')) ∧
    (allCaps text).toList.filter (· ≠ '_') = (text.toList.flatMap upper).filter (· ≠ '_') ∧
    (allCaps text).toList.filter (· ≠ '_') = (text.toList.filter (· ≠ '_')).flatMap upper ∧
    (Tidy text.toList → Tidy (allCaps text).toList) := by
  have hchars : (allCaps text).toList = allCapsChars none text.toList := String.toList_ofList
  have hfilter := filter_allCapsChars none text.toList
  rw [hchars]
  refine ⟨⟨words text.toList, flatten_words _, separable_words _, allCapsChars_eq_intercalate _⟩,
    fun c => ⟨upper_ne_nil c, underscore_mem_upper_iff⟩, hfilter, ?_, Tidy.allCapsChars⟩
  rw [hfilter, filter_flatMap_upper]

/-- A sharp s becomes two capitals, and the text has an underscore of its own. -/
theorem allCaps_separates_sharpS :
    Tidy "gro\u00dfeURLName_x2Y".toList ∧ Tidy (allCaps "gro\u00dfeURLName_x2Y").toList ∧
      allCaps "gro\u00dfeURLName_x2Y" = "GROSSE_URL_NAME_X2_Y" := by
  have htidy : Tidy "gro\u00dfeURLName_x2Y".toList := ⟨by decide, by decide, by decide⟩
  obtain ⟨-, -, -, -, hpreserved⟩ := allCaps_separates "gro\u00dfeURLName_x2Y"
  exact ⟨htidy, hpreserved htidy, by decide +kernel⟩

end BuilderSpec.Naming
