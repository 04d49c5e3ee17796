/-
The words of a camel-case name. A word in lower case comes first; after it stand capitalized words and
acronyms, of which no two follow each other directly. In capitals the name is its words with underscores
between them: one stands at each place where two words meet, and none inside a word.
-/
import BuilderSpec.Naming.Casing
import BuilderSpec.Proofs.Unicode.Ascii

namespace BuilderSpec.Naming

open Unicode

/-! ## Words -/

/-- A word in lower case: a letter, and then letters and digits. -/
def isLowerWord : List Char → Bool
  | [] => false
  | c :: rest => c.isLower && rest.all fun d => d.isLower || d.isDigit

/-- A capitalized word: a capital and a word in lower case. -/
def isCapitalizedWord : List Char → Bool
  | [] => false
  | c :: rest => c.isUpper && isLowerWord rest

/-- An acronym: two capitals or more. -/
def isAcronym (word : List Char) : Bool :=
  2 ≤ word.length && word.all Char.isUpper

/-- A camel-case name, given by its words. -/
structure CamelCase where
  first : String
  rest : List String
  first_lower : isLowerWord first.toList = true
  rest_word : ∀ word ∈ rest, isCapitalizedWord word.toList = true ∨ isAcronym word.toList = true
  acronyms_apart : rest.IsChain fun word next =>
    ¬ (isAcronym word.toList = true ∧ isAcronym next.toList = true)

namespace CamelCase

def words (n : CamelCase) : List String :=
  n.first :: n.rest

/-- The name itself: its words with nothing between them. -/
def text (n : CamelCase) : String :=
  String.join n.words

end CamelCase

/-! ## Where a word begins -/

theorem not_beginsWord_of_not_isUppercase {c : Char} (h : isUppercase c = false)
    (before after : Option Char) : beginsWord before c after = false := by
  rw [beginsWord, h, Bool.false_and]

/-- Between a capital and what is no letter in lower case, no word begins. -/
theorem not_beginsWord_of_isUpper {b : Char} (hb : b.isUpper = true) (c : Char) {after : Option Char}
    (ha : ∀ a ∈ after, isLowercase a = false) : beginsWord (some b) c after = false := by
  have hafter : after.any isLowercase = false := by
    cases after with
    | none => rfl
    | some a => exact ha a rfl
  simp [beginsWord, not_isLowercase_of_isUpper hb, not_isDigit_of_isUpper hb, hafter]

/-- A capital begins a word after a letter in lower case and after a digit. -/
theorem beginsWord_of_lower_before {b c : Char} (hb : b.isLower = true ∨ b.isDigit = true)
    (hc : c.isUpper = true) (after : Option Char) : beginsWord (some b) c after = true := by
  rw [beginsWord, isUppercase_of_isUpper hc]
  rcases hb with hb | hb
  · simp [isLowercase_of_isLower hb]
  · simp [hb]

/-- A capital begins a word between a capital and a letter in lower case. -/
theorem beginsWord_of_lower_after {b c a : Char} (hb : b.isUpper = true) (hc : c.isUpper = true)
    (ha : a.isLower = true) : beginsWord (some b) c (some a) = true := by
  simp [beginsWord, isUppercase_of_isUpper hb, isUppercase_of_isUpper hc, isLowercase_of_isLower ha]

/-! ## Inside a word -/

theorem getLast?_cons_or (c : Char) (rest : List Char) (before : Option Char) :
    (c :: rest).getLast?.or before = rest.getLast?.or (some c) := by
  rw [List.getLast?_cons]
  cases rest.getLast? <;> rfl

/-- No underscore is put into a text without capitals. -/
theorem allCapsChars_append_of_not_isUppercase {text : List Char}
    (h : ∀ c ∈ text, isUppercase c = false) (before : Option Char) (behind : List Char) :
    allCapsChars before (text ++ behind) =
      text.flatMap upper ++ allCapsChars (text.getLast?.or before) behind := by
  induction text generalizing before with
  | nil => rfl
  | cons c rest ih =>
    rw [List.cons_append, allCapsChars, not_beginsWord_of_not_isUppercase (h c List.mem_cons_self),
      ih fun d hd => h d (List.mem_cons_of_mem c hd), getLast?_cons_or]
    simp

/-- No underscore is put between capitals, unless a letter in lower case stands behind them. -/
theorem allCapsChars_append_of_isUpper {text behind : List Char} (h : ∀ c ∈ text, c.isUpper = true)
    (hbehind : ∀ a ∈ behind.head?, isLowercase a = false) {b : Char} (hb : b.isUpper = true) :
    allCapsChars (some b) (text ++ behind) =
      text.flatMap upper ++ allCapsChars (text.getLast?.or (some b)) behind := by
  induction text generalizing b with
  | nil => rfl
  | cons c rest ih =>
    have hrest : ∀ d ∈ rest, d.isUpper = true := fun d hd => h d (List.mem_cons_of_mem c hd)
    -- The look ahead meets another capital, or at the end of the text what is behind it.
    have hafter : ∀ a ∈ (rest ++ behind).head?, isLowercase a = false := by
      cases rest with
      | nil => exact hbehind
      | cons d rest =>
        rintro a ⟨⟩
        exact not_isLowercase_of_isUpper (hrest d List.mem_cons_self)
    rw [List.cons_append, allCapsChars, not_beginsWord_of_isUpper hb c hafter,
      ih hrest (h c List.mem_cons_self), getLast?_cons_or]
    simp

/-! ## A word behind another -/

section

variable {word : List Char}

theorem isLower_or_isDigit_of_mem (h : isLowerWord word = true) :
    ∀ c ∈ word, c.isLower = true ∨ c.isDigit = true := by
  cases word with
  | nil => cases h
  | cons c rest =>
    simp only [isLowerWord, Bool.and_eq_true, List.all_eq_true, Bool.or_eq_true] at h
    intro d hd
    rcases List.mem_cons.1 hd with rfl | hd
    · exact .inl h.1
    · exact h.2 d hd

theorem not_isUppercase_of_mem (h : isLowerWord word = true) : ∀ c ∈ word, isUppercase c = false :=
  fun c hc => (isLower_or_isDigit_of_mem h c hc).elim not_isUppercase_of_isLower not_isUppercase_of_isDigit

theorem isAscii_of_mem (h : isLowerWord word = true) : ∀ c ∈ word, isAscii c = true :=
  fun c hc => (isLower_or_isDigit_of_mem h c hc).elim isAscii_of_isLower isAscii_of_isDigit

theorem exists_getLast?_of_forall {p : Char → Prop} (hne : word ≠ []) (h : ∀ c ∈ word, p c) :
    ∃ last, word.getLast? = some last ∧ p last :=
  ⟨_, List.getLast?_eq_some_getLast hne, h _ (List.getLast_mem hne)⟩

theorem exists_getLast?_of_isLowerWord (h : isLowerWord word = true) :
    ∃ last, word.getLast? = some last ∧ (last.isLower = true ∨ last.isDigit = true) := by
  have hne : word ≠ [] := by
    rintro rfl
    cases h
  exact exists_getLast?_of_forall hne (isLower_or_isDigit_of_mem h)

theorem exists_cons_of_isCapitalizedWord (h : isCapitalizedWord word = true) :
    ∃ c rest, word = c :: rest ∧ c.isUpper = true ∧ isLowerWord rest = true := by
  cases word with
  | nil => cases h
  | cons c rest => exact ⟨c, rest, rfl, Bool.and_eq_true_iff.1 h⟩

theorem exists_cons_of_isAcronym (h : isAcronym word = true) :
    ∃ c rest, word = c :: rest ∧ c.isUpper = true ∧ ∀ d ∈ rest, d.isUpper = true := by
  simp only [isAcronym, Bool.and_eq_true, decide_eq_true_eq, List.all_eq_true] at h
  cases word with
  | nil => cases h.1
  | cons c rest => exact ⟨c, rest, rfl, h.2 c List.mem_cons_self, fun d hd => h.2 d (List.mem_cons_of_mem c hd)⟩

theorem exists_getLast?_of_isCapitalizedWord (h : isCapitalizedWord word = true) :
    ∃ last, word.getLast? = some last ∧ (last.isLower = true ∨ last.isDigit = true) := by
  obtain ⟨c, rest, rfl, -, hrest⟩ := exists_cons_of_isCapitalizedWord h
  obtain ⟨last, hlast, hlow⟩ := exists_getLast?_of_isLowerWord hrest
  exact ⟨last, by rw [List.getLast?_cons, hlast, Option.getD_some], hlow⟩

theorem exists_getLast?_of_isAcronym (h : isAcronym word = true) :
    ∃ last, word.getLast? = some last ∧ last.isUpper = true := by
  obtain ⟨c, rest, rfl, hc, hrest⟩ := exists_cons_of_isAcronym h
  exact exists_getLast?_of_forall (List.cons_ne_nil c rest) (List.forall_mem_cons.2 ⟨hc, hrest⟩)

/-- A capitalized word gets an underscore, whatever word it stands behind. -/
theorem allCapsChars_capitalizedWord (h : isCapitalizedWord word = true) {b : Char}
    (hb : (b.isLower = true ∨ b.isDigit = true) ∨ b.isUpper = true) (behind : List Char) :
    allCapsChars (some b) (word ++ behind) =
      '_' :: word.map Char.toUpper ++ allCapsChars word.getLast? behind := by
  obtain ⟨c, rest, rfl, hc, hrest⟩ := exists_cons_of_isCapitalizedWord h
  have hbegins : beginsWord (some b) c (rest ++ behind).head? = true := by
    rcases hb with hb | hb
    · exact beginsWord_of_lower_before hb hc _
    · cases rest with
      | nil => cases hrest
      | cons a rest => exact beginsWord_of_lower_after hb hc (Bool.and_eq_true_iff.1 hrest).1
  have hlast := getLast?_cons_or c rest none
  rw [Option.or_none] at hlast
  rw [List.cons_append, allCapsChars, hbegins, upper_of_isAscii (isAscii_of_isUpper hc),
    allCapsChars_append_of_not_isUppercase (not_isUppercase_of_mem hrest),
    flatMap_upper (isAscii_of_mem hrest), hlast]
  simp

/-- An acronym gets an underscore behind a letter in lower case or a digit, and its last capital gets none
when another capital follows. -/
theorem allCapsChars_acronym (h : isAcronym word = true) {b : Char}
    (hb : b.isLower = true ∨ b.isDigit = true) {behind : List Char}
    (hbehind : ∀ a ∈ behind.head?, isLowercase a = false) :
    allCapsChars (some b) (word ++ behind) =
      '_' :: word.map Char.toUpper ++ allCapsChars word.getLast? behind := by
  obtain ⟨c, rest, rfl, hc, hrest⟩ := exists_cons_of_isAcronym h
  have hlast := getLast?_cons_or c rest none
  rw [Option.or_none] at hlast
  rw [List.cons_append, allCapsChars, beginsWord_of_lower_before hb hc,
    upper_of_isAscii (isAscii_of_isUpper hc), allCapsChars_append_of_isUpper hrest hbehind hc,
    flatMap_upper fun d hd => isAscii_of_isUpper (hrest d hd), hlast]
  simp

end

/-! ## All words -/

theorem isUpper_of_mem_head?_flatten {words : List (List Char)}
    (h : ∀ word ∈ words, isCapitalizedWord word = true ∨ isAcronym word = true) :
    ∀ c ∈ words.flatten.head?, c.isUpper = true := by
  cases words with
  | nil => simp
  | cons word words =>
    rcases h word List.mem_cons_self with hword | hword
    · obtain ⟨c, rest, rfl, hc, -⟩ := exists_cons_of_isCapitalizedWord hword
      rintro d ⟨⟩
      exact hc
    · obtain ⟨c, rest, rfl, hc, -⟩ := exists_cons_of_isAcronym hword
      rintro d ⟨⟩
      exact hc

/-- Each word gets an underscore in front, given that behind a capital no acronym comes. The character
before the words is the last one of the word before, and so tells which kind of word that was. -/
theorem allCapsChars_flatten {words : List (List Char)}
    (hwords : ∀ word ∈ words, isCapitalizedWord word = true ∨ isAcronym word = true)
    (happart : words.IsChain fun word next => ¬ (isAcronym word = true ∧ isAcronym next = true)) {b : Char}
    (hb : (b.isLower = true ∨ b.isDigit = true) ∨
      b.isUpper = true ∧ ∀ word ∈ words.head?, isCapitalizedWord word = true) :
    allCapsChars (some b) words.flatten = words.flatMap fun word => '_' :: word.map Char.toUpper := by
  induction words generalizing b with
  | nil => rfl
  | cons word words ih =>
    obtain ⟨hnext, htail⟩ := List.isChain_cons.1 happart
    have hrest : ∀ next ∈ words, isCapitalizedWord next = true ∨ isAcronym next = true :=
      fun next hmem => hwords next (List.mem_cons_of_mem word hmem)
    rw [List.flatten_cons, List.flatMap_cons]
    by_cases hcap : isCapitalizedWord word = true
    · obtain ⟨last, hlast, hlow⟩ := exists_getLast?_of_isCapitalizedWord hcap
      rw [allCapsChars_capitalizedWord hcap (hb.imp_right And.left), hlast, ih hrest htail (.inl hlow)]
    · -- No capital is before an acronym, and a capital or nothing is behind it.
      have hacr : isAcronym word = true := (hwords word List.mem_cons_self).resolve_left hcap
      have hlow : b.isLower = true ∨ b.isDigit = true :=
        hb.resolve_right fun h => hcap (h.2 word rfl)
      have hbehind : ∀ a ∈ words.flatten.head?, isLowercase a = false := fun a ha =>
        not_isLowercase_of_isUpper (isUpper_of_mem_head?_flatten hrest a ha)
      obtain ⟨last, hlast, hcapital⟩ := exists_getLast?_of_isAcronym hacr
      have hnextCap : ∀ next ∈ words.head?, isCapitalizedWord next = true := fun next hmem =>
        (hrest next (List.mem_of_mem_head? hmem)).resolve_right fun h => hnext next hmem ⟨hacr, h⟩
      rw [allCapsChars_acronym hacr hlow hbehind, hlast, ih hrest htail (.inr ⟨hcapital, hnextCap⟩)]

theorem intercalate_cons (sep first : List Char) (rest : List (List Char)) :
    sep.intercalate (first :: rest) = first ++ rest.flatMap (sep ++ ·) := by
  induction rest generalizing first with
  | nil => simp
  | cons next rest ih =>
    rw [List.intercalate_cons_cons, ih, List.flatMap_cons, List.append_assoc, List.append_assoc]

namespace CamelCase

/-- In capitals a camel-case name is its words, each in capitals, with an underscore between each and the
next. -/
theorem allCaps_text (n : CamelCase) : allCaps n.text = "_".intercalate (n.words.map String.toUpper) := by
  obtain ⟨last, hlast, hlow⟩ := exists_getLast?_of_isLowerWord n.first_lower
  have hwords : ∀ word ∈ n.rest.map String.toList, isCapitalizedWord word = true ∨ isAcronym word = true := by
    intro word hmem
    obtain ⟨text, htext, rfl⟩ := List.mem_map.1 hmem
    exact n.rest_word text htext
  have hrest := allCapsChars_flatten hwords ((List.isChain_map _).2 n.acronyms_apart) (.inl hlow)
  have hfirst := allCapsChars_append_of_not_isUppercase (not_isUppercase_of_mem n.first_lower) none
    (n.rest.map String.toList).flatten
  rw [flatMap_upper (isAscii_of_mem n.first_lower), hlast, Option.some_or, hrest] at hfirst
  apply String.toList_inj.1
  rw [allCaps, String.toList_ofList, text, words, String.toList_join, List.flatMap_cons, List.flatMap_def, hfirst,
    String.toList_intercalate, List.map_cons, List.map_cons, intercalate_cons]
  simp [String.toUpper, List.flatMap_map]

/-- An acronym stands here behind a digit, before a capitalized word and at the end. -/
theorem allCaps_text_my2URLPropertyLine9ID :
    ∃ n : CamelCase, n.words = ["my2", "URL", "Property", "Line9", "ID"] ∧
      n.text = "my2URLPropertyLine9ID" ∧ allCaps n.text = "MY2_URL_PROPERTY_LINE9_ID" := by
  refine ⟨⟨"my2", ["URL", "Property", "Line9", "ID"], by decide, by decide, by decide⟩, rfl, by decide, ?_⟩
  rw [allCaps_text]
  cbv

end CamelCase

end BuilderSpec.Naming
