/-
What becomes of letters in upper and in lower case. Nearly all their case forms are letters again. The
exceptions are written out: letters in lower case with a mark that no capital has, whose upper-case form is a
capital and the mark, and the dotted capital I, whose lower-case form is an i and a dot.
-/
import BuilderSpec.Naming.Identifier
import BuilderSpec.Proofs.Unicode.Ascii

namespace BuilderSpec.Unicode

open Naming

/-! ## Sets as numbers -/

namespace CodeSet

/-- The set as a number, with a binary digit for each point. A digit is read at once, where the bounds are
gone through one by one, so that what concerns thousands of points can be decided. -/
def bits (s : CodeSet) : Nat :=
  s.bounds.foldr (fun b digits => (2 ^ b - 1) ^^^ digits) 0

theorem testBit_foldr (bounds : List Nat) (n : Nat) :
    (bounds.foldr (fun b digits => (2 ^ b - 1) ^^^ digits) 0).testBit n =
      (bounds.countP (n < ·) % 2 == 1) := by
  induction bounds with
  | nil => simp
  | cons b bounds ih =>
    rw [List.foldr_cons, Nat.testBit_xor, Nat.testBit_two_pow_sub_one, ih, List.countP_cons]
    by_cases hb : n < b
    · rcases Nat.mod_two_eq_zero_or_one (bounds.countP (n < ·)) with h | h <;>
        simp [hb, h, Nat.add_mod]
    · simp [hb]

/-- The digits count the bounds above a point. With an even number of bounds, these are odd in number when
those up to the point are. -/
theorem testBit_bits {s : CodeSet} (heven : s.bounds.length % 2 = 0) (n : Nat) :
    s.bits.testBit n = s.contains n := by
  have hsplit := List.length_eq_countP_add_countP (· ≤ n) (l := s.bounds)
  have habove : s.bounds.countP (fun b => !decide (b ≤ n)) = s.bounds.countP (n < ·) :=
    List.countP_congr fun b _ => by simp
  have hparity : s.bounds.countP (n < ·) % 2 = s.bounds.countP (· ≤ n) % 2 := by
    simp only [Bool.not_eq_true, decide_eq_false_iff_not, Nat.not_le] at hsplit
    omega
  rw [bits, testBit_foldr, contains, hparity]

end CodeSet

/-- `isAlphabetic`, decided by digits. -/
def alphabeticDigit (c : Char) : Bool :=
  if isAscii c then c.isAlpha else alphabeticSet.bits.testBit c.toNat

/-- `isUppercase`, decided by digits. -/
def uppercaseDigit (c : Char) : Bool :=
  if isAscii c then c.isUpper else uppercaseSet.bits.testBit c.toNat

/-! ## What a mapping makes of a point -/

/-- The images of the points that the run covers. -/
def CaseRun.images (r : CaseRun) : List Nat :=
  (List.range ((r.last - r.first) / r.step + 1)).map fun k => r.target + k * r.step

theorem CaseRun.image_mem_images {r : CaseRun} {n : Nat} (h : r.covers n = true) : r.image n ∈ r.images := by
  simp only [covers, Bool.and_eq_true, decide_eq_true_eq, beq_iff_eq] at h
  obtain ⟨⟨hfirst, hlast⟩, hstep⟩ := h
  refine List.mem_map.2 ⟨(n - r.first) / r.step, List.mem_range.2 ?_, ?_⟩
  · exact Nat.lt_succ_of_le (Nat.div_le_div_right (Nat.sub_le_sub_right hlast r.first))
  · rw [Nat.div_mul_cancel (Nat.dvd_of_mod_eq_zero hstep), image]

/-- A point becomes several, or an image of a run, or stays. -/
theorem CaseMap.apply_cases (m : CaseMap) (n : Nat) :
    (n, m.apply n) ∈ m.expansions ∨ (∃ r ∈ m.runs, ∃ image ∈ r.images, m.apply n = [image]) ∨
      m.apply n = [n] := by
  unfold apply
  split
  · rename_i image hlookup
    obtain ⟨before, behind, hexpansions, -⟩ := List.lookup_eq_some_iff.1 hlookup
    exact .inl (hexpansions ▸ List.mem_append_right before List.mem_cons_self)
  · split
    · rename_i run hrun
      exact .inr (.inl ⟨run, List.mem_of_find?_eq_some hrun, _,
        CaseRun.image_mem_images (List.find?_some (p := fun r : CaseRun => r.covers n) hrun), rfl⟩)
    · exact .inr (.inr rfl)

/-! ## The exceptions -/

/-- Letters in lower case with a mark that no capital has. In upper case the mark is a character of its own,
and no letter. -/
def markedLetters : List Char := [
  '\u01f0', '\u0390', '\u03b0', '\u1e96', '\u1e97', '\u1e98', '\u1e99', '\u1f50', '\u1f52', '\u1f54',
  '\u1f56', '\u1fb6', '\u1fb7', '\u1fc6', '\u1fc7', '\u1fd2', '\u1fd3', '\u1fd6', '\u1fd7', '\u1fe2',
  '\u1fe3', '\u1fe4', '\u1fe6', '\u1fe7', '\u1ff6', '\u1ff7']

/-- The dotted capital I. In lower case its dot is a character of its own, and no letter. -/
def dottedI : Char := '\u0130'

/-- The dot that is left of the dotted capital I in lower case. -/
def dotAbove : Char := '\u0307'

/-- Whether the character is a marked letter, decided by digits. -/
def markedDigit (c : Char) : Bool :=
  (markedLetters.foldr (fun (d : Char) digits => digits ||| 2 ^ d.toNat) 0).testBit c.toNat

/-! ## What the tables say -/

/-- What the tables say of letters, so that it can be decided over all their points. -/
structure LetterTables : Prop where
  even_alphabetic : alphabeticSet.bounds.length % 2 = 0
  even_uppercase : uppercaseSet.bounds.length % 2 = 0
  marked : markedLetters.all (fun c => markedDigit c && !uppercaseDigit c && !isAscii c &&
    (upper c).any fun d => !(alphabeticDigit d || isNumber d || d == '_' || d == '$')) = true
  upper_runs : upperRuns.all (fun r => r.images.all fun n => alphabeticDigit (Char.ofNat n)) = true
  upper_expansions : upperExpansions.all (fun e => e.2.head?.any (fun n => alphabeticDigit (Char.ofNat n)) &&
    (markedLetters.contains (Char.ofNat e.1) || e.2.all fun n => alphabeticDigit (Char.ofNat n))) = true
  lower_runs : lowerRuns.all (fun r => r.images.all fun n =>
    alphabeticDigit (Char.ofNat n) && !markedDigit (Char.ofNat n)) = true
  dot_above : isIdentifierPart dotAbove = false

/-- The kernel goes through all points of the tables; the elaborator would take too long over them. -/
theorem letterTables : LetterTables where
  even_alphabetic := by decide +kernel
  even_uppercase := by decide +kernel
  marked := by decide +kernel
  upper_runs := by decide +kernel
  upper_expansions := by decide +kernel
  lower_runs := by decide +kernel
  dot_above := by decide +kernel

theorem alphabeticDigit_eq (c : Char) : alphabeticDigit c = isAlphabetic c := by
  rw [alphabeticDigit, isAlphabetic, CodeSet.testBit_bits (LetterTables.even_alphabetic letterTables)]

theorem uppercaseDigit_eq (c : Char) : uppercaseDigit c = isUppercase c := by
  rw [uppercaseDigit, isUppercase, CodeSet.testBit_bits (LetterTables.even_uppercase letterTables)]

/-- A marked letter stands in lower case and outside ASCII, and in upper case it becomes something that cannot
stand in an identifier. -/
theorem of_mem_markedLetters {c : Char} (h : c ∈ markedLetters) :
    markedDigit c = true ∧ isUppercase c = false ∧ isAscii c = false ∧
      ∃ d ∈ upper c, isIdentifierPart d = false := by
  have hc := List.all_eq_true.1 (LetterTables.marked letterTables) c h
  simp only [Bool.and_eq_true, List.any_eq_true, uppercaseDigit_eq, alphabeticDigit_eq, Bool.not_eq_true'] at hc
  obtain ⟨⟨⟨hdigit, hlower⟩, hascii⟩, d, hd, hpart⟩ := hc
  exact ⟨hdigit, hlower, hascii, d, hd, by rw [isIdentifierPart, isAlphanumeric, hpart]⟩

theorem notMem_markedLetters_of_isUppercase {c : Char} (h : isUppercase c = true) : c ∉ markedLetters := by
  intro hmem
  rw [(of_mem_markedLetters hmem).2.1] at h
  cases h

theorem notMem_markedLetters_of_isAscii {c : Char} (h : isAscii c = true) : c ∉ markedLetters := by
  intro hmem
  rw [(of_mem_markedLetters hmem).2.2.1] at h
  cases h

/-! ## Upper-case forms -/

theorem upperRuns_alphabetic : ∀ r ∈ upperRuns, ∀ n ∈ r.images, isAlphabetic (Char.ofNat n) = true := by
  intro r hr n hn
  rw [← alphabeticDigit_eq]
  exact List.all_eq_true.1 (List.all_eq_true.1 (LetterTables.upper_runs letterTables) r hr) n hn

/-- A character that becomes several begins with a letter, and goes on with letters unless it is marked. -/
theorem upperExpansions_alphabetic : ∀ e ∈ upperExpansions,
    (∃ n rest, e.2 = n :: rest ∧ isAlphabetic (Char.ofNat n) = true) ∧
      (Char.ofNat e.1 ∉ markedLetters → ∀ n ∈ e.2, isAlphabetic (Char.ofNat n) = true) := by
  intro e he
  have hexpansion := List.all_eq_true.1 (LetterTables.upper_expansions letterTables) e he
  obtain ⟨hhead, hrest⟩ := Bool.and_eq_true_iff.1 hexpansion
  simp only [alphabeticDigit_eq] at hhead hrest
  constructor
  · obtain ⟨n, hn, halpha⟩ := (Option.any_eq_true _ _).1 hhead
    obtain ⟨rest, hrest⟩ := List.head?_eq_some_iff.1 hn
    exact ⟨n, rest, hrest, halpha⟩
  · intro hmarked
    rw [Bool.or_eq_true, List.contains_iff_mem] at hrest
    exact List.all_eq_true.1 (hrest.resolve_left hmarked)

/-- In upper case a character of ASCII becomes another, any other character becomes several, or a letter, or
stays. -/
theorem upper_cases (c : Char) :
    (isAscii c = true ∧ upper c = [c.toUpper]) ∨
      (∃ e ∈ upperExpansions, Char.ofNat e.1 = c ∧ upper c = e.2.map Char.ofNat) ∨
      (∃ d, upper c = [d] ∧ isAlphabetic d = true) ∨ upper c = [c] := by
  by_cases hascii : isAscii c = true
  · exact .inl ⟨hascii, upper_of_isAscii hascii⟩
  · have hupper : upper c = (upperMap.apply c.toNat).map Char.ofNat := by rw [upper, if_neg hascii]
    rcases upperMap.apply_cases c.toNat with h | ⟨r, hr, n, hn, h⟩ | h
    · exact .inr (.inl ⟨_, h, Char.ofNat_toNat c, hupper⟩)
    · exact .inr (.inr (.inl ⟨Char.ofNat n, by rw [hupper, h]; rfl, upperRuns_alphabetic r hr n hn⟩))
    · exact .inr (.inr (.inr (by rw [hupper, h, List.map_singleton, Char.ofNat_toNat])))

theorem upper_ne_nil (c : Char) : upper c ≠ [] := by
  rcases upper_cases c with ⟨-, hupper⟩ | ⟨e, he, -, hupper⟩ | ⟨d, hupper, -⟩ | hupper
  · exact hupper ▸ List.cons_ne_nil _ _
  · obtain ⟨⟨n, rest, hcons, -⟩, -⟩ := upperExpansions_alphabetic e he
    rw [hupper, hcons]
    exact List.cons_ne_nil _ _
  · exact hupper ▸ List.cons_ne_nil _ _
  · exact hupper ▸ List.cons_ne_nil _ _

theorem upper_underscore : upper '_' = ['_'] := by decide

/-- In upper case only an underscore becomes an underscore. -/
theorem underscore_mem_upper_iff {c : Char} : '_' ∈ upper c ↔ c = '_' := by
  constructor
  · intro h
    rcases upper_cases c with ⟨hascii, hupper⟩ | ⟨e, he, -, hupper⟩ | ⟨d, hupper, hd⟩ | hupper
    all_goals rw [hupper] at h
    · have hsame := forall_isAscii (p := fun c => c.toUpper != '_' || c == '_') (by decide) hascii
      simpa [← List.mem_singleton.1 h] using hsame
    · have hexpansions : ∀ e ∈ upperExpansions, '_' ∉ e.2.map Char.ofNat := by decide
      exact absurd h (hexpansions e he)
    · rw [← List.mem_singleton.1 h] at hd
      exact absurd hd (by decide)
    · exact (List.mem_singleton.1 h).symm
  · rintro rfl
    rw [upper_underscore]
    exact List.mem_singleton_self _

theorem isIdentifierStart_of_isAlphabetic {c : Char} (h : isAlphabetic c = true) :
    isIdentifierStart c = true := by
  simp [isIdentifierStart, h]

theorem isIdentifierPart_of_isAlphabetic {c : Char} (h : isAlphabetic c = true) : isIdentifierPart c = true :=
  isIdentifierPart_of_start (isIdentifierStart_of_isAlphabetic h)

/-- In upper case, what may begin an identifier becomes something that begins so. -/
theorem exists_upper_eq_cons {c : Char} (h : isIdentifierStart c = true) :
    ∃ d rest, upper c = d :: rest ∧ isIdentifierStart d = true := by
  rcases upper_cases c with ⟨hascii, hupper⟩ | ⟨e, he, -, hupper⟩ | ⟨d, hupper, hd⟩ | hupper
  · have hstart := forall_isAscii (p := fun c => !isIdentifierStart c || isIdentifierStart c.toUpper)
      (by decide) hascii
    rw [h, Bool.not_true, Bool.false_or] at hstart
    exact ⟨c.toUpper, [], hupper, hstart⟩
  · obtain ⟨⟨n, rest, hcons, hn⟩, -⟩ := upperExpansions_alphabetic e he
    exact ⟨_, _, by rw [hupper, hcons, List.map_cons], isIdentifierStart_of_isAlphabetic hn⟩
  · exact ⟨d, [], hupper, isIdentifierStart_of_isAlphabetic hd⟩
  · exact ⟨c, [], hupper, h⟩

/-- In upper case, what may stand in an identifier becomes something that may, unless it is a marked letter. -/
theorem isIdentifierPart_of_mem_upper {c : Char} (h : isIdentifierPart c = true) (hmarked : c ∉ markedLetters) :
    ∀ d ∈ upper c, isIdentifierPart d = true := by
  intro d hd
  rcases upper_cases c with ⟨hascii, hupper⟩ | ⟨e, he, rfl, hupper⟩ | ⟨d', hupper, hd'⟩ | hupper
  all_goals rw [hupper] at hd
  · have hpart := forall_isAscii (p := fun c => !isIdentifierPart c || isIdentifierPart c.toUpper)
      (by decide) hascii
    rw [h, Bool.not_true, Bool.false_or] at hpart
    rwa [List.mem_singleton.1 hd]
  · obtain ⟨n, hn, rfl⟩ := List.mem_map.1 hd
    exact isIdentifierPart_of_isAlphabetic ((upperExpansions_alphabetic e he).2 hmarked n hn)
  · rw [List.mem_singleton.1 hd]
    exact isIdentifierPart_of_isAlphabetic hd'
  · rwa [List.mem_singleton.1 hd]

/-! ## Lower-case forms -/

theorem lowerRuns_alphabetic : ∀ r ∈ lowerRuns, ∀ n ∈ r.images,
    isAlphabetic (Char.ofNat n) = true ∧ Char.ofNat n ∉ markedLetters := by
  intro r hr n hn
  have himage := List.all_eq_true.1 (List.all_eq_true.1 (LetterTables.lower_runs letterTables) r hr) n hn
  rw [alphabeticDigit_eq, Bool.and_eq_true, Bool.not_eq_true'] at himage
  refine ⟨himage.1, fun hmem => ?_⟩
  rw [(of_mem_markedLetters hmem).1] at himage
  cases himage.2

/-- In lower case, any character but the dotted capital I becomes one character. What may begin an identifier
still may, and no letter becomes marked. -/
theorem lower_eq_singleton {c : Char} (h : c ≠ dottedI) :
    ∃ d, lower c = [d] ∧ (isIdentifierStart c = true → isIdentifierStart d = true) ∧
      (c ∉ markedLetters → d ∉ markedLetters) := by
  by_cases hascii : isAscii c = true
  · have hlower := forall_isAscii (p := fun c => isAscii c.toLower &&
      (!isIdentifierStart c || isIdentifierStart c.toLower)) (by decide) hascii
    rw [Bool.and_eq_true, Bool.or_eq_true, Bool.not_eq_true'] at hlower
    refine ⟨c.toLower, lower_of_isAscii hascii, fun hstart => ?_,
      fun _ => notMem_markedLetters_of_isAscii hlower.1⟩
    exact hlower.2.resolve_left (by simp [hstart])
  · have hlower : lower c = (lowerMap.apply c.toNat).map Char.ofNat := by rw [lower, if_neg hascii]
    rcases lowerMap.apply_cases c.toNat with hexp | ⟨r, hr, n, hn, himage⟩ | hsame
    · -- Nothing else becomes several characters in lower case.
      have honly : ∀ e ∈ lowerExpansions, e.1 = dottedI.toNat := by decide
      exact absurd (Char.toNat_inj.1 (honly _ hexp)) h
    · obtain ⟨halpha, hmarked⟩ := lowerRuns_alphabetic r hr n hn
      exact ⟨Char.ofNat n, by rw [hlower, himage]; rfl, fun _ => isIdentifierStart_of_isAlphabetic halpha,
        fun _ => hmarked⟩
    · exact ⟨c, by rw [hlower, hsame, List.map_singleton, Char.ofNat_toNat], id, id⟩

theorem lower_dottedI : lower dottedI = ['i', dotAbove] := by decide

theorem upper_dotAbove : upper dotAbove = [dotAbove] := by decide

theorem not_isIdentifierPart_dotAbove : isIdentifierPart dotAbove = false :=
  LetterTables.dot_above letterTables

end BuilderSpec.Unicode
