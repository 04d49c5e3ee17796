/-
The letters and digits of ASCII. The classes of all characters and the case mappings agree there with those
of `Char`.
-/
import BuilderSpec.Unicode.Character
import Mathlib

namespace BuilderSpec.Unicode

/-! ## Letters and digits -/

/-- What is decided for the 128 characters of ASCII holds of each of them. -/
theorem forall_isAscii {p : Char → Bool} (h : ∀ n < 0x80, p (Char.ofNat n) = true) {c : Char}
    (hc : isAscii c = true) : p c = true := by
  rw [← Char.ofNat_toNat c]
  exact h c.toNat (of_decide_eq_true hc)

theorem isAscii_of_isAlphanum {c : Char} (h : c.isAlphanum = true) : isAscii c = true := by
  simp only [Char.isAlphanum, Char.isAlpha, Char.isUpper, Char.isLower, Char.isDigit, Bool.or_eq_true,
    Bool.and_eq_true, decide_eq_true_eq, ge_iff_le, UInt32.le_iff_toNat_le] at h
  have hZ : 'Z'.val.toNat = 90 := rfl
  have hz : 'z'.val.toNat = 122 := rfl
  have h9 : '9'.val.toNat = 57 := rfl
  have hc : c.val.toNat = c.toNat := rfl
  simp only [isAscii, decide_eq_true_eq]
  omega

theorem isAscii_of_isAlpha {c : Char} (h : c.isAlpha = true) : isAscii c = true :=
  isAscii_of_isAlphanum (by simp [Char.isAlphanum, h])

theorem isAscii_of_isDigit {c : Char} (h : c.isDigit = true) : isAscii c = true :=
  isAscii_of_isAlphanum (by simp [Char.isAlphanum, h])

theorem isAscii_of_isUpper {c : Char} (h : c.isUpper = true) : isAscii c = true :=
  isAscii_of_isAlpha (by simp [Char.isAlpha, h])

theorem isAscii_of_isLower {c : Char} (h : c.isLower = true) : isAscii c = true :=
  isAscii_of_isAlpha (by simp [Char.isAlpha, h])

theorem isAscii_toUpper {c : Char} (h : isAscii c = true) : isAscii c.toUpper = true :=
  forall_isAscii (p := fun c => isAscii c.toUpper) (by decide) h

/-! ## Upper and lower case -/

theorem isUppercase_of_isUpper {c : Char} (h : c.isUpper = true) : isUppercase c = true := by
  rwa [isUppercase_of_isAscii (isAscii_of_isUpper h)]

theorem isUpper_of_isUppercase {c : Char} (h : isUppercase c = true) (hc : isAscii c = true) :
    c.isUpper = true := by
  rwa [isUppercase_of_isAscii hc] at h

theorem isLowercase_of_isLower {c : Char} (h : c.isLower = true) : isLowercase c = true := by
  rwa [isLowercase_of_isAscii (isAscii_of_isLower h)]

theorem not_isUppercase_of_isLower {c : Char} (h : c.isLower = true) : isUppercase c = false := by
  rw [isUppercase_of_isAscii (isAscii_of_isLower h)]
  exact Bool.eq_false_iff.2 (Char.not_isUpper_of_isLower h)

theorem not_isUppercase_of_isDigit {c : Char} (h : c.isDigit = true) : isUppercase c = false := by
  have hdigit := forall_isAscii (p := fun c => !(c.isDigit && isUppercase c)) (by decide)
    (isAscii_of_isDigit h)
  simpa [h] using hdigit

theorem not_isDigit_of_isUpper {c : Char} (h : c.isUpper = true) : c.isDigit = false := by
  refine Bool.eq_false_iff.2 fun hdigit => ?_
  have hupper := isUppercase_of_isUpper h
  rw [not_isUppercase_of_isDigit hdigit] at hupper
  cases hupper

theorem not_isLowercase_of_isUpper {c : Char} (h : c.isUpper = true) : isLowercase c = false := by
  rw [isLowercase_of_isAscii (isAscii_of_isUpper h)]
  exact Bool.eq_false_iff.2 (Char.not_isLower_of_isUpper h)

/-- Over ASCII a text in capitals has a capital for each character. -/
theorem flatMap_upper {text : List Char} (h : ∀ c ∈ text, isAscii c = true) :
    text.flatMap upper = text.map Char.toUpper := by
  induction text with
  | nil => rfl
  | cons c rest ih =>
    rw [List.flatMap_cons, List.map_cons, upper_of_isAscii (h c List.mem_cons_self),
      ih fun d hd => h d (List.mem_cons_of_mem c hd), List.singleton_append]

end BuilderSpec.Unicode
