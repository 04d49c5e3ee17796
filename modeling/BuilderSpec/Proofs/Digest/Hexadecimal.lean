/-
The hexadecimal form of a fingerprint loses nothing and keeps the order. It has sixty-four digits, in which a
reader of digits finds the thirty-two bytes, and it is the only text in which the reader finds these. Two forms
compare as texts just as the fingerprints do: by the first byte in which they differ.
-/
import BuilderSpec.Digest.Fingerprint

namespace BuilderSpec.Digest

/-! ## Digits -/

/-- A decimal digit, or one of the six letters that go on from them. -/
def IsLowerHexDigit (c : Char) : Prop :=
  ('0' ≤ c ∧ c ≤ '9') ∨ ('a' ≤ c ∧ c ≤ 'f')

instance : DecidablePred IsLowerHexDigit :=
  fun c => inferInstanceAs (Decidable (('0' ≤ c ∧ c ≤ '9') ∨ ('a' ≤ c ∧ c ≤ 'f')))

/-- What a digit stands for. -/
def lowerHexValue? (c : Char) : Option Nat :=
  if '0' ≤ c ∧ c ≤ '9' then some (c.toNat - '0'.toNat)
  else if 'a' ≤ c ∧ c ≤ 'f' then some (10 + (c.toNat - 'a'.toNat))
  else none

theorem isLowerHexDigit_digitChar : ∀ n < 16, IsLowerHexDigit n.digitChar := by decide

theorem lowerHexValue?_digitChar : ∀ n < 16, lowerHexValue? n.digitChar = some n := by decide

/-- The digits lie in two runs of code points, the letters behind the rest. -/
theorem toNat_digitChar : ∀ n < 16,
    n < 10 ∧ n.digitChar.toNat = 48 + n ∨ 10 ≤ n ∧ n.digitChar.toNat = 87 + n := by decide

section

variable {m n : Nat}

theorem digitChar_lt_digitChar_iff (hm : m < 16) (hn : n < 16) : m.digitChar < n.digitChar ↔ m < n := by
  have hm := toNat_digitChar m hm
  have hn := toNat_digitChar n hn
  rw [Char.lt_def, UInt32.lt_iff_toNat_lt, Char.toNat_val, Char.toNat_val]
  omega

theorem digitChar_inj (hm : m < 16) (hn : n < 16) : m.digitChar = n.digitChar ↔ m = n := by
  have hm := toNat_digitChar m hm
  have hn := toNat_digitChar n hn
  rw [← Char.toNat_inj]
  omega

/-- Only the digits that are written stand for something. -/
theorem lowerHexValue?_eq_some_iff {c : Char} :
    lowerHexValue? c = some n ↔ n < 16 ∧ c = n.digitChar := by
  constructor
  · intro h
    have hle (a b : Char) : a ≤ b ↔ a.toNat ≤ b.toNat := UInt32.le_iff_toNat_le
    simp only [lowerHexValue?, hle, Char.reduceToNat] at h
    have hplace : n < 16 ∧ (n < 10 ∧ c.toNat = 48 + n ∨ 10 ≤ n ∧ c.toNat = 87 + n) := by
      split at h
      · have := Option.some.inj h
        omega
      · split at h
        · have := Option.some.inj h
          omega
        · cases h
    have hdigit := toNat_digitChar n hplace.1
    exact ⟨hplace.1, Char.toNat_inj.1 (by omega)⟩
  · rintro ⟨hn, rfl⟩
    exact lowerHexValue?_digitChar n hn

end

/-! ## Bytes -/

theorem upperHalf_lt (b : UInt8) : b.toNat / 16 < 16 :=
  Nat.div_lt_of_lt_mul b.toNat_lt

theorem lowerHalf_lt (b : UInt8) : b.toNat % 16 < 16 :=
  Nat.mod_lt _ (by decide)

section

variable {a b : UInt8}

theorem eq_iff_halves : a = b ↔ a.toNat / 16 = b.toNat / 16 ∧ a.toNat % 16 = b.toNat % 16 := by
  rw [← UInt8.toNat_inj]
  omega

theorem lt_iff_halves :
    a < b ↔ a.toNat / 16 < b.toNat / 16 ∨
      a.toNat / 16 = b.toNat / 16 ∧ a.toNat % 16 < b.toNat % 16 := by
  rw [UInt8.lt_iff_toNat_lt]
  omega

theorem ofHalves_eq_iff {u l : Nat} (hu : u < 16) (hl : l < 16) :
    UInt8.ofNat (16 * u + l) = b ↔ u = b.toNat / 16 ∧ l = b.toNat % 16 := by
  have hsize : 16 * u + l < UInt8.size := by
    simp only [UInt8.size]
    omega
  rw [← UInt8.toNat_inj, UInt8.toNat_ofNat_of_lt' hsize]
  omega

/-- The byte that two digits stand for. -/
def byteOfHex? (upper lower : Char) : Option UInt8 := do
  let u ← lowerHexValue? upper
  let l ← lowerHexValue? lower
  return .ofNat (16 * u + l)

theorem byteOfHex?_eq_some_iff {upper lower : Char} :
    byteOfHex? upper lower = some b ↔ [upper, lower] = hexPair b := by
  constructor
  · intro h
    obtain ⟨u, hupper, hrest⟩ := Option.bind_eq_some_iff.1 h
    obtain ⟨l, hlower, hb⟩ := Option.bind_eq_some_iff.1 hrest
    obtain ⟨hu, rfl⟩ := lowerHexValue?_eq_some_iff.1 hupper
    obtain ⟨hl, rfl⟩ := lowerHexValue?_eq_some_iff.1 hlower
    obtain ⟨rfl, rfl⟩ := (ofHalves_eq_iff hu hl).1 (Option.some.inj hb)
    rfl
  · intro h
    obtain ⟨rfl, rfl⟩ : upper = (b.toNat / 16).digitChar ∧ lower = (b.toNat % 16).digitChar := by
      simpa [hexPair] using h
    rw [byteOfHex?, lowerHexValue?_digitChar _ (upperHalf_lt b), lowerHexValue?_digitChar _ (lowerHalf_lt b)]
    exact congrArg some ((ofHalves_eq_iff (upperHalf_lt b) (lowerHalf_lt b)).2 ⟨rfl, rfl⟩)

/-- Where the bytes differ their digits decide, the upper half's before the lower's, and where they are the same
what follows does. -/
theorem hexPair_append_lt_iff {s t : List Char} :
    hexPair a ++ s < hexPair b ++ t ↔ a < b ∨ a = b ∧ s < t := by
  simp only [hexPair, List.cons_append, List.nil_append, List.cons_lt_cons_iff]
  rw [digitChar_lt_digitChar_iff (upperHalf_lt a) (upperHalf_lt b),
    digitChar_lt_digitChar_iff (lowerHalf_lt a) (lowerHalf_lt b),
    digitChar_inj (upperHalf_lt a) (upperHalf_lt b), digitChar_inj (lowerHalf_lt a) (lowerHalf_lt b),
    lt_iff_halves, eq_iff_halves, and_or_left, or_assoc, and_assoc]

end

/-! ## Texts -/

theorem hexChars_cons (b : UInt8) (rest : List UInt8) :
    hexChars (b :: rest) = hexPair b ++ hexChars rest := rfl

theorem isLowerHexDigit_of_mem_hexChars {bytes : List UInt8} {c : Char} (h : c ∈ hexChars bytes) :
    IsLowerHexDigit c := by
  obtain ⟨b, -, hb⟩ := List.mem_flatMap.1 h
  simp only [hexPair, List.mem_cons, List.not_mem_nil, or_false] at hb
  obtain rfl | rfl := hb
  · exact isLowerHexDigit_digitChar _ (upperHalf_lt b)
  · exact isLowerHexDigit_digitChar _ (lowerHalf_lt b)

/-- The texts need not be of one length: a text that goes on comes after the one that has ended. -/
theorem hexChars_lt_hexChars_iff {as bs : List UInt8} : hexChars as < hexChars bs ↔ as < bs := by
  induction as generalizing bs with
  | nil =>
    cases bs with
    | nil => exact iff_of_false (List.not_lt_nil _) (List.not_lt_nil _)
    | cons b bs => exact iff_of_true (List.nil_lt_cons _ _) (List.nil_lt_cons _ _)
  | cons a as ih =>
    cases bs with
    | nil => exact iff_of_false (List.not_lt_nil _) (List.not_lt_nil _)
    | cons b bs => rw [hexChars_cons, hexChars_cons, hexPair_append_lt_iff, ih, List.cons_lt_cons_iff]

/-- The bytes that a text stands for: two digits for each, and nothing left over. -/
def bytesOfHex? : List Char → Option (List UInt8)
  | [] => some []
  | [_] => none
  | upper :: lower :: rest => do
    let b ← byteOfHex? upper lower
    let bytes ← bytesOfHex? rest
    return b :: bytes

theorem bytesOfHex?_hexChars (bytes : List UInt8) : bytesOfHex? (hexChars bytes) = some bytes := by
  induction bytes with
  | nil => rfl
  | cons b rest ih =>
    have hb : byteOfHex? (b.toNat / 16).digitChar (b.toNat % 16).digitChar = some b :=
      byteOfHex?_eq_some_iff.2 rfl
    rw [hexChars_cons, hexPair, List.cons_append, List.cons_append, List.nil_append, bytesOfHex?, hb, ih]
    rfl

theorem eq_hexChars_of_bytesOfHex? {text : List Char} {bytes : List UInt8}
    (h : bytesOfHex? text = some bytes) : text = hexChars bytes := by
  induction text using bytesOfHex?.induct generalizing bytes with
  | case1 =>
    cases h
    rfl
  | case2 => cases h
  | case3 upper lower rest ih =>
    obtain ⟨b, hb, hrest⟩ := Option.bind_eq_some_iff.1 h
    obtain ⟨bytes', hbytes', hcons⟩ := Option.bind_eq_some_iff.1 hrest
    cases hcons
    show [upper, lower] ++ rest = hexPair b ++ hexChars bytes'
    rw [byteOfHex?_eq_some_iff.1 hb, ih hbytes']

theorem bytesOfHex?_eq_some_iff {text : List Char} {bytes : List UInt8} :
    bytesOfHex? text = some bytes ↔ text = hexChars bytes :=
  ⟨eq_hexChars_of_bytesOfHex?, fun h => h ▸ bytesOfHex?_hexChars bytes⟩

/-- Capitals are not read, so that no bytes have a second form. -/
example : bytesOfHex? "0A".toList = none := by decide

/-! ## Fingerprints -/

namespace Fingerprint

variable {f g : Fingerprint}

theorem length_toHex (f : Fingerprint) : f.toHex.length = 64 := by
  rw [toHex, String.length_ofList, length_hexChars, Vector.length_toList]

/-- The fingerprint that a text stands for. -/
def ofHex? (text : String) : Option Fingerprint := do
  let bytes ← bytesOfHex? text.toList
  if h : bytes.length = 32 then some ⟨⟨bytes.toArray, h⟩⟩ else none

theorem ofHex?_eq_some_iff {text : String} : ofHex? text = some f ↔ text = f.toHex := by
  rw [toHex, ← String.toList_inj, String.toList_ofList]
  constructor
  · intro h
    obtain ⟨bytes, hbytes, hlength⟩ := Option.bind_eq_some_iff.1 h
    split at hlength
    · cases hlength
      exact bytesOfHex?_eq_some_iff.1 hbytes
    · cases hlength
  · intro h
    rw [ofHex?, bytesOfHex?_eq_some_iff.2 h]
    exact dif_pos f.bytes.length_toList

theorem toHex_inj : f.toHex = g.toHex ↔ f = g := by
  constructor
  · intro h
    have hg : ofHex? g.toHex = some f := ofHex?_eq_some_iff.2 h.symm
    exact Option.some.inj (hg.symm.trans (ofHex?_eq_some_iff.2 rfl))
  · exact congrArg toHex

theorem toList_bytes_inj : f.bytes.toList = g.bytes.toList ↔ f = g := by
  rw [Vector.toList_inj]
  exact ⟨congrArg mk, congrArg bytes⟩

theorem toHex_lt_toHex_iff : f.toHex < g.toHex ↔ f.bytes.toList < g.bytes.toList := by
  show (String.ofList _).toList < (String.ofList _).toList ↔ _
  rw [String.toList_ofList, String.toList_ofList, hexChars_lt_hexChars_iff]

theorem compare_toHex (f g : Fingerprint) : compare f.toHex g.toHex = compare f g := by
  show compareOfLessAndEq f.toHex g.toHex = compareOfLessAndEq f.bytes.toList g.bytes.toList
  simp only [compareOfLessAndEq, toHex_lt_toHex_iff, toHex_inj, toList_bytes_inj]

/-- In the first byte in which the two differ, `f` has the smaller one. -/
def Precedes (f g : Fingerprint) : Prop :=
  ∃ i : Fin 32, (∀ j < i, f.bytes[j] = g.bytes[j]) ∧ f.bytes[i] < g.bytes[i]

theorem compare_eq_lt_iff : compare f g = .lt ↔ f.Precedes g := by
  show compareOfLessAndEq f.bytes.toList g.bytes.toList = .lt ↔ _
  rw [compareOfLessAndEq_eq_lt, Vector.lt_toList, Vector.lt_iff_exists]
  constructor
  · rintro ⟨i, hi, heq, hlt⟩
    exact ⟨⟨i, hi⟩, fun j hj => heq j hj, hlt⟩
  · rintro ⟨i, heq, hlt⟩
    exact ⟨i, i.isLt, fun j hj => heq ⟨j, by omega⟩ hj, hlt⟩

/-- The form of a fingerprint has sixty-four digits, all of them in lower case, and the fingerprint is read back
from it and from no other text. Forms compare as texts just as the fingerprints do, which is by the first byte in
which these differ. -/
theorem toHex_lossless_ordered (f g : Fingerprint) :
    (f.toHex.length = 64 ∧ ∀ c ∈ f.toHex.toList, IsLowerHexDigit c) ∧
      (∀ text, ofHex? text = some f ↔ text = f.toHex) ∧
      compare f.toHex g.toHex = compare f g ∧
      (compare f g = .lt ↔ f.Precedes g) ∧
      (f.toHex = g.toHex ↔ f = g) := by
  refine ⟨⟨length_toHex f, ?_⟩, fun text => ofHex?_eq_some_iff, compare_toHex f g, compare_eq_lt_iff,
    toHex_inj⟩
  intro c hc
  rw [toHex, String.toList_ofList] at hc
  exact isLowerHexDigit_of_mem_hexChars hc

end Fingerprint

end BuilderSpec.Digest
