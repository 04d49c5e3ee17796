/-
The compact written form of a JSON value determines the value, and so do its bytes. Each written
value tells where it ends, whatever follows it that does not begin with a numeral: a quoted text by
its closing quote, which is escaped inside the text, a list by its closing bracket, and an integer
by what follows.
-/
import BuilderSpec.Json
import Mathlib.Logic.Function.Basic

namespace BuilderSpec.Json

/-! ## Quoted texts -/

/-- The value of a hexadecimal digit in lower case. -/
def digitValue (c : Char) : Nat :=
  if c.isDigit then c.toNat - '0'.toNat else c.toNat - 'a'.toNat + 10

theorem digitValue_hexDigit {n : Nat} (h : n < 16) : digitValue (hexDigit n) = n := by
  revert n; decide

/-- The character that a backslash before a letter stands for. -/
def controlOf (letter : Char) : Char :=
  if letter = 'b' then '\x08'
  else if letter = 't' then '\x09'
  else if letter = 'n' then '\x0a'
  else if letter = 'f' then '\x0c'
  else if letter = 'r' then '\x0d'
  else letter

/-- The first character of what is left of a quoted text, and the rest; none at the closing quote. -/
def unescape : List Char → Option (Char × List Char)
  | [] => none
  | '"' :: _ => none
  | '\\' :: 'u' :: _ :: _ :: high :: low :: rest =>
    some (Char.ofNat (16 * digitValue high + digitValue low), rest)
  | '\\' :: letter :: rest => some (controlOf letter, rest)
  | c :: rest => some (c, rest)

/-- An escaped character is read back, and nothing of what follows it with it. -/
theorem unescape_escape (c : Char) (rest : List Char) : unescape (escape c ++ rest) = some (c, rest) := by
  unfold escape
  -- The seven characters with a letter of their own, the other controls, and the rest.
  split
  · subst c; rfl
  split
  · subst c; rfl
  split
  · subst c; rfl
  split
  · subst c; rfl
  split
  · subst c; rfl
  split
  · subst c; rfl
  split
  · subst c; rfl
  split
  · rename_i h
    show some (Char.ofNat _, rest) = _
    rw [digitValue_hexDigit (by omega), digitValue_hexDigit (by omega), Nat.div_add_mod, Char.ofNat_toNat]
  · rename_i hquote hslash _ _ _ _ _ _
    show unescape (c :: rest) = _
    unfold unescape
    split
    · rename_i e; cases e
    · rename_i e; cases e; exact absurd rfl hquote
    · rename_i e; cases e; exact absurd rfl hslash
    · rename_i e; cases e; exact absurd rfl hslash
    · rename_i e; cases e; rfl

theorem flatMap_escape_append_inj : ∀ {s t r r' : List Char},
    s.flatMap escape ++ '"' :: r = t.flatMap escape ++ '"' :: r' → s = t ∧ r = r'
  | [], [], r, r', h => by simpa using h
  | [], d :: t, r, r', h => by
    have := congrArg unescape h
    rw [List.flatMap_cons, List.append_assoc, unescape_escape] at this
    cases this
  | c :: s, [], r, r', h => by
    have := congrArg unescape h
    rw [List.flatMap_cons, List.append_assoc, unescape_escape] at this
    cases this
  | c :: s, d :: t, r, r', h => by
    have := congrArg unescape h
    rw [List.flatMap_cons, List.append_assoc, unescape_escape, List.flatMap_cons, List.append_assoc,
      unescape_escape] at this
    simp only [Option.some.injEq, Prod.mk.injEq] at this
    obtain ⟨rfl, hrest⟩ := this
    obtain ⟨rfl, hr⟩ := flatMap_escape_append_inj hrest
    exact ⟨rfl, hr⟩

theorem quoteChars_append_inj {s t r r' : List Char} (h : quoteChars s ++ r = quoteChars t ++ r') :
    s = t ∧ r = r' := by
  simp only [quoteChars, List.cons_append, List.append_assoc, List.cons.injEq, true_and,
    List.nil_append] at h
  exact flatMap_escape_append_inj h

/-! ## Integers -/

/-- Characters that a written integer consists of. -/
def isNumeral (c : Char) : Bool :=
  c.isDigit || c == '-'

/-- A text that does not go on with a numeral, so that an integer before it ends where it begins. -/
def Ends (rest : List Char) : Prop :=
  ∀ c ∈ rest.head?, isNumeral c = false

theorem ends_cons {c : Char} (h : isNumeral c = false) (rest : List Char) : Ends (c :: rest) := by
  intro d hd
  cases hd
  exact h

theorem toList_repr_ofNat (n : Nat) : (Int.ofNat n).repr.toList = Nat.toDigits 10 n :=
  Nat.toList_repr

theorem toList_repr_negSucc (n : Nat) :
    (Int.negSucc n).repr.toList = '-' :: Nat.toDigits 10 (n + 1) := by
  show ("-" ++ Nat.repr (n + 1)).toList = _
  rw [String.toList_append, Nat.toList_repr]
  rfl

theorem toDigits_inj {n m : Nat} (h : Nat.toDigits 10 n = Nat.toDigits 10 m) : n = m := by
  have := congrArg (Nat.ofDigitChars 10 · 0) h
  simpa only [Nat.ofDigitChars_ten_toDigits] using this

theorem isDigit_of_mem_toDigits {n : Nat} {c : Char} (h : c ∈ Nat.toDigits 10 n) : c.isDigit = true :=
  Nat.isDigit_of_mem_toDigits (by decide) (by decide) h

theorem dash_notMem_toDigits (n : Nat) : '-' ∉ Nat.toDigits 10 n := fun h =>
  absurd (isDigit_of_mem_toDigits h) (by decide)

theorem toList_repr_inj {n m : Int} (h : n.repr.toList = m.repr.toList) : n = m := by
  cases n with
  | ofNat n =>
    cases m with
    | ofNat m =>
      rw [toList_repr_ofNat, toList_repr_ofNat] at h
      rw [toDigits_inj h]
    | negSucc m =>
      rw [toList_repr_ofNat, toList_repr_negSucc] at h
      exact absurd (h ▸ List.mem_cons_self ..) (dash_notMem_toDigits n)
  | negSucc n =>
    cases m with
    | ofNat m =>
      rw [toList_repr_ofNat, toList_repr_negSucc] at h
      exact absurd (h ▸ List.mem_cons_self ..) (dash_notMem_toDigits m)
    | negSucc m =>
      rw [toList_repr_negSucc, toList_repr_negSucc, List.cons.injEq] at h
      have := toDigits_inj h.2
      rw [Nat.succ.inj this]

theorem isNumeral_of_mem_repr {n : Int} {c : Char} (h : c ∈ n.repr.toList) : isNumeral c = true := by
  unfold isNumeral
  cases n with
  | ofNat n =>
    rw [toList_repr_ofNat] at h
    rw [isDigit_of_mem_toDigits h, Bool.true_or]
  | negSucc n =>
    rw [toList_repr_negSucc] at h
    rcases List.mem_cons.1 h with rfl | h
    · rfl
    · rw [isDigit_of_mem_toDigits h, Bool.true_or]

theorem repr_ne_nil (n : Int) : n.repr.toList ≠ [] := by
  cases n with
  | ofNat n => rw [toList_repr_ofNat]; exact Nat.toDigits_ne_nil
  | negSucc n => rw [toList_repr_negSucc]; exact List.cons_ne_nil _ _

theorem takeWhile_repr_append (n : Int) {rest : List Char} (h : Ends rest) :
    (n.repr.toList ++ rest).takeWhile isNumeral = n.repr.toList := by
  rw [List.takeWhile_append_of_pos fun _ => isNumeral_of_mem_repr]
  cases rest with
  | nil => exact List.append_nil _
  | cons c rest => rw [List.takeWhile_cons_of_neg (by rw [h c rfl]; decide), List.append_nil]

theorem repr_append_inj {n m : Int} {r r' : List Char} (hr : Ends r) (hr' : Ends r')
    (h : n.repr.toList ++ r = m.repr.toList ++ r') : n = m ∧ r = r' := by
  have hd := congrArg (List.takeWhile isNumeral) h
  rw [takeWhile_repr_append n hr, takeWhile_repr_append m hr'] at hd
  obtain rfl := toList_repr_inj hd
  exact ⟨rfl, List.append_cancel_left h⟩

/-! ## Values -/

/-- What the first character of a written value tells of it. -/
inductive Shape where
  | null
  | boolean (b : Bool)
  | integer
  | string
  | array
  | object

def shape : Json → Shape
  | null => .null
  | boolean b => .boolean b
  | integer _ => .integer
  | string _ => .string
  | array _ => .array
  | object _ => .object

/-- The shape of the values that begin with a character. -/
def shapeAt (c : Char) : Option Shape :=
  if isNumeral c then some .integer
  else if c = 'n' then some .null
  else if c = 't' then some (.boolean true)
  else if c = 'f' then some (.boolean false)
  else if c = '"' then some .string
  else if c = '[' then some .array
  else if c = '\x7b' then some .object
  else none

theorem not_isNumeral_of_shapeAt {c : Char} (h : shapeAt c = none) : isNumeral c = false := by
  unfold shapeAt at h
  split at h
  · cases h
  · rename_i hc
    exact Bool.eq_false_iff.2 hc

/-- A written value has a first character, and that tells its shape. -/
theorem exists_head (v : Json) : ∃ c rest, v.chars = c :: rest ∧ shapeAt c = some v.shape := by
  cases v with
  | null => exact ⟨_, _, by rw [chars], rfl⟩
  | boolean b => cases b <;> exact ⟨_, _, by rw [chars], rfl⟩
  | integer n =>
    obtain ⟨c, rest, h⟩ := List.exists_cons_of_ne_nil (repr_ne_nil n)
    have hc : isNumeral c = true := isNumeral_of_mem_repr (h ▸ List.mem_cons_self ..)
    exact ⟨c, rest, by rw [chars, h], by rw [shapeAt, if_pos hc]; rfl⟩
  | string text => exact ⟨_, _, by rw [chars, quoteChars], rfl⟩
  | array items => exact ⟨_, _, by rw [chars], rfl⟩
  | object fields => exact ⟨_, _, by rw [chars], rfl⟩

theorem shape_eq_of_append {v w : Json} {r r' : List Char} (h : v.chars ++ r = w.chars ++ r') :
    v.shape = w.shape := by
  obtain ⟨c, rest, hv, hc⟩ := exists_head v
  obtain ⟨d, rest', hw, hd⟩ := exists_head w
  rw [hv, hw, List.cons_append, List.cons_append, List.cons.injEq] at h
  rw [h.1, hd, Option.some.injEq] at hc
  exact hc.symm

/-- A written value begins with no character that closes a list or parts its items. -/
theorem chars_append_ne {c : Char} (hc : shapeAt c = none) (v : Json) (r rest : List Char) :
    v.chars ++ r ≠ c :: rest := by
  intro h
  obtain ⟨d, rest', hv, hd⟩ := exists_head v
  rw [hv, List.cons_append, List.cons.injEq] at h
  rw [h.1, hc] at hd
  cases hd

/-! ## Lists -/

section Separated

variable {α : Type}

/-- The written form of `a` tells where it ends and what it stands for, unless a numeral follows. -/
def SelfEnding (write : α → List Char) (a : α) : Prop :=
  ∀ (b : α) {r r' : List Char}, Ends r → Ends r' → write a ++ r = write b ++ r' → a = b ∧ r = r'

/-- Items with a comma before each. -/
def writeRest (write : α → List Char) (items : List α) : List Char :=
  items.flatMap fun a => ',' :: write a

/-- Items with commas between them. -/
def writeItems (write : α → List Char) : List α → List Char
  | [] => []
  | a :: rest => write a ++ writeRest write rest

variable {write : α → List Char} {close : Char}

theorem ends_writeRest (hc : shapeAt close = none) (items : List α) (r : List Char) :
    Ends (writeRest write items ++ close :: r) := by
  cases items with
  | nil => exact ends_cons (not_isNumeral_of_shapeAt hc) r
  | cons a rest => exact ends_cons rfl _

theorem writeRest_append_inj (hc : shapeAt close = none) (hcomma : close ≠ ',') :
    ∀ (as bs : List α) {r r' : List Char}, (∀ a ∈ as, SelfEnding write a) →
      writeRest write as ++ close :: r = writeRest write bs ++ close :: r' → as = bs ∧ r = r'
  | [], [], r, r', _, h => by simpa [writeRest] using h
  | [], b :: bs, r, r', _, h => absurd (List.cons.inj h).1 hcomma
  | a :: as, [], r, r', _, h => absurd (List.cons.inj h).1.symm hcomma
  | a :: as, b :: bs, r, r', ha, h => by
    have hab : write a ++ (writeRest write as ++ close :: r) =
        write b ++ (writeRest write bs ++ close :: r') := by
      simpa [writeRest] using h
    obtain ⟨rfl, hrest⟩ :=
      ha a (List.mem_cons_self ..) b (ends_writeRest hc as r) (ends_writeRest hc bs r') hab
    obtain ⟨rfl, hr⟩ :=
      writeRest_append_inj hc hcomma as bs (fun x hx => ha x (List.mem_cons_of_mem _ hx)) hrest
    exact ⟨rfl, hr⟩

/-- Items that tell where they end can be told apart in a list. -/
theorem writeItems_append_inj (hc : shapeAt close = none) (hcomma : close ≠ ',')
    (hopen : ∀ (a : α) (r rest : List Char), write a ++ r ≠ close :: rest) :
    ∀ {as bs : List α} {r r' : List Char}, (∀ a ∈ as, SelfEnding write a) →
      writeItems write as ++ close :: r = writeItems write bs ++ close :: r' → as = bs ∧ r = r'
  | [], [], r, r', _, h => ⟨rfl, (List.cons.inj h).2⟩
  | [], b :: bs, r, r', _, h => by
    -- One list closes where the other goes on, but no item begins like that.
    rw [writeItems, writeItems, List.append_assoc] at h
    exact absurd h.symm (hopen b _ _)
  | a :: as, [], r, r', _, h => by
    rw [writeItems, writeItems, List.append_assoc] at h
    exact absurd h (hopen a _ _)
  | a :: as, b :: bs, r, r', ha, h => by
    rw [writeItems, writeItems, List.append_assoc, List.append_assoc] at h
    obtain ⟨rfl, hrest⟩ :=
      ha a (List.mem_cons_self ..) b (ends_writeRest hc as r) (ends_writeRest hc bs r') h
    obtain ⟨rfl, hr⟩ :=
      writeRest_append_inj hc hcomma as bs (fun x hx => ha x (List.mem_cons_of_mem _ hx)) hrest
    exact ⟨rfl, hr⟩

end Separated

/-- A field of a record. -/
def writeField (f : String × Json) : List Char :=
  quoteChars f.1.toList ++ ':' :: f.2.chars

theorem itemChars_eq : ∀ items : List Json, itemChars items = writeItems chars items
  | [] => by rw [itemChars, writeItems]
  | [v] => by rw [itemChars, writeItems, writeRest, List.flatMap_nil, List.append_nil]
  | v :: w :: rest => by
    rw [itemChars, itemChars_eq (w :: rest), writeItems, writeItems]
    rfl

theorem fieldChars_eq : ∀ fields : List (String × Json), fieldChars fields = writeItems writeField fields
  | [] => by rw [fieldChars, writeItems]
  | [(key, v)] => by rw [fieldChars, writeItems, writeRest, List.flatMap_nil, List.append_nil]; rfl
  | (key, v) :: f :: rest => by
    rw [fieldChars, fieldChars_eq (f :: rest), writeItems, writeItems, ← List.cons_append, ← List.append_assoc]
    rfl

theorem sizeOf_value_lt {f : String × Json} {fields : List (String × Json)} (h : f ∈ fields) :
    sizeOf f.2 < 1 + sizeOf fields := by
  have hf := List.sizeOf_lt_of_mem h
  obtain ⟨key, v⟩ := f
  rw [Prod.mk.sizeOf_spec] at hf
  show sizeOf v < _
  omega

theorem writeField_append_ne (f : String × Json) (r rest : List Char) :
    writeField f ++ r ≠ '\x7d' :: rest := by
  intro h
  cases (List.cons.inj h).1

/-- A record's field tells where it ends when its value does. -/
theorem selfEnding_writeField {f : String × Json} (hv : SelfEnding chars f.2) :
    SelfEnding writeField f := by
  intro g r r' hr hr' h
  rw [writeField, writeField, List.append_assoc, List.append_assoc] at h
  obtain ⟨hkey, hrest⟩ := quoteChars_append_inj h
  obtain ⟨hvalue, hr⟩ := hv g.2 hr hr' (List.cons.inj hrest).2
  exact ⟨Prod.ext (String.toList_inj.1 hkey) hvalue, hr⟩

/-- Every written value tells where it ends and what it stands for. -/
theorem selfEnding_chars : ∀ v : Json, SelfEnding chars v
  | .null => by
    intro w r r' _ _ h
    have hs := shape_eq_of_append h
    cases w <;> cases hs
    exact ⟨rfl, List.append_cancel_left h⟩
  | .boolean b => by
    intro w r r' _ _ h
    have hs := shape_eq_of_append h
    cases w <;> cases hs
    exact ⟨rfl, List.append_cancel_left h⟩
  | .integer n => by
    intro w r r' hr hr' h
    have hs := shape_eq_of_append h
    cases w <;> cases hs
    rw [chars, chars] at h
    -- Digits do not close themselves, so this is the one shape that needs `hr` and `hr'`.
    obtain ⟨rfl, hrest⟩ := repr_append_inj hr hr' h
    exact ⟨rfl, hrest⟩
  | .string text => by
    intro w r r' _ _ h
    have hs := shape_eq_of_append h
    cases w <;> cases hs
    rw [chars, chars] at h
    obtain ⟨ht, hrest⟩ := quoteChars_append_inj h
    exact ⟨by rw [String.toList_inj.1 ht], hrest⟩
  | .array items => by
    intro w r r' _ _ h
    have hs := shape_eq_of_append h
    cases w <;> cases hs
    rw [chars, chars, itemChars_eq, itemChars_eq] at h
    simp only [List.cons_append, List.append_assoc, List.cons.injEq, true_and, List.nil_append] at h
    obtain ⟨rfl, hrest⟩ := writeItems_append_inj rfl (by decide) (chars_append_ne rfl)
      (fun v _ => selfEnding_chars v) h
    exact ⟨rfl, hrest⟩
  | .object fields => by
    intro w r r' _ _ h
    have hs := shape_eq_of_append h
    cases w <;> cases hs
    rw [chars, chars, fieldChars_eq, fieldChars_eq] at h
    simp only [List.cons_append, List.append_assoc, List.cons.injEq, true_and, List.nil_append] at h
    obtain ⟨rfl, hrest⟩ := writeItems_append_inj rfl (by decide) writeField_append_ne
      (fun f hf => have := sizeOf_value_lt hf; selfEnding_writeField (selfEnding_chars f.2)) h
    exact ⟨rfl, hrest⟩

/-- The written form determines the value. -/
theorem chars_injective : Function.Injective chars := by
  intro v w h
  have he : Ends [] := fun c hc => by cases hc
  exact (selfEnding_chars v w he he (congrArg (· ++ []) h)).1

/-- The bytes of the written form determine the value. -/
theorem bytes_injective : Function.Injective bytes := by
  intro v w h
  have he : v.encode = w.encode := String.toByteArray_inj.1 (ByteArray.ext (Array.toList_inj.1 h))
  exact chars_injective (String.ofList_injective he)

end BuilderSpec.Json
