/-
Documents in which each line gives a text to a key, written between double quotes as it is. Read back, such
a document has just these entries, in the order of its lines.
-/
import BuilderSpec.Proofs.Toml.Keys

namespace BuilderSpec.Toml

namespace Reader

/-! ## Reading step by step -/

theorem bind_of_read {α β : Type} {r : Reader α} {f : α → Reader β} {s t : List Char} {a : α}
    (h : r s = some (a, t)) : (r >>= f) s = f a t := by
  simp only [bind, StateT.bind, h, Option.bind_some]

/-- Nothing is skipped before a character that is no blank. -/
theorem skipBlanks_cons {c : Char} (h : isBlank c = false) (rest : List Char) :
    skipBlanks (c :: rest) = some ((), c :: rest) := by
  rw [skipBlanks, List.dropWhile_cons_of_neg (ne_true_of_eq_false h)]

/-! ## Keys -/

/-- Characters of a key without quotes, of which there is at least one. -/
structure Bare (k : List Char) : Prop where
  ne_nil : k ≠ []
  inBareKey : ∀ c ∈ k, inBareKey c = true

theorem Bare.exists_cons {k : List Char} (h : Bare k) :
    ∃ c rest, k = c :: rest ∧ Reader.inBareKey c = true := by
  cases k with
  | nil => exact absurd rfl h.ne_nil
  | cons c rest => exact ⟨c, rest, rfl, h.inBareKey c List.mem_cons_self⟩

/-- A bare key does not begin with a character that begins something else. -/
theorem ne_of_inBareKey {c d : Char} (hc : inBareKey c = true) (hd : inBareKey d = false) : c ≠ d := by
  rintro rfl
  rw [hc] at hd
  cases hd

theorem not_isBlank_of_inBareKey {c : Char} (hc : inBareKey c = true) : isBlank c = false := by
  simp [isBlank, ne_of_inBareKey hc (d := ' ') (by decide), ne_of_inBareKey hc (d := '\t') (by decide)]

theorem takeWhile_bare {k : List Char} (hk : Bare k) {c : Char} (hc : inBareKey c = false)
    (rest : List Char) : takeWhile inBareKey (k ++ c :: rest) = some (k, c :: rest) := by
  have hc' : ¬ inBareKey c = true := ne_true_of_eq_false hc
  rw [takeWhile, List.takeWhile_append_of_pos hk.inBareKey, List.dropWhile_append_of_pos hk.inBareKey,
    List.takeWhile_cons_of_neg hc', List.dropWhile_cons_of_neg hc', List.append_nil]

theorem keyName_bare {k : List Char} (hk : Bare k) (rest : List Char) :
    keyName (k ++ ' ' :: rest) = some (.ofList k, ' ' :: rest) := by
  have htake := takeWhile_bare hk (c := ' ') (by decide) rest
  have hempty : k.isEmpty = false := List.isEmpty_eq_false_iff.2 hk.ne_nil
  obtain ⟨c, cs, rfl, hc⟩ := hk.exists_cons
  unfold keyName
  rw [bind_of_read (r := peek) rfl, List.cons_append, List.head?_cons]
  generalize hnext : some c = next
  split
  · cases hnext
    cases hc
  · cases hnext
    cases hc
  · rw [← List.cons_append, bind_of_read htake]
    simp only [hempty]
    rfl

theorem key_bare {k : List Char} (hk : Bare k) (rest : List Char) :
    key (k ++ ' ' :: '=' :: rest) = some (⟨[], .ofList k⟩, '=' :: rest) := by
  have hskip : skipBlanks (k ++ ' ' :: '=' :: rest) = some ((), k ++ ' ' :: '=' :: rest) := by
    obtain ⟨c, cs, rfl, hc⟩ := hk.exists_cons
    exact skipBlanks_cons (not_isBlank_of_inBareKey hc) _
  unfold key nestingLimit keyNames
  rw [bind_of_read hskip, bind_of_read (keyName_bare hk _),
    bind_of_read (t := '=' :: rest) (a := ()) rfl,
    bind_of_read (t := '=' :: rest) (a := false) rfl]
  rfl

/-! ## Texts -/

/-- Characters that may stand between double quotes as they are. -/
structure Plain (c : Char) : Prop where
  inLine : inLine c = true
  ne_quote : c ≠ '"'
  ne_backslash : c ≠ '\\'

theorem basicBody_cons {c : Char} (hc : Plain c) (rest : List Char) :
    basicBody (c :: rest) = consRead c (basicBody rest) := by
  rw [basicBody]
  · simp [hc.inLine, hc.ne_backslash]
  · exact hc.ne_quote
  all_goals
    intros
    exact absurd ‹c = '\\'› hc.ne_backslash

theorem basicBody_plain {text : List Char} (h : ∀ c ∈ text, Plain c) (rest : List Char) :
    basicBody (text ++ '"' :: rest) = some (text, rest) := by
  induction text with
  | nil => rfl
  | cons c text ih =>
    obtain ⟨hc, htext⟩ := List.forall_mem_cons.1 h
    rw [List.cons_append, basicBody_cons hc, ih htext]
    rfl

/-- What follows a line: its end, and then the rest of the text. -/
inductive EndsLine : List Char → List Char → Prop
  | text : EndsLine [] []
  | lineFeed (rest : List Char) : EndsLine ('\n' :: rest) rest
  | carriageReturn (rest : List Char) : EndsLine ('\r' :: '\n' :: rest) rest

theorem EndsLine.length_le {tail rest : List Char} (h : EndsLine tail rest) :
    rest.length ≤ tail.length := by
  cases h with
  | text => exact Nat.le_refl _
  | lineFeed => exact Nat.le_add_right _ 1
  | carriageReturn => exact Nat.le_add_right _ 2

theorem string_plain {text : List Char} (h : ∀ c ∈ text, Plain c) {tail rest : List Char}
    (htail : EndsLine tail rest) : string ('"' :: (text ++ '"' :: tail)) = some (text, tail) := by
  have hline : lineString ('"' :: (text ++ '"' :: tail)) = some (text, tail) := basicBody_plain h tail
  cases text with
  | nil => cases htail <;> rfl
  | cons c text =>
    -- A quote behind the first one would begin a string of several lines.
    have hc : c ≠ '"' := (h c List.mem_cons_self).ne_quote
    rw [← hline, string]
    · intro rest' heq
      exact absurd (List.cons.inj (List.cons.inj heq).2).1 hc
    · intro rest' heq
      cases heq

theorem value_plain (n : Nat) {text : List Char} (h : ∀ c ∈ text, Plain c) {tail rest : List Char}
    (htail : EndsLine tail rest) :
    value n ('"' :: (text ++ '"' :: tail)) = some (.string (.ofList text), tail) := by
  rw [value]
  simp only [string_plain h htail, Option.map_some]

/-! ## Lines -/

theorem finishLine_of_endsLine {tail rest : List Char} (h : EndsLine tail rest) :
    finishLine tail = some ((), rest) := by
  cases h <;> rfl

section

variable {k text tail rest : List Char} (hk : Bare k) (htext : ∀ c ∈ text, Plain c)
  (htail : EndsLine tail rest)
include hk htext htail

theorem entry_plain :
    entry (value nestingLimit) (k ++ ' ' :: '=' :: ' ' :: '"' :: (text ++ '"' :: tail)) =
      some ((⟨[], .ofList k⟩, .string (.ofList text)), tail) := by
  unfold entry
  rw [bind_of_read (key_bare hk _),
    bind_of_read (t := ' ' :: '"' :: (text ++ '"' :: tail)) (a := ()) rfl,
    bind_of_read (t := '"' :: (text ++ '"' :: tail)) (a := ()) rfl,
    bind_of_read (value_plain nestingLimit htext htail)]
  rfl

theorem statement?_plain :
    statement? (k ++ ' ' :: '=' :: ' ' :: '"' :: (text ++ '"' :: tail)) =
      some (some (.entry ⟨[], .ofList k⟩ (.string (.ofList text))), tail) := by
  have hentry := entry_plain hk htext htail
  obtain ⟨c, cs, rfl, hc⟩ := hk.exists_cons
  unfold statement?
  rw [List.cons_append, bind_of_read (skipBlanks_cons (not_isBlank_of_inBareKey hc) _),
    bind_of_read (r := peek) rfl, List.head?_cons]
  -- The first character of the key is none of those that begin anything else than an entry.
  generalize hnext : some c = next
  split
  · cases hnext
  · cases hnext
    cases hc
  · cases hnext
    cases hc
  · cases hnext
    cases hc
  · cases hnext
    cases hc
  · rw [← List.cons_append, bind_of_read hentry]
    rfl

theorem line_plain :
    line (k ++ ' ' :: '=' :: ' ' :: '"' :: (text ++ '"' :: tail)) =
      some (some (.entry ⟨[], .ofList k⟩ (.string (.ofList text))), rest) := by
  unfold line
  rw [bind_of_read (statement?_plain hk htext htail), bind_of_read (finishLine_of_endsLine htail)]
  rfl

end

end Reader

/-! ## Documents -/

open Reader

/-- The line that gives a text to a key. -/
def entryLine (key text : String) : String :=
  key ++ " = \"" ++ text ++ "\""

theorem toList_entryLine_append (key text : String) (tail : List Char) :
    (entryLine key text).toList ++ tail =
      key.toList ++ ' ' :: '=' :: ' ' :: '"' :: (text.toList ++ '"' :: tail) := by
  simp [entryLine]

/-- Entries that can be written so that each line gives a text to a key as it is. -/
def Writable (entries : List (String × String)) : Prop :=
  ∀ entry ∈ entries, Bare entry.1.toList ∧ ∀ c ∈ entry.2.toList, Plain c

/-- The text has a line for each entry, in their order. -/
inductive Written : List (String × String) → List Char → Prop
  | nil : Written [] []
  | cons {key text : String} {entries : List (String × String)} {tail rest : List Char}
      (htail : EndsLine tail rest) (h : Written entries rest) :
      Written ((key, text) :: entries) ((entryLine key text).toList ++ tail)

theorem lines_of_written {entries : List (String × String)} {s : List Char} (h : Written entries s)
    (hentries : Writable entries) {n : Nat} (hn : s.length ≤ n) :
    lines n s = some (entries.map fun entry => .entry ⟨[], entry.1⟩ (.string entry.2)) := by
  induction h generalizing n with
  | nil => rw [lines]; rfl
  | @cons key text entries tail rest htail h ih =>
    obtain ⟨⟨hkey, htext⟩, hentries⟩ := List.forall_mem_cons.1 hentries
    have hrest := htail.length_le
    have hline := line_plain hkey htext htail
    rw [← toList_entryLine_append, String.ofList_toList, String.ofList_toList] at hline
    rw [toList_entryLine_append] at hline hn ⊢
    obtain ⟨n, rfl⟩ : ∃ m, n = m + 1 := Nat.exists_eq_add_one.2 (by simp at hn; omega)
    rw [lines]
    · simp only [hline, Option.bind_eq_bind, Option.bind_some]
      rw [ih hentries (by simp at hn; omega)]
      rfl
    · simp

/-- A line at the root of a document adds its entry at the end, when the key is new there. -/
theorem Document.add_entry {root : Table} {key : String} (h : root.lookup key = none) (v : Value) :
    Document.add ⟨root, []⟩ (.entry ⟨[], key⟩ v) = some ⟨root.append key v, []⟩ := by
  simp [Document.add, Table.alter, Table.insert, h]

/-- Lines that give different keys, none of which the document has, add all their entries. -/
theorem Document.foldlM_add_entries {entries : List (String × String)} {root : Table}
    (hkeys : (root.map Prod.fst ++ entries.map Prod.fst).Nodup) :
    (entries.map fun entry => Statement.entry ⟨[], entry.1⟩ (.string entry.2)).foldlM Document.add
        ⟨root, []⟩ =
      some ⟨root ++ entries.map fun entry => (entry.1, .string entry.2), []⟩ := by
  induction entries generalizing root with
  | nil => simp
  | cons entry rest ih =>
    have hnew : root.lookup entry.1 = none := by
      refine Table.lookup_eq_none_iff.2 fun hmem => ?_
      exact (List.nodup_append.1 hkeys).2.2 _ hmem entry.1 List.mem_cons_self rfl
    rw [List.map_cons, List.foldlM_cons, add_entry hnew]
    simp only [Option.bind_eq_bind, Option.bind_some]
    rw [ih]
    · simp [Table.append]
    · simpa [Table.append] using hkeys

theorem dropByteOrderMark_cons {c : Char} (h : c ≠ '\ufeff') (rest : List Char) :
    dropByteOrderMark (c :: rest) = c :: rest := by
  rw [dropByteOrderMark]
  simpa using h

theorem Written.dropByteOrderMark {entries : List (String × String)} {s : List Char}
    (h : Written entries s) (hentries : Writable entries) : dropByteOrderMark s = s := by
  cases h with
  | nil => rfl
  | @cons key text entries tail rest _ _ =>
    obtain ⟨c, cs, hcs, hc⟩ := (List.forall_mem_cons.1 hentries).1.1.exists_cons
    dsimp only at hcs
    rw [toList_entryLine_append, hcs]
    exact dropByteOrderMark_cons (ne_of_inBareKey hc (by decide)) _

/-- A document with a line for each entry is read back, when the keys are different. -/
theorem read?_of_written {entries : List (String × String)} {content : String}
    (h : Written entries content.toList) (hentries : Writable entries)
    (hkeys : (entries.map Prod.fst).Nodup) :
    read? content = some (entries.map fun entry => (entry.1, .string entry.2)) := by
  rw [read?, h.dropByteOrderMark hentries, statements?, lines_of_written h hentries (Nat.le_refl _)]
  simp only [Option.bind_some, Document.ofStatements, Document.empty]
  rw [Document.foldlM_add_entries (by simpa using hkeys)]
  simp

/-! ## Line ends -/

/-- A text that ends a line, whatever follows it. -/
def IsLineEnd (lineEnd : String) : Prop :=
  ∀ rest : List Char, EndsLine (lineEnd.toList ++ rest) rest

/-- The last line may be left without an end. -/
theorem written_intercalate {lineEnd : String} (h : IsLineEnd lineEnd)
    (entries : List (String × String)) :
    Written entries
      (lineEnd.intercalate (entries.map fun entry => entryLine entry.1 entry.2)).toList := by
  induction entries with
  | nil => exact .nil
  | cons entry rest ih =>
    cases rest with
    | nil =>
      have hline : Written [entry] ((entryLine entry.1 entry.2).toList ++ []) := .cons .text .nil
      simpa using hline
    | cons entry' rest =>
      rw [List.map_cons, List.map_cons, String.intercalate_cons_cons, String.append_assoc,
        String.toList_append, String.toList_append]
      exact .cons (h _) ih

theorem written_join {lineEnd : String} (h : IsLineEnd lineEnd) (entries : List (String × String)) :
    Written entries
      (String.join (entries.map fun entry => entryLine entry.1 entry.2 ++ lineEnd)).toList := by
  induction entries with
  | nil => exact .nil
  | cons entry rest ih =>
    rw [List.map_cons, String.join_cons, String.append_assoc, String.toList_append, String.toList_append]
    exact .cons (h _) ih

end BuilderSpec.Toml
