/-
What a document says, and what becomes of it. An entry fits when it gives a string to a field. The first
entry that does not fit decides over the document. When all fit, they set the strings they give over the
standard values, in whatever order they stand, and the conventions so set are the result if they can be
used.
-/
import Mathlib
import BuilderSpec.Conventions.Document
import BuilderSpec.Proofs.Conventions.Usable
import BuilderSpec.Proofs.Toml.Keys

namespace BuilderSpec.Conventions

/-! ## Fields -/

theorem Field.key_injective : Function.Injective Field.key := by
  intro f g h
  have hfound := Field.ofKey?_key f
  rw [h, Field.ofKey?_key] at hfound
  exact (Option.some.inj hfound).symm

theorem Field.mem_all (field : Field) : field ∈ Field.all :=
  List.mem_of_find?_eq_some (Field.ofKey?_key field)

theorem Field.ofKey?_eq_none_iff {key : String} :
    Field.ofKey? key = none ↔ ∀ field : Field, field.key ≠ key := by
  unfold Field.ofKey?
  rw [List.find?_eq_none]
  exact ⟨fun h field => by simpa using h field field.mem_all, fun h field _ => by simpa using h field⟩

/-- The value of a field. -/
def value (c : Conventions) : Field → String
  | .builderSuffix => c.builderSuffix
  | .nested role => c.nestedName role

theorem ext_value {c c' : Conventions} (h : ∀ field, c.value field = c'.value field) : c = c' := by
  cases c
  cases c'
  have hsuffix := h .builderSuffix
  have hvalue := h (.nested .valueClass)
  have hpartial := h (.nested .partialClass)
  have henum := h (.nested .propertyEnum)
  simp only [value, nestedName] at hsuffix hvalue hpartial henum
  rw [hsuffix, hvalue, hpartial, henum]

theorem value_set_self (c : Conventions) (field : Field) (text : String) :
    (c.set field text).value field = text := by
  rcases field with _ | (_ | _ | _) <;> rfl

theorem value_set_of_ne (c : Conventions) {field other : Field} (h : other ≠ field) (text : String) :
    (c.set field text).value other = c.value other := by
  rcases field with _ | (_ | _ | _) <;> rcases other with _ | (_ | _ | _) <;>
    simp_all [set, value, nestedName]

/-! ## Entries -/

/-- The entry gives a string to a field. -/
def Fits (entry : String × Toml.Value) : Prop :=
  ∃ (field : Field) (text : String), entry = (field.key, .string text)

/-- The entry does not fit, and why. A key that is no field's is the reason whatever its value is. -/
inductive Misfits : String × Toml.Value → Misfit → Prop where
  | unknownField {key : String} {v : Toml.Value} (h : ∀ field : Field, field.key ≠ key) :
    Misfits (key, v) (.unknownField key)
  | notText {field : Field} {v : Toml.Value} {found : Found} (h : textOf v = .error found) :
    Misfits (field.key, v) (.notText field found)

theorem textOf_eq_ok_iff {v : Toml.Value} {text : String} :
    textOf v = .ok text ↔ v = .string text := by
  cases v <;> simp [textOf]

theorem enter_of_fits (c : Conventions) (field : Field) (text : String) :
    c.enter (field.key, .string text) = .ok (c.set field text) := by
  simp only [enter, Field.ofKey?_key, textOf]

theorem enter_of_misfits (c : Conventions) {entry : String × Toml.Value} {m : Misfit}
    (h : Misfits entry m) : c.enter entry = .error m := by
  cases h with
  | unknownField h => simp only [enter, Field.ofKey?_eq_none_iff.2 h]
  | notText h => simp only [enter, Field.ofKey?_key, h]

theorem fits_or_misfits (entry : String × Toml.Value) : Fits entry ∨ ∃ m, Misfits entry m := by
  obtain ⟨key, v⟩ := entry
  cases hkey : Field.ofKey? key with
  | none => exact .inr ⟨_, .unknownField (Field.ofKey?_eq_none_iff.1 hkey)⟩
  | some field =>
    have : field.key = key := by simpa using List.find?_some hkey
    subst this
    cases htext : textOf v with
    | error found => exact .inr ⟨_, .notText htext⟩
    | ok text => exact .inl ⟨field, text, by rw [textOf_eq_ok_iff.1 htext]⟩

/-- Either all entries fit, or one of them is the first that does not. -/
theorem fit_or_first_misfits (entries : Toml.Table) :
    (∀ entry ∈ entries, Fits entry) ∨
      ∃ before entry after m, entries = before ++ entry :: after ∧
        (∀ entry ∈ before, Fits entry) ∧ Misfits entry m := by
  induction entries with
  | nil => exact .inl (List.forall_mem_nil _)
  | cons entry rest ih =>
    rcases fits_or_misfits entry with hfits | ⟨m, hm⟩
    · rcases ih with hrest | ⟨before, bad, after, m, rfl, hbefore, hm⟩
      · exact .inl (List.forall_mem_cons.2 ⟨hfits, hrest⟩)
      · exact .inr ⟨entry :: before, bad, after, m, rfl, List.forall_mem_cons.2 ⟨hfits, hbefore⟩, hm⟩
    · exact .inr ⟨[], entry, rest, m, rfl, List.forall_mem_nil _, hm⟩

/-! ## Entries one after another -/

/-- The conventions hold what the entries give, and for the fields that have no entry, what `start`
holds. -/
structure Records (start : Conventions) (entries : Toml.Table) (c : Conventions) : Prop where
  given : ∀ (field : Field) (text : String), (field.key, .string text) ∈ entries → c.value field = text
  absent : ∀ field : Field, field.key ∉ entries.map Prod.fst → c.value field = start.value field

theorem Records.of_perm {start c : Conventions} {entries entries' : Toml.Table}
    (h : Records start entries c) (hperm : entries.Perm entries') : Records start entries' c where
  given field text hmem := h.given field text (hperm.mem_iff.2 hmem)
  absent field hkey := h.absent field fun hmem => hkey ((hperm.map Prod.fst).mem_iff.1 hmem)

/-- What fitting entries record, they determine. -/
theorem Records.unique {start c c' : Conventions} {entries : Toml.Table}
    (hfit : ∀ entry ∈ entries, Fits entry) (h : Records start entries c)
    (h' : Records start entries c') : c = c' := by
  refine ext_value fun field => ?_
  by_cases hkey : field.key ∈ entries.map Prod.fst
  · obtain ⟨entry, hmem, heq⟩ := List.mem_map.1 hkey
    obtain ⟨other, text, rfl⟩ := hfit entry hmem
    rw [← Field.key_injective heq, h.given other text hmem, h'.given other text hmem]
  · rw [h.absent field hkey, h'.absent field hkey]

/-- Fitting entries with different keys are entered, and the outcome records them: by induction on the
entries, since an entry's field is not set again by those behind it. -/
theorem foldlM_enter_of_fits {entries : Toml.Table} (hkeys : entries.Keyed)
    (hfit : ∀ entry ∈ entries, Fits entry) (start : Conventions) :
    ∃ c, entries.foldlM enter start = .ok c ∧ Records start entries c := by
  induction entries generalizing start with
  | nil => exact ⟨start, rfl, fun _ _ h => absurd h List.not_mem_nil, fun _ _ => rfl⟩
  | cons entry rest ih =>
    obtain ⟨⟨field, text, rfl⟩, hrest⟩ := List.forall_mem_cons.1 hfit
    obtain ⟨hnew, hkeys⟩ := List.nodup_cons.1 hkeys
    obtain ⟨c, hc, hrecords⟩ := ih hkeys hrest (start.set field text)
    refine ⟨c, ?_, ?_, ?_⟩
    · rw [List.foldlM_cons, enter_of_fits]
      exact hc
    · intro other given hmem
      rcases List.mem_cons.1 hmem with heq | hmem
      -- No other entry has the key of the first one, so its text is still there at the end.
      · obtain ⟨hkey, hgiven⟩ := Prod.mk.inj heq
        cases Field.key_injective hkey
        cases hgiven
        rw [hrecords.absent field hnew, value_set_self]
      · exact hrecords.given other given hmem
    · intro other hother
      obtain ⟨hne, hother⟩ := not_or.1 (mt List.mem_cons.2 hother)
      rw [hrecords.absent other hother, value_set_of_ne _ fun heq => hne (congrArg Field.key heq)]

/-- Entering stops at the first entry that does not fit. -/
theorem foldlM_enter_of_misfits {before after : Toml.Table} {entry : String × Toml.Value} {m : Misfit}
    (hbefore : ∀ entry ∈ before, Fits entry) (hm : Misfits entry m) (start : Conventions) :
    (before ++ entry :: after).foldlM enter start = .error m := by
  induction before generalizing start with
  | nil =>
    rw [List.nil_append, List.foldlM_cons, enter_of_misfits start hm]
    rfl
  | cons first rest ih =>
    obtain ⟨⟨field, text, rfl⟩, hrest⟩ := List.forall_mem_cons.1 hbefore
    rw [List.cons_append, List.foldlM_cons, enter_of_fits]
    exact ih hrest _

/-! ## Documents -/

theorem ofTable_of_misfits {before after : Toml.Table} {entry : String × Toml.Value} {m : Misfit}
    (hbefore : ∀ entry ∈ before, Fits entry) (hm : Misfits entry m) :
    ofTable (before ++ entry :: after) = .error (.misfit m) := by
  simp only [ofTable, ofEntries, foldlM_enter_of_misfits hbefore hm]

section Fitting

variable {entries : Toml.Table} (hkeys : entries.Keyed) (hfit : ∀ entry ∈ entries, Fits entry)
include hkeys hfit

theorem ofEntries_of_records {c : Conventions} (hc : Records standard entries c) :
    ofEntries entries = .ok c := by
  obtain ⟨c', hentries, hc'⟩ := foldlM_enter_of_fits hkeys hfit standard
  rw [hc.unique hfit hc']
  exact hentries

theorem ofTable_of_validate {c : Conventions} (hc : Records standard entries c)
    (h : c.validate = .ok ()) : ofTable entries = .ok c := by
  simp only [ofTable, ofEntries_of_records hkeys hfit hc, h]

theorem ofTable_of_fault {c : Conventions} (hc : Records standard entries c) {fault : Fault}
    (h : c.validate = .error fault) : ofTable entries = .error (.invalid fault) := by
  simp only [ofTable, ofEntries_of_records hkeys hfit hc, h]

/-- The order of fitting entries does not matter. -/
theorem ofTable_perm {entries' : Toml.Table} (hperm : entries.Perm entries') :
    ofTable entries' = ofTable entries := by
  obtain ⟨c, -, hc⟩ := foldlM_enter_of_fits hkeys hfit standard
  have hkeys' : entries'.Keyed := (hperm.map Prod.fst).nodup_iff.1 hkeys
  have hfit' : ∀ entry ∈ entries', Fits entry := fun entry h => hfit entry (hperm.mem_iff.2 h)
  have hc' : Records standard entries' c := hc.of_perm hperm
  cases hvalid : c.validate with
  | ok => rw [ofTable_of_validate hkeys hfit hc hvalid, ofTable_of_validate hkeys' hfit' hc' hvalid]
  | error fault => rw [ofTable_of_fault hkeys hfit hc hvalid, ofTable_of_fault hkeys' hfit' hc' hvalid]

/-- A name that is standard for another class is not accepted where that class keeps it. -/
theorem ofTable_of_standard_name {role other : NestedRole} (hne : role ≠ other)
    (hgiven : ((Field.nested role).key, .string (standard.nestedName other)) ∈ entries)
    (habsent : (Field.nested other).key ∉ entries.map Prod.fst) :
    ∃ fault, ofTable entries = .error (.invalid fault) := by
  obtain ⟨c, -, hc⟩ := foldlM_enter_of_fits hkeys hfit standard
  have hshared : c.nestedName role = c.nestedName other :=
    (hc.given (.nested role) _ hgiven).trans (hc.absent (.nested other) habsent).symm
  cases hvalid : c.validate with
  | ok => exact absurd ((validate_eq_ok_iff_usable.1 hvalid).distinct hshared) hne
  | error fault => exact ⟨fault, ofTable_of_fault hkeys hfit hc hvalid⟩

end Fitting

/-- What becomes of a document with these entries. -/
inductive Verdict : Toml.Table → Except DocumentError Conventions → Prop where
  | misfit {before after : Toml.Table} {entry : String × Toml.Value} {m : Misfit}
    (hbefore : ∀ entry ∈ before, Fits entry) (h : Misfits entry m) :
    Verdict (before ++ entry :: after) (.error (.misfit m))
  | invalid {entries : Toml.Table} {c : Conventions} {fault : Fault}
    (hfit : ∀ entry ∈ entries, Fits entry) (hc : Records standard entries c)
    (h : c.validate = .error fault) : Verdict entries (.error (.invalid fault))
  | accepted {entries : Toml.Table} {c : Conventions}
    (hfit : ∀ entry ∈ entries, Fits entry) (hc : Records standard entries c)
    (h : c.validate = .ok ()) : Verdict entries (.ok c)

theorem verdict_ofTable {entries : Toml.Table} (hkeys : entries.Keyed) :
    Verdict entries (ofTable entries) := by
  rcases fit_or_first_misfits entries with hfit | ⟨before, entry, after, m, rfl, hbefore, hm⟩
  · obtain ⟨c, -, hc⟩ := foldlM_enter_of_fits hkeys hfit standard
    cases hvalid : c.validate with
    | ok =>
      rw [ofTable_of_validate hkeys hfit hc hvalid]
      exact .accepted hfit hc hvalid
    | error fault =>
      rw [ofTable_of_fault hkeys hfit hc hvalid]
      exact .invalid hfit hc hvalid
  · rw [ofTable_of_misfits hbefore hm]
    exact .misfit hbefore hm

/-- There is one verdict on each document: the one that is reached. -/
theorem ofTable_eq_iff {entries : Toml.Table} (hkeys : entries.Keyed)
    {result : Except DocumentError Conventions} : ofTable entries = result ↔ Verdict entries result := by
  constructor
  · rintro rfl
    exact verdict_ofTable hkeys
  · intro h
    cases h with
    | misfit hbefore hm => exact ofTable_of_misfits hbefore hm
    | invalid hfit hc hfault => exact ofTable_of_fault hkeys hfit hc hfault
    | accepted hfit hc hvalid => exact ofTable_of_validate hkeys hfit hc hvalid

theorem validate_of_ofTable {entries : Toml.Table} {c : Conventions} (hkeys : entries.Keyed)
    (h : ofTable entries = .ok c) : c.validate = .ok () := by
  cases (ofTable_eq_iff hkeys).1 h with
  | accepted _ _ hvalid => exact hvalid

theorem ofToml_of_read? {content : String} {entries : Toml.Table}
    (h : Toml.read? content = some entries) : ofToml content = ofTable entries := by
  simp only [ofToml, h]

theorem ofToml_of_malformed {content : String} (h : Toml.read? content = none) :
    ofToml content = .error .malformed := by
  simp only [ofToml, h]

/-- A document that is read has entries with different keys, and the result depends on them alone. For
all such entries, the result is the verdict on them; conventions that are accepted can be used; and when
all entries fit, a name that clashes with the standard name of a class without an entry is refused, and
the order of the entries does not matter. -/
theorem ofToml_decides :
    (∀ content : String, Toml.read? content = none → ofToml content = .error .malformed) ∧
    (∀ (content : String) (entries : Toml.Table), Toml.read? content = some entries →
      entries.Keyed ∧ ofToml content = ofTable entries) ∧
    ∀ entries : Toml.Table, entries.Keyed →
      (∀ result, ofTable entries = result ↔ Verdict entries result) ∧
      (∀ c, ofTable entries = .ok c → c.validate = .ok ()) ∧
      ((∀ entry ∈ entries, Fits entry) →
        (∀ role other : NestedRole, role ≠ other →
          (role.key, .string (standard.nestedName other)) ∈ entries →
          other.key ∉ entries.map Prod.fst → ∃ fault, ofTable entries = .error (.invalid fault)) ∧
        (∀ entries' : Toml.Table, entries.Perm entries' → ofTable entries' = ofTable entries)) := by
  refine ⟨fun _ h => ofToml_of_malformed h, fun _ _ h => ⟨Toml.keyed_of_read? h, ofToml_of_read? h⟩,
    fun entries hkeys => ⟨fun _ => ofTable_eq_iff hkeys, fun _ h => validate_of_ofTable hkeys h,
      fun hfit => ⟨fun role other hne hgiven habsent => ?_, fun _ h => ofTable_perm hkeys hfit h⟩⟩⟩
  exact ofTable_of_standard_name hkeys hfit hne hgiven habsent

/-- Of two names that a document gives, one is standard for a third class. It is refused, in whichever
order it gives them. -/
theorem ofToml_decides_twoNames :
    ∃ entries entries' : Toml.Table,
      Toml.read? "partial_class = \"Half\"\nvalue_class = \"Property\"" = some entries ∧
      Toml.read? "value_class = \"Property\"\npartial_class = \"Half\"" = some entries' ∧
      entries.Keyed ∧ (∀ entry ∈ entries, Fits entry) ∧ entries.Perm entries' ∧
      (∃ fault, ofTable entries = .error (.invalid fault)) ∧
      ofToml "value_class = \"Property\"\npartial_class = \"Half\"" = ofTable entries := by
  have hread : Toml.read? "partial_class = \"Half\"\nvalue_class = \"Property\"" =
      some [("partial_class", .string "Half"), ("value_class", .string "Property")] := by cbv
  have hread' : Toml.read? "value_class = \"Property\"\npartial_class = \"Half\"" =
      some [("value_class", .string "Property"), ("partial_class", .string "Half")] := by cbv
  obtain ⟨hkeys, -⟩ := ofToml_decides.2.1 _ _ hread
  obtain ⟨-, hresult'⟩ := ofToml_decides.2.1 _ _ hread'
  have hfit : ∀ entry ∈ [("partial_class", Toml.Value.string "Half"), ("value_class", .string "Property")],
      Fits entry := by
    simp only [List.forall_mem_cons]
    exact ⟨⟨.nested .partialClass, "Half", rfl⟩, ⟨.nested .valueClass, "Property", rfl⟩,
      List.forall_mem_nil _⟩
  obtain ⟨hrefused, horder⟩ := (ofToml_decides.2.2 _ hkeys).2.2 hfit
  have hperm := List.Perm.swap ("value_class", Toml.Value.string "Property")
    ("partial_class", .string "Half") []
  refine ⟨_, _, hread, hread', hkeys, hfit, hperm, ?_, hresult'.trans (horder _ hperm)⟩
  exact hrefused .valueClass .propertyEnum (by decide) (List.mem_cons_of_mem _ List.mem_cons_self)
    (by decide)

end BuilderSpec.Conventions
