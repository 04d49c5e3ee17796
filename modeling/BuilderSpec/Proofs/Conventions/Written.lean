/-
Conventions written as a document, with a line for each field and the value between double quotes as it
is. No value that can be used has a character that would have to be written otherwise, so it is read back
as it was; and a field without a line keeps its standard value.
-/
import BuilderSpec.Proofs.Conventions.Document
import BuilderSpec.Proofs.Naming.Parts
import BuilderSpec.Proofs.Toml.Written

namespace BuilderSpec.Conventions

open Naming

/-! ## Characters of the values -/

/-- Nothing before the blank can stand in an identifier. -/
theorem blank_le_of_isIdentifierPart {ch : Char} (h : isIdentifierPart ch = true) : ' ' ≤ ch := by
  have hcontrol : ∀ n < ' '.toNat, isIdentifierPart (Char.ofNat n) = false := by decide
  by_contra hlt
  have := hcontrol ch.toNat (Char.not_le.1 hlt)
  rw [Char.ofNat_toNat, h] at this
  cases this

theorem plain_of_isIdentifierPart {ch : Char} (h : isIdentifierPart ch = true) :
    Toml.Reader.Plain ch := by
  have hne : ∀ d : Char, isIdentifierPart d = false → ch ≠ d := by
    rintro d hd rfl
    rw [hd] at h
    cases h
  refine ⟨?_, hne '"' (by decide), hne '\\' (by decide)⟩
  have hdelete : ch ≠ '\x7f' := hne _ (by decide)
  simp [Toml.Reader.inLine, blank_le_of_isIdentifierPart h, hdelete]

/-- All characters of a value that can be used may stand in an identifier. -/
theorem Usable.isIdentifierPart_of_mem {c : Conventions} (hc : c.Usable) {field : Field} {ch : Char}
    (h : ch ∈ (c.value field).toList) : isIdentifierPart ch = true := by
  cases field with
  | builderSuffix => exact hc.suffix_part ch h
  | nested role => exact Naming.isIdentifierPart_of_mem (hc.identifier role) h

theorem Field.bare_key (field : Field) : Toml.Reader.Bare field.key.toList := by
  rcases field with _ | (_ | _ | _) <;>
    exact ⟨by decide, List.all_eq_true.1 (by decide +kernel)⟩

/-! ## Lines -/

/-- The field with its value, as an entry. -/
def written (c : Conventions) (field : Field) : String × String :=
  (field.key, c.value field)

/-- The line of a field: its key, the sign of equality, and its value between double quotes. -/
def line (c : Conventions) (field : Field) : String :=
  field.key ++ " = \"" ++ c.value field ++ "\""

theorem Usable.writable_map_written {c : Conventions} (hc : c.Usable) (fields : List Field) :
    Toml.Writable (fields.map c.written) := by
  intro entry hentry
  obtain ⟨field, -, rfl⟩ := List.mem_map.1 hentry
  exact ⟨field.bare_key, fun ch hch => plain_of_isIdentifierPart (hc.isIdentifierPart_of_mem hch)⟩

theorem map_fst_map_written (c : Conventions) (fields : List Field) :
    (fields.map c.written).map Prod.fst = fields.map Field.key :=
  List.map_map

/-- Fields with their values record the conventions, when the others have their standard values. -/
theorem records_map_written {c : Conventions} {fields : List Field}
    (hall : ∀ field, c.value field ≠ standard.value field → field ∈ fields) :
    Records standard (fields.map fun field => (field.key, .string (c.value field))) c where
  given field text hmem := by
    obtain ⟨other, -, heq⟩ := List.mem_map.1 hmem
    obtain ⟨hkey, htext⟩ := Prod.mk.inj heq
    rw [← Field.key_injective hkey]
    exact Toml.Value.string.inj htext
  absent field hkey := by
    by_contra hne
    exact hkey (List.mem_map.2 ⟨_, List.mem_map_of_mem (hall field hne), rfl⟩)

section Reading

variable {c : Conventions} (hc : c.validate = .ok ()) {fields : List Field} (hnodup : fields.Nodup)
  (hall : ∀ field, c.value field ≠ standard.value field → field ∈ fields)
include hc hnodup hall

/-- However its lines end, a document with a line for each of the fields gives the conventions. -/
theorem ofToml_of_written {content : String}
    (h : Toml.Written (fields.map c.written) content.toList) : ofToml content = .ok c := by
  have hkeys : (fields.map Field.key).Nodup := hnodup.map Field.key_injective
  have hread := Toml.read?_of_written h
    ((validate_eq_ok_iff_usable.1 hc).writable_map_written fields) (by rwa [map_fst_map_written])
  rw [List.map_map] at hread
  rw [ofToml_of_read? hread]
  refine ofTable_of_validate ?_ ?_ (records_map_written hall) hc
  · unfold Toml.Table.Keyed
    rwa [List.map_map]
  · intro entry hentry
    obtain ⟨field, -, rfl⟩ := List.mem_map.1 hentry
    exact ⟨field, c.value field, rfl⟩

/-- Conventions that can be used are read back from their lines, in whatever order these stand, when no
field has two lines and each field without a line has its standard value. The lines end all with a line
feed or all with a carriage return before it, and the last one may end with the document. -/
theorem ofToml_lines {lineEnd : String} (hend : lineEnd = "\n" ∨ lineEnd = "\r\n") :
    ofToml (lineEnd.intercalate (fields.map c.line)) = .ok c ∧
      ofToml (String.join (fields.map fun field => c.line field ++ lineEnd)) = .ok c := by
  have hlineEnd : Toml.IsLineEnd lineEnd := by
    rcases hend with rfl | rfl
    · exact .lineFeed
    · exact .carriageReturn
  constructor
  · refine ofToml_of_written hc hnodup hall ?_
    have h := Toml.written_intercalate hlineEnd (fields.map c.written)
    rwa [List.map_map] at h
  · refine ofToml_of_written hc hnodup hall ?_
    have h := Toml.written_join hlineEnd (fields.map c.written)
    rwa [List.map_map] at h

end Reading

/-- A suffix and a name that are not standard have lines, and so has a name that is; the fourth value is
left out. -/
theorem ofToml_lines_threeFields :
    ∃ (c : Conventions) (fields : List Field), c.validate = .ok () ∧ fields.Nodup ∧
      (∀ field, c.value field ≠ standard.value field → field ∈ fields) ∧
      "\r\n".intercalate (fields.map c.line) =
        "property_enum = \"Property\"\r\nvalue_class = \"Größe\"\r\nbuilder_suffix = \"$2\"" ∧
      ofToml ("\r\n".intercalate (fields.map c.line)) = .ok c ∧
      ofToml (String.join (fields.map fun field => c.line field ++ "\r\n")) = .ok c := by
  have hvalid : validate ⟨"$2", "Größe", "Partial", "Property"⟩ = .ok () := by decide +kernel
  have hnodup : [Field.nested .propertyEnum, .nested .valueClass, .builderSuffix].Nodup := by decide
  have hall : ∀ field, value ⟨"$2", "Größe", "Partial", "Property"⟩ field ≠ standard.value field →
      field ∈ [Field.nested .propertyEnum, .nested .valueClass, .builderSuffix] := by
    rintro (_ | _ | _ | _) hne
    case nested.partialClass => exact absurd rfl hne
    all_goals decide
  exact ⟨_, _, hvalid, hnodup, hall, by decide +kernel, ofToml_lines hvalid hnodup hall (.inr rfl)⟩

end BuilderSpec.Conventions
