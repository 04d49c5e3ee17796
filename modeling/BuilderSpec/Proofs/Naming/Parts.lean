/-
Names that are made of parts. Parts that do not hold the separator are read back from the whole; so are
identifiers that dots join, and the identifiers that make up the name of a package.
-/
import BuilderSpec.Naming.Identifier
import Mathlib.Data.List.Basic

namespace BuilderSpec

namespace Naming

theorem Identifier.text_injective : Function.Injective Identifier.text := by
  rintro ⟨text, valid⟩ ⟨text', valid'⟩ h
  cases h
  rfl

/-! ## Separators -/

section

variable {sep : Char} {s : String} (hs : s.toList = [sep])
include hs

theorem splitOn_intercalate {texts : List String} (hne : texts ≠ [])
    (h : ∀ text ∈ texts, sep ∉ text.toList) :
    (s.intercalate texts).toList.splitOn sep = texts.map String.toList := by
  have hchars : ∀ l ∈ texts.map String.toList, sep ∉ l := by
    intro l hl
    obtain ⟨text, htext, rfl⟩ := List.mem_map.1 hl
    exact h text htext
  rw [String.toList_intercalate, hs]
  exact List.splitOn_intercalate sep hchars (by simpa using hne)

/-- Texts that do not hold the separator are known by what they make with it between them. -/
theorem eq_of_intercalate_eq {texts texts' : List String} (hne : texts ≠ []) (hne' : texts' ≠ [])
    (h : ∀ text ∈ texts, sep ∉ text.toList) (h' : ∀ text ∈ texts', sep ∉ text.toList)
    (heq : s.intercalate texts = s.intercalate texts') : texts = texts' := by
  have hsplit := congrArg (fun text => text.toList.splitOn sep) heq
  simp only [splitOn_intercalate hs hne h, splitOn_intercalate hs hne' h'] at hsplit
  exact List.map_injective_iff.2 (fun _ _ => String.toList_inj.1) hsplit

end

/-! ## Identifiers -/

theorem isIdentifierChars_cons_iff {first : Char} {rest : List Char} :
    isIdentifierChars (first :: rest) = true ↔
      isIdentifierStart first = true ∧ ∀ c ∈ rest, isIdentifierPart c = true := by
  rw [isIdentifierChars, Bool.and_eq_true, List.all_eq_true]

theorem isIdentifierPart_of_mem {text : String} (h : isIdentifier text = true) {c : Char}
    (hc : c ∈ text.toList) : isIdentifierPart c = true := by
  unfold isIdentifier at h
  cases hchars : text.toList with
  | nil => rw [hchars] at hc; cases hc
  | cons first rest =>
    rw [hchars, isIdentifierChars_cons_iff] at h
    rw [hchars] at hc
    rcases List.mem_cons.1 hc with rfl | hc
    · exact isIdentifierPart_of_start h.1
    · exact h.2 c hc

/-- What may go on an identifier may go on behind one. -/
theorem isIdentifier_append {text suffix : String} (h : isIdentifier text = true)
    (hsuffix : ∀ c ∈ suffix.toList, isIdentifierPart c = true) :
    isIdentifier (text ++ suffix) = true := by
  unfold isIdentifier at h ⊢
  rw [String.toList_append]
  cases hchars : text.toList with
  | nil => rw [hchars] at h; cases h
  | cons first rest =>
    rw [hchars, isIdentifierChars_cons_iff] at h
    rw [List.cons_append, isIdentifierChars_cons_iff, List.forall_mem_append]
    exact ⟨h.1, h.2, hsuffix⟩

/-! ## Dots -/

theorem dot_notMem_of_isIdentifier {text : String} (h : isIdentifier text = true) :
    '.' ∉ text.toList := fun hdot =>
  absurd (isIdentifierPart_of_mem h hdot) (by decide)

/-- Texts without a dot are the parts of what they make with dots between them. -/
theorem dottedParts_intercalate {parts : List String} (hne : parts ≠ [])
    (h : ∀ part ∈ parts, '.' ∉ part.toList) : dottedParts (".".intercalate parts) = parts := by
  rw [dottedParts, splitOn_intercalate rfl hne h, List.map_map]
  exact (List.map_congr_left fun part _ => String.ofList_toList).trans (List.map_id parts)

theorem intercalate_dottedParts (text : String) : ".".intercalate (dottedParts text) = text := by
  apply String.toList_inj.1
  rw [String.toList_intercalate, dottedParts, List.map_map]
  have hid : String.toList ∘ String.ofList = id := funext fun l => String.toList_ofList
  rw [hid, List.map_id]
  exact List.intercalate_splitOn '.'

/-! ## Packages -/

theorem isPackageName_iff {text : String} :
    isPackageName text = true ↔ text = "" ∨ ∀ part ∈ dottedParts text, isIdentifier part = true := by
  rw [isPackageName, Bool.or_eq_true, String.isEmpty_iff, List.all_eq_true]

namespace PackageName

/-- The identifiers that make up the name of a package. The default package has none. -/
def parts (p : PackageName) : List String :=
  if p.text.isEmpty then [] else dottedParts p.text

theorem isIdentifier_of_mem_parts {p : PackageName} {part : String} (h : part ∈ p.parts) :
    isIdentifier part = true := by
  unfold parts at h
  split at h
  · cases h
  · rename_i hne
    have hvalid := p.valid
    rw [isPackageName, Bool.or_eq_true, List.all_eq_true] at hvalid
    exact (hvalid.resolve_left hne) part h

theorem intercalate_parts (p : PackageName) : ".".intercalate p.parts = p.text := by
  unfold parts
  split
  · rename_i hempty
    rw [String.isEmpty_iff.1 hempty, String.intercalate_nil]
  · exact intercalate_dottedParts p.text

theorem text_injective : Function.Injective PackageName.text := by
  rintro ⟨text, valid⟩ ⟨text', valid'⟩ h
  cases h
  rfl

theorem ofString?_text (p : PackageName) : ofString? p.text = some p := by
  simp [ofString?, p.valid]

theorem text_eq_of_ofString? {text : String} {p : PackageName} (h : ofString? text = some p) :
    p.text = text := by
  unfold ofString? at h
  split at h
  · cases h; rfl
  · cases h

/-- A package is known by the identifiers that make up its name. -/
theorem parts_injective : Function.Injective parts := by
  intro p q h
  apply text_injective
  rw [← p.intercalate_parts, ← q.intercalate_parts, h]

theorem qualify_text (p : PackageName) (name : String) :
    qualify p.text name = ".".intercalate (p.parts ++ [name]) := by
  unfold qualify
  split
  · rename_i hempty
    rw [parts, if_pos hempty, List.nil_append, String.intercalate_singleton]
  · rename_i hne
    have hparts : p.parts ≠ [] := by
      rw [parts, if_neg hne]
      intro hnil
      exact hne (by rw [← p.intercalate_parts, parts, if_neg hne, hnil]; rfl)
    rw [String.intercalate_append_of_ne_nil hparts (List.cons_ne_nil _ _), intercalate_parts,
      String.intercalate_singleton]

end PackageName

end Naming

end BuilderSpec
