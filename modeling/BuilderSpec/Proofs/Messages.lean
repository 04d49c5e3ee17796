/-
What the messages of errors say. Each names what it is about: the text that was to name something, the
fields of conventions that are at fault and what they hold, the entry of a document that does not fit, the
path that could not be read, or the field of a property that is missing.
-/
import BuilderSpec.Conventions.File
import BuilderSpec.Property.Draft
import BuilderSpec.Proofs.Class.Nameable
import BuilderSpec.Proofs.Conventions.Document

namespace BuilderSpec

/-- The part stands somewhere in the message. -/
def Mentions (message part : String) : Prop :=
  ∃ before behind, message = before ++ part ++ behind

namespace Mentions

variable {message part : String}

theorem refl (part : String) : Mentions part part :=
  ⟨"", "", by rw [String.empty_append, String.append_empty]⟩

theorem append (h : Mentions message part) (after : String) : Mentions (message ++ after) part := by
  obtain ⟨before, behind, rfl⟩ := h
  exact ⟨before, behind ++ after, String.append_assoc ..⟩

theorem prepend (h : Mentions message part) (first : String) : Mentions (first ++ message) part := by
  obtain ⟨before, behind, rfl⟩ := h
  refine ⟨first ++ before, behind, ?_⟩
  rw [String.append_assoc, String.append_assoc, String.append_assoc]

theorem trans {inner : String} (h : Mentions message part) (hinner : Mentions part inner) :
    Mentions message inner := by
  obtain ⟨before, behind, rfl⟩ := h
  exact (hinner.prepend before).append behind

theorem commaSeparated {items : List String} (h : part ∈ items) :
    Mentions (Text.commaSeparated items) part := by
  induction items with
  | nil => cases h
  | cons item rest ih =>
    cases rest with
    | nil =>
      rw [List.mem_singleton.1 h, Text.commaSeparated, String.intercalate_singleton]
      exact refl item
    | cons next rest =>
      rw [Text.commaSeparated, String.intercalate_cons_cons]
      rcases List.mem_cons.1 h with rfl | h
      · exact ((refl part).append _).append _
      · exact (ih h).prepend _

end Mentions

theorem InvalidIdentifier.mentions_text (e : InvalidIdentifier) : Mentions e.message e.text :=
  ⟨"`", "` is not a valid identifier", rfl⟩

theorem Property.Field.mentions_key (field : Property.Field) : Mentions field.missingMessage field.key :=
  ((Mentions.refl _).prepend _).append _

/-! ## Conventions at fault -/

namespace Conventions

/-- The fields that a fault is about. -/
def Fault.fields : Fault → List Field
  | emptySuffix => [.builderSuffix]
  | suffixCharacters _ => [.builderSuffix]
  | invalidName role _ => [.nested role]
  | sharedName first second _ => [.nested first, .nested second]
  | builderName role _ => [.nested role]

/-- What those fields hold. -/
def Fault.text : Fault → String
  | emptySuffix => ""
  | suffixCharacters suffix => suffix
  | invalidName _ name => name
  | sharedName _ _ name => name
  | builderName _ name => name

theorem Fault.mentions_detail (fault : Fault) : Mentions fault.message fault.detail :=
  (Mentions.refl _).prepend _

theorem Fault.mentions_key {fault : Fault} {field : Field} (h : field ∈ fault.fields) :
    Mentions fault.message field.key := by
  refine fault.mentions_detail.trans ?_
  cases fault with
  | emptySuffix =>
    cases List.mem_singleton.1 h
    exact ⟨"", " must not be empty", rfl⟩
  | suffixCharacters suffix =>
    cases List.mem_singleton.1 h
    have hstart : Mentions "builder_suffix `" "builder_suffix" := ⟨"", " `", rfl⟩
    exact (hstart.append _).append _
  | sharedName first second name =>
    refine (Mentions.append ?_ _).append _ |>.append _
    rcases List.mem_cons.1 h with rfl | h
    · exact ((Mentions.refl _).append _).append _
    · cases List.mem_singleton.1 h
      exact (Mentions.refl _).prepend _
  | invalidName role name =>
    cases List.mem_singleton.1 h
    exact (((Mentions.refl _).append _).append _).append _
  | builderName role name =>
    cases List.mem_singleton.1 h
    exact (((Mentions.refl _).append _).append _).append _

theorem Fault.mentions_text (fault : Fault) : Mentions fault.message fault.text := by
  refine fault.mentions_detail.trans ?_
  cases fault with
  | emptySuffix => exact ⟨"", Fault.emptySuffix.detail, rfl⟩
  | _ => exact ((Mentions.refl _).prepend _).append _

theorem suffixFault?_cases {c : Conventions} {fault : Fault} (h : c.suffixFault? = some fault) :
    fault = .emptySuffix ∧ c.builderSuffix = "" ∨ fault = .suffixCharacters c.builderSuffix := by
  unfold suffixFault? at h
  split at h
  · rename_i hempty
    cases h
    exact .inl ⟨rfl, String.isEmpty_iff.1 hempty⟩
  · split at h
    · cases h
    · cases h
      exact .inr rfl

theorem nameFault?_cases {c : Conventions} {fault : Fault} (h : c.nameFault? = some fault) :
    ∃ role, fault = .invalidName role (c.nestedName role) := by
  obtain ⟨role, -, hrole⟩ := List.exists_of_findSome?_eq_some h
  split at hrole
  · cases hrole
  · cases hrole
    exact ⟨role, rfl⟩

theorem sharedNameFault?_cases {c : Conventions} {fault : Fault} (h : c.sharedNameFault? = some fault) :
    ∃ first second, c.nestedName first = c.nestedName second ∧
      fault = .sharedName first second (c.nestedName first) := by
  obtain ⟨⟨first, second⟩, -, hpair⟩ := List.exists_of_findSome?_eq_some h
  dsimp only at hpair
  split at hpair
  · rename_i hsame
    cases hpair
    exact ⟨first, second, hsame, rfl⟩
  · cases hpair

/-- The fields that a fault is about hold what it says that they hold. -/
theorem value_of_fault? {c : Conventions} {fault : Fault} (h : c.fault? = some fault) {field : Field}
    (hfield : field ∈ fault.fields) : c.value field = fault.text := by
  rcases (Option.orElse_eq_some ..).1 h with h | ⟨-, h⟩
  · rcases suffixFault?_cases h with ⟨rfl, hempty⟩ | rfl
    · cases List.mem_singleton.1 hfield
      exact hempty
    · cases List.mem_singleton.1 hfield
      rfl
  · rcases (Option.orElse_eq_some ..).1 h with h | ⟨-, h⟩
    · obtain ⟨role, rfl⟩ := nameFault?_cases h
      cases List.mem_singleton.1 hfield
      rfl
    · obtain ⟨first, second, hsame, rfl⟩ := sharedNameFault?_cases h
      rcases List.mem_cons.1 hfield with rfl | hfield
      · rfl
      · cases List.mem_singleton.1 hfield
        exact hsame.symm

/-- Conventions that cannot be used are refused with a message that names the fields at fault and what they
hold. -/
theorem mentions_of_validate {c : Conventions} {fault : Fault} (h : c.validate = .error fault) :
    fault.fields ≠ [] ∧ ∀ field ∈ fault.fields,
      Mentions fault.message field.key ∧ Mentions fault.message (c.value field) := by
  have hne : fault.fields ≠ [] := by cases fault <;> exact List.cons_ne_nil _ _
  refine ⟨hne, fun field hfield => ⟨fault.mentions_key hfield, ?_⟩⟩
  rw [value_of_fault? (validate_eq_error_iff.1 h) hfield]
  exact fault.mentions_text

/-! ## Entries that do not fit, and files that cannot be read -/

/-- An entry that does not fit is refused with a message that names its key and all keys that there are, or
what it gives instead of a text. -/
theorem mentions_of_misfits {key : String} {v : Toml.Value} {m : Misfit} (h : Misfits (key, v) m) :
    (Mentions m.detail key ∧ ∀ field : Field, Mentions m.detail ("`" ++ field.key ++ "`")) ∨
      ∃ found, textOf v = .error found ∧ Mentions m.detail found.text := by
  cases h with
  | unknownField _ =>
    refine .inl ⟨(((Mentions.refl _).prepend _).append _).append _, fun field => ?_⟩
    exact (Mentions.commaSeparated (List.mem_map_of_mem field.mem_all)).prepend _
  | notText hfound => exact .inr ⟨_, hfound, ((Mentions.refl _).prepend _).append _⟩

/-- A path that gives no text is refused with a message that names it and says why. -/
theorem ReadFailure.mentions_path (path : String) (failure : ReadFailure) :
    Mentions (failure.message path) path ∧ Mentions (failure.message path) failure.text :=
  ⟨(((Mentions.refl _).prepend _).append _).append _, (Mentions.refl _).prepend _⟩

end Conventions

/-! ## Classes that cannot be named -/

/-- Where no classes are named, the message names a field of the conventions with what it holds, or the
package or the name of the builder, which is no identifier. -/
theorem ClassFamily.mentions_of_forType {package name : String} {c : Conventions} {e : NamingError}
    (h : forType package name c = .error e) :
    (∃ field : Conventions.Field, Mentions e.message field.key ∧ Mentions e.message (c.value field)) ∨
      Naming.isPackageName package = false ∧ Mentions e.message package ∨
        Naming.isIdentifier (name ++ c.builderSuffix) = false ∧
          Mentions e.message (name ++ c.builderSuffix) := by
  obtain ⟨r, -, hbreaks⟩ := ((requires_forType package name c e).1 h).exists_mem
  cases hbreaks with
  | @conventions fault hfault =>
    obtain ⟨hne, hall⟩ := Conventions.mentions_of_validate hfault
    obtain ⟨field, hfield⟩ := List.exists_mem_of_ne_nil _ hne
    exact .inl ⟨field, hall field hfield⟩
  | package hpackage => exact .inr (.inl ⟨hpackage, InvalidIdentifier.mentions_text ⟨package⟩⟩)
  | builder hbuilder => exact .inr (.inr ⟨hbuilder, InvalidIdentifier.mentions_text ⟨_⟩⟩)
  | @apart role heq =>
    refine .inl ⟨.nested role, Conventions.Fault.mentions_key (List.mem_singleton_self _), ?_⟩
    rw [show c.value (.nested role) = name ++ c.builderSuffix from heq]
    exact Conventions.Fault.mentions_text _

end BuilderSpec
