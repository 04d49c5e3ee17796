/-
The keys of a document. Whatever its lines say, no two of its entries have one key: each line adds an
entry under a key that is new where it adds it, or puts a value in the place of another.
-/
import BuilderSpec.Toml.Document
import Mathlib.Data.List.Nodup
import Mathlib.Data.List.Basic

namespace BuilderSpec.Toml

namespace Table

/-- No two entries of a table have one key. -/
def Keyed (t : Table) : Prop :=
  (t.map Prod.fst).Nodup

theorem keyed_nil : Keyed [] := List.nodup_nil

theorem lookup_eq_none_iff {t : Table} {key : String} :
    t.lookup key = none ↔ key ∉ t.map Prod.fst := by
  rw [List.lookup_eq_none_iff]
  constructor
  · intro h hmem
    obtain ⟨entry, hentry, rfl⟩ := List.mem_map.1 hmem
    have := h entry hentry
    simp at this
  · intro h entry hentry
    rw [bne_iff_ne]
    rintro rfl
    exact h (List.mem_map_of_mem hentry)

/-! ## Changes at the root -/

variable {t t' : Table}

theorem Keyed.append (ht : t.Keyed) {key : String} (h : t.lookup key = none) (v : Value) :
    (t.append key v).Keyed := by
  unfold Keyed Table.append
  rw [List.map_append, List.map_singleton, List.nodup_append]
  refine ⟨ht, List.nodup_singleton _, fun a ha b hb heq => ?_⟩
  rw [heq, List.mem_singleton.1 hb] at ha
  exact lookup_eq_none_iff.1 h ha

theorem keys_replace (t : Table) (key : String) (v : Value) :
    (t.replace key v).map Prod.fst = t.map Prod.fst := by
  unfold replace
  rw [List.map_map]
  refine List.map_congr_left fun entry _ => ?_
  simp only [Function.comp_apply]
  split
  · rename_i h; exact h.symm
  · rfl

theorem Keyed.replace (ht : t.Keyed) (key : String) (v : Value) : (t.replace key v).Keyed := by
  unfold Keyed
  rw [keys_replace]
  exact ht

theorem Keyed.erase (ht : t.Keyed) (key : String) : (t.erase key).Keyed :=
  ht.sublist (List.filter_sublist.map Prod.fst)

theorem lookup_erase (t : Table) (key : String) : (t.erase key).lookup key = none := by
  rw [List.lookup_eq_none_iff]
  intro entry hentry
  have hne : entry.1 ≠ key := bne_iff_ne.1 (List.mem_filter.1 hentry).2
  simpa using hne.symm

/-! ## Changes further in -/

/-- A change keeps tables keyed when it keeps the one at the end of its path so. -/
theorem Keyed.alter {fresh : TableKind} {f : TableKind → Table → Option Table}
    (hf : ∀ kind (t t' : Table), t.Keyed → f kind t = some t' → t'.Keyed) {kind : TableKind}
    {path : List String} (ht : t.Keyed) (h : Table.alter fresh f kind path t = some t') : t'.Keyed := by
  cases path with
  | nil => exact hf kind t t' ht h
  | cons key path =>
    -- Only the entry under the first key of the path is added or given another value: what happens
    -- further in does not matter to the keys of this table, so there is no induction.
    rw [Table.alter] at h
    split at h
    · rename_i hnone
      obtain ⟨inner, -, rfl⟩ := Option.map_eq_some_iff.1 h
      exact ht.append hnone _
    · cases h
    · split at h
      · cases h
      · obtain ⟨inner, -, rfl⟩ := Option.map_eq_some_iff.1 h
        exact ht.replace key _
    · obtain ⟨last, -, rfl⟩ := Option.map_eq_some_iff.1 h
      exact ht.replace key _
    · cases h

theorem Keyed.insert {k : KeyPath} {v : Value} {kind : TableKind} (ht : t.Keyed)
    (h : Table.insert k v kind t = some t') : t'.Keyed := by
  refine ht.alter (fun kind u u' hu hu' => ?_) h
  split at hu'
  · cases hu'
  · split at hu'
    · cases hu'
    · rename_i hnone
      cases hu'
      exact hu.append (Option.not_isSome_iff_eq_none.1 hnone) v

theorem Keyed.openTable {k : KeyPath} (ht : t.Keyed) (h : t.openTable k = some t') : t'.Keyed := by
  refine ht.alter (fun kind u u' hu hu' => ?_) h
  split at hu'
  · rename_i hnone
    cases hu'
    exact hu.append hnone _
  · cases hu'
    exact (hu.erase k.name).append (lookup_erase u k.name) _
  · cases hu'

theorem Keyed.openNext {k : KeyPath} (ht : t.Keyed) (h : t.openNext k = some t') : t'.Keyed := by
  refine ht.alter (fun kind u u' hu hu' => ?_) h
  split at hu'
  · rename_i hnone
    cases hu'
    exact hu.append hnone _
  · cases hu'
    exact hu.replace k.name _
  · cases hu'

end Table

/-! ## Documents -/

theorem Document.keyed_add {d d' : Document} {s : Statement} (hd : d.root.Keyed)
    (h : d.add s = some d') : d'.root.Keyed := by
  cases s with
  | entry key v =>
    obtain ⟨root, hroot, rfl⟩ := Option.map_eq_some_iff.1 h
    exact hd.alter (fun _ _ _ hu hu' => hu.insert hu') hroot
  | header key =>
    obtain ⟨root, hroot, rfl⟩ := Option.map_eq_some_iff.1 h
    exact hd.openTable hroot
  | arrayHeader key =>
    obtain ⟨root, hroot, rfl⟩ := Option.map_eq_some_iff.1 h
    exact hd.openNext hroot

theorem Document.keyed_foldlM_add {d d' : Document} {statements : List Statement} (hd : d.root.Keyed)
    (h : statements.foldlM add d = some d') : d'.root.Keyed := by
  induction statements generalizing d with
  | nil => cases h; exact hd
  | cons s rest ih =>
    rw [List.foldlM_cons] at h
    obtain ⟨d'', hadd, h⟩ := Option.bind_eq_some_iff.1 h
    exact ih (keyed_add hd hadd) h

/-- The entries of a document that is read have different keys. -/
theorem keyed_of_read? {text : String} {t : Table} (h : read? text = some t) : t.Keyed := by
  obtain ⟨statements, -, h⟩ := Option.bind_eq_some_iff.1 h
  obtain ⟨d, hd, rfl⟩ := Option.map_eq_some_iff.1 h
  exact Document.keyed_foldlM_add Table.keyed_nil hd

end BuilderSpec.Toml
