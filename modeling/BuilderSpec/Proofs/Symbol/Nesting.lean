/-
The declarations around the declaration of a path. Going outwards drops the last name at each step, under
whatever symbols the host compiler shows what is found there, and ends behind the outermost name. The text
of each is that of the one around it, a dot and its own name, so that it joins the package and all the names
that are left.
-/
import BuilderSpec.Proofs.Symbol.Path
import Mathlib.Data.List.Induction

namespace BuilderSpec

open Naming

namespace DeclRef

/-- The declaration that is reached from another in as many steps outwards as there are symbols, each step
showing what it finds under the next of them. -/
def outward (d : DeclRef) (symbols : List SymbolId) : Option DeclRef :=
  symbols.foldlM (fun inner symbol => inner.enclosing symbol) d

theorem outward_nil (d : DeclRef) : d.outward [] = some d := rfl

theorem outward_cons (d : DeclRef) (symbol : SymbolId) (symbols : List SymbolId) :
    d.outward (symbol :: symbols) = (d.enclosing symbol).bind fun outer => outer.outward symbols :=
  rfl

end DeclRef

namespace DeclPath

/-- Every path leads to the top level of a package, or into what another path leads to. -/
@[elab_as_elim]
theorem nestedInduction {P : DeclPath → Prop} (topLevel : ∀ package name, P (topLevel package name))
    (nested : ∀ d name, P d → P (nested d name)) (d : DeclPath) : P d := by
  obtain ⟨package, outermost, inner⟩ := d
  induction inner using List.reverseRecOn with
  | nil => exact topLevel package outermost
  | append_singleton inner name ih => exact nested ⟨package, outermost, inner⟩ name ih

/-- The path by its names, nested one after another. -/
theorem foldl_nested (d : DeclPath) : d.inner.foldl nested (topLevel d.package d.outermost) = d := by
  induction d using nestedInduction with
  | topLevel package name => rfl
  | nested d name ih => exact (List.foldl_concat ..).trans (congrArg (nested · name) ih)

/-! ## One step -/

theorem toDeclaration_nested (d : DeclPath) (name : String) :
    (d.nested name).toDeclaration = nest d.toDeclaration name :=
  List.foldl_concat ..

theorem names_nested (d : DeclPath) (name : String) : (d.nested name).names = d.names ++ [name] := rfl

theorem simpleName_toRef_nested (d : DeclPath) (name : String) (symbol : SymbolId) :
    ((d.nested name).toRef symbol).simpleName = name := by
  rw [DeclRef.simpleName, toRef, toDeclaration_nested]
  rfl

theorem enclosing_toRef_nested (d : DeclPath) (name : String) (symbol fresh : SymbolId) :
    ((d.nested name).toRef symbol).enclosing fresh = some (d.toRef fresh) := by
  rw [DeclRef.enclosing, toRef, toDeclaration_nested]
  rfl

theorem text_toRef_nested (d : DeclPath) (name : String) (symbol fresh : SymbolId) :
    ((d.nested name).toRef symbol).text = (d.toRef fresh).text ++ "." ++ name := by
  rw [DeclRef.text, toRef, toDeclaration_nested]
  rfl

/-- The text of a declaration is that of the one around it, a dot and its own name. -/
theorem text_of_enclosing {d : DeclPath} {symbol fresh : SymbolId} {outer : DeclRef}
    (h : (d.toRef symbol).enclosing fresh = some outer) :
    (d.toRef symbol).text = outer.text ++ "." ++ (d.toRef symbol).simpleName := by
  cases d using nestedInduction with
  | topLevel package name => cases h
  | nested d name =>
    rw [enclosing_toRef_nested] at h
    cases h
    rw [simpleName_toRef_nested, text_toRef_nested]

theorem qualify_append (package name rest : String) :
    qualify package (name ++ rest) = qualify package name ++ rest := by
  unfold qualify
  split
  · rfl
  · rw [String.append_assoc, String.append_assoc, String.append_assoc]

/-- The text of a declaration joins the package and the names down to it. -/
theorem text_toRef (d : DeclPath) (symbol : SymbolId) :
    (d.toRef symbol).text = qualify d.package (".".intercalate d.names) := by
  induction d using nestedInduction with
  | topLevel package name => rw [topLevel, names, String.intercalate_singleton]; rfl
  | nested d name ih =>
    have hne : d.names ≠ [] := List.cons_ne_nil _ _
    have hjoined : ".".intercalate (d.nested name).names = ".".intercalate d.names ++ "." ++ name := by
      rw [names_nested, String.intercalate_append_of_ne_nil hne (List.cons_ne_nil _ _),
        String.intercalate_singleton]
    rw [text_toRef_nested d name symbol symbol, ih, hjoined, String.append_assoc, String.append_assoc,
      qualify_append]
    rfl

/-! ## All steps -/

/-- The path without its last `n` names. -/
def dropInner (d : DeclPath) (n : Nat) : DeclPath :=
  { d with inner := d.inner.take (d.inner.length - n) }

theorem dropInner_zero (d : DeclPath) : d.dropInner 0 = d := by
  unfold dropInner
  rw [Nat.sub_zero, List.take_length]

theorem dropInner_nested (d : DeclPath) (name : String) (n : Nat) :
    (d.nested name).dropInner (n + 1) = d.dropInner n := by
  unfold dropInner nested
  simp only [List.length_append, List.length_singleton, Nat.add_sub_add_right]
  rw [List.take_append_of_le_length (Nat.sub_le ..)]

theorem names_dropInner (d : DeclPath) {n : Nat} (h : n ≤ d.inner.length) :
    (d.dropInner n).names = d.names.take (d.inner.length + 1 - n) := by
  rw [Nat.sub_add_comm h]
  rfl

/-- As many steps outwards as a path has names inside the outermost lead to what is left of the path. -/
theorem exists_outward_eq_some (d : DeclPath) (symbol : SymbolId) {symbols : List SymbolId}
    (h : symbols.length ≤ d.inner.length) :
    ∃ shown, (d.toRef symbol).outward symbols = some ((d.dropInner symbols.length).toRef shown) := by
  induction symbols generalizing d symbol with
  | nil => exact ⟨symbol, by rw [DeclRef.outward_nil, List.length_nil, dropInner_zero]⟩
  | cons fresh rest ih =>
    cases d using nestedInduction with
    | topLevel package name => cases h
    | nested d name =>
      rw [DeclRef.outward_cons, enclosing_toRef_nested, List.length_cons, dropInner_nested]
      refine ih d fresh ?_
      simpa [nested] using h

theorem outward_eq_none {d : DeclPath} {symbol : SymbolId} {symbols : List SymbolId}
    (h : d.inner.length < symbols.length) : (d.toRef symbol).outward symbols = none := by
  induction symbols generalizing d symbol with
  | nil => cases h
  | cons fresh rest ih =>
    cases d using nestedInduction with
    | topLevel package name => rfl
    | nested d name =>
      rw [DeclRef.outward_cons, enclosing_toRef_nested]
      refine ih ?_
      simpa [nested] using h

end DeclPath

end BuilderSpec
