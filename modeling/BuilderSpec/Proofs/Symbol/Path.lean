/-
The declarations of paths: the names that are met on the way outwards, turned round, are those down to the
declaration, which are those of its path, and with the package they determine the path. Joined by
underscores, names without underscores are known by what they make; others need not be.
-/
import BuilderSpec.Proofs.Naming.Parts
import BuilderSpec.Symbol.Declaration

namespace BuilderSpec

namespace Declaration

/-- The way outwards goes from a declaration to the one around it, until there is none. -/
theorem namesOutward_eq (met : List String) (d : Declaration) :
    d.namesOutward met = match d.enclosing with
      | none => met ++ [d.simpleName]
      | some outer => outer.namesOutward (met ++ [d.simpleName]) := by
  cases d <;> rfl

/-- What is met on the way outwards is what is there on the way back, before what was met already. -/
theorem reverse_namesOutward (met : List String) (d : Declaration) :
    (d.namesOutward met).reverse = d.names ++ met.reverse := by
  induction d generalizing met with
  | topLevel text simpleName => exact List.reverse_concat ..
  | nested outer text simpleName ih =>
    rw [namesOutward, ih, List.reverse_concat, names, List.append_assoc, List.singleton_append]

theorem flatName_eq (d : Declaration) : d.flatName = "_".intercalate d.names := by
  rw [flatName, reverse_namesOutward, List.reverse_nil, List.append_nil]

end Declaration

namespace DeclPath

theorem names_foldl_nest (outer : Declaration) (inner : List String) :
    (inner.foldl nest outer).names = outer.names ++ inner := by
  induction inner generalizing outer with
  | nil => exact (List.append_nil _).symm
  | cons name rest ih =>
    rw [List.foldl_cons, ih, nest, Declaration.names, List.append_assoc, List.singleton_append]

theorem names_toDeclaration (d : DeclPath) : d.toDeclaration.names = d.names :=
  names_foldl_nest _ _

theorem flatName_toDeclaration (d : DeclPath) :
    d.toDeclaration.flatName = "_".intercalate d.names := by
  rw [Declaration.flatName_eq, names_toDeclaration]

theorem eq_of_names {d e : DeclPath} (hp : d.package = e.package) (hn : d.names = e.names) : d = e := by
  cases d
  cases e
  cases hp
  cases hn
  rfl

/-- Joined names are known by what they make when no name holds an underscore, or nothing is joined. -/
theorem names_eq_of_joined {d e : DeclPath} (h : "_".intercalate d.names = "_".intercalate e.names)
    (hplain : (∀ name ∈ d.names ++ e.names, '_' ∉ name.toList) ∨ (d.inner = [] ∧ e.inner = [])) :
    d.names = e.names := by
  rcases hplain with hplain | ⟨hd, he⟩
  · have hdplain : ∀ name ∈ d.names, '_' ∉ name.toList :=
      fun name hname => hplain name (List.mem_append_left _ hname)
    have heplain : ∀ name ∈ e.names, '_' ∉ name.toList :=
      fun name hname => hplain name (List.mem_append_right _ hname)
    have hsep : "_".toList = ['_'] := rfl
    exact Naming.eq_of_intercalate_eq hsep (List.cons_ne_nil _ _) (List.cons_ne_nil _ _) hdplain heplain h
  · simpa [names, hd, he] using h

end DeclPath

end BuilderSpec
