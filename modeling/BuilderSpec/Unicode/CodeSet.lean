/-
Sets of code points, as the list of the points where membership changes. The tables of character
properties are written in this form.
-/

namespace BuilderSpec.Unicode

/-- A set of code points. `bounds` is increasing: membership begins at its first entry, ends before
its second, begins again at its third, and so on. -/
structure CodeSet where
  bounds : List Nat

namespace CodeSet

/-- A point is a member when an odd number of bounds lie at or below it. -/
def contains (s : CodeSet) (n : Nat) : Bool :=
  s.bounds.countP (· ≤ n) % 2 == 1

end CodeSet

end BuilderSpec.Unicode
