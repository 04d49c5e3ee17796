/-
The methods that every object has, and sets of them.
-/

namespace BuilderSpec

/-- Methods of every object that a user type may implement itself, and which are then not
generated. -/
inductive ObjectMethod where
  | toString
  | hashCode
  | equals
deriving DecidableEq

namespace ObjectMethod

/-- All of them, in their fixed order. -/
def all : List ObjectMethod := [toString, hashCode, equals]

/-- The name of the method in generated sources. -/
def methodName : ObjectMethod → String
  | toString => "toString"
  | hashCode => "hashCode"
  | equals => "equals"

/-- The name of the method where a set of methods is stored. -/
def key : ObjectMethod → String
  | toString => "ToString"
  | hashCode => "HashCode"
  | equals => "Equals"

end ObjectMethod

/-- A set of these methods: for each of them, whether it is a member. -/
structure MethodSet where
  hasToString : Bool
  hasHashCode : Bool
  hasEquals : Bool
deriving DecidableEq

namespace MethodSet

def empty : MethodSet := ⟨false, false, false⟩

def contains (s : MethodSet) : ObjectMethod → Bool
  | .toString => s.hasToString
  | .hashCode => s.hasHashCode
  | .equals => s.hasEquals

def insert (s : MethodSet) : ObjectMethod → MethodSet
  | .toString => { s with hasToString := true }
  | .hashCode => { s with hasHashCode := true }
  | .equals => { s with hasEquals := true }

def insertAll (s : MethodSet) (methods : List ObjectMethod) : MethodSet :=
  methods.foldl insert s

/-- The members in their fixed order. -/
def toList (s : MethodSet) : List ObjectMethod :=
  ObjectMethod.all.filter s.contains

theorem contains_insert (s : MethodSet) (m n : ObjectMethod) :
    (s.insert m).contains n = (decide (n = m) || s.contains n) := by
  cases m <;> cases n <;> simp [insert, contains]

theorem contains_insertAll (s : MethodSet) (methods : List ObjectMethod) (n : ObjectMethod) :
    (s.insertAll methods).contains n = (decide (n ∈ methods) || s.contains n) := by
  induction methods generalizing s with
  | nil => simp [insertAll]
  | cons m rest ih =>
    show ((s.insert m).insertAll rest).contains n = _
    rw [ih, contains_insert]
    by_cases h : n = m <;> by_cases h' : n ∈ rest <;> simp [h, h']

theorem mem_toList {s : MethodSet} {m : ObjectMethod} : m ∈ s.toList ↔ s.contains m = true := by
  cases m <;> simp [toList, ObjectMethod.all]

/-- A set is what it contains. -/
theorem ext {s t : MethodSet} (h : ∀ m, s.contains m = t.contains m) : s = t := by
  cases s; cases t
  have h1 := h .toString
  have h2 := h .hashCode
  have h3 := h .equals
  simp only [contains] at h1 h2 h3
  simp [h1, h2, h3]

end MethodSet

end BuilderSpec
