/-
How a structured value is laid out for a reader who inspects it: records with named fields, lists,
sets, and values that may be absent.
-/
import BuilderSpec.Text.Quoted

namespace BuilderSpec.Text

/-- Texts with a comma and a blank between them. -/
def commaSeparated (items : List String) : String :=
  ", ".intercalate items

/-- The fields of a record, each as its name, a colon and its value. -/
def fieldTexts (fields : List (String × String)) : String :=
  commaSeparated (fields.map fun f => f.1 ++ ": " ++ f.2)

/-- A record that shows all its fields. -/
def record (name : String) (fields : List (String × String)) : String :=
  name ++ " \x7b " ++ fieldTexts fields ++ " \x7d"

/-- A record that says that it has more fields than it shows. -/
def openRecord (name : String) (fields : List (String × String)) : String :=
  name ++ " \x7b " ++ fieldTexts fields ++ ", .. \x7d"

/-- A value under the name of its constructor. -/
def tagged (name value : String) : String :=
  name ++ "(" ++ value ++ ")"

/-- A value that may be absent. -/
def optional (value : Option String) : String :=
  match value with
  | some text => tagged "Some" text
  | none => "None"

def list (items : List String) : String :=
  "[" ++ commaSeparated items ++ "]"

def set (items : List String) : String :=
  "\x7b" ++ commaSeparated items ++ "\x7d"

def boolean (b : Bool) : String :=
  if b then "true" else "false"

end BuilderSpec.Text
