/-
Conventions read from a TOML document. A document may set each of the four names; those that it
leaves out keep their standard values.
-/
import BuilderSpec.Conventions.Basic
import BuilderSpec.Toml.Document

namespace BuilderSpec.Conventions

/-! ## Entries -/

/-- The four names, as a document calls them. -/
inductive Field where
  | builderSuffix
  | nested (role : NestedRole)
deriving DecidableEq

namespace Field

def key : Field → String
  | builderSuffix => "builder_suffix"
  | nested role => role.key

def all : List Field := builderSuffix :: NestedRole.all.map nested

/-- The field that a document calls `key`. -/
def ofKey? (key : String) : Option Field :=
  all.find? fun field => field.key == key

theorem ofKey?_key (field : Field) : ofKey? field.key = some field := by
  rcases field with _ | (_ | _ | _) <;> decide +kernel

end Field

/-- Gives a field a value. -/
def set (c : Conventions) (field : Field) (text : String) : Conventions :=
  match field with
  | .builderSuffix => { c with builderSuffix := text }
  | .nested .valueClass => { c with valueClass := text }
  | .nested .partialClass => { c with partialClass := text }
  | .nested .propertyEnum => { c with propertyEnum := text }

/-- What an entry holds that is not a text. Tables, dates and times are all maps. -/
inductive Found where
  | integer (n : Int)
  | float (x : Decimal.Binary64)
  | boolean (b : Bool)
  | sequence
  | map
deriving DecidableEq

def Found.text : Found → String
  | integer n => "integer `" ++ n.repr ++ "`"
  | float x => "floating point `" ++ x.toText ++ "`"
  | boolean b => "boolean `" ++ Text.boolean b ++ "`"
  | sequence => "sequence"
  | map => "map"

/-- Why an entry does not fit: its key is no field's, or it gives a field something else than a text. -/
inductive Misfit where
  | unknownField (key : String)
  | notText (field : Field) (found : Found)
deriving DecidableEq

def Misfit.detail : Misfit → String
  | unknownField key =>
    "unknown field `" ++ key ++ "`, expected one of " ++
      Text.commaSeparated (Field.all.map fun field => "`" ++ field.key ++ "`")
  | notText _ found => "invalid type: " ++ found.text ++ ", expected a string"

/-- The text of a value, or what it is instead. -/
def textOf : Toml.Value → Except Found String
  | .string text => .ok text
  | .integer n => .error (.integer n)
  | .float x => .error (.float x)
  | .boolean b => .error (.boolean b)
  | .dateTime _ => .error .map
  | .array _ => .error .sequence
  | .table _ _ => .error .map
  | .tables _ => .error .sequence

/-- Enters one entry of a document. A key that is not a field's is found before its value is looked
at. -/
def enter (c : Conventions) (entry : String × Toml.Value) : Except Misfit Conventions :=
  match Field.ofKey? entry.1 with
  | none => .error (.unknownField entry.1)
  | some field =>
    match textOf entry.2 with
    | .error found => .error (.notText field found)
    | .ok text => .ok (c.set field text)

/-- The conventions that the entries of a document set. The first entry that does not fit
decides. -/
def ofEntries (entries : Toml.Table) : Except Misfit Conventions :=
  entries.foldlM enter standard

/-! ## Documents -/

/-- Why a document gives no conventions. -/
inductive DocumentError where
  | malformed
  | misfit (m : Misfit)
  | invalid (fault : Fault)
deriving DecidableEq

/-- The conventions that the entries of a well-formed document set, if they can be used. -/
def ofTable (entries : Toml.Table) : Except DocumentError Conventions :=
  match ofEntries entries with
  | .error m => .error (.misfit m)
  | .ok c =>
    match c.validate with
    | .error fault => .error (.invalid fault)
    | .ok () => .ok c

/-- The conventions that a document sets. It is read to its end before its entries are looked at. -/
def ofToml (content : String) : Except DocumentError Conventions :=
  match Toml.read? content with
  | none => .error .malformed
  | some entries => ofTable entries

end BuilderSpec.Conventions
