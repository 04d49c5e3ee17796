/-
TOML values and tables. A table remembers how it came to be, because that decides whether later
lines of the document may add to it.
-/
import BuilderSpec.Decimal.Binary64

namespace BuilderSpec.Toml

/-- How a table came to be. -/
inductive TableKind where
  /-- Written between braces: nothing may be added. -/
  | inline
  /-- Named by a header of its own, or the document itself. -/
  | headed
  /-- Passed through by the header of a table inside it. -/
  | implied
  /-- Passed through by a dotted key. -/
  | dotted
deriving DecidableEq

inductive Value where
  | string (text : String)
  | integer (n : Int)
  | float (x : Decimal.Binary64)
  | boolean (b : Bool)
  | dateTime (text : String)
  | array (items : List Value)
  | table (kind : TableKind) (entries : List (String × Value))
  /-- Tables that were each opened by a header in double brackets. -/
  | tables (items : List (List (String × Value)))

/-- Entries in the order in which they came to be. No two have one key. -/
abbrev Table := List (String × Value)

/-- A dotted key: the names of the tables on the way, and the name of the entry. -/
structure KeyPath where
  parents : List String
  name : String

namespace Table

/-- Puts a value in the place of the one that a key has. -/
def replace (t : Table) (key : String) (v : Value) : Table :=
  t.map fun entry => if entry.1 = key then (key, v) else entry

/-- Adds an entry at the end. -/
def append (t : Table) (key : String) (v : Value) : Table :=
  t ++ [(key, v)]

/-- Removes the entry of a key. -/
def erase (t : Table) (key : String) : Table :=
  t.filter fun entry => entry.1 != key

/-! ## Reaching into a table -/

/-- Changes the table at the end of a path, which `f` is told the kind of. Tables that are missing
on the way are made, of the kind `fresh`; of an array of tables it is the last that is entered. A
dotted key may not enter a table that has a header of its own, and nothing may enter a value. -/
def alter (fresh : TableKind) (f : TableKind → Table → Option Table) :
    TableKind → List String → Table → Option Table
  | kind, [], t => f kind t
  | _, key :: path, t =>
    match t.lookup key with
    | none => (alter fresh f fresh path []).map fun inner => t.append key (.table fresh inner)
    | some (.table .inline _) => none
    | some (.table kind inner) =>
      if fresh = .dotted && kind = .headed then none
      else (alter fresh f kind path inner).map fun inner' => t.replace key (.table kind inner')
    | some (.tables items) =>
      (alter fresh f .headed path (items.getLastD [])).map fun last =>
        t.replace key (.tables (items.dropLast ++ [last]))
    | some _ => none

/-- Adds an entry under a dotted key. The key must be new, and the table it is added to must be the
one that the line stands in or one that dotted keys have made. -/
def insert (k : KeyPath) (v : Value) (kind : TableKind) (t : Table) : Option Table :=
  alter .dotted
    (fun kind t =>
      if decide (kind = .dotted) = k.parents.isEmpty then none
      else if (t.lookup k.name).isSome then none
      else some (t.append k.name v))
    kind k.parents t

/-- Opens the table of a header. It may have been passed through by other headers before, and then
keeps its entries and moves to the end. -/
def openTable (k : KeyPath) (t : Table) : Option Table :=
  alter .implied
    (fun _ t =>
      match t.lookup k.name with
      | none => some (t.append k.name (.table .headed []))
      | some (.table .implied entries) =>
        some ((t.erase k.name).append k.name (.table .headed entries))
      | some _ => none)
    .headed k.parents t

/-- Opens the next table of the array of tables that a header in double brackets names. -/
def openNext (k : KeyPath) (t : Table) : Option Table :=
  alter .implied
    (fun _ t =>
      match t.lookup k.name with
      | none => some (t.append k.name (.tables [[]]))
      | some (.tables items) => some (t.replace k.name (.tables (items ++ [[]])))
      | some _ => none)
    .headed k.parents t

/-! ## Making tables -/

/-- The table of entries that are written one after another. -/
def ofEntries (entries : List (KeyPath × Value)) : Option Table :=
  entries.foldlM (fun t entry => insert entry.1 entry.2 .headed t) []

end Table

/-- One line of a document that says something. -/
inductive Statement where
  | entry (key : KeyPath) (v : Value)
  | header (key : KeyPath)
  | arrayHeader (key : KeyPath)

/-- A document as far as it has been read: all its entries, and the path of the table that the
next line adds to. -/
structure Document where
  root : Table
  current : List String

namespace Document

def empty : Document := ⟨[], []⟩

def add (d : Document) : Statement → Option Document
  | .entry key v =>
    (d.root.alter .implied (Table.insert key v) .headed d.current).map fun root => { d with root }
  | .header key =>
    (d.root.openTable key).map fun root => ⟨root, key.parents ++ [key.name]⟩
  | .arrayHeader key =>
    (d.root.openNext key).map fun root => ⟨root, key.parents ++ [key.name]⟩

/-- The entries of a document, if no two of its lines contradict each other. -/
def ofStatements (statements : List Statement) : Option Table :=
  (statements.foldlM add empty).map (·.root)

end Document

end BuilderSpec.Toml
