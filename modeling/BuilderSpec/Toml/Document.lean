/-
TOML documents: values, keys and lines, and from them the entries of the document.
-/
import BuilderSpec.Toml.Reader
import BuilderSpec.Toml.Scalar

namespace BuilderSpec.Toml

namespace Reader

/-! ## Keys -/

/-- Characters of a key without quotes. -/
def inBareKey (c : Char) : Bool :=
  c.isAlphanum || c == '_' || c == '-'

/-- One name of a dotted key. -/
def keyName : Reader String := do
  match ← peek with
  | some '"' => return .ofList (← lineString)
  | some '\'' => return .ofList (← lineString)
  | _ =>
    let name ← takeWhile inBareKey
    if name.isEmpty then failure
    return .ofList name

/-- At most `n` names with dots between them, the last of them apart. -/
def keyNames : Nat → Reader KeyPath
  | 0 => failure
  | n + 1 => do
    skipBlanks
    let name ← keyName
    skipBlanks
    if ← takeIf '.' then
      let k ← keyNames n
      return { k with parents := name :: k.parents }
    return ⟨[], name⟩

/-- How many names a dotted key may have, and how deep arrays and tables may stand inside one
another. -/
def nestingLimit : Nat := 79

def key : Reader KeyPath := keyNames nestingLimit

/-! ## Values -/

/-- The items of an array up to its closing bracket. A comma may follow the last. There are at most
`n` items; the length of the text is always enough. -/
def arrayItems (item : Reader Value) : Nat → Reader (List Value)
  | 0 => failure
  | n + 1 => do
    skipGap
    if ← takeIf ']' then return []
    let v ← item
    skipGap
    if ← takeIf ',' then return v :: (← arrayItems item n)
    take ']'
    return [v]

/-- A key, the sign of equality and a value. -/
def entry (item : Reader Value) : Reader (KeyPath × Value) := do
  let k ← key
  take '='
  skipBlanks
  let v ← item
  return (k, v)

/-- The entries of a table between braces, which needs one. There are at most `n`. -/
def inlineEntries (item : Reader Value) : Nat → Reader (List (KeyPath × Value))
  | 0 => failure
  | n + 1 => do
    let first ← entry item
    skipBlanks
    if ← takeIf ',' then return first :: (← inlineEntries item n)
    take '}'
    return [first]

/-- The rest of an array. -/
def arrayBody (item : Reader Value) : Reader Value := fun s =>
  (arrayItems item (s.length + 1) s).map fun (items, rest) => (.array items, rest)

/-- The rest of a table between braces. -/
def inlineTableBody (item : Reader Value) : Reader Value := do
  skipBlanks
  if ← takeIf '}' then return .table .inline []
  let entries ← fun s => inlineEntries item s.length s
  match Table.ofEntries entries with
  | some t => return .table .inline t
  | none => failure

/-- A value that has at most `n` arrays and tables inside one another. -/
def value : Nat → Reader Value
  | n, s =>
    match s with
    | '"' :: _ => (string s).map fun (text, rest) => (.string (.ofList text), rest)
    | '\'' :: _ => (string s).map fun (text, rest) => (.string (.ofList text), rest)
    | '[' :: rest =>
      match n with
      | 0 => none
      | n + 1 => arrayBody (value n) rest
    | '\x7b' :: rest =>
      match n with
      | 0 => none
      | n + 1 => inlineTableBody (value n) rest
    | s => Scalar.read s

/-! ## Lines -/

/-- A header in brackets, which names a table, or in double brackets, which names an array of
tables. -/
def header : Reader Statement := do
  take '['
  if ← takeIf '[' then
    let k ← key
    take ']'
    take ']'
    return .arrayHeader k
  let k ← key
  take ']'
  return .header k

/-- What a line says. Blank lines and comments say nothing. -/
def statement? : Reader (Option Statement) := do
  skipBlanks
  match ← peek with
  | none => return none
  | some '#' => return none
  | some '\n' => return none
  | some '\r' => return none
  | some '[' => return some (← header)
  | some _ =>
    let (k, v) ← entry (value nestingLimit)
    return some (.entry k v)

/-- A whole line. -/
def line : Reader (Option Statement) := do
  let s ← statement?
  finishLine
  return s

/-- The statements of at most `n` lines that make up the rest of the text. -/
def lines : Nat → List Char → Option (List Statement)
  | _, [] => some []
  | 0, _ => none
  | n + 1, s => do
    let (said, rest) ← line s
    let more ← lines n rest
    return said.toList ++ more

end Reader

/-- A mark of the byte order may stand before the text. -/
def dropByteOrderMark : List Char → List Char
  | '\ufeff' :: rest => rest
  | s => s

/-- The statements of a text, one line after the other. -/
def statements? (text : List Char) : Option (List Statement) :=
  Reader.lines text.length text

/-- The entries of a document in their order, if the text is one. -/
def read? (text : String) : Option Table :=
  (statements? (dropByteOrderMark text.toList)).bind Document.ofStatements

end BuilderSpec.Toml
