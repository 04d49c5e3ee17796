/-
Compact JSON: values, and their one written form. Records keep the order of their fields, nothing
stands between the parts of a value, and a character is escaped only where JSON demands it.
-/

namespace BuilderSpec

/-- A JSON value whose numbers are integers. -/
inductive Json where
  | null
  | boolean (b : Bool)
  | integer (n : Int)
  | string (text : String)
  | array (items : List Json)
  | object (fields : List (String × Json))

namespace Json

/-! ## Texts -/

/-- A digit of a hexadecimal number, in lower case. -/
def hexDigit (n : Nat) : Char :=
  Nat.digitChar n

/-- A character inside a quoted text. The quote, the backslash and the controls of ASCII are
escaped, five of the controls by a letter; everything else stands for itself. -/
def escape (c : Char) : List Char :=
  if c = '"' then ['\\', '"']
  else if c = '\\' then ['\\', '\\']
  else if c = '\x08' then ['\\', 'b']
  else if c = '\x09' then ['\\', 't']
  else if c = '\x0a' then ['\\', 'n']
  else if c = '\x0c' then ['\\', 'f']
  else if c = '\x0d' then ['\\', 'r']
  else if c.toNat < 0x20 then
    ['\\', 'u', '0', '0', hexDigit (c.toNat / 16), hexDigit (c.toNat % 16)]
  else [c]

/-- A text between quotes. -/
def quoteChars (text : List Char) : List Char :=
  '"' :: (text.flatMap escape ++ ['"'])

/-! ## Values -/

mutual

/-- The written form of a value, as characters. -/
def chars : Json → List Char
  | null => ['n', 'u', 'l', 'l']
  | boolean true => ['t', 'r', 'u', 'e']
  | boolean false => ['f', 'a', 'l', 's', 'e']
  | integer n => n.repr.toList
  | string text => quoteChars text.toList
  | array items => '[' :: (itemChars items ++ [']'])
  | object fields => '\x7b' :: (fieldChars fields ++ ['\x7d'])

/-- The items of an array, with commas between them. -/
def itemChars : List Json → List Char
  | [] => []
  | [v] => v.chars
  | v :: w :: rest => v.chars ++ ',' :: itemChars (w :: rest)

/-- The fields of a record, with commas between them. -/
def fieldChars : List (String × Json) → List Char
  | [] => []
  | [(key, v)] => quoteChars key.toList ++ ':' :: v.chars
  | (key, v) :: f :: rest =>
    quoteChars key.toList ++ ':' :: (v.chars ++ ',' :: fieldChars (f :: rest))

end

/-- The written form of a value. -/
def encode (v : Json) : String :=
  .ofList v.chars

/-- The bytes of the written form. -/
def bytes (v : Json) : List UInt8 :=
  v.encode.toUTF8.data.toList

/-- A text, or `null` where there is none. -/
def ofOption (text : Option String) : Json :=
  match text with
  | some t => string t
  | none => null

end Json

end BuilderSpec
