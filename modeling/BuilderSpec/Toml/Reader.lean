/-
Reading TOML character by character: blanks, line ends, comments and the four kinds of strings.
-/

namespace BuilderSpec.Toml

/-- Reads something from the front of a text and leaves the rest, or refuses the text. -/
abbrev Reader := StateT (List Char) Option

namespace Reader

/-! ## Single characters -/

/-- The next character, which is left where it is. -/
def peek : Reader (Option Char) := fun s => some (s.head?, s)

/-- Takes the character `c`. -/
def take (c : Char) : Reader Unit
  | d :: rest => if d = c then some ((), rest) else none
  | [] => none

/-- Takes the character `c` if it comes next, and says whether it did. -/
def takeIf (c : Char) : Reader Bool
  | d :: rest => if d = c then some (true, rest) else some (false, d :: rest)
  | [] => some (false, [])

/-- Takes the characters up to the first that fails `p`. -/
def takeWhile (p : Char → Bool) : Reader (List Char) :=
  fun s => some (s.takeWhile p, s.dropWhile p)

/-! ## Blanks, comments and line ends -/

def isBlank (c : Char) : Bool :=
  c == ' ' || c == '\t'

/-- Characters that a line may hold outside its strings and keys: all but the controls, of which
only the tab is allowed. -/
def inLine (c : Char) : Bool :=
  c == '\t' || (' ' ≤ c && c != '\x7f')

def skipBlanks : Reader Unit :=
  fun s => some ((), s.dropWhile isBlank)

/-- A comment goes on to the end of its line. -/
def skipComment : Reader Unit
  | '#' :: rest => some ((), rest.dropWhile inLine)
  | s => some ((), s)

/-- The end of a line, by a line feed with or without a carriage return, or of the text. -/
def endOfLine : Reader Unit
  | [] => some ((), [])
  | '\n' :: rest => some ((), rest)
  | '\r' :: '\n' :: rest => some ((), rest)
  | _ => none

/-- What may follow a statement on its line. -/
def finishLine : Reader Unit := do
  skipBlanks
  skipComment
  endOfLine

/-- Skips blanks, comments and line ends. A comment must end with its line, not with the text;
`comment` says that one has begun. -/
def gap (comment : Bool) : List Char → Option (List Char)
  | [] => if comment then none else some []
  | '\n' :: rest => gap false rest
  | '\r' :: '\n' :: rest => gap false rest
  | c :: rest =>
    if comment then
      if inLine c then gap true rest else none
    else if isBlank c then gap false rest
    else if c = '#' then gap true rest
    else some (c :: rest)

/-- Skips what may stand between the items of an array. -/
def skipGap : Reader Unit :=
  fun s => (gap false s).map fun rest => ((), rest)

/-! ## Strings -/

/-- The number of a hexadecimal digit. -/
def hexValue? (c : Char) : Option Nat :=
  if c.isDigit then some (c.toNat - '0'.toNat)
  else if 'a' ≤ c ∧ c ≤ 'f' then some (c.toNat - 'a'.toNat + 10)
  else if 'A' ≤ c ∧ c ≤ 'F' then some (c.toNat - 'A'.toNat + 10)
  else none

/-- The character whose code point is written in hexadecimal. -/
def scalar? (digits : List Char) : Option Char := do
  let n ← digits.foldlM (fun n c => (hexValue? c).map (16 * n + ·)) 0
  if n.isValidChar then some (Char.ofNat n) else none

/-- The character that a letter after a backslash stands for. -/
def escaped? : Char → Option Char
  | 'b' => some '\x08'
  | 't' => some '\t'
  | 'n' => some '\n'
  | 'f' => some '\x0c'
  | 'r' => some '\r'
  | '"' => some '"'
  | '\\' => some '\\'
  | _ => none

/-- Puts a character in front of what is read next. -/
def consRead (c : Char) (r : Option (List Char × List Char)) : Option (List Char × List Char) :=
  r.map fun (text, rest) => (c :: text, rest)

/-- The rest of a string in double quotes, which may hold escapes. -/
def basicBody : List Char → Option (List Char × List Char)
  | '"' :: rest => some ([], rest)
  | '\\' :: 'u' :: a :: b :: c :: d :: rest =>
    (scalar? [a, b, c, d]).bind fun x => consRead x (basicBody rest)
  | '\\' :: 'U' :: a :: b :: c :: d :: e :: f :: g :: h :: rest =>
    (scalar? [a, b, c, d, e, f, g, h]).bind fun x => consRead x (basicBody rest)
  | '\\' :: c :: rest => (escaped? c).bind fun x => consRead x (basicBody rest)
  | c :: rest => if inLine c && c != '\\' then consRead c (basicBody rest) else none
  | [] => none

/-- The rest of a string in single quotes, which stands as it is written. -/
def literalBody : List Char → Option (List Char × List Char)
  | '\'' :: rest => some ([], rest)
  | c :: rest => if inLine c then consRead c (literalBody rest) else none
  | [] => none

/-- Whether a backslash that ends its line stands before `rest`. -/
def joinsLines (rest : List Char) : Bool :=
  match rest.dropWhile isBlank with
  | '\n' :: _ => true
  | '\r' :: '\n' :: _ => true
  | _ => false

/-- The rest of a string in three double quotes. Line ends become line feeds, a backslash that ends
its line takes the blanks and line ends after it away (`joining`), and up to two quotes may stand
before the closing ones. -/
def basicLines (joining : Bool) : List Char → Option (List Char × List Char)
  | '"' :: '"' :: '"' :: '"' :: '"' :: rest => some (['"', '"'], rest)
  | '"' :: '"' :: '"' :: '"' :: rest => some (['"'], rest)
  | '"' :: '"' :: '"' :: rest => some ([], rest)
  | '\n' :: rest => if joining then basicLines true rest else consRead '\n' (basicLines false rest)
  | '\r' :: '\n' :: rest =>
    if joining then basicLines true rest else consRead '\n' (basicLines false rest)
  | '\\' :: 'u' :: a :: b :: c :: d :: rest =>
    (scalar? [a, b, c, d]).bind fun x => consRead x (basicLines false rest)
  | '\\' :: 'U' :: a :: b :: c :: d :: e :: f :: g :: h :: rest =>
    (scalar? [a, b, c, d, e, f, g, h]).bind fun x => consRead x (basicLines false rest)
  | '\\' :: c :: rest =>
    match escaped? c with
    | some x => consRead x (basicLines false rest)
    | none => if joinsLines (c :: rest) then basicLines true (c :: rest) else none
  | c :: rest =>
    if joining && isBlank c then basicLines true rest
    else if inLine c && c != '\\' then consRead c (basicLines false rest)
    else none
  | [] => none

/-- The rest of a string in three single quotes. Line ends become line feeds, and up to two quotes
may stand before the closing ones. -/
def literalLines : List Char → Option (List Char × List Char)
  | '\'' :: '\'' :: '\'' :: '\'' :: '\'' :: rest => some (['\'', '\''], rest)
  | '\'' :: '\'' :: '\'' :: '\'' :: rest => some (['\''], rest)
  | '\'' :: '\'' :: '\'' :: rest => some ([], rest)
  | '\n' :: rest => consRead '\n' (literalLines rest)
  | '\r' :: '\n' :: rest => consRead '\n' (literalLines rest)
  | c :: rest => if inLine c then consRead c (literalLines rest) else none
  | [] => none

/-- A line end that follows the opening quotes of a string of several lines is not part of it. -/
def dropFirstLineEnd : List Char → List Char
  | '\n' :: rest => rest
  | '\r' :: '\n' :: rest => rest
  | s => s

/-- A string on one line, of either kind. -/
def lineString : Reader (List Char)
  | '"' :: rest => basicBody rest
  | '\'' :: rest => literalBody rest
  | _ => none

/-- A string of any of the four kinds. -/
def string : Reader (List Char)
  | '"' :: '"' :: '"' :: rest => basicLines false (dropFirstLineEnd rest)
  | '\'' :: '\'' :: '\'' :: rest => literalLines (dropFirstLineEnd rest)
  | s => lineString s

end Reader

end BuilderSpec.Toml
