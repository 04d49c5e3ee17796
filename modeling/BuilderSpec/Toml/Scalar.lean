/-
TOML values that are written without quotes or brackets: booleans, numbers, dates and times. Each
of them is one unbroken word, except that a blank may stand between a date and its time.
-/
import BuilderSpec.Toml.Value

namespace BuilderSpec.Toml.Scalar

/-- Characters of which unquoted values are made. -/
def inWord (c : Char) : Bool :=
  c.isAlphanum || c == '+' || c == '-' || c == '_' || c == '.' || c == ':'

/-! ## Digits -/

/-- Digits without the underscores between them. There must be a digit, and an underscore must stand
between two. -/
def ungrouped (isDigit : Char → Bool) : List Char → Option (List Char)
  | [] => none
  | [c] => if isDigit c then some [c] else none
  | c :: '_' :: rest => if isDigit c then (ungrouped isDigit rest).map (c :: ·) else none
  | c :: rest => if isDigit c then (ungrouped isDigit rest).map (c :: ·) else none

/-- The number that digits write in a base. -/
def ofDigits (base : Nat) (digits : List Char) : Nat :=
  digits.foldl (fun n c =>
    base * n + (if c.isDigit then c.toNat - '0'.toNat else c.toLower.toNat - 'a'.toNat + 10)) 0

/-- Decimal digits as they may stand before the point: no zero comes first unless it is alone. -/
def leadingDigits (word : List Char) : Option (List Char) :=
  match ungrouped Char.isDigit word with
  | some ('0' :: _ :: _) => none
  | digits => digits

/-- Separates a sign from what follows it; `true` is the minus sign. -/
def splitSign : List Char → Option Bool × List Char
  | '-' :: rest => (some true, rest)
  | '+' :: rest => (some false, rest)
  | word => (none, word)

/-! ## Numbers -/

/-- The least integer that a document may hold. -/
def minInteger : Int := -0x8000000000000000

/-- The greatest integer that a document may hold. -/
def maxInteger : Int := 0x7fffffffffffffff

def boundedInteger (n : Int) : Option Value :=
  if minInteger ≤ n && n ≤ maxInteger then some (.integer n) else none

def isHexDigit (c : Char) : Bool :=
  c.isDigit || ('a' ≤ c && c ≤ 'f') || ('A' ≤ c && c ≤ 'F')

/-- Integers: in base 16, 8 or 2 without a sign, or in base 10. -/
def integer? (word : List Char) : Option Value :=
  match word with
  | '0' :: 'x' :: digits =>
    (ungrouped isHexDigit digits).bind fun ds => boundedInteger (ofDigits 16 ds)
  | '0' :: 'o' :: digits =>
    (ungrouped (fun c => '0' ≤ c && c ≤ '7') digits).bind fun ds => boundedInteger (ofDigits 8 ds)
  | '0' :: 'b' :: digits =>
    (ungrouped (fun c => c == '0' || c == '1') digits).bind fun ds => boundedInteger (ofDigits 2 ds)
  | _ =>
    let (sign, digits) := splitSign word
    (leadingDigits digits).bind fun ds =>
      let n : Int := ofDigits 10 ds
      boundedInteger (if sign = some true then -n else n)

/-- The power of ten after the letter `e`. -/
def exponent? (word : List Char) : Option Int :=
  let (sign, digits) := splitSign word
  (ungrouped Char.isDigit digits).map fun ds =>
    let n : Int := ofDigits 10 ds
    if sign = some true then -n else n

def isExponentMark (c : Char) : Bool :=
  c == 'e' || c == 'E'

/-- The digits after the point, if there is a point. -/
def fraction? : List Char → Option (List Char)
  | [] => some []
  | '.' :: digits => ungrouped Char.isDigit digits
  | _ => none

/-- Floats that are written in digits: with a fraction, an exponent or both. A number too great to
the positive side is refused; to the negative side it is infinite. -/
def decimalFloat? (word : List Char) : Option Value := do
  let (sign, unsigned) := splitSign word
  let mantissa := unsigned.takeWhile fun c => !isExponentMark c
  let exponent ←
    match unsigned.dropWhile fun c => !isExponentMark c with
    | [] => some none
    | _ :: digits => (exponent? digits).map some
  let whole ← leadingDigits (mantissa.takeWhile (· != '.'))
  let fraction ← fraction? (mantissa.dropWhile (· != '.'))
  if fraction.isEmpty && exponent.isNone then none
  let x := Decimal.Binary64.ofDecimal (sign == some true) (ofDigits 10 (whole ++ fraction))
    (exponent.getD 0 - fraction.length)
  if x = .infinite false then none else some (.float x)

/-- Floats that are written in letters. -/
def namedFloat? (word : List Char) : Option Value :=
  let (sign, name) := splitSign word
  if name = ['i', 'n', 'f'] then some (.float (.infinite (sign == some true)))
  else if name = ['n', 'a', 'n'] then some (.float .nan)
  else none

def boolean? (word : List Char) : Option Value :=
  if word = ['t', 'r', 'u', 'e'] then some (.boolean true)
  else if word = ['f', 'a', 'l', 's', 'e'] then some (.boolean false)
  else none

/-! ## Dates and times -/

/-- The number that two digits write. -/
def twoDigits? (a b : Char) : Option Nat :=
  if a.isDigit && b.isDigit then some (ofDigits 10 [a, b]) else none

def isLeapYear (year : Nat) : Bool :=
  year % 4 == 0 && (year % 100 != 0 || year % 400 == 0)

def daysInMonth (year month : Nat) : Nat :=
  if month = 2 then (if isLeapYear year then 29 else 28)
  else if month = 4 ∨ month = 6 ∨ month = 9 ∨ month = 11 then 30
  else 31

/-- Whether `YYYY-MM-DD` writes a day of the calendar. -/
def isDate : List Char → Bool
  | [y1, y2, y3, y4, '-', m1, m2, '-', d1, d2] =>
    match twoDigits? y1 y2, twoDigits? y3 y4, twoDigits? m1 m2, twoDigits? d1 d2 with
    | some century, some year, some month, some day =>
      1 ≤ month && month ≤ 12 && 1 ≤ day && day ≤ daysInMonth (100 * century + year) month
    | _, _, _, _ => false
  | _ => false

def isHour (a b : Char) : Bool := (twoDigits? a b).any (· ≤ 23)

def isMinute (a b : Char) : Bool := (twoDigits? a b).any (· ≤ 59)

/-- Seconds go up to sixty, for leap seconds. -/
def isSecond (a b : Char) : Bool := (twoDigits? a b).any (· ≤ 60)

/-- Fractions of a second, which need a digit after the point. -/
def isSecondFraction : List Char → Bool
  | [] => true
  | '.' :: digits => !digits.isEmpty && digits.all Char.isDigit
  | _ => false

/-- The distance from universal time. -/
def isOffset : List Char → Bool
  | [z] => z == 'Z' || z == 'z'
  | [sign, h1, h2, ':', m1, m2] => (sign == '+' || sign == '-') && isHour h1 h2 && isMinute m1 m2
  | _ => false

/-- Whether `HH:MM:SS` writes a time of day, with or without a fraction of a second. An offset may
follow only where the time belongs to a date. -/
def isTime (dated : Bool) : List Char → Bool
  | h1 :: h2 :: ':' :: m1 :: m2 :: ':' :: s1 :: s2 :: rest =>
    let fraction := rest.takeWhile fun c => c == '.' || c.isDigit
    let offset := rest.dropWhile fun c => c == '.' || c.isDigit
    isHour h1 h2 && isMinute m1 m2 && isSecond s1 s2 && isSecondFraction fraction &&
      (offset.isEmpty || (dated && isOffset offset))
  | _ => false

/-- Dates, times, and both with the letter `T` between them. -/
def isDateTime (word : List Char) : Bool :=
  isDate word || isTime false word ||
    (isDate (word.take 10) &&
      match word.drop 10 with
      | t :: time => (t == 'T' || t == 't') && isTime true time
      | [] => false)

def dateTime? (word : List Char) : Option Value :=
  if isDateTime word then some (.dateTime (.ofList word)) else none

/-! ## Words -/

/-- The value that a word writes. -/
def ofWord (word : List Char) : Option Value :=
  boolean? word <|> namedFloat? word <|> dateTime? word <|> decimalFloat? word <|> integer? word

/-- Reads a value without quotes or brackets. After a date and a blank the time is read too. -/
def read (s : List Char) : Option (Value × List Char) :=
  let word := s.takeWhile inWord
  let rest := s.dropWhile inWord
  match isDate word, rest with
  | true, ' ' :: d :: more =>
    if d.isDigit then
      let time := (d :: more).takeWhile inWord
      if isTime true time then
        some (.dateTime (.ofList (word ++ ' ' :: time)), (d :: more).dropWhile inWord)
      else none
    else some (.dateTime (.ofList word), rest)
  | _, _ => (ofWord word).map fun v => (v, rest)

end BuilderSpec.Toml.Scalar
