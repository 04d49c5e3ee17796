/-
Binary floating-point numbers of 64 bits as exact values: rounding a decimal to the nearest of them,
and the shortest decimal that rounds back.
-/

namespace BuilderSpec.Decimal

/-- A number of 64 bits. A finite one is `significand · 2 ^ exponent`, with a sign of its own even
when it is zero. -/
inductive Binary64 where
  | finite (negative : Bool) (significand : Nat) (exponent : Int)
  | infinite (negative : Bool)
  | nan
deriving DecidableEq

/-! ## Ratios of powers -/

/-- The ratio `a · 10 ^ p · 2 ^ q` as numerator and denominator. -/
def scaled (a : Nat) (p q : Int) : Nat × Nat :=
  (a * Nat.pow 10 p.toNat * Nat.pow 2 q.toNat, Nat.pow 10 (-p).toNat * Nat.pow 2 (-q).toNat)

/-- The nearest integer to a ratio; a half goes to the even neighbour. -/
def roundHalfEven (num den : Nat) : Nat :=
  let floor := num / den
  let twice := 2 * (num % den)
  if twice < den then floor
  else if den < twice then floor + 1
  else floor + floor % 2

namespace Binary64

/-! ## Rounding -/

/-- The least exponent of a finite number. -/
def minExponent : Int := -1074

/-- The least significand of 53 binary digits. -/
def leastNormal : Nat := 0x10000000000000

/-- The greatest exponent of a finite number. -/
def maxExponent : Int := 971

/-- The exponent at which `a · 10 ^ p` has 53 binary digits, or the least exponent if that is
greater. -/
def exponentFor (a : Nat) (p : Int) : Int :=
  let (num, den) := scaled a p 0
  let guess := max minExponent ((num.log2 : Int) - den.log2 - 53)
  let (num', den') := scaled a p (-guess)
  if num' / den' < 2 * leastNormal then guess else guess + 1

/-- The decimal `a · 10 ^ p` rounded to the nearest number of 64 bits, ties to even. Decimals whose
size alone decides are answered without writing them out. -/
def ofDecimal (negative : Bool) (a : Nat) (p : Int) : Binary64 :=
  let size : Int := (Nat.toDigits 10 a).length + p
  if a = 0 || size < -330 then finite negative 0 minExponent
  else if 310 < size then infinite negative
  else
    let e := exponentFor a p
    let (num, den) := scaled a p (-e)
    let m := roundHalfEven num den
    let (m, e) := if m = 2 * leastNormal then (leastNormal, e + 1) else (m, e)
    if maxExponent < e then infinite negative else finite negative m e

/-! ## The shortest decimal -/

/-- Whether `d · 10 ^ k` rounds to `m · 2 ^ e`: it lies within half a step of it, the ends counting
when `m` is even. The step below a power of two is half as long. -/
def roundsTo (m : Nat) (e : Int) (d : Nat) (k : Int) : Bool :=
  let (x, xd) := scaled d k (2 - e)
  let low := if m = leastNormal && minExponent < e then 4 * m - 1 else 4 * m - 2
  let high := 4 * m + 2
  if m % 2 = 0 then low * xd ≤ x && x ≤ high * xd else low * xd < x && x < high * xd

/-- The decimal nearest to `m · 2 ^ e` among the two next to it on the grid of step `10 ^ k`, if it
rounds to it. Of two at the same distance it is the greater. -/
def neighbour? (m : Nat) (e : Int) (k : Int) : Option Nat :=
  let (num, den) := scaled m (-k) e
  let floor := num / den
  let above := den ≤ 2 * (num % den)
  let near := if above then floor + 1 else floor
  let far := if above then floor else floor + 1
  if roundsTo m e near k then some near
  else if roundsTo m e far k then some far
  else none

/-- How many decimal digits stand before the point of `m · 2 ^ e`, counted below one from the first
digit that is not zero. -/
def pointPosition (m : Nat) (e : Int) : Int :=
  let (num, den) := scaled m 0 e
  if den ≤ num then (Nat.toDigits 10 (num / den)).length
  else 1 - ((Nat.toDigits 10 ((den + num - 1) / num - 1)).length : Int)

/-- The fewest digits that round to `m · 2 ^ e`, as an integer and the power of ten of its last
digit. Seventeen digits always do. A single digit that was rounded up to ten becomes a one. -/
def shortest (m : Nat) (e : Int) : Nat × Int :=
  let point := pointPosition m e
  let found := (List.range 17).findSome? fun (n : Nat) =>
    let k := point - (n + 1)
    (neighbour? m e k).map fun d => if d = 10 then (1, k + 1) else (d, k)
  found.getD (m, 0)

/-! ## Written form -/

/-- The decimal `d · 10 ^ k` without an exponent, with at least one digit on each side of the
point. -/
def positional (d : Nat) (k : Int) : List Char :=
  let digits := Nat.toDigits 10 d
  if 0 ≤ k then digits ++ List.replicate k.toNat '0' ++ ['.', '0']
  else
    let places := (-k).toNat
    let padded := List.replicate (places + 1 - digits.length) '0' ++ digits
    let whole := padded.length - places
    padded.take whole ++ '.' :: padded.drop whole

/-- The number in the fewest digits that read back as it. -/
def toText : Binary64 → String
  | finite negative m e =>
    let body := if m = 0 then ['0', '.', '0'] else
      let (d, k) := shortest m e
      positional d k
    .ofList (if negative then '-' :: body else body)
  | infinite negative => if negative then "-inf" else "inf"
  | nan => "NaN"

end Binary64

end BuilderSpec.Decimal
