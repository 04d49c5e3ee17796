/-
Fingerprints: the SHA-256 digest of a value's compact JSON, its hexadecimal form, and its order.
-/
import BuilderSpec.Digest.Sha256
import BuilderSpec.Json

namespace BuilderSpec.Digest

/-! ## Hexadecimal -/

/-- A byte as two digits, the upper half first. -/
def hexPair (b : UInt8) : List Char :=
  [Nat.digitChar (b.toNat / 16), Nat.digitChar (b.toNat % 16)]

/-- Bytes in lower-case hexadecimal, two digits each. -/
def hexChars (bytes : List UInt8) : List Char :=
  bytes.flatMap hexPair

theorem length_hexChars (bytes : List UInt8) : (hexChars bytes).length = 2 * bytes.length := by
  induction bytes with
  | nil => rfl
  | cons b rest ih =>
    show (hexPair b ++ hexChars rest).length = _
    rw [List.length_append, ih]
    simp only [hexPair, List.length_cons, List.length_nil]
    omega

/-! ## Fingerprints -/

/-- Thirty-two bytes that stand for a value. -/
structure Fingerprint where
  bytes : Vector UInt8 32
deriving DecidableEq

namespace Fingerprint

/-- The digest of a value's compact JSON. -/
def ofJson (v : Json) : Fingerprint :=
  ⟨Sha256.digest v.bytes⟩

/-- The bytes in hexadecimal: sixty-four digits. -/
def toHex (f : Fingerprint) : String :=
  .ofList (hexChars f.bytes.toList)

/-- Fingerprints are ordered by the first byte in which they differ. -/
instance : Ord Fingerprint where
  compare f g := compareOfLessAndEq f.bytes.toList g.bytes.toList

end Fingerprint

end BuilderSpec.Digest
