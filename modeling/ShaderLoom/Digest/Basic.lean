import ShaderLoom.Text.Numeral

/-!
# Digests

A 128-bit digest, as the two words it consists of.  Digests are compared for equality and shown
as 32 hexadecimal digits; nothing is computed with them.
-/

namespace ShaderLoom

/-- A 128-bit digest. -/
structure Digest where
  high : UInt64
  low : UInt64
  deriving DecidableEq, Repr, Inhabited

namespace Digest

/-- The digest with the given value, taken modulo `2 ^ 128`. -/
def ofNat (n : Nat) : Digest :=
  ⟨UInt64.ofNat (n / UInt64.size), UInt64.ofNat n⟩

/-- The value of a digest as a 128-bit number. -/
def toNat (digest : Digest) : Nat :=
  digest.high.toNat * UInt64.size + digest.low.toNat

/-- The 32 lowercase hexadecimal digits of a digest. -/
def hex (digest : Digest) : String :=
  Text.hexDigits 16 digest.high.toNat ++ Text.hexDigits 16 digest.low.toNat

end Digest
end ShaderLoom
