import MeteredPayments.Bytes.BigEndian
import MeteredPayments.Crypto.Secp256k1
import MeteredPayments.Crypto.Sha256

/-!
# ECDSA over secp256k1

Deterministic signing (RFC 6979 nonces, signatures kept in their low form) and public-key
recovery for 32-byte digests.
-/

namespace MeteredPayments.Ecdsa

open Secp256k1

/-- An ECDSA signature with the parity that makes its key recoverable. -/
structure Signature where
  /-- The x coordinate of the nonce point, reduced modulo the order. -/
  r : Nat
  /-- The proof scalar. -/
  s : Nat
  /-- Whether the nonce point's y coordinate is odd. -/
  yParity : Bool
deriving DecidableEq, Repr

/-- Whether `s` is in the upper half of the scalars. -/
def isHigh (s : Nat) : Bool := s > order / 2

/-- The low form of a signature: a high `s` is negated modulo `2^256` as a word and the parity
flips. A negated `s` above the order stays invalid. -/
def Signature.normalize (signature : Signature) : Signature :=
  if isHigh signature.s then
    { signature with s := (order + Nat.pow 2 256 - signature.s) % Nat.pow 2 256, yParity := !signature.yParity }
  else signature

/-- The RFC 6979 state after seeding with the secret `x` and the reduced digest `h`. -/
def seed (x h : ByteArray) : ByteArray × ByteArray :=
  let key := ByteArray.mk (Array.replicate 32 0)
  let value := ByteArray.mk (Array.replicate 32 1)
  let key := Sha256.hmac key (value ++ ByteArray.mk #[0] ++ x ++ h)
  let value := Sha256.hmac key value
  let key := Sha256.hmac key (value ++ ByteArray.mk #[1] ++ x ++ h)
  (key, Sha256.hmac key value)

/-- The first candidate of the generator in `1 ≤ k < n`, trying at most `fuel` candidates. -/
def candidate : Nat → ByteArray × ByteArray → Option Nat
  | 0, _ => none
  | fuel + 1, (key, value) =>
    let value := Sha256.hmac key value
    let k := BigEndian.toNat value
    if 1 ≤ k ∧ k < order then some k
    else
      let key := Sha256.hmac key (value ++ ByteArray.mk #[0])
      candidate fuel (key, Sha256.hmac key value)

/-- The deterministic nonce for a secret and a digest (RFC 6979 with SHA-256). -/
def nonce (secret : Nat) (digest : ByteArray) : Option Nat :=
  let reduced := BigEndian.toNat digest % order
  candidate 64 (seed (BigEndian.word secret) (BigEndian.word reduced))

/-- Signs a 32-byte digest with a secret scalar `1 ≤ secret < n`. -/
def sign (secret : Nat) (digest : ByteArray) : Option Signature := do
  let k ← nonce secret digest
  let (x, y) ← (Point.generator.times k).toAffine
  let r := x % order
  let z := BigEndian.toNat digest % order
  let s := inverse k order * ((z + r * secret) % order) % order
  if r = 0 ∨ s = 0 then none
  else pure (Signature.normalize ⟨r, s, y % 2 = 1⟩)

/-- The affine public key whose signature over `digest` this is, if any. -/
def recover (signature : Signature) (digest : ByteArray) : Option (Nat × Nat) := do
  let ⟨r, s, odd⟩ := signature.normalize
  if r = 0 ∨ r ≥ order ∨ s = 0 ∨ s ≥ order then none
  else
    let point ← decompress r odd
    let z := BigEndian.toNat digest % order
    let rInverse := inverse r order
    let u1 := (order - z * rInverse % order) % order
    let u2 := s * rInverse % order
    ((Point.generator.times u1).plus (point.times u2)).toAffine

/-- The affine public key of a secret scalar. -/
def publicKey (secret : Nat) : Option (Nat × Nat) := (Point.generator.times secret).toAffine

end MeteredPayments.Ecdsa
