import MeteredPayments.Eth.Signature
import MeteredPayments.Voucher.Basic

/-!
# Signed vouchers

A voucher with the payer's signature over its EIP-712 digest. The signer is recovered from the
signature, never stored: a signature made in another domain or over other fields recovers to
some other address, and only a malformed signature (zero or out-of-range scalars, an `r` that is
no point of the curve) fails to recover at all.
-/

namespace MeteredPayments

/-- A voucher and its signature. -/
structure SignedVoucher where
  /-- The voucher. -/
  message : Voucher
  /-- The signature over the voucher's digest. -/
  signature : Ecdsa.Signature

/-- A signature from which no key can be recovered. -/
structure SignatureError where
deriving DecidableEq, Repr

/-- The sentence that reports a signature error. -/
def SignatureError.message (_ : SignatureError) : String := "signature error"

namespace SignedVoucher

/-- Signs a voucher in `domain` with the secret key `secret`. -/
def sign (domain : Domain) (message : Voucher) (secret : Nat) : Option SignedVoucher :=
  (fun signature => ⟨message, signature⟩) <$> Ecdsa.sign secret (message.signingHash domain)

/-- The address that signed the voucher in `domain`. -/
def recoverSigner (domain : Domain) (signed : SignedVoucher) : Except SignatureError Address :=
  match Ecdsa.recover signed.signature (signed.message.signingHash domain) with
  | some key => .ok (Address.ofPublicKey key)
  | none => .error {}

/-- The record form. -/
def toJson (signed : SignedVoucher) : Json :=
  .object [("message", signed.message.toJson), ("signature", signed.signature.toJson)]

/-- Reads a signed voucher from its record form. -/
def decode : Json.Decoder SignedVoucher := fun value => do
  let fields ← Json.record "Eip712SignedMessage"
    [.of "message" .required Voucher.decode,
     .of "signature" .required Ecdsa.Signature.decode] value
  let message ← Json.required fields "message" Voucher.decode
  let signature ← Json.required fields "signature" Ecdsa.Signature.decode
  pure ⟨message, signature⟩

end SignedVoucher

end MeteredPayments
