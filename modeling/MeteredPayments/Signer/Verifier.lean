import MeteredPayments.Signer.Allowlist
import MeteredPayments.Voucher.Signed

/-!
# Verifying vouchers

A voucher is good when its signature recovers to an accepted signer whose authorizer is the
voucher's payer. The checks run in that order: recovery, acceptance, authorizer.
-/

namespace MeteredPayments

/-- Why a signed voucher is refused. -/
inductive VerificationError where
  /-- No signer can be recovered. -/
  | invalidSignature (cause : SignatureError)
  /-- The signer is not accepted. -/
  | unauthorizedSigner (signer : Address)
  /-- The signer is accepted, but for another payer. -/
  | signerNotAuthorizedForPayer (signer payer : Address)
deriving DecidableEq

namespace VerificationError

/-- The sentence that reports the error; addresses carry their checksum. -/
def message : VerificationError → String
  | .invalidSignature cause => s!"invalid RAV signature: {cause.message}"
  | .unauthorizedSigner signer => s!"signer {signer} is not authorized"
  | .signerNotAuthorizedForPayer signer payer =>
    s!"signer {signer} is not authorized for payer {payer}"

/-- The name of the kind of error. -/
def kind : VerificationError → String
  | .invalidSignature _ => "InvalidSignature"
  | .unauthorizedSigner _ => "UnauthorizedSigner"
  | .signerNotAuthorizedForPayer _ _ => "SignerNotAuthorizedForPayer"

end VerificationError

/-- The signing domain of vouchers with the signers it accepts. -/
structure Verifier where
  /-- The domain vouchers are signed in. -/
  domain : Domain
  /-- The accepted signers. -/
  signers : Allowlist

namespace Verifier

/-- The signer of a voucher. -/
def verifySignature (verifier : Verifier) (signed : SignedVoucher) :
    Except VerificationError Address :=
  (signed.recoverSigner verifier.domain).mapError .invalidSignature

/-- The signer of a voucher, if it is accepted for the voucher's payer. -/
def verify (verifier : Verifier) (signed : SignedVoucher) : Except VerificationError Address := do
  let signer ← verifier.verifySignature signed
  match verifier.signers.authorizerOf signer with
  | none => throw (.unauthorizedSigner signer)
  | some authorizer =>
    if authorizer = signed.message.payer then pure signer
    else throw (.signerNotAuthorizedForPayer signer signed.message.payer)

end Verifier

end MeteredPayments
