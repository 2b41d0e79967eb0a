import MeteredPayments.Session.Basic
import MeteredPayments.Signer.Verifier

/-!
# Rejections

Why a provider refused what a client sent. A rejection is not a failure of the call: it travels
inside an ordinary response, as a sentence the client can read. Only a missing or inactive
session stops the stream; after any other rejection the client may try again with a better
voucher.
-/

namespace MeteredPayments

/-- Why a session operation refused client input. -/
inductive Rejection where
  /-- No session has the id. -/
  | sessionNotFound
  /-- The session is not active. -/
  | sessionInactive (state : SessionState)
  /-- The escrow account pays someone else. -/
  | receiverMismatch (expected received : Address)
  /-- No voucher came with the request. -/
  | missingRav
  /-- No signer could be recovered from the voucher. -/
  | invalidSignature (reason : String)
  /-- The signer is not accepted. -/
  | unauthorizedSigner (signer : Address)
  /-- The signer is accepted, but for another payer. -/
  | signerNotAuthorizedForPayer (signer payer : Address)
  /-- The voucher names another payer. -/
  | payerMismatch (expected received : Address)
  /-- The voucher names another service provider. -/
  | serviceProviderMismatch (expected received : Address)
  /-- The voucher is worth less than the stored one. -/
  | nonMonotonicValue (current received : Nat)
deriving DecidableEq

namespace Rejection

/-- The sentence sent to the client; addresses carry their checksum. -/
def message : Rejection → String
  | .sessionNotFound => "session not found"
  | .sessionInactive state => s!"session is {state.name}"
  | .receiverMismatch expected received =>
    s!"escrow receiver {received} does not match service provider {expected}"
  | .missingRav => "missing signed RAV"
  | .invalidSignature reason => s!"invalid RAV signature: {reason}"
  | .unauthorizedSigner signer => s!"signer {signer} is not authorized"
  | .signerNotAuthorizedForPayer signer payer =>
    s!"signer {signer} is not authorized for payer {payer}"
  | .payerMismatch expected received => s!"RAV payer {received} does not match {expected}"
  | .serviceProviderMismatch expected received =>
    s!"RAV service provider {received} does not match {expected}"
  | .nonMonotonicValue current received =>
    s!"RAV value {received} is lower than current value {current}"

/-- Whether the stream may keep running despite the rejection. -/
def allowsContinuation : Rejection → Bool
  | .sessionNotFound => false
  | .sessionInactive _ => false
  | _ => true

/-- The rejection for a voucher that does not verify. -/
def ofVerification : VerificationError → Rejection
  | .invalidSignature cause => .invalidSignature cause.message
  | .unauthorizedSigner signer => .unauthorizedSigner signer
  | .signerNotAuthorizedForPayer signer payer => .signerNotAuthorizedForPayer signer payer

/-- The rejection for an update the session refused. -/
def ofUpdate : UpdateError → Rejection
  | .inactive state => .sessionInactive state
  | .nonMonotonicValue current received => .nonMonotonicValue current received

end Rejection

end MeteredPayments
