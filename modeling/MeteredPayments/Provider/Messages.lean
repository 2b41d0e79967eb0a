import MeteredPayments.Escrow.Ledger
import MeteredPayments.Provider.Rejection

/-!
# Requests and responses

The records a client and a provider exchange for the six session operations. Requests are read
from JSON values with the record rules of `Json.record`: optional fields may be absent or
`null`, except the usage report and the end reason, which are filled in only when absent; a
request may also be written as the sequence of its fields' values, in the order declared.
Responses are written back as records; amounts of wei are hexadecimal strings, and a rejection
travels as its sentence.
-/

namespace MeteredPayments

/-- A request to open a session for an escrow account. -/
structure StartSessionRequest where
  /-- The account that pays for the session. -/
  escrowAccount : EscrowAccount
  /-- The data service served, if named. -/
  dataService : Option Address
  /-- A first voucher, if any. -/
  initialRav : Option SignedVoucher

/-- A request to accept the voucher presented with a connection. -/
structure ValidatePaymentRequest where
  /-- The session to resume, if any. -/
  sessionId : Option String
  /-- The voucher presented. -/
  paymentRav : Option SignedVoucher

/-- A report of usage. -/
structure ReportUsageRequest where
  /-- The session the usage belongs to. -/
  sessionId : String
  /-- The usage since the last report. -/
  usage : UsageDelta

/-- A fresh voucher for a session. -/
structure SubmitRavRequest where
  /-- The session. -/
  sessionId : String
  /-- The voucher. -/
  signedRav : Option SignedVoucher

/-- A question about the funding of a session. -/
structure SessionStatusRequest where
  /-- The session. -/
  sessionId : String

/-- A request to end a session. -/
structure EndSessionRequest where
  /-- The session. -/
  sessionId : String
  /-- Why it ends. -/
  reason : EndReason
  /-- Usage not reported yet, if any. -/
  finalUsage : Option UsageDelta

namespace Json

/-- A field that may be absent, filled in with `default`; unlike an optional field, `null` is
read as a value. -/
def withDefault {α : Type} (fields : List (String × Json)) (name : String) (default : α)
    (decode : Decoder α) : Except String α :=
  match fields.lookup name with
  | some value => decode value
  | none => pure default

/-- An optional field of a record. -/
def optionalField {α : Type} (fields : List (String × Json)) (name : String) (decode : Decoder α) :
    Except String (Option α) :=
  optional decode (fields.lookup name)

end Json

/-- Reads an opening request. -/
def StartSessionRequest.decode : Json.Decoder StartSessionRequest := fun value => do
  let fields ← Json.record "StartSessionRequest"
    [.of "escrow_account" .required EscrowAccount.decode,
     .of "data_service" .defaulted (Json.optional Json.address ∘ some),
     .of "initial_rav" .defaulted (Json.optional SignedVoucher.decode ∘ some)] value
  pure ⟨← Json.required fields "escrow_account" EscrowAccount.decode,
    ← Json.optionalField fields "data_service" Json.address,
    ← Json.optionalField fields "initial_rav" SignedVoucher.decode⟩

/-- Reads a payment to validate. -/
def ValidatePaymentRequest.decode : Json.Decoder ValidatePaymentRequest := fun value => do
  let fields ← Json.record "ValidatePaymentRequest"
    [.of "session_id" .defaulted (Json.optional Json.stringValue ∘ some),
     .of "payment_rav" .defaulted (Json.optional SignedVoucher.decode ∘ some)] value
  pure ⟨← Json.optionalField fields "session_id" Json.stringValue,
    ← Json.optionalField fields "payment_rav" SignedVoucher.decode⟩

/-- Reads a usage report; an absent usage is no usage. -/
def ReportUsageRequest.decode : Json.Decoder ReportUsageRequest := fun value => do
  let fields ← Json.record "ReportUsageRequest"
    [.of "session_id" .required Json.stringValue,
     .of "usage" .defaulted UsageDelta.decode] value
  pure ⟨← Json.required fields "session_id" Json.stringValue,
    ← Json.withDefault fields "usage" UsageDelta.zero UsageDelta.decode⟩

/-- Reads a submitted voucher. -/
def SubmitRavRequest.decode : Json.Decoder SubmitRavRequest := fun value => do
  let fields ← Json.record "SubmitRavRequest"
    [.of "session_id" .required Json.stringValue,
     .of "signed_rav" .defaulted (Json.optional SignedVoucher.decode ∘ some)] value
  pure ⟨← Json.required fields "session_id" Json.stringValue,
    ← Json.optionalField fields "signed_rav" SignedVoucher.decode⟩

/-- Reads a status question. -/
def SessionStatusRequest.decode : Json.Decoder SessionStatusRequest := fun value => do
  let fields ← Json.record "GetSessionStatusRequest"
    [.of "session_id" .required Json.stringValue] value
  pure ⟨← Json.required fields "session_id" Json.stringValue⟩

/-- Reads a request to end a session; an absent reason is `unspecified`. -/
def EndSessionRequest.decode : Json.Decoder EndSessionRequest := fun value => do
  let fields ← Json.record "EndSessionRequest"
    [.of "session_id" .required Json.stringValue, .of "reason" .defaulted EndReason.decode,
     .of "final_usage" .defaulted (Json.optional UsageDelta.decode ∘ some)] value
  pure ⟨← Json.required fields "session_id" Json.stringValue,
    ← Json.withDefault fields "reason" .unspecified EndReason.decode,
    ← Json.optionalField fields "final_usage" UsageDelta.decode⟩

/-- The answer to an opening request. -/
structure StartSessionResponse where
  /-- Whether the session was opened. -/
  accepted : Bool
  /-- The new session's id. -/
  sessionId : Option String
  /-- The pricing of the new session. -/
  pricing : Option Pricing
  /-- Why the request was refused. -/
  rejection : Option Rejection

/-- The answer to a payment. -/
structure ValidatePaymentResponse where
  /-- Whether the voucher was accepted. -/
  valid : Bool
  /-- The session it was attached to. -/
  sessionId : Option String
  /-- The session's pricing. -/
  pricing : Option Pricing
  /-- The escrow balance, when it could be read. -/
  escrowBalance : Option Nat
  /-- Why the voucher was refused. -/
  rejection : Option Rejection

/-- The answer to a usage report. -/
structure ReportUsageResponse where
  /-- Whether the stream may go on. -/
  shouldContinue : Bool
  /-- Whether the client should send a fresh voucher. -/
  ravRequested : Bool
  /-- The totals after the report, when it was taken. -/
  accumulatedUsage : Option Usage
  /-- Why the stream should stop. -/
  stopReason : Option Rejection

/-- The answer to a submitted voucher. -/
structure SubmitRavResponse where
  /-- Whether the voucher was stored. -/
  accepted : Bool
  /-- Whether the stream may go on. -/
  shouldContinue : Bool
  /-- Why the voucher was refused. -/
  rejection : Option Rejection

/-- The funding picture of a session; all amounts in wei. -/
structure SessionStatusResponse where
  /-- Whether the session is active. -/
  active : Bool
  /-- The session, if it exists. -/
  session : Option Session
  /-- The escrow balance, zero when unknown. -/
  escrowBalance : Nat
  /-- Whether the balance could be read. -/
  escrowBalanceKnown : Bool
  /-- The cost of the usage so far. -/
  accumulatedUsageValue : Nat
  /-- The value of the current voucher. -/
  currentRavValue : Nat
  /-- The cost not covered by the current voucher. -/
  uncommittedUsage : Nat
  /-- Whether the balance covers the uncommitted cost. -/
  fundsSufficient : Bool
  /-- How many more blocks the balance pays for; zero without a block price. -/
  estimatedBlocksRemaining : Nat

/-- The answer to ending a session. -/
structure EndSessionResponse where
  /-- The session. -/
  sessionId : String
  /-- Its last voucher. -/
  finalRav : Option SignedVoucher
  /-- Its total usage. -/
  totalUsage : Usage
  /-- When it ended. -/
  endedAt : Nat
  /-- Why it ended. -/
  endReason : EndReason

namespace StartSessionResponse

/-- The refusal of an opening request. -/
def rejected (rejection : Rejection) : StartSessionResponse := ⟨false, none, none, some rejection⟩

/-- The record form. -/
def toJson (response : StartSessionResponse) : Json :=
  .object ([("accepted", .bool response.accepted),
    ("session_id", Json.ofOption .string response.sessionId),
    ("pricing", Json.ofOption Pricing.toJson response.pricing)] ++
    response.rejection.toList.map fun rejection => ("rejection_reason", .string rejection.message))

end StartSessionResponse

namespace ValidatePaymentResponse

/-- The refusal of a payment. -/
def rejected (rejection : Rejection) : ValidatePaymentResponse :=
  ⟨false, none, none, none, some rejection⟩

/-- The record form. -/
def toJson (response : ValidatePaymentResponse) : Json :=
  .object ([("valid", .bool response.valid),
    ("session_id", Json.ofOption .string response.sessionId),
    ("pricing", Json.ofOption Pricing.toJson response.pricing),
    ("escrow_balance", Json.ofOption (.string ∘ Hex.ofNat) response.escrowBalance)] ++
    response.rejection.toList.map fun rejection => ("rejection_reason", .string rejection.message))

end ValidatePaymentResponse

/-- The record form of a usage answer. -/
def ReportUsageResponse.toJson (response : ReportUsageResponse) : Json :=
  .object ([("should_continue", .bool response.shouldContinue),
    ("rav_requested", .bool response.ravRequested),
    ("accumulated_usage", Json.ofOption Usage.toJson response.accumulatedUsage)] ++
    response.stopReason.toList.map fun rejection => ("stop_reason", .string rejection.message))

namespace SubmitRavResponse

/-- A stored voucher. -/
def stored : SubmitRavResponse := ⟨true, true, none⟩

/-- A refused voucher; the stream goes on when the rejection allows it. -/
def rejected (rejection : Rejection) : SubmitRavResponse :=
  ⟨false, rejection.allowsContinuation, some rejection⟩

/-- The record form. -/
def toJson (response : SubmitRavResponse) : Json :=
  .object ([("accepted", .bool response.accepted),
    ("should_continue", .bool response.shouldContinue)] ++
    response.rejection.toList.map fun rejection => ("rejection_reason", .string rejection.message))

end SubmitRavResponse

namespace SessionStatusResponse

/-- The answer for a session that does not exist. -/
def unknown : SessionStatusResponse := ⟨false, none, 0, false, 0, 0, 0, false, 0⟩

/-- The record form. -/
def toJson (response : SessionStatusResponse) : Json :=
  .object [("active", .bool response.active),
    ("session", Json.ofOption Session.toJson response.session),
    ("escrow_balance", .string (Hex.ofNat response.escrowBalance)),
    ("escrow_balance_known", .bool response.escrowBalanceKnown),
    ("accumulated_usage_value", .string (Hex.ofNat response.accumulatedUsageValue)),
    ("current_rav_value", .string (Hex.ofNat response.currentRavValue)),
    ("uncommitted_usage", .string (Hex.ofNat response.uncommittedUsage)),
    ("funds_sufficient", .bool response.fundsSufficient),
    ("estimated_blocks_remaining", .string (Hex.ofNat response.estimatedBlocksRemaining))]

end SessionStatusResponse

/-- The record form of an end answer. -/
def EndSessionResponse.toJson (response : EndSessionResponse) : Json :=
  .object [("session_id", .string response.sessionId),
    ("final_rav", Json.ofOption SignedVoucher.toJson response.finalRav),
    ("total_usage", response.totalUsage.toJson),
    ("total_cost", .string (Hex.ofNat response.totalUsage.cost)),
    ("ended_at_ns", Json.ofNat response.endedAt),
    ("end_reason", .string response.endReason.name)]

end MeteredPayments
