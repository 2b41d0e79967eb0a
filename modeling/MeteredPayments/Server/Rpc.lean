import MeteredPayments.Provider.Handler
import MeteredPayments.Server.Metrics

/-!
# The JSON-RPC methods

The six session operations and the signing domain as JSON-RPC methods, each taking its request
record as the only element of an array or as the member `request`. Every call keeps the service's
metrics in step with what the operation did.
-/

namespace MeteredPayments.Server

/-- A JSON-RPC error object. -/
structure RpcError where
  /-- The error code. -/
  code : Int
  /-- The error message. -/
  message : String
  /-- More about the error, if anything. -/
  data : Option Json

/-- A remark attached to a successful answer. -/
structure Warning where
  /-- The warning code. -/
  code : Int
  /-- What the client should know. -/
  message : String

/-- A successful answer: the operation's response record and its warnings. -/
structure Reply where
  /-- The response record. -/
  data : Json
  /-- The warnings; none is written as no member at all. -/
  warnings : List Warning

namespace RpcError

/-- The code of parameters that cannot be read. -/
def invalidParamsCode : Int := -32602

/-- Parameters that cannot be read, with the reason. -/
def invalidParams (detail : String) : RpcError := ⟨invalidParamsCode, "Invalid params", some (.string detail)⟩

/-- A method the service does not offer. -/
def methodNotFound : RpcError := ⟨-32601, "Method not found", none⟩

/-- The error object of a failed operation. -/
def ofService (error : ServiceError) : RpcError :=
  ⟨error.code, error.message, match error with
    | .sessionNotFound sessionId => some (.string sessionId)
    | .invalidPrice _ => none⟩

/-- The record form. -/
def toJson (error : RpcError) : Json :=
  .object ([("code", Json.number (toString error.code)), ("message", .string error.message)] ++
    error.data.toList.map fun data => ("data", data))

end RpcError

/-- The record form of a warning. -/
def Warning.toJson (warning : Warning) : Json :=
  .object [("code", Json.number (toString warning.code)), ("message", .string warning.message)]

/-- The warning that an escrow balance could not be read. -/
def escrowUnavailable : Warning :=
  ⟨-32101, "The escrow balance could not be read and is reported as zero."⟩

/-- The record form of an answer. -/
def Reply.toJson (reply : Reply) : Json :=
  .object ([("data", reply.data)] ++
    if reply.warnings.isEmpty then [] else [("warnings", .array (reply.warnings.map Warning.toJson))])

/-- The request parameter of a call: the first element of an array, or the member `request` of
an object. -/
def requestParameter {α : Type} (decode : Json.Decoder α) : Option Json → Except RpcError α
  | some (.object members) =>
    match members.lookup "request" with
    | some value => (decode value).mapError RpcError.invalidParams
    | none => .error (RpcError.invalidParams "missing field `request`")
  | some (.array (first :: _)) => (decode first).mapError RpcError.invalidParams
  | _ => .error (RpcError.invalidParams "No more params")

/-- A provider serving calls, with its metrics. -/
structure Service where
  /-- The provider. -/
  provider : Provider
  /-- The metrics. -/
  metrics : Metrics

namespace Service

/-- A service for `provider` with its metrics at zero. -/
def new (provider : Provider) : Service := ⟨provider, Metrics.zero⟩

/-- Records the number of active sessions in the metrics. -/
def refreshActive (service : Service) : Service :=
  { service with metrics := service.metrics.setActive service.provider.store.active.length }

/-- Opens a session, counting the session and its voucher, or the rejection. -/
def startSession (service : Service) (request : StartSessionRequest) : Reply × Service :=
  let (response, provider) := service.provider.startSession request
  let service := { service with provider }
  if response.accepted then
    let metrics := service.metrics.sessionStarted
    let metrics := if request.initialRav.isSome then metrics.ravAccepted else metrics
    (⟨response.toJson, []⟩, refreshActive { service with metrics })
  else (⟨response.toJson, []⟩, { service with metrics := service.metrics.ravRejected })

/-- Accepts a payment, counting the voucher or the rejection, and the session when the payment
opened one; warns when the escrow balance could not be read. -/
def validatePayment (lookup : EscrowAccount → EscrowBalance) (service : Service)
    (request : ValidatePaymentRequest) : Reply × Service :=
  let resumed := (request.sessionId.bind service.provider.store.find?).isSome
  let (response, provider) := service.provider.validatePayment lookup request
  let service := { service with provider }
  if !response.valid then
    (⟨response.toJson, []⟩, { service with metrics := service.metrics.ravRejected })
  else
    let service := { service with metrics := service.metrics.ravAccepted }
    let service :=
      if resumed then service
      else refreshActive { service with metrics := service.metrics.sessionStarted }
    if response.escrowBalance.isNone then
      (⟨response.toJson, [escrowUnavailable]⟩,
        { service with metrics := service.metrics.escrowQueryFailed })
    else (⟨response.toJson, []⟩, service)

/-- Takes a usage report. -/
def reportUsage (service : Service) (request : ReportUsageRequest) :
    Except RpcError Reply × Service :=
  match service.provider.reportUsage request with
  | .ok (response, provider) => (.ok ⟨response.toJson, []⟩, { service with provider })
  | .error error => (.error (RpcError.ofService error), service)

/-- Takes a fresh voucher, counting it as accepted or rejected. -/
def submitRav (service : Service) (request : SubmitRavRequest) : Reply × Service :=
  let (response, provider) := service.provider.submitRav request
  let metrics := if response.accepted then service.metrics.ravAccepted else service.metrics.ravRejected
  (⟨response.toJson, []⟩, { service with provider, metrics })

/-- Reports the funding of a session; warns when the session exists but its escrow balance
could not be read. -/
def sessionStatus (lookup : EscrowAccount → EscrowBalance) (service : Service)
    (request : SessionStatusRequest) : Reply × Service :=
  let response := service.provider.sessionStatus lookup request
  if response.session.isSome && !response.escrowBalanceKnown then
    (⟨response.toJson, [escrowUnavailable]⟩,
      { service with metrics := service.metrics.escrowQueryFailed })
  else (⟨response.toJson, []⟩, service)

/-- Ends a session and counts the active sessions again. -/
def endSession (service : Service) (request : EndSessionRequest) :
    Except RpcError Reply × Service :=
  match service.provider.endSession request with
  | .ok (response, provider) => (.ok ⟨response.toJson, []⟩, refreshActive { service with provider })
  | .error error => (.error (RpcError.ofService error), service)

/-- Runs `method` with its request parameter read by `decode`. -/
def withRequest {α : Type} (service : Service) (params : Option Json) (decode : Json.Decoder α)
    (method : α → Except RpcError Reply × Service) : Except RpcError Reply × Service :=
  match requestParameter decode params with
  | .ok request => method request
  | .error error => (.error error, service)

/-- Answers a call of `method` with `params`, reading escrow balances with `lookup`. -/
def call (lookup : EscrowAccount → EscrowBalance) (service : Service) (method : String)
    (params : Option Json) : Except RpcError Reply × Service :=
  let succeed := fun (outcome : Reply × Service) => (Except.ok outcome.1, outcome.2)
  match method with
  | "eip712domain_info" => (.ok ⟨service.provider.verifier.domain.toJson, []⟩, service)
  | "start_session" =>
    service.withRequest params StartSessionRequest.decode (succeed ∘ service.startSession)
  | "validate_payment" =>
    service.withRequest params ValidatePaymentRequest.decode
      (succeed ∘ service.validatePayment lookup)
  | "report_usage" => service.withRequest params ReportUsageRequest.decode service.reportUsage
  | "submit_rav" => service.withRequest params SubmitRavRequest.decode (succeed ∘ service.submitRav)
  | "get_session_status" =>
    service.withRequest params SessionStatusRequest.decode (succeed ∘ service.sessionStatus lookup)
  | "end_session" => service.withRequest params EndSessionRequest.decode service.endSession
  | _ => (.error RpcError.methodNotFound, service)

/-- The least number of seconds since the epoch a time can be written with. -/
def earliestSecond : Int := -(Nat.pow 2 63)

/-- One pass of the sweeper: removes the sessions that ended more than `retention` seconds ago
and counts the active sessions again. When now minus the retention is before the earliest
writable time, the pass does nothing. -/
def sweep (service : Service) (retention : Nat) : Service :=
  let (now, store) := service.provider.store.now
  if (now / 1000000000 : Nat) - (retention : Int) < earliestSecond then service
  else
    let (_, store) := store.deleteEndedBefore (now - (retention * 1000000000 : Nat))
    refreshActive { service with provider := { service.provider with store } }

end Service

end MeteredPayments.Server
