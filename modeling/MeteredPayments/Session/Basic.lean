import MeteredPayments.Price.Pricing
import MeteredPayments.Voucher.Signed

/-!
# Sessions

A session is one client's metered stream: who pays and who is paid, the usage so far, the latest
voucher, its pricing and its state. It is active until it ends and ended for good; counters stop
at `2^64 - 1` and the cost at `2^256 - 1`.
-/

namespace MeteredPayments

/-- Where a session is in its life. -/
inductive SessionState where
  | active
  /-- Reserved: no operation moves a session here. -/
  | paused
  | ended
deriving DecidableEq, Repr

/-- The name of a state in records and sentences. -/
def SessionState.name : SessionState → String
  | .active => "active"
  | .paused => "paused"
  | .ended => "ended"

/-- Why a session ended. -/
inductive EndReason where
  | unspecified
  | completed
  | clientDisconnected
  | providerStopped
  | insufficientFunds
  | paymentError
deriving DecidableEq, Repr

namespace EndReason

/-- Every reason, in declaration order. -/
def all : List EndReason :=
  [.unspecified, .completed, .clientDisconnected, .providerStopped, .insufficientFunds,
   .paymentError]

/-- The name of a reason in records and sentences. -/
def name : EndReason → String
  | .unspecified => "unspecified"
  | .completed => "completed"
  | .clientDisconnected => "client_disconnected"
  | .providerStopped => "provider_stopped"
  | .insufficientFunds => "insufficient_funds"
  | .paymentError => "payment_error"

/-- The reason with exactly this name. -/
def ofName? (text : String) : Option EndReason := all.find? (·.name = text)

/-- The refusal of a name that is no reason. -/
def unknownNameMessage : String := "Matching variant not found"

/-- Reads a reason from a record: its name, or an object whose one key is its name. -/
def decode : Json.Decoder EndReason
  | .string text =>
    match ofName? text with
    | some reason => .ok reason
    | none => .error s!"unknown variant `{text}`, expected one of {expectedNames}"
  | .object [(key, value)] =>
    match ofName? key with
    | none => .error s!"unknown variant `{key}`, expected one of {expectedNames}"
    | some reason =>
      match value with
      | .null => .ok reason
      | other => .error (Json.invalidType (Json.unexpected other) "unit")
  | .object _ => .error (Json.invalidValue .map "map with a single key")
  | other => .error (Json.invalidType (Json.unexpected other) "string or map")
where
  /-- The names, each between backticks. -/
  expectedNames : String := ", ".intercalate (all.map fun reason => "`" ++ reason.name ++ "`")

end EndReason

/-- Usage accumulated over a session. -/
structure Usage where
  /-- Blocks processed. -/
  blocksProcessed : Nat
  /-- Bytes transferred. -/
  bytesTransferred : Nat
  /-- Requests served. -/
  requests : Nat
  /-- Total cost in wei. -/
  cost : Nat
deriving DecidableEq, Repr

/-- Usage reported since the previous report. -/
structure UsageDelta where
  /-- Blocks processed. -/
  blocksProcessed : Nat
  /-- Bytes transferred. -/
  bytesTransferred : Nat
  /-- Requests served. -/
  requests : Nat
deriving DecidableEq, Repr

/-- The largest 64-bit count, where counters stop. -/
def countMax : Nat := Nat.pow 2 64 - 1

/-- A count sum that stops at the largest 64-bit count. -/
def saturatingCount (left right : Nat) : Nat := min (left + right) countMax

namespace Usage

/-- Nothing used. -/
def zero : Usage := ⟨0, 0, 0, 0⟩

/-- Adds counts and, if given, a cost. -/
def add (usage : Usage) (blocks bytes requests : Nat) (cost : Option Nat) : Usage :=
  { blocksProcessed := saturatingCount usage.blocksProcessed blocks
    bytesTransferred := saturatingCount usage.bytesTransferred bytes
    requests := saturatingCount usage.requests requests
    cost := match cost with
      | some amount => saturatingAdd usage.cost amount
      | none => usage.cost }

/-- The record form; the cost in hexadecimal. -/
def toJson (usage : Usage) : Json :=
  .object [("blocks_processed", Json.ofNat usage.blocksProcessed),
    ("bytes_transferred", Json.ofNat usage.bytesTransferred),
    ("requests", Json.ofNat usage.requests), ("cost", .string (Hex.ofNat usage.cost))]

end Usage

namespace UsageDelta

/-- No usage. -/
def zero : UsageDelta := ⟨0, 0, 0⟩

/-- Reads a usage report; absent counts are zero. -/
def decode : Json.Decoder UsageDelta := fun value => do
  let count := Json.unsigned 64 "u64"
  let fields ← Json.record "UsageDelta"
    [.of "blocks_processed" .defaulted count, .of "bytes_transferred" .defaulted count,
     .of "requests" .defaulted count] value
  let read := fun (name : String) =>
    match fields.lookup name with
    | some field => count field
    | none => pure 0
  pure ⟨← read "blocks_processed", ← read "bytes_transferred", ← read "requests"⟩

end UsageDelta

/-- Why a session refused an update. -/
inductive UpdateError where
  /-- The session is not active. -/
  | inactive (state : SessionState)
  /-- The voucher's value is below the stored one. -/
  | nonMonotonicValue (current received : Nat)
deriving DecidableEq, Repr

namespace UpdateError

/-- The sentence that reports the error. -/
def message : UpdateError → String
  | .inactive state => s!"session is {state.name}"
  | .nonMonotonicValue current received =>
    s!"RAV value {received} is lower than current value {current}"

/-- The name of the kind of error. -/
def kind : UpdateError → String
  | .inactive _ => "Inactive"
  | .nonMonotonicValue _ _ => "NonMonotonicValue"

end UpdateError

/-- A metered session. -/
structure Session where
  /-- The session id. -/
  id : String
  /-- Who pays. -/
  payer : Address
  /-- Who is paid. -/
  receiver : Address
  /-- The data service served. -/
  dataService : Address
  /-- When the session was created, in nanoseconds. -/
  createdAt : Nat
  /-- The lifecycle state. -/
  state : SessionState
  /-- When the session last changed. -/
  updatedAt : Nat
  /-- When the session ended, once it has. -/
  endedAt : Option Nat
  /-- Why the session ended, once it has. -/
  endReason : Option EndReason
  /-- The latest voucher. -/
  currentRav : Option SignedVoucher
  /-- Usage so far. -/
  usage : Usage
  /-- The pricing that applies, once set. -/
  pricing : Option Pricing

namespace Session

/-- A new active session with no usage, created at `now`. -/
def create (id : String) (payer receiver dataService : Address) (now : Nat) : Session :=
  ⟨id, payer, receiver, dataService, now, .active, now, none, none, none, Usage.zero, none⟩

/-- Whether the session is active. -/
def isActive (session : Session) : Bool := session.state = .active

/-- Adds usage to an active session at `now`; a missing cost leaves the cost as it is. -/
def addUsage (session : Session) (blocks bytes requests : Nat) (cost : Option Nat) (now : Nat) :
    Except UpdateError Session :=
  if session.state = .active then
    .ok { session with usage := session.usage.add blocks bytes requests cost, updatedAt := now }
  else .error (.inactive session.state)

/-- Stores a voucher unconditionally at `now`. -/
def setRav (session : Session) (signed : SignedVoucher) (now : Nat) : Session :=
  { session with currentRav := some signed, updatedAt := now }

/-- The stored voucher's value, zero without one. -/
def ravValue (session : Session) : Nat :=
  match session.currentRav with
  | some signed => signed.message.valueAggregate
  | none => 0

/-- Stores a voucher at `now` if the session is active and the value does not go down. -/
def compareAndSetRav (session : Session) (signed : SignedVoucher) (now : Nat) :
    Except UpdateError Session :=
  if session.state ≠ .active then .error (.inactive session.state)
  else
    match session.currentRav with
    | some current =>
      if signed.message.valueAggregate < current.message.valueAggregate then
        .error (.nonMonotonicValue current.message.valueAggregate signed.message.valueAggregate)
      else .ok (session.setRav signed now)
    | none => .ok (session.setRav signed now)

/-- Sets the pricing; the update time stays. -/
def setPricing (session : Session) (pricing : Pricing) : Session :=
  { session with pricing := some pricing }

/-- Adds the final usage, if any, and ends the session at `now`, for `reason`. An ended session
stays as it is. -/
def finish (session : Session) (reason : EndReason) (finalUsage : Option UsageDelta)
    (finalCost : Option Nat) (now : Nat) : Session :=
  match session.endedAt with
  | some _ => session
  | none =>
    let usage := match finalUsage with
      | some delta => session.usage.add delta.blocksProcessed delta.bytesTransferred delta.requests finalCost
      | none => session.usage
    { session with usage := usage, state := .ended, endedAt := some now, endReason := some reason,
                   updatedAt := now }

/-- The record form of a session. -/
def toJson (session : Session) : Json :=
  .object [("session_id", .string session.id), ("state", .string session.state.name),
    ("payer", .string session.payer.toHex), ("receiver", .string session.receiver.toHex),
    ("data_service", .string session.dataService.toHex),
    ("current_rav", Json.ofOption SignedVoucher.toJson session.currentRav),
    ("accumulated_usage", session.usage.toJson),
    ("created_at_ns", Json.ofNat session.createdAt),
    ("updated_at_ns", Json.ofNat session.updatedAt),
    ("ended_at_ns", Json.ofOption Json.ofNat session.endedAt),
    ("end_reason", Json.ofOption (fun reason => .string reason.name) session.endReason)]

end Session

end MeteredPayments
