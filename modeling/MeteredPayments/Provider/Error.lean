import MeteredPayments.Json.Value
import MeteredPayments.Price.Basic

/-!
# Service errors

The two ways a provider operation fails outright, as opposed to a rejection that it reports
inside a successful answer: the named session does not exist, or a configured price is no
price. Each has a JSON-RPC error object: code `-32001` with the session id as data, and code
`-32602` (invalid parameters) without data.
-/

namespace MeteredPayments

/-- A provider operation that could not be carried out. -/
inductive ServiceError where
  /-- No session has this id. -/
  | sessionNotFound (sessionId : String)
  /-- A price is no price. -/
  | invalidPrice (cause : PriceError)
deriving DecidableEq, Repr

namespace ServiceError

/-- The sentence that reports the error. -/
def message : ServiceError → String
  | .sessionNotFound sessionId => s!"session not found: {sessionId}"
  | .invalidPrice cause => s!"invalid price: {cause.message}"

/-- The name of the kind of error. -/
def kind : ServiceError → String
  | .sessionNotFound _ => "SessionNotFound"
  | .invalidPrice _ => "InvalidPrice"

/-- The JSON-RPC error code. -/
def code : ServiceError → Int
  | .sessionNotFound _ => -32001
  | .invalidPrice _ => -32602

/-- The JSON-RPC error object. -/
def toRpc (error : ServiceError) : Json :=
  let base := [("code", Json.number (toString error.code)), ("message", .string error.message)]
  match error with
  | .sessionNotFound sessionId => .object (base ++ [("data", .string sessionId)])
  | .invalidPrice _ => .object base

end ServiceError

end MeteredPayments
