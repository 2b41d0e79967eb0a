import MeteredPayments.Json.Parse
import MeteredPayments.Json.Write
import MeteredPayments.Server.Rpc

/-!
# JSON-RPC over HTTP

The service answers JSON-RPC 2.0 bodies posted to `/`, one request or a batch, and the metrics at
`/metrics`. Notifications get no answer, malformed bodies their error, and bodies and answers
over their size limits are refused or replaced by an error.
-/

namespace MeteredPayments.Server

/-- An HTTP request. -/
structure HttpRequest where
  /-- The method, such as `POST`. -/
  method : String
  /-- The path, such as `/`. -/
  path : String
  /-- The body. -/
  body : String

/-- An HTTP response. -/
structure HttpResponse where
  /-- The status code. -/
  status : Nat
  /-- The body. -/
  body : String

/-- Size limits of the JSON-RPC server. -/
structure Limits where
  /-- The largest body taken, in bytes. -/
  maxRequestBodySize : Nat
  /-- The largest answer sent, in bytes. -/
  maxResponseBodySize : Nat
  /-- The most connections served at once. -/
  maxConnections : Nat

namespace Envelope

/-- An answer carrying a result. -/
def result (id : Json) (reply : Reply) : Json :=
  .object [("jsonrpc", .string "2.0"), ("id", id), ("result", reply.toJson)]

/-- An answer carrying an error. -/
def error (id : Json) (rpcError : RpcError) : Json :=
  .object [("jsonrpc", .string "2.0"), ("id", id), ("error", rpcError.toJson)]

/-- The error of a body that is no JSON. -/
def parseError : RpcError := ⟨-32700, "Parse error", none⟩

/-- The error of JSON that is no request. -/
def invalidRequest : RpcError := ⟨-32600, "Invalid request", none⟩

/-- The error of a body over the size limit. -/
def requestTooBig (limit : Nat) : RpcError :=
  ⟨-32007, "Request is too big", some (.string s!"Exceeded max limit of {limit}")⟩

/-- The error of an answer over the size limit. -/
def responseTooBig (limit : Nat) : RpcError :=
  ⟨-32008, "Response is too big", some (.string s!"Exceeded max limit of {limit}")⟩

/-- Whether a value can be a request id. -/
def isId : Json → Bool
  | .null | .number _ | .string _ => true
  | _ => false

end Envelope

namespace Service

/-- Answers one request object; a notification gets no answer and is not run. -/
def answerRequest (lookup : EscrowAccount → EscrowBalance) (limits : Limits) (service : Service)
    (request : Json) : Option Json × Service :=
  match request with
  | .object members =>
    let id := (members.lookup "id").getD .null
    match members.lookup "jsonrpc", members.lookup "method", members.lookup "id" with
    | some (.string "2.0"), some (.string method), some id =>
      if !Envelope.isId id then (some (Envelope.error .null Envelope.invalidRequest), service)
      else
        let params := match members.lookup "params" with
          | some .null => none
          | other => other
        let (outcome, service) := service.call lookup method params
        let answer := match outcome with
          | .ok reply => Envelope.result id reply
          | .error rpcError => Envelope.error id rpcError
        if (Json.compact answer).utf8ByteSize > limits.maxResponseBodySize then
          (some (Envelope.error id (Envelope.responseTooBig limits.maxResponseBodySize)), service)
        else (some answer, service)
    | some (.string "2.0"), some (.string _), none => (none, service)
    | _, _, _ =>
      (some (Envelope.error (if Envelope.isId id then id else .null) Envelope.invalidRequest),
        service)
  | _ => (some (Envelope.error .null Envelope.invalidRequest), service)

/-- Answers the requests of a batch in order. -/
def answerBatch (lookup : EscrowAccount → EscrowBalance) (limits : Limits) :
    Service → List Json → List Json × Service
  | service, [] => ([], service)
  | service, request :: requests =>
    let (answer, service) := service.answerRequest lookup limits request
    let (answers, service) := service.answerBatch lookup limits requests
    (answer.toList ++ answers, service)

/-- Answers a posted body. -/
def post (lookup : EscrowAccount → EscrowBalance) (limits : Limits) (service : Service)
    (body : String) : HttpResponse × Service :=
  let written := fun (answer : Json) => Json.compact answer
  if body.utf8ByteSize > limits.maxRequestBodySize then
    (⟨413, written (Envelope.error .null (Envelope.requestTooBig limits.maxRequestBodySize))⟩,
      service)
  else
    match Json.parse body with
    | .error _ => (⟨if body.isEmpty then 400 else 200,
        written (Envelope.error .null Envelope.parseError)⟩, service)
    | .ok .null => (⟨400, written (Envelope.error .null Envelope.parseError)⟩, service)
    | .ok (.array []) => (⟨200, written (Envelope.error .null Envelope.invalidRequest)⟩, service)
    | .ok (.array requests) =>
      let (answers, service) := service.answerBatch lookup limits requests
      (⟨200, if answers.isEmpty then "" else written (.array answers)⟩, service)
    | .ok request =>
      let (answer, service) := service.answerRequest lookup limits request
      (⟨200, (answer.map written).getD ""⟩, service)

/-- Answers an HTTP request to the JSON-RPC server: posts to `/` are calls, other methods on
`/` are not allowed, and other paths do not exist. -/
def serveHttp (lookup : EscrowAccount → EscrowBalance) (limits : Limits) (service : Service)
    (request : HttpRequest) : HttpResponse × Service :=
  if request.path ≠ "/" then (⟨404, ""⟩, service)
  else if request.method ≠ "POST" then (⟨405, ""⟩, service)
  else service.post lookup limits request.body

end Service

/-- Answers a request to the metrics server: the metrics at `/metrics`, nothing elsewhere. -/
def Metrics.serve (metrics : Metrics) (path : String) : HttpResponse :=
  if path = "/metrics" then ⟨200, String.join (metrics.render.map (· ++ "\n"))⟩
  else ⟨404, "404 Not Found"⟩

end MeteredPayments.Server
