import MeteredPayments.Crypto.Keccak
import MeteredPayments.Escrow.Ledger
import MeteredPayments.Server.Network
import MeteredPayments.Server.Url

/-!
# Reading escrow balances from the chain

The escrow contract answers `getBalance(payer, collector, receiver)` with one 256-bit word. The
querier sends that call as `eth_call` to an Ethereum JSON-RPC endpoint and reads the word back;
an answer of any other length is malformed. The endpoint's URL is checked when the querier is
made, so a bad URL fails at start-up rather than on the first lookup.
-/

namespace MeteredPayments.Server

/-- Why an escrow balance could not be read. -/
inductive ChainError where
  /-- The JSON-RPC request failed. -/
  | rpc (cause : String)
  /-- The call answered a number of bytes other than 32. -/
  | malformedResult (length : Nat)
deriving DecidableEq, Repr

namespace ChainError

/-- The sentence that reports the error. -/
def message : ChainError → String
  | .rpc cause => s!"escrow RPC request failed: {cause}"
  | .malformedResult length => s!"eth_call returned {length} bytes, expected 32"

/-- The name of the kind of error. -/
def kind : ChainError → String
  | .rpc _ => "Rpc"
  | .malformedResult _ => "MalformedResult"

/-- The errors behind this one, outermost first. -/
def causes : ChainError → List String
  | .rpc cause => [cause]
  | .malformedResult _ => []

end ChainError

/-- The first four bytes of the hash of `getBalance(address,address,address)`. -/
def getBalanceSelector : ByteArray :=
  (Keccak.hash "getBalance(address,address,address)".toUTF8).extract 0 4

/-- The call data that asks for the balance of an account. -/
def balanceCallData (account : EscrowAccount) : ByteArray :=
  getBalanceSelector ++ BigEndian.word account.payer.toNat ++
    BigEndian.word account.collector.toNat ++ BigEndian.word account.receiver.toNat

/-- Reads the balance from the bytes a call answered. -/
def decodeBalance (output : ByteArray) : Except ChainError Nat :=
  if output.size = 32 then .ok (BigEndian.toNat output) else .error (.malformedResult output.size)

/-- A checked escrow endpoint. -/
structure EscrowEndpoint where
  /-- The JSON-RPC URL. -/
  url : Url
  /-- The escrow contract. -/
  contract : Address

namespace EscrowEndpoint

/-- Why a URL is no HTTP target, as the client says it. -/
def targetError (url : String) : Option String :=
  match Url.parse url with
  | .error error => some s!"Invalid URL: {error.message}"
  | .ok parsed =>
    if parsed.host.isNone then some "Invalid host"
    else if parsed.scheme = "http" || parsed.scheme = "https" then none
    else some "URL scheme not supported, expects 'http' or 'https'"

/-- An endpoint for `url`, if it is an HTTP target. -/
def make (url : String) (contract : Address) : Except ChainError EscrowEndpoint :=
  match targetError url, Url.parse url with
  | none, .ok parsed => .ok ⟨parsed, contract⟩
  | some reason, _ => .error (.rpc s!"Invalid Url: {reason}")
  | none, .error error => .error (.rpc s!"Invalid Url: Invalid URL: {error.message}")

/-- Why a connection failed, as the client reports it. -/
def connectFailure : String := "client error (Connect)"

/-- The balance of an account, asked over `network` of a node that answers a call's data with
`node`. -/
def getBalance (endpoint : EscrowEndpoint) (network : Network)
    (node : Address → ByteArray → Except String ByteArray) (account : EscrowAccount) :
    Except ChainError Nat :=
  match network with
  | .down _ => .error (.rpc connectFailure)
  | .up =>
    match node endpoint.contract (balanceCallData account) with
    | .ok output => decodeBalance output
    | .error cause => .error (.rpc cause)

/-- The balance of an account as a lookup sees it: unknown when it cannot be read. -/
def query (endpoint : EscrowEndpoint) (network : Network)
    (node : Address → ByteArray → Except String ByteArray) (account : EscrowAccount) :
    EscrowBalance :=
  match endpoint.getBalance network node account with
  | .ok balance => .known balance
  | .error _ => .unknown

end EscrowEndpoint

end MeteredPayments.Server
