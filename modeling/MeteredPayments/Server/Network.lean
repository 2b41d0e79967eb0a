/-!
# The network

Whether a connection reaches the service it is meant for. On a host whose network is down, every
connection fails at once with the same reason, and the service behind it never sees the request
and never changes.
-/

namespace MeteredPayments.Server

/-- The network between clients and the services of a host. -/
inductive Network where
  /-- Connections reach their service. -/
  | up
  /-- Every connection fails, for the reason given. -/
  | down (reason : String)
deriving DecidableEq, Repr

namespace Network

/-- A host with no network interface up: connecting anywhere fails with ENETUNREACH. -/
def unreachable : Network := .down "Network is unreachable (os error 101)"

/-- Sends a request to a service in state `state` that answers it with `serve`: the answer, or
the reason the connection failed, with the service's next state. -/
def deliver {α σ : Type} (network : Network) (serve : σ → α × σ) (state : σ) :
    Except String α × σ :=
  match network with
  | .up =>
    let (answer, state) := serve state
    (.ok answer, state)
  | .down reason => (.error reason, state)

end Network

end MeteredPayments.Server
