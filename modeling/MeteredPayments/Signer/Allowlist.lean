import MeteredPayments.Entries
import MeteredPayments.Eth.Address

/-!
# Accepted signers

The allow-list binds each accepted signer to the one authorizer (payer) it signs for, no signer
twice. Adding a signer that is already bound changes nothing and reports `false`: the first
binding stays. Building the list from pairs binds each signer to its last pair, as inserting the
pairs one by one with replacement does. Snapshots list the bindings by signer, in byte order.
-/

namespace MeteredPayments

/-- Signers and the authorizers they sign for. -/
structure Allowlist where
  /-- Each signer with its authorizer. -/
  bindings : List (Address × Address)
  /-- No signer is bound twice. -/
  distinct : (bindings.map Prod.fst).Nodup
deriving DecidableEq

namespace Allowlist

/-- The list that accepts nobody. -/
def empty : Allowlist := ⟨[], List.nodup_nil⟩

instance : Inhabited Allowlist := ⟨empty⟩

/-- The authorizer a signer signs for, if it is accepted. -/
def authorizerOf (list : Allowlist) (signer : Address) : Option Address :=
  list.bindings.lookup signer

/-- Whether a signer is accepted. -/
def contains (list : Allowlist) (signer : Address) : Bool := (list.authorizerOf signer).isSome

/-- Binds a signer to an authorizer, replacing its binding if it had one. -/
def bind (list : Allowlist) (signer authorizer : Address) : Allowlist :=
  ⟨(list.bindings.filter (·.1 ≠ signer)) ++ [(signer, authorizer)],
    nodup_keys_replace list.distinct signer authorizer⟩

/-- The list built from pairs: each signer bound to its last pair. -/
def ofPairs (pairs : List (Address × Address)) : Allowlist :=
  pairs.foldl (fun list (signer, authorizer) => list.bind signer authorizer) empty

/-- Accepts a signer for an authorizer unless it is already accepted; tells whether it was
added. -/
def add (list : Allowlist) (signer authorizer : Address) : Bool × Allowlist :=
  if list.contains signer then (false, list) else (true, list.bind signer authorizer)

/-- Removes a signer; tells whether it was accepted. -/
def remove (list : Allowlist) (signer : Address) : Bool × Allowlist :=
  (list.contains signer,
    ⟨list.bindings.filter (·.1 ≠ signer), nodup_keys_filter list.distinct signer⟩)

/-- How many signers are accepted. -/
def size (list : Allowlist) : Nat := list.bindings.length

/-- Whether nobody is accepted. -/
def isEmpty (list : Allowlist) : Bool := list.bindings.isEmpty

/-- The bindings by signer, in byte order. -/
def snapshot (list : Allowlist) : List (Address × Address) :=
  list.bindings.mergeSort fun left right => left.1.toNat ≤ right.1.toNat

end Allowlist

end MeteredPayments
