import MeteredPayments.Entries
import MeteredPayments.Eth.Decode
import MeteredPayments.Price.Basic

/-!
# Escrow balances

An escrow account is its payer, collector and receiver. The ledger maps accounts to balances:
setting overwrites, increasing saturates at `2^256 - 1`, reducing fails on a missing account or a
short balance and then changes nothing, and removing forgets the account.
-/

namespace MeteredPayments

/-- An escrow account. -/
structure EscrowAccount where
  /-- Who locked the funds. -/
  payer : Address
  /-- The collector contract. -/
  collector : Address
  /-- Who may be paid from them. -/
  receiver : Address
deriving DecidableEq

namespace EscrowAccount

/-- Reads an account from its record form. -/
def decode : Json.Decoder EscrowAccount := fun value => do
  let fields ← Json.record "EscrowAccount"
    [.of "payer" .required Json.address, .of "collector" .required Json.address,
     .of "receiver" .required Json.address] value
  pure ⟨← Json.required fields "payer" Json.address,
    ← Json.required fields "collector" Json.address,
    ← Json.required fields "receiver" Json.address⟩

end EscrowAccount

/-- A balance as a provider sees it. -/
inductive EscrowBalance where
  /-- The account exists and holds this much. -/
  | known (amount : Nat)
  /-- The balance could not be read. -/
  | unknown
deriving DecidableEq, Repr

namespace EscrowBalance

/-- The amount, if known. -/
def known? : EscrowBalance → Option Nat
  | .known amount => some amount
  | .unknown => none

/-- The amount, zero when unknown. -/
def orZero (balance : EscrowBalance) : Nat := balance.known?.getD 0

end EscrowBalance

/-- Why the ledger refused a withdrawal. -/
inductive LedgerError where
  /-- No such account. -/
  | accountNotFound (account : EscrowAccount)
  /-- The balance is below the amount. -/
  | insufficientBalance (available requested : Nat)
deriving DecidableEq

namespace LedgerError

/-- The sentence that reports the error. -/
def message : LedgerError → String
  | .accountNotFound account => s!"no escrow exists for payer {account.payer}"
  | .insufficientBalance available requested =>
    s!"cannot withdraw {requested} from escrow holding {available}"

/-- The name of the kind of error. -/
def kind : LedgerError → String
  | .accountNotFound _ => "AccountNotFound"
  | .insufficientBalance _ _ => "InsufficientBalance"

end LedgerError

/-- Balances by account. -/
structure Ledger where
  /-- Each account with its balance. -/
  balances : List (EscrowAccount × Nat)
  /-- No account is listed twice. -/
  distinct : (balances.map Prod.fst).Nodup

namespace Ledger

/-- No accounts. -/
def empty : Ledger := ⟨[], List.nodup_nil⟩

instance : Inhabited Ledger := ⟨empty⟩

/-- The balance of an account, if it exists. -/
def balance? (ledger : Ledger) (account : EscrowAccount) : Option Nat :=
  ledger.balances.lookup account

/-- Sets the balance of an account, opening it if needed. -/
def set (ledger : Ledger) (account : EscrowAccount) (amount : Nat) : Ledger :=
  ⟨(ledger.balances.filter (·.1 ≠ account)) ++ [(account, amount)],
    nodup_keys_replace ledger.distinct account amount⟩

/-- Adds to the balance of an account, stopping at `2^256 - 1`, opening it if needed. -/
def increase (ledger : Ledger) (account : EscrowAccount) (amount : Nat) : Ledger :=
  ledger.set account (saturatingAdd ((ledger.balance? account).getD 0) amount)

/-- Takes an amount from an account's balance. -/
def reduce (ledger : Ledger) (account : EscrowAccount) (amount : Nat) : Except LedgerError Ledger :=
  match ledger.balance? account with
  | none => .error (.accountNotFound account)
  | some available =>
    if amount ≤ available then .ok (ledger.set account (available - amount))
    else .error (.insufficientBalance available amount)

/-- Forgets an account. -/
def remove (ledger : Ledger) (account : EscrowAccount) : Ledger :=
  ⟨ledger.balances.filter (·.1 ≠ account), nodup_keys_filter ledger.distinct account⟩

/-- The balance of an account; a missing account is an error. -/
def getBalance (ledger : Ledger) (account : EscrowAccount) : Except LedgerError Nat :=
  match ledger.balance? account with
  | some amount => .ok amount
  | none => .error (.accountNotFound account)

/-- The balance a provider sees: a failed read is an unknown balance. -/
def query (ledger : Ledger) (account : EscrowAccount) : EscrowBalance :=
  match ledger.getBalance account with
  | .ok amount => .known amount
  | .error _ => .unknown

end Ledger

end MeteredPayments
