import MeteredPayments.Proofs.Signers
import MeteredPayments.Escrow.Ledger

/-!
# The escrow ledger is a map with atomic failures

Read through `Ledger.balance?` the ledger is a map from accounts to balances; each call changes
its own account's entry and no other, and a refused reduction changes nothing
(`ledger_runs_as_a_map`).
-/

namespace MeteredPayments

/-- A call on the escrow ledger. -/
inductive LedgerCall where
  /-- Set an account's balance, opening the account if needed. -/
  | set (account : EscrowAccount) (amount : Nat)
  /-- Add to an account's balance, opening the account if needed. -/
  | increase (account : EscrowAccount) (amount : Nat)
  /-- Take from an account's balance. -/
  | reduce (account : EscrowAccount) (amount : Nat)
  /-- Forget an account. -/
  | remove (account : EscrowAccount)

namespace LedgerCall

/-- The account a call names. -/
def account : LedgerCall → EscrowAccount
  | .set account _ | .increase account _ | .reduce account _ | .remove account => account

/-- What a call does to balances kept as a function from accounts: the error of a refused call,
which keeps the balances, and the balances after the call. -/
def apply (balances : EscrowAccount → Option Nat) :
    LedgerCall → Option LedgerError × (EscrowAccount → Option Nat)
  | .set account amount => (none, Function.update balances account (some amount))
  | .increase account amount =>
    (none, Function.update balances account
      (some (min ((balances account).getD 0 + amount) (2 ^ 256 - 1))))
  | .reduce account amount =>
    match balances account with
    | none => (some (.accountNotFound account), balances)
    | some available =>
      if available < amount then (some (.insufficientBalance available amount), balances)
      else (none, Function.update balances account (some (available - amount)))
  | .remove account => (none, Function.update balances account none)

/-- The balances after a sequence of calls from no accounts at all. -/
def replay (calls : List LedgerCall) : EscrowAccount → Option Nat :=
  calls.foldl (fun balances call => (call.apply balances).2) fun _ => none

/-- A call keeps the balance of every account but its own. -/
theorem apply_of_ne (balances : EscrowAccount → Option Nat) (call : LedgerCall)
    {other : EscrowAccount} (different : other ≠ call.account) :
    (call.apply balances).2 other = balances other := by
  cases call with
  | set account amount => exact Function.update_of_ne different _ _
  | increase account amount => exact Function.update_of_ne different _ _
  | reduce account amount =>
      simp only [apply]
      cases balances account with
      | none => rfl
      | some available =>
          by_cases short : available < amount
          · simp [short]
          · simp only [short, if_false]
            exact Function.update_of_ne different _ _
  | remove account => exact Function.update_of_ne different _ _

/-- Only a reduction is refused, and a refused call keeps the balances. -/
theorem apply_of_refused (balances : EscrowAccount → Option Nat) (call : LedgerCall)
    (refused : (call.apply balances).1.isSome) : (call.apply balances).2 = balances := by
  cases call with
  | set account amount => simp [apply] at refused
  | increase account amount => simp [apply] at refused
  | reduce account amount =>
      simp only [apply] at refused ⊢
      cases found : balances account with
      | none => rfl
      | some available =>
          by_cases short : available < amount
          · simp [short]
          · simp [found, short] at refused
  | remove account => simp [apply] at refused

end LedgerCall

namespace Ledger

variable {ledger : Ledger}

/-- A call on the ledger, with the error of a refused call; a refused call keeps the ledger. -/
def perform (ledger : Ledger) : LedgerCall → Option LedgerError × Ledger
  | .set account amount => (none, ledger.set account amount)
  | .increase account amount => (none, ledger.increase account amount)
  | .reduce account amount =>
    match ledger.reduce account amount with
    | .ok reduced => (none, reduced)
    | .error error => (some error, ledger)
  | .remove account => (none, ledger.remove account)

/-- The ledger after a sequence of calls, the first call first. -/
def run (ledger : Ledger) (calls : List LedgerCall) : Ledger :=
  calls.foldl (fun ledger call => (ledger.perform call).2) ledger

/-! ## Each call through the balances it shows -/

theorem balance?_set (account : EscrowAccount) (amount : Nat) :
    (ledger.set account amount).balance? =
      Function.update ledger.balance? account (some amount) := by
  funext other
  rw [Function.update_apply]
  exact lookup_replace ledger.balances account other amount

theorem balance?_remove (account : EscrowAccount) :
    (ledger.remove account).balance? = Function.update ledger.balance? account none := by
  funext other
  rw [Function.update_apply]
  exact lookup_filter_ne ledger.balances account other

theorem balance?_increase (account : EscrowAccount) (amount : Nat) :
    (ledger.increase account amount).balance? =
      Function.update ledger.balance? account
        (some (min ((ledger.balance? account).getD 0 + amount) (2 ^ 256 - 1))) := by
  rw [increase, balance?_set]
  rfl

/-- Reducing fails on a missing account and on an amount above the balance, naming what it
found, and otherwise sets the balance to what remains. -/
theorem reduce_eq (account : EscrowAccount) (amount : Nat) :
    ledger.reduce account amount =
      match ledger.balance? account with
      | none => .error (.accountNotFound account)
      | some available =>
        if available < amount then .error (.insufficientBalance available amount)
        else .ok (ledger.set account (available - amount)) := by
  unfold reduce
  cases ledger.balance? account with
  | none => rfl
  | some available =>
      by_cases short : available < amount
      · simp [short]
      · simp [short, Nat.le_of_not_lt short]

/-- One call answers, and changes the balances, as the function does. -/
theorem perform_balance? (call : LedgerCall) :
    (ledger.perform call).1 = (call.apply ledger.balance?).1 ∧
      (ledger.perform call).2.balance? = (call.apply ledger.balance?).2 := by
  cases call with
  | set account amount => exact ⟨rfl, balance?_set account amount⟩
  | increase account amount => exact ⟨rfl, balance?_increase account amount⟩
  | reduce account amount =>
      simp only [perform, LedgerCall.apply, reduce_eq]
      cases ledger.balance? account with
      | none => exact ⟨rfl, rfl⟩
      | some available =>
          by_cases short : available < amount
          · simp [short]
          · simp [short, balance?_set]
  | remove account => exact ⟨rfl, balance?_remove account⟩

/-- A run of calls shows the balances the function reaches by the same calls. -/
theorem balance?_run (calls : List LedgerCall) :
    (ledger.run calls).balance? =
      calls.foldl (fun balances call => (call.apply balances).2) ledger.balance? := by
  induction calls generalizing ledger with
  | nil => rfl
  | cons call rest induction =>
      simp only [run, List.foldl_cons] at induction ⊢
      rw [induction, (perform_balance? call).2]

end Ledger

/-- Over every sequence of calls from the empty ledger, the ledger reads and answers as the map
`LedgerCall.replay` keeps. -/
theorem ledger_runs_as_a_map (calls : List LedgerCall) :
    (∀ account, (Ledger.empty.run calls).getBalance account =
      match LedgerCall.replay calls account with
      | some amount => .ok amount
      | none => .error (.accountNotFound account)) ∧
    ∀ call, ((Ledger.empty.run calls).perform call).1 =
        (call.apply (LedgerCall.replay calls)).1 ∧
      (((Ledger.empty.run calls).perform call).1.isSome →
        ((Ledger.empty.run calls).perform call).2.balance? = (Ledger.empty.run calls).balance?) ∧
      ∀ other, other ≠ call.account →
        ((Ledger.empty.run calls).perform call).2.balance? other =
          (Ledger.empty.run calls).balance? other := by
  have replayed : (Ledger.empty.run calls).balance? = LedgerCall.replay calls :=
    Ledger.balance?_run calls
  refine ⟨fun account => by rw [← replayed]; rfl, fun call => ?_⟩
  obtain ⟨answer, shown⟩ := (Ledger.empty.run calls).perform_balance? call
  refine ⟨by rw [answer, replayed], fun refused => ?_, fun other different => ?_⟩
  · rw [shown]
    exact LedgerCall.apply_of_refused _ call (by rwa [answer] at refused)
  · rw [shown, LedgerCall.apply_of_ne _ call different]

end MeteredPayments
