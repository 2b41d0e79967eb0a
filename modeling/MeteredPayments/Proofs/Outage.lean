import MeteredPayments.Proofs.Sessions
import MeteredPayments.Server.Rpc

/-!
# An escrow outage changes no accounting

A payment and a status question read an escrow balance, and neither lets an unknown answer decide
anything but the reported balance and the warning (`escrow_outage_changes_no_accounting`).
-/

namespace MeteredPayments

/-- What a payment answers apart from the balance. -/
def ValidatePaymentResponse.withoutBalance (response : ValidatePaymentResponse) :
    ValidatePaymentResponse :=
  { response with escrowBalance := none }

/-- A status answer with the four fields that the balance decides set aside. -/
def SessionStatusResponse.withoutBalance (response : SessionStatusResponse) :
    SessionStatusResponse :=
  { response with escrowBalance := 0, escrowBalanceKnown := false, fundsSufficient := false,
                  estimatedBlocksRemaining := 0 }

theorem EscrowBalance.known?_eq_none {balance : EscrowBalance} :
    balance.known? = none ↔ balance = .unknown := by
  cases balance <;> simp [EscrowBalance.known?]

namespace Provider

variable {provider : Provider}

/-! ## Payments -/

/-- A payment is refused, whatever the lookup answers, or it attaches the voucher to a session and
reports the lookup's answer for that session's account. -/
theorem validatePayment_cases (provider : Provider) (request : ValidatePaymentRequest) :
    (∃ rejection, ∀ lookup,
      provider.validatePayment lookup request = (.rejected rejection, provider)) ∨
    ∃ signed session store, request.paymentRav = some signed ∧
      provider.attachRav request.sessionId signed = .ok (session, store) ∧
      ∀ lookup, provider.validatePayment lookup request =
        (⟨true, some session.id, some provider.config.pricing,
            (lookup (provider.escrowAccount session)).known?, none⟩,
          { provider with store := store.put (session.setPricing provider.config.pricing) }) := by
  cases payment : request.paymentRav with
  | none => exact .inl ⟨.missingRav, fun _ => by simp only [validatePayment, payment]⟩
  | some signed =>
      cases checked : provider.checkRav signed signed.message.payer with
      | error rejection =>
          exact .inl ⟨rejection, fun _ => by simp only [validatePayment, payment, checked]⟩
      | ok =>
          cases attached : provider.attachRav request.sessionId signed with
          | error rejection =>
              exact .inl ⟨rejection, fun _ => by
                simp only [validatePayment, payment, checked, attached]⟩
          | ok result =>
              obtain ⟨session, store⟩ := result
              exact .inr ⟨signed, session, store, rfl, attached,
                fun _ => by simp only [validatePayment, payment, checked, attached]; rfl⟩

/-- In a provider that a run reaches, a voucher is attached to a session of its payer with this
provider: a stored session because its payer was compared with the voucher's and every stored
session pays the provider, a new one because it is opened so. -/
theorem attachRav_account (reachable : provider.Reachable) {sessionId : Option String}
    {signed : SignedVoucher} {session : Session} {store : Store}
    (attached : provider.attachRav sessionId signed = .ok (session, store)) :
    provider.escrowAccount session =
      ⟨signed.message.payer, provider.config.collector, provider.config.serviceProvider⟩ := by
  rcases attachRav_ok attached with ⟨stored, resuming, payer_eq, written, -⟩ | ⟨-, rfl, -⟩
  · obtain ⟨named, -, found⟩ := Option.bind_eq_some_iff.mp resuming
    obtain ⟨-, -, rfl⟩ := Session.compareAndSetRav_ok written
    have served := reachable.servedBy stored (Store.find?_eq_some found).1
    simp only [escrowAccount, Session.setRav_payer, payer_eq]
    rw [← served.receiver_eq]
    rfl
  · rfl

/-- Under any two lookups a payment leaves the same provider and answers the same apart from the
balance. -/
theorem validatePayment_independent (request : ValidatePaymentRequest)
    (lookup other : EscrowAccount → EscrowBalance) :
    (provider.validatePayment lookup request).2 = (provider.validatePayment other request).2 ∧
    (provider.validatePayment lookup request).1.withoutBalance =
      (provider.validatePayment other request).1.withoutBalance := by
  rcases provider.validatePayment_cases request with ⟨rejection, refused⟩ |
    ⟨signed, session, store, -, -, accepted⟩
  · rw [refused lookup, refused other]
    exact ⟨rfl, rfl⟩
  · rw [accepted lookup, accepted other]
    exact ⟨rfl, rfl⟩

/-- A refused payment reports no balance. -/
theorem validatePayment_balance_of_refused {request : ValidatePaymentRequest}
    {lookup : EscrowAccount → EscrowBalance}
    (refused : (provider.validatePayment lookup request).1.valid = false) :
    (provider.validatePayment lookup request).1.escrowBalance = none := by
  rcases provider.validatePayment_cases request with ⟨rejection, refusing⟩ |
    ⟨signed, session, store, -, -, accepted⟩
  · rw [refusing lookup]
    rfl
  · rw [accepted lookup] at refused
    cases refused

/-- An accepted payment reports the lookup's answer for the voucher payer's account with this
provider. -/
theorem validatePayment_balance_of_valid (reachable : provider.Reachable)
    {request : ValidatePaymentRequest} {lookup : EscrowAccount → EscrowBalance}
    (valid : (provider.validatePayment lookup request).1.valid = true) :
    ∃ signed, request.paymentRav = some signed ∧
      (provider.validatePayment lookup request).1.escrowBalance =
        (lookup ⟨signed.message.payer, provider.config.collector,
          provider.config.serviceProvider⟩).known? := by
  rcases provider.validatePayment_cases request with ⟨rejection, refusing⟩ |
    ⟨signed, session, store, offered, attached, accepted⟩
  · rw [refusing lookup] at valid
    cases valid
  · refine ⟨signed, offered, ?_⟩
    rw [accepted lookup, ← attachRav_account reachable attached]

/-! ## Status questions -/

/-- The funding picture of a stored session when its escrow balance is `balance`. -/
def statusOf (provider : Provider) (session : Session) (balance : EscrowBalance) :
    SessionStatusResponse :=
  let uncommitted := session.usage.cost - session.ravValue
  let blockPrice := (provider.sessionPricing session).perBlock.wei
  ⟨session.isActive, some session, balance.orZero, balance.known?.isSome, session.usage.cost,
    session.ravValue, uncommitted, decide (uncommitted ≤ balance.orZero),
    if blockPrice = 0 then 0 else (balance.orZero - uncommitted) / blockPrice⟩

@[simp] theorem statusOf_session (session : Session) (balance : EscrowBalance) :
    (provider.statusOf session balance).session = some session :=
  rfl

theorem sessionStatus_of_found {lookup : EscrowAccount → EscrowBalance}
    {request : SessionStatusRequest} {session : Session}
    (found : provider.store.find? request.sessionId = some session) :
    provider.sessionStatus lookup request =
      provider.statusOf session (lookup (provider.escrowAccount session)) := by
  simp only [sessionStatus, found, statusOf]

theorem sessionStatus_of_missing {lookup : EscrowAccount → EscrowBalance}
    {request : SessionStatusRequest} (missing : provider.store.find? request.sessionId = none) :
    provider.sessionStatus lookup request = .unknown := by
  simp only [sessionStatus, missing]

/-- The balance decides only its own four fields. -/
theorem statusOf_withoutBalance (session : Session) (balance other : EscrowBalance) :
    (provider.statusOf session balance).withoutBalance =
      (provider.statusOf session other).withoutBalance :=
  rfl

/-- An unknown balance reads as a known balance of zero, reported as unknown. -/
theorem statusOf_unknown (session : Session) :
    provider.statusOf session .unknown =
      { provider.statusOf session (.known 0) with escrowBalanceKnown := false } :=
  rfl

theorem statusOf_escrowBalanceKnown (session : Session) (balance : EscrowBalance) :
    (provider.statusOf session balance).escrowBalanceKnown = false ↔ balance = .unknown := by
  cases balance <;> simp [statusOf, EscrowBalance.known?]

/-- Under any two lookups a status question answers the same apart from the four fields the
balance decides. -/
theorem sessionStatus_independent (request : SessionStatusRequest)
    (lookup other : EscrowAccount → EscrowBalance) :
    (provider.sessionStatus lookup request).withoutBalance =
      (provider.sessionStatus other request).withoutBalance := by
  cases found : provider.store.find? request.sessionId with
  | none => rw [sessionStatus_of_missing found, sessionStatus_of_missing found]
  | some session =>
      rw [sessionStatus_of_found found, sessionStatus_of_found found]
      exact statusOf_withoutBalance session _ _

/-- When the balance of the session asked about is unknown, a status question answers what a known
balance of zero gives, reported as unknown. -/
theorem sessionStatus_of_unknown {request : SessionStatusRequest}
    {lookup : EscrowAccount → EscrowBalance}
    (unknown : ∀ session, provider.store.find? request.sessionId = some session →
      lookup (provider.escrowAccount session) = .unknown) :
    provider.sessionStatus lookup request =
      { provider.sessionStatus (fun _ => .known 0) request with escrowBalanceKnown := false } := by
  cases found : provider.store.find? request.sessionId with
  | none =>
      rw [sessionStatus_of_missing found, sessionStatus_of_missing found]
      rfl
  | some session =>
      rw [sessionStatus_of_found found, sessionStatus_of_found found, unknown session found]
      exact statusOf_unknown session

end Provider

/-! ## Warnings of the service -/

namespace Server.Service

variable {service : Service} {lookup : EscrowAccount → EscrowBalance}

theorem validatePayment_warnings (request : ValidatePaymentRequest) :
    (service.validatePayment lookup request).1.warnings =
      if (service.provider.validatePayment lookup request).1.valid &&
          (service.provider.validatePayment lookup request).1.escrowBalance.isNone then
        [escrowUnavailable]
      else [] := by
  unfold validatePayment
  by_cases valid : (service.provider.validatePayment lookup request).1.valid <;>
    by_cases unread : (service.provider.validatePayment lookup request).1.escrowBalance.isNone <;>
    simp [valid, unread]

theorem sessionStatus_warnings (request : SessionStatusRequest) :
    (service.sessionStatus lookup request).1.warnings =
      if (service.provider.sessionStatus lookup request).session.isSome &&
          !(service.provider.sessionStatus lookup request).escrowBalanceKnown then
        [escrowUnavailable]
      else [] := by
  unfold sessionStatus
  by_cases present : (service.provider.sessionStatus lookup request).session.isSome <;>
    by_cases known : (service.provider.sessionStatus lookup request).escrowBalanceKnown <;>
    simp [present, known]

end Server.Service

namespace Provider

variable {provider : Provider}

/-- The service warns about a payment exactly when it was accepted and the balance of the voucher
payer's account could not be read. -/
theorem validatePayment_warned (reachable : provider.Reachable) (metrics : Server.Metrics)
    (request : ValidatePaymentRequest) (lookup : EscrowAccount → EscrowBalance) :
    Server.escrowUnavailable ∈
        (Server.Service.validatePayment lookup ⟨provider, metrics⟩ request).1.warnings ↔
      (provider.validatePayment lookup request).1.valid = true ∧
      ∃ signed, request.paymentRav = some signed ∧
        lookup ⟨signed.message.payer, provider.config.collector,
          provider.config.serviceProvider⟩ = .unknown := by
  rw [Server.Service.validatePayment_warnings]
  by_cases valid : (provider.validatePayment lookup request).1.valid = true
  · obtain ⟨signed, offered, balance⟩ := validatePayment_balance_of_valid reachable valid
    simp [valid, balance, offered, EscrowBalance.known?_eq_none]
  · simp [valid]

/-- The service warns about a status question exactly when its session exists and the balance of
the session's account could not be read. -/
theorem sessionStatus_warned (metrics : Server.Metrics) (request : SessionStatusRequest)
    (lookup : EscrowAccount → EscrowBalance) :
    Server.escrowUnavailable ∈
        (Server.Service.sessionStatus lookup ⟨provider, metrics⟩ request).1.warnings ↔
      ∃ session, provider.store.find? request.sessionId = some session ∧
        lookup (provider.escrowAccount session) = .unknown := by
  rw [Server.Service.sessionStatus_warnings]
  cases found : provider.store.find? request.sessionId with
  | none =>
      rw [sessionStatus_of_missing found]
      simp [SessionStatusResponse.unknown]
  | some session =>
      have known : (provider.statusOf session
          (lookup (provider.escrowAccount session))).escrowBalanceKnown = false ↔
          lookup (provider.escrowAccount session) = .unknown :=
        statusOf_escrowBalanceKnown session _
      rw [sessionStatus_of_found found]
      simp [statusOf_session, known]

/-! ## The law -/

/-- Over every run, what the escrow lookup answers changes nothing but the balance reported and the
warning `-32101`. -/
theorem escrow_outage_changes_no_accounting (reachable : provider.Reachable) :
    (∀ request lookup other,
      (provider.validatePayment lookup request).2 = (provider.validatePayment other request).2 ∧
      (provider.validatePayment lookup request).1.withoutBalance =
        (provider.validatePayment other request).1.withoutBalance) ∧
    (∀ request lookup, (provider.validatePayment lookup request).1.valid = false →
      (provider.validatePayment lookup request).1.escrowBalance = none) ∧
    (∀ request lookup signed, (provider.validatePayment lookup request).1.valid = true →
      request.paymentRav = some signed →
      (provider.validatePayment lookup request).1.escrowBalance =
        (lookup ⟨signed.message.payer, provider.config.collector,
          provider.config.serviceProvider⟩).known?) ∧
    (∀ request lookup other, provider.call (.sessionStatus lookup request) = provider ∧
      (provider.sessionStatus lookup request).withoutBalance =
        (provider.sessionStatus other request).withoutBalance) ∧
    (∀ request lookup, (∀ session, provider.store.find? request.sessionId = some session →
        lookup (provider.escrowAccount session) = .unknown) →
      provider.sessionStatus lookup request =
        { provider.sessionStatus (fun _ => .known 0) request with escrowBalanceKnown := false }) ∧
    Server.escrowUnavailable.code = -32101 ∧
    (∀ metrics request lookup,
      Server.escrowUnavailable ∈
          (Server.Service.validatePayment lookup ⟨provider, metrics⟩ request).1.warnings ↔
        (provider.validatePayment lookup request).1.valid = true ∧
        ∃ signed, request.paymentRav = some signed ∧
          lookup ⟨signed.message.payer, provider.config.collector,
            provider.config.serviceProvider⟩ = .unknown) ∧
    (∀ metrics request lookup,
      Server.escrowUnavailable ∈
          (Server.Service.sessionStatus lookup ⟨provider, metrics⟩ request).1.warnings ↔
        ∃ session, provider.store.find? request.sessionId = some session ∧
          lookup (provider.escrowAccount session) = .unknown) := by
  refine ⟨fun request lookup other => validatePayment_independent request lookup other,
    fun request lookup refused => validatePayment_balance_of_refused refused,
    fun request lookup signed valid offered => ?_,
    fun request lookup other => ⟨rfl, sessionStatus_independent request lookup other⟩,
    fun request lookup unknown => sessionStatus_of_unknown unknown, rfl,
    fun metrics request lookup => validatePayment_warned reachable metrics request lookup,
    fun metrics request lookup => sessionStatus_warned metrics request lookup⟩
  obtain ⟨paid, paid_offered, balance⟩ := validatePayment_balance_of_valid reachable valid
  rw [offered, Option.some.injEq] at paid_offered
  rw [balance, paid_offered]


/-- The sample provider after its first opening. -/
def sampleOpened : Provider := sample.step sampleOpening

/-- An escrow outage changes nothing but the reported balance for the sample provider after its
first opening. -/
theorem outage_spares_opened_provider :
    sampleOpened.Reachable ∧
    ((∀ request lookup other,
      (sampleOpened.validatePayment lookup request).2 =
        (sampleOpened.validatePayment other request).2 ∧
      (sampleOpened.validatePayment lookup request).1.withoutBalance =
        (sampleOpened.validatePayment other request).1.withoutBalance) ∧
    (∀ request lookup, (sampleOpened.validatePayment lookup request).1.valid = false →
      (sampleOpened.validatePayment lookup request).1.escrowBalance = none) ∧
    (∀ request lookup signed, (sampleOpened.validatePayment lookup request).1.valid = true →
      request.paymentRav = some signed →
      (sampleOpened.validatePayment lookup request).1.escrowBalance =
        (lookup ⟨signed.message.payer, sampleOpened.config.collector,
          sampleOpened.config.serviceProvider⟩).known?) ∧
    (∀ request lookup other, sampleOpened.call (.sessionStatus lookup request) = sampleOpened ∧
      (sampleOpened.sessionStatus lookup request).withoutBalance =
        (sampleOpened.sessionStatus other request).withoutBalance) ∧
    (∀ request lookup, (∀ session, sampleOpened.store.find? request.sessionId = some session →
        lookup (sampleOpened.escrowAccount session) = .unknown) →
      sampleOpened.sessionStatus lookup request =
        { sampleOpened.sessionStatus (fun _ => .known 0) request with
          escrowBalanceKnown := false }) ∧
    Server.escrowUnavailable.code = -32101 ∧
    (∀ metrics request lookup,
      Server.escrowUnavailable ∈
          (Server.Service.validatePayment lookup ⟨sampleOpened, metrics⟩ request).1.warnings ↔
        (sampleOpened.validatePayment lookup request).1.valid = true ∧
        ∃ signed, request.paymentRav = some signed ∧
          lookup ⟨signed.message.payer, sampleOpened.config.collector,
            sampleOpened.config.serviceProvider⟩ = .unknown) ∧
    (∀ metrics request lookup,
      Server.escrowUnavailable ∈
          (Server.Service.sessionStatus lookup ⟨sampleOpened, metrics⟩ request).1.warnings ↔
        ∃ session, sampleOpened.store.find? request.sessionId = some session ∧
          lookup (sampleOpened.escrowAccount session) = .unknown)) :=
  have reachable : sampleOpened.Reachable := (Reachable.new _ _ _).step sampleOpening
  ⟨reachable, escrow_outage_changes_no_accounting reachable⟩

end Provider

end MeteredPayments
