import MeteredPayments.Proofs.CheckOrder
import MeteredPayments.Proofs.Outage

/-!
# Accepting the voucher of a connection

A payment is the rejection of the first check that fails, or resumes the named session, or opens
exactly one session under a fresh id (`payment_resumes_or_opens`).
-/

namespace MeteredPayments

namespace Session

variable {session : Session} {signed : SignedVoucher}

/-- A session that is not active refuses every voucher write. -/
theorem compareAndSetRav_of_inactive (inactive : session.state ≠ .active) (now : Nat) :
    session.compareAndSetRav signed now = .error (.inactive session.state) := by
  simp [compareAndSetRav, inactive]

end Session

namespace Provider

variable {provider : Provider}

/-- The first check a payment fails, in the order they are made: a voucher came, its signature
recovers a signer, the signer is accepted, it is accepted for the voucher's payer, the voucher pays
this provider, and, when the named session is stored, it has the voucher's payer, it is active and
its voucher is worth no more. `none` when every check passes. -/
def paymentRejection (provider : Provider) (request : ValidatePaymentRequest) : Option Rejection :=
  match request.paymentRav with
  | none => some .missingRav
  | some signed =>
    match signed.recoverSigner provider.verifier.domain with
    | .error cause => some (.invalidSignature cause.message)
    | .ok signer =>
      match provider.verifier.signers.authorizerOf signer with
      | none => some (.unauthorizedSigner signer)
      | some authorizer =>
        if authorizer ≠ signed.message.payer then
          some (.signerNotAuthorizedForPayer signer signed.message.payer)
        else if signed.message.serviceProvider ≠ provider.config.serviceProvider then
          some (.serviceProviderMismatch provider.config.serviceProvider
            signed.message.serviceProvider)
        else
          match request.sessionId.bind provider.store.find? with
          | none => none
          | some session =>
            if session.payer ≠ signed.message.payer then
              some (.payerMismatch session.payer signed.message.payer)
            else if session.state ≠ .active then some (.sessionInactive session.state)
            else if signed.message.valueAggregate < session.ravValue then
              some (.nonMonotonicValue session.ravValue signed.message.valueAggregate)
            else none

/-- Checked against its own payer, a voucher passes exactly when the verifier accepts it and it
pays this provider. -/
theorem checkRav_own_payer {signed : SignedVoucher} :
    provider.checkRav signed signed.message.payer = .ok () ↔
      (∃ signer, provider.verifier.verify signed = .ok signer) ∧
        signed.message.serviceProvider = provider.config.serviceProvider := by
  rw [checkRav_eq, verify_ok_iff]
  cases signed.recoverSigner provider.verifier.domain with
  | error cause => simp
  | ok signer =>
      cases bound : provider.verifier.signers.authorizerOf signer with
      | none => simp [bound]
      | some authorizer =>
          by_cases same : authorizer = signed.message.payer
          · by_cases provider_eq : signed.message.serviceProvider = provider.config.serviceProvider
            · simp [bound, same, provider_eq]
            · simp [bound, same, provider_eq]
          · simp [bound, same]

/-- A voucher for a stored session is compared with it: the payer, then the state, then the
value. -/
theorem attachRav_of_found {sessionId : Option String} {signed : SignedVoucher}
    {session : Session} (found : sessionId.bind provider.store.find? = some session) :
    provider.attachRav sessionId signed =
      if session.payer ≠ signed.message.payer then
        .error (.payerMismatch session.payer signed.message.payer)
      else if session.state ≠ .active then .error (.sessionInactive session.state)
      else if signed.message.valueAggregate < session.ravValue then
        .error (.nonMonotonicValue session.ravValue signed.message.valueAggregate)
      else .ok (session.setRav signed provider.store.clock.next, provider.store.now.2) := by
  unfold attachRav
  rw [found]
  by_cases payer_eq : session.payer = signed.message.payer
  · by_cases active : session.state = .active
    · simp only [payer_eq, active, ne_eq, not_true_eq_false, if_false,
        Session.compareAndSetRav_of_active active]
      by_cases lower : signed.message.valueAggregate < session.ravValue
      · simp [lower, Rejection.ofUpdate]
      · simp [lower, Store.now, Clock.read]
    · simp [payer_eq, active, Session.compareAndSetRav_of_inactive active, Rejection.ofUpdate]
  · simp [payer_eq]

/-- A voucher that names no stored session goes to a new session of its payer with this
provider, created under the next id drawn and stamped by the next two readings of the clock. -/
theorem attachRav_of_missing {sessionId : Option String} {signed : SignedVoucher}
    (missing : sessionId.bind provider.store.find? = none) :
    provider.attachRav sessionId signed =
      .ok ((Session.create provider.store.nextId signed.message.payer
          provider.config.serviceProvider signed.message.dataService provider.store.clock.next).setRav
            signed (provider.store.clock.next + 1),
        (provider.store.create signed.message.payer provider.config.serviceProvider
          signed.message.dataService).2.now.2) := by
  simp only [attachRav, missing]
  rfl

/-- A payment whose voucher checks out and is attached answers with the attached session's id and
stores that session priced by the provider. -/
theorem validatePayment_of_attached {lookup : EscrowAccount → EscrowBalance}
    {request : ValidatePaymentRequest} {signed : SignedVoucher} {session : Session} {store : Store}
    (offered : request.paymentRav = some signed)
    (checked : provider.checkRav signed signed.message.payer = .ok ())
    (attached : provider.attachRav request.sessionId signed = .ok (session, store)) :
    provider.validatePayment lookup request =
      (⟨true, some session.id, some provider.config.pricing,
          (lookup (provider.escrowAccount session)).known?, none⟩,
        { provider with store := store.put (session.setPricing provider.config.pricing) }) := by
  simp only [validatePayment, offered, checked, attached]
  rfl

/-- Without a voucher the first check fails. -/
theorem paymentRejection_of_missing {request : ValidatePaymentRequest}
    (missing : request.paymentRav = none) :
    provider.paymentRejection request = some .missingRav := by
  simp [paymentRejection, missing]

/-- With a voucher, the checks of a payment are those of the voucher against its own payer, then
those of attaching it to the named session. -/
theorem paymentRejection_of_offered {request : ValidatePaymentRequest} {signed : SignedVoucher}
    (offered : request.paymentRav = some signed) :
    provider.paymentRejection request =
      match provider.checkRav signed signed.message.payer with
      | .error rejection => some rejection
      | .ok () =>
        match provider.attachRav request.sessionId signed with
        | .error rejection => some rejection
        | .ok _ => none := by
  unfold paymentRejection
  rw [offered, checkRav_eq]
  dsimp only
  cases signed.recoverSigner provider.verifier.domain with
  | error cause => rfl
  | ok signer =>
      dsimp only
      cases provider.verifier.signers.authorizerOf signer with
      | none => rfl
      | some authorizer =>
          dsimp only
          by_cases bound : authorizer = signed.message.payer
          · by_cases provider_eq :
                signed.message.serviceProvider = provider.config.serviceProvider
            · -- the voucher checks out against its own payer; the named session decides
              simp only [bound, provider_eq, ne_eq, not_true_eq_false, if_false]
              cases found : request.sessionId.bind provider.store.find? with
              | none => rw [attachRav_of_missing found]
              | some session =>
                  -- both sides test the payer, the state and the value, in that order
                  rw [attachRav_of_found found]
                  simp only [ne_eq]
                  split_ifs <;> rfl
            · simp [bound, provider_eq]
          · simp [bound]

/-- Attaching a voucher succeeds exactly when the named session, if stored, has the voucher's
payer, is active and holds no voucher worth more. -/
theorem attachRav_ok_iff {sessionId : Option String} {signed : SignedVoucher} :
    (∃ attached, provider.attachRav sessionId signed = .ok attached) ↔
      ∀ session, sessionId.bind provider.store.find? = some session →
        session.payer = signed.message.payer ∧ session.state = .active ∧
        session.ravValue ≤ signed.message.valueAggregate := by
  cases found : sessionId.bind provider.store.find? with
  | none => simp [attachRav_of_missing found]
  | some session =>
      rw [attachRav_of_found found]
      by_cases payer_eq : session.payer = signed.message.payer
      · by_cases active : session.state = .active
        · by_cases lower : signed.message.valueAggregate < session.ravValue
          · simp [payer_eq, active, lower]
          · simp [payer_eq, active, lower, Nat.le_of_not_lt lower]
        · simp [payer_eq, active]
      · simp [payer_eq]

/-- A payment with a voucher passes every check exactly when the voucher passes the check against
its own payer and attaches to the named session. -/
theorem paymentRejection_eq_none_of_offered {request : ValidatePaymentRequest}
    {signed : SignedVoucher} (offered : request.paymentRav = some signed) :
    provider.paymentRejection request = none ↔
      provider.checkRav signed signed.message.payer = .ok () ∧
        ∃ attached, provider.attachRav request.sessionId signed = .ok attached := by
  rw [paymentRejection_of_offered offered]
  cases provider.checkRav signed signed.message.payer with
  | error rejection => simp
  | ok u =>
      cases provider.attachRav request.sessionId signed with
      | error rejection => simp
      | ok attached => simp

/-- A payment is refused with the first check it fails, leaving the provider as it was, and
accepted when it fails none. -/
theorem validatePayment_checked (lookup : EscrowAccount → EscrowBalance)
    (request : ValidatePaymentRequest) :
    match provider.paymentRejection request with
    | some rejection => provider.validatePayment lookup request = (.rejected rejection, provider)
    | none => (provider.validatePayment lookup request).1.valid = true := by
  unfold validatePayment
  cases offered : request.paymentRav with
  | none => rw [paymentRejection_of_missing offered]
  | some signed =>
      rw [paymentRejection_of_offered offered]
      dsimp only
      -- the handler makes the same two steps, each refusing with the rejection it finds
      cases provider.checkRav signed signed.message.payer with
      | error rejection => rfl
      | ok u =>
          cases provider.attachRav request.sessionId signed with
          | error rejection => rfl
          | ok attached => rfl

/-- Every check passes exactly when a voucher came, the verifier accepts it, it pays this
provider, and the named session, if stored, has its payer, is active and is worth no more. -/
theorem paymentRejection_eq_none_iff {request : ValidatePaymentRequest} :
    provider.paymentRejection request = none ↔
      ∃ signed, request.paymentRav = some signed ∧
        (∃ signer, provider.verifier.verify signed = .ok signer) ∧
        signed.message.serviceProvider = provider.config.serviceProvider ∧
        ∀ session, request.sessionId.bind provider.store.find? = some session →
          session.payer = signed.message.payer ∧ session.state = .active ∧
          session.ravValue ≤ signed.message.valueAggregate := by
  cases offered : request.paymentRav with
  | none => simp [paymentRejection_of_missing offered]
  | some signed =>
      rw [paymentRejection_eq_none_of_offered offered, checkRav_own_payer, attachRav_ok_iff]
      simp only [Option.some.injEq, exists_eq_left', and_assoc]

/-- A payment that passes every check and names a stored session writes the voucher into that
session, priced again by the provider, and answers with its id. -/
theorem validatePayment_resumes {lookup : EscrowAccount → EscrowBalance}
    {request : ValidatePaymentRequest} {signed : SignedVoucher} {session : Session}
    (passed : provider.paymentRejection request = none) (offered : request.paymentRav = some signed)
    (found : request.sessionId.bind provider.store.find? = some session) :
    (provider.validatePayment lookup request).1.sessionId = some session.id ∧
    provider.Updates (provider.validatePayment lookup request).2
      ((session.setRav signed provider.store.clock.next).setPricing provider.config.pricing) := by
  obtain ⟨checked, attaches⟩ := (paymentRejection_eq_none_of_offered offered).mp passed
  obtain ⟨payer_eq, active, not_lower⟩ := attachRav_ok_iff.mp attaches session found
  have attached : provider.attachRav request.sessionId signed =
      .ok (session.setRav signed provider.store.clock.next, provider.store.now.2) := by
    rw [attachRav_of_found found]
    simp [payer_eq, active, Nat.not_lt_of_le not_lower]
  obtain ⟨named, -, stored⟩ := Option.bind_eq_some_iff.mp found
  have present : provider.store.find? session.id = some session := by
    rw [(Store.find?_eq_some stored).2]
    exact stored
  rw [validatePayment_of_attached offered checked attached]
  exact ⟨rfl, rfl, rfl, by change (provider.store.find? session.id).isSome; rw [present]; rfl,
    rfl, rfl⟩

/-- A payment that passes every check and names no stored session opens one new session under the
drawn id, for the voucher's payer and data service, holding the voucher, and answers with its id. -/
theorem validatePayment_opens (lookup : EscrowAccount → EscrowBalance)
    {request : ValidatePaymentRequest}
    {signed : SignedVoucher} (passed : provider.paymentRejection request = none)
    (offered : request.paymentRav = some signed)
    (missing : request.sessionId.bind provider.store.find? = none) :
    ∃ session, Session.Opened provider.config.pricing signed.message.payer
        provider.config.serviceProvider (some signed) session ∧
      session.dataService = signed.message.dataService ∧
      (provider.validatePayment lookup request).1.sessionId = some session.id ∧
      provider.Opens (provider.validatePayment lookup request).2 session := by
  obtain ⟨checked, -⟩ := (paymentRejection_eq_none_of_offered offered).mp passed
  rw [validatePayment_of_attached offered checked (attachRav_of_missing missing)]
  exact ⟨((provider.store.create signed.message.payer provider.config.serviceProvider
      signed.message.dataService).1.setRav signed (provider.store.clock.next + 1)).setPricing
        provider.config.pricing, ⟨rfl, rfl, rfl, rfl, rfl, rfl, rfl, rfl⟩, rfl, rfl,
    ⟨rfl, rfl, rfl, Store.put_append_fresh provider.store.nextId_fresh rfl, rfl⟩⟩

/-- A payment is refused by its first failing check, or resumes the session it names, or opens one
session under a fresh id. -/
theorem payment_resumes_or_opens (lookup : EscrowAccount → EscrowBalance)
    (request : ValidatePaymentRequest) :
    ((provider.validatePayment lookup request).1.valid = true ↔
      ∃ signed, request.paymentRav = some signed ∧
        (∃ signer, provider.verifier.verify signed = .ok signer) ∧
        signed.message.serviceProvider = provider.config.serviceProvider ∧
        ∀ session, request.sessionId.bind provider.store.find? = some session →
          session.payer = signed.message.payer ∧ session.state = .active ∧
          ∀ current, session.currentRav = some current →
            current.message.valueAggregate ≤ signed.message.valueAggregate) ∧
    (∀ rejection, provider.paymentRejection request = some rejection →
      provider.validatePayment lookup request = (.rejected rejection, provider)) ∧
    (∀ signed session, (provider.validatePayment lookup request).1.valid = true →
      request.paymentRav = some signed →
      request.sessionId.bind provider.store.find? = some session →
      (provider.validatePayment lookup request).1.sessionId = some session.id ∧
      provider.Updates (provider.validatePayment lookup request).2
        ((session.setRav signed provider.store.clock.next).setPricing provider.config.pricing)) ∧
    (∀ signed, (provider.validatePayment lookup request).1.valid = true →
      request.paymentRav = some signed →
      request.sessionId.bind provider.store.find? = none →
      ∃ session, Session.Opened provider.config.pricing signed.message.payer
          provider.config.serviceProvider (some signed) session ∧
        session.dataService = signed.message.dataService ∧
        session.id ∉ provider.store.sessions.map (·.id) ∧
        (provider.validatePayment lookup request).1.sessionId = some session.id ∧
        provider.Opens (provider.validatePayment lookup request).2 session) := by
  have checked := provider.validatePayment_checked lookup request
  have valid_iff : (provider.validatePayment lookup request).1.valid = true ↔
      provider.paymentRejection request = none := by
    cases rejected : provider.paymentRejection request with
    | none =>
        rw [rejected] at checked
        exact iff_of_true checked rfl
    | some rejection =>
        rw [rejected] at checked
        simp [checked, ValidatePaymentResponse.rejected]
  refine ⟨?_, ?_, ?_, ?_⟩
  · simp only [valid_iff, paymentRejection_eq_none_iff, Session.ravValue_le_iff]
  · intro rejection rejected
    rw [rejected] at checked
    exact checked
  · intro signed session valid offered found
    exact validatePayment_resumes (valid_iff.mp valid) offered found
  · intro signed valid offered missing
    obtain ⟨session, opened, service, answered, opens⟩ :=
      validatePayment_opens lookup (valid_iff.mp valid) offered missing
    exact ⟨session, opened, service, opens.id_fresh, answered, opens⟩

end Provider

end MeteredPayments
