import MeteredPayments.Proofs.Sessions

/-!
# The order of the checks on a submitted voucher

The answer to a submission is the rejection of the first of nine checks that fails, in the order
of `Provider.submissionRejection`, or acceptance (`submission_checks_in_order`). The code's tenth
check, that the voucher pays the session's receiver, never refuses over a run.
-/

namespace MeteredPayments

namespace Session

variable {session : Session} {signed : SignedVoucher}

/-- The stored value is at most the offered one exactly when no stored voucher is worth more. -/
theorem ravValue_le_iff :
    session.ravValue ≤ signed.message.valueAggregate ↔
      ∀ current, session.currentRav = some current →
        current.message.valueAggregate ≤ signed.message.valueAggregate := by
  unfold ravValue
  cases session.currentRav with
  | none => simp
  | some current => simp

/-- On an active session the guarded write refuses only a voucher worth less than the stored
one. -/
theorem compareAndSetRav_of_active (active : session.state = .active) (now : Nat) :
    session.compareAndSetRav signed now =
      if signed.message.valueAggregate < session.ravValue then
        .error (.nonMonotonicValue session.ravValue signed.message.valueAggregate)
      else .ok (session.setRav signed now) := by
  unfold compareAndSetRav ravValue
  cases session.currentRav with
  | none => simp [active]
  | some current => simp [active]

end Session

/-- The verifier recovers the signer, then asks the allow-list for its authorizer, then compares
that with the voucher's payer. -/
theorem Verifier.verify_eq (verifier : Verifier) (signed : SignedVoucher) :
    verifier.verify signed =
      match signed.recoverSigner verifier.domain with
      | .error cause => .error (.invalidSignature cause)
      | .ok signer =>
        match verifier.signers.authorizerOf signer with
        | none => .error (.unauthorizedSigner signer)
        | some authorizer =>
          if authorizer = signed.message.payer then .ok signer
          else .error (.signerNotAuthorizedForPayer signer signed.message.payer) := by
  unfold Verifier.verify Verifier.verifySignature
  cases signed.recoverSigner verifier.domain with
  | error cause => rfl
  | ok signer =>
      cases bound : verifier.signers.authorizerOf signer with
      | none =>
          simp [bound, Except.mapError, bind, Except.bind, throw, throwThe, MonadExceptOf.throw]
      | some authorizer =>
          by_cases same : authorizer = signed.message.payer
          · simp [bound, same, Except.mapError, bind, Except.bind, pure, Except.pure]
          · simp [bound, same, Except.mapError, bind, Except.bind, throw, throwThe,
              MonadExceptOf.throw]

namespace Provider

variable {provider : Provider}

/-- The first check a submitted voucher fails, in the order they are made: the session exists,
it is active, a voucher came, its signature recovers a signer, the signer is accepted, it is
accepted for the voucher's payer, that payer is the session's, the voucher pays this provider, and
its value is not below the stored one. `none` when every check passes. -/
def submissionRejection (provider : Provider) (request : SubmitRavRequest) : Option Rejection :=
  match provider.store.find? request.sessionId with
  | none => some .sessionNotFound
  | some session =>
    if session.state ≠ .active then some (.sessionInactive session.state)
    else
      match request.signedRav with
      | none => some .missingRav
      | some signed =>
        match signed.recoverSigner provider.verifier.domain with
        | .error cause => some (.invalidSignature cause.message)
        | .ok signer =>
          match provider.verifier.signers.authorizerOf signer with
          | none => some (.unauthorizedSigner signer)
          | some authorizer =>
            if authorizer ≠ signed.message.payer then
              some (.signerNotAuthorizedForPayer signer signed.message.payer)
            else if signed.message.payer ≠ session.payer then
              some (.payerMismatch session.payer signed.message.payer)
            else if signed.message.serviceProvider ≠ provider.config.serviceProvider then
              some (.serviceProviderMismatch provider.config.serviceProvider
                signed.message.serviceProvider)
            else if signed.message.valueAggregate < session.ravValue then
              some (.nonMonotonicValue session.ravValue signed.message.valueAggregate)
            else none

/-- The voucher check is the verifier's three checks, then the payer, then the provider. -/
theorem checkRav_eq (signed : SignedVoucher) (payer : Address) :
    provider.checkRav signed payer =
      match signed.recoverSigner provider.verifier.domain with
      | .error cause => .error (.invalidSignature cause.message)
      | .ok signer =>
        match provider.verifier.signers.authorizerOf signer with
        | none => .error (.unauthorizedSigner signer)
        | some authorizer =>
          if authorizer ≠ signed.message.payer then
            .error (.signerNotAuthorizedForPayer signer signed.message.payer)
          else if signed.message.payer ≠ payer then
            .error (.payerMismatch payer signed.message.payer)
          else if signed.message.serviceProvider ≠ provider.config.serviceProvider then
            .error (.serviceProviderMismatch provider.config.serviceProvider
              signed.message.serviceProvider)
          else .ok () := by
  unfold checkRav
  rw [Verifier.verify_eq]
  cases signed.recoverSigner provider.verifier.domain with
  | error cause => rfl
  | ok signer =>
      dsimp only
      cases provider.verifier.signers.authorizerOf signer with
      | none => rfl
      | some authorizer =>
          dsimp only
          by_cases same : authorizer = signed.message.payer
          · simp [same, bind, Except.bind, pure, Except.pure, throw, throwThe,
              MonadExceptOf.throw]
          · simp [same, Rejection.ofVerification, bind, Except.bind, throw, throwThe,
              MonadExceptOf.throw]

/-- The verifier accepts a voucher exactly when it recovers to a signer bound to its payer. -/
theorem verify_ok_iff (signed : SignedVoucher) :
    (∃ signer, provider.verifier.verify signed = .ok signer) ↔
      ∃ signer, signed.recoverSigner provider.verifier.domain = .ok signer ∧
        provider.verifier.signers.authorizerOf signer = some signed.message.payer := by
  rw [Verifier.verify_eq]
  cases signed.recoverSigner provider.verifier.domain with
  | error cause => simp
  | ok signer =>
      cases bound : provider.verifier.signers.authorizerOf signer with
      | none => simp [bound]
      | some authorizer =>
          by_cases same : authorizer = signed.message.payer
          · simp [bound, same]
          · simp [bound, same]

/-- When every stored session is paid to the provider, the answer to a submission is the
rejection of the first check that fails, or acceptance when none does: the receiver check passes
whenever the voucher check did, and the write refuses only a lower value. -/
theorem submitRav_response
    (paid : ∀ session ∈ provider.store.sessions, session.receiver = provider.config.serviceProvider)
    (request : SubmitRavRequest) :
    (provider.submitRav request).1 =
      match provider.submissionRejection request with
      | none => .stored
      | some rejection => .rejected rejection := by
  unfold submitRav submissionRejection
  cases found : provider.store.find? request.sessionId with
  | none => rfl
  | some session =>
      have receiver_eq := paid session (Store.find?_eq_some found).1
      by_cases active : session.state = .active
      · have running : session.isActive = true := by simp [Session.isActive, active]
        simp only [running, active, Bool.not_true, Bool.false_eq_true, if_false, ne_eq,
          not_true_eq_false]
        cases request.signedRav with
        | none => rfl
        | some signed =>
            dsimp only
            rw [checkRav_eq]
            cases signed.recoverSigner provider.verifier.domain with
            | error cause => rfl
            | ok signer =>
                dsimp only
                cases provider.verifier.signers.authorizerOf signer with
                | none => rfl
                | some authorizer =>
                    dsimp only
                    by_cases bound : authorizer = signed.message.payer
                    · by_cases payer_eq : signed.message.payer = session.payer
                      · by_cases provider_eq :
                            signed.message.serviceProvider = provider.config.serviceProvider
                        · -- every check of the voucher passed, so it pays the session's receiver
                          simp only [bound, payer_eq, provider_eq, receiver_eq, ne_eq,
                            not_true_eq_false, if_false, Store.now, Clock.read,
                            Session.compareAndSetRav_of_active active]
                          by_cases lower : signed.message.valueAggregate < session.ravValue
                          · simp [lower, Rejection.ofUpdate]
                          · simp [lower]
                        · simp [bound, payer_eq, provider_eq]
                      · simp [bound, payer_eq]
                    · simp [bound]
      · simp [Session.isActive, active]

/-- Every check passes exactly when the session is found and active, a voucher came, the verifier
accepts it, it names the session's payer and pays this provider, and its value is not lower. -/
theorem submissionRejection_eq_none_iff {request : SubmitRavRequest} :
    provider.submissionRejection request = none ↔
      ∃ session signed, provider.store.find? request.sessionId = some session ∧
        session.state = .active ∧ request.signedRav = some signed ∧
        (∃ signer, provider.verifier.verify signed = .ok signer) ∧
        signed.message.payer = session.payer ∧
        signed.message.serviceProvider = provider.config.serviceProvider ∧
        session.ravValue ≤ signed.message.valueAggregate := by
  simp only [verify_ok_iff]
  unfold submissionRejection
  cases found : provider.store.find? request.sessionId with
  | none => simp
  | some session =>
      by_cases active : session.state = .active
      · cases offered : request.signedRav with
        | none => simp [active]
        | some signed =>
            cases recovered : signed.recoverSigner provider.verifier.domain with
            | error cause => simp [active, recovered]
            | ok signer =>
                cases bound : provider.verifier.signers.authorizerOf signer with
                | none => simp [active, recovered, bound]
                | some authorizer =>
                    by_cases same : authorizer = signed.message.payer
                    · subst same
                      by_cases payer_eq : signed.message.payer = session.payer
                      · by_cases provider_eq :
                            signed.message.serviceProvider = provider.config.serviceProvider
                        · by_cases lower : signed.message.valueAggregate < session.ravValue
                          · simp [active, recovered, bound, payer_eq, provider_eq, lower]
                          · simp [active, recovered, bound, payer_eq, provider_eq, lower,
                              Nat.le_of_not_lt lower]
                        · simp [active, recovered, bound, payer_eq, provider_eq]
                      · simp [active, recovered, bound, payer_eq]
                    · simp [active, recovered, bound, same]
      · simp [active]

/-- The first failing check stops the stream exactly when the session is missing or not
active; every later check leaves the client a chance to try again. -/
theorem allowsContinuation_of_submissionRejection {request : SubmitRavRequest}
    {rejection : Rejection} (rejected : provider.submissionRejection request = some rejection) :
    rejection.allowsContinuation = false ↔
      ∀ session, provider.store.find? request.sessionId = some session →
        session.state ≠ .active := by
  unfold submissionRejection at rejected
  cases found : provider.store.find? request.sessionId with
  | none =>
      rw [found] at rejected
      cases rejected
      simp [Rejection.allowsContinuation]
  | some session =>
      rw [found] at rejected
      by_cases active : session.state = .active
      · have later : rejection.allowsContinuation = true := by
          simp only [active, ne_eq, not_true_eq_false, if_false] at rejected
          split at rejected
          · cases rejected
            rfl
          · split at rejected
            · cases rejected
              rfl
            · split at rejected
              · cases rejected
                rfl
              · split_ifs at rejected <;> cases rejected <;> rfl
        simp [later, active]
      · simp only [active, ne_eq, not_false_eq_true, if_true, Option.some.injEq] at rejected
        subst rejected
        simp [Rejection.allowsContinuation, active]

/-- Over every run, a submission is answered by the first check that fails, in the order of
`submissionRejection`, or accepted. -/
theorem submission_checks_in_order (reachable : provider.Reachable)
    (request : SubmitRavRequest) :
    (provider.submitRav request).1 =
        (match provider.submissionRejection request with
          | none => .stored
          | some rejection => .rejected rejection) ∧
    ((provider.submitRav request).1.accepted = true ↔
      ∃ session signed, provider.store.find? request.sessionId = some session ∧
        session.state = .active ∧ request.signedRav = some signed ∧
        (∃ signer, provider.verifier.verify signed = .ok signer) ∧
        signed.message.payer = session.payer ∧
        signed.message.serviceProvider = provider.config.serviceProvider ∧
        ∀ current, session.currentRav = some current →
          current.message.valueAggregate ≤ signed.message.valueAggregate) ∧
    ((provider.submitRav request).1.shouldContinue = false ↔
      ∀ session, provider.store.find? request.sessionId = some session →
        session.state ≠ .active) ∧
    ((provider.submitRav request).1.accepted = true →
      (provider.submitRav request).1.shouldContinue = true) := by
  have response := submitRav_response
    (fun session member => (reachable.servedBy session member).receiver_eq) request
  refine ⟨response, ?_, ?_, ?_⟩
  · simp only [← Session.ravValue_le_iff, ← submissionRejection_eq_none_iff, response]
    cases provider.submissionRejection request with
    | none => simp [SubmitRavResponse.stored]
    | some rejection => simp [SubmitRavResponse.rejected]
  · rw [response]
    cases rejected : provider.submissionRejection request with
    | none =>
        obtain ⟨session, -, found, active, -⟩ := submissionRejection_eq_none_iff.mp rejected
        simp only [SubmitRavResponse.stored, Bool.true_eq_false, false_iff, not_forall]
        exact ⟨session, found, not_not.mpr active⟩
    | some rejection => exact allowsContinuation_of_submissionRejection rejected
  · rw [response]
    cases provider.submissionRejection request with
    | none => simp [SubmitRavResponse.stored]
    | some rejection => simp [SubmitRavResponse.rejected]

/-- A submission without a voucher to the session the sample provider opened. -/
def sampleSubmission : SubmitRavRequest := ⟨Store.sessionId 1, none⟩

theorem sample_submission_checked_in_order :
    (sample.step sampleOpening).Reachable ∧
    (((sample.step sampleOpening).submitRav sampleSubmission).1 =
        (match (sample.step sampleOpening).submissionRejection sampleSubmission with
          | none => .stored
          | some rejection => .rejected rejection) ∧
    (((sample.step sampleOpening).submitRav sampleSubmission).1.accepted = true ↔
      ∃ session signed,
        (sample.step sampleOpening).store.find? sampleSubmission.sessionId = some session ∧
        session.state = .active ∧ sampleSubmission.signedRav = some signed ∧
        (∃ signer, (sample.step sampleOpening).verifier.verify signed = .ok signer) ∧
        signed.message.payer = session.payer ∧
        signed.message.serviceProvider = (sample.step sampleOpening).config.serviceProvider ∧
        ∀ current, session.currentRav = some current →
          current.message.valueAggregate ≤ signed.message.valueAggregate) ∧
    (((sample.step sampleOpening).submitRav sampleSubmission).1.shouldContinue = false ↔
      ∀ session, (sample.step sampleOpening).store.find? sampleSubmission.sessionId = some session →
        session.state ≠ .active) ∧
    (((sample.step sampleOpening).submitRav sampleSubmission).1.accepted = true →
      ((sample.step sampleOpening).submitRav sampleSubmission).1.shouldContinue = true)) :=
  have reachable := (Reachable.new _ _ _).step sampleOpening
  ⟨reachable, submission_checks_in_order reachable sampleSubmission⟩

end Provider

end MeteredPayments
