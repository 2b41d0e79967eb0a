import MeteredPayments.Proofs.Store
import MeteredPayments.Provider.Handler

/-!
# What each handler operation can do

One inversion lemma per operation says everything a call can do: refuse and change nothing, store
a new session under a fresh id (`Provider.Opens`), or replace the stored session of one id
(`Provider.Updates`). Later modules argue by cases on these lemmas.
-/

namespace MeteredPayments

/-! ## Guarded updates of one session -/

namespace Session

variable {session updated : Session} {signed : SignedVoucher} {now : Nat}

theorem compareAndSetRav_ok (stored : session.compareAndSetRav signed now = .ok updated) :
    session.state = .active ∧ session.ravValue ≤ signed.message.valueAggregate ∧
      updated = session.setRav signed now := by
  unfold compareAndSetRav at stored
  by_cases active : session.state = .active
  · cases current : session.currentRav with
    | none =>
        simp only [active, current, ne_eq, not_true_eq_false, if_false, Except.ok.injEq] at stored
        exact ⟨active, by simp [ravValue, current], stored.symm⟩
    | some held =>
        by_cases lower : signed.message.valueAggregate < held.message.valueAggregate
        · simp [active, current, lower] at stored
        · simp only [active, current, lower, ne_eq, not_true_eq_false, if_false,
            Except.ok.injEq] at stored
          exact ⟨active, by simp [ravValue, current]; omega, stored.symm⟩
  · simp [active] at stored

theorem compareAndSetRav_error {error : UpdateError}
    (refused : session.compareAndSetRav signed now = .error error) :
    session.state ≠ .active ∨ signed.message.valueAggregate < session.ravValue := by
  unfold compareAndSetRav at refused
  by_cases active : session.state = .active
  · cases current : session.currentRav with
    | none => simp [active, current] at refused
    | some held =>
        by_cases lower : signed.message.valueAggregate < held.message.valueAggregate
        · exact .inr (by simpa [ravValue, current] using lower)
        · simp [active, current, lower] at refused
  · exact .inl active

theorem addUsage_ok {blocks bytes requests : Nat} {cost : Option Nat}
    (added : session.addUsage blocks bytes requests cost now = .ok updated) :
    session.state = .active ∧
      updated = { session with
        usage := session.usage.add blocks bytes requests cost, updatedAt := now } := by
  unfold addUsage at added
  by_cases active : session.state = .active
  · rw [if_pos active] at added
    exact ⟨active, (Except.ok.inj added).symm⟩
  · simp [active] at added

theorem addUsage_error {blocks bytes requests : Nat} {cost : Option Nat} {error : UpdateError}
    (refused : session.addUsage blocks bytes requests cost now = .error error) :
    session.state ≠ .active := by
  unfold addUsage at refused
  by_cases active : session.state = .active
  · simp [active] at refused
  · exact active

@[simp] theorem setRav_currentRav : (session.setRav signed now).currentRav = some signed := rfl
@[simp] theorem setRav_id : (session.setRav signed now).id = session.id := rfl
@[simp] theorem setRav_payer : (session.setRav signed now).payer = session.payer := rfl
@[simp] theorem setRav_usage : (session.setRav signed now).usage = session.usage := rfl
@[simp] theorem setRav_state : (session.setRav signed now).state = session.state := rfl
@[simp] theorem setRav_endedAt : (session.setRav signed now).endedAt = session.endedAt := rfl
@[simp] theorem setRav_pricing : (session.setRav signed now).pricing = session.pricing := rfl

@[simp] theorem finish_id {reason : EndReason} {finalUsage : Option UsageDelta}
    {finalCost : Option Nat} :
    (session.finish reason finalUsage finalCost now).id = session.id := by
  unfold finish
  split <;> rfl

@[simp] theorem finish_payer {reason : EndReason} {finalUsage : Option UsageDelta}
    {finalCost : Option Nat} :
    (session.finish reason finalUsage finalCost now).payer = session.payer := by
  unfold finish
  split <;> rfl

@[simp] theorem finish_currentRav {reason : EndReason} {finalUsage : Option UsageDelta}
    {finalCost : Option Nat} :
    (session.finish reason finalUsage finalCost now).currentRav = session.currentRav := by
  unfold finish
  split <;> rfl

@[simp] theorem finish_pricing {reason : EndReason} {finalUsage : Option UsageDelta}
    {finalCost : Option Nat} :
    (session.finish reason finalUsage finalCost now).pricing = session.pricing := by
  unfold finish
  split <;> rfl

@[simp] theorem finish_receiver {reason : EndReason} {finalUsage : Option UsageDelta}
    {finalCost : Option Nat} :
    (session.finish reason finalUsage finalCost now).receiver = session.receiver := by
  unfold finish
  split <;> rfl

theorem finish_state {reason : EndReason} {finalUsage : Option UsageDelta}
    {finalCost : Option Nat} (running : session.endedAt = none) :
    (session.finish reason finalUsage finalCost now).state = .ended := by
  simp [finish, running]

theorem finish_endedAt {reason : EndReason} {finalUsage : Option UsageDelta}
    {finalCost : Option Nat} (running : session.endedAt = none) :
    (session.finish reason finalUsage finalCost now).endedAt = some now := by
  simp [finish, running]

theorem finish_endReason {reason : EndReason} {finalUsage : Option UsageDelta}
    {finalCost : Option Nat} (running : session.endedAt = none) :
    (session.finish reason finalUsage finalCost now).endReason = some reason := by
  simp [finish, running]

theorem finish_usage {reason : EndReason} {finalUsage : Option UsageDelta}
    {finalCost : Option Nat} (running : session.endedAt = none) :
    (session.finish reason finalUsage finalCost now).usage =
      match finalUsage with
      | some delta =>
        session.usage.add delta.blocksProcessed delta.bytesTransferred delta.requests finalCost
      | none => session.usage := by
  cases finalUsage <;> simp [finish, running]

end Session

/-- A session as an operation opens it: active and unused, with no end recorded, priced by the
provider, paid by `payer` to `receiver` and holding `rav`. -/
structure Session.Opened (pricing : Pricing) (payer receiver : Address)
    (rav : Option SignedVoucher) (session : Session) : Prop where
  payer_eq : session.payer = payer
  receiver_eq : session.receiver = receiver
  currentRav_eq : session.currentRav = rav
  usage_eq : session.usage = Usage.zero
  pricing_eq : session.pricing = some pricing
  state_eq : session.state = .active
  endedAt_eq : session.endedAt = none
  endReason_eq : session.endReason = none

namespace Provider

/-- `after` is `before` with `session` stored under the next id drawn. -/
structure Opens (before after : Provider) (session : Session) : Prop where
  config_eq : after.config = before.config
  verifier_eq : after.verifier = before.verifier
  id_eq : session.id = before.store.nextId
  sessions_eq : after.store.sessions = before.store.sessions ++ [session]
  issued_eq : after.store.issued = before.store.issued + 1

/-- `after` is `before` with the stored session of `session`'s id replaced by `session`. -/
structure Updates (before after : Provider) (session : Session) : Prop where
  config_eq : after.config = before.config
  verifier_eq : after.verifier = before.verifier
  present : (before.store.find? session.id).isSome
  sessions_eq : after.store.sessions = (before.store.put session).sessions
  issued_eq : after.store.issued = before.store.issued

variable {before after provider : Provider} {session : Session}

theorem Opens.find? (opens : before.Opens after session) (sessionId : String) :
    after.store.find? sessionId =
      if sessionId = session.id then some session else before.store.find? sessionId := by
  have lookup : after.store.find? sessionId =
      (before.store.find? sessionId).or
        (if session.id = sessionId then some session else none) := by
    simp only [Store.find?, opens.sessions_eq, List.find?_append]
    by_cases same : session.id = sessionId <;> simp [same]
  by_cases same : sessionId = session.id
  · have absent : before.store.find? sessionId = none := by
      rw [same, opens.id_eq]
      exact before.store.find?_nextId
    rw [lookup, absent, if_pos same.symm, if_pos same]
    rfl
  · rw [lookup, if_neg (Ne.symm same), if_neg same]
    cases before.store.find? sessionId <;> rfl

/-- A session is opened under an id that no stored session has. -/
theorem Opens.id_fresh (opens : before.Opens after session) :
    session.id ∉ before.store.sessions.map (·.id) := by
  intro member
  obtain ⟨stored, stored_mem, same⟩ := List.mem_map.mp member
  rw [opens.id_eq] at same
  exact before.store.nextId_fresh stored stored_mem same

theorem Opens.wellFormed (opens : before.Opens after session) (formed : before.store.WellFormed) :
    after.store.WellFormed := by
  constructor
  rw [opens.sessions_eq]
  exact formed.append opens.id_fresh

theorem Updates.find? (updates : before.Updates after session) (sessionId : String) :
    after.store.find? sessionId =
      if sessionId = session.id then some session else before.store.find? sessionId := by
  have lookup : after.store.find? sessionId = (before.store.put session).find? sessionId := by
    simp only [Store.find?, updates.sessions_eq]
  rw [lookup]
  by_cases same : sessionId = session.id
  · rw [if_pos same, same]
    exact Store.find?_put_self updates.present
  · rw [if_neg same]
    exact Store.find?_put_of_ne same

/-- Opening a session leaves the lookup of every other id alone. -/
theorem Opens.find?_of_ne (opens : before.Opens after session) {sessionId : String}
    (other : sessionId ≠ session.id) :
    after.store.find? sessionId = before.store.find? sessionId := by
  rw [opens.find?, if_neg other]

/-- Replacing the session of one id leaves the lookup of every other id alone. -/
theorem Updates.find?_of_ne (updates : before.Updates after session) {sessionId : String}
    (other : sessionId ≠ session.id) :
    after.store.find? sessionId = before.store.find? sessionId := by
  rw [updates.find?, if_neg other]

theorem Updates.wellFormed (updates : before.Updates after session)
    (formed : before.store.WellFormed) : after.store.WellFormed := by
  have put_formed := formed.put session
  exact ⟨by rw [updates.sessions_eq]; exact put_formed.ids_nodup⟩

theorem Updates.mem (updates : before.Updates after session) {stored : Session}
    (member : stored ∈ after.store.sessions) :
    stored = session ∨ stored ∈ before.store.sessions := by
  rw [updates.sessions_eq] at member
  rcases Store.mem_put member with rfl | ⟨old, -⟩
  · exact .inl rfl
  · exact .inr old

/-! ## The voucher check -/

/-- A voucher passes the check when it recovers, in the provider's domain, to a signer bound to
its own payer, that payer is the expected one, and it pays this provider. -/
theorem checkRav_ok {signed : SignedVoucher} {payer : Address}
    (checked : provider.checkRav signed payer = .ok ()) :
    (∃ signer, signed.recoverSigner provider.verifier.domain = .ok signer ∧
      provider.verifier.signers.authorizerOf signer = some signed.message.payer) ∧
    signed.message.payer = payer ∧
    signed.message.serviceProvider = provider.config.serviceProvider := by
  unfold checkRav at checked
  cases verified : provider.verifier.verify signed with
  | error error => simp [verified, bind, Except.bind] at checked
  | ok signer =>
      have recovered : ∃ signer, signed.recoverSigner provider.verifier.domain = .ok signer ∧
          provider.verifier.signers.authorizerOf signer = some signed.message.payer := by
        unfold Verifier.verify Verifier.verifySignature at verified
        cases recovery : signed.recoverSigner provider.verifier.domain with
        | error cause => simp [recovery, Except.mapError, bind, Except.bind] at verified
        | ok recoveredSigner =>
            refine ⟨recoveredSigner, rfl, ?_⟩
            cases bound : provider.verifier.signers.authorizerOf recoveredSigner with
            | none =>
                simp [recovery, bound, Except.mapError, bind, Except.bind, throw, throwThe,
                  MonadExceptOf.throw] at verified
            | some authorizer =>
                by_cases same : authorizer = signed.message.payer
                · rw [same]
                · simp [recovery, bound, same, Except.mapError, bind, Except.bind, throw, throwThe,
                    MonadExceptOf.throw] at verified
      by_cases payer_eq : signed.message.payer = payer
      · by_cases provider_eq : signed.message.serviceProvider = provider.config.serviceProvider
        · exact ⟨recovered, payer_eq, provider_eq⟩
        · simp [verified, payer_eq, provider_eq, throw, throwThe, MonadExceptOf.throw] at checked
      · simp [verified, payer_eq, bind, Except.bind, throw, throwThe,
          MonadExceptOf.throw] at checked

end Provider

namespace Provider

variable {provider : Provider}

/-! ## Opening a session -/

theorem startSession_rejected {request : StartSessionRequest}
    (rejected : (provider.startSession request).1.accepted = false) :
    (provider.startSession request).2 = provider := by
  unfold startSession at rejected ⊢
  by_cases receiver_eq : request.escrowAccount.receiver = provider.config.serviceProvider
  · cases initial : request.initialRav with
    | none => simp [receiver_eq, initial, Store.create, Store.now, Clock.read] at rejected
    | some signed =>
        cases checked : provider.checkRav signed request.escrowAccount.payer with
        | error rejection => simp [receiver_eq, checked]
        | ok =>
            simp [receiver_eq, initial, checked, Store.create, Store.now, Clock.read] at rejected
  · simp [receiver_eq]

theorem startSession_accepted {request : StartSessionRequest}
    (accepted : (provider.startSession request).1.accepted = true) :
    request.escrowAccount.receiver = provider.config.serviceProvider ∧
    (∀ signed, request.initialRav = some signed →
      provider.checkRav signed request.escrowAccount.payer = .ok ()) ∧
    ∃ session, Session.Opened provider.config.pricing request.escrowAccount.payer
        request.escrowAccount.receiver request.initialRav session ∧
      (provider.startSession request).1.sessionId = some session.id ∧
      provider.Opens (provider.startSession request).2 session := by
  have fresh := provider.store.nextId_fresh
  unfold startSession at accepted ⊢
  by_cases receiver_eq : request.escrowAccount.receiver = provider.config.serviceProvider
  · refine ⟨receiver_eq, ?_, ?_⟩
    · intro signed initial
      cases checked : provider.checkRav signed request.escrowAccount.payer with
      | ok => rfl
      | error rejection =>
          simp [receiver_eq, initial, checked, StartSessionResponse.rejected] at accepted
    · cases initial : request.initialRav with
      | none =>
          simp [receiver_eq, Store.create, Store.now, Clock.read]
          exact ⟨_, ⟨rfl, rfl, rfl, rfl, rfl, rfl, rfl, rfl⟩, rfl,
            ⟨rfl, rfl, rfl, Store.put_append_fresh fresh rfl, rfl⟩⟩
      | some signed =>
          cases checked : provider.checkRav signed request.escrowAccount.payer with
          | error rejection =>
              simp [receiver_eq, initial, checked, StartSessionResponse.rejected] at accepted
          | ok =>
              simp [receiver_eq, checked, Store.create, Store.now, Clock.read]
              refine ⟨_, ?_, ?_, ⟨rfl, rfl, rfl, Store.put_append_fresh fresh rfl, rfl⟩⟩
              · exact ⟨rfl, rfl, rfl, rfl, rfl, rfl, rfl, rfl⟩
              · rfl
  · simp [receiver_eq, StartSessionResponse.rejected] at accepted

/-! ## Accepting the voucher of a connection -/

theorem attachRav_ok {sessionId : Option String} {signed : SignedVoucher} {session : Session}
    {store : Store} (attached : provider.attachRav sessionId signed = .ok (session, store)) :
    (∃ stored, sessionId.bind provider.store.find? = some stored ∧
      stored.payer = signed.message.payer ∧
      stored.compareAndSetRav signed provider.store.clock.next = .ok session ∧
      store = provider.store.now.2) ∨
    (sessionId.bind provider.store.find? = none ∧
      session = (Session.create provider.store.nextId signed.message.payer
        provider.config.serviceProvider signed.message.dataService provider.store.clock.next).setRav
          signed (provider.store.clock.next + 1) ∧
      store = (provider.store.create signed.message.payer provider.config.serviceProvider
        signed.message.dataService).2.now.2) := by
  unfold attachRav at attached
  cases found : sessionId.bind provider.store.find? with
  | none =>
      simp only [found, Store.create, Store.now, Clock.read, Except.ok.injEq,
        Prod.mk.injEq] at attached
      exact .inr ⟨rfl, attached.1.symm, attached.2.symm⟩
  | some stored =>
      by_cases payer_eq : stored.payer = signed.message.payer
      · cases stored_rav : stored.compareAndSetRav signed provider.store.clock.next with
        | error error =>
            simp [found, payer_eq, Store.now, Clock.read, stored_rav] at attached
        | ok updated =>
            simp only [found, payer_eq, ne_eq, not_true_eq_false, if_false, Store.now, Clock.read,
              stored_rav, Except.ok.injEq, Prod.mk.injEq] at attached
            exact .inl ⟨stored, rfl, payer_eq, by rw [attached.1] at stored_rav; exact stored_rav,
              attached.2.symm⟩
      · simp [found, payer_eq] at attached

theorem validatePayment_rejected {lookup : EscrowAccount → EscrowBalance}
    {request : ValidatePaymentRequest}
    (rejected : (provider.validatePayment lookup request).1.valid = false) :
    (provider.validatePayment lookup request).2 = provider := by
  unfold validatePayment at rejected ⊢
  cases payment : request.paymentRav with
  | none => rfl
  | some signed =>
      cases checked : provider.checkRav signed signed.message.payer with
      | error rejection => simp [checked]
      | ok =>
          cases attached : provider.attachRav request.sessionId signed with
          | error rejection => simp [checked, attached]
          | ok result => simp [payment, checked, attached] at rejected

theorem validatePayment_valid {lookup : EscrowAccount → EscrowBalance}
    {request : ValidatePaymentRequest}
    (valid : (provider.validatePayment lookup request).1.valid = true) :
    ∃ signed, request.paymentRav = some signed ∧
      provider.checkRav signed signed.message.payer = .ok () ∧
      ((∃ stored updated, request.sessionId.bind provider.store.find? = some stored ∧
          stored.payer = signed.message.payer ∧
          stored.compareAndSetRav signed provider.store.clock.next = .ok updated ∧
          provider.Updates (provider.validatePayment lookup request).2
            (updated.setPricing provider.config.pricing)) ∨
        (request.sessionId.bind provider.store.find? = none ∧
          ∃ session,
            Session.Opened provider.config.pricing signed.message.payer
              provider.config.serviceProvider (some signed) session ∧
            provider.Opens (provider.validatePayment lookup request).2 session)) := by
  unfold validatePayment at valid ⊢
  cases payment : request.paymentRav with
  | none => simp [payment, ValidatePaymentResponse.rejected] at valid
  | some signed =>
      cases checked : provider.checkRav signed signed.message.payer with
      | error rejection => simp [payment, checked, ValidatePaymentResponse.rejected] at valid
      | ok =>
          refine ⟨signed, rfl, checked, ?_⟩
          cases attached : provider.attachRav request.sessionId signed with
          | error rejection =>
              simp [payment, checked, attached, ValidatePaymentResponse.rejected] at valid
          | ok result =>
              obtain ⟨session, store⟩ := result
              simp only [checked, attached]
              rcases attachRav_ok attached with
                ⟨stored, found, payer_eq, stored_rav, rfl⟩ | ⟨absent, rfl, rfl⟩
              · obtain ⟨named, named_eq, found⟩ := Option.bind_eq_some_iff.mp found
                obtain ⟨-, -, rfl⟩ := Session.compareAndSetRav_ok stored_rav
                have present : provider.store.find? stored.id = some stored := by
                  rw [(Store.find?_eq_some found).2]
                  exact found
                exact .inl ⟨stored, _, by rw [named_eq]; exact found, payer_eq, stored_rav,
                  ⟨rfl, rfl, by change (provider.store.find? stored.id).isSome; rw [present]; rfl,
                    rfl, rfl⟩⟩
              · refine .inr ⟨absent, _, ?_,
                  ⟨rfl, rfl, rfl, Store.put_append_fresh provider.store.nextId_fresh rfl, rfl⟩⟩
                exact ⟨rfl, rfl, rfl, rfl, rfl, rfl, rfl, rfl⟩

/-! ## Usage reports -/

theorem reportUsage_error {request : ReportUsageRequest} {error : ServiceError}
    (failed : provider.reportUsage request = .error error) :
    provider.store.find? request.sessionId = none := by
  unfold reportUsage Store.get at failed
  cases found : provider.store.find? request.sessionId with
  | none => rfl
  | some stored =>
      cases added : stored.addUsage request.usage.blocksProcessed request.usage.bytesTransferred
          request.usage.requests (some ((provider.sessionPricing stored).usageCost
            request.usage.blocksProcessed request.usage.bytesTransferred))
          provider.store.clock.next <;>
        simp [found, added, Store.now, Clock.read, bind, Except.bind, pure, Except.pure] at failed

theorem reportUsage_ok {request : ReportUsageRequest} {response : ReportUsageResponse}
    {after : Provider} (reported : provider.reportUsage request = .ok (response, after)) :
    ∃ stored, provider.store.find? request.sessionId = some stored ∧
      ((stored.state ≠ .active ∧ response.shouldContinue = false ∧ after = provider) ∨
        (stored.state = .active ∧ response.shouldContinue = true ∧
          let usage := stored.usage.add request.usage.blocksProcessed request.usage.bytesTransferred
            request.usage.requests (some ((provider.sessionPricing stored).usageCost
              request.usage.blocksProcessed request.usage.bytesTransferred))
          response.accumulatedUsage = some usage ∧
          provider.Updates after
            { stored with usage, updatedAt := provider.store.clock.next })) := by
  unfold reportUsage Store.get at reported
  cases found : provider.store.find? request.sessionId with
  | none => simp [found, bind, Except.bind] at reported
  | some stored =>
      refine ⟨stored, rfl, ?_⟩
      cases added : stored.addUsage request.usage.blocksProcessed request.usage.bytesTransferred
          request.usage.requests (some ((provider.sessionPricing stored).usageCost
            request.usage.blocksProcessed request.usage.bytesTransferred))
          provider.store.clock.next with
      | error error =>
          simp only [found, added, Store.now, Clock.read, bind, Except.bind, pure, Except.pure,
            Except.ok.injEq, Prod.mk.injEq] at reported
          obtain ⟨rfl, rfl⟩ := reported
          exact .inl ⟨Session.addUsage_error added, rfl, rfl⟩
      | ok updated =>
          simp only [found, added, Store.now, Clock.read, bind, Except.bind, pure, Except.pure,
            Except.ok.injEq, Prod.mk.injEq] at reported
          obtain ⟨rfl, rfl⟩ := reported
          obtain ⟨active, rfl⟩ := Session.addUsage_ok added
          have present : provider.store.find? stored.id = some stored := by
            rw [(Store.find?_eq_some found).2]
            exact found
          exact .inr ⟨active, rfl, rfl, rfl, rfl, by simp [present], rfl, rfl⟩

/-! ## Fresh vouchers -/

theorem submitRav_rejected {request : SubmitRavRequest}
    (rejected : (provider.submitRav request).1.accepted = false) :
    (provider.submitRav request).2 = provider := by
  unfold submitRav at rejected ⊢
  cases found : provider.store.find? request.sessionId with
  | none => rfl
  | some stored =>
      by_cases active : stored.isActive = true
      · cases offered : request.signedRav with
        | none => simp [active]
        | some signed =>
            cases checked : provider.checkRav signed stored.payer with
            | error rejection => simp [active, checked]
            | ok =>
                by_cases receiver_eq : signed.message.serviceProvider = stored.receiver
                · cases stored_rav : stored.compareAndSetRav signed provider.store.clock.next with
                  | error error =>
                      simp [active, checked, receiver_eq, Store.now, Clock.read, stored_rav]
                  | ok updated =>
                      simp [found, active, offered, checked, receiver_eq, Store.now, Clock.read,
                        stored_rav, SubmitRavResponse.stored] at rejected
                · simp [active, checked, receiver_eq]
      · simp [active]

theorem submitRav_accepted {request : SubmitRavRequest}
    (accepted : (provider.submitRav request).1.accepted = true) :
    ∃ stored signed, provider.store.find? request.sessionId = some stored ∧
      request.signedRav = some signed ∧ stored.state = .active ∧
      provider.checkRav signed stored.payer = .ok () ∧
      signed.message.serviceProvider = stored.receiver ∧
      ∃ updated, stored.compareAndSetRav signed provider.store.clock.next = .ok updated ∧
        provider.Updates (provider.submitRav request).2 updated := by
  unfold submitRav at accepted ⊢
  cases found : provider.store.find? request.sessionId with
  | none => simp [found, SubmitRavResponse.rejected] at accepted
  | some stored =>
      by_cases active : stored.isActive = true
      · cases offered : request.signedRav with
        | none => simp [found, active, offered, SubmitRavResponse.rejected] at accepted
        | some signed =>
            cases checked : provider.checkRav signed stored.payer with
            | error rejection =>
                simp [found, active, offered, checked, SubmitRavResponse.rejected] at accepted
            | ok =>
                by_cases receiver_eq : signed.message.serviceProvider = stored.receiver
                · cases stored_rav : stored.compareAndSetRav signed provider.store.clock.next with
                  | error error =>
                      simp [found, active, offered, checked, receiver_eq, Store.now, Clock.read,
                        stored_rav, SubmitRavResponse.rejected] at accepted
                  | ok updated =>
                      obtain ⟨state_eq, -, rfl⟩ := Session.compareAndSetRav_ok stored_rav
                      have present : provider.store.find? stored.id = some stored := by
                        rw [(Store.find?_eq_some found).2]
                        exact found
                      refine ⟨stored, signed, rfl, rfl, state_eq, checked, receiver_eq,
                        stored.setRav signed provider.store.clock.next, stored_rav, ?_⟩
                      simp only [active, checked, receiver_eq, Store.now, Clock.read, stored_rav,
                        Bool.not_true, Bool.false_eq_true, if_false, ne_eq, not_true_eq_false]
                      exact ⟨rfl, rfl, by rw [Session.setRav_id, present]; rfl, rfl, rfl⟩
                · simp [found, active, offered, checked, receiver_eq,
                    SubmitRavResponse.rejected] at accepted
      · simp [found, active, SubmitRavResponse.rejected] at accepted

/-! ## Ending a session -/

theorem endSession_error {request : EndSessionRequest} {error : ServiceError}
    (failed : provider.endSession request = .error error) :
    provider.store.find? request.sessionId = none := by
  unfold endSession at failed
  cases found : provider.store.get request.sessionId with
  | error cause =>
      unfold Store.get at found
      cases present : provider.store.find? request.sessionId with
      | none => rfl
      | some stored => simp [present] at found
  | ok stored =>
      have lookup : provider.store.find? request.sessionId = some stored := by
        unfold Store.get at found
        cases present : provider.store.find? request.sessionId <;> simp_all
      cases finishing : provider.store.finish request.sessionId request.reason request.finalUsage
          (request.finalUsage.map fun usage =>
            (provider.sessionPricing stored).usageCost usage.blocksProcessed
              usage.bytesTransferred) with
      | error cause => rw [Store.finish_error finishing] at lookup; cases lookup
      | ok result => simp [found, finishing, bind, Except.bind, pure, Except.pure] at failed

theorem endSession_ok {request : EndSessionRequest} {response : EndSessionResponse}
    {after : Provider} (ended : provider.endSession request = .ok (response, after)) :
    ∃ stored, provider.store.find? request.sessionId = some stored ∧
      ((stored.endedAt.isSome ∧ after = provider) ∨
        (stored.endedAt = none ∧
          provider.Updates after (stored.finish request.reason request.finalUsage
            (request.finalUsage.map fun usage =>
              (provider.sessionPricing stored).usageCost usage.blocksProcessed
                usage.bytesTransferred)
            provider.store.clock.next))) := by
  unfold endSession at ended
  cases found : provider.store.get request.sessionId with
  | error cause => simp [found, bind, Except.bind] at ended
  | ok stored =>
      have lookup : provider.store.find? request.sessionId = some stored := by
        unfold Store.get at found
        cases present : provider.store.find? request.sessionId <;> simp_all
      refine ⟨stored, lookup, ?_⟩
      cases finishing : provider.store.finish request.sessionId request.reason request.finalUsage
          (request.finalUsage.map fun usage =>
            (provider.sessionPricing stored).usageCost usage.blocksProcessed
              usage.bytesTransferred) with
      | error cause => simp [found, finishing, bind, Except.bind] at ended
      | ok result =>
          simp only [found, finishing, bind, Except.bind, pure, Except.pure, Except.ok.injEq,
            Prod.mk.injEq] at ended
          obtain ⟨-, rfl⟩ := ended
          obtain ⟨same, same_lookup, finished⟩ := Store.finish_cases finishing
          rw [lookup, Option.some.injEq] at same_lookup
          subst same_lookup
          rcases finished with ⟨time, ended_at, rfl⟩ | ⟨not_ended, rfl⟩
          · exact .inl ⟨by simp [ended_at], rfl⟩
          · have present : provider.store.find? stored.id = some stored := by
              rw [(Store.find?_eq_some lookup).2]
              exact lookup
            exact .inr ⟨not_ended, rfl, rfl, by simp [Session.finish, not_ended, present], rfl,
              rfl⟩

/-! ## Signer changes and removals -/

@[simp] theorem addSigner_config (signer authorizer : Address) :
    (provider.addSigner signer authorizer).2.config = provider.config := rfl

@[simp] theorem addSigner_store (signer authorizer : Address) :
    (provider.addSigner signer authorizer).2.store = provider.store := rfl

@[simp] theorem addSigner_domain (signer authorizer : Address) :
    (provider.addSigner signer authorizer).2.verifier.domain = provider.verifier.domain := rfl

@[simp] theorem removeSigner_config (signer : Address) :
    (provider.removeSigner signer).2.config = provider.config := rfl

@[simp] theorem removeSigner_store (signer : Address) :
    (provider.removeSigner signer).2.store = provider.store := rfl

@[simp] theorem removeSigner_domain (signer : Address) :
    (provider.removeSigner signer).2.verifier.domain = provider.verifier.domain := rfl

@[simp] theorem deleteSession_config (sessionId : String) :
    (provider.deleteSession sessionId).2.config = provider.config := rfl

@[simp] theorem deleteSession_verifier (sessionId : String) :
    (provider.deleteSession sessionId).2.verifier = provider.verifier := rfl

@[simp] theorem deleteSession_store (sessionId : String) :
    (provider.deleteSession sessionId).2.store = (provider.store.delete sessionId).2 := rfl

@[simp] theorem deleteEndedBefore_config (offset : Int) :
    (provider.deleteEndedBefore offset).2.config = provider.config := rfl

@[simp] theorem deleteEndedBefore_verifier (offset : Int) :
    (provider.deleteEndedBefore offset).2.verifier = provider.verifier := rfl

@[simp] theorem deleteEndedBefore_store (offset : Int) :
    (provider.deleteEndedBefore offset).2.store =
      (provider.store.now.2.deleteEndedBefore (provider.store.clock.next + offset)).2 := rfl

end Provider

end MeteredPayments
