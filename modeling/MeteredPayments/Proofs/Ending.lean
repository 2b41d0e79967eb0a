import MeteredPayments.Proofs.Sessions
import MeteredPayments.Proofs.Usage

/-!
# Ended sessions are frozen

An ended session stays as it is for as long as it is stored, since every write needs an active
session or one without an end time, and the two agree over a run (`ended_sessions_are_frozen`).
Ending is idempotent: a later end call finds the session as it was and gives the same answer.
-/

namespace MeteredPayments

namespace Provider

variable {provider after : Provider} {sessionId : String} {held held' : Session}

/-! ## An ended session stays as it is -/

/-- `after` is `before` if `before` has ended and its end time is recorded. -/
def StaysFrozen (before after : Session) : Prop :=
  before.state = .ended → before.endedAt.isSome → after = before

theorem call_staysFrozen (formed : provider.WellFormed) (call : SessionCall)
    (found_before : provider.store.find? sessionId = some held)
    (found_after : (provider.call call).store.find? sessionId = some held') :
    StaysFrozen held held' := by
  refine call_relates (fun _ _ _ => rfl) ?_ ?_ ?_ formed call found_before found_after
  · -- a voucher write needs an active session
    intro stored signed now updated written
    have active := (Session.compareAndSetRav_ok written).1
    refine ⟨fun ended => ?_, fun ended => ?_⟩ <;> (rw [active] at ended; cases ended)
  · intro stored usage now active ended
    rw [active] at ended
    cases ended
  · -- the end of a session needs one without an end time
    intro stored reason finalUsage finalCost now running _ recorded
    rw [running] at recorded
    cases recorded

theorem step_staysFrozen (formed : provider.WellFormed) (operation : Operation)
    (found_before : provider.store.find? sessionId = some held)
    (found_after : (provider.step operation).store.find? sessionId = some held') :
    StaysFrozen held held' := by
  rcases step_cases formed operation with ⟨call, rfl⟩ | removal
  · exact call_staysFrozen formed call found_before found_after
  · intro _ _
    have stored_before := removal sessionId held' found_after
    rw [found_before, Option.some.injEq] at stored_before
    exact stored_before.symm

/-- An ended session of a provider that a run reaches is stored unchanged after every run during
which it stays in the store. The induction is on the run; each step keeps the session by
`step_staysFrozen`, and reachability carries the coherence that gives it an end time. -/
theorem run_keeps_ended (reachable : provider.Reachable)
    (found : provider.store.find? sessionId = some held) (ended : held.state = .ended)
    (operations : List Operation)
    (stays : ∀ before, before <+: operations → ((provider.run before).store.find? sessionId).isSome) :
    (provider.run operations).store.find? sessionId = some held := by
  induction operations generalizing provider with
  | nil => exact found
  | cons operation rest induction =>
      have stored_after : ((provider.step operation).store.find? sessionId).isSome :=
        stays [operation] (List.cons_prefix_cons.mpr ⟨rfl, List.nil_prefix⟩)
      obtain ⟨held', found_after⟩ := Option.isSome_iff_exists.mp stored_after
      have same : held' = held :=
        step_staysFrozen reachable.wellFormed operation found found_after ended
          (reachable.endedAt_of_ended found ended)
      rw [same] at found_after
      exact induction (reachable.step operation) found_after fun before prefixed =>
        stays (operation :: before) (List.cons_prefix_cons.mpr ⟨rfl, prefixed⟩)

/-! ## Calls on an ended session -/

/-- A submission for a stored session that is not active is refused. -/
theorem submitRav_inactive {request : SubmitRavRequest}
    (found : provider.store.find? request.sessionId = some held)
    (inactive : held.state ≠ .active) : (provider.submitRav request).1.accepted = false := by
  cases accepted : (provider.submitRav request).1.accepted
  · rfl
  · obtain ⟨stored, -, found', -, active, -⟩ := submitRav_accepted accepted
    rw [found, Option.some.injEq] at found'
    rw [found'] at inactive
    exact absurd active inactive

/-- A payment that names a stored session that is not active is refused: the session is found, so
no new one is opened, and its guarded voucher write refuses. -/
theorem validatePayment_inactive {lookup : EscrowAccount → EscrowBalance}
    {request : ValidatePaymentRequest}
    (named : request.sessionId = some sessionId)
    (found : provider.store.find? sessionId = some held) (inactive : held.state ≠ .active) :
    (provider.validatePayment lookup request).1.valid = false := by
  have resuming : request.sessionId.bind provider.store.find? = some held := by
    rw [named, Option.bind_some, found]
  cases valid : (provider.validatePayment lookup request).1.valid
  · rfl
  · obtain ⟨signed, -, -, resumed | created⟩ := validatePayment_valid valid
    · obtain ⟨stored, updated, found', -, written, -⟩ := resumed
      rw [resuming, Option.some.injEq] at found'
      rw [found'] at inactive
      exact absurd (Session.compareAndSetRav_ok written).1 inactive
    · rw [resuming] at created
      cases created.1

/-- Ending a session that has ended answers from the stored record and changes nothing. -/
theorem endSession_of_ended {request : EndSessionRequest} {time : Nat}
    (found : provider.store.find? request.sessionId = some held)
    (ended : held.endedAt = some time) :
    provider.endSession request =
      .ok (⟨held.id, held.currentRav, held.usage, time, held.endReason.getD request.reason⟩,
        provider) := by
  unfold endSession Store.finish Store.get
  simp [found, ended, bind, Except.bind, pure, Except.pure]

/-- Ending a running session finishes it at the next clock reading, with the request's reason. -/
theorem endSession_of_running {request : EndSessionRequest}
    (found : provider.store.find? request.sessionId = some held)
    (running : held.endedAt = none) :
    let finished := held.finish request.reason request.finalUsage
      (request.finalUsage.map fun usage =>
        (provider.sessionPricing held).usageCost usage.blocksProcessed usage.bytesTransferred)
      provider.store.clock.next
    provider.endSession request =
      .ok (⟨held.id, held.currentRav, finished.usage, provider.store.clock.next, request.reason⟩,
        { provider with store := provider.store.now.2.put finished }) := by
  unfold endSession Store.finish Store.get
  simp [found, running, Session.finish, Store.now, Clock.read, bind, Except.bind, pure,
    Except.pure]

/-- After a successful end call the session is stored ended, with the answer's end time and end
reason recorded, and the answer is read off it. -/
theorem endSession_records (reachable : provider.Reachable) {request : EndSessionRequest}
    {response : EndSessionResponse} (ending : provider.endSession request = .ok (response, after)) :
    ∃ session, after.store.find? request.sessionId = some session ∧
      session.state = .ended ∧ session.endedAt = some response.endedAt ∧
      session.endReason = some response.endReason ∧
      response = ⟨session.id, session.currentRav, session.usage, response.endedAt,
        response.endReason⟩ := by
  obtain ⟨stored, found, -⟩ := endSession_ok ending
  have coherent := reachable.coherent stored (Store.find?_eq_some found).1
  cases recorded : stored.endedAt with
  | some time =>
      -- the session had ended: its own reason is kept
      obtain ⟨reason, kept⟩ :=
        Option.isSome_iff_exists.mp (coherent.reason_iff.mpr (by simp [recorded]))
      rw [endSession_of_ended found recorded, Except.ok.injEq, Prod.mk.injEq] at ending
      obtain ⟨rfl, rfl⟩ := ending
      refine ⟨stored, found, coherent.ended_iff.mpr (by simp [recorded]), recorded, ?_, ?_⟩ <;>
        simp [kept]
  | none =>
      set finished := stored.finish request.reason request.finalUsage
        (request.finalUsage.map fun usage =>
          (provider.sessionPricing stored).usageCost usage.blocksProcessed usage.bytesTransferred)
        provider.store.clock.next with finished_eq
      rw [endSession_of_running found recorded, Except.ok.injEq, Prod.mk.injEq] at ending
      obtain ⟨rfl, rfl⟩ := ending
      have present : (provider.store.now.2.find? finished.id).isSome := by
        rw [Store.find?_now, finished_eq, Session.finish_id, (Store.find?_eq_some found).2, found]
        rfl
      refine ⟨finished, ?_, Session.finish_state recorded, Session.finish_endedAt recorded,
        Session.finish_endReason recorded, by simp [finished_eq]⟩
      have same_id : request.sessionId = finished.id := by
        rw [finished_eq, Session.finish_id, (Store.find?_eq_some found).2]
      rw [same_id]
      exact Store.find?_put_self present

/-! ## The law -/

/-- Over every run, an ended session stays as it is while stored, and ending it again changes
nothing and gives the same answer. -/
theorem ended_sessions_are_frozen {provider : Provider} (reachable : provider.Reachable) :
    (∀ sessionId session operations, provider.store.find? sessionId = some session →
      session.state = .ended →
      (∀ before, before <+: operations →
        ((provider.run before).store.find? sessionId).isSome) →
      (provider.run operations).store.find? sessionId = some session ∧
      (∀ usage, ∃ response,
        (provider.run operations).reportUsage ⟨sessionId, usage⟩ =
          .ok (response, provider.run operations) ∧ response.shouldContinue = false) ∧
      (∀ signedRav,
        ((provider.run operations).submitRav ⟨sessionId, signedRav⟩).1.accepted = false) ∧
      (∀ lookup paymentRav,
        ((provider.run operations).validatePayment lookup ⟨some sessionId, paymentRav⟩).1.valid =
          false)) ∧
    (∀ request response after operations, provider.endSession request = .ok (response, after) →
      (∃ session, after.store.find? request.sessionId = some session ∧
        session.state = .ended) ∧
      ((∀ before, before <+: operations →
        ((after.run before).store.find? request.sessionId).isSome) →
      ∀ reason finalUsage,
        (after.run operations).endSession ⟨request.sessionId, reason, finalUsage⟩ =
          .ok (response, after.run operations))) := by
  refine ⟨fun sessionId session operations found ended stays => ?_,
    fun request response after operations ending => ?_⟩
  · have kept := run_keeps_ended reachable found ended operations stays
    have inactive : session.state ≠ .active := by
      rw [ended]
      decide
    exact ⟨kept, fun usage => reportUsage_inactive kept inactive,
      fun signedRav => submitRav_inactive kept inactive,
      fun lookup paymentRav => validatePayment_inactive rfl kept inactive⟩
  · obtain ⟨session, found, ended, recorded_time, recorded_reason, answer⟩ :=
      endSession_records reachable ending
    have after_reachable : after.Reachable := by
      have stepped := reachable.step (.call (.endSession request))
      simp only [Provider.step, Provider.call, ending] at stepped
      exact stepped
    refine ⟨⟨session, found, ended⟩, fun stays reason finalUsage => ?_⟩
    have kept := run_keeps_ended after_reachable found ended operations stays
    have answered : (after.run operations).endSession ⟨request.sessionId, reason, finalUsage⟩ = _ :=
      endSession_of_ended kept recorded_time
    rw [answered, recorded_reason, Option.getD_some, ← answer]

/-- The sample provider after its session was opened and ended. -/
def sampleEnded : Provider :=
  (sample.step sampleOpening).step (.call (.endSession ⟨Store.sessionId 1, .completed, none⟩))

theorem sample_session_stays_ended :
    sampleEnded.Reachable ∧
    ((∀ sessionId session operations, sampleEnded.store.find? sessionId = some session →
      session.state = .ended →
      (∀ before, before <+: operations →
        ((sampleEnded.run before).store.find? sessionId).isSome) →
      (sampleEnded.run operations).store.find? sessionId = some session ∧
      (∀ usage, ∃ response,
        (sampleEnded.run operations).reportUsage ⟨sessionId, usage⟩ =
          .ok (response, sampleEnded.run operations) ∧ response.shouldContinue = false) ∧
      (∀ signedRav,
        ((sampleEnded.run operations).submitRav ⟨sessionId, signedRav⟩).1.accepted = false) ∧
      (∀ lookup paymentRav,
        ((sampleEnded.run operations).validatePayment lookup
          ⟨some sessionId, paymentRav⟩).1.valid = false)) ∧
    (∀ request response after operations, sampleEnded.endSession request = .ok (response, after) →
      (∃ session, after.store.find? request.sessionId = some session ∧
        session.state = .ended) ∧
      ((∀ before, before <+: operations →
        ((after.run before).store.find? request.sessionId).isSome) →
      ∀ reason finalUsage,
        (after.run operations).endSession ⟨request.sessionId, reason, finalUsage⟩ =
          .ok (response, after.run operations)))) :=
  have reachable : sampleEnded.Reachable :=
    ((Reachable.new _ _ _).step sampleOpening).step _
  ⟨reachable, ended_sessions_are_frozen reachable⟩

end Provider

end MeteredPayments
