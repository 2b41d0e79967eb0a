import MeteredPayments.Proofs.Vouchers

/-!
# What every stored session keeps

Every session stored by a provider that a run reaches has a coherent lifecycle record, moving only
from active to ended (`session_lifecycle_invariant`), and is between its payer and this provider
(`session_participants_consistent`).
-/

namespace MeteredPayments

/-! ## Lifecycle records -/

/-- The lifecycle record of a session agrees with itself: the session is active or ended, has an
end time exactly when it is ended, and has an end reason exactly when it has an end time. -/
structure Session.Coherent (session : Session) : Prop where
  active_or_ended : session.state = .active ∨ session.state = .ended
  ended_iff : session.state = .ended ↔ session.endedAt.isSome
  reason_iff : session.endReason.isSome ↔ session.endedAt.isSome

namespace Session

variable {session other : Session}

/-- Coherence reads only the state, the end time and the end reason. -/
theorem Coherent.of_record (coherent : session.Coherent) (state_eq : other.state = session.state)
    (endedAt_eq : other.endedAt = session.endedAt)
    (endReason_eq : other.endReason = session.endReason) : other.Coherent := by
  constructor
  · rw [state_eq]
    exact coherent.active_or_ended
  · rw [state_eq, endedAt_eq]
    exact coherent.ended_iff
  · rw [endReason_eq, endedAt_eq]
    exact coherent.reason_iff

/-- Ending a running session records all three at once. -/
theorem coherent_finish {reason : EndReason} {finalUsage : Option UsageDelta}
    {finalCost : Option Nat} {now : Nat} (running : session.endedAt = none) :
    (session.finish reason finalUsage finalCost now).Coherent where
  active_or_ended := .inr (finish_state running)
  ended_iff := by simp [finish_state running, finish_endedAt running]
  reason_iff := by simp [finish_endedAt running, finish_endReason running]

/-- A coherent session with no end time is active. -/
theorem Coherent.active_of_running (coherent : session.Coherent)
    (running : session.endedAt = none) : session.state = .active := by
  have not_ended : session.state ≠ .ended := by
    rw [Ne, coherent.ended_iff, running]
    decide
  exact coherent.active_or_ended.resolve_right not_ended

/-- `after` is in the state `before` is in, or `before` is active and `after` has ended. -/
def Advances (before after : Session) : Prop :=
  after.state = before.state ∨ (before.state = .active ∧ after.state = .ended)

end Session

namespace Provider

variable {provider : Provider}

theorem keeps_coherent (provider : Provider) : provider.Keeps Session.Coherent where
  opened session _ _ opened _ :=
    ⟨.inl opened.state_eq, by simp [opened.state_eq, opened.endedAt_eq],
      by simp [opened.endReason_eq, opened.endedAt_eq]⟩
  written stored _ _ coherent _ written := by
    obtain ⟨-, -, rfl⟩ := Session.compareAndSetRav_ok written
    exact ⟨coherent.of_record rfl rfl rfl, coherent.of_record rfl rfl rfl⟩
  reported _ _ coherent _ := coherent.of_record rfl rfl rfl
  finished _ _ _ _ _ running := Session.coherent_finish running

/-- Every session stored by a provider that a run reaches has a coherent lifecycle record. -/
theorem Reachable.coherent (reachable : provider.Reachable) :
    ∀ session ∈ provider.store.sessions, session.Coherent :=
  @Reachable.stored provider (fun _ => Session.Coherent)
    (fun provider _ => provider.keeps_coherent) reachable

/-- A stored ended session of a reachable provider has an end time. -/
theorem Reachable.endedAt_of_ended (reachable : provider.Reachable) {sessionId : String}
    {session : Session} (found : provider.store.find? sessionId = some session)
    (ended : session.state = .ended) : session.endedAt.isSome :=
  (reachable.coherent session (Store.find?_eq_some found).1).ended_iff.mp ended

variable {after : Provider} {sessionId : String} {held held' : Session}

/-- What a session call stores under an id advances what was stored there, if that was coherent:
the voucher writes and the reports keep the state. -/
theorem call_advances (formed : provider.WellFormed) (call : SessionCall)
    (found_before : provider.store.find? sessionId = some held)
    (found_after : (provider.call call).store.find? sessionId = some held') :
    held.Coherent → held.Advances held' := by
  refine @call_relates provider held held' sessionId
    (fun before after => before.Coherent → before.Advances after) (fun _ _ => .inl rfl)
    ?_ ?_ ?_ formed call found_before found_after
  · intro stored signed now updated written
    obtain ⟨-, -, rfl⟩ := Session.compareAndSetRav_ok written
    exact ⟨fun _ => .inl rfl, fun _ => .inl rfl⟩
  · intro stored usage now _ _
    exact .inl rfl
  · -- an end needs a session with no end time, which a coherent session has only while active
    intro stored reason finalUsage finalCost now running coherent
    exact .inr ⟨coherent.active_of_running running, Session.finish_state running⟩

theorem step_advances (formed : provider.WellFormed) (operation : Operation)
    (found_before : provider.store.find? sessionId = some held)
    (found_after : (provider.step operation).store.find? sessionId = some held') :
    held.Coherent → held.Advances held' := by
  rcases step_cases formed operation with ⟨call, rfl⟩ | removal
  · exact call_advances formed call found_before found_after
  · intro _
    have stored_before := removal sessionId held' found_after
    rw [found_before, Option.some.injEq] at stored_before
    rw [stored_before]
    exact .inl rfl

/-- Over every run, every stored session has a coherent lifecycle record and moves only from active
to ended. -/
theorem session_lifecycle_invariant (reachable : provider.Reachable) :
    (∀ session ∈ provider.store.sessions,
      (session.state = .active ∨ session.state = .ended) ∧
      (session.state = .ended ↔ session.endedAt.isSome) ∧
      (session.endedAt.isSome ↔ session.endReason.isSome)) ∧
    (∀ operation sessionId before after, provider.store.find? sessionId = some before →
      (provider.step operation).store.find? sessionId = some after →
      after.state = before.state ∨ (before.state = .active ∧ after.state = .ended)) := by
  have coherent := reachable.coherent
  refine ⟨fun session member => ?_,
    fun operation sessionId before after found_before found_after => ?_⟩
  · have record := coherent session member
    exact ⟨record.active_or_ended, record.ended_iff, record.reason_iff.symm⟩
  · exact step_advances reachable.wellFormed operation found_before found_after
      (coherent before (Store.find?_eq_some found_before).1)

/-- The session `sampleOpening` opens is active and stays so through a usage report. -/
theorem opened_session_lifecycle_holds :
    (sample.step sampleOpening).Reachable ∧
    ((∀ session ∈ (sample.step sampleOpening).store.sessions,
      (session.state = .active ∨ session.state = .ended) ∧
      (session.state = .ended ↔ session.endedAt.isSome) ∧
      (session.endedAt.isSome ↔ session.endReason.isSome)) ∧
    (∀ operation sessionId before after,
      (sample.step sampleOpening).store.find? sessionId = some before →
      ((sample.step sampleOpening).step operation).store.find? sessionId = some after →
      after.state = before.state ∨ (before.state = .active ∧ after.state = .ended))) :=
  have reachable := (Reachable.new _ _ _).step sampleOpening
  ⟨reachable, session_lifecycle_invariant reachable⟩

end Provider

/-! ## The parties of a session -/

/-- A session between its payer and the provider of `config`: it pays the provider, it is priced by
the provider, and the voucher it holds, if any, names the session's payer and pays the provider. -/
structure Session.ServedBy (config : ProviderConfig) (session : Session) : Prop where
  receiver_eq : session.receiver = config.serviceProvider
  pricing_eq : session.pricing = some config.pricing
  rav_parties : ∀ signed, session.currentRav = some signed →
    signed.message.payer = session.payer ∧ signed.message.serviceProvider = config.serviceProvider

namespace Provider

variable {provider : Provider} {session : Session} {signed : SignedVoucher}

/-- A voucher that passes the check for a session's payer may be stored in it. -/
theorem servedBy_setRav (served : session.ServedBy provider.config)
    (checked : provider.checkRav signed session.payer = .ok ()) (now : Nat) :
    (session.setRav signed now).ServedBy provider.config := by
  obtain ⟨-, payer_eq, provider_eq⟩ := checkRav_ok checked
  refine ⟨served.receiver_eq, served.pricing_eq, fun held holds => ?_⟩
  rw [Session.setRav_currentRav, Option.some.injEq] at holds
  subst holds
  exact ⟨payer_eq, provider_eq⟩

theorem keeps_servedBy (provider : Provider) : provider.Keeps (Session.ServedBy provider.config) where
  opened session payer rav opened checks := by
    refine ⟨opened.receiver_eq, opened.pricing_eq, fun signed holds => ?_⟩
    rw [opened.currentRav_eq] at holds
    obtain ⟨-, payer_eq, provider_eq⟩ := checkRav_ok (checks signed holds)
    exact ⟨payer_eq.trans opened.payer_eq.symm, provider_eq⟩
  written stored signed _ served checked written := by
    obtain ⟨-, -, rfl⟩ := Session.compareAndSetRav_ok written
    have stored_rav := servedBy_setRav served checked provider.store.clock.next
    exact ⟨stored_rav, ⟨stored_rav.receiver_eq, rfl, stored_rav.rav_parties⟩⟩
  reported _ _ served _ := ⟨served.receiver_eq, served.pricing_eq, served.rav_parties⟩
  finished stored _ _ _ served _ := by
    refine ⟨by rw [Session.finish_receiver]; exact served.receiver_eq,
      by rw [Session.finish_pricing]; exact served.pricing_eq, fun signed holds => ?_⟩
    rw [Session.finish_currentRav] at holds
    rw [Session.finish_payer]
    exact served.rav_parties signed holds

/-- Every session stored by a provider that a run reaches is between its payer and the
provider. -/
theorem Reachable.servedBy (reachable : provider.Reachable) :
    ∀ session ∈ provider.store.sessions, session.ServedBy provider.config :=
  Reachable.stored (fun provider _ => provider.keeps_servedBy) reachable

/-- Over every run, every stored session pays the provider, is priced by it, and holds a voucher of
its own payer. -/
theorem session_participants_consistent (reachable : provider.Reachable) :
    (∀ session ∈ provider.store.sessions,
      session.receiver = provider.config.serviceProvider ∧
      session.pricing = some provider.config.pricing ∧
      ∀ signed, session.currentRav = some signed →
        signed.message.payer = session.payer ∧
        signed.message.serviceProvider = provider.config.serviceProvider) ∧
    (∀ sessionId session signed, provider.store.find? sessionId = some session →
      provider.checkRav signed session.payer = .ok () →
      signed.message.serviceProvider = session.receiver) ∧
    (∀ sessionId session, provider.store.find? sessionId = some session →
      provider.sessionPricing session = provider.config.pricing) := by
  have served := reachable.servedBy
  refine ⟨fun session member => ?_, fun sessionId session signed found checked => ?_,
    fun sessionId session found => ?_⟩
  · obtain ⟨receiver_eq, pricing_eq, rav_parties⟩ := served session member
    exact ⟨receiver_eq, pricing_eq, rav_parties⟩
  · obtain ⟨-, -, provider_eq⟩ := checkRav_ok checked
    rw [provider_eq, (served session (Store.find?_eq_some found).1).receiver_eq]
  · rw [sessionPricing, (served session (Store.find?_eq_some found).1).pricing_eq]
    rfl

/-- The session `sampleOpening` opens pays the sample provider. -/
theorem opened_session_pays_the_provider :
    (sample.step sampleOpening).Reachable ∧
    ((∀ session ∈ (sample.step sampleOpening).store.sessions,
      session.receiver = (sample.step sampleOpening).config.serviceProvider ∧
      session.pricing = some (sample.step sampleOpening).config.pricing ∧
      ∀ signed, session.currentRav = some signed →
        signed.message.payer = session.payer ∧
        signed.message.serviceProvider = (sample.step sampleOpening).config.serviceProvider) ∧
    (∀ sessionId session signed,
      (sample.step sampleOpening).store.find? sessionId = some session →
      (sample.step sampleOpening).checkRav signed session.payer = .ok () →
      signed.message.serviceProvider = session.receiver) ∧
    (∀ sessionId session, (sample.step sampleOpening).store.find? sessionId = some session →
      (sample.step sampleOpening).sessionPricing session =
        (sample.step sampleOpening).config.pricing)) :=
  have reachable := (Reachable.new _ _ _).step sampleOpening
  ⟨reachable, session_participants_consistent reachable⟩

end Provider

end MeteredPayments
