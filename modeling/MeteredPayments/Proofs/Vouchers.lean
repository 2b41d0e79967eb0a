import MeteredPayments.Proofs.Run
import MeteredPayments.Session.Serials

/-!
# The stored vouchers

A stored voucher's value never goes down (`rav_value_never_decreases`), and a voucher gets into a
session only by a step that checked its signer against the session's payer
(`only_authorized_vouchers_are_stored`).
-/

namespace MeteredPayments

namespace Provider

variable {provider after : Provider} {session stored held held' : Session} {sessionId : String}

/-! ## Lookups after a change -/

theorem Opens.find?_old (opens : provider.Opens after session)
    (found_before : provider.store.find? sessionId = some held) :
    after.store.find? sessionId = some held := by
  rw [opens.find?]
  by_cases same : sessionId = session.id
  · rw [same, opens.id_eq, Store.find?_nextId] at found_before
    cases found_before
  · rw [if_neg same, found_before]

/-- A relation that holds of every session with itself holds from each session that was stored to
what is stored under its id after opening a session. -/
theorem Opens.relates {relation : Session → Session → Prop}
    (reflexive : ∀ session, relation session session)
    (opens : provider.Opens after session)
    (found_before : provider.store.find? sessionId = some held)
    (found_after : after.store.find? sessionId = some held') : relation held held' := by
  rw [opens.find?_old found_before, Option.some.injEq] at found_after
  rw [← found_after]
  exact reflexive held

/-- A relation that holds of every session with itself, and of the replaced session with its
replacement, holds from each session that was stored to what is stored under its id after the
replacement. -/
theorem Updates.relates {relation : Session → Session → Prop} {origin : String}
    (reflexive : ∀ session, relation session session) (updates : provider.Updates after session)
    (found_stored : provider.store.find? origin = some stored) (same : session.id = stored.id)
    (replaced : relation stored session)
    (found_before : provider.store.find? sessionId = some held)
    (found_after : after.store.find? sessionId = some held') : relation held held' := by
  rw [updates.find?] at found_after
  by_cases replacing : sessionId = session.id
  · rw [if_pos replacing, Option.some.injEq] at found_after
    rw [replacing, same, (Store.find?_eq_some found_stored).2, found_stored,
      Option.some.injEq] at found_before
    rw [← found_before, ← found_after]
    exact replaced
  · rw [if_neg replacing, found_before, Option.some.injEq] at found_after
    rw [← found_after]
    exact reflexive held

/-- A step is a session call, or it stores nothing new: signer changes leave the store as it was
and removals only take sessions away. -/
theorem step_cases (formed : provider.WellFormed) (operation : Operation) :
    (∃ call, operation = .call call) ∨
      ∀ sessionId held', (provider.step operation).store.find? sessionId = some held' →
        provider.store.find? sessionId = some held' := by
  cases operation with
  | call call => exact .inl ⟨call, rfl⟩
  | addSigner signer authorizer => exact .inr fun _ _ found_after => found_after
  | removeSigner signer => exact .inr fun _ _ found_after => found_after
  | deleteSession removed =>
      refine .inr fun sessionId held' found_after => ?_
      simp only [Provider.step, deleteSession_store, Store.find?_delete] at found_after
      by_cases same : sessionId = removed
      · rw [if_pos same] at found_after
        cases found_after
      · rw [if_neg same] at found_after
        exact found_after
  | deleteEndedBefore offset =>
      refine .inr fun sessionId held' found_after => ?_
      simp only [Provider.step, deleteEndedBefore_store,
        Store.find?_deleteEndedBefore formed.store_formed.now, Store.find?_now] at found_after
      cases found_before : provider.store.find? sessionId with
      | none =>
          rw [found_before] at found_after
          cases found_after
      | some held =>
          rw [found_before, Option.filter_some] at found_after
          split at found_after
          · exact found_after
          · cases found_after

/-! ## Voucher values never go down -/

/-- `after` holds a voucher worth at least what `before` holds, and holds one if `before` did. -/
def KeepsRav (before after : Session) : Prop :=
  before.ravValue ≤ after.ravValue ∧ (before.currentRav.isSome → after.currentRav.isSome)

theorem keepsRav_refl (session : Session) : KeepsRav session session :=
  ⟨Nat.le_refl _, id⟩

theorem keepsRav_compareAndSetRav {signed : SignedVoucher} {now : Nat} {updated : Session}
    (written : stored.compareAndSetRav signed now = .ok updated) : KeepsRav stored updated := by
  obtain ⟨-, not_lower, rfl⟩ := Session.compareAndSetRav_ok written
  exact ⟨by simpa [Session.ravValue] using not_lower, fun _ => rfl⟩

/-- A relation between sessions that holds of each session with itself, from an active session to
each of its writes (a guarded voucher write, priced again or not, and an added report) and from a
running session to its end, holds from what an id stores before a session call to what it stores
after. Every law about one stored session over session calls is an instance. -/
theorem call_relates {relation : Session → Session → Prop}
    (reflexive : ∀ session, relation session session)
    (written : ∀ stored signed now updated, stored.compareAndSetRav signed now = .ok updated →
      relation stored updated ∧ relation stored (updated.setPricing provider.config.pricing))
    (reported : ∀ stored usage now, stored.state = .active →
      relation stored { stored with usage, updatedAt := now })
    (finished : ∀ stored reason finalUsage finalCost now, stored.endedAt = none →
      relation stored (stored.finish reason finalUsage finalCost now))
    (formed : provider.WellFormed) (call : SessionCall)
    (found_before : provider.store.find? sessionId = some held)
    (found_after : (provider.call call).store.find? sessionId = some held') :
    relation held held' := by
  -- the effect of the call names the one session it may write; every other one is kept
  have effect := call_effect formed call
  generalize provider.call call = after at effect found_after
  cases effect with
  | unchanged =>
      rw [found_before, Option.some.injEq] at found_after
      rw [← found_after]
      exact reflexive held
  | opens opens _ _ => exact opens.relates reflexive found_before found_after
  | writesRav found _ swapped updates =>
      have replaced := written _ _ _ _ swapped
      obtain ⟨-, -, rfl⟩ := Session.compareAndSetRav_ok swapped
      rcases updates with updates | updates
      · exact updates.relates reflexive found rfl replaced.1 found_before found_after
      · exact updates.relates reflexive found rfl replaced.2 found_before found_after
  | reports found active updates =>
      exact updates.relates reflexive found rfl (reported _ _ _ active) found_before found_after
  | ends found running updates =>
      exact updates.relates reflexive found Session.finish_id (finished _ _ _ _ _ running)
        found_before found_after

theorem call_keepsRav (formed : provider.WellFormed) (call : SessionCall)
    (found_before : provider.store.find? sessionId = some held)
    (found_after : (provider.call call).store.find? sessionId = some held') :
    KeepsRav held held' := by
  refine call_relates keepsRav_refl ?_ ?_ ?_ formed call found_before found_after
  · intro stored signed now updated written
    have keeps := keepsRav_compareAndSetRav written
    exact ⟨keeps, keeps⟩
  · intro stored usage now _
    exact keepsRav_refl stored
  · intro stored reason finalUsage finalCost now _
    exact ⟨by simp [Session.ravValue], by simp⟩

theorem step_keepsRav (formed : provider.WellFormed) (operation : Operation)
    (found_before : provider.store.find? sessionId = some held)
    (found_after : (provider.step operation).store.find? sessionId = some held') :
    KeepsRav held held' := by
  rcases step_cases formed operation with ⟨call, rfl⟩ | removal
  · exact call_keepsRav formed call found_before found_after
  · have stored_before := removal sessionId held' found_after
    rw [found_before, Option.some.injEq] at stored_before
    rw [← stored_before]
    exact keepsRav_refl held

/-- An accepted submission is worth at least the voucher its session held. -/
theorem submitRav_not_lower {request : SubmitRavRequest} {signed : SignedVoucher}
    (accepted : (provider.submitRav request).1.accepted = true)
    (offered : request.signedRav = some signed)
    (found_before : provider.store.find? request.sessionId = some held) :
    held.ravValue ≤ signed.message.valueAggregate := by
  obtain ⟨submitted_session, submitted, found, offered', -, -, -, updated, written, -⟩ :=
    submitRav_accepted accepted
  rw [found_before, Option.some.injEq] at found
  rw [offered, Option.some.injEq] at offered'
  rw [found, offered']
  exact (Session.compareAndSetRav_ok written).2.1

/-- An accepted payment for a stored session is worth at least the voucher the session held. -/
theorem validatePayment_not_lower {lookup : EscrowAccount → EscrowBalance}
    {request : ValidatePaymentRequest} {signed : SignedVoucher}
    (valid : (provider.validatePayment lookup request).1.valid = true)
    (offered : request.paymentRav = some signed) (named : request.sessionId = some sessionId)
    (found_before : provider.store.find? sessionId = some held) :
    held.ravValue ≤ signed.message.valueAggregate := by
  have resuming : request.sessionId.bind provider.store.find? = some held := by
    rw [named, Option.bind_some, found_before]
  obtain ⟨paid, offered', -, resumed | created⟩ := validatePayment_valid valid
  · obtain ⟨resumed_session, updated, found, -, written, -⟩ := resumed
    rw [resuming, Option.some.injEq] at found
    rw [offered, Option.some.injEq] at offered'
    rw [found, offered']
    exact (Session.compareAndSetRav_ok written).2.1
  · rw [resuming] at created
    cases created.1

/-- Over every run, no step lowers the voucher value of a session that stays in the store or takes
its voucher away; in particular no accepted submission or payment for a stored session is worth
less than the voucher the session held. -/
theorem rav_value_never_decreases {provider : Provider} (reachable : provider.Reachable) :
    (∀ operation sessionId before after, provider.store.find? sessionId = some before →
      (provider.step operation).store.find? sessionId = some after →
      before.ravValue ≤ after.ravValue ∧
        (before.currentRav.isSome → after.currentRav.isSome)) ∧
    (∀ request signed stored, (provider.submitRav request).1.accepted = true →
      request.signedRav = some signed → provider.store.find? request.sessionId = some stored →
      stored.ravValue ≤ signed.message.valueAggregate) ∧
    (∀ lookup request signed sessionId stored,
      (provider.validatePayment lookup request).1.valid = true →
      request.paymentRav = some signed → request.sessionId = some sessionId →
      provider.store.find? sessionId = some stored →
      stored.ravValue ≤ signed.message.valueAggregate) := by
  have formed := reachable.wellFormed
  refine ⟨?_, ?_, ?_⟩
  · intro operation sessionId before after found_before found_after
    exact step_keepsRav formed operation found_before found_after
  · intro request signed stored accepted offered found_before
    exact submitRav_not_lower accepted offered found_before
  · intro lookup request signed sessionId stored valid offered named found_before
    exact validatePayment_not_lower valid offered named found_before

/-- A provider on chain 1 with no signers that charges one wei a block and numbers its
sessions. -/
def sample : Provider :=
  Provider.new
    ⟨Address.ofNat 3, Address.ofNat 17, 1, ⟨⟨1, by decide⟩, Price.zero⟩, 1000⟩
    Allowlist.empty IdSource.serials

/-- Opening a session without an initial voucher. -/
def sampleOpening : Operation :=
  .call (.startSession ⟨⟨Address.ofNat 1, Address.ofNat 17, Address.ofNat 3⟩, none, none⟩)

/-- The address of the secret key 1. -/
def sampleSigner : Address := Address.ofNat 0x7e5f4552091a69125d5dfcb7b8c2659029395bdf

/-- The sample provider after it accepts the key 1 as a signer for payer 1. -/
def signedSample : Provider := sample.step (.addSigner sampleSigner (Address.ofNat 1))

/-- A voucher of payer 1 to the sample provider worth `value`, with its signature. -/
def sampleVoucher (value : Nat) (signature : Ecdsa.Signature) : SignedVoucher :=
  ⟨⟨ByteArray.mk (Array.replicate 32 0), Address.ofNat 1, Address.ofNat 5, Address.ofNat 3, 10,
    value, ByteArray.empty⟩, signature⟩

/-- The vouchers worth 5, 7 and 9, each signed by the key 1 in the sample provider's domain. -/
def voucherFive : SignedVoucher :=
  sampleVoucher 5
    ⟨48315856103972217400745277360050704791106281588630375091356411804434350169337,
      30121774518365473233933839207014509830002367576522117965740129705345623321250, true⟩

@[inherit_doc voucherFive]
def voucherSeven : SignedVoucher :=
  sampleVoucher 7
    ⟨102965688715315386409790722645740983235410202478241427917801177394945683342948,
      46999640458929517022771396441711393383453262487395167041830886315326979589503, false⟩

@[inherit_doc voucherFive]
def voucherNine : SignedVoucher :=
  sampleVoucher 9
    ⟨13374023852084927798536512315576636489459251033383702734016578028310759773461,
      51068722360100140540710270339160246109677687554878247917400875636740638073823, false⟩

/-- A voucher check passes when its outcome is a success, which evaluation decides. -/
theorem checkRav_of_isOk {signed : SignedVoucher} {payer : Address}
    (passes : (provider.checkRav signed payer).isOk = true) :
    provider.checkRav signed payer = .ok () := by
  cases checked : provider.checkRav signed payer with
  | ok => rfl
  | error => rw [checked] at passes; cases passes

/-- Submitting the voucher worth 7 to the session the signed sample opens keeps its voucher. -/
theorem rav_value_kept_by_a_submission :
    let opened := signedSample.step sampleOpening
    let submission : Operation := .call (.submitRav ⟨Store.sessionId 1, some voucherSeven⟩)
    opened.Reachable ∧
    ∃ before after, opened.store.find? (Store.sessionId 1) = some before ∧
      (opened.step submission).store.find? (Store.sessionId 1) = some after ∧
      before.ravValue ≤ after.ravValue ∧ (before.currentRav.isSome → after.currentRav.isSome) := by
  intro opened submission
  have reachable : opened.Reachable := ((Reachable.new _ _ _).step _).step sampleOpening
  have kept : ((opened.step submission).store.find? (Store.sessionId 1)).isSome = true := by
    decide +kernel
  obtain ⟨after, found_after⟩ := Option.isSome_iff_exists.mp kept
  exact ⟨reachable, _, after, rfl, found_after,
    (rav_value_never_decreases reachable).1 submission (Store.sessionId 1) _ _ rfl found_after⟩

end Provider

/-! ## Only authorized vouchers are stored -/

/-- The voucher a step hands to the provider: an opening's initial voucher, a payment's voucher or
a submitted voucher. -/
def Operation.offeredRav : Operation → Option SignedVoucher
  | .call (.startSession request) => request.initialRav
  | .call (.validatePayment _ request) => request.paymentRav
  | .call (.submitRav request) => request.signedRav
  | _ => none

namespace Provider

variable {provider after : Provider} {session stored held' : Session} {sessionId : String}
  {signed : SignedVoucher}

/-- Whether the provider takes the voucher a step offers: the step opens a session, pays or
submits, and its answer accepts. -/
def takesRav (provider : Provider) : Operation → Bool
  | .call (.startSession request) => (provider.startSession request).1.accepted
  | .call (.validatePayment lookup request) => (provider.validatePayment lookup request).1.valid
  | .call (.submitRav request) => (provider.submitRav request).1.accepted
  | _ => false

/-- `signed` recovers, in the voucher domain of the provider's collector, to a signer that the
provider's allow-list binds to `payer`. -/
def SignedFor (provider : Provider) (signed : SignedVoucher) (payer : Address) : Prop :=
  ∃ signer, signed.recoverSigner
      (Domain.ofCollector provider.config.chainId provider.config.collector) = .ok signer ∧
    provider.verifier.signers.authorizerOf signer = some payer

theorem checkRav_signedFor (formed : provider.WellFormed) {payer : Address}
    (checked : provider.checkRav signed payer = .ok ()) : provider.SignedFor signed payer := by
  obtain ⟨⟨signer, recovered, bound⟩, payer_eq, -⟩ := checkRav_ok checked
  rw [formed.domain_eq] at recovered
  exact ⟨signer, recovered, payer_eq ▸ bound⟩

/-- Under opening, only the new session can hold a voucher it did not hold before. -/
theorem Opens.changed (opens : provider.Opens after session)
    (found_after : after.store.find? sessionId = some held')
    (changed : (provider.store.find? sessionId).bind Session.currentRav ≠ held'.currentRav) :
    held' = session := by
  rw [opens.find?] at found_after
  by_cases same : sessionId = session.id
  · rw [if_pos same, Option.some.injEq] at found_after
    exact found_after.symm
  · rw [if_neg same] at found_after
    rw [found_after, Option.bind_some] at changed
    exact absurd rfl changed

/-- Under a replacement, only the replacement can hold a voucher that was not held before. -/
theorem Updates.changed (updates : provider.Updates after session)
    (found_after : after.store.find? sessionId = some held')
    (changed : (provider.store.find? sessionId).bind Session.currentRav ≠ held'.currentRav) :
    sessionId = session.id ∧ held' = session := by
  rw [updates.find?] at found_after
  by_cases same : sessionId = session.id
  · rw [if_pos same, Option.some.injEq] at found_after
    exact ⟨same, found_after.symm⟩
  · rw [if_neg same] at found_after
    rw [found_after, Option.bind_some] at changed
    exact absurd rfl changed

/-- A replacement that keeps the voucher of the replaced session changes no stored voucher. -/
theorem Updates.currentRav_kept {origin : String} (updates : provider.Updates after session)
    (found_stored : provider.store.find? origin = some stored) (same : session.id = stored.id)
    (kept : session.currentRav = stored.currentRav)
    (found_after : after.store.find? sessionId = some held') :
    (provider.store.find? sessionId).bind Session.currentRav = held'.currentRav := by
  rw [updates.find?] at found_after
  by_cases replacing : sessionId = session.id
  · rw [if_pos replacing, Option.some.injEq] at found_after
    rw [replacing, same, (Store.find?_eq_some found_stored).2, found_stored, Option.bind_some,
      ← found_after, kept]
  · rw [if_neg replacing] at found_after
    rw [found_after, Option.bind_some]

theorem Updates.find?_self (updates : provider.Updates after session) :
    after.store.find? session.id = some session := by
  rw [updates.find?, if_pos rfl]

theorem Opens.find?_self (opens : provider.Opens after session) :
    after.store.find? session.id = some session := by
  rw [opens.find?, if_pos rfl]

/-- Every step that takes a voucher stores it in one session and changes no other, and the
voucher's signer is bound to that session's payer, in the provider's domain and by the allow-list
of that step. -/
theorem takesRav_signedFor (formed : provider.WellFormed) {operation : Operation}
    (takes : provider.takesRav operation = true) (offered : operation.offeredRav = some signed) :
    ∃ sessionId stored, (provider.step operation).store.find? sessionId = some stored ∧
      stored.currentRav = some signed ∧ provider.SignedFor signed stored.payer ∧
      ∀ other, other ≠ sessionId →
        (provider.step operation).store.find? other = provider.store.find? other := by
  match operation, takes, offered with
  | .call (.startSession request), accepted, offered =>
      obtain ⟨-, checks, opened_session, opened, -, opens⟩ :=
        startSession_accepted accepted
      refine ⟨opened_session.id, opened_session, opens.find?_self, ?_, ?_,
        fun other different => opens.find?_of_ne different⟩
      · rw [opened.currentRav_eq]
        exact offered
      · rw [opened.payer_eq]
        exact checkRav_signedFor formed (checks signed offered)
  | .call (.validatePayment lookup request), valid, offered =>
      obtain ⟨paid, paid_eq, checked, branch⟩ := validatePayment_valid valid
      have same : paid = signed := Option.some.inj (paid_eq.symm.trans offered)
      subst same
      have signed_for := checkRav_signedFor formed checked
      rcases branch with resumed | created
      · obtain ⟨resumed_session, updated, -, payer_eq, written, updates⟩ := resumed
        obtain ⟨-, -, rfl⟩ := Session.compareAndSetRav_ok written
        rw [← payer_eq] at signed_for
        exact ⟨_, _, updates.find?_self, rfl, signed_for,
          fun other different => updates.find?_of_ne different⟩
      · obtain ⟨-, opened_session, opened, opens⟩ := created
        rw [← opened.payer_eq] at signed_for
        exact ⟨opened_session.id, opened_session, opens.find?_self, opened.currentRav_eq,
          signed_for, fun other different => opens.find?_of_ne different⟩
  | .call (.submitRav request), accepted, offered =>
      obtain ⟨submitted_session, submitted, -, submitted_eq, -, checked, -, updated, written,
        updates⟩ := submitRav_accepted accepted
      have same : submitted = signed := Option.some.inj (submitted_eq.symm.trans offered)
      subst same
      obtain ⟨-, -, rfl⟩ := Session.compareAndSetRav_ok written
      exact ⟨_, _, updates.find?_self, rfl, checkRav_signedFor formed checked,
        fun other different => updates.find?_of_ne different⟩

/-- A stored voucher changes only by a step that offers that voucher and takes it. -/
theorem step_rav_changed (formed : provider.WellFormed) (operation : Operation)
    (found_after : (provider.step operation).store.find? sessionId = some held')
    (holds : held'.currentRav = some signed)
    (changed : (provider.store.find? sessionId).bind Session.currentRav ≠ some signed) :
    provider.takesRav operation = true ∧ operation.offeredRav = some signed := by
  rw [← holds] at changed
  -- a step that leaves the lookup as it was changes no voucher
  have kept : provider.store.find? sessionId = some held' → False := by
    intro found_before
    rw [found_before, Option.bind_some] at changed
    exact changed rfl
  have unchanged : provider.step operation = provider → False := by
    intro same
    exact kept (by rw [← same]; exact found_after)
  rcases step_cases formed operation with ⟨call, rfl⟩ | removal
  · cases call with
    | startSession request =>
        cases accepted : (provider.startSession request).1.accepted
        · exact (unchanged (startSession_rejected accepted)).elim
        · obtain ⟨-, -, opened_session, opened, -, opens⟩ :=
            startSession_accepted accepted
          obtain rfl := opens.changed found_after changed
          refine ⟨accepted, ?_⟩
          rw [← holds, opened.currentRav_eq]
          rfl
    | validatePayment lookup request =>
        cases valid : (provider.validatePayment lookup request).1.valid
        · exact (unchanged (validatePayment_rejected valid)).elim
        · obtain ⟨paid, paid_eq, -, branch⟩ :=
            validatePayment_valid valid
          refine ⟨valid, ?_⟩
          rcases branch with ⟨resumed_session, updated, -, -, written, updates⟩ |
            ⟨-, opened_session, opened, opens⟩
          · obtain ⟨-, rfl⟩ := updates.changed found_after changed
            obtain ⟨-, -, rfl⟩ := Session.compareAndSetRav_ok written
            rw [← holds]
            exact paid_eq
          · obtain rfl := opens.changed found_after changed
            rw [← holds, opened.currentRav_eq]
            exact paid_eq
    | reportUsage request =>
        cases reported : provider.reportUsage request with
        | error error =>
            exact (unchanged (by simp only [Provider.step, Provider.call, reported])).elim
        | ok result =>
            obtain ⟨response, reported_after⟩ := result
            obtain ⟨reported_session, found, ⟨-, -, same⟩ | ⟨-, -, -, updates⟩⟩ :=
              reportUsage_ok reported
            · exact (unchanged (by simp only [Provider.step, Provider.call, reported, same])).elim
            · simp only [Provider.step, Provider.call, reported] at found_after
              exact (changed (updates.currentRav_kept found rfl rfl found_after)).elim
    | submitRav request =>
        cases accepted : (provider.submitRav request).1.accepted
        · exact (unchanged (submitRav_rejected accepted)).elim
        · obtain ⟨submitted_session, submitted, -, submitted_eq, -, -, -, updated, written,
            updates⟩ := submitRav_accepted accepted
          obtain ⟨-, rfl⟩ := updates.changed found_after changed
          obtain ⟨-, -, rfl⟩ := Session.compareAndSetRav_ok written
          refine ⟨accepted, ?_⟩
          rw [← holds]
          exact submitted_eq
    | sessionStatus lookup request => exact (unchanged rfl).elim
    | endSession request =>
        cases ended : provider.endSession request with
        | error error =>
            exact (unchanged (by simp only [Provider.step, Provider.call, ended])).elim
        | ok result =>
            obtain ⟨response, ended_after⟩ := result
            obtain ⟨ended_session, found, ⟨-, same⟩ | ⟨-, updates⟩⟩ :=
              endSession_ok ended
            · exact (unchanged (by simp only [Provider.step, Provider.call, ended, same])).elim
            · simp only [Provider.step, Provider.call, ended] at found_after
              exact (changed (updates.currentRav_kept found Session.finish_id
                Session.finish_currentRav found_after)).elim
  · exact (kept (removal sessionId held' found_after)).elim

/-- Over every run, a voucher gets into a session only by a step that takes it, and its signer is
bound to that session's payer. -/
theorem only_authorized_vouchers_are_stored {provider : Provider} (reachable : provider.Reachable)
    (operation : Operation) :
    (∀ sessionId stored signed, (provider.step operation).store.find? sessionId = some stored →
      stored.currentRav = some signed →
      (provider.store.find? sessionId).bind Session.currentRav ≠ some signed →
      provider.takesRav operation = true ∧ operation.offeredRav = some signed ∧
        provider.SignedFor signed stored.payer) ∧
    (∀ signed, provider.takesRav operation = true → operation.offeredRav = some signed →
      ∃ sessionId stored, (provider.step operation).store.find? sessionId = some stored ∧
        stored.currentRav = some signed ∧ provider.SignedFor signed stored.payer ∧
        ∀ other, other ≠ sessionId →
          (provider.step operation).store.find? other = provider.store.find? other) := by
  have formed := reachable.wellFormed
  refine ⟨?_, fun signed takes offered => takesRav_signedFor formed takes offered⟩
  intro sessionId stored signed found_after holds changed
  obtain ⟨takes, offered⟩ := step_rav_changed formed operation found_after holds changed
  obtain ⟨written, written_session, found_written, -, signed_for, others⟩ :=
    takesRav_signedFor formed takes offered
  -- the voucher under `sessionId` changed, so `sessionId` is the one session the step wrote
  have same : sessionId = written := by
    refine Classical.byContradiction fun different => changed ?_
    rw [← others sessionId different, found_after, Option.bind_some, holds]
  rw [same, found_written, Option.some.injEq] at found_after
  rw [← found_after]
  exact ⟨takes, offered, signed_for⟩

/-- The signed sample takes the opening with the voucher worth 7, signed by its listed key. -/
theorem signed_opening_takes_an_authorized_voucher :
    let opening : Operation := .call (.startSession
      ⟨⟨Address.ofNat 1, Address.ofNat 17, Address.ofNat 3⟩, none, some voucherSeven⟩)
    signedSample.Reachable ∧ signedSample.takesRav opening = true ∧
    (∀ sessionId stored signed,
      (signedSample.step opening).store.find? sessionId = some stored →
      stored.currentRav = some signed →
      (signedSample.store.find? sessionId).bind Session.currentRav ≠ some signed →
      signedSample.takesRav opening = true ∧ opening.offeredRav = some signed ∧
        signedSample.SignedFor signed stored.payer) ∧
    (∀ signed, signedSample.takesRav opening = true → opening.offeredRav = some signed →
      ∃ sessionId stored, (signedSample.step opening).store.find? sessionId = some stored ∧
        stored.currentRav = some signed ∧ signedSample.SignedFor signed stored.payer ∧
        ∀ other, other ≠ sessionId →
          (signedSample.step opening).store.find? other = signedSample.store.find? other) := by
  intro opening
  have reachable : signedSample.Reachable := (Reachable.new _ _ _).step _
  exact ⟨reachable, by decide +kernel, only_authorized_vouchers_are_stored reachable opening⟩

end Provider

end MeteredPayments
