import MeteredPayments.Proofs.Handler

/-!
# Runs of a provider

Every provider a run of calls, signer changes and removals reaches from `Provider.new` is well
formed (`Reachable.wellFormed`), and a property of sessions that every opening and write keeps
holds of every stored session (`Reachable.stored`).
-/

namespace MeteredPayments

/-- The six session operations a client's stream drives, each with its request. -/
inductive SessionCall where
  | startSession (request : StartSessionRequest)
  | validatePayment (lookup : EscrowAccount → EscrowBalance) (request : ValidatePaymentRequest)
  | reportUsage (request : ReportUsageRequest)
  | submitRav (request : SubmitRavRequest)
  | sessionStatus (lookup : EscrowAccount → EscrowBalance) (request : SessionStatusRequest)
  | endSession (request : EndSessionRequest)

/-- One step of a provider's life. -/
inductive Operation where
  | call (call : SessionCall)
  | addSigner (signer authorizer : Address)
  | removeSigner (signer : Address)
  | deleteSession (sessionId : String)
  | deleteEndedBefore (offset : Int)

namespace Provider

/-- The provider after a session call; a call that fails outright changes nothing. -/
def call (provider : Provider) : SessionCall → Provider
  | .startSession request => (provider.startSession request).2
  | .validatePayment lookup request => (provider.validatePayment lookup request).2
  | .reportUsage request =>
    match provider.reportUsage request with
    | .ok (_, after) => after
    | .error _ => provider
  | .submitRav request => (provider.submitRav request).2
  | .sessionStatus _ _ => provider
  | .endSession request =>
    match provider.endSession request with
    | .ok (_, after) => after
    | .error _ => provider

/-- The provider after one step. -/
def step (provider : Provider) : Operation → Provider
  | .call call => provider.call call
  | .addSigner signer authorizer => (provider.addSigner signer authorizer).2
  | .removeSigner signer => (provider.removeSigner signer).2
  | .deleteSession sessionId => (provider.deleteSession sessionId).2
  | .deleteEndedBefore offset => (provider.deleteEndedBefore offset).2

/-- The provider after a run of steps, the first step first. -/
def run (provider : Provider) (operations : List Operation) : Provider :=
  operations.foldl step provider

/-- The providers that some run reaches from a new provider. -/
inductive Reachable : Provider → Prop where
  | new (config : ProviderConfig) (signers : Allowlist) (ids : IdSource) :
      Reachable (Provider.new config signers ids)
  | step {provider : Provider} (operation : Operation) :
      Reachable provider → Reachable (provider.step operation)

theorem Reachable.run {provider : Provider} (reachable : provider.Reachable)
    (operations : List Operation) : (provider.run operations).Reachable := by
  induction operations generalizing provider with
  | nil => exact reachable
  | cons operation rest induction => exact induction (reachable.step operation)

/-! ## What a session call does -/

/-- What every provider a run reaches keeps. -/
structure WellFormed (provider : Provider) : Prop where
  store_formed : provider.store.WellFormed
  domain_eq :
    provider.verifier.domain = Domain.ofCollector provider.config.chainId provider.config.collector
  priced : ∀ session ∈ provider.store.sessions, session.pricing = some provider.config.pricing
  ended_state :
    ∀ session ∈ provider.store.sessions, session.endedAt.isSome → session.state = .ended

/-- The three things a session call can do to a well-formed provider: nothing, open a session, or
replace one stored session by a copy that is still priced by the provider and still ended if it
has an end time. -/
inductive Changes (before : Provider) : Provider → Prop where
  | unchanged : Changes before before
  | opens {after : Provider} {session : Session} {payer receiver : Address}
      {rav : Option SignedVoucher} :
      before.Opens after session → Session.Opened before.config.pricing payer receiver rav session →
      Changes before after
  | updates {after : Provider} {session : Session} :
      before.Updates after session → session.pricing = some before.config.pricing →
      (session.endedAt.isSome → session.state = .ended) → Changes before after

variable {provider after : Provider} {session : Session}

theorem WellFormed.found {sessionId : String} (formed : provider.WellFormed)
    (found : provider.store.find? sessionId = some session) :
    session.pricing = some provider.config.pricing ∧
      (session.endedAt.isSome → session.state = .ended) := by
  have member := (Store.find?_eq_some found).1
  exact ⟨formed.priced session member, formed.ended_state session member⟩

/-- What a session call does to a well-formed provider, with the checks that let it through:
nothing; open a session paid to this provider whose voucher, if any, checks out for its payer;
or replace one stored session by a guarded voucher write that checks out for the session's payer
(priced again or not), by the session with a report added while it is active, or by its end while
it is running. -/
inductive Effect (before : Provider) : Provider → Prop where
  | unchanged : Effect before before
  | opens {after : Provider} {session : Session} {payer : Address} {rav : Option SignedVoucher} :
      before.Opens after session →
      Session.Opened before.config.pricing payer before.config.serviceProvider rav session →
      (∀ signed, rav = some signed → before.checkRav signed payer = .ok ()) → Effect before after
  | writesRav {after : Provider} {sessionId : String} {stored updated : Session}
      {signed : SignedVoucher} :
      before.store.find? sessionId = some stored →
      before.checkRav signed stored.payer = .ok () →
      stored.compareAndSetRav signed before.store.clock.next = .ok updated →
      before.Updates after updated ∨
        before.Updates after (updated.setPricing before.config.pricing) →
      Effect before after
  | reports {after : Provider} {sessionId : String} {stored : Session} {usage : Usage} :
      before.store.find? sessionId = some stored → stored.state = .active →
      before.Updates after { stored with usage, updatedAt := before.store.clock.next } →
      Effect before after
  | ends {after : Provider} {sessionId : String} {stored : Session} {reason : EndReason}
      {finalUsage : Option UsageDelta} {finalCost : Option Nat} :
      before.store.find? sessionId = some stored → stored.endedAt = none →
      before.Updates after (stored.finish reason finalUsage finalCost before.store.clock.next) →
      Effect before after

/-- Every session call of a well-formed provider has one of the effects, read off the inversion
lemma of its operation. -/
theorem call_effect (formed : provider.WellFormed) (call : SessionCall) :
    provider.Effect (provider.call call) := by
  cases call with
  | startSession request =>
      cases accepted : (provider.startSession request).1.accepted
      · rw [Provider.call, startSession_rejected accepted]
        exact .unchanged
      · obtain ⟨receiver_eq, checks, opened_session, opened, -, opens⟩ :=
          startSession_accepted accepted
        rw [receiver_eq] at opened
        exact .opens opens opened checks
  | validatePayment lookup request =>
      cases valid : (provider.validatePayment lookup request).1.valid
      · rw [Provider.call, validatePayment_rejected valid]
        exact .unchanged
      · obtain ⟨signed, -, checked, resumed | created⟩ :=
          validatePayment_valid valid
        · obtain ⟨stored, updated, found, payer_eq, written, updates⟩ := resumed
          obtain ⟨sessionId, -, found⟩ := Option.bind_eq_some_iff.mp found
          rw [← payer_eq] at checked
          exact .writesRav found checked written (.inr updates)
        · obtain ⟨-, opened_session, opened, opens⟩ := created
          refine .opens opens opened fun offered same => ?_
          cases same
          exact checked
  | reportUsage request =>
      cases reported : provider.reportUsage request with
      | error error =>
          simp only [Provider.call, reported]
          exact .unchanged
      | ok result =>
          obtain ⟨response, after⟩ := result
          simp only [Provider.call, reported]
          obtain ⟨stored, found, ⟨-, -, rfl⟩ | ⟨active, -, -, updates⟩⟩ := reportUsage_ok reported
          · exact .unchanged
          · exact .reports found active updates
  | submitRav request =>
      cases accepted : (provider.submitRav request).1.accepted
      · rw [Provider.call, submitRav_rejected accepted]
        exact .unchanged
      · obtain ⟨stored, signed, found, -, -, checked, -, updated, written, updates⟩ :=
          submitRav_accepted accepted
        exact .writesRav found checked written (.inl updates)
  | sessionStatus lookup request => exact .unchanged
  | endSession request =>
      cases ended : provider.endSession request with
      | error error =>
          simp only [Provider.call, ended]
          exact .unchanged
      | ok result =>
          obtain ⟨response, after⟩ := result
          simp only [Provider.call, ended]
          obtain ⟨stored, found, ⟨-, rfl⟩ | ⟨running, updates⟩⟩ := endSession_ok ended
          · exact .unchanged
          · exact .ends found running updates

theorem Changes.config_eq (changes : provider.Changes after) : after.config = provider.config := by
  cases changes with
  | unchanged => rfl
  | opens opens _ => exact opens.config_eq
  | updates updates _ _ => exact updates.config_eq

theorem Changes.wellFormed (formed : provider.WellFormed) (changes : provider.Changes after) :
    after.WellFormed := by
  cases changes with
  | unchanged => exact formed
  | opens opens opened =>
      refine ⟨opens.wellFormed formed.store_formed, ?_, ?_, ?_⟩
      · rw [opens.verifier_eq, opens.config_eq]
        exact formed.domain_eq
      · intro stored member
        rw [opens.sessions_eq] at member
        rw [opens.config_eq]
        rcases List.mem_append.mp member with old | new
        · exact formed.priced stored old
        · rw [List.mem_singleton.mp new]
          exact opened.pricing_eq
      · intro stored member ended
        rw [opens.sessions_eq] at member
        rcases List.mem_append.mp member with old | new
        · exact formed.ended_state stored old ended
        · rw [List.mem_singleton.mp new, opened.endedAt_eq] at ended
          cases ended
  | updates updates priced ended_state =>
      refine ⟨updates.wellFormed formed.store_formed, ?_, ?_, ?_⟩
      · rw [updates.verifier_eq, updates.config_eq]
        exact formed.domain_eq
      · intro stored member
        rw [updates.config_eq]
        rcases updates.mem member with rfl | old
        · exact priced
        · exact formed.priced stored old
      · intro stored member ended
        rcases updates.mem member with rfl | old
        · exact ended_state ended
        · exact formed.ended_state stored old ended

/-- Every session call of a well-formed provider is one of the three changes. -/
theorem call_changes (formed : provider.WellFormed) (call : SessionCall) :
    provider.Changes (provider.call call) := by
  have effect := call_effect formed call
  generalize provider.call call = after at effect
  cases effect with
  | unchanged => exact .unchanged
  | opens opens opened _ => exact .opens opens opened
  | writesRav found _ written updates =>
      obtain ⟨stored_priced, stored_ended⟩ := formed.found found
      obtain ⟨-, -, rfl⟩ := Session.compareAndSetRav_ok written
      rcases updates with updates | updates
      · exact .updates updates stored_priced stored_ended
      · exact .updates updates rfl stored_ended
  | reports found _ updates =>
      obtain ⟨stored_priced, stored_ended⟩ := formed.found found
      exact .updates updates stored_priced stored_ended
  | ends found running updates =>
      obtain ⟨stored_priced, -⟩ := formed.found found
      exact .updates updates (by rw [Session.finish_pricing]; exact stored_priced)
        (fun _ => Session.finish_state running)

/-! ## The invariant over a run -/

theorem wellFormed_new (config : ProviderConfig) (signers : Allowlist) (ids : IdSource) :
    (Provider.new config signers ids).WellFormed :=
  ⟨Store.wellFormed_empty ids, rfl, fun _ member => (nomatch member),
    fun _ member => (nomatch member)⟩

theorem step_config (formed : provider.WellFormed) (operation : Operation) :
    (provider.step operation).config = provider.config := by
  cases operation with
  | call call => exact (call_changes formed call).config_eq
  | addSigner signer authorizer => rfl
  | removeSigner signer => rfl
  | deleteSession sessionId => rfl
  | deleteEndedBefore offset => rfl

/-- A removal keeps the invariant: it keeps the settings and the domain, and keeps some of the
sessions. -/
theorem WellFormed.of_removal (formed : provider.WellFormed)
    (config_eq : after.config = provider.config)
    (verifier_eq : after.verifier = provider.verifier) (store_formed : after.store.WellFormed)
    (kept : ∀ session ∈ after.store.sessions, session ∈ provider.store.sessions) :
    after.WellFormed := by
  refine ⟨store_formed, ?_, ?_, ?_⟩
  · rw [verifier_eq, config_eq]
    exact formed.domain_eq
  · intro session member
    rw [config_eq]
    exact formed.priced session (kept session member)
  · intro session member ended
    exact formed.ended_state session (kept session member) ended

theorem WellFormed.step (formed : provider.WellFormed) (operation : Operation) :
    (provider.step operation).WellFormed := by
  cases operation with
  | call call => exact (call_changes formed call).wellFormed formed
  | addSigner signer authorizer =>
      exact ⟨formed.store_formed, formed.domain_eq, formed.priced, formed.ended_state⟩
  | removeSigner signer =>
      exact ⟨formed.store_formed, formed.domain_eq, formed.priced, formed.ended_state⟩
  | deleteSession sessionId =>
      exact formed.of_removal rfl rfl (formed.store_formed.delete sessionId)
        (fun _ member => Store.mem_delete member)
  | deleteEndedBefore offset =>
      exact formed.of_removal rfl rfl
        ((formed.store_formed.now).deleteEndedBefore (provider.store.clock.next + offset))
        (fun _ member => Store.mem_deleteEndedBefore member)

theorem Reachable.wellFormed (reachable : provider.Reachable) : provider.WellFormed := by
  induction reachable with
  | new config signers ids => exact wellFormed_new config signers ids
  | step operation _ induction => exact induction.step operation

/-! ## Properties of every stored session

A property of sessions that every session the provider opens has, and that every write the
provider can make to a session keeps, holds of every stored session of every provider a run
reaches: `Reachable.stored` is that induction, done once. -/

/-- `good` holds of every session `provider` opens, and every write `provider` can make to a
session keeps it. -/
structure Keeps (provider : Provider) (good : Session → Prop) : Prop where
  opened : ∀ session payer rav,
    Session.Opened provider.config.pricing payer provider.config.serviceProvider rav session →
    (∀ signed, rav = some signed → provider.checkRav signed payer = .ok ()) → good session
  written : ∀ stored signed updated, good stored → provider.checkRav signed stored.payer = .ok () →
    stored.compareAndSetRav signed provider.store.clock.next = .ok updated →
    good updated ∧ good (updated.setPricing provider.config.pricing)
  reported : ∀ stored usage, good stored → stored.state = .active →
    good { stored with usage, updatedAt := provider.store.clock.next }
  finished : ∀ stored reason finalUsage finalCost, good stored → stored.endedAt = none →
    good (stored.finish reason finalUsage finalCost provider.store.clock.next)

section Stored

variable {good : Session → Prop}

theorem Opens.keeps (opens : provider.Opens after session) (good_session : good session)
    (all_good : ∀ stored ∈ provider.store.sessions, good stored) :
    ∀ stored ∈ after.store.sessions, good stored := by
  intro stored member
  rw [opens.sessions_eq] at member
  rcases List.mem_append.mp member with old | new
  · exact all_good stored old
  · rw [List.mem_singleton.mp new]
    exact good_session

theorem Updates.keeps (updates : provider.Updates after session) (good_session : good session)
    (all_good : ∀ stored ∈ provider.store.sessions, good stored) :
    ∀ stored ∈ after.store.sessions, good stored := by
  intro stored member
  rcases updates.mem member with rfl | old
  · exact good_session
  · exact all_good stored old

theorem Effect.keeps (keeps : provider.Keeps good) (effect : provider.Effect after)
    (all_good : ∀ stored ∈ provider.store.sessions, good stored) :
    ∀ stored ∈ after.store.sessions, good stored := by
  have found_good : ∀ {sessionId stored}, provider.store.find? sessionId = some stored →
      good stored :=
    fun found => all_good _ (Store.find?_eq_some found).1
  cases effect with
  | unchanged => exact all_good
  | opens opens opened checks => exact opens.keeps (keeps.opened _ _ _ opened checks) all_good
  | writesRav found checked written updates =>
      have written_good := keeps.written _ _ _ (found_good found) checked written
      rcases updates with updates | updates
      · exact updates.keeps written_good.1 all_good
      · exact updates.keeps written_good.2 all_good
  | reports found active updates =>
      exact updates.keeps (keeps.reported _ _ (found_good found) active) all_good
  | ends found running updates =>
      exact updates.keeps (keeps.finished _ _ _ _ (found_good found) running) all_good

end Stored

/-- A property of sessions, under the settings of the provider, that every well-formed provider
keeps holds of every session stored by a provider that a run reaches. Removals only take sessions
away and signer changes leave the store alone. -/
theorem Reachable.stored {good : ProviderConfig → Session → Prop}
    (keeps : ∀ provider : Provider, provider.WellFormed → provider.Keeps (good provider.config))
    (reachable : provider.Reachable) :
    ∀ session ∈ provider.store.sessions, good provider.config session := by
  induction reachable with
  | new config signers ids => exact fun _ member => nomatch member
  | step operation reachable induction =>
      have formed := reachable.wellFormed
      rw [step_config formed operation]
      cases operation with
      | call call => exact (call_effect formed call).keeps (keeps _ formed) induction
      | addSigner signer authorizer => exact induction
      | removeSigner signer => exact induction
      | deleteSession sessionId =>
          exact fun session member => induction session (Store.mem_delete member)
      | deleteEndedBefore offset =>
          exact fun session member => induction session (Store.mem_deleteEndedBefore member)

end Provider

end MeteredPayments
