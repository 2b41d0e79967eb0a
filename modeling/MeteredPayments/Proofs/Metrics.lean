import MeteredPayments.Proofs.Vouchers
import MeteredPayments.Server.Rpc

/-!
# The metrics agree with the session store

Over every run of calls and sweeper passes, the active, started and accepted figures of a service
count the active sessions, the sessions created and the vouchers stored
(`Server.metrics_agree_with_store`).
-/

namespace MeteredPayments

/-! ## Writes that keep the active sessions -/

namespace Store

variable {store : Store} {session stored : Session}

/-- Replacing a stored session by one that is active exactly when it was keeps the number of
active sessions. -/
theorem active_length_put (formed : store.WellFormed) (found : store.find? session.id = some stored)
    (same : stored.isActive = session.isActive) :
    (store.put session).active.length = store.active.length := by
  obtain ⟨stored_mem, stored_id⟩ := find?_eq_some found
  -- ids are distinct, so the only session the write replaces is `stored`
  have replaced : ∀ other ∈ store.sessions, other.id = session.id → other = stored :=
    fun other member same_id =>
      List.inj_on_of_nodup_map formed.ids_nodup member stored_mem (same_id.trans stored_id.symm)
  unfold active put
  rw [List.filter_map, List.length_map]
  congr 1
  apply List.filter_congr
  intro other member
  by_cases same_id : other.id = session.id
  · obtain rfl := replaced other member same_id
    simp [same_id, same]
  · simp [same_id]

end Store

namespace Provider

variable {before after : Provider} {session stored : Session} {sessionId : String}

/-- A write that keeps the state of the session it replaces keeps the number of active
sessions. -/
theorem Updates.active_length (updates : before.Updates after session)
    (formed : before.store.WellFormed) (found : before.store.find? sessionId = some stored)
    (id_eq : session.id = stored.id) (state_eq : session.state = stored.state) :
    after.store.active.length = before.store.active.length := by
  have found_self : before.store.find? session.id = some stored := by
    rw [id_eq, (Store.find?_eq_some found).2]
    exact found
  have active_eq : after.store.active = (before.store.put session).active := by
    unfold Store.active
    rw [updates.sessions_eq]
  rw [active_eq, Store.active_length_put formed found_self (by simp [Session.isActive, state_eq])]

/-- Whether a session call stores the voucher it offers into a session: the call offers one and
the provider takes it (`takesRav`), which then holds it in a session (`takesRav_signedFor`). -/
def storesRav (provider : Provider) (call : SessionCall) : Bool :=
  provider.takesRav (.call call) && (Operation.call call).offeredRav.isSome

end Provider

namespace Server

/-! ## Calls as session operations -/

/-- The session operation a JSON-RPC call asks for, when its method is one of the six session
methods and its request can be read. -/
def sessionCall? (lookup : EscrowAccount → EscrowBalance) (method : String)
    (params : Option Json) : Option SessionCall :=
  match method with
  | "start_session" =>
    (requestParameter StartSessionRequest.decode params).toOption.map .startSession
  | "validate_payment" =>
    (requestParameter ValidatePaymentRequest.decode params).toOption.map (.validatePayment lookup)
  | "report_usage" => (requestParameter ReportUsageRequest.decode params).toOption.map .reportUsage
  | "submit_rav" => (requestParameter SubmitRavRequest.decode params).toOption.map .submitRav
  | "get_session_status" =>
    (requestParameter SessionStatusRequest.decode params).toOption.map (.sessionStatus lookup)
  | "end_session" => (requestParameter EndSessionRequest.decode params).toOption.map .endSession
  | _ => none

/-- What drives a service: a JSON-RPC call of a method with its parameters, whose escrow balances
are read by `lookup`, or a pass of the sweeper keeping ended sessions for `retention` seconds. -/
inductive ServiceEvent where
  | call (lookup : EscrowAccount → EscrowBalance) (method : String) (params : Option Json)
  | sweep (retention : Nat)

namespace Service

/-- The service after it performs a session operation. -/
def perform (service : Service) : SessionCall → Service
  | .startSession request => (service.startSession request).2
  | .validatePayment lookup request => (service.validatePayment lookup request).2
  | .reportUsage request => (service.reportUsage request).2
  | .submitRav request => (service.submitRav request).2
  | .sessionStatus lookup request => (service.sessionStatus lookup request).2
  | .endSession request => (service.endSession request).2

/-- The service after an event. -/
def handle (service : Service) : ServiceEvent → Service
  | .call lookup method params => (service.call lookup method params).2
  | .sweep retention => service.sweep retention

/-- The service after a run of events, the first event first. -/
def serve (service : Service) (events : List ServiceEvent) : Service :=
  events.foldl handle service

/-- How many vouchers an event stores into a session: one for a call that stores the voucher it
offers, none for other calls and for sweeps. -/
def storedBy (service : Service) : ServiceEvent → Nat
  | .call lookup method params =>
    match sessionCall? lookup method params with
    | some call => if service.provider.storesRav call then 1 else 0
    | none => 0
  | .sweep _ => 0

/-- How many vouchers a run of events stores into sessions. -/
def vouchersStored : Service → List ServiceEvent → Nat
  | _, [] => 0
  | service, event :: events => service.storedBy event + (service.handle event).vouchersStored events

variable {service : Service}

theorem withRequest_snd {α : Type} (params : Option Json) (decode : Json.Decoder α)
    (method : α → Except RpcError Reply × Service) :
    (service.withRequest params decode method).2 =
      ((requestParameter decode params).toOption.map fun request => (method request).2).getD
        service := by
  unfold withRequest
  cases requestParameter decode params <;> rfl

/-- A call performs the session operation it asks for; a call of another method, or one whose
request cannot be read, leaves the service as it was. -/
theorem call_snd (lookup : EscrowAccount → EscrowBalance) (method : String)
    (params : Option Json) :
    (service.call lookup method params).2 =
      ((sessionCall? lookup method params).map service.perform).getD service := by
  unfold call sessionCall?
  split
  · rfl
  all_goals simp only [withRequest_snd, Option.map_map]; rfl

/-! ## What each session operation does to the figures

Each operation of a well-formed provider keeps the figures in agreement with the store, and adds
one to the vouchers accepted exactly when it stores the voucher it offers.
-/

/-- The figures about the store agree with it: the active sessions figure counts the active
stored sessions and the sessions started figure the sessions the provider created. -/
structure Agrees (service : Service) : Prop where
  active_eq : service.metrics.activeSessions = service.provider.store.active.length
  started_eq : service.metrics.sessionsStarted = service.provider.store.issued

/-- The service performs a session operation on its provider as a run step does. -/
theorem perform_provider (call : SessionCall) :
    (service.perform call).provider = service.provider.call call := by
  cases call with
  | startSession request =>
      by_cases accepted : (service.provider.startSession request).1.accepted <;>
        simp [perform, startSession, accepted, refreshActive, Provider.call]
  | validatePayment lookup request =>
      by_cases valid : (service.provider.validatePayment lookup request).1.valid <;>
        by_cases resumed : (request.sessionId.bind service.provider.store.find?).isSome <;>
        by_cases unread : (service.provider.validatePayment lookup request).1.escrowBalance.isNone <;>
        simp [perform, validatePayment, valid, resumed, unread, refreshActive, Provider.call]
  | reportUsage request =>
      cases reported : service.provider.reportUsage request <;>
        simp [perform, reportUsage, reported, Provider.call]
  | submitRav request => rfl
  | sessionStatus lookup request =>
      by_cases unread : ((service.provider.sessionStatus lookup request).session.isSome &&
          !(service.provider.sessionStatus lookup request).escrowBalanceKnown) <;>
        simp [perform, sessionStatus, unread, Provider.call]
  | endSession request =>
      cases ended : service.provider.endSession request <;>
        simp [perform, endSession, ended, refreshActive, Provider.call]

section Operations

variable (formed : service.provider.WellFormed) (agrees : service.Agrees)
include formed agrees

omit formed in
theorem startSession_agrees (request : StartSessionRequest) :
    (service.startSession request).2.Agrees ∧
      (service.startSession request).2.metrics.ravsAccepted = service.metrics.ravsAccepted +
        if service.provider.storesRav (.startSession request) then 1 else 0 := by
  cases accepted : (service.provider.startSession request).1.accepted with
  | false =>
      have unchanged := Provider.startSession_rejected accepted
      refine ⟨⟨?_, ?_⟩, ?_⟩ <;>
        simp [startSession, accepted, unchanged, Metrics.ravRejected, agrees.active_eq,
          agrees.started_eq, Provider.storesRav, Provider.takesRav]
  | true =>
      obtain ⟨-, -, session, -, -, opens⟩ :=
        Provider.startSession_accepted accepted
      refine ⟨⟨?_, ?_⟩, ?_⟩ <;> cases initial : request.initialRav <;>
        simp [startSession, accepted, initial, refreshActive, Metrics.setActive,
          Metrics.sessionStarted, Metrics.ravAccepted, opens.issued_eq, agrees.started_eq,
          Provider.storesRav, Provider.takesRav, Operation.offeredRav]

theorem validatePayment_agrees (lookup : EscrowAccount → EscrowBalance)
    (request : ValidatePaymentRequest) :
    (service.validatePayment lookup request).2.Agrees ∧
      (service.validatePayment lookup request).2.metrics.ravsAccepted =
        service.metrics.ravsAccepted +
          if service.provider.storesRav (.validatePayment lookup request) then 1 else 0 := by
  cases valid : (service.provider.validatePayment lookup request).1.valid with
  | false =>
      have unchanged := Provider.validatePayment_rejected valid
      refine ⟨⟨?_, ?_⟩, ?_⟩ <;>
        simp [validatePayment, valid, unchanged, Metrics.ravRejected, agrees.active_eq,
          agrees.started_eq, Provider.storesRav, Provider.takesRav]
  | true =>
      obtain ⟨signed, offered, -, resumed | opened⟩ :=
        Provider.validatePayment_valid valid
      · -- the lookup before the call finds the session the provider resumes
        obtain ⟨stored, updated, found, -, written, updates⟩ := resumed
        obtain ⟨-, -, rfl⟩ := Session.compareAndSetRav_ok written
        obtain ⟨named, -, found_named⟩ := Option.bind_eq_some_iff.mp found
        have same_active := updates.active_length formed.store_formed found_named rfl rfl
        refine ⟨⟨?_, ?_⟩, ?_⟩ <;>
          by_cases unread : (service.provider.validatePayment lookup request).1.escrowBalance.isNone <;>
          simp [validatePayment, valid, found, unread, Metrics.ravAccepted,
            Metrics.escrowQueryFailed, same_active, updates.issued_eq, agrees.active_eq,
            agrees.started_eq, Provider.storesRav, Provider.takesRav, Operation.offeredRav,
            offered]
      · -- the lookup before the call finds nothing, and the provider opens a session
        obtain ⟨absent, session, -, opens⟩ := opened
        refine ⟨⟨?_, ?_⟩, ?_⟩ <;>
          by_cases unread : (service.provider.validatePayment lookup request).1.escrowBalance.isNone <;>
          simp [validatePayment, valid, absent, unread, refreshActive, Metrics.setActive,
            Metrics.sessionStarted, Metrics.ravAccepted, Metrics.escrowQueryFailed,
            opens.issued_eq, agrees.started_eq, Provider.storesRav, Provider.takesRav,
            Operation.offeredRav, offered]

theorem reportUsage_agrees (request : ReportUsageRequest) :
    (service.reportUsage request).2.Agrees ∧
      (service.reportUsage request).2.metrics.ravsAccepted = service.metrics.ravsAccepted +
        if service.provider.storesRav (.reportUsage request) then 1 else 0 := by
  cases reported : service.provider.reportUsage request with
  | error error =>
      refine ⟨⟨?_, ?_⟩, ?_⟩ <;>
        simp [reportUsage, reported, agrees.active_eq, agrees.started_eq, Provider.storesRav,
          Provider.takesRav]
  | ok result =>
      obtain ⟨response, after⟩ := result
      obtain ⟨stored, found, ⟨-, -, rfl⟩ | ⟨-, -, -, updates⟩⟩ := Provider.reportUsage_ok reported
      · refine ⟨⟨?_, ?_⟩, ?_⟩ <;>
          simp [reportUsage, reported, agrees.active_eq, agrees.started_eq, Provider.storesRav,
            Provider.takesRav]
      · have same_active := updates.active_length formed.store_formed found rfl rfl
        refine ⟨⟨?_, ?_⟩, ?_⟩ <;>
          simp [reportUsage, reported, same_active, updates.issued_eq, agrees.active_eq,
            agrees.started_eq, Provider.storesRav, Provider.takesRav]

theorem submitRav_agrees (request : SubmitRavRequest) :
    (service.submitRav request).2.Agrees ∧
      (service.submitRav request).2.metrics.ravsAccepted = service.metrics.ravsAccepted +
        if service.provider.storesRav (.submitRav request) then 1 else 0 := by
  cases accepted : (service.provider.submitRav request).1.accepted with
  | false =>
      have unchanged := Provider.submitRav_rejected accepted
      refine ⟨⟨?_, ?_⟩, ?_⟩ <;>
        simp [submitRav, accepted, unchanged, Metrics.ravRejected, agrees.active_eq,
          agrees.started_eq, Provider.storesRav, Provider.takesRav]
  | true =>
      obtain ⟨stored, signed, found, offered, -, -, -, updated, written, updates⟩ :=
        Provider.submitRav_accepted accepted
      obtain ⟨-, -, rfl⟩ := Session.compareAndSetRav_ok written
      have same_active := updates.active_length formed.store_formed found rfl rfl
      refine ⟨⟨?_, ?_⟩, ?_⟩ <;>
        simp [submitRav, accepted, same_active, updates.issued_eq, Metrics.ravAccepted,
          agrees.active_eq, agrees.started_eq, Provider.storesRav, Provider.takesRav,
          Operation.offeredRav, offered]

omit formed in
theorem sessionStatus_agrees (lookup : EscrowAccount → EscrowBalance)
    (request : SessionStatusRequest) :
    (service.sessionStatus lookup request).2.Agrees ∧
      (service.sessionStatus lookup request).2.metrics.ravsAccepted =
        service.metrics.ravsAccepted +
          if service.provider.storesRav (.sessionStatus lookup request) then 1 else 0 := by
  refine ⟨⟨?_, ?_⟩, ?_⟩ <;>
    by_cases unread : ((service.provider.sessionStatus lookup request).session.isSome &&
        !(service.provider.sessionStatus lookup request).escrowBalanceKnown) <;>
    simp [sessionStatus, unread, Metrics.escrowQueryFailed, agrees.active_eq, agrees.started_eq,
      Provider.storesRav, Provider.takesRav]

omit formed in
theorem endSession_agrees (request : EndSessionRequest) :
    (service.endSession request).2.Agrees ∧
      (service.endSession request).2.metrics.ravsAccepted = service.metrics.ravsAccepted +
        if service.provider.storesRav (.endSession request) then 1 else 0 := by
  cases ended : service.provider.endSession request with
  | error error =>
      refine ⟨⟨?_, ?_⟩, ?_⟩ <;>
        simp [endSession, ended, agrees.active_eq, agrees.started_eq, Provider.storesRav,
          Provider.takesRav]
  | ok result =>
      obtain ⟨response, after⟩ := result
      -- an end counts the active sessions again, so only the sessions created need care
      obtain ⟨stored, -, ⟨-, rfl⟩ | ⟨-, updates⟩⟩ := Provider.endSession_ok ended
      · refine ⟨⟨?_, ?_⟩, ?_⟩ <;>
          simp [endSession, ended, refreshActive, Metrics.setActive, agrees.started_eq,
            Provider.storesRav, Provider.takesRav]
      · refine ⟨⟨?_, ?_⟩, ?_⟩ <;>
          simp [endSession, ended, refreshActive, Metrics.setActive, updates.issued_eq,
            agrees.started_eq, Provider.storesRav, Provider.takesRav]

end Operations

theorem perform_agrees (formed : service.provider.WellFormed) (agrees : service.Agrees)
    (call : SessionCall) :
    (service.perform call).Agrees ∧
      (service.perform call).metrics.ravsAccepted =
        service.metrics.ravsAccepted + if service.provider.storesRav call then 1 else 0 := by
  cases call with
  | startSession request => exact startSession_agrees agrees request
  | validatePayment lookup request => exact validatePayment_agrees formed agrees lookup request
  | reportUsage request => exact reportUsage_agrees formed agrees request
  | submitRav request => exact submitRav_agrees formed agrees request
  | sessionStatus lookup request => exact sessionStatus_agrees agrees lookup request
  | endSession request => exact endSession_agrees agrees request

/-! ## Sweeps -/

/-- A pass of the sweeper does nothing, or removes the sessions that ended more than the retention
ago as the provider's removal does, and counts the active sessions again. -/
theorem sweep_eq (retention : Nat) :
    service.sweep retention = service ∨
      service.sweep retention = refreshActive { service with
        provider := service.provider.step (.deleteEndedBefore (-(retention * 1000000000 : Nat))) } := by
  simp only [sweep]
  split_ifs
  · exact .inl rfl
  · right
    simp [Provider.step, Provider.deleteEndedBefore, Int.sub_eq_add_neg]

theorem sweep_agrees (reachable : service.provider.Reachable) (agrees : service.Agrees)
    (retention : Nat) :
    (service.sweep retention).provider.Reachable ∧ (service.sweep retention).Agrees ∧
      (service.sweep retention).metrics.ravsAccepted = service.metrics.ravsAccepted := by
  rcases sweep_eq retention with same | swept
  · rw [same]
    exact ⟨reachable, agrees, rfl⟩
  · rw [swept]
    refine ⟨reachable.step (.deleteEndedBefore _), ⟨rfl, ?_⟩, rfl⟩
    simp [refreshActive, Metrics.setActive, Provider.step, agrees.started_eq]

/-! ## Runs -/

/-- One event keeps the provider reachable and the figures in agreement with the store, and adds
to the vouchers accepted the vouchers it stores. -/
theorem handle_agrees (reachable : service.provider.Reachable) (agrees : service.Agrees)
    (event : ServiceEvent) :
    (service.handle event).provider.Reachable ∧ (service.handle event).Agrees ∧
      (service.handle event).metrics.ravsAccepted =
        service.metrics.ravsAccepted + service.storedBy event := by
  cases event with
  | call lookup method params =>
      simp only [handle, storedBy, call_snd]
      cases asked : sessionCall? lookup method params with
      | none => exact ⟨reachable, agrees, rfl⟩
      | some call =>
          obtain ⟨agrees_after, counted⟩ := perform_agrees reachable.wellFormed agrees call
          refine ⟨?_, agrees_after, counted⟩
          rw [Option.map_some, Option.getD_some, perform_provider]
          exact reachable.step (.call call)
  | sweep retention => exact sweep_agrees reachable agrees retention

/-- Over a run of events the figures stay in agreement with the store, and the vouchers accepted
grow by the vouchers the run stores. -/
theorem serve_agrees (reachable : service.provider.Reachable) (agrees : service.Agrees)
    (events : List ServiceEvent) :
    (service.serve events).Agrees ∧
      (service.serve events).metrics.ravsAccepted =
        service.metrics.ravsAccepted + service.vouchersStored events := by
  -- the induction carries reachability, which the per-call lemmas need for well-formedness
  induction events generalizing service with
  | nil => exact ⟨agrees, rfl⟩
  | cons event events induction =>
      obtain ⟨reachable_after, agrees_after, counted⟩ := handle_agrees reachable agrees event
      obtain ⟨agrees_run, counted_run⟩ := induction reachable_after agrees_after
      refine ⟨agrees_run, ?_⟩
      change ((service.handle event).serve events).metrics.ravsAccepted = _
      rw [counted_run, counted, vouchersStored, Nat.add_assoc]

end Service

/-- Over every run, the metrics of a service agree with its session store. -/
theorem metrics_agree_with_store (config : ProviderConfig) (signers : Allowlist)
    (ids : IdSource) (events : List ServiceEvent) :
    let start := Service.new (Provider.new config signers ids)
    let service := start.serve events
    service.metrics.activeSessions = service.provider.store.active.length ∧
      service.metrics.sessionsStarted = service.provider.store.issued ∧
      service.metrics.ravsAccepted = start.vouchersStored events := by
  intro start service
  have agrees_new : start.Agrees := ⟨rfl, rfl⟩
  obtain ⟨⟨active_eq, started_eq⟩, counted⟩ :=
    Service.serve_agrees (Provider.Reachable.new config signers ids) agrees_new events
  exact ⟨active_eq, started_eq, counted.trans (Nat.zero_add _)⟩

end Server

end MeteredPayments
