import MeteredPayments.Proofs.Cost
import MeteredPayments.Proofs.Vouchers

/-!
# Usage accounting

Over every run of calls, a session's usage totals the deltas of its acknowledged reports and of
the call that ended it, each counter stopped at its largest value (`usage_totals_accepted_deltas`).
-/

namespace MeteredPayments

/-! ## Totals of deltas -/

/-- The usage that `deltas` add up to at `pricing`: each counter the sum of the deltas' counters
and the cost the sum of their costs, each stopped at its largest value. -/
def Usage.ofDeltas (pricing : Pricing) (deltas : List UsageDelta) : Usage :=
  { blocksProcessed := min (deltas.map (·.blocksProcessed)).sum countMax
    bytesTransferred := min (deltas.map (·.bytesTransferred)).sum countMax
    requests := min (deltas.map (·.requests)).sum countMax
    cost := min (deltas.map fun delta =>
      pricing.usageCost delta.blocksProcessed delta.bytesTransferred).sum wordMax }

namespace Usage

variable {pricing : Pricing}

@[simp] theorem ofDeltas_nil : ofDeltas pricing [] = zero := by
  simp [ofDeltas, zero]

theorem saturatingCount_min (total more : Nat) :
    saturatingCount (min total countMax) more = min (total + more) countMax := by
  unfold saturatingCount
  omega

theorem saturatingAdd_min (total more : Nat) :
    saturatingAdd (min total wordMax) more = min (total + more) wordMax := by
  unfold saturatingAdd
  omega

/-- Adding one priced delta to the totals of some deltas gives the totals of all of them. -/
theorem add_ofDeltas (deltas : List UsageDelta) (delta : UsageDelta) :
    (ofDeltas pricing deltas).add delta.blocksProcessed delta.bytesTransferred delta.requests
        (some (pricing.usageCost delta.blocksProcessed delta.bytesTransferred)) =
      ofDeltas pricing (deltas ++ [delta]) := by
  simp only [add, ofDeltas, saturatingCount_min, saturatingAdd_min, List.map_append,
    List.map_cons, List.map_nil, List.sum_append, List.sum_cons, List.sum_nil, Nat.add_zero]

/-- Pricing distributes over the deltas while their block and byte totals fit 64 bits. The
induction adds one delta in front, whose quantities fit with the rest's totals. -/
theorem sum_usageCost (deltas : List UsageDelta)
    (blocks_le : (deltas.map (·.blocksProcessed)).sum ≤ countMax)
    (bytes_le : (deltas.map (·.bytesTransferred)).sum ≤ countMax) :
    (deltas.map fun delta => pricing.usageCost delta.blocksProcessed delta.bytesTransferred).sum =
      pricing.usageCost (deltas.map (·.blocksProcessed)).sum
        (deltas.map (·.bytesTransferred)).sum := by
  have count_small : countMax < 2 ^ 64 := by decide
  induction deltas with
  | nil => simp [Pricing.usageCost, Price.cost, wordMul, wordAdd]
  | cons delta rest induction =>
      simp only [List.map_cons, List.sum_cons] at blocks_le bytes_le ⊢
      rw [induction (by omega) (by omega), pricing.usageCost_add (by omega) (by omega)]

/-- A cost is a word: it is at most the largest one. -/
theorem usageCost_le_wordMax (blocks bytes : Nat) : pricing.usageCost blocks bytes ≤ wordMax :=
  Nat.le_sub_one_of_lt (Nat.mod_lt _ (by decide))

/-- While the block and byte totals fit 64 bits, the cost of some deltas is the price of their
totals. -/
theorem ofDeltas_cost (deltas : List UsageDelta)
    (blocks_le : (deltas.map (·.blocksProcessed)).sum ≤ countMax)
    (bytes_le : (deltas.map (·.bytesTransferred)).sum ≤ countMax) :
    (ofDeltas pricing deltas).cost =
      pricing.usageCost (deltas.map (·.blocksProcessed)).sum
        (deltas.map (·.bytesTransferred)).sum := by
  have fits : pricing.usageCost (deltas.map (·.blocksProcessed)).sum
      (deltas.map (·.bytesTransferred)).sum ≤ wordMax :=
    usageCost_le_wordMax _ _
  simp only [ofDeltas, sum_usageCost deltas blocks_le bytes_le]
  omega

end Usage


/-! ## The deltas a run adds to a session -/

namespace SessionCall

/-- The deltas a call adds to the session stored under `sessionId`: the delta of a usage report
on it that is told to continue, or the final usage of the call that ends it. -/
def addedUsage (provider : Provider) (sessionId : String) : SessionCall → List UsageDelta
  | .reportUsage request =>
    match provider.reportUsage request with
    | .ok (response, _) =>
      if request.sessionId = sessionId ∧ response.shouldContinue = true then [request.usage]
      else []
    | .error _ => []
  | .endSession request =>
    match provider.store.find? request.sessionId with
    | some session =>
      if request.sessionId = sessionId ∧ session.endedAt = none then request.finalUsage.toList
      else []
    | none => []
  | _ => []

variable {provider : Provider} {sessionId : String}

theorem addedUsage_reportUsage_of_ne {request : ReportUsageRequest}
    (other : request.sessionId ≠ sessionId) :
    (reportUsage request).addedUsage provider sessionId = [] := by
  simp only [addedUsage]
  split <;> simp [other]

/-- A report that is told to continue adds its delta to its session. -/
theorem addedUsage_reportUsage_continued {request : ReportUsageRequest}
    {response : ReportUsageResponse} {after : Provider}
    (reported : provider.reportUsage request = .ok (response, after))
    (continues : response.shouldContinue = true) :
    (reportUsage request).addedUsage provider request.sessionId = [request.usage] := by
  simp only [addedUsage, reported, continues, and_self, if_true]

theorem addedUsage_endSession_of_ne {request : EndSessionRequest}
    (other : request.sessionId ≠ sessionId) :
    (endSession request).addedUsage provider sessionId = [] := by
  simp only [addedUsage]
  split <;> simp [other]

/-- The call that ends a running session adds its final usage, if it carries one. -/
theorem addedUsage_endSession_running {request : EndSessionRequest} {session : Session}
    (found : provider.store.find? request.sessionId = some session)
    (running : session.endedAt = none) :
    (endSession request).addedUsage provider request.sessionId = request.finalUsage.toList := by
  simp only [addedUsage, found, running, and_self, if_true]

end SessionCall

namespace Provider

/-- The provider after a run of session calls, the first call first. -/
def runCalls (provider : Provider) (calls : List SessionCall) : Provider :=
  calls.foldl Provider.call provider

/-- The deltas a run of session calls adds to the session stored under `sessionId`, in order. -/
def usageLog (sessionId : String) : Provider → List SessionCall → List UsageDelta
  | _, [] => []
  | provider, call :: calls =>
    call.addedUsage provider sessionId ++ usageLog sessionId (provider.call call) calls

theorem runCalls_append (provider : Provider) (calls more : List SessionCall) :
    provider.runCalls (calls ++ more) = (provider.runCalls calls).runCalls more := by
  simp only [runCalls, List.foldl_append]

theorem usageLog_append (sessionId : String) (provider : Provider) (calls : List SessionCall)
    (call : SessionCall) :
    usageLog sessionId provider (calls ++ [call]) =
      usageLog sessionId provider calls ++ call.addedUsage (provider.runCalls calls) sessionId := by
  induction calls generalizing provider with
  | nil => simp [usageLog, runCalls]
  | cons first rest induction =>
      simp only [List.cons_append, usageLog, induction, List.append_assoc]
      rfl

/-! ## The accounting invariant -/

/-- The usage of every stored session is the total of the deltas `log` gives for its id, and an id
with no stored session has been given none. -/
structure Accounts (provider : Provider) (log : String → List UsageDelta) : Prop where
  stored : ∀ sessionId session, provider.store.find? sessionId = some session →
    session.usage = Usage.ofDeltas provider.config.pricing (log sessionId)
  absent : ∀ sessionId, provider.store.find? sessionId = none → log sessionId = []

variable {provider after : Provider} {session stored held held' : Session}
  {log : String → List UsageDelta}

theorem accounts_new (config : ProviderConfig) (signers : Allowlist) (ids : IdSource) :
    (Provider.new config signers ids).Accounts fun _ => [] :=
  ⟨fun _ _ found => (nomatch found), fun _ _ => rfl⟩

/-- A provider that stores `session` under its id and elsewhere what `provider` stores keeps the
accounts with a log that totals the new session and elsewhere agrees with the old one. Opening
and replacing a session both have this shape. -/
theorem Accounts.of_lookup {log' : String → List UsageDelta} (accounts : provider.Accounts log)
    (lookup : ∀ sessionId, after.store.find? sessionId =
      if sessionId = session.id then some session else provider.store.find? sessionId)
    (config_eq : after.config = provider.config)
    (others : ∀ sessionId, sessionId ≠ session.id → log' sessionId = log sessionId)
    (totals : session.usage = Usage.ofDeltas provider.config.pricing (log' session.id)) :
    after.Accounts log' := by
  constructor
  · intro sessionId found found_after
    rw [lookup] at found_after
    rw [config_eq]
    by_cases same : sessionId = session.id
    · rw [if_pos same, Option.some.injEq] at found_after
      rw [← found_after, same]
      exact totals
    · rw [if_neg same] at found_after
      rw [others sessionId same]
      exact accounts.stored sessionId found found_after
  · intro sessionId absent_after
    rw [lookup] at absent_after
    by_cases same : sessionId = session.id
    · rw [if_pos same] at absent_after
      cases absent_after
    · rw [if_neg same] at absent_after
      rw [others sessionId same]
      exact accounts.absent sessionId absent_after

/-- Opening a session, which starts with no usage, keeps the accounts: nothing was logged under
its id, which no stored session has. -/
theorem Accounts.opens (accounts : provider.Accounts log) (opens : provider.Opens after session)
    (unused : session.usage = Usage.zero) :
    after.Accounts log := by
  have never : provider.store.find? session.id = none := by
    rw [opens.id_eq]
    exact provider.store.find?_nextId
  refine accounts.of_lookup opens.find? opens.config_eq (fun _ _ => rfl) ?_
  rw [unused, accounts.absent session.id never, Usage.ofDeltas_nil]

/-- Replacing a session by one whose usage totals its deltas and `added`, where nothing is added
to other sessions, keeps the accounts with `added` appended. -/
theorem Accounts.updates (accounts : provider.Accounts log)
    (updates : provider.Updates after session)
    (added : String → List UsageDelta)
    (others : ∀ sessionId, sessionId ≠ session.id → added sessionId = [])
    (totals : session.usage =
      Usage.ofDeltas provider.config.pricing (log session.id ++ added session.id)) :
    after.Accounts fun sessionId => log sessionId ++ added sessionId := by
  refine accounts.of_lookup updates.find? updates.config_eq (fun sessionId other => ?_) totals
  rw [others sessionId other, List.append_nil]

/-- Replacing a session by one with the same usage keeps the accounts. -/
theorem Accounts.updates_keeping {origin : String} (accounts : provider.Accounts log)
    (updates : provider.Updates after session) (found : provider.store.find? origin = some stored)
    (same : session.id = stored.id) (kept : session.usage = stored.usage) : after.Accounts log := by
  have origin_eq : session.id = origin := same.trans (Store.find?_eq_some found).2
  have keeping := accounts.updates updates (fun _ => []) (fun _ _ => rfl) (by
    rw [List.append_nil, kept, origin_eq]
    exact accounts.stored origin stored found)
  simpa only [List.append_nil] using keeping

theorem sessionPricing_of_found (formed : provider.WellFormed) {sessionId : String}
    (found : provider.store.find? sessionId = some stored) :
    provider.sessionPricing stored = provider.config.pricing := by
  rw [sessionPricing, (formed.found found).1]
  rfl

/-- Every session call keeps the accounts, with the deltas it adds appended. -/
theorem Accounts.call (formed : provider.WellFormed) (accounts : provider.Accounts log)
    (call : SessionCall) :
    (provider.call call).Accounts fun sessionId =>
      log sessionId ++ call.addedUsage provider sessionId := by
  cases call with
  | startSession request =>
      simp only [SessionCall.addedUsage, List.append_nil]
      cases accepted : (provider.startSession request).1.accepted
      · rw [Provider.call, startSession_rejected accepted]
        exact accounts
      · obtain ⟨-, -, opened_session, opened, -, opens⟩ :=
          startSession_accepted accepted
        exact accounts.opens opens opened.usage_eq
  | validatePayment lookup request =>
      simp only [SessionCall.addedUsage, List.append_nil]
      cases valid : (provider.validatePayment lookup request).1.valid
      · rw [Provider.call, validatePayment_rejected valid]
        exact accounts
      · obtain ⟨paid, -, -, resumed | created⟩ :=
          validatePayment_valid valid
        · obtain ⟨resumed_session, updated, found, -, written, updates⟩ := resumed
          obtain ⟨origin, -, found⟩ := Option.bind_eq_some_iff.mp found
          obtain ⟨-, -, rfl⟩ := Session.compareAndSetRav_ok written
          exact accounts.updates_keeping updates found rfl rfl
        · obtain ⟨-, opened_session, opened, opens⟩ := created
          exact accounts.opens opens opened.usage_eq
  | reportUsage request =>
      cases reported : provider.reportUsage request with
      | error error =>
          simp only [SessionCall.addedUsage, reported, Provider.call, List.append_nil]
          exact accounts
      | ok result =>
          obtain ⟨response, reported_after⟩ := result
          obtain ⟨reported_session, found,
              ⟨-, stop, same⟩ | ⟨active, continues, -, updates⟩⟩ :=
            reportUsage_ok reported
          · simp only [SessionCall.addedUsage, reported, Provider.call, stop, same,
              Bool.false_eq_true, and_false, if_false, List.append_nil]
            exact accounts
          · simp only [Provider.call, reported]
            have origin_eq := (Store.find?_eq_some found).2
            refine accounts.updates updates _ (fun sessionId other =>
              SessionCall.addedUsage_reportUsage_of_ne fun named =>
                other (named.symm.trans origin_eq.symm)) ?_
            rw [show reported_session.id = request.sessionId from origin_eq,
              SessionCall.addedUsage_reportUsage_continued reported continues,
              sessionPricing_of_found formed found, accounts.stored _ _ found]
            exact Usage.add_ofDeltas _ request.usage
  | submitRav request =>
      simp only [SessionCall.addedUsage, List.append_nil]
      cases accepted : (provider.submitRav request).1.accepted
      · rw [Provider.call, submitRav_rejected accepted]
        exact accounts
      · obtain ⟨submitted_session, submitted, found, -, -, -, -, updated, written, updates⟩ :=
          submitRav_accepted accepted
        obtain ⟨-, -, rfl⟩ := Session.compareAndSetRav_ok written
        exact accounts.updates_keeping updates found rfl rfl
  | sessionStatus lookup request =>
      simp only [SessionCall.addedUsage, List.append_nil]
      exact accounts
  | endSession request =>
      cases ended : provider.endSession request with
      | error error =>
          simp only [SessionCall.addedUsage, endSession_error ended, Provider.call, ended,
            List.append_nil]
          exact accounts
      | ok result =>
          obtain ⟨response, ended_after⟩ := result
          obtain ⟨ended_session, found, ⟨already, same⟩ | ⟨running, updates⟩⟩ :=
            endSession_ok ended
          · have not_running : ended_session.endedAt ≠ none := by
              intro none_eq
              rw [none_eq] at already
              cases already
            simp only [SessionCall.addedUsage, found, Provider.call, ended, same, not_running,
              and_false, if_false, List.append_nil]
            exact accounts
          · simp only [Provider.call, ended]
            have origin_eq := (Store.find?_eq_some found).2
            refine accounts.updates updates _ (fun sessionId other =>
              SessionCall.addedUsage_endSession_of_ne fun named =>
                other (by rw [Session.finish_id]; exact named.symm.trans origin_eq.symm)) ?_
            rw [Session.finish_id, origin_eq,
              SessionCall.addedUsage_endSession_running found running, Session.finish_usage running,
              sessionPricing_of_found formed found, accounts.stored _ _ found]
            cases request.finalUsage with
            | none => simp
            | some delta => exact Usage.add_ofDeltas _ delta

/-! ## Runs of session calls -/

theorem runCalls_wellFormed (formed : provider.WellFormed) (calls : List SessionCall) :
    (provider.runCalls calls).WellFormed ∧
      (provider.runCalls calls).config = provider.config := by
  induction calls generalizing provider with
  | nil => exact ⟨formed, rfl⟩
  | cons call rest induction =>
      obtain ⟨formed_after, config_after⟩ := induction (formed.step (.call call))
      exact ⟨formed_after, config_after.trans (step_config formed (.call call))⟩

/-- Along a run of session calls the accounts hold with the run's deltas appended; the invariant
carried by the induction is that the provider stays well formed. -/
theorem Accounts.runCalls (formed : provider.WellFormed) (accounts : provider.Accounts log)
    (calls : List SessionCall) :
    (provider.runCalls calls).Accounts fun sessionId =>
      log sessionId ++ usageLog sessionId provider calls := by
  induction calls generalizing provider log with
  | nil =>
      simp only [usageLog, List.append_nil]
      exact accounts
  | cons call rest induction =>
      have next := induction (formed.step (.call call)) (accounts.call formed call)
      simp only [List.append_assoc] at next
      exact next

/-- A report that is told to continue answers the totals of its session's log with its own delta
appended. -/
theorem Accounts.reportUsage_accumulated (formed : provider.WellFormed)
    (accounts : provider.Accounts log) {request : ReportUsageRequest}
    {response : ReportUsageResponse}
    (reported : provider.reportUsage request = .ok (response, after))
    (continues : response.shouldContinue = true) :
    response.accumulatedUsage =
      some (Usage.ofDeltas provider.config.pricing (log request.sessionId ++ [request.usage])) := by
  obtain ⟨stored, found, ⟨-, stop, -⟩ | ⟨-, -, accumulated, -⟩⟩ :=
    reportUsage_ok reported
  · rw [stop] at continues
    cases continues
  · rw [accumulated, sessionPricing_of_found formed found, accounts.stored _ _ found]
    exact congrArg some (Usage.add_ofDeltas _ request.usage)

/-! ## Ended sessions -/

/-- `after` is ended if `before` was. -/
def StaysEnded (before after : Session) : Prop :=
  before.state = .ended → after.state = .ended

theorem call_staysEnded (formed : provider.WellFormed) (call : SessionCall) {sessionId : String}
    (found_before : provider.store.find? sessionId = some held)
    (found_after : (provider.call call).store.find? sessionId = some held') :
    StaysEnded held held' := by
  refine call_relates (fun _ => id) ?_ ?_ ?_ formed call found_before found_after
  · intro stored signed now updated written
    have active := (Session.compareAndSetRav_ok written).1
    refine ⟨fun ended => ?_, fun ended => ?_⟩ <;> (rw [active] at ended; cases ended)
  · intro stored usage now active ended
    rw [active] at ended
    cases ended
  · intro stored reason finalUsage finalCost now running _
    exact Session.finish_state running

/-- No change a session call makes removes a session. -/
theorem Changes.keeps_found (changes : provider.Changes after)
    {sessionId : String} (found : provider.store.find? sessionId = some held) :
    ∃ held', after.store.find? sessionId = some held' := by
  cases changes with
  | unchanged => exact ⟨held, found⟩
  | opens opens _ => exact ⟨held, opens.find?_old found⟩
  | updates updates _ _ =>
      rw [updates.find?]
      split
      · exact ⟨_, rfl⟩
      · exact ⟨held, found⟩

/-- An ended session stays stored and ended over every run of session calls. -/
theorem runCalls_keeps_ended (formed : provider.WellFormed) (calls : List SessionCall)
    {sessionId : String} (found : provider.store.find? sessionId = some held)
    (ended : held.state = .ended) :
    ∃ session, (provider.runCalls calls).store.find? sessionId = some session ∧
      session.state = .ended := by
  induction calls generalizing provider held with
  | nil => exact ⟨held, found, ended⟩
  | cons call rest induction =>
      obtain ⟨held', found_after⟩ :=
        (call_changes formed call).keeps_found found
      exact induction (formed.step (.call call)) found_after
        (call_staysEnded formed call found found_after ended)

/-- Ending a stored session leaves it stored and ended, whether or not it had ended before. -/
theorem endSession_ends (formed : provider.WellFormed) {request : EndSessionRequest}
    (stored : (provider.store.find? request.sessionId).isSome) :
    ∃ session,
      (provider.call (.endSession request)).store.find? request.sessionId = some session ∧
      session.state = .ended := by
  cases ended : provider.endSession request with
  | error error =>
      rw [endSession_error ended] at stored
      cases stored
  | ok result =>
      obtain ⟨response, after⟩ := result
      obtain ⟨held, found, ⟨already, same⟩ | ⟨running, updates⟩⟩ := endSession_ok ended
      · simp only [Provider.call, ended, same]
        exact ⟨held, found, (formed.found found).2 already⟩
      · simp only [Provider.call, ended]
        have origin_eq := (Store.find?_eq_some found).2
        have replaced := updates.find? request.sessionId
        rw [if_pos (by rw [Session.finish_id, origin_eq])] at replaced
        exact ⟨_, replaced, Session.finish_state running⟩

/-- A report on a stored session that is not active is told to stop and changes nothing. -/
theorem reportUsage_inactive {request : ReportUsageRequest}
    (found : provider.store.find? request.sessionId = some stored)
    (inactive : stored.state ≠ .active) :
    ∃ response, provider.reportUsage request = .ok (response, provider) ∧
      response.shouldContinue = false := by
  unfold reportUsage Store.get
  simp only [found, Session.addUsage, if_neg inactive, Store.now, Clock.read, bind, Except.bind,
    pure, Except.pure]
  exact ⟨_, rfl, rfl⟩

/-- Once a call has ended a stored session, every report on it for the rest of the run is told to
stop and changes nothing. -/
theorem reports_stop_after_end (formed : provider.WellFormed) (before later : List SessionCall)
    {request : EndSessionRequest}
    (stored : ((provider.runCalls before).store.find? request.sessionId).isSome)
    (usage : UsageDelta) :
    ∃ response,
      (provider.runCalls (before ++ .endSession request :: later)).reportUsage
          ⟨request.sessionId, usage⟩ =
        .ok (response, provider.runCalls (before ++ .endSession request :: later)) ∧
      response.shouldContinue = false := by
  obtain ⟨formed_before, -⟩ := runCalls_wellFormed formed before
  obtain ⟨ended_session, found_ended, ended⟩ := endSession_ends formed_before stored
  obtain ⟨final, found_final, final_ended⟩ :=
    runCalls_keeps_ended (formed_before.step (.call (.endSession request))) later found_ended
      ended
  rw [runCalls_append]
  exact reportUsage_inactive found_final (by rw [final_ended]; decide)

/-! ## Accounting over a run -/

/-- Over every run of session calls, each session's usage totals its acknowledged deltas. -/
theorem usage_totals_accepted_deltas (config : ProviderConfig) (signers : Allowlist)
    (ids : IdSource) (calls : List SessionCall) :
    (∀ sessionId session,
      ((Provider.new config signers ids).runCalls calls).store.find? sessionId = some session →
      let deltas := usageLog sessionId (Provider.new config signers ids) calls
      session.usage = Usage.ofDeltas config.pricing deltas ∧
        ((deltas.map (·.blocksProcessed)).sum ≤ countMax →
          (deltas.map (·.bytesTransferred)).sum ≤ countMax →
          session.usage.cost = config.pricing.usageCost (deltas.map (·.blocksProcessed)).sum
            (deltas.map (·.bytesTransferred)).sum)) ∧
    (∀ request response after,
      ((Provider.new config signers ids).runCalls calls).reportUsage request =
        .ok (response, after) →
      response.shouldContinue = true →
      response.accumulatedUsage = some (Usage.ofDeltas config.pricing
        (usageLog request.sessionId (Provider.new config signers ids)
          (calls ++ [.reportUsage request])))) ∧
    (∀ before endRequest later usage, calls = before ++ .endSession endRequest :: later →
      (((Provider.new config signers ids).runCalls before).store.find?
        endRequest.sessionId).isSome →
      ∃ response, ((Provider.new config signers ids).runCalls calls).reportUsage
          ⟨endRequest.sessionId, usage⟩ =
            .ok (response, (Provider.new config signers ids).runCalls calls) ∧
        response.shouldContinue = false) := by
  have formed := wellFormed_new config signers ids
  obtain ⟨formed_run, config_run⟩ := runCalls_wellFormed formed calls
  have accounts := (accounts_new config signers ids).runCalls formed calls
  simp only [List.nil_append] at accounts
  refine ⟨?_, ?_, ?_⟩
  · intro sessionId session found deltas
    have totals := accounts.stored sessionId session found
    rw [config_run] at totals
    refine ⟨totals, fun blocks_le bytes_le => ?_⟩
    rw [totals]
    exact Usage.ofDeltas_cost deltas blocks_le bytes_le
  · intro request response after reported continues
    rw [accounts.reportUsage_accumulated formed_run reported continues, config_run,
      usageLog_append, SessionCall.addedUsage_reportUsage_continued reported continues]
    rfl
  · intro before endRequest later usage split stored
    rw [split]
    exact reports_stop_after_end formed before later stored usage

end Provider

end MeteredPayments
