import MeteredPayments.Proofs.Refusal
import MeteredPayments.Proofs.Vouchers

/-!
# Each call touches one session

A session call writes the session its request names and no other, or opens one under an id no
stored session has (`calls_touch_one_session`).
-/

namespace MeteredPayments

namespace Provider

variable {provider after : Provider} {session held : Session} {sessionId : String}

/-! ## The two shapes of change -/

theorem Updates.ids (updates : provider.Updates after session) :
    after.store.sessions.map (·.id) = provider.store.sessions.map (·.id) := by
  rw [updates.sessions_eq, Store.put_ids]

theorem Opens.ids (opens : provider.Opens after session) :
    after.store.sessions.map (·.id) = provider.store.sessions.map (·.id) ++ [session.id] := by
  rw [opens.sessions_eq, List.map_append, List.map_singleton]

/-! ## The ids in the store -/

/-- The ids a session call leaves in the store: the same ids in the same order, or one more at the
end that no stored session had. -/
theorem call_ids (formed : provider.WellFormed) (call : SessionCall) :
    (provider.call call).store.sessions.map (·.id) = provider.store.sessions.map (·.id) ∨
      ∃ fresh, fresh ∉ provider.store.sessions.map (·.id) ∧
        (provider.call call).store.sessions.map (·.id) =
          provider.store.sessions.map (·.id) ++ [fresh] := by
  have effect := call_effect formed call
  generalize provider.call call = after at effect ⊢
  cases effect with
  | unchanged => exact .inl rfl
  | opens opens _ _ => exact .inr ⟨_, opens.id_fresh, opens.ids⟩
  | writesRav _ _ _ updates =>
      rcases updates with updates | updates
      · exact .inl updates.ids
      · exact .inl updates.ids
  | reports _ _ updates => exact .inl updates.ids
  | ends _ _ updates => exact .inl updates.ids

/-! ## Calls on one named session -/

/-- A usage report writes only the session it names. -/
theorem reportUsage_frame {request : ReportUsageRequest} (other : sessionId ≠ request.sessionId) :
    (provider.call (.reportUsage request)).store.find? sessionId =
      provider.store.find? sessionId := by
  cases reported : provider.reportUsage request with
  | error error => rw [call_reportUsage_of_error reported]
  | ok result =>
      obtain ⟨response, after⟩ := result
      simp only [Provider.call, reported]
      obtain ⟨stored, found, ⟨-, -, rfl⟩ | ⟨-, -, -, updates⟩⟩ :=
        reportUsage_ok reported
      · rfl
      · refine updates.find?_of_ne ?_
        show sessionId ≠ stored.id
        rw [(Store.find?_eq_some found).2]
        exact other

/-- A submission writes only the session it names. -/
theorem submitRav_frame {request : SubmitRavRequest} (other : sessionId ≠ request.sessionId) :
    (provider.call (.submitRav request)).store.find? sessionId =
      provider.store.find? sessionId := by
  cases accepted : (provider.submitRav request).1.accepted
  · rw [Provider.call, submitRav_rejected accepted]
  · obtain ⟨stored, signed, found, -, -, -, -, updated, written, updates⟩ :=
      submitRav_accepted accepted
    obtain ⟨-, -, rfl⟩ := Session.compareAndSetRav_ok written
    refine updates.find?_of_ne ?_
    rw [Session.setRav_id, (Store.find?_eq_some found).2]
    exact other

/-- An end writes only the session it names. -/
theorem endSession_frame {request : EndSessionRequest} (other : sessionId ≠ request.sessionId) :
    (provider.call (.endSession request)).store.find? sessionId =
      provider.store.find? sessionId := by
  cases ended : provider.endSession request with
  | error error => rw [call_endSession_of_error ended]
  | ok result =>
      obtain ⟨response, after⟩ := result
      simp only [Provider.call, ended]
      obtain ⟨stored, found, ⟨-, rfl⟩ | ⟨-, updates⟩⟩ := endSession_ok ended
      · rfl
      · refine updates.find?_of_ne ?_
        rw [Session.finish_id, (Store.find?_eq_some found).2]
        exact other

/-- A payment changes no stored session other than the one it names: it either writes the session
it names or opens a new one. -/
theorem validatePayment_frame
    {lookup : EscrowAccount → EscrowBalance} {request : ValidatePaymentRequest}
    (other : request.sessionId ≠ some sessionId)
    (found : provider.store.find? sessionId = some held) :
    (provider.call (.validatePayment lookup request)).store.find? sessionId = some held := by
  cases valid : (provider.validatePayment lookup request).1.valid
  · rw [Provider.call, validatePayment_rejected valid, found]
  · obtain ⟨signed, -, -, resumed | created⟩ := validatePayment_valid valid
    · obtain ⟨stored, updated, resuming, -, written, updates⟩ := resumed
      obtain ⟨named, named_eq, named_found⟩ := Option.bind_eq_some_iff.mp resuming
      obtain ⟨-, -, rfl⟩ := Session.compareAndSetRav_ok written
      -- the written session is the named one, so not the one asked about
      have different : sessionId ≠ stored.id := by
        rw [(Store.find?_eq_some named_found).2]
        rintro rfl
        exact other named_eq
      rw [Provider.call, updates.find?_of_ne different, found]
    · obtain ⟨-, opened, -, opens⟩ := created
      exact opens.find?_old found

/-- An opening changes no stored session. -/
theorem startSession_frame {request : StartSessionRequest}
    (found : provider.store.find? sessionId = some held) :
    (provider.call (.startSession request)).store.find? sessionId = some held := by
  cases accepted : (provider.startSession request).1.accepted
  · rw [Provider.call, startSession_rejected accepted, found]
  · obtain ⟨-, -, opened, -, -, opens⟩ := startSession_accepted accepted
    exact opens.find?_old found

/-! ## The law -/

/-- Over every run, each session call touches one session and at most appends a fresh id. -/
theorem calls_touch_one_session (reachable : provider.Reachable) :
    (∀ request sessionId, sessionId ≠ request.sessionId →
      (provider.call (.reportUsage request)).store.find? sessionId =
        provider.store.find? sessionId) ∧
    (∀ request sessionId, sessionId ≠ request.sessionId →
      (provider.call (.submitRav request)).store.find? sessionId =
        provider.store.find? sessionId) ∧
    (∀ lookup request, provider.call (.sessionStatus lookup request) = provider) ∧
    (∀ request sessionId, sessionId ≠ request.sessionId →
      (provider.call (.endSession request)).store.find? sessionId =
        provider.store.find? sessionId) ∧
    (∀ lookup request sessionId session, request.sessionId ≠ some sessionId →
      provider.store.find? sessionId = some session →
      (provider.call (.validatePayment lookup request)).store.find? sessionId = some session) ∧
    (∀ request sessionId session, provider.store.find? sessionId = some session →
      (provider.call (.startSession request)).store.find? sessionId = some session) ∧
    (∀ call,
      (provider.call call).store.sessions.map (·.id) = provider.store.sessions.map (·.id) ∨
      ∃ fresh, fresh ∉ provider.store.sessions.map (·.id) ∧
        (provider.call call).store.sessions.map (·.id) =
          provider.store.sessions.map (·.id) ++ [fresh]) := by
  have formed := reachable.wellFormed
  exact ⟨fun _ _ other => reportUsage_frame other, fun _ _ other => submitRav_frame other,
    fun _ _ => rfl, fun _ _ other => endSession_frame other,
    fun _ _ _ _ other found => validatePayment_frame other found,
    fun _ _ _ found => startSession_frame found,
    call_ids formed⟩

/-- The sample provider after its first opening touches one session per call. -/
theorem opened_provider_touches_one_session :
    (sample.step sampleOpening).Reachable ∧
    ((∀ request sessionId, sessionId ≠ request.sessionId →
      ((sample.step sampleOpening).call (.reportUsage request)).store.find? sessionId =
        (sample.step sampleOpening).store.find? sessionId) ∧
    (∀ request sessionId, sessionId ≠ request.sessionId →
      ((sample.step sampleOpening).call (.submitRav request)).store.find? sessionId =
        (sample.step sampleOpening).store.find? sessionId) ∧
    (∀ lookup request,
      (sample.step sampleOpening).call (.sessionStatus lookup request) =
        sample.step sampleOpening) ∧
    (∀ request sessionId, sessionId ≠ request.sessionId →
      ((sample.step sampleOpening).call (.endSession request)).store.find? sessionId =
        (sample.step sampleOpening).store.find? sessionId) ∧
    (∀ lookup request sessionId session, request.sessionId ≠ some sessionId →
      (sample.step sampleOpening).store.find? sessionId = some session →
      ((sample.step sampleOpening).call (.validatePayment lookup request)).store.find? sessionId =
        some session) ∧
    (∀ request sessionId session,
      (sample.step sampleOpening).store.find? sessionId = some session →
      ((sample.step sampleOpening).call (.startSession request)).store.find? sessionId =
        some session) ∧
    (∀ call, ((sample.step sampleOpening).call call).store.sessions.map (·.id) =
        (sample.step sampleOpening).store.sessions.map (·.id) ∨
      ∃ fresh, fresh ∉ (sample.step sampleOpening).store.sessions.map (·.id) ∧
        ((sample.step sampleOpening).call call).store.sessions.map (·.id) =
          (sample.step sampleOpening).store.sessions.map (·.id) ++ [fresh])) :=
  have reachable := (Reachable.new _ _ _).step sampleOpening
  ⟨reachable, calls_touch_one_session reachable⟩

end Provider

end MeteredPayments
