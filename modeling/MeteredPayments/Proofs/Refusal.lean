import MeteredPayments.Proofs.Run

/-!
# Refusals change nothing

An operation that refuses its request, in its response or by failing outright, leaves the
provider exactly as it was (`refusal_leaves_provider_unchanged`).
-/

namespace MeteredPayments

namespace Provider

theorem reportUsage_stop {provider after : Provider} {request : ReportUsageRequest}
    {response : ReportUsageResponse}
    (reported : provider.reportUsage request = .ok (response, after))
    (stop : response.shouldContinue = false) : after = provider := by
  obtain ⟨stored, -, ⟨-, -, rfl⟩ | ⟨-, continues, -⟩⟩ := reportUsage_ok reported
  · rfl
  · rw [stop] at continues
    cases continues

theorem call_reportUsage_of_error {provider : Provider} {request : ReportUsageRequest}
    {error : ServiceError} (failed : provider.reportUsage request = .error error) :
    provider.call (.reportUsage request) = provider := by
  simp only [call, failed]

theorem call_endSession_of_error {provider : Provider} {request : EndSessionRequest}
    {error : ServiceError} (failed : provider.endSession request = .error error) :
    provider.call (.endSession request) = provider := by
  simp only [call, failed]

/-- Every refusal, in a response or as an error, leaves the provider as it was. -/
theorem refusal_leaves_provider_unchanged (provider : Provider) :
    (∀ request, (provider.startSession request).1.accepted = false →
      (provider.startSession request).2 = provider) ∧
    (∀ lookup request, (provider.validatePayment lookup request).1.valid = false →
      (provider.validatePayment lookup request).2 = provider) ∧
    (∀ request, (provider.submitRav request).1.accepted = false →
      (provider.submitRav request).2 = provider) ∧
    (∀ request response after, provider.reportUsage request = .ok (response, after) →
      response.shouldContinue = false → after = provider) ∧
    (∀ request error, provider.reportUsage request = .error error →
      provider.store.find? request.sessionId = none ∧
        provider.call (.reportUsage request) = provider) ∧
    (∀ request error, provider.endSession request = .error error →
      provider.store.find? request.sessionId = none ∧
        provider.call (.endSession request) = provider) :=
  ⟨fun _ rejected => startSession_rejected rejected,
    fun _ _ rejected => validatePayment_rejected rejected,
    fun _ rejected => submitRav_rejected rejected,
    fun _ _ _ reported stop => reportUsage_stop reported stop,
    fun _ _ failed => ⟨reportUsage_error failed, call_reportUsage_of_error failed⟩,
    fun _ _ failed => ⟨endSession_error failed, call_endSession_of_error failed⟩⟩

end Provider

end MeteredPayments
