import MeteredPayments.Proofs.Outage
import MeteredPayments.Proofs.Usage

/-!
# The funding picture of a session

A status question reports cost, coverage, the escrow balance and how many more blocks the balance
pays for, the largest number that fits (`status_reports_funding`).
-/

namespace MeteredPayments

/-- When the balance covers what is owed, a number of blocks fits after it exactly when it is at
most the quotient of what remains by the block price. -/
theorem blocks_fit_iff {owed balance price : Nat} (positive : 0 < price) (covered : owed ≤ balance)
    (blocks : Nat) :
    owed + blocks * price ≤ balance ↔ blocks ≤ (balance - owed) / price := by
  rw [Nat.le_div_iff_mul_le positive]
  omega

/-- When the balance falls short of what is owed, nothing remains to divide. -/
theorem remaining_of_short {owed balance : Nat} (short : balance < owed) (price : Nat) :
    (balance - owed) / price = 0 := by
  rw [Nat.sub_eq_zero_of_le (Nat.le_of_lt short), Nat.zero_div]

namespace Provider

variable {provider : Provider}

/-- A status question changes nothing and reports the funding of a stored session. -/
theorem status_reports_funding (reachable : provider.Reachable)
    (lookup : EscrowAccount → EscrowBalance) (request : SessionStatusRequest) :
    provider.call (.sessionStatus lookup request) = provider ∧
    (provider.store.find? request.sessionId = none →
      provider.sessionStatus lookup request = .unknown) ∧
    ∀ session, provider.store.find? request.sessionId = some session →
      (provider.sessionStatus lookup request).active = session.isActive ∧
      (provider.sessionStatus lookup request).session = some session ∧
      (provider.sessionStatus lookup request).accumulatedUsageValue = session.usage.cost ∧
      (provider.sessionStatus lookup request).currentRavValue =
        (session.currentRav.map (·.message.valueAggregate)).getD 0 ∧
      ((provider.sessionStatus lookup request).uncommittedUsage : Int) =
        max 0 ((provider.sessionStatus lookup request).accumulatedUsageValue -
          ((provider.sessionStatus lookup request).currentRavValue : Int)) ∧
      (∀ amount, lookup (provider.escrowAccount session) = .known amount →
        (provider.sessionStatus lookup request).escrowBalance = amount) ∧
      (lookup (provider.escrowAccount session) = .unknown →
        (provider.sessionStatus lookup request).escrowBalance = 0) ∧
      ((provider.sessionStatus lookup request).fundsSufficient = true ↔
        (provider.sessionStatus lookup request).uncommittedUsage ≤
          (provider.sessionStatus lookup request).escrowBalance) ∧
      (provider.config.pricing.perBlock.wei = 0 →
        (provider.sessionStatus lookup request).estimatedBlocksRemaining = 0) ∧
      (0 < provider.config.pricing.perBlock.wei →
        (provider.sessionStatus lookup request).uncommittedUsage ≤
          (provider.sessionStatus lookup request).escrowBalance →
        ∀ blocks, (provider.sessionStatus lookup request).uncommittedUsage +
            blocks * provider.config.pricing.perBlock.wei ≤
              (provider.sessionStatus lookup request).escrowBalance ↔
          blocks ≤ (provider.sessionStatus lookup request).estimatedBlocksRemaining) ∧
      ((provider.sessionStatus lookup request).escrowBalance <
          (provider.sessionStatus lookup request).uncommittedUsage →
        (provider.sessionStatus lookup request).estimatedBlocksRemaining = 0) := by
  refine ⟨rfl, sessionStatus_of_missing, ?_⟩
  intro session found
  -- every stored session is priced by the provider, so the block price is the provider's
  have priced := sessionPricing_of_found reachable.wellFormed found
  have value_eq : session.ravValue = (session.currentRav.map (·.message.valueAggregate)).getD 0 := by
    unfold Session.ravValue
    cases session.currentRav <;> rfl
  rw [sessionStatus_of_found found]
  refine ⟨rfl, rfl, rfl, value_eq, ?_, fun amount known => ?_, fun unknown => ?_, ?_, fun free => ?_,
    fun positive covered => ?_, fun short => ?_⟩
  · simp only [statusOf]
    omega
  · simp [statusOf, known, EscrowBalance.orZero, EscrowBalance.known?]
  · simp [statusOf, unknown, EscrowBalance.orZero, EscrowBalance.known?]
  · simp only [statusOf, decide_eq_true_eq]
  · simp only [statusOf, priced, free, if_true]
  · simp only [statusOf, priced, Nat.pos_iff_ne_zero.mp positive, if_false] at covered ⊢
    exact blocks_fit_iff positive covered
  · simp only [statusOf] at short ⊢
    split
    · rfl
    · exact remaining_of_short short _

/-- The funding laws hold for the sample provider after its first opening. -/
theorem opened_provider_reports_funding :
    sampleOpened.Reachable ∧
    ∀ lookup request,
      sampleOpened.call (.sessionStatus lookup request) = sampleOpened ∧
      (sampleOpened.store.find? request.sessionId = none →
        sampleOpened.sessionStatus lookup request = .unknown) ∧
      ∀ session, sampleOpened.store.find? request.sessionId = some session →
        (sampleOpened.sessionStatus lookup request).active = session.isActive ∧
        (sampleOpened.sessionStatus lookup request).session = some session ∧
        (sampleOpened.sessionStatus lookup request).accumulatedUsageValue = session.usage.cost ∧
        (sampleOpened.sessionStatus lookup request).currentRavValue =
          (session.currentRav.map (·.message.valueAggregate)).getD 0 ∧
        ((sampleOpened.sessionStatus lookup request).uncommittedUsage : Int) =
          max 0 ((sampleOpened.sessionStatus lookup request).accumulatedUsageValue -
            ((sampleOpened.sessionStatus lookup request).currentRavValue : Int)) ∧
        (∀ amount, lookup (sampleOpened.escrowAccount session) = .known amount →
          (sampleOpened.sessionStatus lookup request).escrowBalance = amount) ∧
        (lookup (sampleOpened.escrowAccount session) = .unknown →
          (sampleOpened.sessionStatus lookup request).escrowBalance = 0) ∧
        ((sampleOpened.sessionStatus lookup request).fundsSufficient = true ↔
          (sampleOpened.sessionStatus lookup request).uncommittedUsage ≤
            (sampleOpened.sessionStatus lookup request).escrowBalance) ∧
        (sampleOpened.config.pricing.perBlock.wei = 0 →
          (sampleOpened.sessionStatus lookup request).estimatedBlocksRemaining = 0) ∧
        (0 < sampleOpened.config.pricing.perBlock.wei →
          (sampleOpened.sessionStatus lookup request).uncommittedUsage ≤
            (sampleOpened.sessionStatus lookup request).escrowBalance →
          ∀ blocks, (sampleOpened.sessionStatus lookup request).uncommittedUsage +
              blocks * sampleOpened.config.pricing.perBlock.wei ≤
                (sampleOpened.sessionStatus lookup request).escrowBalance ↔
            blocks ≤ (sampleOpened.sessionStatus lookup request).estimatedBlocksRemaining) ∧
        ((sampleOpened.sessionStatus lookup request).escrowBalance <
            (sampleOpened.sessionStatus lookup request).uncommittedUsage →
          (sampleOpened.sessionStatus lookup request).estimatedBlocksRemaining = 0) :=
  have reachable : sampleOpened.Reachable := (Reachable.new _ _ _).step sampleOpening
  ⟨reachable, fun lookup request => status_reports_funding reachable lookup request⟩

end Provider

end MeteredPayments
