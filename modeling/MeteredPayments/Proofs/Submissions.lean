import MeteredPayments.Proofs.Vouchers

/-!
# The order of submissions does not matter

Checked vouchers submitted to an active session in any order are each accepted when they beat the
ones before, and leave the highest value, held by the last voucher of that value
(`submission_order_keeps_final_value`).
-/

namespace MeteredPayments

/-- The highest of `start` and the values of `vouchers`. -/
def highestValue (start : Nat) (vouchers : List SignedVoucher) : Nat :=
  (vouchers.map (·.message.valueAggregate)).foldl max start

/-- The steps that submit `vouchers` for the session `sessionId`, one after another. -/
def submissions (sessionId : String) (vouchers : List SignedVoucher) : List Operation :=
  vouchers.map fun signed => .call (.submitRav ⟨sessionId, some signed⟩)

theorem highestValue_append_singleton (start : Nat) (vouchers : List SignedVoucher)
    (signed : SignedVoucher) :
    highestValue start (vouchers ++ [signed]) =
      max (highestValue start vouchers) signed.message.valueAggregate := by
  simp [highestValue, List.foldl_append]

theorem highestValue_perm (start : Nat) {vouchers reordered : List SignedVoucher}
    (perm : reordered.Perm vouchers) :
    highestValue start reordered = highestValue start vouchers :=
  (perm.map _).foldl_eq start

namespace Provider

variable {provider : Provider} {sessionId : String} {session held : Session}
  {signed : SignedVoucher}

/-- A submission for an active session of a voucher that passes its checks is accepted exactly
when the voucher is worth at least the stored one; then it stores the voucher at the next clock
reading, and otherwise it changes nothing. -/
theorem submitRav_checked (found : provider.store.find? sessionId = some held)
    (active : held.state = .active) (checked : provider.checkRav signed held.payer = .ok ())
    (receiver_eq : signed.message.serviceProvider = held.receiver) :
    (provider.submitRav ⟨sessionId, some signed⟩).1.accepted =
        decide (held.ravValue ≤ signed.message.valueAggregate) ∧
      (provider.submitRav ⟨sessionId, some signed⟩).2 =
        if held.ravValue ≤ signed.message.valueAggregate then
          { provider with
            store := provider.store.now.2.put (held.setRav signed provider.store.clock.next) }
        else provider := by
  have is_active : held.isActive = true := by simp [Session.isActive, active]
  cases written : held.compareAndSetRav signed provider.store.clock.next with
  | ok updated =>
      obtain ⟨-, not_lower, rfl⟩ := Session.compareAndSetRav_ok written
      simp [submitRav, found, is_active, checked, receiver_eq, written, not_lower, Store.now,
        Clock.read, SubmitRavResponse.stored]
  | error error =>
      have lower : signed.message.valueAggregate < held.ravValue :=
        (Session.compareAndSetRav_error written).resolve_left fun inactive => inactive active
      simp [submitRav, found, is_active, checked, receiver_eq, written, Nat.not_le.mpr lower,
        Store.now, Clock.read, SubmitRavResponse.rejected]

end Provider

/-- What submitting `vouchers` to `session`, one after another, leaves as `held`: the same state
and parties, the highest value, held in the last voucher of that value, or else the voucher held
before. -/
structure Submitted (session : Session) (vouchers : List SignedVoucher) (held : Session) :
    Prop where
  state_eq : held.state = session.state
  payer_eq : held.payer = session.payer
  receiver_eq : held.receiver = session.receiver
  ravValue_eq : held.ravValue = highestValue session.ravValue vouchers
  currentRav_eq : held.currentRav =
    (vouchers.reverse.find? fun signed =>
      signed.message.valueAggregate = highestValue session.ravValue vouchers).or
      session.currentRav

namespace Submitted

variable {session held : Session} {vouchers : List SignedVoucher}

theorem nil (session : Session) : Submitted session [] session :=
  ⟨rfl, rfl, rfl, rfl, by simp⟩

/-- One more submission, compared with the stored value, keeps the description with the voucher
appended. -/
theorem submit (submitted : Submitted session vouchers held) (signed : SignedVoucher) (now : Nat) :
    Submitted session (vouchers ++ [signed])
      (if held.ravValue ≤ signed.message.valueAggregate then held.setRav signed now else held) := by
  have highest := highestValue_append_singleton session.ravValue vouchers signed
  rw [← submitted.ravValue_eq] at highest
  by_cases higher : held.ravValue ≤ signed.message.valueAggregate
  · -- the new voucher is the highest and the last of its value
    rw [if_pos higher]
    rw [max_eq_right higher] at highest
    refine ⟨submitted.state_eq, submitted.payer_eq, submitted.receiver_eq, ?_, ?_⟩
    · rw [highest]
      rfl
    · simp [highest]
  · -- the highest value stays, and the new voucher is not of that value
    rw [if_neg higher]
    rw [max_eq_left (by omega)] at highest
    refine ⟨submitted.state_eq, submitted.payer_eq, submitted.receiver_eq, ?_, ?_⟩
    · rw [submitted.ravValue_eq] at highest ⊢
      exact highest.symm
    · have other : signed.message.valueAggregate ≠ highestValue session.ravValue vouchers := by
        rw [← submitted.ravValue_eq]
        omega
      rw [submitted.currentRav_eq, highest, submitted.ravValue_eq]
      simp [other]

end Submitted

namespace Provider

variable {provider : Provider} {sessionId : String} {session : Session}

/-- Submitting vouchers that pass the checks for an active session, one after another, leaves the
session stored as `Submitted` says and leaves the voucher check as it was. The induction runs from
the end of the sequence, where the last submission is compared with what the others left. -/
theorem run_submissions (found : provider.store.find? sessionId = some session)
    (active : session.state = .active) (vouchers : List SignedVoucher)
    (checked : ∀ signed ∈ vouchers, provider.checkRav signed session.payer = .ok () ∧
      signed.message.serviceProvider = session.receiver) :
    ∃ held, (provider.run (submissions sessionId vouchers)).store.find? sessionId = some held ∧
      Submitted session vouchers held ∧
      (provider.run (submissions sessionId vouchers)).checkRav = provider.checkRav := by
  induction vouchers using List.reverseRecOn with
  | nil => exact ⟨session, found, Submitted.nil session, rfl⟩
  | append_singleton earlier signed induction =>
      obtain ⟨held, found_held, submitted, same_check⟩ :=
        induction fun other member => checked other (List.mem_append_left _ member)
      obtain ⟨signed_checked, signed_receiver⟩ := checked signed (by simp)
      have run_eq : provider.run (submissions sessionId (earlier ++ [signed])) =
          ((provider.run (submissions sessionId earlier)).submitRav
            ⟨sessionId, some signed⟩).2 := by
        simp [submissions, Provider.run, List.foldl_append, Provider.step, Provider.call]
      have held_checked :
          (provider.run (submissions sessionId earlier)).checkRav signed held.payer = .ok () := by
        rw [same_check, submitted.payer_eq]
        exact signed_checked
      obtain ⟨-, after_eq⟩ := submitRav_checked found_held
        (submitted.state_eq.trans active) held_checked
        (signed_receiver.trans submitted.receiver_eq.symm)
      have held_id := (Store.find?_eq_some found_held).2
      refine ⟨_, ?_, submitted.submit signed
        (provider.run (submissions sessionId earlier)).store.clock.next, ?_⟩
      · rw [run_eq, after_eq]
        by_cases higher : held.ravValue ≤ signed.message.valueAggregate
        · rw [if_pos higher, if_pos higher, ← held_id]
          refine Store.find?_put_self ?_
          rw [Store.find?_now, Session.setRav_id, held_id, found_held]
          rfl
        · rw [if_neg higher, if_neg higher]
          exact found_held
      · rw [run_eq, after_eq]
        split <;> exact same_check

/-- Checked vouchers submitted in any order leave the same highest value. -/
theorem submission_order_keeps_final_value (found : provider.store.find? sessionId = some session)
    (active : session.state = .active) (vouchers : List SignedVoucher)
    (checked : ∀ signed ∈ vouchers, provider.checkRav signed session.payer = .ok () ∧
      signed.message.serviceProvider = session.receiver) :
    (∀ index (lt : index < vouchers.length),
      ((provider.run (submissions sessionId (vouchers.take index))).submitRav
          ⟨sessionId, some vouchers[index]⟩).1.accepted = true ↔
        highestValue session.ravValue (vouchers.take index) ≤
          vouchers[index].message.valueAggregate) ∧
    ∀ reordered, reordered.Perm vouchers →
      ∃ final, (provider.run (submissions sessionId reordered)).store.find? sessionId = some final ∧
        final.ravValue = highestValue session.ravValue vouchers ∧
        final.currentRav =
          (reordered.reverse.find? fun signed =>
            signed.message.valueAggregate = highestValue session.ravValue vouchers).or
            session.currentRav := by
  refine ⟨fun index lt => ?_, fun reordered perm => ?_⟩
  · obtain ⟨held, found_held, submitted, same_check⟩ :=
      run_submissions found active (vouchers.take index)
        fun signed member => checked signed (List.mem_of_mem_take member)
    obtain ⟨signed_checked, signed_receiver⟩ := checked vouchers[index] (List.getElem_mem lt)
    have held_checked : (provider.run (submissions sessionId (vouchers.take index))).checkRav
        vouchers[index] held.payer = .ok () := by
      rw [same_check, submitted.payer_eq]
      exact signed_checked
    have accepted := (submitRav_checked found_held (submitted.state_eq.trans active) held_checked
      (signed_receiver.trans submitted.receiver_eq.symm)).1
    rw [accepted, submitted.ravValue_eq, decide_eq_true_iff]
  · obtain ⟨held, found_held, submitted, -⟩ :=
      run_submissions found active reordered
        fun signed member => checked signed (perm.mem_iff.mp member)
    have same_highest := highestValue_perm session.ravValue perm
    refine ⟨held, found_held, ?_, ?_⟩
    · rw [submitted.ravValue_eq, same_highest]
    · rw [submitted.currentRav_eq, same_highest]

/-- The vouchers worth 7, 5 and 9, each signed by the listed key, submitted in any order to the
session the signed sample opens, are each accepted when they beat the ones before, and leave the
session holding the one worth 9. -/
theorem signed_submissions_keep_the_highest :
    let opened := signedSample.step sampleOpening
    let vouchers := [voucherSeven, voucherFive, voucherNine]
    ∃ session, opened.store.find? (Store.sessionId 1) = some session ∧
      session.state = .active ∧
      (∀ signed ∈ vouchers, opened.checkRav signed session.payer = .ok () ∧
        signed.message.serviceProvider = session.receiver) ∧
      ((∀ index (lt : index < vouchers.length),
        ((opened.run (submissions (Store.sessionId 1) (vouchers.take index))).submitRav
            ⟨Store.sessionId 1, some vouchers[index]⟩).1.accepted = true ↔
          highestValue session.ravValue (vouchers.take index) ≤
            vouchers[index].message.valueAggregate) ∧
      ∀ reordered, reordered.Perm vouchers →
        ∃ final, (opened.run (submissions (Store.sessionId 1) reordered)).store.find?
            (Store.sessionId 1) = some final ∧
          final.ravValue = highestValue session.ravValue vouchers ∧
          final.currentRav =
            (reordered.reverse.find? fun signed =>
              signed.message.valueAggregate = highestValue session.ravValue vouchers).or
              session.currentRav) := by
  intro opened vouchers
  -- each voucher recovers to the listed key, bound to payer 1, and pays the sample provider
  have checked : ∀ signed ∈ vouchers, opened.checkRav signed (Address.ofNat 1) = .ok () ∧
      signed.message.serviceProvider = Address.ofNat 3 := by
    intro signed member
    simp only [vouchers, List.mem_cons, List.not_mem_nil, or_false] at member
    rcases member with rfl | rfl | rfl
    · exact ⟨checkRav_of_isOk (by decide +kernel), rfl⟩
    · exact ⟨checkRav_of_isOk (by decide +kernel), rfl⟩
    · exact ⟨checkRav_of_isOk (by decide +kernel), rfl⟩
  exact ⟨_, rfl, rfl, checked, submission_order_keeps_final_value rfl rfl vouchers checked⟩

end Provider

end MeteredPayments
