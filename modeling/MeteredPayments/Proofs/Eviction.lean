import MeteredPayments.Proofs.Store
import MeteredPayments.Session.Serials

/-!
# Evicting ended sessions

Eviction removes exactly the sessions that ended strictly before the cutoff and reports how many
(`eviction_removes_exactly_ended_before`).
-/

namespace MeteredPayments

/-- The session ended strictly before `cutoff`. -/
def Session.EndedBefore (cutoff : Int) (session : Session) : Prop :=
  ∃ time, session.endedAt = some time ∧ (time : Int) < cutoff

namespace Store

theorem endedBefore_eq_true_iff {cutoff : Int} {session : Session} :
    endedBefore cutoff session = true ↔ session.EndedBefore cutoff := by
  unfold endedBefore Session.EndedBefore
  cases session.endedAt <;> simp

instance (cutoff : Int) : DecidablePred (Session.EndedBefore cutoff) := fun session =>
  decidable_of_iff (endedBefore cutoff session = true) endedBefore_eq_true_iff

theorem decide_endedBefore (cutoff : Int) :
    (fun session => decide (Session.EndedBefore cutoff session)) = endedBefore cutoff :=
  funext fun _ => by rw [Bool.eq_iff_iff, decide_eq_true_iff, endedBefore_eq_true_iff]

/-- With distinct ids, looking up the id of a stored session finds that session. -/
theorem find?_of_mem {store : Store} (distinct : (store.sessions.map (·.id)).Nodup)
    {session : Session} (member : session ∈ store.sessions) :
    store.find? session.id = some session := by
  obtain ⟨found, found_eq⟩ : ∃ found, store.find? session.id = some found :=
    Option.isSome_iff_exists.mp (List.find?_isSome.mpr ⟨session, member, by simp⟩)
  obtain ⟨found_mem, found_id⟩ := find?_eq_some found_eq
  rw [found_eq, List.inj_on_of_nodup_map distinct found_mem member found_id]

theorem deleteEndedBefore_sessions (store : Store) (cutoff : Int) :
    (store.deleteEndedBefore cutoff).2.sessions =
      store.sessions.filter fun session => !endedBefore cutoff session :=
  rfl

theorem deleteEndedBefore_fst (store : Store) (cutoff : Int) :
    (store.deleteEndedBefore cutoff).1 = store.count - (store.deleteEndedBefore cutoff).2.count :=
  rfl

theorem mem_deleteEndedBefore_iff {store : Store} {cutoff : Int} {session : Session} :
    session ∈ (store.deleteEndedBefore cutoff).2.sessions ↔
      session ∈ store.sessions ∧ ¬ session.EndedBefore cutoff := by
  rw [deleteEndedBefore_sessions, List.mem_filter, Bool.not_eq_true', ← Bool.not_eq_true,
    endedBefore_eq_true_iff]

/-- After eviction, the id of a stored session finds it again, unless it ended before the
cutoff. -/
theorem get_deleteEndedBefore {store : Store} (distinct : (store.sessions.map (·.id)).Nodup)
    (cutoff : Int) {session : Session} (member : session ∈ store.sessions) :
    (store.deleteEndedBefore cutoff).2.get session.id =
      if session.EndedBefore cutoff then .error (.sessionNotFound session.id) else .ok session := by
  have found : (store.deleteEndedBefore cutoff).2.find? session.id =
      (some session).filter fun session => !endedBefore cutoff session := by
    rw [← find?_of_mem distinct member]
    exact find?_filter_of_nodup distinct _ session.id
  by_cases ended : session.EndedBefore cutoff
  · have evicted : (!endedBefore cutoff session) = false := by
      simpa using endedBefore_eq_true_iff.mpr ended
    rw [if_pos ended, get, found, Option.filter_some, if_neg (by simp [evicted])]
  · have kept : (!endedBefore cutoff session) = true := by
      simpa using mt endedBefore_eq_true_iff.mp ended
    rw [if_neg ended, get, found, Option.filter_some, if_pos kept]

/-- The stored sessions are those that ended before the cutoff and those eviction keeps. -/
theorem countP_add_count_deleteEndedBefore (store : Store) (cutoff : Int) :
    store.sessions.countP (fun session => session.EndedBefore cutoff) +
      (store.deleteEndedBefore cutoff).2.count = store.count := by
  rw [decide_endedBefore, count, count, deleteEndedBefore_sessions,
    ← List.countP_eq_length_filter, List.length_eq_countP_add_countP (endedBefore cutoff)]
  simp

theorem eviction_removes_exactly_ended_before (store : Store) (cutoff : Int)
    (distinct : (store.sessions.map (·.id)).Nodup) :
    let removed := (store.deleteEndedBefore cutoff).1
    let kept := (store.deleteEndedBefore cutoff).2
    (∀ session, session ∈ kept.sessions ↔
        session ∈ store.sessions ∧ ¬ session.EndedBefore cutoff) ∧
      (∀ session ∈ store.sessions, kept.get session.id =
        if session.EndedBefore cutoff then .error (.sessionNotFound session.id) else .ok session) ∧
      removed = store.sessions.countP (fun session => session.EndedBefore cutoff) ∧
      removed + kept.count = store.count := by
  intro removed kept
  have split : store.sessions.countP (fun session => session.EndedBefore cutoff) + kept.count =
      store.count := countP_add_count_deleteEndedBefore store cutoff
  have reported : removed = store.count - kept.count := deleteEndedBefore_fst store cutoff
  refine ⟨fun _ => mem_deleteEndedBefore_iff,
    fun _ member => get_deleteEndedBefore distinct cutoff member, ?_, ?_⟩
  · omega
  · omega

/-- Of a running session and one that ended at time 7, eviction before time 8 keeps the first and
removes the second. -/
theorem eviction_keeps_running_session :
    let running := Session.create "running" .zero .zero .zero 5
    let ended := (Session.create "ended" .zero .zero .zero 6).finish .completed none none 7
    let store : Store := ⟨[running, ended], 2, IdSource.serials, Clock.start⟩
    (store.sessions.map (·.id)).Nodup ∧
      (store.deleteEndedBefore 8).2.get "running" = .ok running ∧
      (store.deleteEndedBefore 8).2.get "ended" = .error (.sessionNotFound "ended") ∧
      (store.deleteEndedBefore 8).1 = 1 := by
  intro running ended store
  have distinct : (store.sessions.map (·.id)).Nodup := by decide
  have running_not_ended : ¬ running.EndedBefore 8 := by
    rintro ⟨time, never, -⟩
    cases never
  have ended_before : ended.EndedBefore 8 := ⟨7, rfl, by decide⟩
  obtain ⟨-, lookups, counted, -⟩ := eviction_removes_exactly_ended_before store 8 distinct
  refine ⟨distinct, ?_, ?_, ?_⟩
  · have kept := lookups running (by simp [store])
    rwa [if_neg running_not_ended] at kept
  · have removed := lookups ended (by simp [store])
    rwa [if_pos ended_before] at removed
  · rw [counted]
    decide

end Store

end MeteredPayments
