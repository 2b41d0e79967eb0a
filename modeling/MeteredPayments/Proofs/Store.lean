import Mathlib
import MeteredPayments.Session.Store

/-!
# The session store: lookups and well-formedness

Each store operation is described by what it does to `Store.find?`. A new session takes the first
drawn id no stored session has, so stored ids stay distinct (`Store.WellFormed`).
-/

namespace MeteredPayments

/-! ## Drawing a free id -/

namespace IdSource

variable (source : IdSource) (taken : List String)

/-- When the draw `budget` later than `index` is free, the loop stops at the first free draw from
`index` on: every draw it passes over gave a taken id. -/
theorem drawWhileTaken_spec (budget index : Nat) (free : source.draw (index + budget) ∉ taken) :
    index ≤ source.drawWhileTaken taken budget index ∧
      source.draw (source.drawWhileTaken taken budget index) ∉ taken ∧
      ∀ earlier, index ≤ earlier → earlier < source.drawWhileTaken taken budget index →
        source.draw earlier ∈ taken := by
  induction budget generalizing index with
  | zero =>
      -- no draw is left: the loop stops at `index`, whose draw is the free one
      refine ⟨le_rfl, free, fun earlier later before => absurd before ?_⟩
      rw [drawWhileTaken]
      omega
  | succ budget induction =>
      by_cases taken_now : source.draw index ∈ taken
      · -- the loop draws again, from a draw whose free one is `budget` later
        have shifted : source.draw (index + 1 + budget) ∉ taken := by
          rwa [Nat.add_right_comm, Nat.add_assoc]
        obtain ⟨after, found_free, passed⟩ := induction (index + 1) shifted
        rw [drawWhileTaken, if_pos taken_now]
        refine ⟨by omega, found_free, fun earlier later before => ?_⟩
        rcases Nat.eq_or_lt_of_le later with rfl | later
        · exact taken_now
        · exact passed earlier later before
      · rw [drawWhileTaken, if_neg taken_now]
        exact ⟨le_rfl, taken_now, fun earlier later before => absurd before (by omega)⟩

/-- The draw loop stops at the first draw, from the next one on, whose id is not taken. -/
theorem drawFree_spec :
    ∃ index, source.drawn ≤ index ∧ source.draw index ∉ taken ∧
      (∀ earlier, source.drawn ≤ earlier → earlier < index → source.draw earlier ∈ taken) ∧
      source.drawFree taken = (source.draw index, { source with drawn := index + 1 }) := by
  obtain ⟨after, bounded⟩ := source.freeBy_spec taken source.drawn
  have free :
      source.draw (source.drawn + (source.freeBy taken source.drawn - source.drawn)) ∉ taken := by
    rwa [Nat.add_sub_cancel' after]
  obtain ⟨later, found_free, passed⟩ := source.drawWhileTaken_spec taken _ _ free
  exact ⟨_, later, found_free, passed, rfl⟩

theorem drawFree_fresh : (source.drawFree taken).1 ∉ taken := by
  obtain ⟨index, -, free, -, drawn_eq⟩ := source.drawFree_spec taken
  rw [drawn_eq]
  exact free

end IdSource

namespace Store

/-- The id the next session created takes. -/
def nextId (store : Store) : String := (store.ids.drawFree (store.sessions.map (·.id))).1

/-- No stored session has the id the next session takes. -/
theorem nextId_fresh (store : Store) : ∀ session ∈ store.sessions, session.id ≠ store.nextId := by
  intro session member same
  apply store.ids.drawFree_fresh (store.sessions.map (·.id))
  rw [← nextId, ← same]
  exact List.mem_map_of_mem member

theorem find?_nextId (store : Store) : store.find? store.nextId = none := by
  rw [find?, List.find?_eq_none]
  intro session member
  simpa using store.nextId_fresh session member

/-! ## What each store operation does to the lookup -/

theorem find?_eq_some {store : Store} {sessionId : String} {session : Session}
    (found : store.find? sessionId = some session) :
    session ∈ store.sessions ∧ session.id = sessionId := by
  refine ⟨List.mem_of_find?_eq_some found, ?_⟩
  simpa using List.find?_some found

@[simp] theorem now_sessions (store : Store) : store.now.2.sessions = store.sessions := rfl

@[simp] theorem now_issued (store : Store) : store.now.2.issued = store.issued := rfl

@[simp] theorem find?_now (store : Store) : store.now.2.find? = store.find? := rfl

@[simp] theorem now_ids (store : Store) : store.now.2.ids = store.ids := rfl

@[simp] theorem nextId_now (store : Store) : store.now.2.nextId = store.nextId := rfl

@[simp] theorem create_fst (store : Store) (payer receiver dataService : Address) :
    (store.create payer receiver dataService).1 =
      Session.create store.nextId payer receiver dataService store.clock.next :=
  rfl

@[simp] theorem create_sessions (store : Store) (payer receiver dataService : Address) :
    (store.create payer receiver dataService).2.sessions =
      store.sessions ++ [(store.create payer receiver dataService).1] :=
  rfl

@[simp] theorem create_issued (store : Store) (payer receiver dataService : Address) :
    (store.create payer receiver dataService).2.issued = store.issued + 1 :=
  rfl

@[simp] theorem put_issued (store : Store) (session : Session) :
    (store.put session).issued = store.issued :=
  rfl

/-- Replacing a session keeps every id where it was. -/
@[simp] theorem put_ids (store : Store) (session : Session) :
    (store.put session).sessions.map (·.id) = store.sessions.map (·.id) := by
  simp only [put, List.map_map]
  congr 1
  funext stored
  by_cases same : stored.id = session.id <;> simp [same]

theorem mem_put {store : Store} {session stored : Session}
    (member : stored ∈ (store.put session).sessions) :
    stored = session ∨ stored ∈ store.sessions ∧ stored.id ≠ session.id := by
  simp only [put, List.mem_map] at member
  obtain ⟨original, original_mem, rfl⟩ := member
  by_cases same : original.id = session.id
  · simp [same]
  · simp [same, original_mem]

/-- Replacing the session just appended under an id no other session has leaves the others
alone. -/
theorem put_append_fresh {sessions : List Session} {created session : Session}
    (fresh : ∀ stored ∈ sessions, stored.id ≠ session.id) (same : created.id = session.id) :
    (sessions ++ [created]).map (fun stored => if stored.id = session.id then session else stored) =
      sessions ++ [session] := by
  have unchanged : ∀ stored ∈ sessions,
      (if stored.id = session.id then session else stored) = stored :=
    fun stored member => if_neg (fresh stored member)
  rw [List.map_append, List.map_singleton, if_pos same, List.map_congr_left unchanged,
    List.map_id']

theorem find?_put (store : Store) (session : Session) (sessionId : String) :
    (store.put session).find? sessionId =
      (store.find? sessionId).map fun stored =>
        if stored.id = session.id then session else stored := by
  simp only [find?, put, List.find?_map]
  congr 2
  funext stored
  by_cases same : stored.id = session.id <;> simp [same]

theorem find?_put_self {store : Store} {session : Session}
    (present : (store.find? session.id).isSome) :
    (store.put session).find? session.id = some session := by
  obtain ⟨stored, found⟩ := Option.isSome_iff_exists.mp present
  rw [find?_put, found, Option.map_some, (find?_eq_some found).2, if_pos rfl]

theorem find?_put_of_ne {store : Store} {session : Session} {sessionId : String}
    (other : sessionId ≠ session.id) :
    (store.put session).find? sessionId = store.find? sessionId := by
  rw [find?_put]
  cases found : store.find? sessionId with
  | none => rfl
  | some stored =>
      rw [Option.map_some, (find?_eq_some found).2, if_neg other]

theorem find?_delete (store : Store) (removed sessionId : String) :
    (store.delete removed).2.find? sessionId =
      if sessionId = removed then none else store.find? sessionId := by
  simp only [find?, delete, List.find?_filter]
  by_cases same : sessionId = removed
  · subst same
    simp
  · rw [if_neg same]
    congr 1
    funext stored
    by_cases found : stored.id = sessionId
    · simp [found, same]
    · simp [found]

/-- Filtering a list with distinct keys finds what the unfiltered list finds, if it is kept. -/
theorem find?_filter_of_nodup {sessions : List Session} (distinct : (sessions.map (·.id)).Nodup)
    (keep : Session → Bool) (sessionId : String) :
    (sessions.filter keep).find? (·.id = sessionId) =
      (sessions.find? (·.id = sessionId)).filter keep := by
  induction sessions with
  | nil => rfl
  | cons first rest induction =>
      simp only [List.map_cons, List.nodup_cons, List.mem_map] at distinct
      by_cases found : first.id = sessionId
      · have absent : rest.find? (·.id = sessionId) = none := by
          rw [List.find?_eq_none]
          intro stored member same
          exact distinct.1 ⟨stored, member, by simpa [found] using same⟩
        cases kept : keep first <;>
          simp [kept, found, absent, induction distinct.2, Option.filter_some]
      · cases kept : keep first <;> simp [kept, found, induction distinct.2]

@[simp] theorem deleteEndedBefore_issued (store : Store) (cutoff : Int) :
    (store.deleteEndedBefore cutoff).2.issued = store.issued :=
  rfl

theorem mem_deleteEndedBefore {store : Store} {cutoff : Int} {session : Session}
    (member : session ∈ (store.deleteEndedBefore cutoff).2.sessions) :
    session ∈ store.sessions :=
  (List.mem_filter.mp member).1

theorem mem_delete {store : Store} {removed : String} {session : Session}
    (member : session ∈ (store.delete removed).2.sessions) : session ∈ store.sessions :=
  (List.mem_filter.mp member).1

/-! ## Well-formed stores -/

/-- What every store built by its own operations keeps: no two stored sessions share an id. -/
structure WellFormed (store : Store) : Prop where
  /-- No two stored sessions share an id. -/
  ids_nodup : (store.sessions.map (·.id)).Nodup

theorem wellFormed_empty (ids : IdSource) : (empty ids).WellFormed :=
  ⟨List.nodup_nil⟩

namespace WellFormed

variable {store : Store}

theorem now (formed : store.WellFormed) : store.now.2.WellFormed :=
  ⟨formed.ids_nodup⟩

/-- A session appended under an id no stored session has keeps the ids distinct. -/
theorem append (formed : store.WellFormed) {session : Session}
    (fresh : session.id ∉ store.sessions.map (·.id)) :
    ((store.sessions ++ [session]).map (·.id)).Nodup := by
  simpa [List.nodup_append] using And.intro formed.ids_nodup fresh

theorem create (formed : store.WellFormed) (payer receiver dataService : Address) :
    (store.create payer receiver dataService).2.WellFormed := by
  -- the drawn id is none of the stored ones
  have fresh : store.nextId ∉ store.sessions.map (·.id) := by
    simpa using store.nextId_fresh
  exact ⟨formed.append fresh⟩

theorem put (formed : store.WellFormed) (session : Session) : (store.put session).WellFormed := by
  constructor
  rw [put_ids]
  exact formed.ids_nodup

theorem delete (formed : store.WellFormed) (removed : String) :
    (store.delete removed).2.WellFormed :=
  ⟨formed.ids_nodup.sublist (List.filter_sublist.map _)⟩

theorem deleteEndedBefore (formed : store.WellFormed) (cutoff : Int) :
    (store.deleteEndedBefore cutoff).2.WellFormed :=
  ⟨formed.ids_nodup.sublist (List.filter_sublist.map _)⟩

end WellFormed

theorem find?_deleteEndedBefore {store : Store} (formed : store.WellFormed) (cutoff : Int)
    (sessionId : String) :
    (store.deleteEndedBefore cutoff).2.find? sessionId =
      (store.find? sessionId).filter fun session => !endedBefore cutoff session :=
  find?_filter_of_nodup formed.ids_nodup _ sessionId

/-! ## Ending a session -/

/-- Ending a stored session either finds it ended and changes nothing, or finishes it at the
next clock reading. -/
theorem finish_cases {store : Store} {sessionId : String} {reason : EndReason}
    {finalUsage : Option UsageDelta} {finalCost : Option Nat} {result : Nat × Session × Store}
    (finished : store.finish sessionId reason finalUsage finalCost = .ok result) :
    ∃ stored, store.find? sessionId = some stored ∧
      ((∃ time, stored.endedAt = some time ∧ result = (time, stored, store)) ∨
        (stored.endedAt = none ∧
          result = (store.clock.next, stored.finish reason finalUsage finalCost store.clock.next,
            store.now.2.put (stored.finish reason finalUsage finalCost store.clock.next)))) := by
  unfold finish get at finished
  cases found : store.find? sessionId with
  | none => simp [found, bind, Except.bind] at finished
  | some stored =>
      refine ⟨stored, rfl, ?_⟩
      cases ended : stored.endedAt with
      | some time =>
          simp only [found, ended, bind, Except.bind, pure, Except.pure] at finished
          exact .inl ⟨time, rfl, (Except.ok.inj finished).symm⟩
      | none =>
          simp only [found, ended, bind, Except.bind, pure, Except.pure] at finished
          exact .inr ⟨rfl, (Except.ok.inj finished).symm⟩

theorem finish_error {store : Store} {sessionId : String} {reason : EndReason}
    {finalUsage : Option UsageDelta} {finalCost : Option Nat} {error : ServiceError}
    (failed : store.finish sessionId reason finalUsage finalCost = .error error) :
    store.find? sessionId = none := by
  unfold finish get at failed
  cases found : store.find? sessionId with
  | none => rfl
  | some stored =>
      cases ended : stored.endedAt <;>
        simp [found, ended, bind, Except.bind, pure, Except.pure] at failed

end Store

end MeteredPayments
