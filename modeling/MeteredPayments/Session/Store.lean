import MeteredPayments.Provider.Error
import MeteredPayments.Session.Basic

/-!
# The session store

The registry of sessions, in creation order, with the clock their times are read from and the
source their ids are drawn from. A new session takes the first drawn id that no stored session
has: the store draws again while the id is taken.
-/

namespace MeteredPayments

/-- A clock of nanoseconds that moves forward on every reading. -/
structure Clock where
  /-- The next reading. -/
  next : Nat
deriving DecidableEq, Repr

namespace Clock

/-- A clock that starts at a plausible wall-clock time. -/
def start : Clock := ⟨1700000000000000000⟩

/-- Reads the time and moves on. -/
def read (clock : Clock) : Nat × Clock := (clock.next, ⟨clock.next + 1⟩)

end Clock

/-- Where new session ids come from, as a random generator draws them: the id of each draw in
order and how many were drawn. However many ids are taken, drawing on eventually gives one that is
not, by the draw `freeBy` names. -/
structure IdSource where
  /-- The id of each draw, in order. -/
  draw : Nat → String
  /-- How many ids were drawn. -/
  drawn : Nat
  /-- A draw from `start` on whose id is outside `taken`. -/
  freeBy : List String → Nat → Nat
  freeBy_spec : ∀ taken start, start ≤ freeBy taken start ∧ draw (freeBy taken start) ∉ taken

namespace IdSource

/-- Draws again from draw `index` on while the id is in `taken`, at most `budget` more times, and
gives the index of the last draw. -/
def drawWhileTaken (source : IdSource) (taken : List String) : Nat → Nat → Nat
  | 0, index => index
  | budget + 1, index =>
    if source.draw index ∈ taken then source.drawWhileTaken taken budget (index + 1) else index

/-- Draws ids until one is not in `taken`, and gives it with the source after those draws. The
draws stop by the one `freeBy` names. -/
def drawFree (source : IdSource) (taken : List String) : String × IdSource :=
  let budget := source.freeBy taken source.drawn - source.drawn
  let index := source.drawWhileTaken taken budget source.drawn
  (source.draw index, { source with drawn := index + 1 })

end IdSource

/-- The sessions of a provider, the clock they are stamped by and the source of their ids. -/
structure Store where
  /-- The sessions, in creation order. -/
  sessions : List Session
  /-- How many sessions were created. -/
  issued : Nat
  /-- Where ids are drawn from. -/
  ids : IdSource
  /-- The clock. -/
  clock : Clock

namespace Store

/-- No sessions, with ids drawn from `ids`. -/
def empty (ids : IdSource) : Store := ⟨[], 0, ids, Clock.start⟩

/-- Reads the clock. -/
def now (store : Store) : Nat × Store :=
  let (time, clock) := store.clock.read
  (time, { store with clock := clock })

/-- Creates an active session under an id that no stored session has, drawing again while the
drawn id is taken. -/
def create (store : Store) (payer receiver dataService : Address) : Session × Store :=
  let (time, store) := store.now
  let (id, ids) := store.ids.drawFree (store.sessions.map (·.id))
  let session := Session.create id payer receiver dataService time
  (session, { store with sessions := store.sessions ++ [session], issued := store.issued + 1, ids })

/-- The session with this id, if any. -/
def find? (store : Store) (sessionId : String) : Option Session :=
  store.sessions.find? (·.id = sessionId)

/-- The session with this id. -/
def get (store : Store) (sessionId : String) : Except ServiceError Session :=
  match store.find? sessionId with
  | some session => .ok session
  | none => .error (.sessionNotFound sessionId)

/-- Replaces the stored session that has the id of `session`. -/
def put (store : Store) (session : Session) : Store :=
  { store with sessions := store.sessions.map fun stored =>
      if stored.id = session.id then session else stored }

/-- Removes a session, giving it back if it was there. -/
def delete (store : Store) (sessionId : String) : Option Session × Store :=
  (store.find? sessionId, { store with sessions := store.sessions.filter (·.id ≠ sessionId) })

/-- The active sessions. -/
def active (store : Store) : List Session := store.sessions.filter (·.isActive)

/-- How many sessions there are. -/
def count (store : Store) : Nat := store.sessions.length

/-- Whether a session ended strictly before `cutoff`. -/
def endedBefore (cutoff : Int) (session : Session) : Bool :=
  match session.endedAt with
  | some time => (time : Int) < cutoff
  | none => false

/-- Removes the sessions that ended strictly before `cutoff`, telling how many. -/
def deleteEndedBefore (store : Store) (cutoff : Int) : Nat × Store :=
  let kept := store.sessions.filter fun session => !endedBefore cutoff session
  (store.sessions.length - kept.length, { store with sessions := kept })

/-- Ends a session for `reason` after adding its final usage, as `Session.finish` does, and
gives the end time. -/
def finish (store : Store) (sessionId : String) (reason : EndReason)
    (finalUsage : Option UsageDelta) (finalCost : Option Nat) :
    Except ServiceError (Nat × Session × Store) := do
  let session ← store.get sessionId
  match session.endedAt with
  | some time => pure (time, session, store)
  | none =>
    let (time, store) := store.now
    let session := session.finish reason finalUsage finalCost time
    pure (time, session, store.put session)

end Store

end MeteredPayments
