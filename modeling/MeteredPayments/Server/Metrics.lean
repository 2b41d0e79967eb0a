/-!
# Service metrics

Five figures a running service exposes: how many sessions it opened, how many vouchers it
accepted and rejected, how many escrow lookups failed, and how many sessions are active. The
first four only grow; the last is set from the session store after every operation that can
change it. They are served as Prometheus text, one family after another in the order of their
names.
-/

namespace MeteredPayments.Server

/-- The figures of a running service. -/
structure Metrics where
  /-- Sessions opened, through a start or a payment that opened a session. -/
  sessionsStarted : Nat
  /-- Sessions active when last counted. -/
  activeSessions : Int
  /-- Vouchers accepted, including those presented when a session starts. -/
  ravsAccepted : Nat
  /-- Vouchers or session requests rejected. -/
  ravsRejected : Nat
  /-- Escrow lookups that failed or timed out. -/
  escrowQueryFailures : Nat
deriving DecidableEq, Repr

namespace Metrics

/-- All figures at zero. -/
def zero : Metrics := ⟨0, 0, 0, 0, 0⟩

/-- One more session opened. -/
def sessionStarted (metrics : Metrics) : Metrics :=
  { metrics with sessionsStarted := metrics.sessionsStarted + 1 }

/-- One more voucher accepted. -/
def ravAccepted (metrics : Metrics) : Metrics :=
  { metrics with ravsAccepted := metrics.ravsAccepted + 1 }

/-- One more voucher or request rejected. -/
def ravRejected (metrics : Metrics) : Metrics :=
  { metrics with ravsRejected := metrics.ravsRejected + 1 }

/-- One more failed escrow lookup. -/
def escrowQueryFailed (metrics : Metrics) : Metrics :=
  { metrics with escrowQueryFailures := metrics.escrowQueryFailures + 1 }

/-- Records the number of active sessions. -/
def setActive (metrics : Metrics) (active : Nat) : Metrics :=
  { metrics with activeSessions := active }

/-- One metric family in Prometheus text: its help, its type and its one sample. -/
def family (name help kind value : String) : List String :=
  [s!"# HELP {name} {help}", s!"# TYPE {name} {kind}", s!"{name} {value}"]

/-- The Prometheus text of the figures, families in the order of their names. -/
def render (metrics : Metrics) : List String :=
  family "sidecar_active_sessions" "Number of sessions currently active." "gauge"
      (toString metrics.activeSessions) ++
    family "sidecar_escrow_query_failure_count"
      "Number of escrow balance lookups that failed or timed out." "counter"
      (toString metrics.escrowQueryFailures) ++
    family "sidecar_ravs_accepted_count"
      "Number of RAVs accepted, including those presented when a session starts." "counter"
      (toString metrics.ravsAccepted) ++
    family "sidecar_ravs_rejected_count"
      "Number of RAVs or session requests rejected (for any reason)." "counter"
      (toString metrics.ravsRejected) ++
    family "sidecar_sessions_started_count"
      "Number of sessions opened, through StartSession or ValidatePayment." "counter"
      (toString metrics.sessionsStarted)

end Metrics

end MeteredPayments.Server
