/-
  Nq.Notify.Pending — which findings are due a notification (`nq-db/src/notify.rs`).

  `find_pending` selects the rows whose severity has not been notified yet and which are
  open to notification, joins the durable history of each identity and drops what was
  announced within the cooldown. RFC3339 parsing is the parameter `rfc3339` (the instant in
  nanoseconds). The message and the regime badge of a notification are left out: they decide
  nothing here.

  - `mem_findPending`: the row behind a pending notification.
-/

import Nq.Db.Schema

namespace Nq

open Sql (F64 Table)

/-- A row of `notification_history`. -/
structure NotificationRecord where
  id : FindingId
  firstNotifiedAt : String
  lastNotifiedAt : String
  lastNotifiedSeverity : String
  notificationCount : Int := 1
  deriving DecidableEq, Repr

abbrev NotificationHistory := Table NotificationRecord.id

inductive NotificationKind where
  | new
  | recurring (lastSeverity : String)
  | escalated (fromSeverity : String)
  deriving DecidableEq, Repr

structure PendingNotification where
  host : String
  domain : String
  kind : String
  subject : String
  severity : String
  notificationKind : NotificationKind
  consecutiveGens : Int
  firstSeenAt : String
  peakValue : Option F64
  stateKind : StateKind
  diagnosis : Option FindingDiagnosis
  deriving DecidableEq

def PendingNotification.id (p : PendingNotification) : FindingId := ⟨p.host, p.kind, p.subject⟩

def severityRank : String → Nat
  | "info" => 1
  | "warning" => 2
  | "critical" => 3
  | _ => 0

def cooldownHours : Int := 24

/-- The WHERE clause. -/
def WarningRow.notifiable (r : WarningRow) : Bool :=
  r.notifiedSeverity.all (· ≠ r.severity) && r.workState ∉ [.quiesced, .suppressed, .closed] &&
    r.visibilityState = .observed && r.basisState ≠ .retired

section

variable (rfc3339 : String → Except String Int)

def NotificationRecord.withinCooldown (now : Int) (h : NotificationRecord) : Bool :=
  match rfc3339 h.lastNotifiedAt with
  | .ok lastAt => (now - lastAt).tdiv 3600000000000 < cooldownHours
  | .error _ => false

/-- `none` is a finding that was announced recently enough. -/
def notificationKindOf (now : Int) (history : NotificationHistory) (r : WarningRow) : Option NotificationKind :=
  match history.get r.id with
  | some h =>
    if severityRank r.severity > severityRank h.lastNotifiedSeverity then some (.escalated h.lastNotifiedSeverity)
    else if h.withinCooldown rfc3339 now then none
    else some (.recurring h.lastNotifiedSeverity)
  | none => some .new

def findPending (db : Db) (history : NotificationHistory) (minSeverity : String)
    (now : Int) : List PendingNotification :=
  (db.warningState.rows.filter (·.notifiable)).filterMap fun r =>
    (notificationKindOf rfc3339 now history r).bind fun kind =>
      if severityRank r.severity ≥ severityRank minSeverity then
        some ⟨r.host, r.domain, r.kind, r.subject, r.severity, kind, r.consecutiveGens, r.firstSeenAt, r.peakValue,
          r.stateKind, r.diagnosis⟩
      else none

end

theorem mem_findPending {rfc3339 : String → Except String Int} {db : Db} {history : NotificationHistory}
    {minSeverity : String} {now : Int} {p : PendingNotification}
    (h : p ∈ findPending rfc3339 db history minSeverity now) :
    ∃ r, db.warningState.get p.id = some r ∧ r.notifiable = true := by
  obtain ⟨r, hr, hp⟩ := List.mem_filterMap.mp h
  obtain ⟨hr, hn⟩ := List.mem_filter.mp hr
  obtain ⟨kind, _, hp⟩ := Option.bind_eq_some_iff.mp hp
  split at hp
  · cases hp
    exact ⟨r, Table.get_of_mem hr, hn⟩
  · cases hp

def WarningRow.setNotified (severity : String) (r : WarningRow) : WarningRow :=
  { r with notifiedSeverity := some severity }

theorem id_setNotified (severity : String) (r : WarningRow) : (r.setNotified severity).id = r.id := rfl

def NotificationRecord.again (now severity : String) (h : NotificationRecord) : NotificationRecord :=
  { h with lastNotifiedAt := now, lastNotifiedSeverity := severity, notificationCount := h.notificationCount + 1 }

/-- The row may be gone by now; the history is kept all the same. -/
def markNotified (db : Db) (history : NotificationHistory) (id : FindingId) (severity now : String) :
    Db × NotificationHistory :=
  ({ db with warningState := db.warningState.updateKey id (·.setNotified severity) (id_setNotified severity) },
    history.upsert ⟨id, now, now, severity, 1⟩ (·.again now severity) fun _ => rfl)

end Nq
