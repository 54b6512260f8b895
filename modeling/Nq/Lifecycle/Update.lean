/-
  Nq.Lifecycle.Update — the lifecycle transaction (`publish.rs`,
  `update_warning_state` and its two wider entry points).

  After the upsert loop and the recovery loop come work-state expiry, the entity
  collector, the lineage counters, and, outside the inner function, the
  operator-declaration overlay and the maintenance overlay. All of it is one
  transaction: an error leaves the database as it was.

  Each pass has one lemma saying what it makes of the row under a key; `Nq.Lifecycle.Spec`
  puts them together.
-/

import Mathlib.Data.List.Dedup
import Nq.Declarations.Declaration
import Nq.Lifecycle.Masking

namespace Nq

open Sql (Table)

/-! ## Work-state expiry -/

def WorkState.asStr : WorkState → String
  | .new => "new"
  | .acknowledged => "acknowledged"
  | .watching => "watching"
  | .quiesced => "quiesced"
  | .closed => "closed"
  | .suppressed => "suppressed"

def WarningRow.workExpired (now : String) (r : WarningRow) : Bool :=
  (r.ackExpiresAt.any (· < now)) && r.workState ∈ [.acknowledged, .quiesced, .suppressed]

def WarningRow.expireWork (now : String) (r : WarningRow) : WarningRow :=
  if r.workExpired now then
    { r with
      workState := .new
      workStateAt := some now
      acknowledged := if r.workState = .acknowledged then false else r.acknowledged
      acknowledgedAt := if r.workState = .acknowledged then none else r.acknowledgedAt
      ackExpiresAt := none }
  else r

theorem id_expireWork (now : String) (r : WarningRow) : (r.expireWork now).id = r.id := by
  unfold WarningRow.expireWork; split <;> rfl

/-- The transitions are recorded before the rows change. -/
def expireWorkStates (now : String) (db : Db) : Db :=
  { db with
    findingTransitions := db.findingTransitions ++
      (db.warningState.rows.filter (·.workExpired now)).map fun r =>
        ⟨r.id, r.workState.asStr, "new", some "nq-lifecycle", some "work-state TTL expired", now⟩
    warningState := db.warningState.update (·.expireWork now) (id_expireWork now) }

/-! ## Entity collection -/

def entityGcThreshold : Int := 10

/-- The hosts of the four tables the collector counts by. -/
def Db.knownHosts (db : Db) : List String :=
  db.hostsCurrent.rows.map Current.host ++ db.servicesCurrent.rows.map Current.host ++
    db.metricsCurrent.rows.map Current.host ++ db.logObservationsCurrent.rows.map Current.host

/-- The hosts of the two tables the collector resets by. -/
def Db.presentHosts (db : Db) : List String :=
  db.hostsCurrent.rows.map Current.host ++ db.servicesCurrent.rows.map Current.host

def WarningRow.countGone (known : List String) (r : WarningRow) : WarningRow :=
  if r.host ≠ "" ∧ r.visibilityState = .observed ∧ r.host ∉ known then
    { r with entityGoneGens := r.entityGoneGens + 1 }
  else r

def WarningRow.resetGone (present : List String) (r : WarningRow) : WarningRow :=
  if r.host ≠ "" ∧ r.host ∈ present then { r with entityGoneGens := 0 } else r

theorem id_countGone (known : List String) (r : WarningRow) : (r.countGone known).id = r.id := by
  unfold WarningRow.countGone; split <;> rfl

theorem id_resetGone (present : List String) (r : WarningRow) : (r.resetGone present).id = r.id := by
  unfold WarningRow.resetGone; split <;> rfl

def collectEntities (db : Db) : Db :=
  { db with
    warningState :=
      ((db.warningState.update (·.countGone db.knownHosts) (id_countGone db.knownHosts)).update
        (·.resetGone db.presentHosts) (id_resetGone db.presentHosts)).delete
        (·.entityGoneGens > entityGcThreshold) }

/-- What the collector makes of one row. -/
def collected (known present : List String) (r : WarningRow) : Option WarningRow :=
  let r := (r.countGone known).resetGone present
  if r.entityGoneGens > entityGcThreshold then none else some r

theorem get_collectEntities (db : Db) (k : FindingId) :
    (collectEntities db).warningState.get k =
      (db.warningState.get k).bind (collected db.knownHosts db.presentHosts) := by
  simp only [collectEntities, Table.get_delete, Table.get_update, Option.map_map]
  cases db.warningState.get k with
  | none => rfl
  | some r =>
    simp only [Option.map_some, Option.bind_some, Option.filter, collected, Function.comp_apply]
    by_cases h : ((r.countGone db.knownHosts).resetGone db.presentHosts).entityGoneGens > entityGcThreshold <;> simp [h]

/-! ## Lineage -/

def GenerationRow.setLineage (observed run suppressed : Int) (g : GenerationRow) : GenerationRow :=
  { g with findingsObserved := observed, detectorsRun := run, findingsSuppressed := suppressed }

theorem generationId_setLineage (observed run suppressed : Int) (g : GenerationRow) :
    (g.setLineage observed run suppressed).generationId = g.generationId := rfl

def recordLineage (generationId : Int) (findings : List Finding) (db : Db) : Db :=
  let observed : Int := findings.length
  let run : Int := (findings.map Finding.kind).dedup.length
  let suppressed : Int := (db.warningState.rows.filter (·.visibilityState = .suppressed)).length
  { db with
    generations := db.generations.updateKey generationId (·.setLineage observed run suppressed)
      (generationId_setLineage observed run suppressed) }

def updateWarningStateInner (now : String) (db : Db) (generationId : Int) (findings : List Finding)
    (escalation : EscalationConfig) (originMode : OriginMode) : Except DbError Db := do
  let c : Cycle := ⟨generationId, now, escalation, originMode, db.sourcesRetired⟩
  let db ← recordFindings c db findings
  let db := setStabilities c db findings
  let masking := buildMasking db.warningState
  let activeKeys := findings.map Finding.id
  let db := { db with warningState := recoverAbsent activeKeys masking generationId db.warningState }
  return recordLineage generationId findings (collectEntities (expireWorkStates now db))

/-! ## Coverage composition -/

def orphanHygieneFinding (host badRef : String) : Finding :=
  { host := host, domain := "Δs", kind := "health_claim_misleading_orphan_ref", subject := badRef
    value := none, findingClass := "meta", ruleHash := none, stateKind := .informational
    diagnosis := some ⟨.drift, .noneCurrent, .investigateBusinessHours⟩ }

/-- A derived finding's parent reference, when it is one. -/
def misleadingRef (f : Finding) : Option String :=
  if f.kind ≠ "health_claim_misleading" then none
  else match f.coverageEnvelope with
    | some (.healthClaimMisleading parentRef) => some parentRef
    | _ => none

/-- One hygiene finding per (host, reference) without an open parent. The source collects
    the pairs in a hash map, whose order is unspecified; here the order is fixed. -/
def validateCoverageComposition (t : WarningState) (findings : List Finding) : List Finding :=
  let inBatch := (findings.filter (·.kind = "coverage_degraded")).map Finding.key
  let openInState :=
    (t.rows.filter fun r => r.kind = "coverage_degraded" ∧ r.visibilityState = .observed).map (·.id.key)
  let orphans := findings.filterMap fun f => (misleadingRef f).bind fun parentRef =>
    if parentRef ∈ inBatch ∨ parentRef ∈ openInState then none else some (f.host, parentRef)
  orphans.dedup.map fun o => orphanHygieneFinding o.1 o.2

/-! ## The declaration overlay -/

def WarningRow.clearSuppression (r : WarningRow) : WarningRow :=
  { r with
    visibilityState := .observed
    suppressionKind := none
    suppressionDeclarationId := none
    suppressionReason := none
    suppressedSinceGen := none }

/-- The pre-pass's WHERE clause. A NULL id is NOT IN no list. -/
def WarningRow.isOrphan (activeIds : List String) (r : WarningRow) : Bool :=
  r.suppressionKind = some .operatorDeclaration && (activeIds.isEmpty || r.suppressionDeclarationId.any (· ∉ activeIds))

def WarningRow.revoke (activeIds : List String) (r : WarningRow) : WarningRow :=
  if r.isOrphan activeIds then r.clearSuppression else r

def WarningRow.withdraw (generationId : Int) (d : Declaration) (r : WarningRow) : WarningRow :=
  if r.host = d.subjectId then
    { r with
      visibilityState := .suppressed
      suppressionKind := some .operatorDeclaration
      suppressionDeclarationId := some d.declarationId
      suppressionReason := none
      suppressedSinceGen := some (r.suppressedSinceGen.getD generationId) }
  else r

theorem id_revoke (ids : List String) (r : WarningRow) : (r.revoke ids).id = r.id := by
  unfold WarningRow.revoke; split <;> rfl

variable (g : Int) (decls : List MaintenanceDeclaration)

theorem id_withdraw (d : Declaration) (r : WarningRow) : (r.withdraw g d).id = r.id := by
  unfold WarningRow.withdraw; split <;> rfl

def applyDeclaration (generationId : Int) (t : WarningState) (d : Declaration) : WarningState :=
  if d.subjectKind ≠ .host then t
  else if d.mode ≠ .withdrawn then t
  else t.update (·.withdraw generationId d) (id_withdraw generationId d)

def applyDeclarationOverlay (generationId : Int) (active : List Declaration) (t : WarningState) : WarningState :=
  let activeIds := active.map Declaration.declarationId
  active.foldl (applyDeclaration generationId) (t.update (·.revoke activeIds) (id_revoke activeIds))

/-- What the overlay makes of one row. -/
def overlaid (generationId : Int) (active : List Declaration) (r : WarningRow) : WarningRow :=
  active.foldl (fun r d => if d.withdraws r.host then r.withdraw generationId d else r)
    (r.revoke (active.map Declaration.declarationId))

theorem get_applyDeclaration (t : WarningState) (d : Declaration) (k : FindingId) :
    (applyDeclaration g t d).get k =
      (t.get k).map fun r => if d.withdraws r.host then r.withdraw g d else r := by
  unfold applyDeclaration Declaration.withdraws
  have hk : d.subjectKind = .host := by cases d.subjectKind; rfl
  by_cases hm : d.mode = .withdrawn
  · simp only [hk, hm, ne_eq, not_true_eq_false, if_false, Table.get_update,
      decide_true, Bool.true_and, decide_eq_true_eq]
    refine congrArg (Option.map · (t.get k)) (funext fun r => ?_)
    by_cases hh : d.subjectId = r.host
    · simp [hh]
    · simp [hh, WarningRow.withdraw, Ne.symm hh]
  · simp [hk, hm]

theorem get_applyDeclarationOverlay (active : List Declaration) (t : WarningState) (k : FindingId) :
    (applyDeclarationOverlay g active t).get k = (t.get k).map (overlaid g active) := by
  have hloop : ∀ (ds : List Declaration) (t : WarningState), (ds.foldl (applyDeclaration g) t).get k =
      (t.get k).map fun r => ds.foldl (fun r d => if d.withdraws r.host then r.withdraw g d else r) r := by
    intro ds
    induction ds with
    | nil => intro t; simp
    | cons d ds ih => intro t; rw [List.foldl_cons, ih, get_applyDeclaration, Option.map_map]; rfl
  simp only [applyDeclarationOverlay, hloop, Table.get_update, Option.map_map]
  rfl

/-! ## The maintenance overlay -/

def MaintenanceDeclaration.inScope (m : MaintenanceDeclaration) (r : WarningRow) : Bool :=
  m.host = r.host && m.kind = r.kind && m.subject.all (· = r.subject)

/-- The declaration in force over a row: the latest declared. -/
def activeMaintenance (decls : List MaintenanceDeclaration) (now : String) (r : WarningRow) :
    Option MaintenanceDeclaration :=
  Sql.firstBy (fun m m' => m'.declaredAt < m.declaredAt ∨ m'.declaredAt = m.declaredAt ∧
    m'.maintenanceId < m.maintenanceId)
    (decls.filter fun m => m.inScope r && decide (m.startAt ≤ now) && decide (now ≤ m.endAt))

/-- The declaration a row has outlived: the last to end. -/
def expiredMaintenance (decls : List MaintenanceDeclaration) (now : String) (r : WarningRow) :
    Option MaintenanceDeclaration :=
  Sql.firstBy (fun m m' => m'.endAt < m.endAt ∨ m'.endAt = m.endAt ∧
      (m'.declaredAt < m.declaredAt ∨ m'.declaredAt = m.declaredAt ∧ m'.maintenanceId < m.maintenanceId))
    (decls.filter fun m => m.inScope r && decide (m.endAt < now))

def WarningRow.maintain (decls : List MaintenanceDeclaration) (now : String) (r : WarningRow) : WarningRow :=
  match activeMaintenance decls now r with
  | some m => { r with maintenanceState := .covered, maintenanceId := some m.maintenanceId }
  | none =>
    match expiredMaintenance decls now r with
    | some m => { r with maintenanceState := .overrun, maintenanceId := some m.maintenanceId }
    | none => if r.maintenanceState ≠ .none_ then { r with maintenanceState := .none_, maintenanceId := none } else r

theorem id_maintain (now : String) (r : WarningRow) : (r.maintain decls now).id = r.id := by
  unfold WarningRow.maintain
  split
  · rfl
  · split
    · rfl
    · split <;> rfl

/-- Each row is annotated under its own key, from its own scope columns. -/
def applyMaintenanceOverlay (decls : List MaintenanceDeclaration) (now : String) (t : WarningState) : WarningState :=
  t.rows.foldl (fun t e => t.updateKey e.id (·.maintain decls now) (id_maintain decls now)) t

theorem get_applyMaintenanceOverlay (now : String) (t : WarningState) (k : FindingId) :
    (applyMaintenanceOverlay decls now t).get k = (t.get k).map (·.maintain decls now) := by
  have h := Table.get_foldl_keyed WarningRow.id
    (fun (t : WarningState) e => t.updateKey e.id (·.maintain decls now) (id_maintain decls now))
    (fun _ old => old.map (·.maintain decls now))
    (fun t e k => Table.get_updateKey t e.id _ (id_maintain decls now) k) k t.rows t t.nodup
  refine h.trans ?_
  show (t.get k).elim (t.get k) (fun _ => (t.get k).map (·.maintain decls now)) = _
  cases t.get k <;> rfl

/-! ## The entry points -/

def parseOriginMode : String → Option OriginMode
  | "observed" => some .observed
  | "drill" => some .drill
  | "replay" => some .replay
  | "synthetic" => some .synthetic
  | _ => none

/-- The two readings of the wall clock one call makes. -/
structure Clock where
  lifecycle : String
  maintenance : String

def updateWarningStateWithOriginMode (clock : Clock) (db : Db) (generationId : Int) (findings : List Finding)
    (escalation : EscalationConfig) (active : List Declaration) (originMode : String) : Except DbError Db :=
  match parseOriginMode originMode with
  | none => .error .originModeUnknown
  | some mode => do
    let combined := findings ++ validateCoverageComposition db.warningState findings
    let db ← updateWarningStateInner clock.lifecycle db generationId combined escalation mode
    let db := { db with warningState := applyDeclarationOverlay generationId active db.warningState }
    return { db with
      warningState :=
        applyMaintenanceOverlay db.maintenanceDeclarations.rows clock.maintenance db.warningState }

def updateWarningStateWithDeclarations (clock : Clock) (db : Db) (generationId : Int) (findings : List Finding)
    (escalation : EscalationConfig) (active : List Declaration) : Except DbError Db :=
  updateWarningStateWithOriginMode clock db generationId findings escalation active "observed"

def updateWarningState (clock : Clock) (db : Db) (generationId : Int) (findings : List Finding)
    (escalation : EscalationConfig) : Except DbError Db :=
  updateWarningStateWithDeclarations clock db generationId findings escalation []

end Nq
