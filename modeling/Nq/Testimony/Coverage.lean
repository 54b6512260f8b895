/-
  Nq.Testimony.Coverage — recording that expected testimony is missing
  (`nq-db/src/component_testimony.rs`, `record_coverage_testimony_absent_finding`).

  One transaction writes the finding's lifecycle row, an evidence row (none if the
  generation already has one) and the detail row. The lifecycle upsert sets fewer
  columns on a conflict than the detector path does.

  - `recordCoverage_ok`: what a committed call leaves.
-/

import Nq.Import.Ingest

namespace Nq

open Sql (Table)

inductive AbsenceClassification where
  | active (lastObservedAt expiresAt lastEmissionId : String) (coverageRuleId : Int) (coverageRuleHash : String)
  | coverageUnknown
  | neverObserved (coverageRuleId : Int) (coverageRuleHash expectedBy standingResolverId escalationTarget : String)
  | previouslyObservedExpired (coverageRuleId : Int)
      (coverageRuleHash lastObservedAt expiresAt lastEmissionId standingResolverId escalationTarget : String)
  deriving DecidableEq, Repr

def kindCoverageTestimonyAbsent : String := "coverage_testimony_absent"

structure CoverageCall where
  componentId : String
  subjectId : String
  claimKind : String
  classification : AbsenceClassification
  generationId : Int
  observedAt : String
  coverageStart : Option String
  evaluationEngineId : String
  deriving DecidableEq, Repr

def CoverageCall.id (c : CoverageCall) : FindingId := ⟨c.componentId, kindCoverageTestimonyAbsent, c.subjectId⟩

/-- The detail row, for the two classifications that make a finding. -/
def CoverageCall.detail (c : CoverageCall) : Option AbsenceDetailRow :=
  match c.classification with
  | .neverObserved ruleId ruleHash expectedBy resolver target =>
    some { findingKey := c.id.key, componentId := c.componentId, subjectId := c.subjectId, claimKind := c.claimKind
           coverageRuleId := ruleId, coverageRuleHash := ruleHash, absenceState := .neverObserved
           expectedAfter := c.coverageStart, expectedBy := some expectedBy, lastObservedAt := none
           lastEmissionId := none, standingResolverId := resolver, escalationTarget := target
           evaluationEngineId := c.evaluationEngineId }
  | .previouslyObservedExpired ruleId ruleHash lastObservedAt expiresAt lastEmissionId resolver target =>
    some { findingKey := c.id.key, componentId := c.componentId, subjectId := c.subjectId, claimKind := c.claimKind
           coverageRuleId := ruleId, coverageRuleHash := ruleHash, absenceState := .previouslyObservedExpired
           expectedAfter := c.coverageStart, expectedBy := some expiresAt, lastObservedAt := some lastObservedAt
           lastEmissionId := some lastEmissionId, standingResolverId := resolver, escalationTarget := target
           evaluationEngineId := c.evaluationEngineId }
  | _ => none

/-- SQLite `length(s) > 0`: a text ends at its first NUL. -/
def nonEmptyText (s : String) : Bool := !(s.toList.takeWhile (· ≠ '\x00')).isEmpty

/-- The CHECK clauses of the detail table. -/
def AbsenceDetailRow.check (d : AbsenceDetailRow) : Bool :=
  nonEmptyText d.componentId && nonEmptyText d.subjectId && nonEmptyText d.claimKind &&
    nonEmptyText d.coverageRuleHash && nonEmptyText d.standingResolverId && nonEmptyText d.escalationTarget &&
    nonEmptyText d.evaluationEngineId &&
    (d.absenceState ≠ .neverObserved || (d.lastObservedAt.isNone && d.lastEmissionId.isNone)) &&
    (d.absenceState ≠ .previouslyObservedExpired || (d.lastObservedAt.isSome && d.lastEmissionId.isSome))

def coverageWrite (c : CoverageCall) : RowWrite where
  row :=
    { host := c.componentId, kind := kindCoverageTestimonyAbsent, subject := c.subjectId
      firstSeenGen := c.generationId, firstSeenAt := c.observedAt
      lastSeenGen := c.generationId, lastSeenAt := c.observedAt
      consecutiveGens := 1, severity := "info", domain := "component_testimony" }
  overwrite := WarningRow.reassert c.generationId c.observedAt
  id_overwrite _ := rfl

def coverageObservation (c : CoverageCall) : ObservationRow :=
  { generationId := c.generationId, findingKey := c.id.key, detectorId := kindCoverageTestimonyAbsent
    host := c.componentId, subject := c.subjectId, domain := "component_testimony", severity := "info"
    observedAt := c.observedAt }

/-- INSERT … ON CONFLICT DO NOTHING. -/
def insertObservationIfNew (db : Db) (o : ObservationRow) : Except DbError Db :=
  if (db.findingObservations.get o.pk).isSome then .ok db else insertObservation db o

/-- The committed database and the finding's key. -/
def recordCoverageTestimonyAbsentFinding (db : Db) (c : CoverageCall) : Except DbError (Db × String) :=
  match c.detail with
  | none => .error .notFindingProducing
  | some detail => do
    let db := { db with warningState := (coverageWrite c).apply db.warningState }
    let db ← insertObservationIfNew db (coverageObservation c)
    if detail.check then
      return ({ db with absenceDetails := db.absenceDetails.replace detail }, c.id.key)
    else .error .checkViolation

variable {db db' : Db}

theorem insertObservationIfNew_ok {o : ObservationRow} (h : insertObservationIfNew db o = .ok db') :
    ∃ obs, db' = { db with findingObservations := obs } := by
  unfold insertObservationIfNew at h
  split at h
  · cases h; exact ⟨_, rfl⟩
  · obtain ⟨_, obs, _, rfl⟩ := insertObservation_ok.mp h
    exact ⟨obs, rfl⟩

/-- A committed call has upserted one lifecycle row and returned that row's key. -/
theorem recordCoverage_ok {c : CoverageCall} {key : String}
    (h : recordCoverageTestimonyAbsentFinding db c = .ok (db', key)) :
    db'.warningState = (coverageWrite c).apply db.warningState ∧ key = c.id.key ∧
      db' = { db with
        warningState := db'.warningState
        findingObservations := db'.findingObservations
        absenceDetails := db'.absenceDetails } := by
  unfold recordCoverageTestimonyAbsentFinding at h
  cases hd : c.detail with
  | none => rw [hd] at h; cases h
  | some detail =>
    rw [hd] at h
    obtain ⟨db₁, h₁, h⟩ := Sql.bind_ok.mp h
    obtain ⟨obs, rfl⟩ := insertObservationIfNew_ok h₁
    by_cases hc : detail.check = true
    · simp only [hc, if_true] at h
      cases h
      exact ⟨rfl, rfl, rfl⟩
    · simp [hc] at h

end Nq
