/-
  Nq.Testimony.Resolution — who may resolve a finding about missing testimony
  (`nq-db/src/component_testimony.rs`, `check_self_resolution_admissibility`).

  The check reads the detail row under the finding's key and the lifecycle row it belongs to,
  and refuses the component the finding is about, unless that component is itself the
  declared escalation target.

  - `self_resolution_refused_iff`: over any run of recordings, what the check of a finding refuses is told by
    the last recording of that finding alone; keys of different findings do not meet.
-/

import Nq.Operator.Actions
import Nq.Sql.Replace
import Nq.Testimony.Coverage

namespace Nq

open Sql (Table)

/-! ## The check -/

structure SelfResolutionRefusal where
  findingKey : String
  actorComponentId : String
  subjectComponentId : String
  escalationTarget : String
  deriving DecidableEq, Repr

def checkSelfResolutionAdmissibility (db : Db) (findingKey actorComponentId : String) :
    Except SelfResolutionRefusal Unit :=
  match db.absenceDetails.get findingKey with
  -- both subqueries are NULL, so no lifecycle row is selected
  | none => .ok ()
  | some d =>
    match db.warningState.get ⟨d.componentId, kindCoverageTestimonyAbsent, d.subjectId⟩ with
    | none => .ok ()
    | some _ =>
      if d.componentId = actorComponentId ∧ actorComponentId ≠ d.escalationTarget then
        .error ⟨findingKey, actorComponentId, d.componentId, d.escalationTarget⟩
      else .ok ()

/-! ## Runs of recordings -/

/-- The recordings that committed, last first. Nothing else in the program writes detail rows:
    `write_coverage_testimony_absence_detail` does too and is public, but only tests call it. -/
inductive Recordings : List CoverageCall → Db → Prop
  | start {db} : db.absenceDetails.rows = [] → Recordings [] db
  | record {hist db c db' key} : Recordings hist db → recordCoverageTestimonyAbsentFinding db c = .ok (db', key) →
      Recordings (c :: hist) db'
  | other {hist db db'} : Recordings hist db → db'.absenceDetails = db.absenceDetails → Recordings hist db'

/-- The last recording of a finding. -/
def lastRecording (hist : List CoverageCall) (id : FindingId) : Option CoverageCall := hist.find? (·.id = id)

variable {db db' : Db} {c : CoverageCall} {hist : List CoverageCall} {key : String}

theorem CoverageCall.detail_key {d : AbsenceDetailRow} (h : c.detail = some d) :
    d.findingKey = c.id.key ∧ d.componentId = c.componentId ∧ d.subjectId = c.subjectId := by
  unfold CoverageCall.detail at h
  split at h <;> cases h <;> exact ⟨rfl, rfl, rfl⟩

theorem recordCoverage_details (h : recordCoverageTestimonyAbsentFinding db c = .ok (db', key)) :
    ∃ d, c.detail = some d ∧ db'.absenceDetails = db.absenceDetails.replace d := by
  unfold recordCoverageTestimonyAbsentFinding at h
  cases hd : c.detail with
  | none => simp [hd] at h
  | some d =>
    rw [hd] at h
    obtain ⟨db₁, h₁, h⟩ := Sql.bind_ok.mp h
    obtain ⟨obs, rfl⟩ := insertObservationIfNew_ok h₁
    by_cases hc : d.check = true
    · simp only [hc, if_true] at h
      cases h
      exact ⟨d, rfl, rfl⟩
    · simp [hc] at h

/-- The detail row under a finding's key is that of its last recording. -/
theorem Recordings.get (h : Recordings hist db) (id : FindingId) :
    db.absenceDetails.get id.key = (lastRecording hist id).bind CoverageCall.detail := by
  induction h with
  | start hrows =>
    unfold Table.get
    rw [hrows]
    rfl
  | @record hist db c db' key _ hrec ih =>
    obtain ⟨d, hd, hdetails⟩ := recordCoverage_details hrec
    rw [hdetails, Sql.get_replace, (CoverageCall.detail_key hd).1]
    by_cases hid : c.id = id
    · simp [lastRecording, hid, hd]
    · have hkey : id.key ≠ c.id.key := fun hk => hid (FindingId.key_inj hk).symm
      simp [lastRecording, hid, hkey, ih]
  | other _ hsame ih => rw [hsame, ih]

/-- The check of a finding refuses an actor exactly when the finding is open and was last
    recorded about the actor itself, to be escalated to somebody else. -/
theorem self_resolution_refused_iff (h : Recordings hist db) (componentId subjectId actor : String) :
    (∃ refusal, checkSelfResolutionAdmissibility db (FindingId.key ⟨componentId,
      kindCoverageTestimonyAbsent, subjectId⟩) actor =
        .error refusal) ↔
      actor = componentId ∧ (db.warningState.get ⟨componentId, kindCoverageTestimonyAbsent, subjectId⟩).isSome = true ∧
        ∃ c d, lastRecording hist ⟨componentId, kindCoverageTestimonyAbsent, subjectId⟩ = some c ∧ c.detail = some d ∧
          d.escalationTarget ≠ actor := by
  unfold checkSelfResolutionAdmissibility
  rw [h.get]
  -- the last recording, then its detail row, then the lifecycle row that row names
  cases hlast : lastRecording hist ⟨componentId, kindCoverageTestimonyAbsent, subjectId⟩ with
  | none => simp
  | some c =>
    have hid : c.id = ⟨componentId, kindCoverageTestimonyAbsent, subjectId⟩ := by simpa using List.find?_some hlast
    simp only [CoverageCall.id, FindingId.mk.injEq, true_and] at hid
    cases hd : c.detail with
    | none => simp [hd]
    | some d =>
      obtain ⟨-, hcomp, hsubj⟩ := CoverageCall.detail_key hd
      rw [hid.1] at hcomp
      rw [hid.2] at hsubj
      rw [Option.bind_some, hd]
      simp only [hcomp, hsubj]
      cases hrow : db.warningState.get ⟨componentId, kindCoverageTestimonyAbsent, subjectId⟩ with
      | none => simp
      | some row =>
        by_cases hactor : componentId = actor
        · subst hactor
          by_cases htarget : d.escalationTarget = componentId
          · simp [htarget, hd]
          · simp [htarget, hd, Ne.symm htarget]
        · simp [hactor, Ne.symm hactor]

/-- The loop never seen, to be escalated to the operator. -/
def loopMissing : CoverageCall :=
  { componentId := "nq.local", subjectId := "observation_loop",
    claimKind := "component_testimony_observation_loop_alive"
    classification := .neverObserved 1 "sha256:rule" "2026-05-20T00:03:00Z" "nq.operator" "operator"
    generationId := 1, observedAt := "2026-05-20T00:01:00Z", coverageStart := none, evaluationEngineId := "nq" }

def loopMissingDb : Db :=
  let db := { Db.init with generations := ⟨[⟨1, "", "", .complete, 0, 0, 0, 0, 0, 0⟩], List.nodup_singleton _⟩ }
  match recordCoverageTestimonyAbsentFinding db loopMissing with
  | .ok (db', _) => db'
  | .error _ => db

/-- The loop's own component may not resolve the finding about its loop. -/
theorem the_loop_may_not_resolve_its_absence :
    (∃ refusal, checkSelfResolutionAdmissibility loopMissingDb
        (FindingId.key ⟨"nq.local", kindCoverageTestimonyAbsent, "observation_loop"⟩) "nq.local" = .error refusal) ∧
      ¬∃ refusal, checkSelfResolutionAdmissibility loopMissingDb
        (FindingId.key ⟨"nq.local", kindCoverageTestimonyAbsent, "observation_loop"⟩) "operator" = .error refusal := by
  have hrec : Recordings [loopMissing] loopMissingDb := by
    have hok : (recordCoverageTestimonyAbsentFinding
        { Db.init with generations := ⟨[⟨1, "", "", .complete, 0, 0, 0, 0, 0, 0⟩],
          List.nodup_singleton _⟩ } loopMissing).toOption.map
          Prod.snd = some "local/nq.local/coverage_testimony_absent/observation_loop" := by decide +kernel
    obtain ⟨⟨db', key⟩, hdb, -⟩ := Sql.ok_of_toOption hok
    have : loopMissingDb = db' := by
      unfold loopMissingDb
      simp only [hdb]
    rw [this]
    exact .record (.start rfl) hdb
  have hopen : (loopMissingDb.warningState.get ⟨"nq.local", kindCoverageTestimonyAbsent,
      "observation_loop"⟩).isSome = true := by
    decide +kernel
  constructor
  · rw [self_resolution_refused_iff hrec]
    exact ⟨rfl, hopen, loopMissing, _, by decide +kernel, rfl, by decide⟩
  · rw [self_resolution_refused_iff hrec]
    exact fun h => absurd h.1 (by decide)

end Nq
