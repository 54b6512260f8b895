/-
  Nq.Findings.Finding — what a detector emits (`nq-db/src/detect.rs`), and the canonical
  identity string of its observation (`publish.rs`, `compute_finding_key`).

  A finding's identity in the lifecycle is (host, kind, subject), the primary key of
  `warning_state` (`FindingId`). The display texts of a finding (message, synopsis,
  why_care) are left out: nothing in the lifecycle reads them.

  `finding_observations` is keyed by the generation and the identity string, so two findings
  of one generation may be recorded together exactly when their strings differ; the
  encoding makes that the same as their identities differing (`computeFindingKey_inj`).
-/

import Nq.Sql.Real
import Nq.Text.Percent

namespace Nq

open Sql (F64)

inductive FailureClass where
  | availability | accumulation | pressure | saturation | exhaustion | drift | stuckness | silence | flapping
  | unspecified
  deriving DecidableEq, Repr

inductive ServiceImpact where
  | noneCurrent | degraded | immediateRisk
  deriving DecidableEq, Repr

inductive ActionBias where
  | watch | investigateBusinessHours | investigateNow | interveneSoon | interveneNow
  deriving DecidableEq, Repr

inductive Stability where
  | new | stable | flickering | recovering
  deriving DecidableEq, Repr

inductive StateKind where
  | incident | degradation | maintenance | informational | legacyUnclassified
  deriving DecidableEq, Repr

structure FindingDiagnosis where
  failureClass : FailureClass
  serviceImpact : ServiceImpact
  actionBias : ActionBias
  deriving DecidableEq, Repr

inductive RecoveryState where
  | active | candidate | satisfied
  deriving DecidableEq, Repr

inductive RecoveryComparator where
  | lt | gt | le | ge | eq
  deriving DecidableEq, Repr

structure CoverageDegradedEnvelope where
  degradationKind : String
  degradationMetric : String
  degradationValue : Option F64
  degradationThreshold : Option F64
  recoveryState : RecoveryState
  recoveryMetric : String
  recoveryComparator : RecoveryComparator
  recoveryThreshold : F64
  recoverySustainedForS : Int
  recoveryEvidenceSince : Option String
  recoverySatisfiedAt : Option String
  deriving DecidableEq

inductive CoverageEnvelope where
  | degraded (env : CoverageDegradedEnvelope)
  | healthClaimMisleading (coverageDegradedRef : String)
  deriving DecidableEq

inductive NodeType where
  | host | witness | transport | collector
  deriving DecidableEq, Repr

inductive CauseCandidate where
  | agentStopped | agentUnreachable | hostUnreachable | transportFailed | collectorExpired
  deriving DecidableEq, Repr

structure NodeUnobservableEnvelope where
  nodeType : NodeType
  causeCandidate : CauseCandidate
  evidenceFindingKey : String
  suppressedDescendantCount : Option Int
  deriving DecidableEq, Repr

/-- The key of `warning_state`. -/
structure FindingId where
  host : String
  kind : String
  subject : String
  deriving DecidableEq, Repr

structure Finding where
  host : String
  domain : String
  kind : String
  subject : String
  value : Option F64 := none
  findingClass : String := "signal"
  ruleHash : Option String := none
  stateKind : StateKind
  diagnosis : Option FindingDiagnosis := none
  basisSourceId : Option String := none
  basisWitnessId : Option String := none
  coverageEnvelope : Option CoverageEnvelope := none
  nodeUnobservableEnvelope : Option NodeUnobservableEnvelope := none
  deriving DecidableEq

def Finding.id (f : Finding) : FindingId := ⟨f.host, f.kind, f.subject⟩

end Nq

/-! ## The identity string -/

namespace Nq

open Text

def computeFindingKey (scope host detectorId subject : String) : String :=
  String.ofList (Percent.join scope.toList host detectorId subject)

theorem computeFindingKey_inj {scope h k s h' k' s' : String}
    (e : computeFindingKey scope h k s = computeFindingKey scope h' k' s') : h = h' ∧ k = k' ∧ s = s' := by
  have := congrArg String.toList e
  simp only [computeFindingKey, String.toList_ofList] at this
  exact Percent.join_inj this

/-- The key a native finding's observation is stored under. -/
def Finding.key (f : Finding) : String := computeFindingKey "local" f.host f.kind f.subject

def FindingId.key (k : FindingId) : String := computeFindingKey "local" k.host k.kind k.subject

theorem Finding.key_eq_iff {f f' : Finding} : f.key = f'.key ↔ f.id = f'.id := by
  unfold Finding.key Finding.id
  constructor
  · intro h
    obtain ⟨h1, h2, h3⟩ := computeFindingKey_inj h
    rw [h1, h2, h3]
  · intro h
    injection h with h1 h2 h3
    rw [h1, h2, h3]

example : computeFindingKey "local" "h" "wal_bloat" "/a b" = "local/h/wal_bloat/%2Fa%20b" := by decide

end Nq
