/-
  Nq.Regime.Features — the regime features of a generation (`regime.rs`, `compute_features`).

  Each pass writes a row for each subject it has something to say of: the persistence of the
  findings that are observed, the recovery of those with an observation in its window, and
  the resolution of the metrics of a host that were under more pressure than they are now.
  What it has nothing to say of keeps the rows of older generations.

  The trajectory, co-occurrence and observability features have types of their own and are
  not read back with these, nor are the columns beside a payload (window, basis, points);
  they are left out.
-/

import Mathlib.Data.List.Sort
import Nq.Detect.Trend
import Nq.Regime.Recovery

namespace Nq.Regime

open Sql (F64 Table)

/-! ## Payloads -/

inductive Direction where
  | rising | falling | flat | bounded | oscillating | unstable
  deriving DecidableEq, Repr

structure TrajectoryPayload where
  metric : String
  direction : Direction
  slopePerGeneration : F64
  firstValue : F64
  lastValue : F64
  samples : Int
  deriving DecidableEq

inductive PersistenceClass where
  | transient | persistent | entrenched
  deriving DecidableEq, Repr

structure PersistencePayload where
  streakLengthGenerations : Int
  presentRatioWindow : F64
  interruptionCount : Int
  windowGenerations : Int
  observedGenerations : Int
  persistenceClass : PersistenceClass
  deriving DecidableEq

inductive RecoveryLagClass where
  | insufficientHistory | normal | slow | pathological
  deriving DecidableEq, Repr

structure RecoveryPayload where
  lastRecoveryLagGenerations : Option Int
  medianRecoveryLagGenerations : Option Int
  lastRecurrenceIntervalGenerations : Option Int
  medianRecurrenceIntervalGenerations : Option Int
  priorCyclesObserved : Int
  windowGenerations : Int
  recoveryLagClass : RecoveryLagClass
  deriving DecidableEq, Repr

inductive RecoveryPhase where
  | acute | improving | settling | steadyState
  deriving DecidableEq, Repr

structure ResolutionPayload where
  metric : String
  recoveryPhase : RecoveryPhase
  growthDirection : Direction
  plateauDepthGenerations : Int
  peakValue : F64
  currentValue : F64
  samples : Int
  deriving DecidableEq

inductive FeaturePayload where
  | persistence (p : PersistencePayload)
  | recovery (p : RecoveryPayload)
  | resolution (p : ResolutionPayload)
  deriving DecidableEq

/-- A row of `regime_features`. -/
structure FeatureRow where
  generationId : Int
  subjectKind : String
  subjectId : String
  featureType : String
  payload : FeaturePayload
  deriving DecidableEq

/-- `UNIQUE (generation_id, subject_kind, subject_id, feature_type)`. -/
def FeatureRow.pk (r : FeatureRow) : Int × String × String × String :=
  (r.generationId, r.subjectKind, r.subjectId, r.featureType)

abbrev FeatureTable := Table FeatureRow.pk

/-- `f64` arithmetic, with what the standard deviation takes. -/
structure Floats extends Arith where
  sub : F64 → F64 → F64
  sqrt : F64 → F64

def f64Abs : F64 → F64
  | .fin q => .fin |q|
  | .inf _ => .inf false
  | .nan => .nan

/-! ## Trajectories -/

section

variable (floats : Floats)

def sum (xs : List F64) : F64 := xs.foldl floats.add 0

/-- Least squares over the generations. -/
def slopeOf (samples : List (Int × F64)) : F64 :=
  let n := floats.ofInt samples.length
  let xMean := floats.div (sum floats (samples.map fun s => floats.ofInt s.1)) n
  let yMean := floats.div (sum floats (samples.map Prod.snd)) n
  let num := sum floats (samples.map fun s => floats.mul (floats.sub (floats.ofInt s.1) xMean) (floats.sub s.2 yMean))
  let den := sum floats (samples.map fun s =>
    floats.mul (floats.sub (floats.ofInt s.1) xMean) (floats.sub (floats.ofInt s.1) xMean))
  if F64.lt 0 den then floats.div num den else 0

def stdDevOf (samples : List (Int × F64)) : F64 :=
  let n := floats.ofInt samples.length
  let yMean := floats.div (sum floats (samples.map Prod.snd)) n
  floats.sqrt (floats.div (sum floats (samples.map fun s =>
    floats.mul (floats.sub s.2 yMean) (floats.sub s.2 yMean))) n)

def buildTrajectory (metric : String) (samples : List (Int × F64)) : TrajectoryPayload :=
  match samples with
  | [] => ⟨metric, .flat, 0, 0, 0, 0⟩
  | first :: rest =>
    let last := (first :: rest).getLast (by simp)
    if (first :: rest).length < 6 then ⟨metric, .flat, 0, first.2, last.2, (first :: rest).length⟩
    else
      let slope := slopeOf floats (first :: rest)
      let direction :=
        if F64.lt (f64Abs slope) f64Twentieth then
          -- 2.0 * 0.05 * 10.0
          if F64.lt 1 (stdDevOf floats (first :: rest)) then .oscillating else .flat
        else if F64.lt 0 slope then .rising
        else .falling
      ⟨metric, direction, slope, first.2, last.2, (first :: rest).length⟩

end

/-! ## Persistence -/

/-- `0.2` and `0.9` as doubles. -/
def f64Fifth : F64 := .fin (3602879701896397 / 18014398509481984)
def f64NineTenths : F64 := .fin (8106479329266893 / 9007199254740992)

def classifyPersistence (streakLength : Int) (presentRatio : F64)
    (interruptionCount windowSize : Int) : PersistenceClass :=
  if streakLength < 5 ∧ interruptionCount ≥ 3 then .transient
  else if F64.lt presentRatio f64Fifth then .transient
  else if F64.ge presentRatio f64NineTenths ∧ streakLength ≥ 50 ∧ windowSize ≥ 50 then .entrenched
  else .persistent

section

variable (floats : Floats) (db : Db) (generationId : Int)

/-- The generations behind `windowStart` in which the finding was observed. -/
def observedIn (key : String) (windowStart : Int) : List Int :=
  ((db.findingObservations.rows.filter fun o => o.findingKey = key ∧
    o.generationId > windowStart).map ObservationRow.generationId).dedup

def persistenceOf (r : WarningRow) : PersistencePayload :=
  let windowSize := min 50 generationId
  let observed : Int := (observedIn db r.id.key (generationId - 50)).length
  let presentRatio := if windowSize > 0 then floats.div (floats.ofInt observed) (floats.ofInt windowSize) else 0
  let interruptions := windowSize - observed
  { streakLengthGenerations := r.consecutiveGens
    presentRatioWindow := presentRatio
    interruptionCount := interruptions
    windowGenerations := windowSize
    observedGenerations := observed
    persistenceClass := classifyPersistence r.consecutiveGens presentRatio interruptions windowSize }

def computeFindingPersistence : List FeatureRow :=
  (db.warningState.rows.filter (·.visibilityState = .observed)).map fun r =>
    ⟨generationId, "finding", r.id.key, "persistence", .persistence (persistenceOf floats db generationId r)⟩

end

/-! ## Recovery -/

def classifyRecoveryLag (lastLag medianLag : Option Int) (priorCycles : Int) : RecoveryLagClass :=
  if priorCycles < 2 then .insufficientHistory
  else
    match lastLag, medianLag with
    | some last, some median =>
      if median ≤ 0 then .insufficientHistory
      else if last ≤ 2 * median then .normal
      else if last ≤ 5 * median then .slow
      else .pathological
    | _, _ => .insufficientHistory

section

variable (db : Db) (generationId : Int)

def recoveryOf (key : String) : RecoveryPayload :=
  let windowStart := max 0 (generationId - 500)
  let cleaned := filterShortAndMergeRuns (buildRuns (observedIn db key windowStart) (windowStart + 1) generationId)
  let (lags, intervals) := extractCycleSamples cleaned
  -- the last cycle is not part of the baseline it is compared with
  let (lastLag, priorLags) := splitLast lags
  let (lastInterval, priorIntervals) := splitLast intervals
  { lastRecoveryLagGenerations := lastLag
    medianRecoveryLagGenerations := medianI64 priorLags
    lastRecurrenceIntervalGenerations := lastInterval
    medianRecurrenceIntervalGenerations := medianI64 priorIntervals
    priorCyclesObserved := priorLags.length
    windowGenerations := generationId - windowStart
    recoveryLagClass := classifyRecoveryLag lastLag (medianI64 priorLags) priorLags.length }

def computeFindingRecovery : List FeatureRow :=
  let keys := ((db.findingObservations.rows.filter fun o =>
    o.generationId > max 0 (generationId - 500)).map ObservationRow.findingKey).dedup
  keys.map fun key => ⟨generationId, "finding", key, "recovery", .recovery (recoveryOf db generationId key)⟩

end

/-! ## Resolution -/

def hostMetrics : List (String × (HostRow → Option F64)) :=
  [("disk_used_pct", HostRow.diskUsedPct), ("mem_pressure_pct", HostRow.memPressurePct),
    ("cpu_load_1m", HostRow.cpuLoad1m)]

def hostMetricSubject (host metric : String) : String := host ++ "/" ++ metric

section

variable (floats : Floats)

def plateauDepth (samples : List (Int × F64)) : Int :=
  match samples.getLast? with
  | none => 0
  | some current =>
    let tol := F64.max (floats.mul (f64Abs current.2) f64Twentieth) f64Twentieth
    (samples.reverse.takeWhile fun s => F64.ge tol (f64Abs (floats.sub s.2 current.2))).length

def classifyRecoveryPhase : Direction → RecoveryPhase
  | .rising => .acute
  | .falling => .improving
  | .flat => .settling
  | .oscillating | .bounded | .unstable => .acute

/-- The metric was under more pressure than it is now, if there is enough of it. -/
def resolutionOf (metric : String) (samples : List (Int × F64)) : Option ResolutionPayload :=
  if samples.length < 10 then none
  else
    match samples.getLast? with
    | none => none
    | some last =>
      let current := last.2
      let peak := (samples.map Prod.snd).foldl F64.max (.inf true)
      let marginFloor := floats.add current (floats.mul (f64Abs current) f64Tenth)
      if F64.lt marginFloor peak then
        let trajectory := buildTrajectory floats metric (samples.drop (samples.length - min samples.length 12))
        some
          { metric
            recoveryPhase := classifyRecoveryPhase trajectory.direction
            growthDirection := trajectory.direction
            plateauDepthGenerations := plateauDepth floats samples
            peakValue := peak
            currentValue := current
            samples := samples.length }
      else none

variable (db : Db) (generationId : Int)

/-- The values of a metric of the host in the window, the oldest first. -/
def metricSamples (host : String) (read : HostRow → Option F64) : List (Int × F64) :=
  ((db.hostsHistory.rows.filter fun h => h.host = host ∧ h.generationId > generationId - 50).insertionSort fun a b =>
    a.generationId ≤ b.generationId).filterMap fun h => (read h.row).map (h.generationId, ·)

def computeHostResolution : List FeatureRow :=
  let hosts := ((db.hostsHistory.rows.filter fun h => h.generationId > generationId - 50).map History.host).dedup
  hosts.flatMap fun host => hostMetrics.filterMap fun m =>
    (resolutionOf floats m.1 (metricSamples db generationId host m.2)).map fun p =>
      ⟨generationId, "host_metric", hostMetricSubject host m.1, "resolution", .resolution p⟩

/-! ## A pass -/

def featuresOf : List FeatureRow :=
  computeFindingPersistence floats db generationId ++ computeFindingRecovery db generationId ++
    computeHostResolution floats db generationId

end

theorem pk_payload (p : FeaturePayload) (r : FeatureRow) : ({ r with payload := p } : FeatureRow).pk = r.pk := rfl

def upsertFeature (t : FeatureTable) (r : FeatureRow) : FeatureTable :=
  t.upsert r ({ · with payload := r.payload }) (pk_payload r.payload)

def computeFeatures (floats : Floats) (db : Db) (generationId : Int) (t : FeatureTable) : FeatureTable :=
  (featuresOf floats db generationId).foldl upsertFeature t

end Nq.Regime
