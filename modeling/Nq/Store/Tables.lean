/-
  Nq.Store.Tables — the whole database a publish transaction and a retention sweep write
  (`nq-db/migrations`), and the full collection cycle (`nq-core/src/batch.rs`).

  `Store` is the database of `Nq.Db.Schema` with the tables no detector reads: collector
  runs, native service states, WAL probe and binary observations, the standing and the
  errors a witness reports, spares, the GPU witness, and the receipts of retention sweeps.
  Rows that other parts of the monitor record under a generation (regime features, DNS,
  observation loop, evaluator) are kept by their generation alone.

  A `Report` is what `pull_all` hands over; `Report.batch` is the part of it that the
  tables of `Nq.Db.Schema` hold.
-/

import Nq.Publish.Serve

namespace Nq

open Sql (F64 Table)

/-! ## Collector runs and observations -/

inductive CollectorKind where
  | host | services | sqliteHealth | prometheus | logs | zfsWitness | smartWitness | gpuWitness | sqliteWalProbe | nqBinary
  deriving DecidableEq, Repr

inductive CollectorStatus where
  | ok | error | timeout | skipped | notSupported
  deriving DecidableEq, Repr

structure CollectorRun where
  source : String
  collector : CollectorKind
  status : CollectorStatus
  entityCount : Option Nat
  deriving DecidableEq, Repr

structure CollectorRunRow where
  generationId : Int
  run : CollectorRun
  deriving DecidableEq, Repr

def CollectorRunRow.pk (r : CollectorRunRow) : Int × String × CollectorKind :=
  (r.generationId, r.run.source, r.run.collector)

/-- A service as its manager reports it; the native state is NULL where none was asked. -/
structure ServiceReport extends ServiceRow where
  activeState : Option String := none
  subState : Option String := none
  loadState : Option String := none
  unitFileState : Option String := none
  serviceManager : Option String := none
  deriving DecidableEq

structure ServiceObservationRow where
  generationId : Int
  host : String
  serviceManager : String
  serviceName : String
  activeState : String
  subState : Option String
  loadState : Option String
  unitFileState : Option String
  observedAt : String
  deriving DecidableEq, Repr

/-- The unique index `idx_service_observations_identity`. -/
def ServiceObservationRow.pk (o : ServiceObservationRow) : Int × String × String × String :=
  (o.generationId, o.host, o.serviceManager, o.serviceName)

def ServiceObservationRow.check (o : ServiceObservationRow) : Bool :=
  o.serviceManager ∈ ["systemd", "docker", "process", "unknown"]

structure WalObservation where
  dbFilePath : String
  observationStatus : String
  walPresent : Option Bool := none
  walBytes : Option Int := none
  walMtime : Option String := none
  dbBytes : Option Int := none
  dbMtime : Option String := none
  procAccess : String
  pinnedReaderPresent : Option Bool := none
  pinnedReaderPid : Option Int := none
  pinnedReaderCommand : Option String := none
  observedAt : String
  errorDetail : Option String := none
  deriving DecidableEq, Repr

/-- The CHECK clauses of `wal_observations`. -/
def WalObservation.check (o : WalObservation) : Bool :=
  let observed : Bool := o.observationStatus = "observed"
  o.observationStatus ∈ ["observed", "target_missing", "permission_denied", "stat_error"] &&
    o.walBytes.all (0 ≤ ·) && o.dbBytes.all (0 ≤ ·) &&
    o.procAccess ∈ ["observed", "unavailable", "permission_denied", "not_attempted"] &&
    (!observed || o.walPresent = some true || (o.walBytes = some 0 && o.walMtime.isNone)) &&
    (o.procAccess = "observed" ||
      (o.pinnedReaderPresent.isNone && o.pinnedReaderPid.isNone && o.pinnedReaderCommand.isNone)) &&
    (o.procAccess ≠ "observed" || o.pinnedReaderPresent.isSome) &&
    (o.pinnedReaderPresent.all id || (o.pinnedReaderPid.isNone && o.pinnedReaderCommand.isNone)) &&
    (o.pinnedReaderPid.isNone == o.pinnedReaderCommand.isNone) &&
    (if observed then
        o.walPresent.isSome && o.walBytes.isSome && o.dbBytes.isSome && o.dbMtime.isSome && o.errorDetail.isNone
      else
        o.walPresent.isNone && o.walBytes.isNone && o.walMtime.isNone && o.dbBytes.isNone && o.dbMtime.isNone &&
          o.errorDetail.isSome)

structure NqBinaryObservation where
  binaryPath : String
  observationStatus : String
  sizeBytes : Option Int := none
  mtime : Option String := none
  contentHash : Option String := none
  observedAt : String
  errorDetail : Option String := none
  deriving DecidableEq, Repr

/-- `length` and `substr` of a text stop at its first NUL character. -/
def sqlChars (s : String) : List Char := s.toList.takeWhile (· ≠ Char.ofNat 0)

/-- The CHECK clauses of `nq_binary_observations`. -/
def NqBinaryObservation.check (o : NqBinaryObservation) : Bool :=
  o.observationStatus ∈ ["observed", "target_missing", "permission_denied", "stat_error", "read_error", "hash_error"] &&
    o.sizeBytes.all (0 ≤ ·) &&
    (if o.observationStatus = "observed" then
        o.sizeBytes.isSome && o.mtime.isSome && o.contentHash.isSome && o.errorDetail.isNone
      else o.sizeBytes.isNone && o.mtime.isNone && o.contentHash.isNone && o.errorDetail.isSome) &&
    o.contentHash.all fun h => (sqlChars h).length = 71 && (sqlChars h).take 7 = "sha256:".toList

/-! ## Witness reports -/

structure WitnessStanding where
  authoritativeFor : List String := []
  advisoryFor : List String := []
  inadmissibleFor : List String := []
  deriving DecidableEq, Repr

inductive FactStanding where
  | authoritative | advisory | inadmissible
  deriving DecidableEq, Repr

structure StandingRow where
  host : String
  fact : String
  standing : FactStanding
  deriving DecidableEq, Repr

def StandingRow.pk (r : StandingRow) : String × String := (r.host, r.fact)

structure WitnessError where
  kind : String
  detail : String
  observedAt : String
  deriving DecidableEq, Repr

structure WitnessErrorRow where
  host : String
  ordinal : Nat
  error : WitnessError
  deriving DecidableEq, Repr

def WitnessErrorRow.pk (r : WitnessErrorRow) : String × Nat := (r.host, r.ordinal)

structure ZfsReport extends ZfsWitnessRow where
  standing : WitnessStanding := {}
  errors : List WitnessError := []

structure SmartReport extends SmartWitnessRow where
  coverage : WitnessCoverage := ⟨[], []⟩
  standing : WitnessStanding := {}
  errors : List WitnessError := []

structure GpuDevice where
  subject : String
  index : Int
  name : String
  collectionOutcome : String
  driverVersion : Option String := none
  pstate : Option String := none
  temperatureC : Option Int := none
  fanSpeedPct : Option Int := none
  utilizationGpuPct : Option Int := none
  utilizationMemPct : Option Int := none
  memoryTotalMib : Option Int := none
  memoryUsedMib : Option Int := none
  powerDrawW : Option F64 := none
  powerLimitW : Option F64 := none
  smClockMhz : Option Int := none
  persistenceMode : Option String := none
  computeMode : Option String := none
  throttleReasonsActive : Option String := none
  eccErrorsCorrectedTotal : Option Int := none
  deriving DecidableEq

def GpuDevice.stored (d : GpuDevice) : GpuDevice :=
  { d with powerDrawW := d.powerDrawW.bind F64.bind, powerLimitW := d.powerLimitW.bind F64.bind }

def GpuDevice.check (d : GpuDevice) : Bool := d.collectionOutcome ∈ ["ok", "partial", "error"]

structure GpuComputeApp where
  gpuUuid : Option String
  pid : Int
  processName : Option String
  usedMemoryMib : Option Int
  deriving DecidableEq, Repr

inductive GpuObservation where
  | device (d : GpuDevice)
  | computeApp (a : GpuComputeApp)
  | other
  deriving DecidableEq

structure GpuReport where
  host : String
  collectedAt : String
  witnessId : String
  header : WitnessHeader := {}
  witnessStatus : String
  coverage : WitnessCoverage := ⟨[], []⟩
  standing : WitnessStanding := {}
  observations : List GpuObservation := []
  errors : List WitnessError := []

structure NqBinaryRow where
  host : String
  data : NqBinaryObservation

/-! ## The report of a cycle -/

structure Report where
  cycleStartedAt : String := ""
  cycleCompletedAt : String := ""
  sourcesExpected : Nat := 0
  sourceRuns : List SourceRun := []
  collectorRuns : List CollectorRun := []
  hostRows : List BatchHost := []
  serviceSets : List (HostSet ServiceReport) := []
  sqliteDbSets : List (HostSet SqliteDbRow) := []
  metricSets : List (HostSet MetricRow) := []
  logSets : List (HostSet LogObsRow) := []
  zfsWitnessRows : List ZfsReport := []
  smartWitnessRows : List SmartReport := []
  gpuWitnessRows : List GpuReport := []
  walObservationSets : List (HostSet WalObservation) := []
  nqBinaryObservationRows : List NqBinaryRow := []

def Report.batch (r : Report) : Batch where
  cycleStartedAt := r.cycleStartedAt
  cycleCompletedAt := r.cycleCompletedAt
  sourcesExpected := r.sourcesExpected
  sourceRuns := r.sourceRuns
  hostRows := r.hostRows
  serviceSets := r.serviceSets.map (·.map ServiceReport.toServiceRow)
  sqliteDbSets := r.sqliteDbSets
  metricSets := r.metricSets
  logSets := r.logSets
  zfsWitnessRows := r.zfsWitnessRows.map ZfsReport.toZfsWitnessRow
  smartWitnessRows := r.smartWitnessRows.map SmartReport.toSmartWitnessRow

/-! ## The store -/

/-- A receipt of a retention sweep. -/
structure TombstoneRow where
  tombstoneId : Int
  generationIdLow : Int
  generationIdHigh : Int
  generationsDeleted : Int
  rowsDeleted : List (String × Nat)
  retentionRuleCited : String
  tombstonedAt : String
  deriving DecidableEq, Repr

/-- The CHECK clauses of `evidence_tombstones`. -/
def TombstoneRow.check (t : TombstoneRow) : Bool := t.generationIdLow ≤ t.generationIdHigh && 0 ≤ t.generationsDeleted

structure Store where
  core : Db
  collectorRuns : Table CollectorRunRow.pk
  serviceObservations : Table ServiceObservationRow.pk
  walObservations : List (History WalObservation)
  nqBinaryObservations : List (History NqBinaryObservation)
  zfsWitnessStandingCurrent : Table StandingRow.pk
  zfsSparesCurrent : Table (fun c : Current ZfsSpare => (c.host, c.row.subject))
  zfsWitnessErrorsCurrent : Table WitnessErrorRow.pk
  smartWitnessCoverageCurrent : Table CoverageRow.pk
  smartWitnessStandingCurrent : Table StandingRow.pk
  smartWitnessErrorsCurrent : Table WitnessErrorRow.pk
  gpuWitnessCurrent : Table WitnessRow.host
  gpuWitnessCoverageCurrent : Table CoverageRow.pk
  gpuWitnessStandingCurrent : Table StandingRow.pk
  gpuDevicesCurrent : Table (fun c : Current GpuDevice => (c.host, c.row.subject))
  gpuComputeAppsCurrent : Table (fun c : Current GpuComputeApp => (c.host, c.row.pid))
  gpuWitnessErrorsCurrent : Table WitnessErrorRow.pk
  regimeFeatures : List Int
  dnsObservations : List Int
  observationLoopAliveObservations : List Int
  nqEvaluatorObservations : List Int
  evidenceTombstones : Table TombstoneRow.tombstoneId

/-- A store with the witness and retention tables of a freshly migrated database. -/
def Store.of (core : Db) : Store where
  core := core
  collectorRuns := .empty
  serviceObservations := .empty
  walObservations := []
  nqBinaryObservations := []
  zfsWitnessStandingCurrent := .empty
  zfsSparesCurrent := .empty
  zfsWitnessErrorsCurrent := .empty
  smartWitnessCoverageCurrent := .empty
  smartWitnessStandingCurrent := .empty
  smartWitnessErrorsCurrent := .empty
  gpuWitnessCurrent := .empty
  gpuWitnessCoverageCurrent := .empty
  gpuWitnessStandingCurrent := .empty
  gpuDevicesCurrent := .empty
  gpuComputeAppsCurrent := .empty
  gpuWitnessErrorsCurrent := .empty
  regimeFeatures := []
  dnsObservations := []
  observationLoopAliveObservations := []
  nqEvaluatorObservations := []
  evidenceTombstones := .empty

end Nq
