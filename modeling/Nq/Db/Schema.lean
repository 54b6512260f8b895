/-
  Nq.Db.Schema — the tables of the monitor's database (`nq-db/migrations`), as far as
  publishing, the detectors and the finding lifecycle read and write them.

  Each table is keyed by its PRIMARY KEY. The tables of the set-valued collectors have every
  column; of the others, those that no query or statement modelled here reads (display texts)
  are left out. Timestamps are the RFC3339 strings the code stores (`fmt_ts`).
-/

import Nq.Findings.Finding
import Nq.Sql.Table

namespace Nq

open Sql (F64 Table)

/-! ## Generations and collector tables -/

inductive GenerationStatus where
  | complete | partial_ | failed
  deriving DecidableEq, Repr

structure GenerationRow where
  generationId : Int
  startedAt : String
  completedAt : String
  status : GenerationStatus
  sourcesExpected : Nat
  sourcesOk : Nat
  sourcesFailed : Nat
  findingsObserved : Int := 0
  detectorsRun : Int := 0
  findingsSuppressed : Int := 0
  deriving DecidableEq, Repr

inductive SourceStatus where
  | ok | error | timeout
  deriving DecidableEq, Repr

structure SourceRunRow where
  generationId : Int
  source : String
  status : SourceStatus
  deriving DecidableEq, Repr

def SourceRunRow.pk (r : SourceRunRow) : Int × String := (r.generationId, r.source)

/-- A row of a `*_current` table: what one host's collector last reported, and when. -/
structure Current (α : Type) where
  host : String
  row : α
  asOfGeneration : Int
  collectedAt : String
  deriving DecidableEq

/-- A row of a `*_history` table: what one host's collector reported in a generation. The table has
    some of the columns of `row`, those that are read here among them. -/
structure History (α : Type) where
  generationId : Int
  host : String
  row : α
  deriving DecidableEq

structure HostRow where
  cpuLoad1m : Option F64 := none
  memAvailableMb : Option Int := none
  memPressurePct : Option F64 := none
  diskAvailMb : Option Int := none
  diskUsedPct : Option F64 := none
  deriving DecidableEq

inductive ServiceStatus where
  | up | down | degraded | unknown
  deriving DecidableEq, Repr

structure ServiceRow where
  service : String
  status : ServiceStatus
  healthDetailJson : Option String := none
  pid : Option Int := none
  uptimeSeconds : Option Int := none
  lastRestart : Option String := none
  eps : Option F64 := none
  queueDepth : Option Int := none
  consumerLag : Option Int := none
  dropCount : Option Int := none
  deriving DecidableEq

structure SqliteDbRow where
  dbPath : String
  dbSizeMb : Option F64
  walSizeMb : Option F64
  pageSize : Option Int
  pageCount : Option Int := none
  freelistCount : Option Int
  journalMode : Option String := none
  autoVacuum : Option String := none
  lastCheckpoint : Option String := none
  checkpointLagS : Option Int := none
  lastQuickCheck : Option String := none
  lastIntegrityCheck : Option String := none
  lastIntegrityAt : Option String := none
  dbMtime : Option String
  walMtime : Option String
  deriving DecidableEq

structure LogObsRow where
  sourceId : String
  windowStart : String := ""
  windowEnd : String := ""
  fetchStatus : String
  linesTotal : Int
  linesError : Int
  linesWarn : Int := 0
  lastLogTs : Option String := none
  transportLagMs : Option Int := none
  examplesJson : String := "[]"
  deriving DecidableEq, Repr

structure SeriesRow where
  seriesId : Int
  metricName : String
  labelsJson : String
  metricType : Option String
  firstSeenGen : Int
  lastSeenGen : Int
  scrapeTargetName : Option String
  scrapeTargetUrl : Option String
  scrapeTargetCollision : Bool := false
  deriving DecidableEq, Repr

/-- One sample: the series and its value. -/
structure MetricCell where
  seriesId : Int
  value : F64
  deriving DecidableEq

/-- The series dictionary: `UNIQUE (metric_name, labels_json)` beside the key. -/
structure SeriesTable where
  table : Table SeriesRow.seriesId
  unique : (table.rows.map fun s => (s.metricName, s.labelsJson)).Nodup

/-- Which metrics keep history, by exact name or by a prefix and `%`. -/
structure HistoryPolicy where
  pattern : String
  mode : String
  enabled : Bool
  deriving DecidableEq, Repr

/-! ## Witness tables -/

/-- What a witness says of itself, beside its id and its status. -/
structure WitnessHeader where
  witnessType : String := ""
  host : String := ""
  observedSubject : Option String := none
  profileVersion : String := ""
  collectionMode : String := ""
  privilegeModel : String := ""
  collectedAt : String := ""
  durationMs : Option Int := none
  deriving DecidableEq, Repr

structure WitnessRow where
  host : String
  witnessId : String
  header : WitnessHeader := {}
  witnessStatus : String
  asOfGeneration : Int
  receivedAt : String
  deriving DecidableEq, Repr

structure CoverageRow where
  host : String
  tag : String
  canTestify : Bool
  deriving DecidableEq, Repr

def CoverageRow.pk (r : CoverageRow) : String × String := (r.host, r.tag)

structure ZfsPool where
  pool : String
  state : Option String
  healthNumeric : Option Int
  sizeBytes : Option Int
  allocBytes : Option Int
  freeBytes : Option Int
  readonly : Option Bool := none
  fragmentationRatio : Option F64 := none
  deriving DecidableEq

structure ZfsVdev where
  subject : String
  pool : String
  vdevName : Option String := none
  state : Option String
  readErrors : Option Int
  writeErrors : Option Int
  checksumErrors : Option Int
  statusNote : Option String := none
  isSpare : Bool := false
  isReplacing : Bool := false
  deriving DecidableEq, Repr

structure ZfsScan where
  pool : String
  scanType : Option String := none
  scanState : Option String
  lastCompletedAt : Option String
  errorsFound : Option Int := none
  deriving DecidableEq, Repr

structure ZfsSpare where
  subject : String
  pool : String
  spareName : Option String := none
  state : Option String := none
  isActive : Bool
  replacingVdevGuid : Option String := none
  deriving DecidableEq, Repr

structure SmartDevice where
  subject : String
  devicePath : String := ""
  deviceClass : String
  protocol : String := ""
  collectionOutcome : String
  model : Option String := none
  serialNumber : Option String := none
  firmwareVersion : Option String := none
  capacityBytes : Option Int := none
  logicalBlockSize : Option Int := none
  smartAvailable : Option Bool := none
  smartEnabled : Option Bool := none
  smartOverallPassed : Option Bool
  temperatureC : Option Int
  powerOnHours : Option Int := none
  uncorrectedReadErrors : Option Int
  uncorrectedWriteErrors : Option Int
  uncorrectedVerifyErrors : Option Int
  mediaErrors : Option Int
  nvmePercentageUsed : Option Int
  nvmeAvailableSparePct : Option Int
  nvmeCriticalWarning : Option Int
  nvmeUnsafeShutdowns : Option Int := none
  reallocatedSectorCount : Option Int
  rawJson : Option String := none
  rawTruncated : Option Bool := none
  rawOriginalBytes : Option Int := none
  rawTruncatedBytes : Option Int := none
  deriving DecidableEq, Repr

structure DeviceCoverageRow where
  host : String
  subject : String
  tag : String
  canTestify : Bool
  deriving DecidableEq, Repr

def DeviceCoverageRow.pk (r : DeviceCoverageRow) : String × String × String := (r.host, r.subject, r.tag)

/-! ## Saved queries -/

inductive CheckMode where
  | none_ | nonEmpty | empty | threshold
  deriving DecidableEq, Repr

structure SavedQuery where
  queryId : Int
  name : String
  sqlText : String
  checkMode : Option CheckMode
  checkThreshold : Option F64
  checkColumn : Option String
  deriving DecidableEq

/-- `saved_queries`: `name` is UNIQUE beside the key. -/
structure SavedQueries where
  table : Table SavedQuery.queryId
  unique : (table.rows.map SavedQuery.name).Nodup

/-! ## The finding lifecycle -/

inductive Visibility where
  | observed | suppressed
  deriving DecidableEq, Repr

inductive SuppressionKind where
  | ancestorLoss | operatorDeclaration
  deriving DecidableEq, Repr

inductive SuppressionReason where
  | hostUnreachable | sourceUnreachable | witnessUnobservable
  deriving DecidableEq, Repr

inductive BasisState where
  | live | stale | retired | invalidated | unknown
  deriving DecidableEq, Repr

inductive WorkState where
  | new | acknowledged | watching | quiesced | closed | suppressed
  deriving DecidableEq, Repr

inductive MaintenanceState where
  | none_ | covered | overrun
  deriving DecidableEq, Repr

inductive OriginSource where
  | nq | import_
  deriving DecidableEq, Repr

inductive OriginMode where
  | observed | drill | replay | synthetic
  deriving DecidableEq, Repr

/-- The shared silence columns (`silence_scope`, `_basis`, `_duration_s`, `_expected`). -/
structure Silence where
  scope : Option String := none
  basis : Option String := none
  durationS : Option Int := none
  expected : Option String := none
  deriving DecidableEq, Repr

/-- A row of `warning_state`; the defaults are the columns' DEFAULT clauses. -/
structure WarningRow where
  host : String
  kind : String
  subject : String
  domain : String := ""
  severity : String := "info"
  firstSeenGen : Int
  firstSeenAt : String
  lastSeenGen : Int
  lastSeenAt : String
  consecutiveGens : Int := 1
  peakValue : Option F64 := none
  findingClass : String := "signal"
  ruleHash : Option String := none
  absentGens : Int := 0
  entityGoneGens : Int := 0
  visibilityState : Visibility := .observed
  suppressionKind : Option SuppressionKind := none
  suppressionReason : Option SuppressionReason := none
  suppressionDeclarationId : Option String := none
  suppressedSinceGen : Option Int := none
  stability : Option Stability := none
  diagnosis : Option FindingDiagnosis := none
  basisState : BasisState := .unknown
  basisSourceId : Option String := none
  basisWitnessId : Option String := none
  lastBasisGeneration : Option Int := none
  basisStateAt : Option String := none
  stateKind : StateKind := .legacyUnclassified
  coverageEnvelope : Option CoverageEnvelope := none
  nodeUnobservable : Option NodeUnobservableEnvelope := none
  silence : Silence := {}
  originSource : OriginSource := .nq
  originProducerId : Option String := none
  originExtractionRunId : Option String := none
  originProducerExtractionTime : Option String := none
  originImportContractVersion : Option Int := none
  originMode : OriginMode := .observed
  workState : WorkState := .new
  workStateAt : Option String := none
  acknowledged : Bool := false
  acknowledgedAt : Option String := none
  ackExpiresAt : Option String := none
  owner : Option String := none
  note : Option String := none
  notifiedSeverity : Option String := none
  maintenanceState : MaintenanceState := .none_
  maintenanceId : Option String := none
  deriving DecidableEq

def WarningRow.id (r : WarningRow) : FindingId := ⟨r.host, r.kind, r.subject⟩

/-- `warning_state`. -/
abbrev WarningState := Table WarningRow.id

structure ObservationRow where
  generationId : Int
  findingKey : String
  detectorId : String
  host : String
  subject : String
  domain : String
  severity : String
  value : Option F64 := none
  findingClass : String := "signal"
  ruleHash : Option String := none
  observedAt : String
  deriving DecidableEq

/-- `UNIQUE (generation_id, finding_key)`. -/
def ObservationRow.pk (o : ObservationRow) : Int × String := (o.generationId, o.findingKey)

structure TransitionRow where
  id : FindingId
  fromState : String
  toState : String
  changedBy : Option String
  note : Option String
  createdAt : String
  deriving DecidableEq, Repr

structure MaintenanceDeclaration where
  maintenanceId : String
  declaredAt : String
  startAt : String
  endAt : String
  host : String
  kind : String
  subject : Option String
  deriving DecidableEq, Repr

structure RetiredSource where
  sourceId : String
  retiredAt : String
  retiredReason : String
  retiredBy : String
  deriving DecidableEq, Repr

inductive AbsenceState where
  | neverObserved | previouslyObservedExpired
  deriving DecidableEq, Repr

/-- A row of `coverage_testimony_absence_details`. -/
structure AbsenceDetailRow where
  findingKey : String
  componentId : String
  subjectId : String
  claimKind : String
  coverageRuleId : Int
  coverageRuleHash : String
  absenceState : AbsenceState
  expectedAfter : Option String
  expectedBy : Option String
  lastObservedAt : Option String
  lastEmissionId : Option String
  standingResolverId : String
  escalationTarget : String
  evaluationEngineId : String
  deriving DecidableEq, Repr

/-! ## The database -/

structure Db where
  generations : Table GenerationRow.generationId
  sourceRuns : Table SourceRunRow.pk
  hostsCurrent : Table (Current.host : Current HostRow → String)
  hostsHistory : Table (fun h : History HostRow => (h.generationId, h.host))
  servicesCurrent : Table (fun c : Current ServiceRow => (c.host, c.row.service))
  servicesHistory : Table (fun h : History ServiceRow => (h.generationId, h.host, h.row.service))
  monitoredDbsCurrent : Table (fun c : Current SqliteDbRow => (c.host, c.row.dbPath))
  series : SeriesTable
  metricsCurrent : Table (fun c : Current MetricCell => (c.host, c.row.seriesId))
  metricsHistory : List (History MetricCell)
  metricHistoryPolicy : Table HistoryPolicy.pattern
  logObservationsCurrent : Table (fun c : Current LogObsRow => (c.host, c.row.sourceId))
  logObservationsHistory : Table (fun h : History LogObsRow => (h.generationId, h.host, h.row.sourceId))
  zfsWitnessCurrent : Table WitnessRow.host
  zfsWitnessCoverageCurrent : Table CoverageRow.pk
  zfsPoolsCurrent : Table (fun c : Current ZfsPool => (c.host, c.row.pool))
  zfsPoolsHistory : Table (fun h : History ZfsPool => (h.generationId, h.host, h.row.pool))
  zfsVdevsCurrent : Table (fun c : Current ZfsVdev => (c.host, c.row.subject))
  zfsVdevErrorsHistory : Table (fun h : History ZfsVdev => (h.generationId, h.host, h.row.subject))
  zfsScansCurrent : Table (fun c : Current ZfsScan => (c.host, c.row.pool))
  zfsSparesHistory : Table (fun h : History ZfsSpare => (h.generationId, h.host, h.row.subject))
  smartWitnessCurrent : Table WitnessRow.host
  smartDevicesCurrent : Table (fun c : Current SmartDevice => (c.host, c.row.subject))
  smartDeviceCoverageCurrent : Table DeviceCoverageRow.pk
  smartReallocatedHistory : Table (fun h : History SmartDevice => (h.generationId, h.host, h.row.subject))
  savedQueries : SavedQueries
  warningState : WarningState
  findingObservations : Table ObservationRow.pk
  findingTransitions : List TransitionRow
  maintenanceDeclarations : Table MaintenanceDeclaration.maintenanceId
  sourcesRetired : Table RetiredSource.sourceId
  absenceDetails : Table AbsenceDetailRow.findingKey

/-- A freshly migrated database, without the stock saved queries. -/
def Db.init : Db where
  generations := .empty
  sourceRuns := .empty
  hostsCurrent := .empty
  hostsHistory := .empty
  servicesCurrent := .empty
  servicesHistory := .empty
  monitoredDbsCurrent := .empty
  series := ⟨.empty, List.nodup_nil⟩
  metricsCurrent := .empty
  metricsHistory := []
  metricHistoryPolicy := .empty
  logObservationsCurrent := .empty
  logObservationsHistory := .empty
  zfsWitnessCurrent := .empty
  zfsWitnessCoverageCurrent := .empty
  zfsPoolsCurrent := .empty
  zfsPoolsHistory := .empty
  zfsVdevsCurrent := .empty
  zfsVdevErrorsHistory := .empty
  zfsScansCurrent := .empty
  zfsSparesHistory := .empty
  smartWitnessCurrent := .empty
  smartDevicesCurrent := .empty
  smartDeviceCoverageCurrent := .empty
  smartReallocatedHistory := .empty
  savedQueries := ⟨.empty, List.nodup_nil⟩
  warningState := .empty
  findingObservations := .empty
  findingTransitions := []
  maintenanceDeclarations := .empty
  sourcesRetired := .empty
  absenceDetails := .empty

/-- Why a statement, and with it its transaction, is refused. -/
inductive DbError where
  | uniqueViolation
  | foreignKeyViolation
  | notNullViolation
  | checkViolation
  | originModeUnknown
  | notFindingProducing
  deriving DecidableEq, Repr

end Nq
