/-
  Nq.Publish.Batch — one collection cycle (`nq-core/src/batch.rs`), and the statements that
  write its parts (`nq-db/src/publish.rs`).

  A batch holds what each host's collectors reported. A collector that failed or timed out
  has no entry, and then the rows it reported last stay in the current-state tables; one
  that answered replaces them all (`replaceSets`).

  Tables no detector and no part of the lifecycle reads (collector runs, native service
  states, WAL probe and binary observations, GPU reports, witness standing and errors) are
  in `Nq.Store`.

  A row is stored with its unsigned columns `as i64`, and a NaN as NULL (`stored`).
-/

import Nq.Db.Schema

namespace Nq

open List
open Sql (F64 Table)

/-! ## Batches -/

/-- All a collector reported for one host. -/
structure HostSet (α : Type) where
  host : String
  collectedAt : String
  rows : List α

structure SourceRun where
  source : String
  status : SourceStatus

structure BatchHost where
  host : String
  row : HostRow
  collectedAt : String

structure MetricRow where
  metricName : String
  labelsJson : String
  value : F64
  metricType : Option String := none
  scrapeTargetName : Option String := none
  scrapeTargetUrl : Option String := none

structure WitnessCoverage where
  canTestify : List String
  cannotTestify : List String

inductive ZfsObservation where
  | pool (p : ZfsPool)
  | vdev (v : ZfsVdev)
  | scan (s : ZfsScan)
  | spare (s : ZfsSpare)
  | other

structure ZfsWitnessRow where
  host : String
  collectedAt : String
  witnessId : String
  header : WitnessHeader := {}
  witnessStatus : String
  coverage : WitnessCoverage
  observations : List ZfsObservation

inductive SmartObservation where
  | device (d : SmartDevice) (coverage : WitnessCoverage)
  | other

structure SmartWitnessRow where
  host : String
  collectedAt : String
  witnessId : String
  header : WitnessHeader := {}
  witnessStatus : String
  observations : List SmartObservation

structure Batch where
  cycleStartedAt : String := ""
  cycleCompletedAt : String := ""
  sourcesExpected : Nat := 0
  sourceRuns : List SourceRun := []
  hostRows : List BatchHost := []
  serviceSets : List (HostSet ServiceRow) := []
  sqliteDbSets : List (HostSet SqliteDbRow) := []
  metricSets : List (HostSet MetricRow) := []
  logSets : List (HostSet LogObsRow) := []
  zfsWitnessRows : List ZfsWitnessRow := []
  smartWitnessRows : List SmartWitnessRow := []

namespace Batch

def sourcesOk (b : Batch) : Nat := (b.sourceRuns.filter (·.status = .ok)).length

def sourcesFailed (b : Batch) : Nat := (b.sourceRuns.filter (·.status ≠ .ok)).length

def generationStatus (b : Batch) : GenerationStatus :=
  if b.sourcesFailed = 0 then .complete
  else if b.sourcesOk = 0 then .failed
  else .partial_

end Batch

/-! ## Statements -/

def unique {α : Type} : Option α → Except DbError α
  | some x => .ok x
  | none => .error .uniqueViolation

/-- Delete and replace: DELETE … WHERE host = ?, then an INSERT for each row. -/
def replaceSet {α : Type} (name : α → String) (g : Int) (t : Table fun c : Current α => (c.host, name c.row))
    (s : HostSet α) : Except DbError (Table fun c : Current α => (c.host, name c.row)) :=
  unique ((t.delete (·.host = s.host)).insertAll (s.rows.map fun row => ⟨s.host, row, g, s.collectedAt⟩))

def replaceSets {α : Type} (name : α → String) (g : Int) (t : Table fun c : Current α => (c.host, name c.row))
    (sets : List (HostSet α)) : Except DbError (Table fun c : Current α => (c.host, name c.row)) :=
  sets.foldlM (replaceSet name g) t

/-- The history rows of the same sets. -/
def historyRows {α : Type} (g : Int) (sets : List (HostSet α)) : List (History α) :=
  sets.flatMap fun s => s.rows.map fun row => ⟨g, s.host, row⟩

/-- A row as its columns store it. -/
def HostRow.stored (r : HostRow) : HostRow :=
  { r with
    cpuLoad1m := r.cpuLoad1m.bind F64.bind
    memAvailableMb := r.memAvailableMb.map Sql.wrapI64
    memPressurePct := r.memPressurePct.bind F64.bind
    diskAvailMb := r.diskAvailMb.map Sql.wrapI64
    diskUsedPct := r.diskUsedPct.bind F64.bind }

def ServiceRow.stored (r : ServiceRow) : ServiceRow :=
  { r with
    pid := r.pid.map Sql.wrapI64
    uptimeSeconds := r.uptimeSeconds.map Sql.wrapI64
    eps := r.eps.bind F64.bind }

def SqliteDbRow.stored (r : SqliteDbRow) : SqliteDbRow :=
  { r with
    dbSizeMb := r.dbSizeMb.bind F64.bind
    walSizeMb := r.walSizeMb.bind F64.bind
    pageSize := r.pageSize.map Sql.wrapI64
    pageCount := r.pageCount.map Sql.wrapI64
    freelistCount := r.freelistCount.map Sql.wrapI64
    checkpointLagS := r.checkpointLagS.map Sql.wrapI64 }

def ZfsPool.stored (p : ZfsPool) : ZfsPool := { p with fragmentationRatio := p.fragmentationRatio.bind F64.bind }

def HostSet.map {α β : Type} (f : α → β) (s : HostSet α) : HostSet β := ⟨s.host, s.collectedAt, s.rows.map f⟩

theorem host_overwrite (new c : Current HostRow) : ({ new with host := c.host } : Current HostRow).host = c.host := rfl

/-- ON CONFLICT(host) DO UPDATE of every other column. -/
def upsertHost (t : Table (Current.host : Current HostRow → String)) (new : Current HostRow) :
    Table (Current.host : Current HostRow → String) :=
  t.upsert new (fun c => { new with host := c.host }) (host_overwrite new)

/-! ## Metrics -/

/-- Patterns ending in `%` match as a prefix. -/
def HistoryPolicy.matches (p : HistoryPolicy) (name : String) : Bool :=
  match p.pattern.toList.reverse with
  | '%' :: rest => rest.reverse.isPrefixOf name.toList
  | _ => p.pattern = name

def metricMatchesPolicy (name : String) (policies : List HistoryPolicy) : Bool := policies.any (·.matches name)

namespace SeriesTable

/-- `SELECT … WHERE metric_name = ?1 AND labels_json = ?2`. -/
def find (t : SeriesTable) (m : MetricRow) : Option SeriesRow :=
  t.table.rows.find? fun s => s.metricName = m.metricName ∧ s.labelsJson = m.labelsJson

end SeriesTable

/-- The provenance columns on conflict: two targets under one identity leave neither. -/
def SeriesRow.seenAgain (m : MetricRow) (g : Int) (s : SeriesRow) : SeriesRow :=
  let mismatch := s.scrapeTargetName.any fun old => m.scrapeTargetName.any (old ≠ ·)
  let collided := s.scrapeTargetCollision || mismatch
  { s with
    lastSeenGen := g
    metricType := m.metricType <|> s.metricType
    scrapeTargetCollision := collided
    scrapeTargetName := if collided then none else m.scrapeTargetName <|> s.scrapeTargetName
    scrapeTargetUrl := if collided then none else m.scrapeTargetUrl <|> s.scrapeTargetUrl }

theorem id_seenAgain (m : MetricRow) (g : Int) (s : SeriesRow) : (s.seenAgain m g).seriesId = s.seriesId := rfl

namespace SeriesTable

def newRow (t : SeriesTable) (m : MetricRow) (g : Int) : SeriesRow :=
  { seriesId := t.table.nextRowid, metricName := m.metricName, labelsJson := m.labelsJson, metricType := m.metricType
    firstSeenGen := g, lastSeenGen := g
    scrapeTargetName := m.scrapeTargetName, scrapeTargetUrl := m.scrapeTargetUrl }

/-- The upsert, and the id the lookup after it finds. -/
def upsert (t : SeriesTable) (m : MetricRow) (g : Int) : SeriesTable × Int :=
  match h : t.find m with
  | some s =>
    (⟨t.table.updateKey s.seriesId (·.seenAgain m g) (id_seenAgain m g), by
        have : (t.table.updateKey s.seriesId (·.seenAgain m g) (id_seenAgain m g)).rows.map
            (fun s => (s.metricName, s.labelsJson)) = t.table.rows.map fun s => (s.metricName, s.labelsJson) := by
          rw [Table.updateKey, Table.rows_update, map_map]
          refine map_congr_left fun r _ => ?_
          simp only [Function.comp]
          split <;> rfl
        rw [this]; exact t.unique⟩, s.seriesId)
  | none =>
    (⟨t.table.append (t.newRow m g) t.table.get_nextRowid, by
        have hnot : (m.metricName, m.labelsJson) ∉ t.table.rows.map fun s => (s.metricName, s.labelsJson) := by
          intro hm
          obtain ⟨s, hs, he⟩ := List.mem_map.mp hm
          have := find?_eq_none.mp h s hs
          simp only [Prod.mk.injEq] at he
          simp [he] at this
        show ((t.table.rows ++ [t.newRow m g]).map fun s => (s.metricName, s.labelsJson)).Nodup
        rw [map_append, nodup_append]
        refine ⟨t.unique, nodup_singleton _, ?_⟩
        intro a ha b hb e
        rw [map_singleton, mem_singleton] at hb
        exact hnot (hb ▸ e ▸ ha)⟩, t.table.nextRowid)

end SeriesTable

/-- The three tables a metric sample is written to. -/
structure MetricTables where
  series : SeriesTable
  current : Table fun c : Current MetricCell => (c.host, c.row.seriesId)
  history : List (History MetricCell)

/-- One sample of a host's set. A NaN is bound as NULL, which the column refuses. -/
def publishMetric (policies : List HistoryPolicy) (g : Int) (host collectedAt : String)
    (t : MetricTables) (m : MetricRow) :
    Except DbError MetricTables :=
  match m.value.bind with
  | none => .error .notNullViolation
  | some value => do
    let (series, id) := t.series.upsert m g
    let current ← unique (t.current.insert? ⟨host, ⟨id, value⟩, g, collectedAt⟩)
    return { series, current
             history := if metricMatchesPolicy m.metricName policies then t.history ++ [⟨g, host, ⟨id, value⟩⟩]
               else t.history }

def publishMetricSet (policies : List HistoryPolicy) (g : Int) (t : MetricTables) (s : HostSet MetricRow) :
    Except DbError MetricTables :=
  s.rows.foldlM (publishMetric policies g s.host s.collectedAt) { t with current := t.current.delete (·.host = s.host) }

/-! ## Witnesses -/

/-- The tables of a ZFS report. -/
structure ZfsTables where
  pools : Table fun c : Current ZfsPool => (c.host, c.row.pool)
  poolsHistory : Table fun h : History ZfsPool => (h.generationId, h.host, h.row.pool)
  vdevs : Table fun c : Current ZfsVdev => (c.host, c.row.subject)
  vdevErrorsHistory : Table fun h : History ZfsVdev => (h.generationId, h.host, h.row.subject)
  scans : Table fun c : Current ZfsScan => (c.host, c.row.pool)
  sparesHistory : Table fun h : History ZfsSpare => (h.generationId, h.host, h.row.subject)

def publishZfsObservation (g : Int) (host collectedAt : String)
    (t : ZfsTables) : ZfsObservation → Except DbError ZfsTables
  | .pool p => do
    let pools ← unique (t.pools.insert? ⟨host, p.stored, g, collectedAt⟩)
    let poolsHistory ← unique (t.poolsHistory.insert? ⟨g, host, p.stored⟩)
    return { t with pools, poolsHistory }
  | .vdev v => do
    let vdevs ← unique (t.vdevs.insert? ⟨host, v, g, collectedAt⟩)
    let vdevErrorsHistory ← unique (t.vdevErrorsHistory.insert? ⟨g, host, v⟩)
    return { t with vdevs, vdevErrorsHistory }
  | .scan s => do
    let scans ← unique (t.scans.insert? ⟨host, s, g, collectedAt⟩)
    return { t with scans }
  | .spare s => do
    let sparesHistory ← unique (t.sparesHistory.insert? ⟨g, host, s⟩)
    return { t with sparesHistory }
  | .other => return t

/-- INSERT OR REPLACE of the tags, those that cannot testify last. -/
def zfsCoverage (host : String) (c : WitnessCoverage) (t : Table CoverageRow.pk) : Table CoverageRow.pk :=
  (c.canTestify.map (CoverageRow.mk host · true) ++
    c.cannotTestify.map (CoverageRow.mk host · false)).foldl Table.replace
    (t.delete (·.host = host))

def publishZfsWitness (g : Int) (db : Db) (w : ZfsWitnessRow) : Except DbError Db := do
  let t : ZfsTables :=
    { pools := db.zfsPoolsCurrent.delete (·.host = w.host), poolsHistory := db.zfsPoolsHistory
      vdevs := db.zfsVdevsCurrent.delete (·.host = w.host), vdevErrorsHistory := db.zfsVdevErrorsHistory
      scans := db.zfsScansCurrent.delete (·.host = w.host), sparesHistory := db.zfsSparesHistory }
  let t ← w.observations.foldlM (publishZfsObservation g w.host w.collectedAt) t
  return { db with
    zfsWitnessCurrent := db.zfsWitnessCurrent.replace ⟨w.host, w.witnessId, w.header, w.witnessStatus, g, w.collectedAt⟩
    zfsWitnessCoverageCurrent := zfsCoverage w.host w.coverage db.zfsWitnessCoverageCurrent
    zfsPoolsCurrent := t.pools, zfsPoolsHistory := t.poolsHistory
    zfsVdevsCurrent := t.vdevs, zfsVdevErrorsHistory := t.vdevErrorsHistory
    zfsScansCurrent := t.scans, zfsSparesHistory := t.sparesHistory }

/-- The CHECK clauses of `smart_devices_current`. -/
def SmartDevice.check (d : SmartDevice) : Bool :=
  d.deviceClass ∈ ["nvme", "scsi", "ata", "usb_bridge", "unknown"] &&
    d.collectionOutcome ∈ ["ok", "partial", "unsupported", "permission_denied", "timeout", "error"]

def publishSmartObservation (g : Int) (host collectedAt : String) (db : Db) : SmartObservation → Except DbError Db
  | .device d coverage =>
    if d.check then do
      let devices ← unique (db.smartDevicesCurrent.insert? ⟨host, d, g, collectedAt⟩)
      let history ← unique (db.smartReallocatedHistory.insert? ⟨g, host, d⟩)
      return { db with
        smartDevicesCurrent := devices
        smartReallocatedHistory := history
        smartDeviceCoverageCurrent :=
          (coverage.canTestify.map (DeviceCoverageRow.mk host d.subject · true) ++
            coverage.cannotTestify.map (DeviceCoverageRow.mk host d.subject · false)).foldl Table.replace
              db.smartDeviceCoverageCurrent }
    else .error .checkViolation
  | .other => return db

def publishSmartWitness (g : Int) (db : Db) (w : SmartWitnessRow) : Except DbError Db :=
  w.observations.foldlM (publishSmartObservation g w.host w.collectedAt)
    { db with
      smartWitnessCurrent := db.smartWitnessCurrent.replace
        ⟨w.host, w.witnessId, w.header, w.witnessStatus, g, w.collectedAt⟩
      smartDevicesCurrent := db.smartDevicesCurrent.delete (·.host = w.host)
      smartDeviceCoverageCurrent := db.smartDeviceCoverageCurrent.delete (·.host = w.host) }

end Nq
