/-
  Nq.Detect.Current — the detectors over current state: databases, hosts, services,
  sources and metrics (`nq-db/src/detect.rs`).

  Each is a query and a loop that reads its rows; where the loop reads a column the query
  lets be NULL, a NULL ends the whole run (`column`). What a row has to satisfy is a
  predicate on the row, under its own name where a result refers to it.
-/

import Nq.Detect.Views

namespace Nq

open Sql (F64 collect)

/-! ## Databases -/

/-- The two triggers of `detect_wal_bloat`, on a row whose WAL is not empty. -/
def SqliteDbRow.walBloats (arith : Arith) (config : DetectorConfig) (d : SqliteDbRow) : Bool :=
  d.walSizeMb.any fun walSizeMb => F64.lt 0 walSizeMb && d.dbSizeMb.any fun dbSizeMb =>
    F64.lt config.walPctThreshold ((d.walPct arith).getD 0) ||
      (F64.lt dbSizeMb config.walSmallDbMb && F64.lt config.walAbsFloorMb walSizeMb)

def detectWalBloat (env : Env) (config : DetectorConfig) (db : Db) : Except DetectError (List Finding) :=
  collect (fun v : Viewed SqliteDbRow => do
      let d := v.row.row
      let _ ← column "db_size_mb" d.dbSizeMb
      return if d.walBloats env.arith config then
        [{ host := v.row.host, domain := "Δg", kind := "wal_bloat", subject := d.dbPath, value := d.walSizeMb
           stateKind := .maintenance
           diagnosis := some ⟨.accumulation, .noneCurrent, .investigateBusinessHours⟩ }]
      else [])
    ((db.vSqliteDbs env.arith).filter fun v => v.row.row.walSizeMb.any (F64.lt 0))

/-- The WHERE clause of `detect_pinned_wal`: a WAL above the floor, a main file untouched
    for longer than the stall threshold, and a WAL written after it. -/
def SqliteDbRow.pinsWal (env : Env) (config : DetectorConfig) (d : SqliteDbRow) : Bool :=
  d.walSizeMb.any (F64.lt config.pinnedWalFloorMb) &&
    d.dbMtime.any fun dbMtime => d.walMtime.any fun walMtime =>
      (env.arith.elapsedS env.clock.pinnedWal dbMtime).any (config.pinnedWalStallSeconds < ·) &&
        env.arith.later walMtime dbMtime

def detectPinnedWal (env : Env) (config : DetectorConfig) (db : Db) : List Finding :=
  (db.monitoredDbsCurrent.rows.filter (·.row.pinsWal env config)).map fun c =>
    { host := c.host, domain := "Δg", kind := "pinned_wal", subject := c.row.dbPath, value := c.row.walSizeMb
      stateKind := .maintenance
      diagnosis := some ⟨.accumulation, .noneCurrent, .investigateBusinessHours⟩
      basisSourceId := some c.host }

/-- Both thresholds, percent and absolute. -/
def SqliteDbRow.freelistBloats (arith : Arith) (config : DetectorConfig) (d : SqliteDbRow) : Bool :=
  (d.freelistReclaimableMb arith).any fun reclaimableMb =>
    F64.lt config.freelistPctThreshold ((d.freelistPct arith).getD 0) && F64.lt config.freelistAbsFloorMb reclaimableMb

def detectFreelistBloat (env : Env) (config : DetectorConfig) (db : Db) : List Finding :=
  ((db.vSqliteDbs env.arith).filter (·.row.row.freelistBloats env.arith config)).map fun v =>
    { host := v.row.host, domain := "Δg", kind := "freelist_bloat", subject := v.row.row.dbPath
      value := v.row.row.freelistReclaimableMb env.arith
      stateKind := .maintenance
      diagnosis := some ⟨.accumulation, .noneCurrent, .investigateBusinessHours⟩ }

/-! ## Hosts -/

def detectStaleHosts (env : Env) (config : DetectorConfig) (db : Db) : Except DetectError (List Finding) :=
  collect (fun v : Viewed HostRow => do
      let ageS ← column "age_s" v.ageS
      let (impact, bias, stateKind) : ServiceImpact × ActionBias × StateKind :=
        if v.generationsBehind > 20 then (.immediateRisk, .interveneNow, .incident)
        else if v.generationsBehind > 5 then (.degraded, .investigateNow, .degradation)
        else (.noneCurrent, .investigateBusinessHours, .informational)
      return [{ host := v.row.host, domain := "Δo", kind := "stale_host", subject := ""
                value := some (env.arith.ofInt ageS), stateKind, diagnosis := some ⟨.silence, impact, bias⟩ }])
    ((db.vHosts env.arith).filter fun v => config.staleGenerations < v.generationsBehind)

def detectDiskPressure (env : Env) (db : Db) : Except DetectError (List Finding) :=
  collect (fun v : Viewed HostRow => do
      let pct ← column "disk_used_pct" v.row.row.diskUsedPct
      let _ ← column "disk_avail_mb" v.row.row.diskAvailMb
      let (impact, bias, stateKind) : ServiceImpact × ActionBias × StateKind :=
        if F64.lt 95 pct then (.immediateRisk, .interveneNow, .incident)
        else if F64.lt 90 pct then (.degraded, .investigateNow, .degradation)
        else (.noneCurrent, .investigateBusinessHours, .degradation)
      return [{ host := v.row.host, domain := "Δg", kind := "disk_pressure", subject := "", value := some pct
                stateKind, diagnosis := some ⟨.pressure, impact, bias⟩ }])
    ((db.vHosts env.arith).filter fun v => v.row.row.diskUsedPct.any (F64.lt 90) && !v.isStale)

def detectMemoryPressure (env : Env) (db : Db) : Except DetectError (List Finding) :=
  collect (fun v : Viewed HostRow => do
      let pct ← column "mem_pressure_pct" v.row.row.memPressurePct
      let _ ← column "mem_available_mb" v.row.row.memAvailableMb
      return [{ host := v.row.host, domain := "Δg", kind := "mem_pressure", subject := "", value := some pct
                stateKind := .degradation, diagnosis := some ⟨.pressure, .noneCurrent, .investigateNow⟩ }])
    ((db.vHosts env.arith).filter fun v => v.row.row.memPressurePct.any (F64.lt 85) && !v.isStale)

/-! ## Services and sources -/

def detectStaleServices (env : Env) (config : DetectorConfig) (db : Db) : Except DetectError (List Finding) :=
  collect (fun v : Viewed ServiceRow => do
      let ageS ← column "age_s" v.ageS
      let (impact, bias, stateKind) : ServiceImpact × ActionBias × StateKind :=
        if v.generationsBehind > 10 then (.degraded, .investigateNow, .degradation)
        else (.noneCurrent, .investigateBusinessHours, .informational)
      return [{ host := v.row.host, domain := "Δo", kind := "stale_service", subject := v.row.row.service
                value := some (env.arith.ofInt ageS), stateKind, diagnosis := some ⟨.silence, impact, bias⟩ }])
    ((db.vServices env.arith).filter fun v => config.staleGenerations < v.generationsBehind)

/-- `status NOT IN ('up', 'unknown')`. -/
def ServiceRow.isBad (s : ServiceRow) : Bool := s.status ≠ .up ∧ s.status ≠ .unknown

def detectServiceStatus (env : Env) (db : Db) : List Finding :=
  ((db.vServices env.arith).filter (·.row.row.isBad)).map fun v =>
    let (impact, bias, stateKind) : ServiceImpact × ActionBias × StateKind :=
      match v.row.row.status with
      | .down => (.immediateRisk, .interveneNow, .incident)
      | .degraded => (.degraded, .investigateNow, .degradation)
      | _ => (.noneCurrent, .watch, .informational)
    { host := v.row.host, domain := "Δg", kind := "service_status", subject := v.row.row.service
      stateKind, diagnosis := some ⟨.availability, impact, bias⟩ }

def detectSourceErrors (db : Db) : List Finding :=
  (db.vSources.filter (·.status ≠ .ok)).map fun s =>
    { host := s.source, domain := "Δs", kind := "source_error", subject := ""
      stateKind := .degradation, diagnosis := some ⟨.silence, .noneCurrent, .investigateNow⟩ }

/-! ## Metrics -/

/-- `value != value OR value = 9e999 OR value = -9e999`. -/
def nonFinite (x : F64) : Bool := !F64.eq x x || F64.eq x (.inf false) || F64.eq x (.inf true)

/-- The samples that are not finite, joined with their series. -/
def Db.nonFiniteSamples (db : Db) : List (String × SeriesRow) :=
  db.metricsCurrent.rows.filterMap fun m =>
    if nonFinite m.row.value then (db.series.table.get m.row.seriesId).map (m.host, ·) else none

def detectMetricNan (db : Db) : List Finding :=
  db.nonFiniteSamples.map fun (host, s) =>
    { host, domain := "Δs", kind := "metric_signal", subject := s.metricName
      stateKind := .informational, diagnosis := some ⟨.drift, .noneCurrent, .investigateBusinessHours⟩ }

end Nq
