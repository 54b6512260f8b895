/-
  Nq.Detect.Trend — the detectors over history: drift, flapping, dropout, regime shifts
  and logs (`nq-db/src/detect.rs`).

  A trend detector needs a few generations of history before it says anything. Its window
  is the last twelve generations, counted back from the latest one.
-/

import Nq.Detect.Views

namespace Nq

open Sql (F64)

/-! ## Resource drift -/

/-- `0.05` and `0.1` as doubles. -/
def f64Twentieth : F64 := .fin (3602879701896397 / 72057594037927936)
def f64Tenth : F64 := .fin (3602879701896397 / 36028797018963968)

section

variable (rows : List (History HostRow)) (host : String)

/-- The host's row with row number 1, and those with 2 to 12. -/
def driftLatest : List (History HostRow) :=
  rows.filter fun h => h.host = host ∧ Sql.rowNumber History.host History.generationId rows h = 1

def driftTrailing : List (History HostRow) :=
  rows.filter fun h => h.host = host ∧ 2 ≤ Sql.rowNumber History.host History.generationId rows h ∧
    Sql.rowNumber History.host History.generationId rows h ≤ 12

/-- One resource of the host: its value now against the trailing average. -/
def resourceDrift (arith : Arith) (subject : String) (read : HostRow → Option F64) (worse : F64 → F64 → Bool) :
    List Finding :=
  match ((driftLatest rows host).filterMap fun h => read h.row).head?,
      arith.avg ((driftTrailing rows host).filterMap fun h => read h.row) with
  | some now, some avg =>
    if worse now avg then
      [{ host, domain := "Δh", kind := "resource_drift", subject, value := some now
         stateKind := .informational, diagnosis := some ⟨.pressure, .noneCurrent, .watch⟩ }]
    else []
  | _, _ => []

end

def detectResourceDrift (env : Env) (db : Db) : List Finding :=
  let rows := db.hostsHistory.rows
  if generationCount rows < 6 then []
  else ((Sql.groups History.host rows).filter fun host => 5 ≤ (driftTrailing rows host).length).flatMap fun host =>
    resourceDrift rows host env.arith "disk" HostRow.diskUsedPct
        (fun now avg => F64.lt (env.arith.add avg 5) now && F64.lt 70 now) ++
      resourceDrift rows host env.arith "memory" HostRow.memPressurePct
        (fun now avg => F64.lt (env.arith.add avg 10) now && F64.lt 60 now) ++
      resourceDrift rows host env.arith "cpu" HostRow.cpuLoad1m
        (fun now avg => F64.lt f64Tenth avg && F64.lt (env.arith.mul avg 2) now && F64.lt 2 now)

/-! ## Flapping and dropout -/

def serviceOf (h : History ServiceRow) : String × String := (h.host, h.row.service)

/-- Changes of state from one row of the service to the next. -/
def transitions (rows : List (History ServiceRow)) (k : String × String) : Nat :=
  (rows.filter fun h => serviceOf h = k ∧
    (Sql.lag serviceOf History.generationId rows h).any (·.row.status ≠ h.row.status)).length

def detectServiceFlap (env : Env) (db : Db) : List Finding :=
  if generationCount db.servicesHistory.rows < 4 then []
  else
    let rows := db.servicesHistory.rows.filter fun h => db.inWindow h.generationId
    ((Sql.groups serviceOf rows).filter fun k => 3 ≤ transitions rows k).map fun k =>
      { host := k.1, domain := "Δh", kind := "service_flap", subject := k.2
        value := some (env.arith.ofInt (transitions rows k))
        stateKind := .degradation, diagnosis := some ⟨.flapping, .degraded, .investigateNow⟩ }

/-- Services in six or more generations of the window that are not current. -/
def Db.vanishedServices (db : Db) : List (String × String) :=
  let rows := db.servicesHistory.rows.filter fun h => db.inWindow h.generationId
  (Sql.groups serviceOf rows).filter fun k =>
    6 ≤ generationCount (rows.filter (serviceOf · = k)) ∧ (db.servicesCurrent.get k).isNone

def sampleOf (h : History MetricCell) : String × Int := (h.host, h.row.seriesId)

/-- Likewise for the series, each with the host it vanished from. -/
def Db.vanishedSeries (db : Db) : List (String × SeriesRow) :=
  let rows := db.metricsHistory.filter fun h => db.inWindow h.generationId
  ((Sql.groups sampleOf rows).filter fun k =>
    6 ≤ generationCount (rows.filter (sampleOf · = k)) ∧ (db.metricsCurrent.get k).isNone).filterMap fun k =>
      (db.series.table.get k.2).map (k.1, ·)

def detectSignalDropout (db : Db) : List Finding :=
  if generationCount db.servicesHistory.rows < 6 then []
  else
    (db.vanishedServices.map fun (host, service) =>
      { host, domain := "Δo", kind := "signal_dropout", subject := service
        stateKind := .degradation, diagnosis := some ⟨.silence, .noneCurrent, .investigateBusinessHours⟩ }) ++
    db.vanishedSeries.map fun (host, s) =>
      { host, domain := "Δo", kind := "signal_dropout", subject := s.metricName
        stateKind := .informational, diagnosis := some ⟨.silence, .noneCurrent, .investigateBusinessHours⟩ }

/-! ## Scrape regime -/

def detectScrapeRegimeShift (env : Env) (db : Db) : List Finding :=
  let latestGen := db.maxGeneration.getD 0
  if latestGen < 12 then []
  else
    let series := db.series.table.rows
    let newCount : Int := (series.filter (·.firstSeenGen = latestGen)).length
    let total : Int := (series.filter (·.lastSeenGen = latestGen)).length
    let vanished : Int := (series.filter fun s => s.lastSeenGen < latestGen ∧ latestGen - 2 ≤ s.lastSeenGen).length
    (if total > 50 ∧ newCount > total / 5 then
      [{ host := "", domain := "Δh", kind := "scrape_regime_shift", subject := "new_series"
         value := some (env.arith.ofInt newCount)
         stateKind := .informational, diagnosis := some ⟨.flapping, .noneCurrent, .investigateBusinessHours⟩ }]
    else []) ++
    if total > 50 ∧ vanished > total / 10 then
      [{ host := "", domain := "Δo", kind := "scrape_regime_shift", subject := "vanished_series"
         value := some (env.arith.ofInt vanished)
         stateKind := .informational, diagnosis := some ⟨.silence, .noneCurrent, .investigateBusinessHours⟩ }]
    else []

/-! ## Logs -/

/-- The rows a source's baseline is taken over: the window without its latest generation. -/
def logBaseline (history : List (History LogObsRow)) (latest : Int)
    (c : Current LogObsRow) : List (History LogObsRow) :=
  history.filter fun h => latest - 12 ≤ h.generationId ∧ h.generationId < latest ∧
    h.host = c.host ∧ h.row.sourceId = c.row.sourceId

/-- No lines now, from a source that averages more than five. -/
def logSilent (arith : Arith) (history : List (History LogObsRow)) (latest : Int) (c : Current LogObsRow) : Bool :=
  c.row.linesTotal = 0 && (c.row.fetchStatus = "ok" || c.row.fetchStatus = "source_quiet") &&
    (let baseline := logBaseline history latest c
     (arith.avg (baseline.map fun h => arith.ofInt h.row.linesTotal)).any (F64.lt 5) && 3 ≤ generationCount baseline)

def detectLogSilence (env : Env) (db : Db) : List Finding :=
  let history := db.logObservationsHistory.rows
  if generationCount history < 4 then []
  else (db.logObservationsCurrent.rows.filter fun c =>
      db.maxGeneration.any fun latest => logSilent env.arith history latest c).map fun c =>
    { host := c.host, domain := "Δo", kind := "log_silence", subject := c.row.sourceId, value := some 0
      stateKind := .degradation, diagnosis := some ⟨.silence, .noneCurrent, .investigateBusinessHours⟩ }

def LogObsRow.errorRatio (arith : Arith) (l : LogObsRow) : F64 :=
  if l.linesTotal > 0 then arith.div (arith.ofInt l.linesError) (arith.ofInt l.linesTotal) else 0

/-- Twenty-five errors, or three times the baseline ratio and five points above it. -/
def logShifted (arith : Arith) (history : List (History LogObsRow))
    (latest : Option Int) (c : Current LogObsRow) : Bool :=
  c.row.linesTotal > 0 &&
    (c.row.linesError ≥ 25 ||
      latest.any fun latest =>
        let baseline := logBaseline history latest c
        3 ≤ generationCount baseline && (arith.avg (baseline.map (·.row.errorRatio arith))).any fun avg =>
          F64.ge (c.row.errorRatio arith) (arith.mul avg 3) &&
            F64.ge (c.row.errorRatio arith) (arith.add avg f64Twentieth))

def detectErrorShift (env : Env) (db : Db) : List Finding :=
  let history := db.logObservationsHistory.rows
  if generationCount history < 4 then []
  else (db.logObservationsCurrent.rows.filter (logShifted env.arith history db.maxGeneration ·)).map fun c =>
    { host := c.host, domain := "Δs", kind := "error_shift", subject := c.row.sourceId
      value := some (c.row.errorRatio env.arith)
      stateKind := .degradation, diagnosis := some ⟨.drift, .degraded, .investigateNow⟩ }

end Nq
