/-
  Nq.Detect.Witness — the detectors over witness reports, ZFS and SMART
  (`nq-db/src/detect.rs`).

  A witness declares what it can testify to; a detector whose tag is absent or demoted
  says nothing about that host or device. A silent witness is a finding by itself,
  paired with a `node_unobservable` finding on the same witness
  (`push_paired_node_unobservable`).
-/

import Nq.Detect.Views

namespace Nq

open Sql (F64)

/-! ## Coverage -/

def Db.zfsCovers (db : Db) (tag host : String) : Bool :=
  (db.zfsWitnessCoverageCurrent.get (host, tag)).any CoverageRow.canTestify

def Db.zfsWitnessId (db : Db) (host : String) : Option String :=
  (db.zfsWitnessCurrent.get host).map WitnessRow.witnessId

def Db.smartCovers (db : Db) (tag host subject : String) : Bool :=
  (db.smartDeviceCoverageCurrent.get (host, subject, tag)).any DeviceCoverageRow.canTestify

def Db.smartWitnessId (db : Db) (host : String) : Option String :=
  (db.smartWitnessCurrent.get host).map WitnessRow.witnessId

/-- A finding on what a witness reported, with the witness as its basis. -/
def witnessed (witnessId : Option String) (host kind subject : String) (value : Option F64) (stateKind : StateKind)
    (diagnosis : FindingDiagnosis) : Finding :=
  { host, domain := "Δh", kind, subject, value, stateKind, diagnosis := some diagnosis
    basisSourceId := witnessId, basisWitnessId := witnessId }

/-! ## ZFS pools -/

/-- The pools in one state, of hosts whose witness testifies to pool states. -/
def zfsPoolsIn (env : Env) (db : Db) (state kind : String) (stateKind : StateKind) (diagnosis : FindingDiagnosis) :
    List Finding :=
  (db.zfsPoolsCurrent.rows.filter fun c => db.zfsCovers "pool_state" c.host ∧ c.row.state = some state).map fun c =>
    witnessed (db.zfsWitnessId c.host) c.host kind c.row.pool
      (c.row.healthNumeric.map env.arith.ofInt) stateKind diagnosis

def detectZfsPoolDegraded (env : Env) (db : Db) : List Finding :=
  zfsPoolsIn env db "DEGRADED" "zfs_pool_degraded" .degradation ⟨.availability, .degraded, .investigateBusinessHours⟩

def detectZfsPoolSuspended (env : Env) (db : Db) : List Finding :=
  zfsPoolsIn env db "SUSPENDED" "zfs_pool_suspended" .incident ⟨.availability, .immediateRisk, .interveneNow⟩

def zfsPoolAllocWarnPct : F64 := 80
def zfsPoolAllocCriticalPct : F64 := 90

/-- Allocated bytes: as reported, else the size less the free bytes. -/
def ZfsPool.alloc (p : ZfsPool) (size : Int) : Option Int :=
  match p.allocBytes, p.freeBytes with
  | some a, _ => some a
  | none, some f => some (size - f)
  | none, none => none

def ZfsPool.allocPct (arith : Arith) (p : ZfsPool) : Option F64 := do
  let size ← p.sizeBytes
  if size > 0 then
    let alloc ← p.alloc size
    return arith.mul (arith.div (arith.ofInt alloc) (arith.ofInt size)) 100
  else none

def detectZfsPoolCapacityPressure (env : Env) (db : Db) : List Finding :=
  (db.zfsPoolsCurrent.rows.filter fun c => db.zfsCovers "pool_capacity" c.host).filterMap fun c => do
    let allocPct ← c.row.allocPct env.arith
    if F64.lt allocPct zfsPoolAllocWarnPct then none
    else
      let (impact, bias) : ServiceImpact × ActionBias :=
        if F64.ge allocPct zfsPoolAllocCriticalPct then (.immediateRisk, .interveneSoon)
        else (.degraded, .investigateBusinessHours)
      return witnessed (db.zfsWitnessId c.host) c.host "zfs_pool_capacity_pressure"
        c.row.pool (some allocPct) .degradation
        ⟨.saturation, impact, bias⟩

/-- Rows of a history table by their host and a subject in the row. -/
def historyKey {α : Type} (subject : α → String) (h : History α) : String × String := (h.host, subject h.row)

def detectZfsPoolHealthChanged (env : Env) (db : Db) : List Finding :=
  (Sql.lastTwo (historyKey ZfsPool.pool) History.generationId
      (db.zfsPoolsHistory.rows.filter fun h => db.zfsCovers "pool_state" h.host)).filterMap fun (latest, prior) =>
    if latest.row.state = prior.row.state then none
    else
      let improving := latest.row.healthNumeric.any fun c => prior.row.healthNumeric.any (c < ·)
      let (stateKind, impact, bias) : StateKind × ServiceImpact × ActionBias :=
        if improving then (.informational, .noneCurrent, .watch)
        else (.degradation, .degraded, .investigateBusinessHours)
      some (witnessed (db.zfsWitnessId latest.host) latest.host "zfs_pool_health_changed" latest.row.pool
        (latest.row.healthNumeric.map env.arith.ofInt) stateKind ⟨.drift, impact, bias⟩)

def zfsScrubOverdueSeconds : Int := 90 * 86400

def detectZfsScrubOverdue (env : Env) (db : Db) : List Finding :=
  (db.zfsScansCurrent.rows.filter fun c => db.zfsCovers "scrub_completion" c.host).filterMap fun c => do
    let lastCompletedAt ← c.row.lastCompletedAt
    let ageS ← env.arith.elapsedS env.clock.zfsScrub lastCompletedAt
    if c.row.scanState = some "scanning" then none
    else if ageS > zfsScrubOverdueSeconds then
      return witnessed (db.zfsWitnessId c.host) c.host "zfs_scrub_overdue" c.row.pool (some (env.arith.ofInt ageS))
        .maintenance ⟨.drift, .noneCurrent, .investigateBusinessHours⟩
    else none

/-! ## ZFS spares and vdevs -/

def detectZfsSpareActivated (db : Db) : List Finding :=
  (Sql.lastTwo (historyKey ZfsSpare.subject) History.generationId
      (db.zfsSparesHistory.rows.filter fun h => db.zfsCovers "spare_state" h.host)).filterMap fun (latest, prior) =>
    if prior.row.isActive = false ∧ latest.row.isActive = true then
      some (witnessed (db.zfsWitnessId latest.host) latest.host
        "zfs_spare_activated" latest.row.subject none .degradation
        ⟨.availability, .degraded, .investigateBusinessHours⟩)
    else none

/-- The vdevs that cannot serve reads. -/
def Db.faultedVdevs (db : Db) : List (Current ZfsVdev) :=
  db.zfsVdevsCurrent.rows.filter fun c => db.zfsCovers "vdev_state" c.host ∧
    (c.row.state = some "FAULTED" ∨ c.row.state = some "UNAVAIL")

/-- A second faulted vdev of a pool makes each of them an incident. -/
def detectZfsVdevFaulted (env : Env) (db : Db) : List Finding :=
  db.faultedVdevs.map fun c =>
    let poolFaultCount := (db.faultedVdevs.filter fun c' => (c'.host, c'.row.pool) = (c.host, c.row.pool)).length
    let (impact, bias, stateKind) : ServiceImpact × ActionBias × StateKind :=
      if poolFaultCount ≥ 2 then (.immediateRisk, .interveneNow, .incident)
      else (.degraded, .investigateNow, .degradation)
    witnessed (db.zfsWitnessId c.host) c.host "zfs_vdev_faulted" c.row.subject
      (c.row.checksumErrors.map env.arith.ofInt) stateKind ⟨.availability, impact, bias⟩

/-- A difference of two `i64`, which wraps where it overflows (in a build without overflow checks). -/
def signedDelta (current prior : Option Int) : Int := Sql.wrapI64 (current.getD 0 - prior.getD 0)

/-- A counter rose and none fell: a reset is not a rise. -/
def detectZfsErrorCountIncreased (env : Env) (db : Db) : List Finding :=
  (Sql.lastTwo (historyKey ZfsVdev.subject) History.generationId
      (db.zfsVdevErrorsHistory.rows.filter fun h =>
        db.zfsCovers "vdev_state" h.host ∧ db.zfsCovers "vdev_error_counters" h.host)).filterMap fun (latest, prior) =>
    let dr := signedDelta latest.row.readErrors prior.row.readErrors
    let dw := signedDelta latest.row.writeErrors prior.row.writeErrors
    let dc := signedDelta latest.row.checksumErrors prior.row.checksumErrors
    if dr < 0 ∨ dw < 0 ∨ dc < 0 then none
    else if dr = 0 ∧ dw = 0 ∧ dc = 0 then none
    else some (witnessed (db.zfsWitnessId latest.host) latest.host "zfs_error_count_increased" latest.row.subject
      (some (env.arith.ofInt (Sql.wrapI64 (dr + dw + dc)))) .degradation ⟨.drift, .degraded, .investigateNow⟩)

/-! ## Silent witnesses -/

def zfsWitnessStaleSeconds : Int := 300
def smartWitnessStaleSeconds : Int := 300

/-- `witness_status = 'failed' OR received_age_s > threshold`. -/
def WitnessRow.isSilent (arith : Arith) (now : String) (threshold : Int) (w : WitnessRow) : Bool :=
  w.witnessStatus = "failed" || (arith.elapsedS now w.receivedAt).any (threshold < ·)

def witnessSilent (arith : Arith) (now kind : String) (w : WitnessRow) : Finding :=
  { host := w.host, domain := "Δo", kind, subject := w.witnessId
    value := some (arith.ofInt ((arith.elapsedS now w.receivedAt).getD 0)), findingClass := "meta"
    stateKind := .degradation, diagnosis := some ⟨.silence, .noneCurrent, .investigateNow⟩
    basisSourceId := some w.witnessId, basisWitnessId := some w.witnessId }

def pairedNodeUnobservable (silenceKind : String) (w : WitnessRow) : Finding :=
  { host := w.host, domain := "Δo", kind := "node_unobservable", subject := w.witnessId, findingClass := "meta"
    stateKind := .degradation, diagnosis := some ⟨.silence, .noneCurrent, .investigateNow⟩
    basisSourceId := some w.witnessId, basisWitnessId := some w.witnessId
    nodeUnobservableEnvelope := some
      ⟨.witness, .agentUnreachable, computeFindingKey "local" w.host silenceKind w.witnessId, none⟩ }

def Db.silentZfsWitnesses (db : Db) (env : Env) : List WitnessRow :=
  db.zfsWitnessCurrent.rows.filter (·.isSilent env.arith env.clock.zfsWitness zfsWitnessStaleSeconds)

def Db.silentSmartWitnesses (db : Db) (env : Env) : List WitnessRow :=
  db.smartWitnessCurrent.rows.filter (·.isSilent env.arith env.clock.smartWitness smartWitnessStaleSeconds)

def detectZfsWitnessSilent (env : Env) (db : Db) : List Finding :=
  (db.silentZfsWitnesses env).flatMap fun w =>
    [witnessSilent env.arith env.clock.zfsWitness "zfs_witness_silent" w, pairedNodeUnobservable "zfs_witness_silent" w]

def detectSmartWitnessSilent (env : Env) (db : Db) : List Finding :=
  (db.silentSmartWitnesses env).flatMap fun w =>
    [witnessSilent env.arith env.clock.smartWitness "smart_witness_silent" w,
      pairedNodeUnobservable "smart_witness_silent" w]

/-! ## SMART devices -/

/-- The uncorrected and media errors of the counter families the witness testifies to. -/
def SmartDevice.scsiErrors (d : SmartDevice) : Int :=
  Sql.wrapI64 (d.uncorrectedReadErrors.getD 0 + d.uncorrectedWriteErrors.getD 0 + d.uncorrectedVerifyErrors.getD 0)

def Db.smartTotalErrors (db : Db) (c : Current SmartDevice) : Int :=
  Sql.wrapI64 ((if db.smartCovers "scsi_error_counters" c.host c.row.subject then c.row.scsiErrors else 0) +
    if db.smartCovers "nvme_health_log" c.host c.row.subject then c.row.mediaErrors.getD 0 else 0)

/-- A covered counter is above zero. -/
def Db.smartErrs (db : Db) (c : Current SmartDevice) : Bool :=
  (db.smartCovers "scsi_error_counters" c.host c.row.subject &&
    (c.row.uncorrectedReadErrors.getD 0 > 0 || c.row.uncorrectedWriteErrors.getD 0 > 0 ||
      c.row.uncorrectedVerifyErrors.getD 0 > 0)) ||
    (db.smartCovers "nvme_health_log" c.host c.row.subject && c.row.mediaErrors.getD 0 > 0)

def detectSmartStatusLies (env : Env) (db : Db) : List Finding :=
  (db.smartDevicesCurrent.rows.filter fun c => db.smartCovers "smart_overall_status" c.host c.row.subject &&
      c.row.smartOverallPassed = some true && db.smartErrs c).map fun c =>
    witnessed (db.smartWitnessId c.host) c.host "smart_status_lies" c.row.subject
      (some (env.arith.ofInt (db.smartTotalErrors c))) .degradation ⟨.drift, .degraded, .investigateNow⟩

def detectSmartUncorrectedErrorsNonzero (env : Env) (db : Db) : List Finding :=
  (db.smartDevicesCurrent.rows.filter db.smartErrs).map fun c =>
    witnessed (db.smartWitnessId c.host) c.host "smart_uncorrected_errors_nonzero" c.row.subject
      (some (env.arith.ofInt (db.smartTotalErrors c))) .degradation ⟨.drift, .degraded, .investigateNow⟩

/-- A reading of the NVMe health log that meets its test. -/
def nvmeLevel (env : Env) (db : Db) (kind : String) (read : SmartDevice → Option Int) (test : Int → Bool)
    (stateKind : StateKind) (diagnosis : FindingDiagnosis) : List Finding :=
  (db.smartDevicesCurrent.rows.filter fun c =>
      db.smartCovers "nvme_health_log" c.host c.row.subject && (read c.row).any test).map fun c =>
    witnessed (db.smartWitnessId c.host) c.host kind c.row.subject
      ((read c.row).map env.arith.ofInt) stateKind diagnosis

def smartNvmePctUsedThreshold : Int := 80
def smartNvmeAvailableSpareFloor : Int := 10

def detectSmartNvmePercentageUsed (env : Env) (db : Db) : List Finding :=
  nvmeLevel env db "smart_nvme_percentage_used" SmartDevice.nvmePercentageUsed
    (smartNvmePctUsedThreshold ≤ ·) .maintenance
    ⟨.drift, .noneCurrent, .investigateBusinessHours⟩

def detectSmartNvmeAvailableSpareLow (env : Env) (db : Db) : List Finding :=
  nvmeLevel env db "smart_nvme_available_spare_low" SmartDevice.nvmeAvailableSparePct (· ≤ smartNvmeAvailableSpareFloor)
    .maintenance ⟨.drift, .noneCurrent, .investigateBusinessHours⟩

def detectSmartNvmeCriticalWarningSet (env : Env) (db : Db) : List Finding :=
  nvmeLevel env db "smart_nvme_critical_warning_set" SmartDevice.nvmeCriticalWarning (· ≠ 0) .degradation
    ⟨.availability, .degraded, .investigateNow⟩

def detectSmartReallocatedSectorsRising (env : Env) (db : Db) : List Finding :=
  (Sql.lastTwo (historyKey SmartDevice.subject) History.generationId
      (db.smartReallocatedHistory.rows.filter fun h =>
        db.smartCovers "ata_smart_attributes" h.host h.row.subject)).filterMap fun (latest, prior) =>
    let delta := signedDelta latest.row.reallocatedSectorCount prior.row.reallocatedSectorCount
    if delta ≤ 0 then none
    else some (witnessed (db.smartWitnessId latest.host) latest.host
      "smart_reallocated_sectors_rising" latest.row.subject
      (some (env.arith.ofInt delta)) .degradation ⟨.drift, .degraded, .investigateNow⟩)

/-- The warning temperature of a device class, if it has one. -/
def smartTempC (deviceClass : String) : Option Int :=
  if deviceClass = "nvme" then some 70
  else if deviceClass = "scsi" then some 55
  else if deviceClass = "ata" then some 50
  else none

def detectSmartTemperatureHigh (env : Env) (db : Db) : List Finding :=
  (db.smartDevicesCurrent.rows.filter fun c => db.smartCovers "temperature" c.host c.row.subject &&
      c.row.temperatureC.any fun t => (smartTempC c.row.deviceClass).any (· ≤ t)).map fun c =>
    witnessed (db.smartWitnessId c.host) c.host "smart_temperature_high" c.row.subject
      (c.row.temperatureC.map env.arith.ofInt) .degradation ⟨.drift, .degraded, .investigateBusinessHours⟩

end Nq
