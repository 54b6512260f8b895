/-
  Nq.Store.Publish — the whole publish transaction (`nq-db/src/publish.rs`,
  `publish_batch`, `publish_zfs_witness`, `publish_smart_witness`, `publish_gpu_witness`).

  `publishReport` runs `publishBatch` on the core tables and the statements for the other
  tables after it. The source interleaves the two; no statement of one reads or writes a
  table of the other, and an error of either leaves the store as it was (`publish`).
-/

import Nq.Publish.Histories
import Nq.Store.Tables

namespace Nq

open Sql (Table)

/-! ## Service, WAL and binary observations -/

/-- A row with native state and no manager came over a wire that was systemd-only. -/
def ServiceReport.observation (g : Int) (host observedAt : String) (r : ServiceReport) : Option ServiceObservationRow :=
  r.activeState.map fun activeState =>
    { generationId := g, host, serviceManager := r.serviceManager.getD "systemd", serviceName := r.service, activeState
      subState := r.subState, loadState := r.loadState, unitFileState := r.unitFileState, observedAt }

def serviceObservationRows (g : Int) (sets : List (HostSet ServiceReport)) : List ServiceObservationRow :=
  sets.flatMap fun s => s.rows.filterMap (·.observation g s.host s.collectedAt)

/-- The rows of an INSERT loop, refused if one breaks a CHECK clause. -/
def checked {ρ : Type} (check : ρ → Bool) (rows : List ρ) : Except DbError (List ρ) :=
  if rows.all check then .ok rows else .error .checkViolation

/-! ## Witness reports -/

def standingRows (host : String) (s : WitnessStanding) : List StandingRow :=
  s.authoritativeFor.map (StandingRow.mk host · .authoritative) ++
    s.advisoryFor.map (StandingRow.mk host · .advisory) ++ s.inadmissibleFor.map (StandingRow.mk host · .inadmissible)

/-- INSERT OR REPLACE, as for coverage. -/
def publishStanding (host : String) (s : WitnessStanding) (t : Table StandingRow.pk) : Table StandingRow.pk :=
  (standingRows host s).foldl Table.replace (t.delete (·.host = host))

def errorRows (host : String) (errors : List WitnessError) : List WitnessErrorRow :=
  errors.mapIdx fun ordinal e => ⟨host, ordinal, e⟩

def publishErrors (host : String) (errors : List WitnessError) (t : Table WitnessErrorRow.pk) :
    Except DbError (Table WitnessErrorRow.pk) :=
  unique ((t.delete (·.host = host)).insertAll (errorRows host errors))

def ZfsObservation.spare? : ZfsObservation → Option ZfsSpare
  | .spare s => some s
  | _ => none

def publishZfsReport (g : Int) (s : Store) (w : ZfsReport) : Except DbError Store := do
  let spares ← unique ((s.zfsSparesCurrent.delete (·.host = w.host)).insertAll
    ((w.observations.filterMap ZfsObservation.spare?).map fun sp => ⟨w.host, sp, g, w.collectedAt⟩))
  let errors ← publishErrors w.host w.errors s.zfsWitnessErrorsCurrent
  return { s with
    zfsWitnessStandingCurrent := publishStanding w.host w.standing s.zfsWitnessStandingCurrent
    zfsSparesCurrent := spares
    zfsWitnessErrorsCurrent := errors }

def publishSmartReport (s : Store) (w : SmartReport) : Except DbError Store := do
  let errors ← publishErrors w.host w.errors s.smartWitnessErrorsCurrent
  return { s with
    smartWitnessCoverageCurrent := zfsCoverage w.host w.coverage s.smartWitnessCoverageCurrent
    smartWitnessStandingCurrent := publishStanding w.host w.standing s.smartWitnessStandingCurrent
    smartWitnessErrorsCurrent := errors }

/-- The row of a device, as its columns store it. -/
def GpuObservation.device? : GpuObservation → Option GpuDevice
  | .device d => some d.stored
  | _ => none

def GpuObservation.computeApp? : GpuObservation → Option GpuComputeApp
  | .computeApp a => some a
  | _ => none

def gpuDeviceRows (g : Int) (w : GpuReport) : List (Current GpuDevice) :=
  (w.observations.filterMap GpuObservation.device?).map fun d => ⟨w.host, d, g, w.collectedAt⟩

def gpuComputeAppRows (g : Int) (w : GpuReport) : List (Current GpuComputeApp) :=
  (w.observations.filterMap GpuObservation.computeApp?).map fun a => ⟨w.host, a, g, w.collectedAt⟩

/-- `publish_gpu_witness` for one report: a pid that holds memory on two devices keeps its
    last row. -/
def publishGpuWitness (g : Int) (s : Store) (w : GpuReport) : Except DbError Store := do
  let devices ← checked (·.row.check) (gpuDeviceRows g w)
  let devices ← unique ((s.gpuDevicesCurrent.delete (·.host = w.host)).insertAll devices)
  let errors ← publishErrors w.host w.errors s.gpuWitnessErrorsCurrent
  return { s with
    gpuWitnessCurrent := s.gpuWitnessCurrent.replace ⟨w.host, w.witnessId, w.header, w.witnessStatus, g, w.collectedAt⟩
    gpuWitnessCoverageCurrent := zfsCoverage w.host w.coverage s.gpuWitnessCoverageCurrent
    gpuWitnessStandingCurrent := publishStanding w.host w.standing s.gpuWitnessStandingCurrent
    gpuDevicesCurrent := devices
    gpuComputeAppsCurrent :=
      (gpuComputeAppRows g w).foldl Table.replace (s.gpuComputeAppsCurrent.delete (·.host = w.host))
    gpuWitnessErrorsCurrent := errors }

/-! ## The transaction -/

/-- The statements between the core tables and the witness reports. -/
def publishRuns (g : Int) (s : Store) (r : Report) : Except DbError Store := do
  let collectorRuns ← unique (s.collectorRuns.insertAll (r.collectorRuns.map (CollectorRunRow.mk g)))
  let services ← checked ServiceObservationRow.check (serviceObservationRows g r.serviceSets)
  let serviceObservations ← unique (s.serviceObservations.insertAll services)
  let wal ← checked (·.row.check) (historyRows g r.walObservationSets)
  let binaries ← checked (·.row.check) (r.nqBinaryObservationRows.map fun b => ⟨g, b.host, b.data⟩)
  return { s with
    collectorRuns, serviceObservations
    walObservations := s.walObservations ++ wal
    nqBinaryObservations := s.nqBinaryObservations ++ binaries }

def publishReport (s : Store) (r : Report) : Except DbError (Store × PublishResult) := do
  let (core, res) ← publishBatch s.core r.batch
  let s ← publishRuns res.generationId { s with core } r
  let s ← r.zfsWitnessRows.foldlM (publishZfsReport res.generationId) s
  let s ← r.smartWitnessRows.foldlM publishSmartReport s
  let s ← r.gpuWitnessRows.foldlM (publishGpuWitness res.generationId) s
  return (s, res)

/-- The transaction on the connection: an error rolls it back. -/
def Store.publish (s : Store) (r : Report) : Store × Except DbError PublishResult :=
  match publishReport s r with
  | .ok (s', res) => (s', .ok res)
  | .error e => (s, .error e)

/-! ## What a published report leaves -/

variable {r : Report} {res : PublishResult} {s s' : Store} {g : Int}

theorem publishReport_ok (h : publishReport s r = .ok (s', res)) :
    ∃ core s₁ s₂ s₃, publishBatch s.core r.batch = .ok (core, res) ∧
      publishRuns res.generationId { s with core } r = .ok s₁ ∧
      r.zfsWitnessRows.foldlM (publishZfsReport res.generationId) s₁ = .ok s₂ ∧
      r.smartWitnessRows.foldlM publishSmartReport s₂ = .ok s₃ ∧
      r.gpuWitnessRows.foldlM (publishGpuWitness res.generationId) s₃ = .ok s' := by
  obtain ⟨⟨core, res'⟩, h₀, h⟩ := Sql.bind_ok.mp h
  obtain ⟨s₁, h₁, h⟩ := Sql.bind_ok.mp h
  obtain ⟨s₂, h₂, h⟩ := Sql.bind_ok.mp h
  obtain ⟨s₃, h₃, h⟩ := Sql.bind_ok.mp h
  obtain ⟨s₄, h₄, h⟩ := Sql.bind_ok.mp h
  cases h
  exact ⟨core, s₁, s₂, s₃, h₀, h₁, h₂, h₃, h₄⟩

/-- The witness tables of the store blanked: all that its witness reports write. -/
def Store.witnessless (s : Store) : Store :=
  { s with
    zfsWitnessStandingCurrent := .empty, zfsSparesCurrent := .empty, zfsWitnessErrorsCurrent := .empty
    smartWitnessCoverageCurrent := .empty, smartWitnessStandingCurrent := .empty, smartWitnessErrorsCurrent := .empty
    gpuWitnessCurrent := .empty, gpuWitnessCoverageCurrent := .empty, gpuWitnessStandingCurrent := .empty
    gpuDevicesCurrent := .empty, gpuComputeAppsCurrent := .empty, gpuWitnessErrorsCurrent := .empty }

theorem witnessless_publishZfsReport {w : ZfsReport} (h : publishZfsReport g s w = .ok s') :
    s'.witnessless = s.witnessless := by
  obtain ⟨_, _, h⟩ := Sql.bind_ok.mp h
  obtain ⟨_, _, h⟩ := Sql.bind_ok.mp h
  cases h
  rfl

theorem witnessless_publishSmartReport {w : SmartReport} (h : publishSmartReport s w = .ok s') :
    s'.witnessless = s.witnessless := by
  obtain ⟨_, _, h⟩ := Sql.bind_ok.mp h
  cases h
  rfl

theorem witnessless_publishGpuWitness {w : GpuReport} (h : publishGpuWitness g s w = .ok s') :
    s'.witnessless = s.witnessless := by
  obtain ⟨_, _, h⟩ := Sql.bind_ok.mp h
  obtain ⟨_, _, h⟩ := Sql.bind_ok.mp h
  obtain ⟨_, _, h⟩ := Sql.bind_ok.mp h
  cases h
  rfl

theorem checked_ok {ρ : Type} {check : ρ → Bool} {rows rows' : List ρ} :
    checked check rows = .ok rows' ↔ rows.all check = true ∧ rows = rows' := by
  unfold checked
  by_cases h : rows.all check = true
  · simp [h]
  · simp [h]

/-- What `publishRuns` adds: rows of its own generation, to tables outside the core. -/
structure RunsPublished (g : Int) (s s' : Store) : Prop where
  core : s'.core = s.core
  collectorRuns : Gains CollectorRunRow.generationId g s.collectorRuns.rows s'.collectorRuns.rows
  services : Gains ServiceObservationRow.generationId g s.serviceObservations.rows s'.serviceObservations.rows
  wal : Gains History.generationId g s.walObservations s'.walObservations
  binaries : Gains History.generationId g s.nqBinaryObservations s'.nqBinaryObservations
  frame : s' = { s with
    collectorRuns := s'.collectorRuns
    serviceObservations := s'.serviceObservations
    walObservations := s'.walObservations
    nqBinaryObservations := s'.nqBinaryObservations }

theorem generationId_serviceObservationRows {sets : List (HostSet ServiceReport)} {o : ServiceObservationRow}
    (ho : o ∈ serviceObservationRows g sets) : o.generationId = g := by
  obtain ⟨s, _, ho⟩ := List.mem_flatMap.mp ho
  obtain ⟨r, _, ho⟩ := List.mem_filterMap.mp ho
  obtain ⟨_, _, e⟩ := Option.map_eq_some_iff.mp ho
  rw [← e]

theorem publishRuns_published (h : publishRuns g s r = .ok s') : RunsPublished g s s' := by
  obtain ⟨runs, hruns, h⟩ := Sql.bind_ok.mp h
  obtain ⟨services, hchecked, h⟩ := Sql.bind_ok.mp h
  obtain ⟨observations, hservices, h⟩ := Sql.bind_ok.mp h
  obtain ⟨wal, hwal, h⟩ := Sql.bind_ok.mp h
  obtain ⟨binaries, hbinaries, h⟩ := Sql.bind_ok.mp h
  cases h
  refine ⟨rfl, .insertAll hruns ?_, .insertAll hservices ?_, ⟨wal, rfl, ?_⟩, ⟨binaries, rfl, ?_⟩, rfl⟩
  · intro row hrow
    obtain ⟨_, _, e⟩ := List.mem_map.mp hrow
    rw [← e]
  · intro row hrow
    exact generationId_serviceObservationRows ((checked_ok.mp hchecked).2 ▸ hrow)
  · intro row hrow
    exact generationId_historyRows ((checked_ok.mp hwal).2 ▸ hrow)
  · intro row hrow
    rw [← (checked_ok.mp hbinaries).2] at hrow
    obtain ⟨_, _, e⟩ := List.mem_map.mp hrow
    rw [← e]

/-- A published report, outside the core and the witness tables. -/
theorem publishReport_runs (h : publishReport s r = .ok (s', res)) :
    ∃ core s₁, publishBatch s.core r.batch = .ok (core, res) ∧ RunsPublished res.generationId { s with core } s₁ ∧
      s'.witnessless = s₁.witnessless := by
  obtain ⟨core, s₁, s₂, s₃, h₀, h₁, h₂, h₃, h₄⟩ := publishReport_ok h
  refine ⟨core, s₁, h₀, publishRuns_published h₁, ?_⟩
  have hzfs := Sql.foldlM_keeps (fun _ _ _ => witnessless_publishZfsReport) h₂
  have hsmart := Sql.foldlM_keeps (fun _ _ _ => witnessless_publishSmartReport) h₃
  have hgpu := Sql.foldlM_keeps (fun _ _ _ => witnessless_publishGpuWitness) h₄
  exact hgpu.trans (hsmart.trans hzfs)

end Nq
