/-
  Nq.Store.Replaced — what a published report leaves in every table.

  Each set-valued collector deletes the rows of a host it has an entry for and inserts the
  entry's own. So a host with an entry holds the rows of its last one, under the new
  generation, and any other host what it held (`publish_replaces`); coverage, standing and
  GPU processes are written with INSERT OR REPLACE, so of two rows under one key the last
  stays. The histories gain rows of the new generation alone, which is newer than every
  generation in the store. A report that is refused changes nothing.
-/

import Nq.Publish.ScrapeTarget
import Nq.Sql.Replace
import Nq.Store.Publish

namespace Nq

open List
open Sql (F64 Table Replaced ReplacedBy lastPerKey)

/-! ## The rows of an entry -/

/-- The rows a set leaves in a current-state table. -/
def HostSet.current {α : Type} (g : Int) (s : HostSet α) : List (Current α) :=
  s.rows.map fun row => ⟨s.host, row, g, s.collectedAt⟩

/-- The row of a sample, under the id its series has in the dictionary. -/
def sampleRow (series : SeriesTable) (g : Int) (host collectedAt : String) (m : MetricRow) :
    Option (Current MetricCell) :=
  (series.find m).bind fun r => m.value.bind.map fun v => ⟨host, ⟨r.seriesId, v⟩, g, collectedAt⟩

def metricRows (series : SeriesTable) (g : Int) (s : HostSet MetricRow) : List (Current MetricCell) :=
  s.rows.filterMap (sampleRow series g s.host s.collectedAt)

def coverageRows (host : String) (c : WitnessCoverage) : List CoverageRow :=
  c.canTestify.map (CoverageRow.mk host · true) ++ c.cannotTestify.map (CoverageRow.mk host · false)

def ZfsReport.row (g : Int) (w : ZfsReport) : WitnessRow :=
  ⟨w.host, w.witnessId, w.header, w.witnessStatus, g, w.collectedAt⟩

def SmartReport.row (g : Int) (w : SmartReport) : WitnessRow :=
  ⟨w.host, w.witnessId, w.header, w.witnessStatus, g, w.collectedAt⟩

def GpuReport.row (g : Int) (w : GpuReport) : WitnessRow :=
  ⟨w.host, w.witnessId, w.header, w.witnessStatus, g, w.collectedAt⟩

/-- The row of a pool, as its columns store it. -/
def ZfsObservation.pool? : ZfsObservation → Option ZfsPool
  | .pool p => some p.stored
  | _ => none

def ZfsObservation.vdev? : ZfsObservation → Option ZfsVdev
  | .vdev v => some v
  | _ => none

def ZfsObservation.scan? : ZfsObservation → Option ZfsScan
  | .scan s => some s
  | _ => none

/-- The observations of one kind, as a set of the report's host. -/
def ZfsReport.set {α : Type} (w : ZfsReport) (kind : ZfsObservation → Option α) : HostSet α :=
  ⟨w.host, w.collectedAt, w.observations.filterMap kind⟩

def SmartObservation.device? : SmartObservation → Option SmartDevice
  | .device d _ => some d
  | .other => none

def SmartReport.devices (w : SmartReport) : HostSet SmartDevice :=
  ⟨w.host, w.collectedAt, w.observations.filterMap SmartObservation.device?⟩

def SmartObservation.coverageRows (host : String) : SmartObservation → List DeviceCoverageRow
  | .device d c =>
    c.canTestify.map (DeviceCoverageRow.mk host d.subject · true) ++
      c.cannotTestify.map (DeviceCoverageRow.mk host d.subject · false)
  | .other => []

def SmartReport.deviceCoverage (w : SmartReport) : List DeviceCoverageRow :=
  w.observations.flatMap (·.coverageRows w.host)

/-! ## What is left -/

/-- The tables of the set-valued collectors and their histories, after a report. -/
structure SetsReplaced (g : Int) (r : Report) (db db' : Db) : Prop where
  services : Replaced Current.host HostSet.host
    (fun e => ((e.map ServiceReport.toServiceRow).map ServiceRow.stored).current g) r.serviceSets
    db.servicesCurrent.rows db'.servicesCurrent.rows
  monitoredDbs : Replaced Current.host HostSet.host (fun e => (e.map SqliteDbRow.stored).current g) r.sqliteDbSets
    db.monitoredDbsCurrent.rows db'.monitoredDbsCurrent.rows
  metrics : Replaced Current.host HostSet.host (metricRows db'.series g) r.metricSets
    db.metricsCurrent.rows db'.metricsCurrent.rows
  samples : ∀ e ∈ r.metricSets, ∀ m ∈ e.rows, (sampleRow db'.series g e.host e.collectedAt m).isSome = true
  logs : Replaced Current.host HostSet.host (HostSet.current g) r.logSets
    db.logObservationsCurrent.rows db'.logObservationsCurrent.rows

structure ZfsReplaced (g : Int) (r : Report) (s s' : Store) : Prop where
  witness : Replaced WitnessRow.host (·.host) (fun w => [w.row g])
    r.zfsWitnessRows s.core.zfsWitnessCurrent.rows s'.core.zfsWitnessCurrent.rows
  coverage : Replaced CoverageRow.host (·.host) (fun w => lastPerKey CoverageRow.pk (coverageRows w.host w.coverage))
    r.zfsWitnessRows s.core.zfsWitnessCoverageCurrent.rows s'.core.zfsWitnessCoverageCurrent.rows
  standing : Replaced StandingRow.host (·.host) (fun w => lastPerKey StandingRow.pk (standingRows w.host w.standing))
    r.zfsWitnessRows s.zfsWitnessStandingCurrent.rows s'.zfsWitnessStandingCurrent.rows
  pools : Replaced Current.host (·.host) (fun w => (w.set ZfsObservation.pool?).current g) r.zfsWitnessRows
    s.core.zfsPoolsCurrent.rows s'.core.zfsPoolsCurrent.rows
  vdevs : Replaced Current.host (·.host) (fun w => (w.set ZfsObservation.vdev?).current g) r.zfsWitnessRows
    s.core.zfsVdevsCurrent.rows s'.core.zfsVdevsCurrent.rows
  scans : Replaced Current.host (·.host) (fun w => (w.set ZfsObservation.scan?).current g) r.zfsWitnessRows
    s.core.zfsScansCurrent.rows s'.core.zfsScansCurrent.rows
  spares : Replaced Current.host (·.host) (fun w => (w.set ZfsObservation.spare?).current g) r.zfsWitnessRows
    s.zfsSparesCurrent.rows s'.zfsSparesCurrent.rows
  errors : Replaced WitnessErrorRow.host (·.host) (fun w => errorRows w.host w.errors) r.zfsWitnessRows
    s.zfsWitnessErrorsCurrent.rows s'.zfsWitnessErrorsCurrent.rows

structure SmartReplaced (g : Int) (r : Report) (s s' : Store) : Prop where
  witness : Replaced WitnessRow.host (·.host) (fun w => [w.row g])
    r.smartWitnessRows s.core.smartWitnessCurrent.rows s'.core.smartWitnessCurrent.rows
  coverage : Replaced CoverageRow.host (·.host) (fun w => lastPerKey CoverageRow.pk (coverageRows w.host w.coverage))
    r.smartWitnessRows s.smartWitnessCoverageCurrent.rows s'.smartWitnessCoverageCurrent.rows
  standing : Replaced StandingRow.host (·.host) (fun w => lastPerKey StandingRow.pk (standingRows w.host w.standing))
    r.smartWitnessRows s.smartWitnessStandingCurrent.rows s'.smartWitnessStandingCurrent.rows
  devices : Replaced Current.host (·.host) (fun w => w.devices.current g) r.smartWitnessRows
    s.core.smartDevicesCurrent.rows s'.core.smartDevicesCurrent.rows
  deviceCoverage : Replaced DeviceCoverageRow.host (·.host) (fun w => lastPerKey DeviceCoverageRow.pk w.deviceCoverage)
    r.smartWitnessRows s.core.smartDeviceCoverageCurrent.rows s'.core.smartDeviceCoverageCurrent.rows
  errors : Replaced WitnessErrorRow.host (·.host) (fun w => errorRows w.host w.errors) r.smartWitnessRows
    s.smartWitnessErrorsCurrent.rows s'.smartWitnessErrorsCurrent.rows

structure GpuReplaced (g : Int) (r : Report) (s s' : Store) : Prop where
  witness : Replaced WitnessRow.host GpuReport.host (fun w => [w.row g])
    r.gpuWitnessRows s.gpuWitnessCurrent.rows s'.gpuWitnessCurrent.rows
  coverage : Replaced CoverageRow.host GpuReport.host
    (fun w => lastPerKey CoverageRow.pk (coverageRows w.host w.coverage))
      r.gpuWitnessRows s.gpuWitnessCoverageCurrent.rows s'.gpuWitnessCoverageCurrent.rows
  standing : Replaced StandingRow.host GpuReport.host
    (fun w => lastPerKey StandingRow.pk (standingRows w.host w.standing))
      r.gpuWitnessRows s.gpuWitnessStandingCurrent.rows s'.gpuWitnessStandingCurrent.rows
  devices : Replaced Current.host GpuReport.host (gpuDeviceRows g) r.gpuWitnessRows
    s.gpuDevicesCurrent.rows s'.gpuDevicesCurrent.rows
  computeApps : Replaced Current.host GpuReport.host
    (fun w => lastPerKey (fun c : Current GpuComputeApp => (c.host, c.row.pid)) (gpuComputeAppRows g w))
    r.gpuWitnessRows s.gpuComputeAppsCurrent.rows s'.gpuComputeAppsCurrent.rows
  errors : Replaced WitnessErrorRow.host GpuReport.host (fun w => errorRows w.host w.errors) r.gpuWitnessRows
    s.gpuWitnessErrorsCurrent.rows s'.gpuWitnessErrorsCurrent.rows

/-- Histories and observation tables: rows of the new generation, and no others. -/
structure HistoriesGained (g : Int) (s s' : Store) : Prop where
  core : Gained g s.core s'.core
  collectorRuns : Gains CollectorRunRow.generationId g s.collectorRuns.rows s'.collectorRuns.rows
  services : Gains ServiceObservationRow.generationId g s.serviceObservations.rows s'.serviceObservations.rows
  wal : Gains History.generationId g s.walObservations s'.walObservations
  binaries : Gains History.generationId g s.nqBinaryObservations s'.nqBinaryObservations

structure ReportPublished (g : Int) (r : Report) (s s' : Store) : Prop where
  sets : SetsReplaced g r s.core s'.core
  zfs : ZfsReplaced g r s s'
  smart : SmartReplaced g r s s'
  gpu : GpuReplaced g r s s'
  histories : HistoriesGained g s s'
  newest : ∀ x ∈ s.core.generations.rows, x.generationId < g

/-! ## Sets -/

section

variable {g : Int} {α : Type}

theorem host_current (s : HostSet α) : ∀ c ∈ s.current g, c.host = s.host := by
  intro c hc
  obtain ⟨_, _, e⟩ := List.mem_map.mp hc
  rw [← e]

theorem replaceSets_replaced {name : α → String} {sets : List (HostSet α)}
    {t t' : Table fun c : Current α => (c.host, name c.row)} (h : replaceSets name g t sets = .ok t') :
    Replaced Current.host HostSet.host (HostSet.current g) sets t.rows t'.rows := by
  have hstep : ∀ t s t', replaceSet name g t s = .ok t' →
      ReplacedBy Current.host HostSet.host (HostSet.current g) s t.rows t'.rows := by
    intro t s t' h
    rw [rows_replaceSet h]
    exact Sql.replacedBy_delete (host_current s)
  exact Sql.replaced_foldlM hstep h

end

/-! ## Metrics -/

/-- Every series of `t` keeps its id in `t'`. -/
def SeriesTable.Extends (t t' : SeriesTable) : Prop :=
  ∀ m r, t.find m = some r → ∃ r', t'.find m = some r' ∧ r'.seriesId = r.seriesId

namespace SeriesTable

variable (t : SeriesTable) (m : MetricRow)

theorem Extends.refl : t.Extends t := fun _ r h => ⟨r, h, rfl⟩

theorem Extends.trans {a b c : SeriesTable} (h : a.Extends b) (h' : b.Extends c) : a.Extends c := by
  intro m r hr
  obtain ⟨r', hr', e⟩ := h m r hr
  obtain ⟨r'', hr'', e'⟩ := h' m r' hr'
  exact ⟨r'', hr'', e'.trans e⟩

/-- A sample's series is in the dictionary once it is upserted, under the id it was given. -/
theorem find_upsert_self (g : Int) : ∃ r, (t.upsert m g).1.find m = some r ∧ r.seriesId = (t.upsert m g).2 := by
  rw [find_upsert, if_pos rfl]
  refine ⟨_, rfl, ?_⟩
  unfold upsert
  split
  · rename_i s h
    rw [h]
    rfl
  · rename_i h
    simp [h, newRow]

theorem upsert_extends (g : Int) : t.Extends (t.upsert m g).1 := by
  intro m' r hr
  rw [find_upsert]
  by_cases e : m.identity = m'.identity
  · have hsame : t.find m = some r := by
      rw [find_eq_some] at hr ⊢
      exact ⟨hr.1, hr.2.trans e.symm⟩
    rw [if_pos e, hsame]
    exact ⟨r.seenAgain m g, rfl, rfl⟩
  · rw [if_neg e]
    exact ⟨r, hr, rfl⟩

end SeriesTable

section

variable {policies : List HistoryPolicy} {g : Int}
  {at_ host : String} {m : MetricRow} {t t' : MetricTables}

theorem publishMetric_ok :
    publishMetric policies g host at_ t m = .ok t' ↔ ∃ value current, m.value.bind = some value ∧
      t.current.insert? ⟨host, ⟨(t.series.upsert m g).2, value⟩, g, at_⟩ = some current ∧
      t' = ⟨(t.series.upsert m g).1, current, if metricMatchesPolicy m.metricName policies then
        t.history ++ [⟨g, host, ⟨(t.series.upsert m g).2, value⟩⟩] else t.history⟩ := by
  unfold publishMetric
  cases hv : m.value.bind with
  | none => simp
  | some value =>
    constructor
    · intro h
      obtain ⟨current, hc, h⟩ := Sql.bind_ok.mp h
      exact ⟨value, current, rfl, unique_ok.mp hc, (Except.ok.inj h).symm⟩
    · intro h
      obtain ⟨_, current, e, hc, h⟩ := h
      cases e
      rw [h]
      exact Sql.bind_ok.mpr ⟨current, unique_ok.mpr hc, rfl⟩

/-- What one sample adds, read in any later dictionary. -/
theorem publishMetric_adds (h : publishMetric policies g host at_ t m = .ok t') :
    t.series.Extends t'.series ∧ ∀ S, t'.series.Extends S →
      ∃ c, sampleRow S g host at_ m = some c ∧ t'.current.rows = t.current.rows ++ [c] := by
  obtain ⟨value, current, hv, hc, rfl⟩ := publishMetric_ok.mp h
  refine ⟨t.series.upsert_extends m g, ?_⟩
  intro S hS
  obtain ⟨r, hr, hid⟩ := t.series.find_upsert_self m g
  obtain ⟨r', hr', hid'⟩ := hS m r hr
  refine ⟨⟨host, ⟨r'.seriesId, value⟩, g, at_⟩, by simp [sampleRow, hr', hv], ?_⟩
  show current.rows = _
  rw [Table.rows_insert? hc, hid', hid]

theorem publishMetrics_adds {ms : List MetricRow} : ∀ {t t' : MetricTables},
    ms.foldlM (publishMetric policies g host at_) t = .ok t' →
      t.series.Extends t'.series ∧ ∀ S, t'.series.Extends S →
        (∀ m ∈ ms, (sampleRow S g host at_ m).isSome = true) ∧
          t'.current.rows = t.current.rows ++ ms.filterMap (sampleRow S g host at_) := by
  induction ms with
  | nil =>
    intro t t' h
    cases h
    exact ⟨.refl _, fun S _ => ⟨by simp, by simp⟩⟩
  | cons m ms ih =>
    intro t t' h
    rw [foldlM_cons] at h
    obtain ⟨t₁, h₁, h₂⟩ := Sql.bind_ok.mp h
    obtain ⟨hext, hadds⟩ := publishMetric_adds h₁
    obtain ⟨hext', hadds'⟩ := ih h₂
    refine ⟨hext.trans hext', ?_⟩
    intro S hS
    obtain ⟨c, hc, hrows⟩ := hadds S (hext'.trans hS)
    obtain ⟨hall, hrows'⟩ := hadds' S hS
    refine ⟨?_, ?_⟩
    · intro m' hm'
      rcases mem_cons.mp hm' with e | hm'
      · rw [e, hc]
        rfl
      · exact hall m' hm'
    · rw [hrows', hrows, filterMap_cons, hc, append_assoc]
      rfl

theorem host_metricRows (S : SeriesTable) (s : HostSet MetricRow) : ∀ c ∈ metricRows S g s, c.host = s.host := by
  intro c hc
  obtain ⟨m, _, h⟩ := mem_filterMap.mp hc
  obtain ⟨r, _, h⟩ := Option.bind_eq_some_iff.mp h
  obtain ⟨v, _, e⟩ := Option.map_eq_some_iff.mp h
  rw [← e]

/-- The metric sets of a report, read in any later dictionary. -/
theorem publishMetricSets_replaced {sets : List (HostSet MetricRow)} : ∀ {t t' : MetricTables},
    sets.foldlM (publishMetricSet policies g) t = .ok t' →
      t.series.Extends t'.series ∧ ∀ S, t'.series.Extends S →
        (∀ s ∈ sets, ∀ m ∈ s.rows, (sampleRow S g s.host s.collectedAt m).isSome = true) ∧
          Replaced Current.host HostSet.host (metricRows S g) sets t.current.rows t'.current.rows := by
  induction sets with
  | nil =>
    intro t t' h
    cases h
    exact ⟨.refl _, fun S _ => ⟨by simp, Sql.replaced_nil _⟩⟩
  | cons s sets ih =>
    intro t t' h
    rw [foldlM_cons] at h
    obtain ⟨t₁, h₁, h₂⟩ := Sql.bind_ok.mp h
    unfold publishMetricSet at h₁
    obtain ⟨hext, hadds⟩ := publishMetrics_adds h₁
    obtain ⟨hext', hadds'⟩ := ih h₂
    refine ⟨hext.trans hext', ?_⟩
    intro S hS
    obtain ⟨hall, hrows⟩ := hadds S (hext'.trans hS)
    obtain ⟨hall', hreplaced⟩ := hadds' S hS
    refine ⟨?_, Sql.replaced_cons ?_ hreplaced⟩
    · intro s' hs'
      rcases mem_cons.mp hs' with e | hs'
      · exact e ▸ hall
      · exact hall' s' hs'
    · rw [hrows, Table.rows_delete]
      exact Sql.replacedBy_delete (host_metricRows S s)

end

/-! ## Witness reports -/

section

variable {g : Int}
  {α : Type} {at_ host : String} {owner : α → String} {db db' : Db} {s s' : Store} {w : SmartReport}

theorem witness_replacedBy (row : α → WitnessRow) (a : α) (t : Table WitnessRow.host) :
    ReplacedBy WitnessRow.host (fun a => (row a).host) (fun a => [row a]) a t.rows (t.replace (row a)).rows := by
  rw [Sql.rows_replace]
  refine Sql.replacedBy_delete fun r hr => ?_
  rw [mem_singleton.mp hr]

theorem host_coverageRows {c : WitnessCoverage} : ∀ r ∈ coverageRows host c, r.host = host := by
  intro r hr
  rcases mem_append.mp hr with hr | hr
  · obtain ⟨_, _, e⟩ := List.mem_map.mp hr
    rw [← e]
  · obtain ⟨_, _, e⟩ := List.mem_map.mp hr
    rw [← e]

theorem coverage_replacedBy (coverage : α → WitnessCoverage) (a : α) (t : Table CoverageRow.pk) :
    ReplacedBy CoverageRow.host owner (fun a => lastPerKey CoverageRow.pk (coverageRows (owner a) (coverage a))) a
      t.rows (zfsCoverage (owner a) (coverage a) t).rows := by
  show ReplacedBy _ _ _ _ _ ((coverageRows (owner a) (coverage a)).foldl Table.replace _).rows
  exact Sql.replacedBy_replace (fun _ _ e => congrArg Prod.fst e) host_coverageRows

theorem host_standingRows {st : WitnessStanding} : ∀ r ∈ standingRows host st, r.host = host := by
  intro r hr
  rcases mem_append.mp hr with hr | hr
  · rcases mem_append.mp hr with hr | hr
    · obtain ⟨_, _, e⟩ := List.mem_map.mp hr
      rw [← e]
    · obtain ⟨_, _, e⟩ := List.mem_map.mp hr
      rw [← e]
  · obtain ⟨_, _, e⟩ := List.mem_map.mp hr
    rw [← e]

theorem standing_replacedBy (standing : α → WitnessStanding) (a : α) (t : Table StandingRow.pk) :
    ReplacedBy StandingRow.host owner (fun a => lastPerKey StandingRow.pk (standingRows (owner a) (standing a))) a
      t.rows (publishStanding (owner a) (standing a) t).rows :=
  Sql.replacedBy_replace (fun _ _ e => congrArg Prod.fst e) host_standingRows

theorem host_errorRows {errors : List WitnessError} : ∀ r ∈ errorRows host errors, r.host = host := by
  intro r hr
  obtain ⟨_, _, e⟩ := mem_mapIdx.mp hr
  rw [← e]

theorem errors_replacedBy (errors : α → List WitnessError) (a : α) {t t' : Table WitnessErrorRow.pk}
    (h : publishErrors (owner a) (errors a) t = .ok t') :
    ReplacedBy WitnessErrorRow.host owner (fun a => errorRows (owner a) (errors a)) a t.rows t'.rows := by
  rw [Table.rows_insertAll (unique_ok.mp h), Table.rows_delete]
  exact Sql.replacedBy_delete host_errorRows

/-- The rows of one kind of observation, deleted and inserted again. -/
theorem current_replacedBy {β κ : Type} [DecidableEq κ] {key : Current β → κ} (set : α → HostSet β) (a : α)
    {t : Table key} {rows : List (Current β)}
    (h : rows = (t.delete (·.host = (set a).host)).rows ++ (set a).current g) :
    ReplacedBy Current.host (fun a => (set a).host) (fun a => (set a).current g) a t.rows rows := by
  rw [h, Table.rows_delete]
  exact Sql.replacedBy_delete (host_current (set a))

/-! ## ZFS -/

theorem publishZfsObservation_adds {t t' : ZfsTables} {o : ZfsObservation}
    (h : publishZfsObservation g host at_ t o = .ok t') :
    t'.pools.rows = t.pools.rows ++ (o.pool?.map fun p => (⟨host, p, g, at_⟩ : Current ZfsPool)).toList ∧
      t'.vdevs.rows = t.vdevs.rows ++ (o.vdev?.map fun v => (⟨host, v, g, at_⟩ : Current ZfsVdev)).toList ∧
      t'.scans.rows = t.scans.rows ++ (o.scan?.map fun s => (⟨host, s, g, at_⟩ : Current ZfsScan)).toList := by
  cases o with
  | pool p =>
    obtain ⟨pools, hp, h⟩ := Sql.bind_ok.mp h
    obtain ⟨_, _, h⟩ := Sql.bind_ok.mp h
    cases h
    exact ⟨Table.rows_insert? (unique_ok.mp hp), (append_nil _).symm, (append_nil _).symm⟩
  | vdev v =>
    obtain ⟨vdevs, hv, h⟩ := Sql.bind_ok.mp h
    obtain ⟨_, _, h⟩ := Sql.bind_ok.mp h
    cases h
    exact ⟨(append_nil _).symm, Table.rows_insert? (unique_ok.mp hv), (append_nil _).symm⟩
  | scan s =>
    obtain ⟨scans, hs, h⟩ := Sql.bind_ok.mp h
    cases h
    exact ⟨(append_nil _).symm, (append_nil _).symm, Table.rows_insert? (unique_ok.mp hs)⟩
  | spare s =>
    obtain ⟨_, _, h⟩ := Sql.bind_ok.mp h
    cases h
    exact ⟨(append_nil _).symm, (append_nil _).symm, (append_nil _).symm⟩
  | other =>
    cases h
    exact ⟨(append_nil _).symm, (append_nil _).symm, (append_nil _).symm⟩

/-- The core tables of one ZFS report. -/
theorem publishZfsWitness_replacedBy {w : ZfsReport} (h : publishZfsWitness g db w.toZfsWitnessRow = .ok db') :
    ReplacedBy WitnessRow.host (·.host) (fun w : ZfsReport => [w.row g]) w
        db.zfsWitnessCurrent.rows db'.zfsWitnessCurrent.rows ∧
      ReplacedBy CoverageRow.host (·.host) (fun w : ZfsReport =>
        lastPerKey CoverageRow.pk (coverageRows w.host w.coverage)) w
        db.zfsWitnessCoverageCurrent.rows db'.zfsWitnessCoverageCurrent.rows ∧
      ReplacedBy Current.host (·.host) (fun w : ZfsReport => (w.set ZfsObservation.pool?).current g) w
        db.zfsPoolsCurrent.rows db'.zfsPoolsCurrent.rows ∧
      ReplacedBy Current.host (·.host) (fun w : ZfsReport => (w.set ZfsObservation.vdev?).current g) w
        db.zfsVdevsCurrent.rows db'.zfsVdevsCurrent.rows ∧
      ReplacedBy Current.host (·.host) (fun w : ZfsReport => (w.set ZfsObservation.scan?).current g) w
        db.zfsScansCurrent.rows db'.zfsScansCurrent.rows := by
  obtain ⟨t, ht, h⟩ := Sql.bind_ok.mp h
  cases h
  have hstep := fun t o t' (h : publishZfsObservation g w.host w.collectedAt t o = .ok t') =>
    publishZfsObservation_adds h
  have hpools : t.pools.rows = (db.zfsPoolsCurrent.delete (·.host = w.host)).rows ++
      w.observations.filterMap fun o => o.pool?.map fun p => ⟨w.host, p, g, w.collectedAt⟩ :=
    Sql.foldlM_adds (fun t o t' h => (hstep t o t' h).1) ht
  have hvdevs : t.vdevs.rows = (db.zfsVdevsCurrent.delete (·.host = w.host)).rows ++
      w.observations.filterMap fun o => o.vdev?.map fun v => ⟨w.host, v, g, w.collectedAt⟩ :=
    Sql.foldlM_adds (fun t o t' h => (hstep t o t' h).2.1) ht
  have hscans : t.scans.rows = (db.zfsScansCurrent.delete (·.host = w.host)).rows ++
      w.observations.filterMap fun o => o.scan?.map fun s => ⟨w.host, s, g, w.collectedAt⟩ :=
    Sql.foldlM_adds (fun t o t' h => (hstep t o t' h).2.2) ht
  rw [← map_filterMap] at hpools hvdevs hscans
  refine ⟨witness_replacedBy (ZfsReport.row g) w db.zfsWitnessCurrent,
    coverage_replacedBy (fun w : ZfsReport => w.coverage) w db.zfsWitnessCoverageCurrent,
    current_replacedBy (·.set ZfsObservation.pool?) w hpools, current_replacedBy (·.set ZfsObservation.vdev?) w hvdevs,
    current_replacedBy (·.set ZfsObservation.scan?) w hscans⟩

/-- The tables of one ZFS report outside the core. -/
theorem publishZfsReport_replacedBy {w : ZfsReport} (h : publishZfsReport g s w = .ok s') :
    ReplacedBy StandingRow.host (·.host) (fun w : ZfsReport =>
      lastPerKey StandingRow.pk (standingRows w.host w.standing)) w
        s.zfsWitnessStandingCurrent.rows s'.zfsWitnessStandingCurrent.rows ∧
      ReplacedBy Current.host (·.host) (fun w : ZfsReport => (w.set ZfsObservation.spare?).current g) w
        s.zfsSparesCurrent.rows s'.zfsSparesCurrent.rows ∧
      ReplacedBy WitnessErrorRow.host (·.host) (fun w : ZfsReport => errorRows w.host w.errors) w
        s.zfsWitnessErrorsCurrent.rows s'.zfsWitnessErrorsCurrent.rows := by
  obtain ⟨spares, hspares, h⟩ := Sql.bind_ok.mp h
  obtain ⟨errors, herrors, h⟩ := Sql.bind_ok.mp h
  cases h
  exact ⟨standing_replacedBy (fun w : ZfsReport => w.standing) w s.zfsWitnessStandingCurrent,
    current_replacedBy (·.set ZfsObservation.spare?) w (Table.rows_insertAll (unique_ok.mp hspares)),
    errors_replacedBy (fun w : ZfsReport => w.errors) w herrors⟩

/-! ## SMART -/

theorem publishSmartObservation_adds {o : SmartObservation} (h : publishSmartObservation g host at_ db o = .ok db') :
    db'.smartWitnessCurrent = db.smartWitnessCurrent ∧
      db'.smartDevicesCurrent.rows =
        db.smartDevicesCurrent.rows ++ (o.device?.map fun d => (⟨host, d, g, at_⟩ : Current SmartDevice)).toList ∧
      db'.smartDeviceCoverageCurrent = (o.coverageRows host).foldl Table.replace db.smartDeviceCoverageCurrent := by
  cases o with
  | other =>
    cases h
    exact ⟨rfl, (append_nil _).symm, rfl⟩
  | device d coverage =>
    change (if d.check = true then _ else _) = _ at h
    by_cases hc : d.check = true
    · rw [if_pos hc] at h
      obtain ⟨devices, hd, h⟩ := Sql.bind_ok.mp h
      obtain ⟨_, _, h⟩ := Sql.bind_ok.mp h
      cases h
      exact ⟨rfl, Table.rows_insert? (unique_ok.mp hd), rfl⟩
    · rw [if_neg hc] at h
      cases h

theorem host_deviceCoverage : ∀ r ∈ w.deviceCoverage, r.host = w.host := by
  intro r hr
  obtain ⟨o, _, hr⟩ := mem_flatMap.mp hr
  cases o with
  | other => cases hr
  | device d c =>
    rcases mem_append.mp hr with hr | hr
    · obtain ⟨_, _, e⟩ := List.mem_map.mp hr
      rw [← e]
    · obtain ⟨_, _, e⟩ := List.mem_map.mp hr
      rw [← e]

/-- The core tables of one SMART report. -/
theorem publishSmartWitness_replacedBy (h : publishSmartWitness g db w.toSmartWitnessRow = .ok db') :
    ReplacedBy WitnessRow.host (·.host) (fun w : SmartReport => [w.row g]) w
        db.smartWitnessCurrent.rows db'.smartWitnessCurrent.rows ∧
      ReplacedBy Current.host (·.host) (fun w : SmartReport => w.devices.current g) w
        db.smartDevicesCurrent.rows db'.smartDevicesCurrent.rows ∧
      ReplacedBy DeviceCoverageRow.host (·.host) (fun w : SmartReport =>
        lastPerKey DeviceCoverageRow.pk w.deviceCoverage) w
        db.smartDeviceCoverageCurrent.rows db'.smartDeviceCoverageCurrent.rows := by
  unfold publishSmartWitness at h
  have hstep := fun d o d' (h : publishSmartObservation g w.host w.collectedAt d o = .ok d') =>
    publishSmartObservation_adds h
  have hwitness : db'.smartWitnessCurrent = db.smartWitnessCurrent.replace (w.row g) :=
    Sql.foldlM_keeps (fun d o d' h => (hstep d o d' h).1) h
  have hdevices : db'.smartDevicesCurrent.rows = (db.smartDevicesCurrent.delete (·.host = w.host)).rows ++
      w.observations.filterMap fun o => o.device?.map fun d => ⟨w.host, d, g, w.collectedAt⟩ :=
    Sql.foldlM_adds (fun d o d' h => (hstep d o d' h).2.1) h
  have hcoverage : db'.smartDeviceCoverageCurrent =
      w.observations.foldl (fun t o => (o.coverageRows w.host).foldl Table.replace t)
        (db.smartDeviceCoverageCurrent.delete (·.host = w.host)) :=
    Sql.foldlM_reads (fun d o d' h => (hstep d o d' h).2.2) h
  rw [← map_filterMap] at hdevices
  rw [← foldl_flatMap] at hcoverage
  refine ⟨?_, current_replacedBy SmartReport.devices w hdevices, ?_⟩
  · rw [hwitness]
    exact witness_replacedBy (SmartReport.row g) w db.smartWitnessCurrent
  · rw [hcoverage]
    exact Sql.replacedBy_replace (fun _ _ e => congrArg Prod.fst e) host_deviceCoverage

/-- The tables of one SMART report outside the core. -/
theorem publishSmartReport_replacedBy (h : publishSmartReport s w = .ok s') :
    ReplacedBy CoverageRow.host (·.host) (fun w : SmartReport =>
      lastPerKey CoverageRow.pk (coverageRows w.host w.coverage)) w
        s.smartWitnessCoverageCurrent.rows s'.smartWitnessCoverageCurrent.rows ∧
      ReplacedBy StandingRow.host (·.host) (fun w : SmartReport =>
        lastPerKey StandingRow.pk (standingRows w.host w.standing)) w
        s.smartWitnessStandingCurrent.rows s'.smartWitnessStandingCurrent.rows ∧
      ReplacedBy WitnessErrorRow.host (·.host) (fun w : SmartReport => errorRows w.host w.errors) w
        s.smartWitnessErrorsCurrent.rows s'.smartWitnessErrorsCurrent.rows := by
  obtain ⟨errors, herrors, h⟩ := Sql.bind_ok.mp h
  cases h
  exact ⟨coverage_replacedBy (fun w : SmartReport => w.coverage) w s.smartWitnessCoverageCurrent,
    standing_replacedBy (fun w : SmartReport => w.standing) w s.smartWitnessStandingCurrent,
    errors_replacedBy (fun w : SmartReport => w.errors) w herrors⟩

/-! ## GPU -/

theorem host_gpuDeviceRows {w : GpuReport} : ∀ c ∈ gpuDeviceRows g w, c.host = w.host := by
  intro c hc
  obtain ⟨_, _, e⟩ := List.mem_map.mp hc
  rw [← e]

theorem host_gpuComputeAppRows {w : GpuReport} : ∀ c ∈ gpuComputeAppRows g w, c.host = w.host := by
  intro c hc
  obtain ⟨_, _, e⟩ := List.mem_map.mp hc
  rw [← e]

theorem publishGpuWitness_replacedBy {w : GpuReport} (h : publishGpuWitness g s w = .ok s') :
    ReplacedBy WitnessRow.host GpuReport.host (fun w =>
      [w.row g]) w s.gpuWitnessCurrent.rows s'.gpuWitnessCurrent.rows ∧
      ReplacedBy CoverageRow.host GpuReport.host (fun w => lastPerKey CoverageRow.pk (coverageRows w.host w.coverage)) w
        s.gpuWitnessCoverageCurrent.rows s'.gpuWitnessCoverageCurrent.rows ∧
      ReplacedBy StandingRow.host GpuReport.host (fun w => lastPerKey StandingRow.pk (standingRows w.host w.standing)) w
        s.gpuWitnessStandingCurrent.rows s'.gpuWitnessStandingCurrent.rows ∧
      ReplacedBy Current.host GpuReport.host (gpuDeviceRows g) w s.gpuDevicesCurrent.rows s'.gpuDevicesCurrent.rows ∧
      ReplacedBy Current.host GpuReport.host
        (fun w => lastPerKey (fun c : Current GpuComputeApp => (c.host, c.row.pid)) (gpuComputeAppRows g w)) w
        s.gpuComputeAppsCurrent.rows s'.gpuComputeAppsCurrent.rows ∧
      ReplacedBy WitnessErrorRow.host GpuReport.host (fun w => errorRows w.host w.errors) w
        s.gpuWitnessErrorsCurrent.rows s'.gpuWitnessErrorsCurrent.rows := by
  obtain ⟨checkedDevices, hchecked, h⟩ := Sql.bind_ok.mp h
  obtain ⟨devices, hdevices, h⟩ := Sql.bind_ok.mp h
  obtain ⟨errors, herrors, h⟩ := Sql.bind_ok.mp h
  cases h
  have hrows := Table.rows_insertAll (unique_ok.mp hdevices)
  rw [← (checked_ok.mp hchecked).2, Table.rows_delete] at hrows
  refine ⟨witness_replacedBy (GpuReport.row g) w s.gpuWitnessCurrent,
    coverage_replacedBy GpuReport.coverage w s.gpuWitnessCoverageCurrent,
    standing_replacedBy GpuReport.standing w s.gpuWitnessStandingCurrent,
      ?_, ?_, errors_replacedBy GpuReport.errors w herrors⟩
  · show ReplacedBy _ _ _ _ _ devices.rows
    rw [hrows]
    exact Sql.replacedBy_delete host_gpuDeviceRows
  · exact Sql.replacedBy_replace (fun _ _ e => congrArg Prod.fst e) host_gpuComputeAppRows

end

/-! ## A published report -/

variable {db db' : Db} {r : Report} {res : PublishResult} {s s' : Store}

theorem publishBatch_setsReplaced (h : publishBatch db r.batch = .ok (db', res)) :
    SetsReplaced res.generationId r db db' := by
  have hp := publishBatch_published h
  obtain ⟨metrics, hmetrics, hseries, hcurrent, _⟩ := publishBatch_metrics h
  obtain ⟨hsamples, hreplaced⟩ := (publishMetricSets_replaced hmetrics).2 db'.series (hseries ▸ .refl _)
  have hservices := Sql.replaced_map.mp (Sql.replaced_map.mp (replaceSets_replaced hp.services))
  have hdbs := Sql.replaced_map.mp (replaceSets_replaced hp.monitoredDbs)
  refine ⟨hservices, hdbs, ?_, hsamples, replaceSets_replaced hp.logs⟩
  rw [hcurrent]
  exact hreplaced

/-- The current-state tables that ZFS reports write, and those that SMART reports write. -/
def Db.zfsCurrent (db : Db) :=
  (db.zfsWitnessCurrent, db.zfsWitnessCoverageCurrent, db.zfsPoolsCurrent, db.zfsVdevsCurrent, db.zfsScansCurrent)

def Db.smartCurrent (db : Db) := (db.smartWitnessCurrent, db.smartDevicesCurrent, db.smartDeviceCoverageCurrent)

theorem smartCurrent_publishZfsWitness {g : Int} {w : ZfsWitnessRow} (h : publishZfsWitness g db w = .ok db') :
    db'.smartCurrent = db.smartCurrent := by
  obtain ⟨t, _, h⟩ := Sql.bind_ok.mp h
  cases h
  rfl

theorem zfsCurrent_publishSmartObservation {g : Int} {host at_ : String} {o : SmartObservation}
    (h : publishSmartObservation g host at_ db o = .ok db') : db'.zfsCurrent = db.zfsCurrent := by
  cases o with
  | other =>
    cases h
    rfl
  | device d coverage =>
    change (if d.check = true then _ else _) = _ at h
    by_cases hc : d.check = true
    · rw [if_pos hc] at h
      obtain ⟨_, _, h⟩ := Sql.bind_ok.mp h
      obtain ⟨_, _, h⟩ := Sql.bind_ok.mp h
      cases h
      rfl
    · rw [if_neg hc] at h
      cases h

theorem zfsCurrent_publishSmartWitness {g : Int} {w : SmartWitnessRow} (h : publishSmartWitness g db w = .ok db') :
    db'.zfsCurrent = db.zfsCurrent := by
  unfold publishSmartWitness at h
  have hkeeps : ∀ d o d', publishSmartObservation g w.host w.collectedAt d o = .ok d' → d'.zfsCurrent = d.zfsCurrent :=
    fun _ _ _ => zfsCurrent_publishSmartObservation
  exact (Sql.foldlM_keeps hkeeps h).trans rfl

/-- The witness loops of a published batch, the rest of the transaction before them. -/
theorem publishBatch_witnesses {b : Batch} (h : publishBatch db b = .ok (db', res)) :
    ∃ db₀ db₁, db₀.zfsCurrent = db.zfsCurrent ∧ db₀.smartCurrent = db.smartCurrent ∧
      b.zfsWitnessRows.foldlM (publishZfsWitness res.generationId) db₀ = .ok db₁ ∧
      b.smartWitnessRows.foldlM (publishSmartWitness res.generationId) db₁ = .ok db' := by
  unfold publishBatch at h
  obtain ⟨runs, _, h⟩ := Sql.bind_ok.mp h
  obtain ⟨hostsHistory, _, h⟩ := Sql.bind_ok.mp h
  obtain ⟨services, _, h⟩ := Sql.bind_ok.mp h
  obtain ⟨servicesHistory, _, h⟩ := Sql.bind_ok.mp h
  obtain ⟨dbs, _, h⟩ := Sql.bind_ok.mp h
  obtain ⟨metrics, _, h⟩ := Sql.bind_ok.mp h
  obtain ⟨logs, _, h⟩ := Sql.bind_ok.mp h
  obtain ⟨logsHistory, _, h⟩ := Sql.bind_ok.mp h
  obtain ⟨db₁, h₁, h⟩ := Sql.bind_ok.mp h
  obtain ⟨db₂, h₂, h⟩ := Sql.bind_ok.mp h
  cases h
  refine ⟨_, db₁, ?_, ?_, h₁, h₂⟩
  · rfl
  · rfl

/-- The same of the tables outside the core, and those of GPU reports. -/
def Store.zfsCurrent (s : Store) := (s.zfsWitnessStandingCurrent, s.zfsSparesCurrent, s.zfsWitnessErrorsCurrent)

def Store.smartCurrent (s : Store) :=
  (s.smartWitnessCoverageCurrent, s.smartWitnessStandingCurrent, s.smartWitnessErrorsCurrent)

def Store.gpuCurrent (s : Store) :=
  (s.gpuWitnessCurrent, s.gpuWitnessCoverageCurrent, s.gpuWitnessStandingCurrent, s.gpuDevicesCurrent,
    s.gpuComputeAppsCurrent, s.gpuWitnessErrorsCurrent)

theorem publishZfsReport_keeps {g : Int} {w : ZfsReport} (h : publishZfsReport g s w = .ok s') :
    s'.smartCurrent = s.smartCurrent ∧ s'.gpuCurrent = s.gpuCurrent := by
  obtain ⟨_, _, h⟩ := Sql.bind_ok.mp h
  obtain ⟨_, _, h⟩ := Sql.bind_ok.mp h
  cases h
  exact ⟨rfl, rfl⟩

theorem publishSmartReport_keeps {w : SmartReport} (h : publishSmartReport s w = .ok s') :
    s'.zfsCurrent = s.zfsCurrent ∧ s'.gpuCurrent = s.gpuCurrent := by
  obtain ⟨_, _, h⟩ := Sql.bind_ok.mp h
  cases h
  exact ⟨rfl, rfl⟩

theorem publishGpuWitness_keeps {g : Int} {w : GpuReport} (h : publishGpuWitness g s w = .ok s') :
    s'.zfsCurrent = s.zfsCurrent ∧ s'.smartCurrent = s.smartCurrent := by
  obtain ⟨_, _, h⟩ := Sql.bind_ok.mp h
  obtain ⟨_, _, h⟩ := Sql.bind_ok.mp h
  obtain ⟨_, _, h⟩ := Sql.bind_ok.mp h
  cases h
  exact ⟨rfl, rfl⟩

/-- The witness loops of a published report, each over tables that nothing else writes. -/
structure WitnessLoops (g : Int) (r : Report) (s s₁ s₂ s₃ s' : Store) : Prop where
  zfs : r.zfsWitnessRows.foldlM (publishZfsReport g) s₁ = .ok s₂
  smart : r.smartWitnessRows.foldlM publishSmartReport s₂ = .ok s₃
  gpu : r.gpuWitnessRows.foldlM (publishGpuWitness g) s₃ = .ok s'
  zfsBefore : s₁.zfsCurrent = s.zfsCurrent
  zfsAfter : s'.zfsCurrent = s₂.zfsCurrent
  smartBefore : s₂.smartCurrent = s.smartCurrent
  smartAfter : s'.smartCurrent = s₃.smartCurrent
  gpuBefore : s₃.gpuCurrent = s.gpuCurrent

theorem publishReport_loops (h : publishReport s r = .ok (s', res)) :
    ∃ s₁ s₂ s₃, publishBatch s.core r.batch = .ok (s'.core, res) ∧ WitnessLoops res.generationId r s s₁ s₂ s₃ s' := by
  obtain ⟨core, s₁, s₂, s₃, h₀, h₁, h₂, h₃, h₄⟩ := publishReport_ok h
  have hruns := publishRuns_published h₁
  have hbefore : s₁.zfsCurrent = s.zfsCurrent ∧ s₁.smartCurrent = s.smartCurrent ∧ s₁.gpuCurrent = s.gpuCurrent := by
    rw [hruns.frame]
    exact ⟨rfl, rfl, rfl⟩
  have hsame := (Sql.foldlM_keeps (fun _ _ _ => witnessless_publishGpuWitness) h₄).trans
    ((Sql.foldlM_keeps (fun _ _ _ => witnessless_publishSmartReport) h₃).trans
      (Sql.foldlM_keeps (fun _ _ _ => witnessless_publishZfsReport) h₂))
  have hcore : s'.core = core := (congrArg Store.core hsame).trans hruns.core
  have hsmart₂ := Sql.foldlM_keeps (fun _ _ _ h => (publishZfsReport_keeps h).1) h₂
  have hgpu₂ := Sql.foldlM_keeps (fun _ _ _ h => (publishZfsReport_keeps h).2) h₂
  have hzfs₃ := Sql.foldlM_keeps (fun _ _ _ h => (publishSmartReport_keeps h).1) h₃
  have hgpu₃ := Sql.foldlM_keeps (fun _ _ _ h => (publishSmartReport_keeps h).2) h₃
  have hzfs₄ := Sql.foldlM_keeps (fun _ _ _ h => (publishGpuWitness_keeps h).1) h₄
  have hsmart₄ := Sql.foldlM_keeps (fun _ _ _ h => (publishGpuWitness_keeps h).2) h₄
  refine ⟨s₁, s₂, s₃, hcore ▸ h₀, h₂, h₃, h₄, hbefore.1, hzfs₄.trans hzfs₃, hsmart₂.trans hbefore.2.1, hsmart₄,
    hgpu₃.trans (hgpu₂.trans hbefore.2.2)⟩

theorem publishReport_zfsReplaced (h : publishReport s r = .ok (s', res)) : ZfsReplaced res.generationId r s s' := by
  obtain ⟨s₁, s₂, s₃, hb, hloops⟩ := publishReport_loops h
  obtain ⟨db₀, db₁, hbefore, -, hcore, hsmart⟩ := publishBatch_witnesses hb
  rw [Report.batch, foldlM_map] at hcore
  have hafter := Sql.foldlM_keeps (fun _ _ _ => zfsCurrent_publishSmartWitness) hsmart
  simp only [Db.zfsCurrent, Prod.mk.injEq] at hbefore hafter
  have hstoreBefore := hloops.zfsBefore
  have hstoreAfter := hloops.zfsAfter
  simp only [Store.zfsCurrent, Prod.mk.injEq] at hstoreBefore hstoreAfter
  have hstep := fun d (w : ZfsReport) d' (h : publishZfsWitness res.generationId d w.toZfsWitnessRow = .ok d') =>
    publishZfsWitness_replacedBy h
  have hstep' := fun s (w : ZfsReport) s' (h : publishZfsReport res.generationId s w = .ok s') =>
    publishZfsReport_replacedBy h
  constructor
  · rw [hafter.1, ← hbefore.1]
    exact Sql.replaced_foldlM (fun d w d' h => (hstep d w d' h).1) hcore
  · rw [hafter.2.1, ← hbefore.2.1]
    exact Sql.replaced_foldlM (fun d w d' h => (hstep d w d' h).2.1) hcore
  · rw [hstoreAfter.1, ← hstoreBefore.1]
    exact Sql.replaced_foldlM (fun s w s' h => (hstep' s w s' h).1) hloops.zfs
  · rw [hafter.2.2.1, ← hbefore.2.2.1]
    exact Sql.replaced_foldlM (fun d w d' h => (hstep d w d' h).2.2.1) hcore
  · rw [hafter.2.2.2.1, ← hbefore.2.2.2.1]
    exact Sql.replaced_foldlM (fun d w d' h => (hstep d w d' h).2.2.2.1) hcore
  · rw [hafter.2.2.2.2, ← hbefore.2.2.2.2]
    exact Sql.replaced_foldlM (fun d w d' h => (hstep d w d' h).2.2.2.2) hcore
  · rw [hstoreAfter.2.1, ← hstoreBefore.2.1]
    exact Sql.replaced_foldlM (fun s w s' h => (hstep' s w s' h).2.1) hloops.zfs
  · rw [hstoreAfter.2.2, ← hstoreBefore.2.2]
    exact Sql.replaced_foldlM (fun s w s' h => (hstep' s w s' h).2.2) hloops.zfs

theorem publishReport_smartReplaced (h : publishReport s r = .ok (s', res)) :
    SmartReplaced res.generationId r s s' := by
  obtain ⟨s₁, s₂, s₃, hb, hloops⟩ := publishReport_loops h
  obtain ⟨db₀, db₁, -, hbefore, hzfs, hcore⟩ := publishBatch_witnesses hb
  rw [Report.batch, foldlM_map] at hcore
  have hkept := (Sql.foldlM_keeps (fun _ _ _ => smartCurrent_publishZfsWitness) hzfs).trans hbefore
  have hstoreBefore := hloops.smartBefore
  have hstoreAfter := hloops.smartAfter
  simp only [Db.smartCurrent, Prod.mk.injEq] at hkept
  simp only [Store.smartCurrent, Prod.mk.injEq] at hstoreBefore hstoreAfter
  have hstep := fun d (w : SmartReport) d' (h : publishSmartWitness res.generationId d w.toSmartWitnessRow = .ok d') =>
    publishSmartWitness_replacedBy h
  have hstep' := fun s (w : SmartReport) s' (h : publishSmartReport s w = .ok s') => publishSmartReport_replacedBy h
  constructor
  · rw [← hkept.1]
    exact Sql.replaced_foldlM (fun d w d' h => (hstep d w d' h).1) hcore
  · rw [hstoreAfter.1, ← hstoreBefore.1]
    exact Sql.replaced_foldlM (fun s w s' h => (hstep' s w s' h).1) hloops.smart
  · rw [hstoreAfter.2.1, ← hstoreBefore.2.1]
    exact Sql.replaced_foldlM (fun s w s' h => (hstep' s w s' h).2.1) hloops.smart
  · rw [← hkept.2.1]
    exact Sql.replaced_foldlM (fun d w d' h => (hstep d w d' h).2.1) hcore
  · rw [← hkept.2.2]
    exact Sql.replaced_foldlM (fun d w d' h => (hstep d w d' h).2.2) hcore
  · rw [hstoreAfter.2.2, ← hstoreBefore.2.2]
    exact Sql.replaced_foldlM (fun s w s' h => (hstep' s w s' h).2.2) hloops.smart

theorem publishReport_gpuReplaced (h : publishReport s r = .ok (s', res)) : GpuReplaced res.generationId r s s' := by
  obtain ⟨s₁, s₂, s₃, -, hloops⟩ := publishReport_loops h
  have hbefore := hloops.gpuBefore
  simp only [Store.gpuCurrent, Prod.mk.injEq] at hbefore
  obtain ⟨hwitness, hcoverage, hstanding, hdevices, happs, herrors⟩ := hbefore
  have hstep := fun s (w : GpuReport) s' (h : publishGpuWitness res.generationId s w = .ok s') =>
    publishGpuWitness_replacedBy h
  constructor
  · rw [← hwitness]
    exact Sql.replaced_foldlM (fun s w s' h => (hstep s w s' h).1) hloops.gpu
  · rw [← hcoverage]
    exact Sql.replaced_foldlM (fun s w s' h => (hstep s w s' h).2.1) hloops.gpu
  · rw [← hstanding]
    exact Sql.replaced_foldlM (fun s w s' h => (hstep s w s' h).2.2.1) hloops.gpu
  · rw [← hdevices]
    exact Sql.replaced_foldlM (fun s w s' h => (hstep s w s' h).2.2.2.1) hloops.gpu
  · rw [← happs]
    exact Sql.replaced_foldlM (fun s w s' h => (hstep s w s' h).2.2.2.2.1) hloops.gpu
  · rw [← herrors]
    exact Sql.replaced_foldlM (fun s w s' h => (hstep s w s' h).2.2.2.2.2) hloops.gpu

theorem publishReport_gained (h : publishReport s r = .ok (s', res)) : HistoriesGained res.generationId s s' := by
  obtain ⟨core, s₁, hb, hruns, hsame⟩ := publishReport_runs h
  have hcore : s'.core = core := (congrArg Store.core hsame).trans hruns.core
  have hcollectorRuns := congrArg Store.collectorRuns hsame
  have hservices := congrArg Store.serviceObservations hsame
  have hwal := congrArg Store.walObservations hsame
  have hbinaries := congrArg Store.nqBinaryObservations hsame
  change s'.collectorRuns = s₁.collectorRuns at hcollectorRuns
  change s'.serviceObservations = s₁.serviceObservations at hservices
  change s'.walObservations = s₁.walObservations at hwal
  change s'.nqBinaryObservations = s₁.nqBinaryObservations at hbinaries
  constructor
  · rw [hcore]
    exact publishBatch_gained hb
  · rw [hcollectorRuns]
    exact hruns.collectorRuns
  · rw [hservices]
    exact hruns.services
  · rw [hwal]
    exact hruns.wal
  · rw [hbinaries]
    exact hruns.binaries

theorem publishReport_published (h : publishReport s r = .ok (s', res)) : ReportPublished res.generationId r s s' := by
  obtain ⟨s₁, s₂, s₃, hb, -⟩ := publishReport_loops h
  refine ⟨publishBatch_setsReplaced hb, publishReport_zfsReplaced h, publishReport_smartReplaced h,
    publishReport_gpuReplaced h, publishReport_gained h, ?_⟩
  intro x hx
  rw [(publishBatch_published hb).fresh]
  exact Table.lt_nextRowid hx

/-- A publish replaces what was reported: the rows of a host's last entry in every
    set-valued table, the histories extended by the new generation, every other host as it
    was; and a refused one leaves the store alone. -/
theorem publish_replaces (s : Store) (r : Report) :
    match (s.publish r).2 with
    | .ok res => ReportPublished res.generationId r s (s.publish r).1
    | .error _ => (s.publish r).1 = s := by
  unfold Store.publish
  cases h : publishReport s r with
  | error e => rfl
  | ok out => exact publishReport_published h

/-! ## Two entries of one host -/

def unread (dbPath : String) : SqliteDbRow :=
  { dbPath, dbSizeMb := none, walSizeMb := none, pageSize := none, freelistCount := none, dbMtime := none
    walMtime := none }

def twoEntries : Report where
  sqliteDbSets :=
    [⟨"storage", "2026-01-01T00:00:00Z", [unread "/a.db"]⟩, ⟨"storage", "2026-01-01T00:00:00Z", [unread "/b.db"]⟩]

/-- Of two entries for one host the second replaces the first. -/
theorem a_second_entry_replaces_the_first :
    ∃ s' res, publishReport (.of Db.init) twoEntries = .ok (s', res) ∧
      ¬∀ e ∈ twoEntries.sqliteDbSets, ∀ c ∈ e.current res.generationId, c ∈ s'.core.monitoredDbsCurrent.rows := by
  have hrun : (publishReport (.of Db.init) twoEntries).toOption.map
      (fun out => out.1.core.monitoredDbsCurrent.rows.map (·.row.dbPath)) = some ["/b.db"] := by decide +kernel
  obtain ⟨⟨s', res⟩, h, hrows⟩ := Sql.ok_of_toOption hrun
  refine ⟨s', res, h, ?_⟩
  intro hall
  have hmem := hall _ mem_cons_self _ (mem_singleton.mpr rfl)
  have hpath := mem_map_of_mem (f := fun c => c.row.dbPath) hmem
  rw [show s'.core.monitoredDbsCurrent.rows.map (·.row.dbPath) = ["/b.db"] from hrows] at hpath
  change "/a.db" ∈ ["/b.db"] at hpath
  exact absurd hpath (by decide)

end Nq
