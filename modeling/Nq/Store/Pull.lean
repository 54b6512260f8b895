/-
  Nq.Store.Pull — the report the puller builds (`nq-monitor/src/pull/mod.rs`), and whether
  it can be published.

  A publisher answers with one payload for each collector; the configured source name is
  the host its rows go under, never the name the publisher gives itself. A collector whose
  payload is ok and carries data gets an entry; any other keeps its run alone. Source names
  are distinct (`Config::validate`), so the report has one entry a host.

  One refused row refuses the cycle of every host. So the next generation is recorded
  exactly when every accepted answer is publishable (`pulled_report_is_accepted_iff`): no
  two rows of a collector under one key, and every value one its column takes. Two scrape
  targets of a host that expose one metric name and set of labels are not, though the
  series dictionary has columns for just that
  (`two_targets_with_one_series_stop_every_host`).
-/

import Nq.Store.Accepts

namespace Nq

open List
open Sql (F64 Table Commits)

/-! ## The `/state` envelope -/

structure CollectorPayload (α : Type) where
  status : CollectorStatus
  collectedAt : Option String := none
  data : Option α := none

structure MetricSample where
  name : String
  labels : List (String × String) := []
  value : F64
  metricType : Option String := none
  scrapeTargetName : Option String := none
  scrapeTargetUrl : Option String := none

/-- The window and the last line's time are texts here as they are formatted, the examples as
    they are serialized. -/
structure LogObservation where
  sourceId : String
  windowStart : String := ""
  windowEnd : String := ""
  fetchStatus : String
  linesTotal : UInt64
  linesError : UInt64
  linesWarn : UInt64 := 0
  lastLogTs : Option String := none
  transportLagMs : Option Int := none
  examplesJson : String := "[]"

/-- The envelope that ZFS, SMART and GPU witnesses share. -/
structure WitnessReport (ω : Type) where
  witnessId : String
  header : WitnessHeader := {}
  witnessStatus : String
  coverage : WitnessCoverage := ⟨[], []⟩
  standing : WitnessStanding := {}
  observations : List ω := []
  errors : List WitnessError := []

/-- The rows of hosts, services, databases and probes are copied column by column into the
    batch: one structure stands for both. -/
structure Collectors where
  host : Option (CollectorPayload HostRow) := none
  services : Option (CollectorPayload (List ServiceReport)) := none
  sqliteHealth : Option (CollectorPayload (List SqliteDbRow)) := none
  prometheus : Option (CollectorPayload (List MetricSample)) := none
  logs : Option (CollectorPayload (List LogObservation)) := none
  zfsWitness : Option (CollectorPayload (WitnessReport ZfsObservation)) := none
  smartWitness : Option (CollectorPayload (WitnessReport SmartObservation)) := none
  gpuWitness : Option (CollectorPayload (WitnessReport GpuObservation)) := none
  sqliteWalObservations : Option (CollectorPayload (List WalObservation)) := none
  nqBinaryObservations : Option (CollectorPayload NqBinaryObservation) := none

structure PublisherState where
  schema : Option String
  collectedAt : String
  collectors : Collectors

def publisherStateSchema : String := "nq.witness_packet.v1"

def validatePublisherStateSchema (state : PublisherState) : Bool := state.schema = some publisherStateSchema

inductive FetchError where
  | timeout | error
  deriving DecidableEq, Repr

/-! ## One source -/

/-- `PullResult::Ok`. -/
structure Pulled where
  sourceRun : SourceRun
  collRuns : List CollectorRun
  hostRow : Option BatchHost
  serviceSet : Option (HostSet ServiceReport)
  sqliteDbSet : Option (HostSet SqliteDbRow)
  metricSet : Option (HostSet MetricRow)
  logSet : Option (HostSet LogObsRow)
  zfsWitnessRow : Option ZfsReport
  smartWitnessRow : Option SmartReport
  gpuWitnessRow : Option GpuReport
  walObservationSet : Option (HostSet WalObservation)
  nqBinaryObservationRow : Option NqBinaryRow

inductive PullResult where
  | ok (p : Pulled)
  | failed (run : SourceRun)

/-- The run of a collector, its entities counted in 32 bits. -/
def collectorRun {α : Type} (source : String) (kind : CollectorKind) (count : α → Nat)
    (payload : Option (CollectorPayload α)) : List CollectorRun :=
  (payload.map fun p => ⟨source, kind, p.status, p.data.map (count · % 2 ^ 32)⟩).toList

/-- The data of a payload that is ok. -/
def reported {α : Type} (payload : Option (CollectorPayload α)) : Option α :=
  payload.bind fun p => if p.status = .ok then p.data else none

/-- The entry of a collector, dated by its payload or else by the envelope. -/
def payloadEntry {α β : Type} (stateAt : String) (make : String → α → β)
    (payload : Option (CollectorPayload α)) : Option β :=
  payload.bind fun p => if p.status = .ok then p.data.map (make (p.collectedAt.getD stateAt)) else none

section

-- `serde_json::to_string` of a sample's labels
variable (labelsJson : List (String × String) → String)

def MetricSample.row (m : MetricSample) : MetricRow where
  metricName := m.name
  labelsJson := labelsJson m.labels
  value := m.value
  metricType := m.metricType
  scrapeTargetName := m.scrapeTargetName
  scrapeTargetUrl := m.scrapeTargetUrl

def LogObservation.row (o : LogObservation) : LogObsRow where
  sourceId := o.sourceId
  windowStart := o.windowStart
  windowEnd := o.windowEnd
  fetchStatus := o.fetchStatus
  linesTotal := o.linesTotal.toInt64.toInt
  linesError := o.linesError.toInt64.toInt
  linesWarn := o.linesWarn.toInt64.toInt
  lastLogTs := o.lastLogTs
  transportLagMs := o.transportLagMs
  examplesJson := o.examplesJson

def WitnessReport.zfs (host at_ : String) (w : WitnessReport ZfsObservation) : ZfsReport :=
  { host, collectedAt := at_, witnessId := w.witnessId, header := w.header, witnessStatus := w.witnessStatus
    coverage := w.coverage, observations := w.observations, standing := w.standing, errors := w.errors }

def WitnessReport.smart (host at_ : String) (w : WitnessReport SmartObservation) : SmartReport :=
  { host, collectedAt := at_, witnessId := w.witnessId, header := w.header, witnessStatus := w.witnessStatus
    coverage := w.coverage, observations := w.observations, standing := w.standing, errors := w.errors }

def WitnessReport.gpu (host at_ : String) (w : WitnessReport GpuObservation) : GpuReport :=
  { host, collectedAt := at_, witnessId := w.witnessId, header := w.header, witnessStatus := w.witnessStatus
    coverage := w.coverage, observations := w.observations, standing := w.standing, errors := w.errors }

def pulled (source : String) (state : PublisherState) : Pulled :=
  let c := state.collectors
  let at_ := state.collectedAt
  { sourceRun := ⟨source, .ok⟩
    collRuns :=
      collectorRun source .host (fun _ => 1) c.host ++ collectorRun source .services List.length c.services ++
        collectorRun source .sqliteHealth List.length c.sqliteHealth ++
        collectorRun source .prometheus List.length c.prometheus ++ collectorRun source .logs List.length c.logs ++
        collectorRun source .zfsWitness (·.observations.length) c.zfsWitness ++
        collectorRun source .smartWitness (·.observations.length) c.smartWitness ++
        collectorRun source .gpuWitness (·.observations.length) c.gpuWitness ++
        collectorRun source .nqBinary (fun _ => 1) c.nqBinaryObservations ++
        collectorRun source .sqliteWalProbe List.length c.sqliteWalObservations
    hostRow := payloadEntry at_ (fun t row => ⟨source, row, t⟩) c.host
    serviceSet := payloadEntry at_ (HostSet.mk source) c.services
    sqliteDbSet := payloadEntry at_ (HostSet.mk source) c.sqliteHealth
    metricSet := payloadEntry at_ (fun t samples => ⟨source, t, samples.map (·.row labelsJson)⟩) c.prometheus
    logSet := payloadEntry at_ (fun t observations => ⟨source, t, observations.map (·.row)⟩) c.logs
    zfsWitnessRow := payloadEntry at_ (fun t w => w.zfs source t) c.zfsWitness
    smartWitnessRow := payloadEntry at_ (fun t w => w.smart source t) c.smartWitness
    gpuWitnessRow := payloadEntry at_ (fun t w => w.gpu source t) c.gpuWitness
    walObservationSet := payloadEntry at_ (HostSet.mk source) c.sqliteWalObservations
    nqBinaryObservationRow := payloadEntry at_ (fun _ data => ⟨source, data⟩) c.nqBinaryObservations }

def pullOne (source : String) : Except FetchError PublisherState → PullResult
  | .error .timeout => .failed ⟨source, .timeout⟩
  | .error .error => .failed ⟨source, .error⟩
  | .ok state => if validatePublisherStateSchema state then .ok (pulled labelsJson source state)
      else .failed ⟨source, .error⟩

/-! ## The cycle -/

def PullResult.sourceRun : PullResult → SourceRun
  | .ok p => p.sourceRun
  | .failed run => run

def PullResult.pulled? : PullResult → Option Pulled
  | .ok p => some p
  | .failed _ => none

/-- The answers of the configured sources, in their order, put together. -/
def pullAll (startedAt completedAt : String) (answers : List (String × Except FetchError PublisherState)) : Report :=
  let results := answers.map fun a => pullOne labelsJson a.1 a.2
  let oks := results.filterMap PullResult.pulled?
  { cycleStartedAt := startedAt
    cycleCompletedAt := completedAt
    sourcesExpected := answers.length
    sourceRuns := results.map PullResult.sourceRun
    collectorRuns := oks.flatMap Pulled.collRuns
    hostRows := oks.filterMap Pulled.hostRow
    serviceSets := oks.filterMap Pulled.serviceSet
    sqliteDbSets := oks.filterMap Pulled.sqliteDbSet
    metricSets := oks.filterMap Pulled.metricSet
    logSets := oks.filterMap Pulled.logSet
    zfsWitnessRows := oks.filterMap Pulled.zfsWitnessRow
    smartWitnessRows := oks.filterMap Pulled.smartWitnessRow
    gpuWitnessRows := oks.filterMap Pulled.gpuWitnessRow
    walObservationSets := oks.filterMap Pulled.walObservationSet
    nqBinaryObservationRows := oks.filterMap Pulled.nqBinaryObservationRow }

end

/-! ## What can be published -/

/-- The sources whose answers are taken, with them. -/
def accepted (a : String × Except FetchError PublisherState) : Option (String × PublisherState) :=
  match a.2 with
  | .ok state => if validatePublisherStateSchema state then some (a.1, state) else none
  | .error _ => none

/-- No two rows of a collector under one key, and every value one its column takes. -/
structure PublisherState.Publishable (labelsJson : List (String × String) → String)
    (state : PublisherState) : Prop where
  services : ∀ rows ∈ reported state.collectors.services, ServicesAdmissible rows
  monitoredDbs : ∀ rows ∈ reported state.collectors.sqliteHealth, (rows.map SqliteDbRow.dbPath).Nodup
  series : ∀ samples ∈ reported state.collectors.prometheus, (samples.map fun m => (m.name, labelsJson m.labels)).Nodup
  values : ∀ samples ∈ reported state.collectors.prometheus, ∀ m ∈ samples, m.value ≠ .nan
  logs : ∀ observations ∈ reported state.collectors.logs, (observations.map LogObservation.sourceId).Nodup
  zfs : ∀ w ∈ reported state.collectors.zfsWitness, ZfsAdmissible w.observations
  smart : ∀ w ∈ reported state.collectors.smartWitness, SmartAdmissible w.observations
  gpu : ∀ w ∈ reported state.collectors.gpuWitness, GpuAdmissible w.observations
  wal : ∀ rows ∈ reported state.collectors.sqliteWalObservations, ∀ o ∈ rows, o.check = true
  binaries : ∀ data ∈ reported state.collectors.nqBinaryObservations, data.check = true

section

variable {labelsJson : List (String × String) → String} {answers : List (String × Except FetchError PublisherState)}
  {α β : Type} {run : CollectorRun} {source : String} (a : String × Except FetchError PublisherState)
  (make : String → String → α → β) (get : PublisherState → Option (CollectorPayload α)) (startedAt completedAt : String)

theorem pulled?_pullOne :
    (pullOne labelsJson a.1 a.2).pulled? = (accepted a).map fun x => pulled labelsJson x.1 x.2 := by
  obtain ⟨source, answer⟩ := a
  cases answer with
  | error e => cases e <;> rfl
  | ok state =>
    unfold pullOne accepted
    by_cases hv : validatePublisherStateSchema state = true
    · simp [hv, PullResult.pulled?]
    · simp [hv, PullResult.pulled?]

theorem sourceRun_pullOne : (pullOne labelsJson a.1 a.2).sourceRun.source = a.1 := by
  obtain ⟨source, answer⟩ := a
  cases answer with
  | error e => cases e <;> rfl
  | ok state =>
    unfold pullOne
    by_cases hv : validatePublisherStateSchema state = true
    · simp [hv, PullResult.sourceRun, pulled]
    · simp [hv, PullResult.sourceRun]

theorem oks_pullAll : (answers.map fun a => pullOne labelsJson a.1 a.2).filterMap PullResult.pulled? =
    (answers.filterMap accepted).map fun x => pulled labelsJson x.1 x.2 := by
  rw [filterMap_map, map_filterMap]
  exact filterMap_congr fun a _ => pulled?_pullOne a

/-- The entries of one collector, one by one. -/
theorem filterMap_oks (read : Pulled → Option β) :
    ((answers.map fun a => pullOne labelsJson a.1 a.2).filterMap PullResult.pulled?).filterMap read =
      (answers.filterMap accepted).filterMap fun x => read (pulled labelsJson x.1 x.2) := by
  rw [oks_pullAll, filterMap_map]
  rfl

theorem payloadEntry_eq (at_ : String) (make : String → α → β) (payload : Option (CollectorPayload α)) :
    ∃ t, payloadEntry at_ make payload = (reported payload).map (make t) := by
  cases payload with
  | none => exact ⟨at_, rfl⟩
  | some p =>
    refine ⟨p.collectedAt.getD at_, ?_⟩
    unfold payloadEntry reported
    by_cases hs : p.status = .ok
    · simp [hs]
    · simp [hs]

/-- What holds of every entry of a collector, read back from the answers. -/
theorem forall_entries {as : List (String × PublisherState)} {P : β → Prop} {Q : α → Prop}
    (hPQ : ∀ source t d, P (make source t d) ↔ Q d) :
    (∀ e ∈ as.filterMap fun x => payloadEntry x.2.collectedAt (make x.1) (get x.2), P e) ↔
      ∀ x ∈ as, ∀ d ∈ reported (get x.2), Q d := by
  constructor
  · intro h x hx d hd
    obtain ⟨t, ht⟩ := payloadEntry_eq x.2.collectedAt (make x.1) (get x.2)
    refine (hPQ x.1 t d).mp (h _ (mem_filterMap.mpr ⟨x, hx, ?_⟩))
    rw [ht, Option.mem_def.mp hd]
    rfl
  · intro h e he
    obtain ⟨x, hx, he⟩ := mem_filterMap.mp he
    obtain ⟨t, ht⟩ := payloadEntry_eq x.2.collectedAt (make x.1) (get x.2)
    rw [ht] at he
    obtain ⟨d, hd, e'⟩ := Option.map_eq_some_iff.mp he
    rw [← e']
    exact (hPQ x.1 t d).mpr (h x hx d hd)

theorem samplesAdmissible_rows {samples : List MetricSample} :
    SamplesAdmissible (samples.map (·.row labelsJson)) ↔
      (samples.map fun m => (m.name, labelsJson m.labels)).Nodup ∧ ∀ m ∈ samples, m.value ≠ .nan := by
  have hids : (samples.map (·.row labelsJson)).map MetricRow.identity = samples.map fun m =>
      (m.name, labelsJson m.labels) := by
    rw [map_map]
    rfl
  have hvalues : (∀ m ∈ samples.map (·.row labelsJson), m.value ≠ .nan) ↔ ∀ m ∈ samples, m.value ≠ .nan := by
    rw [forall_mem_map]
    rfl
  rw [← hids, ← hvalues]
  exact ⟨fun h => ⟨h.identities, h.values⟩, fun h => ⟨h.1, h.2⟩⟩

theorem pullAll_admissible :
    (pullAll labelsJson startedAt completedAt answers).Admissible ↔
      ∀ x ∈ answers.filterMap accepted, x.2.Publishable labelsJson := by
  let r := pullAll labelsJson startedAt completedAt answers
  let as := answers.filterMap accepted
  have hservices : (∀ e ∈ r.serviceSets, ServicesAdmissible e.rows) ↔
      ∀ x ∈ as, ∀ rows ∈ reported x.2.collectors.services, ServicesAdmissible rows := by
    rw [show r.serviceSets = _ from filterMap_oks Pulled.serviceSet]
    exact forall_entries HostSet.mk (·.collectors.services) fun _ _ _ => Iff.rfl
  have hdbs : (∀ e ∈ r.sqliteDbSets, (e.rows.map SqliteDbRow.dbPath).Nodup) ↔
      ∀ x ∈ as, ∀ rows ∈ reported x.2.collectors.sqliteHealth, (rows.map SqliteDbRow.dbPath).Nodup := by
    rw [show r.sqliteDbSets = _ from filterMap_oks Pulled.sqliteDbSet]
    exact forall_entries HostSet.mk (·.collectors.sqliteHealth) fun _ _ _ => Iff.rfl
  have hmetrics : (∀ e ∈ r.metricSets, SamplesAdmissible e.rows) ↔
      ∀ x ∈ as, ∀ samples ∈ reported x.2.collectors.prometheus,
        (samples.map fun m => (m.name, labelsJson m.labels)).Nodup ∧ ∀ m ∈ samples, m.value ≠ .nan := by
    rw [show r.metricSets = _ from filterMap_oks Pulled.metricSet]
    refine forall_entries (fun source t samples => (⟨source, t, samples.map (·.row labelsJson)⟩ : HostSet MetricRow))
      (·.collectors.prometheus) ?_
    exact fun _ _ _ => samplesAdmissible_rows
  have hlogs : (∀ e ∈ r.logSets, (e.rows.map LogObsRow.sourceId).Nodup) ↔
      ∀ x ∈ as, ∀ observations ∈ reported x.2.collectors.logs, (observations.map LogObservation.sourceId).Nodup := by
    rw [show r.logSets = _ from filterMap_oks Pulled.logSet]
    refine forall_entries (fun source t observations => (⟨source, t, observations.map (·.row)⟩ : HostSet LogObsRow))
      (·.collectors.logs) ?_
    intro _ _ observations
    rw [map_map]
    rfl
  have hzfs : (∀ w ∈ r.zfsWitnessRows, ZfsAdmissible w.observations) ↔
      ∀ x ∈ as, ∀ w ∈ reported x.2.collectors.zfsWitness, ZfsAdmissible w.observations := by
    rw [show r.zfsWitnessRows = _ from filterMap_oks Pulled.zfsWitnessRow]
    refine forall_entries (fun source t w => w.zfs source t) (·.collectors.zfsWitness) ?_
    exact fun _ _ _ => Iff.rfl
  have hsmart : (∀ w ∈ r.smartWitnessRows, SmartAdmissible w.observations) ↔
      ∀ x ∈ as, ∀ w ∈ reported x.2.collectors.smartWitness, SmartAdmissible w.observations := by
    rw [show r.smartWitnessRows = _ from filterMap_oks Pulled.smartWitnessRow]
    refine forall_entries (fun source t w => w.smart source t) (·.collectors.smartWitness) ?_
    exact fun _ _ _ => Iff.rfl
  have hgpu : (∀ w ∈ r.gpuWitnessRows, GpuAdmissible w.observations) ↔
      ∀ x ∈ as, ∀ w ∈ reported x.2.collectors.gpuWitness, GpuAdmissible w.observations := by
    rw [show r.gpuWitnessRows = _ from filterMap_oks Pulled.gpuWitnessRow]
    refine forall_entries (fun source t w => w.gpu source t) (·.collectors.gpuWitness) ?_
    exact fun _ _ _ => Iff.rfl
  have hwal : (∀ e ∈ r.walObservationSets, ∀ o ∈ e.rows, o.check = true) ↔
      ∀ x ∈ as, ∀ rows ∈ reported x.2.collectors.sqliteWalObservations, ∀ o ∈ rows, o.check = true := by
    rw [show r.walObservationSets = _ from filterMap_oks Pulled.walObservationSet]
    exact forall_entries HostSet.mk (·.collectors.sqliteWalObservations) fun _ _ _ => Iff.rfl
  have hbinaries : (∀ b ∈ r.nqBinaryObservationRows, b.data.check = true) ↔
      ∀ x ∈ as, ∀ data ∈ reported x.2.collectors.nqBinaryObservations, data.check = true := by
    rw [show r.nqBinaryObservationRows = _ from filterMap_oks Pulled.nqBinaryObservationRow]
    refine forall_entries (fun source _ data => (⟨source, data⟩ : NqBinaryRow)) (·.collectors.nqBinaryObservations) ?_
    exact fun _ _ _ => Iff.rfl
  constructor
  · intro h x hx
    exact ⟨hservices.mp h.services x hx, hdbs.mp h.monitoredDbs x hx,
      fun samples hs => (hmetrics.mp h.metrics x hx samples hs).1,
      fun samples hs => (hmetrics.mp h.metrics x hx samples hs).2, hlogs.mp h.logs x hx, hzfs.mp h.zfs x hx,
      hsmart.mp h.smart x hx, hgpu.mp h.gpu x hx, hwal.mp h.wal x hx, hbinaries.mp h.binaries x hx⟩
  · intro h
    exact ⟨hservices.mpr fun x hx => (h x hx).services, hdbs.mpr fun x hx => (h x hx).monitoredDbs,
      hmetrics.mpr fun x hx samples hs => ⟨(h x hx).series samples hs, (h x hx).values samples hs⟩,
      hlogs.mpr fun x hx => (h x hx).logs, hzfs.mpr fun x hx => (h x hx).zfs, hsmart.mpr fun x hx => (h x hx).smart,
      hgpu.mpr fun x hx => (h x hx).gpu, hwal.mpr fun x hx => (h x hx).wal, hbinaries.mpr fun x hx => (h x hx).binaries⟩

/-! ## One entry a host -/

theorem sources_accepted (hn : (answers.map Prod.fst).Nodup) : ((answers.filterMap accepted).map Prod.fst).Nodup := by
  refine (map_filterMap_sublist ?_ answers).nodup hn
  intro a x hx
  obtain ⟨source, answer⟩ := a
  cases answer with
  | error e => cases hx
  | ok state =>
    unfold accepted at hx
    by_cases hv : validatePublisherStateSchema state = true
    · simp only [hv, if_true, Option.some.injEq] at hx
      rw [← hx]
    · simp [hv] at hx

/-- The owners of a collector's entries are distinct sources. -/
theorem nodup_entries (owner : β → String) (hmake : ∀ source t d, owner (make source t d) = source)
    (hn : (answers.map Prod.fst).Nodup) :
    (((answers.filterMap accepted).filterMap fun x =>
      payloadEntry x.2.collectedAt (make x.1) (get x.2)).map owner).Nodup := by
  refine (map_filterMap_sublist ?_ _).nodup (sources_accepted hn)
  intro x e he
  obtain ⟨t, ht⟩ := payloadEntry_eq x.2.collectedAt (make x.1) (get x.2)
  rw [ht] at he
  obtain ⟨d, _, e'⟩ := Option.map_eq_some_iff.mp he
  rw [← e', hmake]

theorem collector_collectorRun (source : String) (kind : CollectorKind) (count : α → Nat)
    (payload : Option (CollectorPayload α)) :
    ((collectorRun source kind count payload).map CollectorRun.collector).Sublist [kind] := by
  cases payload with
  | none => exact nil_sublist _
  | some p => exact List.Sublist.refl _

/-- One run for each collector of a source. -/
theorem collectors_pulled (source : String) (state : PublisherState) :
    ((pulled labelsJson source state).collRuns.map CollectorRun.collector).Nodup := by
  have hone := fun {α : Type} (kind : CollectorKind) (count : α → Nat) (payload : Option (CollectorPayload α)) =>
    collector_collectorRun source kind count payload
  have hsub := (((((((((hone .host (fun _ => 1) state.collectors.host).append
    (hone .services List.length state.collectors.services)).append
    (hone .sqliteHealth List.length state.collectors.sqliteHealth)).append
    (hone .prometheus List.length state.collectors.prometheus)).append
    (hone .logs List.length state.collectors.logs)).append
    (hone .zfsWitness (·.observations.length) state.collectors.zfsWitness)).append
    (hone .smartWitness (·.observations.length) state.collectors.smartWitness)).append
    (hone .gpuWitness (·.observations.length) state.collectors.gpuWitness)).append
    (hone .nqBinary (fun _ => 1) state.collectors.nqBinaryObservations)).append
    (hone .sqliteWalProbe List.length state.collectors.sqliteWalObservations)
  simp only [pulled, map_append]
  exact hsub.nodup (by decide)

theorem source_collectorRun {kind : CollectorKind} {count : α → Nat} {payload : Option (CollectorPayload α)}
    (h : run ∈ collectorRun source kind count payload) : run.source = source := by
  cases payload with
  | none => cases h
  | some p => rw [mem_singleton.mp h]

theorem source_pulled {state : PublisherState} (h : run ∈ (pulled labelsJson source state).collRuns) :
    run.source = source := by
  simp only [pulled, mem_append] at h
  rcases h with ((((((((h | h) | h) | h) | h) | h) | h) | h) | h) | h <;> exact source_collectorRun h

/-- Distinct source names make a report with one entry a host. -/
theorem pullAll_distinct (hn : (answers.map Prod.fst).Nodup) :
    (pullAll labelsJson startedAt completedAt answers).Distinct := by
  constructor
  · show (((answers.map fun a => pullOne labelsJson a.1 a.2).map PullResult.sourceRun).map SourceRun.source).Nodup
    rw [map_map, map_map]
    refine (map_congr_left fun a _ => ?_ : _ = answers.map Prod.fst) ▸ hn
    exact sourceRun_pullOne a
  · show (List.map _ (((answers.map fun a => pullOne labelsJson a.1 a.2).filterMap PullResult.pulled?).flatMap
      Pulled.collRuns)).Nodup
    rw [oks_pullAll, flatMap_map, map_flatMap]
    refine Sql.nodup_flatMap_owned Prod.fst ?_ (sources_accepted hn) ?_
    · intro x k hk
      obtain ⟨run, hrun, e⟩ := List.mem_map.mp hk
      rw [← e]
      exact source_pulled hrun
    · intro x _
      refine List.Nodup.of_map Prod.snd ?_
      rw [map_map]
      exact collectors_pulled x.1 x.2
  · rw [show (pullAll labelsJson startedAt completedAt answers).hostRows = _ from filterMap_oks Pulled.hostRow]
    exact nodup_entries (fun source t row => (⟨source, row, t⟩ : BatchHost)) (·.collectors.host) BatchHost.host
      (fun _ _ _ => rfl) hn
  · rw [show (pullAll labelsJson startedAt completedAt answers).serviceSets = _ from filterMap_oks Pulled.serviceSet]
    exact nodup_entries HostSet.mk (·.collectors.services) HostSet.host (fun _ _ _ => rfl) hn
  · rw [show (pullAll labelsJson startedAt completedAt answers).logSets = _ from filterMap_oks Pulled.logSet]
    exact nodup_entries (fun source t observations => (⟨source, t, observations.map (·.row)⟩ : HostSet LogObsRow))
      (·.collectors.logs) HostSet.host (fun _ _ _ => rfl) hn
  · rw [show (pullAll labelsJson startedAt completedAt answers).zfsWitnessRows =
      _ from filterMap_oks Pulled.zfsWitnessRow]
    exact nodup_entries (fun source t w => w.zfs source t) (·.collectors.zfsWitness) (·.host) (fun _ _ _ => rfl) hn
  · rw [show (pullAll labelsJson startedAt completedAt answers).smartWitnessRows =
      _ from filterMap_oks Pulled.smartWitnessRow]
    exact nodup_entries (fun source t w => w.smart source t) (·.collectors.smartWitness) (·.host) (fun _ _ _ => rfl) hn

end

/-! ## The next generation -/

/-- An accepted report adds its generation. -/
theorem generationIds_publishReport {s s' : Store} {r : Report} {res : PublishResult}
    (h : publishReport s r = .ok (s', res)) : s'.generationIds = s.generationIds ++ [res.generationId] := by
  obtain ⟨_, _, _, hb, _⟩ := publishReport_loops h
  unfold Store.generationIds
  rw [(publishBatch_published hb).generations, map_append]
  rfl

variable {rfc3339 : String → Except String Int}

/-- On the store of a running monitor the answers of a cycle become the next generation
    exactly when each answer that is accepted is publishable. -/
theorem pulled_report_is_accepted_iff {s : Store} (hk : Kept rfc3339 s) (labelsJson : List (String × String) → String)
    (startedAt completedAt : String) {answers : List (String × Except FetchError PublisherState)}
    (hn : (answers.map Prod.fst).Nodup) :
    (∃ s' res, publishReport s (pullAll labelsJson startedAt completedAt answers) = .ok (s', res) ∧
        s'.generationIds = s.generationIds ++ [res.generationId]) ↔
      ∀ a ∈ answers, ∀ state, a.2 = .ok state → state.schema = some publisherStateSchema →
        state.Publishable labelsJson := by
  have haccepted : (∀ x ∈ answers.filterMap accepted, x.2.Publishable labelsJson) ↔
      ∀ a ∈ answers, ∀ state, a.2 = .ok state → state.schema = some publisherStateSchema →
        state.Publishable labelsJson := by
    constructor
    · intro h a ha state hok hschema
      refine h (a.1, state) (mem_filterMap.mpr ⟨a, ha, ?_⟩)
      simp [accepted, hok, validatePublisherStateSchema, hschema]
    · intro h x hx
      obtain ⟨a, ha, hx⟩ := mem_filterMap.mp hx
      obtain ⟨source, answer⟩ := a
      cases answer with
      | error e => cases hx
      | ok state =>
        unfold accepted at hx
        by_cases hv : validatePublisherStateSchema state = true
        · simp only [hv, if_true, Option.some.injEq] at hx
          rw [← hx]
          exact h _ ha state rfl (of_decide_eq_true hv)
        · simp [hv] at hx
  rw [← haccepted, ← pullAll_admissible startedAt completedAt,
    ← publishReport_commits hk (pullAll_distinct startedAt completedAt hn)]
  constructor
  · intro h
    obtain ⟨s', res, h, _⟩ := h
    exact ⟨(s', res), h⟩
  · intro h
    obtain ⟨⟨s', res⟩, h⟩ := h
    exact ⟨s', res, h, generationIds_publishReport h⟩

/-- The answer of a publisher that runs its Prometheus collector alone. -/
def scraped (samples : List MetricSample) : PublisherState where
  schema := some publisherStateSchema
  collectedAt := "2026-01-01T00:00:00Z"
  collectors := { prometheus := some { status := .ok, data := some samples } }

theorem scraped_publishable {labelsJson : List (String × String) → String} {samples : List MetricSample}
    (hseries : (samples.map fun m => (m.name, labelsJson m.labels)).Nodup) (hvalues : ∀ m ∈ samples, m.value ≠ .nan) :
    (scraped samples).Publishable labelsJson := by
  have hsame : ∀ xs ∈ reported (scraped samples).collectors.prometheus, xs = samples :=
    fun xs hxs => (Option.some.inj hxs).symm
  constructor
  · exact fun _ h => nomatch h
  · exact fun _ h => nomatch h
  · exact fun xs hxs => hsame xs hxs ▸ hseries
  · exact fun xs hxs => hsame xs hxs ▸ hvalues
  · exact fun _ h => nomatch h
  · exact fun _ h => nomatch h
  · exact fun _ h => nomatch h
  · exact fun _ h => nomatch h
  · exact fun _ h => nomatch h
  · exact fun _ h => nomatch h

theorem kept_fresh : Kept (fun _ => .ok 0) (.of Db.init) := .init ⟨.empty, nodup_nil⟩ .empty

/-- A sample of a metric without labels, from one of a host's scrape targets. -/
def scrapedFrom (name target : String) (value : F64) : MetricSample := { name, value, scrapeTargetName := some target }

theorem two_metrics_of_a_host_are_recorded : ∃ s' res, publishReport (.of Db.init)
      (pullAll (fun _ => "\x7b\x7d") "" "" [("web",
        .ok (scraped [scrapedFrom "up" "node" 1, scrapedFrom "go_goroutines" "node" 12])),
        ("db", .error .timeout)]) = .ok (s', res) ∧
    s'.generationIds = (Store.of Db.init).generationIds ++ [res.generationId] := by
  refine (pulled_report_is_accepted_iff kept_fresh _ "" "" (by decide)).mpr ?_
  intro a ha state hok _
  rcases mem_cons.mp ha with e | ha
  · rw [e] at hok
    cases hok
    exact scraped_publishable (by decide) (by decide)
  · rw [mem_singleton.mp ha] at hok
    cases hok

/-- Two scrape targets of one host expose the same metric name and labels: neither that
    host's cycle is recorded nor any other's. -/
theorem two_targets_with_one_series_stop_every_host : Kept (fun _ => .ok 0) (.of Db.init) ∧
    ∀ s' res, publishReport (.of Db.init) (pullAll (fun _ => "\x7b\x7d") "" ""
      [("web", .ok (scraped [scrapedFrom "go_goroutines" "node" 12, scrapedFrom "go_goroutines" "blackbox" 7])),
        ("db", .ok (scraped [scrapedFrom "up" "node" 1]))]) ≠ .ok (s', res) := by
  refine ⟨kept_fresh, ?_⟩
  have h : (publishReport (.of Db.init) (pullAll (fun _ => "\x7b\x7d") "" ""
      [("web", .ok (scraped [scrapedFrom "go_goroutines" "node" 12, scrapedFrom "go_goroutines" "blackbox" 7])),
        ("db", .ok (scraped [scrapedFrom "up" "node" 1]))])).toOption.isSome = false := by
    decide +kernel
  intro s' res hok
  rw [hok] at h
  cases h

end Nq
