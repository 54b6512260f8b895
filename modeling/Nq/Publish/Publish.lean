/-
  Nq.Publish.Publish — a batch published as one generation (`nq-db/src/publish.rs`,
  `publish_batch`), in one transaction.

  - `mem_replaceSets`: after delete-and-replace, a row is of this generation and of a host
    with an entry, or was there before and is of a host without one;
  - `publishBatch_published`: what a published batch leaves (`Published`).

  The digest that a generation is sealed with (`nq-db/src/digest.rs`) is FNV-1a over its source
  runs and over the findings as they stand.
-/

import Mathlib.Data.List.Sort
import Mathlib.Data.Prod.Lex
import Mathlib.Data.String.Basic
import Nq.Db.Schema
import Nq.Publish.Batch

namespace Nq

open List
open Sql (Table)

structure PublishResult where
  generationId : Int
  sourcesOk : Nat
  sourcesFailed : Nat

def Batch.generationRow (b : Batch) (g : Int) : GenerationRow :=
  { generationId := g, startedAt := b.cycleStartedAt, completedAt := b.cycleCompletedAt, status := b.generationStatus
    sourcesExpected := b.sourcesExpected, sourcesOk := b.sourcesOk, sourcesFailed := b.sourcesFailed }

def publishBatch (db : Db) (b : Batch) : Except DbError (Db × PublishResult) := do
  let g := db.generations.nextRowid
  let sourceRuns ← unique (db.sourceRuns.insertAll (b.sourceRuns.map fun s => ⟨g, s.source, s.status⟩))
  -- the history keeps a narrow projection of the host's row
  let hostsHistory ← unique (db.hostsHistory.insertAll
    (b.hostRows.map fun h => ⟨g, h.host, { h.row.stored with memAvailableMb := none }⟩))
  let servicesCurrent ← replaceSets ServiceRow.service g db.servicesCurrent
    (b.serviceSets.map (·.map ServiceRow.stored))
  let servicesHistory ← unique (db.servicesHistory.insertAll (historyRows g b.serviceSets))
  let monitoredDbsCurrent ← replaceSets SqliteDbRow.dbPath g db.monitoredDbsCurrent
    (b.sqliteDbSets.map (·.map SqliteDbRow.stored))
  let policies := db.metricHistoryPolicy.rows.filter fun p => p.mode ≠ "drop" ∧ p.enabled
  let metrics ← b.metricSets.foldlM (publishMetricSet policies g) ⟨db.series, db.metricsCurrent, db.metricsHistory⟩
  let logObservationsCurrent ← replaceSets LogObsRow.sourceId g db.logObservationsCurrent b.logSets
  let logObservationsHistory ← unique (db.logObservationsHistory.insertAll (historyRows g b.logSets))
  let db := { db with
    generations := db.generations.append (b.generationRow g) db.generations.get_nextRowid
    hostsCurrent := b.hostRows.foldl (fun t h => upsertHost t ⟨h.host, h.row.stored, g, h.collectedAt⟩) db.hostsCurrent
    sourceRuns, hostsHistory, servicesCurrent, servicesHistory, monitoredDbsCurrent
    series := metrics.series, metricsCurrent := metrics.current, metricsHistory := metrics.history
    logObservationsCurrent, logObservationsHistory }
  let db ← b.zfsWitnessRows.foldlM (publishZfsWitness g) db
  let db ← b.smartWitnessRows.foldlM (publishSmartWitness g) db
  return (db, ⟨g, b.sourcesOk, b.sourcesFailed⟩)

/-! ## Delete and replace -/

section

variable {α : Type} {name : α → String} {g : Int}

theorem unique_ok {β : Type} {x : Option β} {y : β} : unique x = .ok y ↔ x = some y := by
  cases x with
  | none => exact ⟨fun h => (nomatch h), fun h => (nomatch h)⟩
  | some z => exact ⟨fun h => by cases h; rfl, fun h => by cases h; rfl⟩

theorem rows_replaceSet {t t' : Table fun c : Current α => (c.host, name c.row)} {s : HostSet α}
    (h : replaceSet name g t s = .ok t') :
    t'.rows = t.rows.filter (fun c => !decide (c.host = s.host)) ++ s.rows.map fun row =>
      ⟨s.host, row, g, s.collectedAt⟩ :=
  Table.rows_insertAll (unique_ok.mp h)

/-- A row of the table: of this generation and of a host with an entry, or as it was and of
    a host without one. -/
theorem mem_replaceSets {sets : List (HostSet α)} : ∀ {t t' : Table fun c : Current α => (c.host, name c.row)},
    replaceSets name g t sets = .ok t' → ∀ c, c ∈ t'.rows →
      (c.asOfGeneration = g ∧ c.host ∈ sets.map HostSet.host) ∨ (c ∈ t.rows ∧ c.host ∉ sets.map HostSet.host) := by
  induction sets with
  | nil => intro t t' h c hc; cases h; exact .inr ⟨hc, by simp⟩
  | cons s sets ih =>
    intro t t' h c hc
    unfold replaceSets at h
    rw [foldlM_cons] at h
    obtain ⟨t₁, h₁, h₂⟩ := Sql.bind_ok.mp h
    rw [map_cons]
    rcases ih h₂ c hc with ⟨hg, hmem⟩ | ⟨hc₁, hnot⟩
    · exact .inl ⟨hg, mem_cons_of_mem _ hmem⟩
    · rw [rows_replaceSet h₁, mem_append] at hc₁
      rcases hc₁ with hold | hnew
      · obtain ⟨hct, hhost⟩ := mem_filter.mp hold
        refine .inr ⟨hct, ?_⟩
        rw [mem_cons, not_or]
        exact ⟨by simpa using hhost, hnot⟩
      · obtain ⟨row, _, rfl⟩ := List.mem_map.mp hnew
        exact .inl ⟨rfl, by simp⟩

end

/-! ## A published batch -/

/-- The witness tables blanked: what publishing a witness report leaves alone. -/
def Db.witnessless (db : Db) : Db :=
  { db with
    zfsWitnessCurrent := .empty, zfsWitnessCoverageCurrent := .empty, zfsPoolsCurrent := .empty
    zfsPoolsHistory := .empty
    zfsVdevsCurrent := .empty, zfsVdevErrorsHistory := .empty, zfsScansCurrent := .empty, zfsSparesHistory := .empty
    smartWitnessCurrent := .empty, smartDevicesCurrent := .empty, smartDeviceCoverageCurrent := .empty
    smartReallocatedHistory := .empty }

variable {db db' : Db}

theorem witnessless_publishZfsWitness {g : Int} {w : ZfsWitnessRow} (h : publishZfsWitness g db w = .ok db') :
    db'.witnessless = db.witnessless := by
  obtain ⟨t, _, h⟩ := Sql.bind_ok.mp h
  cases h
  rfl

theorem witnessless_publishSmartObservation {g : Int} {host at_ : String} {o : SmartObservation}
    (h : publishSmartObservation g host at_ db o = .ok db') : db'.witnessless = db.witnessless := by
  cases o with
  | other => cases h; rfl
  | device d coverage =>
    change (if d.check = true then _ else _) = _ at h
    split at h
    · obtain ⟨_, _, h⟩ := Sql.bind_ok.mp h
      obtain ⟨_, _, h⟩ := Sql.bind_ok.mp h
      cases h
      rfl
    · cases h

theorem witnessless_publishSmartWitness {g : Int} {w : SmartWitnessRow} (h : publishSmartWitness g db w = .ok db') :
    db'.witnessless = db.witnessless := by
  unfold publishSmartWitness at h
  have hkeeps : ∀ d o d', publishSmartObservation g w.host w.collectedAt d o = .ok d' →
      d'.witnessless = d.witnessless :=
    fun _ _ _ => witnessless_publishSmartObservation
  exact (Sql.foldlM_keeps hkeeps h).trans rfl

/-- What a published batch leaves in the tables that the lifecycle and the five
    persistence detectors read. -/
structure Published (b : Batch) (db db' : Db) (g : Int) : Prop where
  fresh : g = db.generations.nextRowid
  generations : db'.generations.rows = db.generations.rows ++ [b.generationRow g]
  services : replaceSets ServiceRow.service g db.servicesCurrent (b.serviceSets.map (·.map ServiceRow.stored)) =
    .ok db'.servicesCurrent
  monitoredDbs : replaceSets SqliteDbRow.dbPath g db.monitoredDbsCurrent
    (b.sqliteDbSets.map (·.map SqliteDbRow.stored)) =
    .ok db'.monitoredDbsCurrent
  logs : replaceSets LogObsRow.sourceId g db.logObservationsCurrent b.logSets = .ok db'.logObservationsCurrent
  logsHistory : db'.logObservationsHistory.rows = db.logObservationsHistory.rows ++ historyRows g b.logSets
  warningState : db'.warningState = db.warningState
  findingObservations : db'.findingObservations = db.findingObservations

theorem publishBatch_published {b : Batch} {res : PublishResult} (h : publishBatch db b = .ok (db', res)) :
    Published b db db' res.generationId := by
  unfold publishBatch at h
  obtain ⟨runs, _, h⟩ := Sql.bind_ok.mp h
  obtain ⟨hostsHistory, _, h⟩ := Sql.bind_ok.mp h
  obtain ⟨services, hservices, h⟩ := Sql.bind_ok.mp h
  obtain ⟨servicesHistory, _, h⟩ := Sql.bind_ok.mp h
  obtain ⟨dbs, hdbs, h⟩ := Sql.bind_ok.mp h
  obtain ⟨metrics, _, h⟩ := Sql.bind_ok.mp h
  obtain ⟨logs, hlogs, h⟩ := Sql.bind_ok.mp h
  obtain ⟨logsHistory, hlogsHistory, h⟩ := Sql.bind_ok.mp h
  obtain ⟨db₁, h₁, h⟩ := Sql.bind_ok.mp h
  obtain ⟨db₂, h₂, h⟩ := Sql.bind_ok.mp h
  cases h
  have hsame := (Sql.foldlM_keeps (fun _ _ _ => witnessless_publishSmartWitness) h₂).trans
    (Sql.foldlM_keeps (fun _ _ _ => witnessless_publishZfsWitness) h₁)
  have hgenerations := congrArg Db.generations hsame
  have hservices' := congrArg Db.servicesCurrent hsame
  have hdbs' := congrArg Db.monitoredDbsCurrent hsame
  have hlogs' := congrArg Db.logObservationsCurrent hsame
  have hhistory' := congrArg Db.logObservationsHistory hsame
  change db'.generations = _ at hgenerations
  change db'.servicesCurrent = _ at hservices'
  change db'.monitoredDbsCurrent = _ at hdbs'
  change db'.logObservationsCurrent = _ at hlogs'
  change db'.logObservationsHistory = _ at hhistory'
  have hwarnings := congrArg Db.warningState hsame
  have hobservations := congrArg Db.findingObservations hsame
  refine ⟨rfl, ?_, ?_, ?_, ?_, ?_, hwarnings, hobservations⟩
  · rw [hgenerations]; rfl
  · rw [hservices']; exact hservices
  · rw [hdbs']; exact hdbs
  · rw [hlogs']; exact hlogs
  · rw [hhistory']; exact Table.rows_insertAll (unique_ok.mp hlogsHistory)

/-- What it leaves of the metrics and of the hosts. -/
theorem publishBatch_metrics {b : Batch} {res : PublishResult} (h : publishBatch db b = .ok (db', res)) :
    ∃ metrics : MetricTables,
      b.metricSets.foldlM (publishMetricSet (db.metricHistoryPolicy.rows.filter fun p => p.mode ≠ "drop" ∧ p.enabled)
        res.generationId) ⟨db.series, db.metricsCurrent, db.metricsHistory⟩ = .ok metrics ∧
      db'.series = metrics.series ∧ db'.metricsCurrent = metrics.current ∧
      db'.hostsCurrent = b.hostRows.foldl
        (fun t h => upsertHost t ⟨h.host, h.row.stored, res.generationId, h.collectedAt⟩) db.hostsCurrent := by
  unfold publishBatch at h
  obtain ⟨runs, _, h⟩ := Sql.bind_ok.mp h
  obtain ⟨hostsHistory, _, h⟩ := Sql.bind_ok.mp h
  obtain ⟨services, _, h⟩ := Sql.bind_ok.mp h
  obtain ⟨servicesHistory, _, h⟩ := Sql.bind_ok.mp h
  obtain ⟨dbs, _, h⟩ := Sql.bind_ok.mp h
  obtain ⟨metrics, hmetrics, h⟩ := Sql.bind_ok.mp h
  obtain ⟨logs, _, h⟩ := Sql.bind_ok.mp h
  obtain ⟨logsHistory, _, h⟩ := Sql.bind_ok.mp h
  obtain ⟨db₁, h₁, h⟩ := Sql.bind_ok.mp h
  obtain ⟨db₂, h₂, h⟩ := Sql.bind_ok.mp h
  cases h
  have hsame := (Sql.foldlM_keeps (fun _ _ _ => witnessless_publishSmartWitness) h₂).trans
    (Sql.foldlM_keeps (fun _ _ _ => witnessless_publishZfsWitness) h₁)
  exact ⟨metrics, hmetrics, congrArg Db.series hsame, congrArg Db.metricsCurrent hsame, congrArg Db.hostsCurrent hsame⟩

/-! ## The seal -/

def SourceStatus.toText : SourceStatus → String
  | .ok => "ok"
  | .error => "error"
  | .timeout => "timeout"

/-- `Fnv1a64::write`. -/
def fnvWrite (h : UInt64) (bytes : List UInt8) : UInt64 :=
  bytes.foldl (fun h b => (h ^^^ b.toUInt64) * 0x00000100000001B3) h

def fnvOffsetBasis : UInt64 := 0xcbf29ce484222325

/-- What a seal hashes: the runs by source, and the findings by host, kind and subject. -/
def sealedText (db : Db) (generationId : Int) : String :=
  let runs := (db.sourceRuns.rows.filter (·.generationId = generationId)).insertionSort fun a b => a.source ≤ b.source
  let warnings := db.warningState.rows.insertionSort fun a b =>
    toLex (a.host, toLex (a.kind, a.subject)) ≤ toLex (b.host, toLex (b.kind, b.subject))
  String.join (runs.map fun r => r.source ++ ":" ++ r.status.toText ++ "\n") ++ "---\n" ++
    String.join (warnings.map fun w => w.host ++ "/" ++ w.domain ++ "/" ++ w.kind ++ "/" ++ w.subject ++ "=" ++
      w.severity ++ "\n")

/-- `{:016x}`. -/
def hex16 (h : UInt64) : String :=
  let digits := Nat.toDigits 16 h.toNat
  String.ofList (List.replicate (16 - digits.length) '0' ++ digits)

def sealHash (db : Db) (generationId : Int) : String :=
  hex16 (fnvWrite fnvOffsetBasis (sealedText db generationId).toUTF8.data.toList)

end Nq
