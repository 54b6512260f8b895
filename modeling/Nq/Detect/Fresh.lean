/-
  Nq.Detect.Fresh — persistence, and the age of the evidence it rests on.

  The current-state tables keep what a silent host reported last. Five detectors read them
  without asking for which generation a row was written, and what they emit continues a
  streak: a service seen degraded once escalates through an outage, and the parent that
  covers its host masks nothing, because the row was emitted
  (`a_silent_host_keeps_escalating`). The pressure detectors beside them ask
  (`detectDiskPressure`, `is_stale = 0`).

  - `fresh_evidence`: as long as nothing that a silent host left behind meets a test
    (`SilentQuiet`), every such finding is on a row of its own generation;
  - `persistence_needs_fresh_evidence`: and then, in every cycle of every run, the rows of
    a silent host keep their streak and severity, and are held while a parent covers it.
-/

import Nq.Detect.Distinct
import Nq.Lifecycle.Outage

namespace Nq

open List
open Sql (Table)

/-! ## Collectors -/

inductive Collector where
  | sqliteDbs | services | logs
  deriving DecidableEq, Repr

/-- The collector whose current rows the five detectors read, by the kind they emit. -/
def collectorOf (kind : String) : Option Collector :=
  if kind = "wal_bloat" ∨ kind = "pinned_wal" then some .sqliteDbs
  else if kind = "service_status" then some .services
  else if kind = "log_silence" ∨ kind = "error_shift" then some .logs
  else none

/-- The hosts whose collector has an entry in the batch. -/
def Batch.reporting (b : Batch) : Collector → List String
  | .sqliteDbs => b.sqliteDbSets.map HostSet.host
  | .services => b.serviceSets.map HostSet.host
  | .logs => b.logSets.map HostSet.host

/-- `as_of_generation` of the current row under a host and a subject. -/
def Db.asOf (db : Db) : Collector → String × String → Option Int
  | .sqliteDbs, place => (db.monitoredDbsCurrent.get place).map Current.asOfGeneration
  | .services, place => (db.servicesCurrent.get place).map Current.asOfGeneration
  | .logs, place => (db.logObservationsCurrent.get place).map Current.asOfGeneration

/-- Before a batch is published: no current row of a host that is silent in it meets the
    test of a detector. The log detectors say nothing before four generations of history. -/
structure SilentQuiet (env : Env) (config : DetectorConfig) (db : Db) (b : Batch) : Prop where
  walBloat : ∀ c ∈ db.monitoredDbsCurrent.rows, c.host ∉ b.reporting .sqliteDbs →
    c.row.walBloats env.arith config = false
  pinnedWal : ∀ c ∈ db.monitoredDbsCurrent.rows, c.host ∉ b.reporting .sqliteDbs → c.row.pinsWal env config = false
  serviceStatus : ∀ c ∈ db.servicesCurrent.rows, c.host ∉ b.reporting .services → c.row.isBad = false
  logSilence : 4 ≤ generationCount (db.logObservationsHistory.rows ++ historyRows db.generations.nextRowid b.logSets) →
    ∀ c ∈ db.logObservationsCurrent.rows, c.host ∉ b.reporting .logs →
      logSilent env.arith db.logObservationsHistory.rows db.generations.nextRowid c = false
  errorShift : 4 ≤ generationCount (db.logObservationsHistory.rows ++ historyRows db.generations.nextRowid b.logSets) →
    ∀ c ∈ db.logObservationsCurrent.rows, c.host ∉ b.reporting .logs →
      logShifted env.arith db.logObservationsHistory.rows (some db.generations.nextRowid) c = false

instance (env : Env) (config : DetectorConfig) (db : Db) (b : Batch) : Decidable (SilentQuiet env config db b) :=
  decidable_of_iff (_ ∧ _ ∧ _ ∧ _ ∧ _)
    ⟨fun ⟨walBloat, pinnedWal, serviceStatus, logSilence, errorShift⟩ =>
      ⟨walBloat, pinnedWal, serviceStatus, logSilence, errorShift⟩,
     fun h => ⟨h.walBloat, h.pinnedWal, h.serviceStatus, h.logSilence, h.errorShift⟩⟩

/-! ## The rows behind the findings -/

section

variable {env : Env} {config : DetectorConfig} {db : Db} {fs : List Finding} {f : Finding}

theorem mem_walBloat (h : detectWalBloat env config db = .ok fs) (hf : f ∈ fs) :
    ∃ c ∈ db.monitoredDbsCurrent.rows, f.id.place = (c.host, c.row.dbPath) ∧
      c.row.walBloats env.arith config = true := by
  obtain ⟨v, hv, xs, hxs, hfx⟩ := (Sql.mem_collect h).mp hf
  obtain ⟨_, _, hx⟩ := Sql.bind_ok.mp hxs
  cases hx
  split at hfx
  case isTrue hb =>
    rw [mem_singleton.mp hfx]
    exact ⟨v.row, mem_viewed (mem_filter.mp hv).1, rfl, hb⟩
  case isFalse => cases hfx

theorem mem_pinnedWal (hf : f ∈ detectPinnedWal env config db) :
    ∃ c ∈ db.monitoredDbsCurrent.rows, f.id.place = (c.host, c.row.dbPath) ∧ c.row.pinsWal env config = true := by
  obtain ⟨c, hc, rfl⟩ := List.mem_map.mp hf
  obtain ⟨hc, hp⟩ := mem_filter.mp hc
  exact ⟨c, hc, rfl, hp⟩

theorem mem_serviceStatus (hf : f ∈ detectServiceStatus env db) :
    ∃ c ∈ db.servicesCurrent.rows, f.id.place = (c.host, c.row.service) ∧ c.row.isBad = true := by
  obtain ⟨v, hv, rfl⟩ := List.mem_map.mp hf
  obtain ⟨hv, hb⟩ := mem_filter.mp hv
  exact ⟨v.row, mem_viewed hv, rfl, hb⟩

theorem mem_logSilence (hf : f ∈ detectLogSilence env db) : 4 ≤ generationCount db.logObservationsHistory.rows ∧
    ∃ c ∈ db.logObservationsCurrent.rows, f.id.place = (c.host, c.row.sourceId) ∧
      ∃ latest, db.maxGeneration = some latest ∧
        logSilent env.arith db.logObservationsHistory.rows latest c = true := by
  unfold detectLogSilence at hf
  dsimp only at hf
  split at hf
  case isTrue => cases hf
  case isFalse hmany =>
    obtain ⟨c, hc, rfl⟩ := List.mem_map.mp hf
    obtain ⟨hc, hp⟩ := mem_filter.mp hc
    obtain ⟨latest, hlatest, hp⟩ := (Option.any_eq_true _ _).mp hp
    exact ⟨by omega, c, hc, rfl, latest, hlatest, hp⟩

theorem mem_errorShift (hf : f ∈ detectErrorShift env db) : 4 ≤ generationCount db.logObservationsHistory.rows ∧
    ∃ c ∈ db.logObservationsCurrent.rows, f.id.place = (c.host, c.row.sourceId) ∧
      logShifted env.arith db.logObservationsHistory.rows db.maxGeneration c = true := by
  unfold detectErrorShift at hf
  dsimp only at hf
  split at hf
  case isTrue => cases hf
  case isFalse hmany =>
    obtain ⟨c, hc, rfl⟩ := List.mem_map.mp hf
    obtain ⟨hc, hp⟩ := mem_filter.mp hc
    exact ⟨by omega, c, hc, rfl, hp⟩

/-- A finding of a family's kind came from that family's detector. -/
theorem mem_family (h : runAll env config db = .ok fs) (hf : f ∈ fs) {g : String × List Finding}
    (hg : g ∈ families env config db []) (hk : f.id.family = g.1) : f ∈ g.2 := by
  refine Sql.mem_tagged nodup_families (families_tagged h (by simp)) hg ?_ hk
  exact (runAll_perm h).mem_iff.mp (mem_append_left [] hf)

/-! ## The latest generation -/

/-- A batch is the latest generation as soon as it is published. -/
theorem Published.maxGeneration {b : Batch} {db' : Db} {g : Int}
    (h : Published b db db' g) : db'.maxGeneration = some g := by
  have hlatest : db'.latestGeneration = some (b.generationRow g) := by
    rw [Db.latestGeneration, h.generations]
    refine Sql.firstBy_append_last ?_
    intro r hr
    have hlt : r.generationId < db.generations.nextRowid := Table.lt_nextRowid hr
    rw [← h.fresh] at hlt
    exact decide_eq_true hlt
  rw [Db.maxGeneration, hlatest]
  rfl

/-- What a batch adds to the history is outside the baseline of its own generation. -/
theorem logBaseline_historyRows {g : Int} (history : List (History LogObsRow)) (sets : List (HostSet LogObsRow))
    (c : Current LogObsRow) : logBaseline (history ++ historyRows g sets) g c = logBaseline history g c := by
  unfold logBaseline
  rw [filter_append]
  have hnew : (historyRows g sets).filter (fun h => g - 12 ≤ h.generationId ∧ h.generationId < g ∧
      h.host = c.host ∧ h.row.sourceId = c.row.sourceId) = [] := by
    refine filter_eq_nil_iff.mpr ?_
    intro h hh
    obtain ⟨s, _, hh⟩ := mem_flatMap.mp hh
    obtain ⟨row, _, rfl⟩ := List.mem_map.mp hh
    simp
  rw [hnew, append_nil]

variable {α : Type} (arith : Arith)

theorem logSilent_historyRows {g : Int} (history : List (History LogObsRow)) (sets : List (HostSet LogObsRow))
    (c : Current LogObsRow) : logSilent arith (history ++ historyRows g sets) g c = logSilent arith history g c := by
  unfold logSilent
  rw [logBaseline_historyRows]

theorem logShifted_historyRows {g : Int} (history : List (History LogObsRow)) (sets : List (HostSet LogObsRow))
    (c : Current LogObsRow) :
    logShifted arith (history ++ historyRows g sets) (some g) c = logShifted arith history (some g) c := by
  unfold logShifted
  simp only [Option.any_some, logBaseline_historyRows]

/-! ## One cycle -/

/-- A row of the published table that meets a test no silent row met before is new. -/
theorem fresh_row {name : α → String} {g : Int} {t t' : Table fun c : Current α => (c.host, name c.row)}
    {sets : List (HostSet α)} {p : Current α → Bool} {place : String × String} (h : replaceSets name g t sets = .ok t')
    (hquiet : ∀ c ∈ t.rows, c.host ∉ sets.map HostSet.host → p c = false)
    (hrow : ∃ c ∈ t'.rows, place = (c.host, name c.row) ∧ p c = true) :
    (t'.get place).map Current.asOfGeneration = some g ∧ place.1 ∈ sets.map HostSet.host := by
  obtain ⟨c, hc, rfl, hp⟩ := hrow
  have hget : t'.get (c.host, name c.row) = some c := Table.get_of_mem hc
  rcases mem_replaceSets h c hc with ⟨hg, hmem⟩ | ⟨hold, hnot⟩
  · exact ⟨by rw [hget, Option.map_some, hg], hmem⟩
  · rw [hquiet c hold hnot] at hp
    cases hp

theorem hosts_stored (sets : List (HostSet α)) (f : α → α) :
    (sets.map (·.map f)).map HostSet.host = sets.map HostSet.host := by
  rw [map_map]
  rfl

theorem collectorOf_cases {kind : String} {col : Collector} (h : collectorOf kind = some col) :
    (col = .sqliteDbs ∧ (kind = "wal_bloat" ∨ kind = "pinned_wal")) ∨ (col = .services ∧ kind = "service_status") ∨
      (col = .logs ∧ (kind = "log_silence" ∨ kind = "error_shift")) := by
  unfold collectorOf at h
  split at h
  · cases h; exact .inl ⟨rfl, ‹_›⟩
  · split at h
    · cases h; exact .inr (.inl ⟨rfl, ‹_›⟩)
    · split at h
      · cases h; exact .inr (.inr ⟨rfl, ‹_›⟩)
      · cases h

section

variable {b : Batch} {db' : Db} {g : Int}

/-- A finding of one of the five kinds is on a row of its own generation, from a host that
    reported. -/
theorem fresh_evidence (hp : Published b db db' g) (hd : runAll env config db' = .ok fs)
    (hq : SilentQuiet env config db b) (hf : f ∈ fs) {col : Collector} (hcol : collectorOf f.kind = some col) :
    db'.asOf col f.id.place = some g ∧ f.host ∈ b.reporting col := by
  have hfamily : ∀ {kind : String}, f.kind = kind → f.id.family = familyOf kind := congrArg familyOf
  obtain ⟨hall, _⟩ := Sql.collect_ok hd
  rcases collectorOf_cases hcol with ⟨rfl, hk | hk⟩ | ⟨rfl, hk⟩ | ⟨rfl, hk | hk⟩
  · obtain ⟨xs, hxs⟩ : ∃ xs, detectWalBloat env config db' = .ok xs :=
      hall (detectWalBloat env config db') (by simp [detectors])
    have hmem := mem_family hd hf (g := ("wal_bloat", (detectWalBloat env config db').toOption.getD []))
      (by simp [families])
      (hfamily hk)
    rw [hxs] at hmem
    have hhosts := hosts_stored b.sqliteDbSets SqliteDbRow.stored
    have hrow := fresh_row hp.monitoredDbs (hhosts ▸ hq.walBloat) (mem_walBloat hxs hmem)
    rwa [hhosts] at hrow
  · have hmem := mem_family hd hf (g := ("pinned_wal", detectPinnedWal env config db'))
      (by simp [families]) (hfamily hk)
    have hhosts := hosts_stored b.sqliteDbSets SqliteDbRow.stored
    have hrow := fresh_row hp.monitoredDbs (hhosts ▸ hq.pinnedWal) (mem_pinnedWal hmem)
    rwa [hhosts] at hrow
  · have hmem := mem_family hd hf (g := ("service_status", detectServiceStatus env db'))
      (by simp [families]) (hfamily hk)
    have hhosts := hosts_stored b.serviceSets ServiceRow.stored
    have hrow := fresh_row hp.services (hhosts ▸ hq.serviceStatus) (mem_serviceStatus hmem)
    rwa [hhosts] at hrow
  · have hmem := mem_family hd hf (g := ("log_silence", detectLogSilence env db')) (by simp [families]) (hfamily hk)
    obtain ⟨hmany, c, hc, hplace, latest, hlatest, hsilent⟩ := mem_logSilence hmem
    rw [hp.maxGeneration] at hlatest
    cases hlatest
    rw [hp.logsHistory] at hmany hsilent
    rw [logSilent_historyRows] at hsilent
    have hquiet := hq.logSilence (hp.fresh ▸ hmany)
    rw [← hp.fresh] at hquiet
    exact fresh_row hp.logs hquiet ⟨c, hc, hplace, hsilent⟩
  · have hmem := mem_family hd hf (g := ("error_shift", detectErrorShift env db')) (by simp [families]) (hfamily hk)
    obtain ⟨hmany, c, hc, hplace, hshifted⟩ := mem_errorShift hmem
    rw [hp.logsHistory] at hmany hshifted
    rw [hp.maxGeneration, logShifted_historyRows] at hshifted
    have hquiet := hq.errorShift (hp.fresh ▸ hmany)
    rw [← hp.fresh] at hquiet
    exact fresh_row hp.logs hquiet ⟨c, hc, hplace, hshifted⟩

end

end

/-! ## Runs -/

/-- A cycle of the monitor: a batch published as a generation, what the detectors find on
    it, and the lifecycle update. -/
structure MonitorCycle where
  env : Env
  config : DetectorConfig
  clock : Clock
  escalation : EscalationConfig
  batch : Batch
  before : Db
  generationId : Int
  published : Db
  findings : List Finding
  after : Db

namespace MonitorCycle

structure Ran (m : MonitorCycle) : Prop where
  publish : ∃ res, publishBatch m.before m.batch = .ok (m.published, res) ∧ res.generationId = m.generationId
  detect : runAll m.env m.config m.published = .ok m.findings
  update : updateWarningState m.clock m.published m.generationId m.findings m.escalation = .ok m.after

def call (m : MonitorCycle) : UpdateCall :=
  { generationId := m.generationId, findings := m.findings, escalation := m.escalation, clock := m.clock }

/-- A parent row is observed on the host when the masking map is built. -/
def covers (m : MonitorCycle) (host : String) : Bool :=
  host ≠ "" && (m.call.atMasking m.published).rows.any fun r =>
    r.host = host ∧ (r.kind = "stale_host" ∨ r.kind = "source_error") ∧ r.visibilityState = .observed

/-- Persistence from fresh evidence, in one cycle: what the five detectors emit is on rows
    of this generation; the row of a host whose collector is silent keeps its streak and
    severity if it stays, and stays, held, if a parent covers the host. -/
structure Fresh (m : MonitorCycle) : Prop where
  evidence : ∀ f ∈ m.findings, ∀ col, collectorOf f.kind = some col →
    m.published.asOf col f.id.place = some m.generationId
  streak : ∀ k col r', collectorOf k.kind = some col → k.host ∉ m.batch.reporting col →
    m.after.warningState.get k = some r' → ∃ r, m.before.warningState.get k = some r ∧
      r'.consecutiveGens = r.consecutiveGens ∧ r'.severity = r.severity
  frozen : ∀ k col r, collectorOf k.kind = some col → k.host ∉ m.batch.reporting col → m.covers k.host = true →
    m.before.warningState.get k = some r → ∃ r', m.after.warningState.get k = some r' ∧
      r'.core = r.core ∧ r'.visibilityState = .suppressed

def Quiet (m : MonitorCycle) : Prop := SilentQuiet m.env m.config m.before m.batch

instance (m : MonitorCycle) : Decidable m.Quiet := inferInstanceAs (Decidable (SilentQuiet ..))

variable {m : MonitorCycle}

theorem Ran.published (h : m.Ran) : Published m.batch m.before m.published m.generationId := by
  obtain ⟨res, hres, hg⟩ := h.publish
  exact hg ▸ publishBatch_published hres

theorem Ran.run (h : m.Ran) : m.call.run m.published = .ok m.after := h.update

theorem Ran.emitted (h : m.Ran) : m.call.emitted m.published = m.findings := by
  refine emitted_eq_findings ?_ m.published
  intro f hf
  exact kind_ne_misleading h.detect (by simp) (mem_append_left [] hf)

variable {col : Collector} {k : FindingId}

/-- The findings on a silent host are not emitted. -/
theorem Ran.not_emitted (h : m.Ran) (hq : m.Quiet) (hcol : collectorOf k.kind = some col)
    (hsilent : k.host ∉ m.batch.reporting col) : k ∉ m.call.emittedIds m.published := by
  intro hk
  rw [UpdateCall.emittedIds, h.emitted] at hk
  obtain ⟨f, hf, rfl⟩ := List.mem_map.mp hk
  exact hsilent (fresh_evidence h.published h.detect hq hf hcol).2

theorem Ran.held (h : m.Ran) (hq : m.Quiet) (hcol : collectorOf k.kind = some col)
    (hsilent : k.host ∉ m.batch.reporting col) (hcovers : m.covers k.host = true) :
    Held k m.call m.published m.after := by
  refine ⟨h.run, h.not_emitted hq hcol hsilent, ?_, fun d hd => (nomatch hd)⟩
  unfold covers at hcovers
  rw [Bool.and_eq_true, any_eq_true] at hcovers
  obtain ⟨_, r, hr, hparent⟩ := hcovers
  simp only [decide_eq_true_eq] at hparent
  obtain ⟨hhost, hkind, hvisible⟩ := hparent
  have hrule : ∃ rule ∈ maskingRules, rule.covers k.kind = true ∧ rule.parentKind = r.kind := by
    rcases hkind with hkind | hkind <;> simp [maskingRules, MaskingRule.covers, hkind]
  obtain ⟨rule, hmem, hcover, hparent⟩ := hrule
  refine ⟨rule, hmem, hcover, any_eq_true.mpr ⟨r, hr, ?_⟩⟩
  simp [hhost, WarningRow.isParent, hparent, hvisible]

theorem isParentKind_of_collector {kind : String} (h : collectorOf kind = some col) : isParentKind kind = false := by
  rcases collectorOf_cases h with ⟨_, rfl | rfl⟩ | ⟨_, rfl⟩ | ⟨_, rfl | rfl⟩ <;> decide

theorem Ran.fresh (h : m.Ran) (hinv : m.before.RowsInv) (hq : m.Quiet) : m.Fresh := by
  have hsame := h.published.warningState
  refine ⟨?_, ?_, ?_⟩
  · intro f hf col hcol
    exact (fresh_evidence h.published h.detect hq hf hcol).1
  · intro k col r' hcol hsilent hr'
    have hk := h.not_emitted hq hcol hsilent
    rcases (run_updated h.run).row_cases hr' with ⟨f, hf, rfl, _⟩ | ⟨_, r, hr, hrow⟩
    · exact absurd (mem_map_of_mem hf) hk
    · rw [hsame] at hr
      refine ⟨r, hr, ?_⟩
      rcases hrow with ⟨reason, _, hfin⟩ | ⟨_, _, hfin⟩
      all_goals
        have hcore := finish_core hfin
        exact ⟨congrArg (·.consecutiveGens) hcore, congrArg (·.severity) hcore⟩
  · intro k col r hcol hsilent hcovers hr
    have hhost : k.host ≠ "" := by
      have := (Bool.and_eq_true _ _ ▸ hcovers).1
      simpa using this
    have hr' : m.published.warningState.get k = some r := by rw [hsame]; exact hr
    obtain ⟨r', hget, hheld⟩ := held_row (h.held hq hcol hsilent hcovers) hhost (isParentKind_of_collector hcol) hr'
      (hinv k r hr).gone
    exact ⟨r', hget, hheld.core, hheld.visibility⟩

end MonitorCycle

section

variable (rfc3339 : String → Except String Int) (P : MonitorCycle → Prop)

/-- Runs of the monitor with their cycles, newest first, each meeting `P`. Between two
    cycles other writers may act on the findings, and retention or a cycle that was not
    recorded on everything else. -/
inductive Monitored : List MonitorCycle → Db → Prop
  | start {db : Db} (h : db.warningState = .empty) : Monitored [] db
  | cycle {hist : List MonitorCycle} {m : MonitorCycle} (hprev : Monitored hist m.before) (hP : P m) (h : m.Ran) :
      Monitored (m :: hist) m.after
  | other {hist : List MonitorCycle} {db db' : Db} (hprev : Monitored hist db) (h : Step rfc3339 db db') :
      Monitored hist db'

end

variable {rfc3339 : String → Except String Int} {P : MonitorCycle → Prop}

theorem Monitored.reach {hist : List MonitorCycle} {db : Db} (h : Monitored rfc3339 P hist db) : Reach rfc3339 db := by
  induction h with
  | start h => exact .init h
  | @cycle hist m _ _ hran ih =>
    have hpublished : Reach rfc3339 m.published := .step ih (.elsewhere hran.published.warningState)
    exact .step hpublished (.update m.call hran.run)
  | other _ h ih => exact .step ih h

/-- In every run whose silent hosts left nothing behind that meets a test, every cycle
    takes its persistence from fresh evidence. -/
theorem persistence_needs_fresh_evidence {hist : List MonitorCycle} {db : Db}
    (h : Monitored rfc3339 MonitorCycle.Quiet hist db) : ∀ m ∈ hist, m.Fresh := by
  induction h with
  | start _ => intro m hm; cases hm
  | cycle hprev hq hran ih =>
    intro m' hm'
    rcases mem_cons.mp hm' with rfl | hm'
    · exact hran.fresh (reach_rowInv hprev.reach) hq
    · exact ih m' hm'
  | other _ _ ih => exact ih

/-! ## Runs on one host -/

/-- A service of the host degraded, the same service up, and the host lost. -/
def degradedBatch : Batch :=
  { sourceRuns := [⟨"db-1", .ok⟩], serviceSets := [⟨"db-1", "", [{ service := "api", status := .degraded }]⟩] }

def upBatch : Batch :=
  { sourceRuns := [⟨"db-1", .ok⟩], serviceSets := [⟨"db-1", "", [{ service := "api", status := .up }]⟩] }

def lostBatch : Batch := { sourceRuns := [⟨"db-1", .error⟩] }

/-- A cycle that escalates after one generation. -/
def monitorCycle (db : Db) (b : Batch) : Option MonitorCycle := do
  let (published, res) ← (publishBatch db b).toOption
  let findings ← (runAll exactEnv {} published).toOption
  let after ← (updateWarningState ⟨"", ""⟩ published res.generationId findings { warnAfterGens := 1 }).toOption
  return { env := exactEnv, config := {}, clock := ⟨"", ""⟩, escalation := { warnAfterGens := 1 }, batch := b
           before := db, generationId := res.generationId, published, findings, after }

theorem ran_monitorCycle {db : Db} {b : Batch} {m : MonitorCycle} (h : monitorCycle db b = some m) :
    m.Ran ∧ m.before = db ∧ m.batch = b := by
  obtain ⟨⟨published, res⟩, hp, h⟩ := Option.bind_eq_some_iff.mp h
  obtain ⟨findings, hd, h⟩ := Option.bind_eq_some_iff.mp h
  obtain ⟨after, hu, h⟩ := Option.bind_eq_some_iff.mp h
  cases h
  exact ⟨⟨⟨res, Sql.toOption_eq_some.mp hp, rfl⟩, Sql.toOption_eq_some.mp hd, Sql.toOption_eq_some.mp hu⟩, rfl, rfl⟩

def apiStatus : FindingId := ⟨"db-1", "service_status", "api"⟩

structure Standing where
  consecutiveGens : Int
  severity : String
  visibility : Visibility
  deriving DecidableEq, Repr

def WarningRow.standing (r : WarningRow) : Standing := ⟨r.consecutiveGens, r.severity, r.visibilityState⟩

/-- The source of a degraded service is lost; its finding is emitted again from the row of
    the generation before, and escalates under the parent that covers the host. -/
theorem a_silent_host_keeps_escalating : ∃ m₁ m₂ r r',
    Monitored (fun _ => .error "") (fun _ => True) [m₂, m₁] m₂.after ∧ m₂.batch.reporting .services = [] ∧
    m₂.covers "db-1" = true ∧ apiStatus ∈ m₂.findings.map Finding.id ∧ m₂.generationId = 2 ∧
    m₂.published.asOf .services ("db-1", "api") = some 1 ∧ m₂.before.warningState.get apiStatus = some r ∧
    m₂.after.warningState.get apiStatus = some r' ∧ r.standing = ⟨1, "info", .observed⟩ ∧
    r'.standing = ⟨2, "warning", .observed⟩ ∧ ¬m₂.Fresh := by
  have h : ((monitorCycle Db.init degradedBatch).bind fun m₁ => (monitorCycle m₁.after lostBatch).map fun m₂ =>
      (decide (m₂.covers "db-1" = true ∧ apiStatus ∈ m₂.findings.map Finding.id ∧ m₂.generationId = 2 ∧
          m₂.published.asOf .services ("db-1", "api") = some 1),
        (m₂.before.warningState.get apiStatus).map WarningRow.standing,
        (m₂.after.warningState.get apiStatus).map WarningRow.standing)) =
      some (true, some ⟨1, "info", .observed⟩, some ⟨2, "warning", .observed⟩) := by
    decide +kernel
  obtain ⟨m₁, h₁, h⟩ := Option.bind_eq_some_iff.mp h
  obtain ⟨m₂, h₂, h⟩ := Option.map_eq_some_iff.mp h
  simp only [Prod.mk.injEq, decide_eq_true_eq] at h
  obtain ⟨⟨hcovers, hmem, hg, hasOf⟩, hbefore, hafter⟩ := h
  obtain ⟨r, hr, hstreak⟩ := Option.map_eq_some_iff.mp hbefore
  obtain ⟨r', hr', hstreak'⟩ := Option.map_eq_some_iff.mp hafter
  obtain ⟨hran₁, hstart, _⟩ := ran_monitorCycle h₁
  obtain ⟨hran₂, hnext, hbatch⟩ := ran_monitorCycle h₂
  have hrun : Monitored (fun _ => .error "") (fun _ => True) [m₂, m₁] m₂.after :=
    .cycle (hnext ▸ .cycle (.start (by rw [hstart]; rfl)) trivial hran₁) trivial hran₂
  refine ⟨m₁, m₂, r, r', hrun, by rw [hbatch]; rfl, hcovers, hmem, hg, hasOf, hr, hr', hstreak, hstreak', ?_⟩
  intro hfresh
  obtain ⟨f, hf, hid⟩ := List.mem_map.mp hmem
  have hkind : collectorOf f.kind = some .services := congrArg collectorOf (congrArg FindingId.kind hid)
  have hevidence := hfresh.evidence f hf .services hkind
  rw [hid, hg] at hevidence
  exact absurd (hasOf.symm.trans hevidence) (by decide)

/-- Seen up before its source is lost, the service leaves nothing to emit: its row is held. -/
theorem a_lost_host_is_held : ∃ m₁ m₂ m₃ r, Monitored (fun _ => .error "") MonitorCycle.Quiet [m₃, m₂, m₁] m₃.after ∧
    m₃.covers "db-1" = true ∧ m₃.before.warningState.get apiStatus = some r ∧
    ∃ r', m₃.after.warningState.get apiStatus = some r' ∧ r'.core = r.core ∧ r'.visibilityState = .suppressed := by
  have h : ((monitorCycle Db.init degradedBatch).bind fun m₁ => (monitorCycle m₁.after upBatch).bind fun m₂ =>
      (monitorCycle m₂.after lostBatch).map fun m₃ =>
        (decide m₁.Quiet, decide m₂.Quiet, decide m₃.Quiet, m₃.covers "db-1",
          (m₃.before.warningState.get apiStatus).isSome)) = some (true, true, true, true, true) := by
    decide +kernel
  obtain ⟨m₁, h₁, h⟩ := Option.bind_eq_some_iff.mp h
  obtain ⟨m₂, h₂, h⟩ := Option.bind_eq_some_iff.mp h
  obtain ⟨m₃, h₃, h⟩ := Option.map_eq_some_iff.mp h
  simp only [Prod.mk.injEq, decide_eq_true_eq] at h
  obtain ⟨hquiet₁, hquiet₂, hquiet₃, hcovers, hsome⟩ := h
  obtain ⟨r, hr⟩ := Option.isSome_iff_exists.mp hsome
  obtain ⟨hran₁, hstart, _⟩ := ran_monitorCycle h₁
  obtain ⟨hran₂, hnext₂, _⟩ := ran_monitorCycle h₂
  obtain ⟨hran₃, hnext₃, hbatch⟩ := ran_monitorCycle h₃
  have hrun : Monitored (fun _ => .error "") MonitorCycle.Quiet [m₃, m₂, m₁] m₃.after :=
    .cycle (hnext₃ ▸ .cycle (hnext₂ ▸ .cycle (.start (by rw [hstart]; rfl)) hquiet₁ hran₁) hquiet₂ hran₂) hquiet₃ hran₃
  refine ⟨m₁, m₂, m₃, r, hrun, hcovers, hr, ?_⟩
  have hfresh := persistence_needs_fresh_evidence hrun m₃ mem_cons_self
  refine hfresh.frozen apiStatus .services r rfl ?_ hcovers hr
  rw [hbatch]
  exact not_mem_nil

end Nq
