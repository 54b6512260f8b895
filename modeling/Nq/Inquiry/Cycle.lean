/-
  Nq.Inquiry.Cycle — the store a report reads, as the publish cycle writes it
  (`nq-monitor/src/cmd/serve.rs`, `nq-db/src/publish.rs`, `nq-db/src/digest.rs`).

  `Db` leaves out columns that no detector reads; `Columns` holds those a report reads, by the
  key of their row, and `Monitor.store` puts both together. A cycle publishes a batch, runs the
  detectors and the lifecycle update on what was published, and seals the generation.

  - `cycle_spec`: after a cycle, the newest generation is sealed, and a finding it emitted has one
    observation in it and the row the lifecycle update leaves;
  - `observations_cycle`: its other observations are of earlier generations.
-/

import Nq.Inquiry.Report
import Nq.Operator.Retirement
import Nq.Publish.Publish
import Nq.Publish.Serve

namespace Nq.Inquiry

open List
open Sql (Table)

/-! ## Columns -/

def statusText : Nq.GenerationStatus → String
  | .complete => "complete"
  | .partial_ => "partial"
  | .failed => "failed"

def visibilityText : Visibility → String
  | .observed => "observed"
  | .suppressed => "suppressed"

def suppressionKindText : SuppressionKind → String
  | .ancestorLoss => "ancestor_loss"
  | .operatorDeclaration => "operator_declaration"

def suppressionReasonText : SuppressionReason → String
  | .hostUnreachable => "host_unreachable"
  | .sourceUnreachable => "source_unreachable"
  | .witnessUnobservable => "witness_unobservable"

def originSourceText : OriginSource → String
  | .nq => "nq"
  | .import_ => "import"

def originModeText : OriginMode → String
  | .observed => "observed"
  | .drill => "drill"
  | .replay => "replay"
  | .synthetic => "synthetic"

/-- The columns a report reads and `Db` leaves out, by the key of their row. -/
structure Columns where
  durationMs : Int → Int
  summaryHash : Int → Option String
  coverageJson : Int → Option String
  message : FindingId → String
  observationId : Int × String → Int
  observationMessage : Int × String → Option String
  basisSourceId : Int × String → Option String
  basisWitnessId : Int × String → Option String

def Columns.generation (c : Columns) (g : GenerationRow) : GenerationEntry where
  generationId := g.generationId
  startedAt := g.startedAt
  completedAt := g.completedAt
  status := statusText g.status
  sourcesExpected := g.sourcesExpected
  sourcesOk := g.sourcesOk
  sourcesFailed := g.sourcesFailed
  durationMs := c.durationMs g.generationId
  summaryHash := c.summaryHash g.generationId
  findingsObserved := g.findingsObserved
  detectorsRun := g.detectorsRun
  findingsSuppressed := g.findingsSuppressed
  coverageJson := c.coverageJson g.generationId

def Columns.warning (c : Columns) (r : WarningRow) : WarningEntry where
  host := r.host
  kind := r.kind
  subject := r.subject
  domain := r.domain
  severity := r.severity
  message := c.message r.id
  firstSeenGen := r.firstSeenGen
  firstSeenAt := r.firstSeenAt
  lastSeenGen := r.lastSeenGen
  lastSeenAt := r.lastSeenAt
  consecutiveGens := r.consecutiveGens
  absentGens := r.absentGens
  visibilityState := visibilityText r.visibilityState
  suppressionKind := r.suppressionKind.map suppressionKindText
  suppressionReason := r.suppressionReason.map suppressionReasonText
  suppressionDeclarationId := r.suppressionDeclarationId
  basisState := r.basisState.asStr
  basisSourceId := r.basisSourceId
  basisWitnessId := r.basisWitnessId
  lastBasisGeneration := r.lastBasisGeneration
  basisStateAt := r.basisStateAt
  originSource := originSourceText r.originSource
  originProducerId := r.originProducerId
  originExtractionRunId := r.originExtractionRunId
  originProducerExtractionTime := r.originProducerExtractionTime
  originImportContractVersion := r.originImportContractVersion
  originMode := originModeText r.originMode

/-- Every writer of `finding_observations` writes scope `local`. -/
def Columns.observation (c : Columns) (o : ObservationRow) : EvidenceReceipt where
  observationId := c.observationId o.pk
  generationId := o.generationId
  findingKey := o.findingKey
  scope := "local"
  detectorId := o.detectorId
  host := o.host
  subject := o.subject
  domain := o.domain
  severity := some o.severity
  value := o.value
  message := c.observationMessage o.pk
  findingClass := o.findingClass
  ruleHash := o.ruleHash
  observedAt := o.observedAt
  basisSourceId := c.basisSourceId o.pk
  basisWitnessId := c.basisWitnessId o.pk

/-- A database with all its columns, as its writers keep it: every observation has its own rowid, and
    a generation. -/
structure Monitor where
  db : Db
  columns : Columns
  ids : (db.findingObservations.rows.map fun o => columns.observationId o.pk).Nodup
  known : db.Known
  rows : db.RowsInv

def FindingId.selector (k : FindingId) : FindingSelector := ⟨k.host, k.kind, k.subject⟩

theorem selector_injective {k k' : FindingId} (h : FindingId.selector k = FindingId.selector k') : k = k' := by
  cases k
  cases k'
  cases h
  rfl

def Monitor.store (m : Monitor) : Store where
  generations := ⟨m.db.generations.rows.map m.columns.generation, by
    rw [map_map]
    exact m.db.generations.nodup⟩
  warningState := ⟨m.db.warningState.rows.map m.columns.warning, by
    have hkeys : (m.db.warningState.rows.map m.columns.warning).map WarningEntry.selector =
        (m.db.warningState.rows.map WarningRow.id).map FindingId.selector := by
      rw [map_map, map_map]
      rfl
    rw [hkeys]
    exact m.db.warningState.nodup.map fun _ _ => selector_injective⟩
  findingObservations := ⟨m.db.findingObservations.rows.map m.columns.observation, by
    rw [map_map]
    exact m.ids⟩

/-- A report's connection to the store. -/
def Monitor.connection (m : Monitor) : Connection := ⟨true, m.store⟩

/-! ## The cycle -/

/-- `batch.duration_ms()` and the NULLs of a fresh row. -/
def Columns.published (c : Columns) (generationId durationMs : Int) : Columns :=
  { c with
    durationMs := fun g => if g = generationId then durationMs else c.durationMs g
    summaryHash := fun g => if g = generationId then none else c.summaryHash g
    coverageJson := fun g => if g = generationId then none else c.coverageJson g }

/-- The observations of an update have rowids in the order in which the findings were emitted. -/
def Columns.emitted (c : Columns) (generationId firstId : Int)
    (text : Finding → String) (emitted : List Finding) : Columns :=
  let at_ (p : Int × String) := emitted.findIdx? fun f => (generationId, f.key) = p
  let of_ (p : Int × String) := emitted.find? fun f => (generationId, f.key) = p
  { c with
    message := fun k => ((emitted.find? (·.id = k)).map text).getD (c.message k)
    observationId := fun p => (at_ p).elim (c.observationId p) fun i : Nat => firstId + (i : Int)
    observationMessage := fun p => ((of_ p).map fun f => some (text f)).getD (c.observationMessage p)
    basisSourceId := fun p => ((of_ p).map Finding.basisSourceId).getD (c.basisSourceId p)
    basisWitnessId := fun p => ((of_ p).map Finding.basisWitnessId).getD (c.basisWitnessId p) }

/-- `seal_generation`. -/
def Columns.sealed (c : Columns) (generationId : Int) (hash : String) : Columns :=
  { c with summaryHash := fun g => if g = generationId then some hash else c.summaryHash g }

structure CycleCall where
  batch : Batch
  durationMs : Int
  /-- `run_all` and the hygiene of declarations. -/
  detect : Db → List Finding
  text : Finding → String
  escalation : EscalationConfig := {}
  active : List Declaration := []
  originMode : String := "observed"
  clock : Nq.Clock

/-- The lifecycle update of a cycle. -/
def CycleCall.update (c : CycleCall) (db : Db) (generationId : Int) : UpdateCall where
  generationId := generationId
  findings := c.detect db
  escalation := c.escalation
  active := c.active
  originMode := c.originMode
  clock := c.clock

section

variable {m : Monitor} {u : UpdateCall} {text : Finding → String}
  {firstId : Int} {fs : List Finding} {p : Int × String} {db : Db} {o : ObservationRow}

theorem observationId_emitted_of_some {c : Columns} {g : Int} {i : Nat}
    (h : fs.findIdx? (fun f => (g, f.key) = p) = some i) :
    (c.emitted g firstId text fs).observationId p = firstId + (i : Int) := by
  simp only [Columns.emitted, h, Option.elim_some]

theorem observationId_emitted_of_none {c : Columns} {g : Int} (h : fs.findIdx? (fun f => (g, f.key) = p) = none) :
    (c.emitted g firstId text fs).observationId p = c.observationId p := by
  simp only [Columns.emitted, h, Option.elim_none]

/-- A row of another key than those emitted was there before. -/
theorem observation_kept (h : Updated u m.db db) (ho : o ∈ db.findingObservations.rows)
    (hnone : (u.emitted m.db).findIdx? (fun f => (u.generationId, f.key) = o.pk) = none) :
    o ∈ m.db.findingObservations.rows := by
  have hget := Table.get_of_mem ho
  have hfind : (u.emitted m.db).find? (fun f => (u.generationId, f.key) = o.pk) = none :=
    find?_eq_none.mpr (by simpa using findIdx?_eq_none_iff.mp hnone)
  rw [h.observations, hfind] at hget
  exact Table.mem_of_get hget

theorem lt_nextObservation (ho : o ∈ m.db.findingObservations.rows) :
    m.columns.observationId o.pk < m.store.findingObservations.nextRowid :=
  Table.lt_nextRowid (t := m.store.findingObservations) (mem_map_of_mem ho)

/-- New observations get new rowids. -/
theorem ids_updated (h : Updated u m.db db) : (db.findingObservations.rows.map fun o =>
    (m.columns.emitted u.generationId m.store.findingObservations.nextRowid text (u.emitted m.db)).observationId
      o.pk).Nodup := by
  refine (List.Nodup.of_map _ db.findingObservations.nodup).map_on ?_
  intro o ho o' ho' e
  have hkey : ∀ {a b : ObservationRow}, a ∈ db.findingObservations.rows →
      b ∈ db.findingObservations.rows → a.pk = b.pk → a = b :=
    fun ha hb e => inj_on_of_nodup_map db.findingObservations.nodup ha hb e
  cases hi : (u.emitted m.db).findIdx? (fun f => (u.generationId, f.key) = o.pk) with
  | none =>
    have hold := observation_kept h ho hi
    rw [observationId_emitted_of_none hi] at e
    cases hj : (u.emitted m.db).findIdx? (fun f => (u.generationId, f.key) = o'.pk) with
    | none =>
      rw [observationId_emitted_of_none hj] at e
      exact inj_on_of_nodup_map m.ids hold (observation_kept h ho' hj) e
    | some j =>
      rw [observationId_emitted_of_some hj] at e
      have hlt := lt_nextObservation hold
      omega
  | some i =>
    rw [observationId_emitted_of_some hi] at e
    cases hj : (u.emitted m.db).findIdx? (fun f => (u.generationId, f.key) = o'.pk) with
    | none =>
      rw [observationId_emitted_of_none hj] at e
      have hlt := lt_nextObservation (observation_kept h ho' hj)
      omega
    | some j =>
      rw [observationId_emitted_of_some hj] at e
      have hsame : i = j := by omega
      subst hsame
      obtain ⟨hlt, hpk, _⟩ := findIdx?_eq_some_iff_getElem.mp hi
      obtain ⟨_, hpk', _⟩ := findIdx?_eq_some_iff_getElem.mp hj
      exact hkey ho ho' ((of_decide_eq_true hpk).symm.trans (of_decide_eq_true hpk'))

end

/-! ## Steps -/

def Monitor.publish (m : Monitor) (b : Batch) (durationMs : Int) : Except DbError (Monitor × Int) :=
  match h : publishBatch m.db b with
  | .error e => .error e
  | .ok (db, res) =>
    .ok ({
      db := db
      columns := m.columns.published res.generationId durationMs
      ids := (publishBatch_published h).findingObservations ▸ m.ids
      known := published_known m.known (publishBatch_published h)
      rows := fun k r hr => m.rows k r ((publishBatch_published h).warningState ▸ hr) }, res.generationId)

def Monitor.update (m : Monitor) (u : UpdateCall) (text : Finding → String) : Except DbError Monitor :=
  match h : u.run m.db with
  | .error e => .error e
  | .ok db =>
    .ok {
      db := db
      columns := m.columns.emitted u.generationId m.store.findingObservations.nextRowid text (u.emitted m.db)
      ids := ids_updated (run_updated h)
      known := updated_known m.known (run_updated h)
      rows := update_rowsInv m.rows (run_updated h) }

def Monitor.seal (m : Monitor) (generationId : Int) : Monitor :=
  { m with columns := m.columns.sealed generationId (sealHash m.db generationId) }

/-- A cycle whose publish and update both commit. -/
def Monitor.cycle (m : Monitor) (c : CycleCall) : Except DbError Monitor := do
  let (m, generationId) ← m.publish c.batch c.durationMs
  let m ← m.update (c.update m.db generationId) c.text
  pure (m.seal generationId)

/-- A turn of the loop: a publish that fails changes nothing, and what was published is sealed also
    where the update fails. -/
def Monitor.serve (m : Monitor) (c : CycleCall) : Monitor :=
  match m.publish c.batch c.durationMs with
  | .error _ => m
  | .ok (m₁, generationId) =>
    match m₁.update (c.update m₁.db generationId) c.text with
    | .error _ => m₁.seal generationId
    | .ok m₂ => m₂.seal generationId

/-! ## What a cycle leaves -/

/-- The lifecycle update counts, and leaves the rest of the generations. -/
theorem run_generations {u : UpdateCall} {db db' : Db} (h : u.run db = .ok db') : ∃ observed run suppressed : Nat,
    db'.generations = db.generations.updateKey u.generationId (·.setLineage observed run suppressed)
      (generationId_setLineage observed run suppressed) := by
  obtain ⟨_, db₁, h₁, e⟩ := run_eq_ok.mp h
  have hframe : (setStabilities (u.cycle db) db₁ (u.emitted db)).generations = db.generations := by
    rw [frame_of_recorded (recordFindings_recorded h₁)]
  have hlineage : ∀ d : Db, d.generations = db.generations → ∃ observed run suppressed : Nat,
      (recordLineage u.generationId (u.emitted db) d).generations = db.generations.updateKey u.generationId
        (·.setLineage observed run suppressed) (generationId_setLineage observed run suppressed) := by
    intro d hd
    rw [← hd]
    exact ⟨_, _, _, rfl⟩
  subst e
  exact hlineage _ hframe

structure Cycled (c : CycleCall) (m m₁ m' : Monitor) (g : Int) : Prop where
  published : Published c.batch m.db m₁.db g
  updated : Updated (c.update m₁.db g) m₁.db m'.db
  ran : (c.update m₁.db g).run m₁.db = .ok m'.db
  fresh : m₁.columns = m.columns.published g c.durationMs
  columns : m'.columns = (m₁.columns.emitted g m₁.store.findingObservations.nextRowid c.text
    ((c.update m₁.db g).emitted m₁.db)).sealed g (sealHash m'.db g)

theorem publish_ok {m m₁ : Monitor} {b : Batch} {durationMs g : Int} (h : m.publish b durationMs = .ok (m₁, g)) :
    Published b m.db m₁.db g ∧ m₁.columns = m.columns.published g durationMs := by
  unfold Monitor.publish at h
  split at h
  · cases h
  · rename_i db res hp
    cases h
    exact ⟨publishBatch_published hp, rfl⟩

theorem cycle_ok {c : CycleCall} {m m' : Monitor} (h : m.cycle c = .ok m') :
    ∃ m₁ g, m.publish c.batch c.durationMs = .ok (m₁, g) ∧ Cycled c m m₁ m' g := by
  unfold Monitor.cycle at h
  obtain ⟨⟨m₁, g⟩, hp, h⟩ := Sql.bind_ok.mp h
  obtain ⟨m₂, hu, h⟩ := Sql.bind_ok.mp h
  cases h
  obtain ⟨hpublished, hfresh⟩ := publish_ok hp
  refine ⟨m₁, g, hp, ?_⟩
  unfold Monitor.update at hu
  split at hu
  · cases hu
  · rename_i db hrun
    cases hu
    exact ⟨hpublished, run_updated hrun, hrun, hfresh, rfl⟩

section

variable {c : CycleCall} {m m₁ m' : Monitor} {g : Int} {env : Env} {fromStr : String → Except String Json}

def statusOf : Nq.GenerationStatus → GenerationStatus
  | .complete => .complete
  | .partial_ => .partial_
  | .failed => .failed

/-- The snapshot of a generation without coverage. -/
def Columns.snapshot (c : Columns) (g : GenerationRow) : SourceSnapshot :=
  { c.generation g with
    status := statusOf g.status
    coverageJson := none }

variable {columns : Columns} {f : Finding} {asOf : Int} {maxAge : Nat} {r : WarningRow}

theorem snapshot_generation {r : GenerationRow} (h : columns.coverageJson r.generationId = none) :
    (columns.generation r).snapshot env fromStr = .ok (columns.snapshot r) := by
  have hstatus : parseGenerationStatus env (statusText r.status) = .ok (statusOf r.status) := by
    cases r.status <;> simp [parseGenerationStatus, statusText, statusOf]
  have hcoverage : (columns.generation r).coverageJson = none := h
  unfold GenerationEntry.snapshot
  rw [hcoverage]
  show (parseGenerationStatus env (statusText r.status) >>= fun status => _) = _
  rw [hstatus]
  rfl

/-- The newest generation after a cycle is the published one, counted and sealed. -/
theorem Cycled.latest (h : Cycled c m m₁ m' g) : ∃ observed run suppressed : Nat,
    loadLatestSnapshot env fromStr m'.store =
      .ok (some (m'.columns.snapshot ((c.batch.generationRow g).setLineage observed run suppressed))) ∧
    m'.columns.summaryHash g ≠ none := by
  obtain ⟨observed, run, suppressed, hgenerations⟩ := run_generations h.ran
  have hrows : m'.db.generations.rows = (m.db.generations.rows ++ [c.batch.generationRow g]).map fun r =>
      if r.generationId = g then r.setLineage observed run suppressed else r := by
    rw [hgenerations, ← h.published.generations]
    rfl
  have hmem : (c.batch.generationRow g).setLineage observed run suppressed ∈ m'.db.generations.rows := by
    rw [hrows]
    exact List.mem_map.mpr ⟨_, mem_append_right _ (mem_singleton_self _), if_pos rfl⟩
  have hnewest : ∀ r ∈ m'.db.generations.rows, r.generationId ≤ g := by
    intro r hr
    rw [hrows] at hr
    obtain ⟨r₀, hr₀, e⟩ := List.mem_map.mp hr
    have hid : r.generationId = r₀.generationId := by
      rw [← e]
      split <;> rfl
    rw [hid]
    rcases mem_append.mp hr₀ with hold | hnew
    · have hlt := Table.lt_nextRowid hold
      rw [h.published.fresh]
      omega
    · rw [mem_singleton.mp hnew]
      exact Int.le_refl g
  have hlatest : m'.store.latestGeneration =
      some (m'.columns.generation ((c.batch.generationRow g).setLineage observed run suppressed)) := by
    refine latestGeneration_eq (mem_map_of_mem hmem) fun r hr => ?_
    obtain ⟨r₀, hr₀, e⟩ := List.mem_map.mp hr
    rw [← e]
    exact hnewest r₀ hr₀
  have hsealed : m'.columns.summaryHash g = some (sealHash m'.db g) := by
    rw [h.columns]
    exact if_pos rfl
  have hcoverage : m'.columns.coverageJson g = none := by
    rw [h.columns, Columns.sealed, Columns.emitted, h.fresh]
    exact if_pos rfl
  refine ⟨observed, run, suppressed, ?_, hsealed ▸ Option.some_ne_none _⟩
  unfold loadLatestSnapshot
  rw [hlatest]
  dsimp only
  rw [snapshot_generation hcoverage]
  rfl

/-- A finding an update emitted and the row it stands in, where no pass takes it away. -/
structure Cycled.Emits (c : CycleCall) (m₁ : Monitor) (g : Int) (f : Finding) (sid : String) : Prop where
  mem : f ∈ (c.update m₁.db g).emitted m₁.db
  basis : f.basisSourceId = some sid
  standing : m₁.db.sourcesRetired.get sid = none
  authentic : parseOriginMode c.originMode = some .observed
  uncovered : ∀ d ∈ c.active, d.withdraws f.host = false

/-- The row the upsert leaves. -/
def CycleCall.upserted (c : CycleCall) (m₁ : Monitor) (g : Int) (f : Finding) : WarningRow :=
  emittedRow ((c.update m₁.db g).cycle m₁.db) (m₁.db.warningState.get f.id) f

/-- The collector leaves the row of the finding. -/
def CycleCall.Keeps (c : CycleCall) (m₁ : Monitor) (g : Int) (f : Finding) : Prop :=
  m₁.db.goneAfter (c.upserted m₁ g f) ≤ entityGcThreshold

theorem get_warningState (m : Monitor) (k : FindingId) :
    m.store.warningState.get (FindingId.selector k) = (m.db.warningState.get k).map m.columns.warning := by
  show (m.db.warningState.rows.map m.columns.warning).find? _ = (m.db.warningState.rows.find? _).map _
  rw [find?_map]
  congr 2
  funext r
  refine decide_eq_decide.mpr ⟨fun e => selector_injective e, fun e => congrArg FindingId.selector e⟩

/-- The row of an emitted finding, where the collector leaves it. -/
theorem Cycled.row (h : Cycled c m m₁ m' g) (hf : f ∈ (c.update m₁.db g).emitted m₁.db) :
    (m'.db.warningState.get f.id = none ↔ ¬ c.Keeps m₁ g f) ∧ ∀ r, m'.db.warningState.get f.id = some r →
      r.core = { (c.upserted m₁ g f).core with stability := r.stability } ∧
      ((∀ d ∈ c.active, d.withdraws f.host = false) → r.visibilityState = .observed) := by
  obtain ⟨s, hs⟩ := h.updated.emitted f hf
  have hgone : m₁.db.goneAfter ((c.upserted m₁ g f).setStability s) = m₁.db.goneAfter (c.upserted m₁ g f) :=
    goneAfter_congr _ rfl rfl rfl
  have hsome : ((c.update m₁.db g).finish m₁.db ((c.upserted m₁ g f).setStability s)).isSome = true ↔
      m₁.db.goneAfter ((c.upserted m₁ g f).setStability s) ≤ entityGcThreshold := finish_isSome
  rw [hgone] at hsome
  constructor
  · rw [hs, ← Option.not_isSome_iff_eq_none]
    exact not_congr hsome
  · intro r hr
    have hfin : (c.update m₁.db g).finish m₁.db ((c.upserted m₁ g f).setStability s) = some r := hs.symm.trans hr
    have hcore := finish_core hfin
    have hstability : r.stability = some s := congrArg (·.stability) hcore
    refine ⟨by rw [hstability, hcore]; rfl, fun huncovered => ?_⟩
    have hhost : (c.upserted m₁ g f).host = f.host := congrArg FindingId.host (id_emittedRow (t := m₁.db.warningState))
    rcases finish_marks hfin with hcovered | hkept
    · obtain ⟨d, hd, hw, _⟩ := hcovered
      exact absurd (huncovered d hd) (by rw [← hhost]; exact ne_of_eq_of_ne hw (by decide))
    · have hvisible : r.visibilityState = _ := congrArg Marks.visibility hkept.2
      rw [hvisible]
      show ((((c.upserted m₁ g f).setStability s).revoke _).visibilityState) = _
      unfold WarningRow.revoke
      split
      · rfl
      · exact visibilityState_emittedRow _ _ _

/-- Where the row under the finding's identity came from, as of a time. -/
def Monitor.Originates (env : Env) (m : Monitor) (f : Finding) (asOf : Int) (maxAge : Nat) : Prop :=
  ∀ r, m.db.warningState.get f.id = some r → (m.columns.warning r).state.Originated env asOf maxAge

theorem originated_congr {a b : FindingState} (hs : a.originSource = b.originSource)
    (hp : a.originProducerId = b.originProducerId) (he : a.originExtractionRunId = b.originExtractionRunId)
    (ht : a.originProducerExtractionTime = b.originProducerExtractionTime)
    (hv : a.originImportContractVersion = b.originImportContractVersion) :
    a.Originated env asOf maxAge ↔ b.Originated env asOf maxAge := by
  unfold FindingState.Originated FindingState.Produced
  rw [hs, hp, he, ht, hv]

theorem originated_upserted (hcore : r.core = { (c.upserted m₁ g f).core with stability := r.stability }) :
    (columns.warning r).state.Originated env asOf maxAge ↔ m₁.Originates env f asOf maxAge := by
  have hsource : r.originSource = (c.upserted m₁ g f).originSource := congrArg (·.originSource) hcore
  have hproducer : r.originProducerId = (c.upserted m₁ g f).originProducerId := congrArg (·.originProducerId) hcore
  have hrun : r.originExtractionRunId = (c.upserted m₁ g f).originExtractionRunId :=
    congrArg (·.originExtractionRunId) hcore
  have htime : r.originProducerExtractionTime = (c.upserted m₁ g f).originProducerExtractionTime :=
    congrArg (·.originProducerExtractionTime) hcore
  have hversion : r.originImportContractVersion = (c.upserted m₁ g f).originImportContractVersion :=
    congrArg (·.originImportContractVersion) hcore
  unfold CycleCall.upserted at hsource hproducer hrun htime hversion
  unfold Monitor.Originates
  cases hprev : m₁.db.warningState.get f.id with
  | none =>
    rw [hprev] at hsource
    have hnq : (columns.warning r).state.originSource = "nq" := congrArg originSourceText hsource
    exact ⟨fun _ r' hr' => (nomatch hr'), fun _ => Or.inl hnq⟩
  | some r₀ =>
    rw [hprev] at hsource hproducer hrun htime hversion
    have hsame : (columns.warning r).state.Originated env asOf maxAge ↔
        (m₁.columns.warning r₀).state.Originated env asOf maxAge :=
      originated_congr (congrArg originSourceText hsource) hproducer hrun htime hversion
    exact hsame.trans ⟨fun h r' hr' => by cases hr'; exact h, fun h => h r₀ rfl⟩

/-- The row of an emitted finding fires, by the clock of the update. -/
theorem Cycled.fires (h : Cycled c m m₁ m' g) {sid : String} (hf : Cycled.Emits c m₁ g f sid)
    (hr : m'.db.warningState.get f.id = some r) {lifecycle lastSeen : Int}
    (hclock : env.rfc3339 c.clock.lifecycle = .ok lifecycle) :
    (m'.columns.warning r).state.Fires env g asOf maxAge lastSeen ↔
      lastSeen = lifecycle ∧ lifecycle ≤ asOf ∧ m₁.Originates env f asOf maxAge := by
  obtain ⟨hcore, hvisible⟩ := (h.row hf.mem).2 r hr
  have hobserved := hvisible hf.uncovered
  have hbasisOf : basisOf ((c.update m₁.db g).cycle m₁.db) f = (.live, some g, some c.clock.lifecycle) :=
    basisOf_standing hf.basis hf.standing
  have hmode : ((c.update m₁.db g).cycle m₁.db).originMode = .observed := by
    show (parseOriginMode c.originMode).getD .observed = _
    rw [hf.authentic]
    rfl
  have hcolumns : (c.upserted m₁ g f).lastSeenAt = c.clock.lifecycle ∧ (c.upserted m₁ g f).basisSourceId = some sid ∧
      (c.upserted m₁ g f).basisState = .live ∧ (c.upserted m₁ g f).lastBasisGeneration = some g ∧
      (c.upserted m₁ g f).basisStateAt = some c.clock.lifecycle ∧ (c.upserted m₁ g f).originMode = .observed := by
    unfold CycleCall.upserted emittedRow
    cases m₁.db.warningState.get f.id <;>
      exact ⟨rfl, hf.basis, congrArg Prod.fst hbasisOf, congrArg (·.2.1) hbasisOf, congrArg (·.2.2) hbasisOf, hmode⟩
  obtain ⟨hat, hsource, hlive, hlast, hstate, horigin⟩ := hcolumns
  have hlastSeenAt : r.lastSeenAt = c.clock.lifecycle := (congrArg (·.lastSeenAt) hcore).trans hat
  have hlastSeenGen : r.lastSeenGen = g := (congrArg (·.lastSeenGen) hcore).trans (lastSeenGen_emittedRow _ _ _)
  have habsent : r.absentGens = 0 := (congrArg (·.absentGens) hcore).trans (absentGens_emittedRow _ _ _)
  have hminted : r.originMode = .observed := (congrArg (·.originMode) hcore).trans horigin
  have hbasis : r.basisState = .live := (congrArg (·.basisState) hcore).trans hlive
  have hbasisSource : r.basisSourceId = some sid := (congrArg (·.basisSourceId) hcore).trans hsource
  have hbasisLast : r.lastBasisGeneration = some g := (congrArg (·.lastBasisGeneration) hcore).trans hlast
  have hbasisAt : r.basisStateAt = some c.clock.lifecycle := (congrArg (·.basisStateAt) hcore).trans hstate
  have hstreak : 1 ≤ r.consecutiveGens := (m'.rows f.id r hr).streak
  have hadmissible : (m'.columns.warning r).admissibility = "observable" := by
    unfold WarningEntry.admissibility Columns.warning
    simp [hobserved, visibilityText]
  constructor
  · intro hfires
    obtain ⟨hseen, hby⟩ := hfires.lastSeenAt
    have hsame : lastSeen = lifecycle := by
      have hread : env.rfc3339 r.lastSeenAt = .ok lastSeen := hseen
      rw [hlastSeenAt, hclock] at hread
      exact (Except.ok.inj hread).symm
    exact ⟨hsame, hsame ▸ hby, (originated_upserted hcore).mp hfires.originated⟩
  · intro hconditions
    obtain ⟨hsame, hby, horiginates⟩ := hconditions
    have hread : env.rfc3339 r.lastSeenAt = .ok lifecycle := by rw [hlastSeenAt, hclock]
    exact {
      lastSeenAt := ⟨hsame ▸ hread, hsame ▸ hby⟩
      observed := ⟨congrArg visibilityText hobserved, hadmissible⟩
      minted := congrArg originModeText hminted
      originated := (originated_upserted hcore).mpr horiginates
      live := ⟨congrArg BasisState.asStr hbasis, fun e => (by cases hbasisSource.symm.trans e), hbasisLast⟩
      basisStateAt := ⟨_, hbasisAt, lifecycle, hclock, hby⟩
      current := ⟨hlastSeenGen, habsent, hstreak⟩ }

/-! ## Observations -/

/-- The observation of an emitted finding. -/
def CycleCall.observed (c : CycleCall) (m₁ : Monitor) (g : Int) (f : Finding) : ObservationRow :=
  observationOf ((c.update m₁.db g).cycle m₁.db) f
    (severityOf ((c.update m₁.db g).cycle m₁.db) (m₁.db.warningState.get f.id) f)

theorem find_emitted (h : Cycled c m m₁ m' g) (hf : f ∈ (c.update m₁.db g).emitted m₁.db) :
    ((c.update m₁.db g).emitted m₁.db).find? (fun f' =>
      ((c.update m₁.db g).generationId, f'.key) = (g, f.key)) = some f := by
  have hid := find_id h.updated.nodup hf
  rw [← hid]
  congr 1
  funext f'
  refine decide_eq_decide.mpr ⟨fun e => Finding.key_eq_iff.mp (Prod.mk.inj e).2, fun e => ?_⟩
  rw [Finding.key_eq_iff.mpr e]
  rfl

/-- An emitted finding has an observation in the published generation. -/
theorem Cycled.observation_mem (h : Cycled c m m₁ m' g) (hf : f ∈ (c.update m₁.db g).emitted m₁.db) :
    c.observed m₁ g f ∈ m'.db.findingObservations.rows := by
  have hget := h.updated.observations (g, f.key)
  rw [find_emitted h hf] at hget
  exact Table.mem_of_get hget

/-- No other observation of it is of that generation. -/
theorem Cycled.observation_unique (h : Cycled c m m₁ m' g) (hf : f ∈ (c.update m₁.db g).emitted m₁.db)
    {o : ObservationRow} (ho : o ∈ m'.db.findingObservations.rows) (hgen : o.generationId = g)
    (hsame : (⟨o.host, o.detectorId, o.subject⟩ : FindingId) = f.id) : o = c.observed m₁ g f := by
  have hget := (h.updated.observations o.pk).symm.trans (Table.get_of_mem ho)
  cases hfind : ((c.update m₁.db g).emitted m₁.db).find? (fun f' =>
    ((c.update m₁.db g).generationId, f'.key) = o.pk) with
  | none =>
    have hnew := (publish_unrecorded m.known h.published).2 o.findingKey
    have hpk : o.pk = (g, o.findingKey) := by
      rw [← hgen]
      rfl
    rw [hfind, hpk] at hget
    exact nomatch hget.symm.trans hnew
  | some f' =>
    have hmem := mem_of_find?_eq_some hfind
    rw [hfind] at hget
    have hobserved : c.observed m₁ g f' = o := Option.some.inj hget
    have hid : f'.id = f.id := by
      rw [← hsame, ← hobserved]
      rfl
    have e : f' = f := inj_on_of_nodup_map h.updated.nodup hmem hf hid
    rw [← hobserved, e]

theorem Cycled.basis_observed (h : Cycled c m m₁ m' g) (hf : f ∈ (c.update m₁.db g).emitted m₁.db) :
    (m'.columns.observation (c.observed m₁ g f)).basisSourceId = f.basisSourceId ∧
      (m'.columns.observation (c.observed m₁ g f)).basisWitnessId = f.basisWitnessId := by
  have hfind : ((c.update m₁.db g).emitted m₁.db).find? (fun f' => (g, f'.key) = (g, f.key)) = some f :=
    find_emitted h hf
  have hcolumns := h.columns
  constructor
  · show m'.columns.basisSourceId (g, f.key) = _
    rw [hcolumns]
    show ((((c.update m₁.db g).emitted m₁.db).find? (fun f' =>
      (g, f'.key) = (g, f.key))).map Finding.basisSourceId).getD _ = _
    rw [hfind]
    rfl
  · show m'.columns.basisWitnessId (g, f.key) = _
    rw [hcolumns]
    show ((((c.update m₁.db g).emitted m₁.db).find? (fun f' =>
      (g, f'.key) = (g, f.key))).map Finding.basisWitnessId).getD _ = _
    rw [hfind]
    rfl

/-- The tail of a finding after a cycle that emitted it: the observation of the cycle, and earlier ones. -/
theorem Cycled.tail (h : Cycled c m m₁ m' g) (hf : f ∈ (c.update m₁.db g).emitted m₁.db) {limit : Nat}
    (hlimit : limit ≠ 0) : ∃ rest, (loadEvidenceTail m'.store (FindingId.selector f.id) g limit).1 =
      m'.columns.observation (c.observed m₁ g f) :: rest ∧ ∀ e ∈ rest, e.generationId < g := by
  obtain ⟨all, hperm, hdesc, htail⟩ := loadEvidenceTail_spec m'.store (FindingId.selector f.id) g limit
  have hmem : m'.columns.observation (c.observed m₁ g f) ∈ all := by
    refine hperm.mem_iff.mpr (mem_filter.mpr ⟨mem_map_of_mem (h.observation_mem hf), ?_⟩)
    exact decide_eq_true ⟨rfl, rfl, rfl, rfl, Int.le_refl g⟩
  have hother : ∀ e ∈ all, e.generationId ≤ g ∧
      (e.generationId = g → e = m'.columns.observation (c.observed m₁ g f)) := by
    intro e he
    obtain ⟨hrow, hmatches⟩ := mem_filter.mp (hperm.mem_iff.mp he)
    obtain ⟨o, ho, eo⟩ := List.mem_map.mp hrow
    obtain ⟨_, hhost, hkind, hsubject, hle⟩ := of_decide_eq_true hmatches
    subst eo
    refine ⟨hle, fun hgen => congrArg _ (h.observation_unique hf ho hgen ?_)⟩
    have hhost : o.host = f.host := hhost
    have hkind : o.detectorId = f.kind := hkind
    have hsubject : o.subject = f.subject := hsubject
    rw [hhost, hkind, hsubject]
    rfl
  cases all with
  | nil => cases hmem
  | cons first rest =>
    have hbehind : ∀ e ∈ rest, first.Newer e := fun e he => rel_of_pairwise_cons hdesc he
    have hfirst : first = m'.columns.observation (c.observed m₁ g f) := by
      rcases mem_cons.mp hmem with e | hrest
      · exact e.symm
      · refine (hother first mem_cons_self).2 (Int.le_antisymm (hother first mem_cons_self).1 ?_)
        rcases hbehind _ hrest with hlt | hsame
        · exact Int.le_of_lt hlt
        · exact Int.le_of_eq hsame.1
    refine ⟨rest.take (limit - 1), ?_, fun e he => ?_⟩
    · rw [htail, hfirst]
      obtain ⟨n, hn⟩ := Nat.exists_eq_succ_of_ne_zero hlimit
      subst hn
      rfl
    · have hin := mem_of_mem_take he
      obtain ⟨hle, hsame⟩ := hother e (mem_cons_of_mem _ hin)
      rcases Int.lt_or_eq_of_le hle with hlt | heq
      · exact hlt
      · have hnewer := hbehind e hin
        rw [hsame heq, hfirst] at hnewer
        unfold EvidenceReceipt.Newer at hnewer
        omega

end

end Nq.Inquiry
