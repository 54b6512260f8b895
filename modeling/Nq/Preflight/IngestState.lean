/-
  Nq.Preflight.IngestState — the `ingest_state` preflight (`nq-db/src/preflight.rs`,
  `ingest_state_witness_projection.rs`).

  The generation that completed last answers, by the text of its stamp, and the sources
  that failed in it. A generation that is not projected ends the evaluation; a source that
  is not is excluded, and the generation stands.
-/

import Nq.Preflight.Result

namespace Nq.Preflight

open Receipts (Json WitnessPacket)
open Sql (Table)

/-! ## Tables -/

def GenerationStatus.asStr : GenerationStatus → String
  | .complete => "complete"
  | .partial_ => "partial"
  | .failed => "failed"

def SourceStatus.asStr : SourceStatus → String
  | .ok => "ok"
  | .error => "error"
  | .timeout => "timeout"

/-- The columns of `source_runs` the preflight reads. -/
structure IngestSourceRun where
  generationId : Int
  source : String
  status : SourceStatus
  receivedAt : String
  errorMessage : Option String
  deriving DecidableEq, Repr

def IngestSourceRun.pk (r : IngestSourceRun) : Int × String := (r.generationId, r.source)

/-- `generations` and `source_runs`. -/
structure IngestTables where
  generations : Table GenerationRow.generationId
  sourceRuns : Table IngestSourceRun.pk

/-- `ORDER BY completed_at DESC` along `idx_generations_completed_at`: generations of one
    stamp in the order of their ids. -/
def completedLater (a b : GenerationRow) : Bool :=
  b.completedAt < a.completedAt ∨ b.completedAt = a.completedAt ∧ a.generationId < b.generationId

def loadLatestGeneration (t : IngestTables) : Option GenerationRow := Sql.firstBy completedLater t.generations.rows

/-- `ORDER BY source`. -/
def loadFailedSourceRuns (t : IngestTables) (generationId : Int) : List IngestSourceRun :=
  (t.sourceRuns.rows.filter fun r => r.generationId = generationId && r.status ≠ .ok).insertionSort fun a b =>
    a.source ≤ b.source

/-! ## Projection -/

def witnessTypeIngestGeneration : String := "ingest_generation_legacy_projection"
def witnessTypeIngestSource : String := "ingest_source_legacy_projection"

def projectionLimitAggregatorRowRecovery : String :=
  "aggregator self-testimony recovered from db row, not first-person emission"

/-- The envelope both projections fill in. -/
def aggregatorPacket (witnessType subject observedAt generatedAt : String)
    (observation : Json) (sourceRef : String) : WitnessPacket :=
  legacyPacket witnessType subject "legacy_aggregator_row_projection" observedAt generatedAt observation
    ["packet reconstructed from aggregator-written db row",
      "native witness packet emission not implemented for ingest_state"]
    sourceRef [projectionLimitAggregatorRowRecovery] .applicationInternal

def GenerationRow.subject (gen : GenerationRow) : String := "generation:" ++ toString gen.generationId

def projectIngestGeneration (crates : Crates) (gen : GenerationRow)
    (generatedAt : String) : Except ProjectionRefusal WitnessPacket :=
  let sourceRef := "ingest_generation:" ++ toString gen.generationId
  refusedAs sourceRef do
    Collections.rejectIf (gen.generationId ≤ 0) ("generation_id must be positive; got " ++ toString gen.generationId)
    let observedAt ← recoverStamp crates
      "generation has no substrate-time completed_at (empty); projection would have to fabricate it"
      ("generation completed_at is not RFC3339: " ++ Receipts.debug crates.codec (trimmed gen.completedAt) ++
        "; projection would have to forge a parseable timestamp") gen.completedAt
    let observation := Json.object [("type", .string "ingest_generation_projected"),
      ("generation_id", .number (.int gen.generationId)),
      ("status", .string (GenerationStatus.asStr gen.status)), ("completed_at", .string gen.completedAt),
      ("sources_expected", .number (.int gen.sourcesExpected)), ("sources_ok", .number (.int gen.sourcesOk)),
      ("sources_failed", .number (.int gen.sourcesFailed))]
    validated crates.codec (aggregatorPacket witnessTypeIngestGeneration
      (GenerationRow.subject gen) observedAt generatedAt observation
      sourceRef)

def projectIngestSource (crates : Crates) (generationId : Int) (src : IngestSourceRun) (generatedAt : String) :
    Except ProjectionRefusal WitnessPacket :=
  let sourceName := trimmed src.source
  let sourceRef := "ingest_source:" ++ sourceName ++ ":gen" ++ toString generationId
  refusedAs sourceRef do
    Collections.rejectIf (generationId ≤ 0) ("generation_id must be positive; got " ++ toString generationId)
    Collections.rejectIf (sourceName = "") "source name is empty"
    let observedAt ← recoverStamp crates
      "source_run has no substrate-time received_at (empty); projection would have to fabricate it"
      ("source_run received_at is not RFC3339: " ++ Receipts.debug crates.codec (trimmed src.receivedAt) ++
        "; projection would have to forge a parseable timestamp") src.receivedAt
    let observation := Json.object [("type", .string "ingest_source_projected"),
      ("generation_id", .number (.int generationId)),
      ("source", .string src.source), ("status", .string (SourceStatus.asStr src.status)),
        ("received_at", .string src.receivedAt),
      ("error_message", Json.ofString src.errorMessage)]
    validated crates.codec (aggregatorPacket witnessTypeIngestSource ("source:" ++
      sourceName) observedAt generatedAt observation sourceRef)

variable {generatedAt : String} {packet : WitnessPacket}

theorem projectIngestGeneration_validates {crates : Crates} {gen : GenerationRow}
    (h : projectIngestGeneration crates gen generatedAt = .ok packet) : packet.validate crates.codec = .ok () := by
  unfold projectIngestGeneration at h
  refine validates_refusedAs ?_ h
  repeat refine validates_bind fun _ => ?_
  exact validates_validated

theorem projectIngestSource_validates {crates : Crates} {generationId : Int} {src : IngestSourceRun}
    (h : projectIngestSource crates generationId src generatedAt = .ok packet) :
    packet.validate crates.codec = .ok () := by
  unfold projectIngestSource at h
  refine validates_refusedAs ?_ h
  repeat refine validates_bind fun _ => ?_
  exact validates_validated

/-! ## The evaluator -/

def ingestStateStaleThresholdSeconds : Int := 300

def GenerationRow.makeSupport (gen : GenerationRow) : PreflightSupport :=
  { claim := "NQ recorded generation " ++ toString gen.generationId ++ " as " ++ GenerationStatus.asStr gen.status ++
    " at observed_at " ++
      gen.completedAt ++ " (sources_ok=" ++ toString gen.sourcesOk ++ "/" ++ toString gen.sourcesExpected ++
        ", sources_failed=" ++ toString gen.sourcesFailed ++ ")"
    findingKind := "ingest_generation_" ++ GenerationStatus.asStr gen.status
    subject := GenerationRow.subject gen
    observedAt := some gen.completedAt
    admissibilityState := some "observable" }

def IngestSourceRun.makeSupport (src : IngestSourceRun) : PreflightSupport :=
  { claim := "Source '" ++ src.source ++ "' reported status " ++ SourceStatus.asStr src.status ++ " at received_at " ++
    src.receivedAt ++ src.errorMessage.elim "" (" — error: " ++ ·)
    findingKind := "ingest_source_" ++ SourceStatus.asStr src.status
    subject := "source:" ++ src.source
    observedAt := some src.receivedAt
    admissibilityState := some "observable" }

/-- The supports and exclusions of the failed sources. -/
def admitSources (crates : Crates) (generationId : Int) (generatedAt : String) (failed : List IngestSourceRun) :
    List PreflightSupport × List PreflightExclusion :=
  admitRows (projectIngestSource crates generationId · generatedAt)
    (fun src packet => { src.makeSupport with witnessPacket := packetIdentity crates.codec packet })
    (fun src refusal => makeProjectionRefusalExclusion ("ingest_source_" ++ SourceStatus.asStr src.status) ("source:" ++
      src.source) refusal)
    failed

def ingestVerdict (gen : GenerationRow) (age : Option Int) : Verdict × String :=
  if isStale ingestStateStaleThresholdSeconds age then
    (.staleTestimony, "Latest generation completed at " ++ gen.completedAt ++ " is " ++ toString (age.getD 0) ++
      "s old (> " ++ toString ingestStateStaleThresholdSeconds ++ "s threshold); ingest pulse evidence is stale.")
  else if 0 < gen.sourcesFailed ∨ gen.status = .failed ∨ gen.status = .partial_ then
    (.admissibleWithScope, "Latest generation reports " ++ toString gen.sourcesFailed ++ " source(s) failed (status=" ++
      GenerationStatus.asStr gen.status ++
        "); admissible only at witness scope — upstream substrate state remains beyond witness.")
  else
    (.admissibleWithScope, "Latest generation completed cleanly; admissible as evidence of NQ's own pull cycle, " ++
      "not of upstream substrate health.")

def evaluateGeneration (crates : Crates) (result : PreflightResult)
    (gen : GenerationRow) (failed : List IngestSourceRun) (now : Int) :
    PreflightResult :=
  match projectIngestGeneration crates gen result.generatedAt with
  | .error refusal =>
    { result with
      coverage := [⟨"ingest_pulse", "observable",
        some "latest generation row refused projection — see excludes for the custody constraint"⟩]
      excludes := [makeProjectionRefusalExclusion ("ingest_generation_" ++
        GenerationStatus.asStr gen.status) (GenerationRow.subject gen)
        refusal]
      verdict := .insufficientCoverage
      verdictNote := some ("Latest generation row could not be projected into an admissible witness packet; " ++
        "ingest pulse evidence is in custody refusal.") }
  | .ok packet =>
    let sources := admitSources crates gen.generationId result.generatedAt failed
    let disclosed := PreflightResult.discloseWindow
      { result with
        coverage := [⟨"ingest_pulse", "observable", none⟩]
        supports := { GenerationRow.makeSupport gen with witnessPacket := packetIdentity crates.codec packet } ::
          sources.1
        excludes := sources.2 }
    let verdict := ingestVerdict gen (crates.ageSeconds gen.completedAt now)
    { disclosed with
      freshnessHorizon := freshnessHorizonFrom crates disclosed.observedAtMax ingestStateStaleThresholdSeconds
      verdict := verdict.1
      verdictNote := some verdict.2 }

def evaluateIngestStatePreflightAt (crates : Crates) (t : IngestTables) (now : Int) : PreflightResult :=
  let generatedAt := (crates.format now).getD ""
  let result := PreflightResult.skeleton .ingestState ⟨"monitor", "ingest", none⟩ generatedAt
  PreflightResult.computeTimeBasis crates (match loadLatestGeneration t with
    | none =>
      { result with
        verdictNote := some ("No generations recorded; NQ has no ingest pulse evidence on this DB. " ++
          "Absence of pulses is not affirmative testimony of healthy ingest.")
        coverage := [⟨"ingest_pulse", "absent", some "generations table is empty"⟩] }
    | some gen => evaluateGeneration crates result gen (loadFailedSourceRuns t gen.generationId) now)

/-! ## What is admissible -/

section

variable {crates : Crates} {result : PreflightResult} {gen : GenerationRow} {failed : List IngestSourceRun} {now : Int}

theorem ingestVerdict_admissible {age : Option Int} : (ingestVerdict gen age).1 = .admissibleWithScope ↔
    isStale ingestStateStaleThresholdSeconds age = false := by
  unfold ingestVerdict
  cases isStale ingestStateStaleThresholdSeconds age with
  | true => simp
  | false => by_cases h : 0 < gen.sourcesFailed ∨ gen.status = .failed ∨ gen.status = .partial_ <;> simp [h]

/-- A generation is admissible with scope exactly where it projects and is not stale. -/
theorem evaluateGeneration_admissible :
    (evaluateGeneration crates result gen failed now).verdict = .admissibleWithScope ↔
    projects (projectIngestGeneration crates · result.generatedAt) gen = true ∧
      isStale ingestStateStaleThresholdSeconds (crates.ageSeconds gen.completedAt now) = false := by
  unfold evaluateGeneration projects
  dsimp only
  cases projectIngestGeneration crates gen result.generatedAt with
  | error refusal => simp [Except.toOption]
  | ok packet => simp [Except.toOption, ingestVerdict_admissible]

variable {packet : WitnessPacket}

/-- The supports: the generation, and the failed sources that project. -/
theorem evaluateGeneration_supported (hp : projectIngestGeneration crates gen result.generatedAt = .ok packet) :
    (evaluateGeneration crates result gen failed now).supports =
        { GenerationRow.makeSupport gen with witnessPacket := packetIdentity crates.codec packet } ::
          (admitSources crates gen.generationId result.generatedAt failed).1 ∧
      (evaluateGeneration crates result gen failed now).observedAtMax =
        ((evaluateGeneration crates result gen failed now).supports.filterMap PreflightSupport.observedAt).max? := by
  unfold evaluateGeneration
  rw [hp]
  exact ⟨rfl, rfl⟩

variable {t : IngestTables}

theorem completedLater_iff (a b : GenerationRow) :
    completedLater a b = true ↔ toLex (b.completedAt, -b.generationId) < toLex (a.completedAt, -a.generationId) := by
  rw [completedLater, decide_eq_true_iff, Prod.Lex.toLex_lt_toLex]
  simp

theorem loadLatestGeneration_delete {p : GenerationRow → Bool}
    {runs : Table IngestSourceRun.pk} (h : loadLatestGeneration t = some gen)
    (hp : p gen = false) : loadLatestGeneration ⟨t.generations.delete p, runs⟩ = some gen := by
  refine Sql.firstBy_filter completedLater_iff (fun a ha b hb e => ?_) h (by simp [hp])
  exact List.inj_on_of_nodup_map t.generations.nodup ha hb (neg_injective (congrArg Prod.snd e))

theorem mem_loadFailedSourceRuns {generationId : Int}
    {src : IngestSourceRun} : src ∈ loadFailedSourceRuns t generationId ↔
    src ∈ t.sourceRuns.rows ∧ src.generationId = generationId ∧ src.status ≠ .ok := by
  unfold loadFailedSourceRuns
  rw [(List.perm_insertionSort _ _).mem_iff, List.mem_filter]
  simp

theorem evaluateIngest_admissible : (evaluateIngestStatePreflightAt crates t now).verdict = .admissibleWithScope ↔
    ∃ gen, loadLatestGeneration t = some gen ∧
      projects (projectIngestGeneration crates · ((crates.format now).getD "")) gen = true ∧
      isStale ingestStateStaleThresholdSeconds (crates.ageSeconds gen.completedAt now) = false := by
  unfold evaluateIngestStatePreflightAt
  dsimp only
  rw [verdict_computeTimeBasis]
  cases hlatest : loadLatestGeneration t with
  | none => simp [PreflightResult.skeleton]
  | some gen =>
    dsimp only
    rw [evaluateGeneration_admissible]
    constructor
    · rintro ⟨hp, hstale⟩
      exact ⟨gen, rfl, hp, hstale⟩
    · rintro ⟨gen', hgen', hp, hstale⟩
      cases hgen'
      exact ⟨hp, hstale⟩

theorem evaluateIngest_supported (hgen : loadLatestGeneration t = some gen)
    (hp : projectIngestGeneration crates gen ((crates.format now).getD "") = .ok packet) :
    (evaluateIngestStatePreflightAt crates t now).supports =
        { GenerationRow.makeSupport gen with witnessPacket := packetIdentity crates.codec packet } ::
          (admitSources crates gen.generationId ((crates.format now).getD "")
            (loadFailedSourceRuns t gen.generationId)).1 ∧
      (evaluateIngestStatePreflightAt crates t now).observedAtMax =
        ((evaluateIngestStatePreflightAt crates t now).supports.filterMap PreflightSupport.observedAt).max? := by
  unfold evaluateIngestStatePreflightAt
  rw [supports_computeTimeBasis, observedAtMax_computeTimeBasis, hgen]
  exact evaluateGeneration_supported hp

end

end Nq.Preflight
