/-
  Nq.Import.Ingest — inbound finding manifests (`nq-db/src/import.rs`).

  A manifest that parses and passes the preflight checks puts each of its findings into
  `warning_state` with the producer's provenance, and one `extraction_stale` finding of
  our own when the producer's extraction is old. A refused manifest puts in one
  `inbound_export_unparsable` finding and nothing else. The JSON parser is not modelled:
  an ingest starts from what parsing gave (`ManifestRead`); RFC3339 parsing is the
  parameter `rfc3339` (the instant in nanoseconds). The database is a migrated one, so
  the schema preflight passes.

  Every statement is an upsert of one row, so an ingest is a list of writes
  (`ingestWrites`), and what it leaves under a key is what the writes to that key make
  of it (`get_applyWrites`).
-/

import Nq.Lifecycle.Update

namespace Nq

open Sql (Table)

structure ImportedFinding where
  host : String
  detector : String
  subject : String
  ruleHash : Option String := none
  severity : String
  findingClass : String := "signal"
  originMode : Option String := none
  deriving DecidableEq, Repr

def ImportedFinding.id (f : ImportedFinding) : FindingId := ⟨f.host, f.detector, f.subject⟩

structure FindingImportManifest where
  schema : String
  contractVersion : Nat
  producerId : String
  extractionRunId : String
  producerExtractionTime : String
  findings : List ImportedFinding
  deriving DecidableEq, Repr

/-- What parsing the manifest gave; a failed parse comes with what the partial parse could read. -/
inductive ManifestRead where
  | unparsable (producerId extractionRunId : Option String) (error : String)
  | parsed (manifest : FindingImportManifest)
  deriving DecidableEq, Repr

structure IngestResult where
  ingestedCount : Nat
  refused : Bool
  refusalReason : Option String
  extractionStaleEmitted : Bool
  deriving DecidableEq, Repr

structure IngestConfig where
  extractionStaleThresholdS : Int := 86400

def importSchemaId : String := "nq.finding_import.v1"
def importContractVersion : Nat := 1
def refusalFindingKind : String := "inbound_export_unparsable"
def validOriginModes : List String := ["observed", "drill", "replay", "synthetic"]

/-! ## The upserts -/

/-- The part of ON CONFLICT every writer outside the detector path shares. -/
def WarningRow.reassert (generation : Int) (at_ : String) (r : WarningRow) : WarningRow :=
  { r with lastSeenGen := generation, lastSeenAt := at_, consecutiveGens := r.consecutiveGens + 1 }

/-- One upsert of `warning_state`: the row to insert, and what a conflict makes of the old one. -/
structure RowWrite where
  row : WarningRow
  overwrite : WarningRow → WarningRow
  id_overwrite : ∀ r, (overwrite r).id = r.id

def RowWrite.apply (t : WarningState) (w : RowWrite) : WarningState := t.upsert w.row w.overwrite w.id_overwrite

def applyWrites (t : WarningState) (ws : List RowWrite) : WarningState := ws.foldl RowWrite.apply t

/-- What a list of writes makes of what stands under a key. -/
def writesEffect (k : FindingId) (ws : List RowWrite) (old : Option WarningRow) : Option WarningRow :=
  (ws.filter (·.row.id = k)).foldl (fun old w => some (old.elim w.row w.overwrite)) old

theorem get_applyWrites (ws : List RowWrite) (k : FindingId) :
    ∀ t : WarningState, (applyWrites t ws).get k = writesEffect k ws (t.get k) := by
  induction ws with
  | nil => intro t; rfl
  | cons w ws ih =>
    intro t
    have h := ih (w.apply t)
    unfold applyWrites at h ⊢
    rw [List.foldl_cons, h, RowWrite.apply, Table.get_upsert]
    by_cases e : w.row.id = k
    · simp [writesEffect, e]
    · simp [writesEffect, e, Ne.symm e]

/-! ## The writes of an ingest -/

def refusalWrite (producerId extractionRunId : String) (generation : Int) (now : String) : RowWrite where
  row :=
    { host := producerId, kind := refusalFindingKind, subject := extractionRunId, domain := "", severity := "warning"
      firstSeenGen := generation, firstSeenAt := now, lastSeenGen := generation, lastSeenAt := now
      consecutiveGens := 1, findingClass := "meta", absentGens := 0
      visibilityState := .observed, basisState := .unknown, stateKind := .incident }
  overwrite := WarningRow.reassert generation now
  id_overwrite _ := rfl

/-- The declared mode; the manifest has been checked before any row is written. -/
def ImportedFinding.mode (f : ImportedFinding) : OriginMode :=
  (parseOriginMode (f.originMode.getD "observed")).getD .observed

def importWrite (m : FindingImportManifest) (f : ImportedFinding) (generation : Int) (now : String) : RowWrite where
  row :=
    { host := f.host, kind := f.detector, subject := f.subject, domain := "", severity := f.severity
      firstSeenGen := generation, firstSeenAt := now, lastSeenGen := generation, lastSeenAt := now
      consecutiveGens := 1, findingClass := f.findingClass, ruleHash := f.ruleHash, absentGens := 0
      visibilityState := .observed, basisState := .unknown, stateKind := .incident
      originSource := .import_, originProducerId := some m.producerId, originExtractionRunId := some m.extractionRunId
      originProducerExtractionTime := some m.producerExtractionTime
      originImportContractVersion := some m.contractVersion, originMode := f.mode }
  overwrite r :=
    { r.reassert generation now with
      severity := f.severity
      originSource := .import_
      originProducerId := some m.producerId
      originExtractionRunId := some m.extractionRunId
      originProducerExtractionTime := some m.producerExtractionTime
      originImportContractVersion := some m.contractVersion
      originMode := f.mode }
  id_overwrite _ := rfl

def extractionStaleWrite (m : FindingImportManifest) (deltaS generation : Int) (now : String) : RowWrite where
  row :=
    { host := m.producerId, kind := "extraction_stale", subject := m.extractionRunId, domain := "",
      severity := "warning"
      firstSeenGen := generation, firstSeenAt := now, lastSeenGen := generation, lastSeenAt := now
      consecutiveGens := 1, findingClass := "meta", absentGens := 0
      visibilityState := .observed, basisState := .unknown, stateKind := .incident
      silence := ⟨some "extraction", some "age_threshold", some deltaS, some "none"⟩ }
  overwrite r := { r.reassert generation now with silence := { r.silence with durationS := some deltaS } }
  id_overwrite _ := rfl

/-! ## Ingest -/

section

variable (rfc3339 : String → Except String Int)

/-- The producer's extraction is older than the threshold: by how many seconds. -/
def extractionAge (m : FindingImportManifest) (now : String) (cfg : IngestConfig) : Option Int :=
  match rfc3339 m.producerExtractionTime, rfc3339 now with
  | .ok prodTime, .ok now =>
    let deltaS := (now - prodTime).tdiv 1000000000
    if deltaS ≤ cfg.extractionStaleThresholdS then none else some deltaS
  | _, _ => none

/-- The first preflight check a parsed manifest fails. -/
def refusalReason (m : FindingImportManifest) : Option String :=
  if m.schema ≠ importSchemaId then
    some ("manifest schema is `" ++ m.schema ++ "`; expected `" ++ importSchemaId ++ "`")
  else if m.contractVersion ≠ importContractVersion then
    some ("manifest contract_version is " ++ toString m.contractVersion ++ "; this binary supports " ++
      toString importContractVersion)
  else
    (m.findings.find? fun f => f.originMode.getD "observed" ∉ validOriginModes).map fun f =>
      "origin_mode `" ++ f.originMode.getD "observed" ++ "` is not in the closed vocabulary " ++
        "[\"observed\", \"drill\", \"replay\", \"synthetic\"]"

def ingestWrites (read : ManifestRead) (generation : Int) (now : String) (cfg : IngestConfig) : List RowWrite :=
  match read with
  | .unparsable producerId extractionRunId _ =>
    [refusalWrite (producerId.getD "unknown-producer") (extractionRunId.getD "unparseable") generation now]
  | .parsed m =>
    match refusalReason m with
    | some _ => [refusalWrite m.producerId m.extractionRunId generation now]
    | none =>
      (m.findings.map fun f => importWrite m f generation now) ++
        ((extractionAge rfc3339 m now cfg).map fun d => extractionStaleWrite m d generation now).toList

theorem mem_ingestWrites {rfc3339 : String → Except String Int} {read : ManifestRead} {generation : Int} {now : String}
    {cfg : IngestConfig} {w : RowWrite} (h : w ∈ ingestWrites rfc3339 read generation now cfg) :
    (∃ p x, w = refusalWrite p x generation now) ∨ (∃ m f, w = importWrite m f generation now) ∨
      ∃ m d, w = extractionStaleWrite m d generation now := by
  unfold ingestWrites at h
  cases read with
  | unparsable p x e => exact .inl ⟨_, _, List.mem_singleton.mp h⟩
  | parsed m =>
    simp only at h
    split at h
    · exact .inl ⟨_, _, List.mem_singleton.mp h⟩
    · rcases List.mem_append.mp h with h | h
      · obtain ⟨f, _, rfl⟩ := List.mem_map.mp h
        exact .inr (.inl ⟨m, f, rfl⟩)
      · rw [Option.mem_toList, Option.map_eq_some_iff] at h
        obtain ⟨d, _, rfl⟩ := h
        exact .inr (.inr ⟨m, d, rfl⟩)

def ingestFindingImport (db : Db) (read : ManifestRead) (generation : Int) (now : String) (cfg : IngestConfig) :
    Db × IngestResult :=
  let db' := { db with warningState := applyWrites db.warningState (ingestWrites rfc3339 read generation now cfg) }
  match read with
  | .unparsable _ _ error => (db', ⟨0, true, some ("manifest JSON parse failed: " ++ error), false⟩)
  | .parsed m =>
    match refusalReason m with
    | some reason => (db', ⟨0, true, some reason, false⟩)
    | none => (db', ⟨m.findings.length, false, none, (extractionAge rfc3339 m now cfg).isSome⟩)

end

end Nq
