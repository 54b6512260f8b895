/-
  Nq.Projection.Record — Continuity rely records and the packets they are projected to
  (`nq-monitor/src/continuity_record.rs`).

  A record is a closed document but for the details of its verdict. The packet's subject is the
  scope the record declares; the verdict is carried as one observation.
-/

import Nq.Projection.Receipt

namespace Nq.Projection.Continuity

open Receipts (Json WitnessPacket debug)

def supportedRecordSchema : String := "continuity.rely_export.v0"
def witnessType : String := "continuity_rely_record"

def knownRelyCodes : List String :=
  ["eligible", "status_not_committed", "expired", "reliance_none", "authoring_tier_capped", "kind_basis_policy",
    "hard_premise_unavailable"]

def fixedCoverageLimits : List String :=
  ["projection of continuity-held records; not native witness custody",
    "operational testimony; no notary; source digests are producer self-consistency, not independent custody",
    "a continuity rely verdict is source testimony, not nq admissibility; rely advises, never authorizes",
    "the verdict is consumer-neutral and evaluation-time-relative; absence of newer continuity testimony is not evidence of " ++
      "continuity or discontinuity",
    "authoring-tier and reliance-class ceilings are continuity law, carried for disclosure and never elevated by import",
    "import does not discharge any obligation and mints no claim; the subject binding is continuity's declared scope, not " ++
      "verified by nq"]

/-! ## The document -/

structure Exporter where
  tool : String
  version : String
  repo : Option String
  commit : Option String

structure SourceBlock where
  system : String
  storeId : Option String
  scopeKind : Option String
  schemaVersion : Option Nat
  exporter : Exporter

structure Subject where
  memoryId : String
  scope : String
  kind : String
  basis : String

structure Lifecycle where
  observeEventId : Option String
  observeReceiptHash : Option String
  latestCommitEventId : Option String
  latestCommitReceiptHash : Option String

structure Times where
  createdAt : String
  updatedAt : String
  sourceObservedAt : Option String
  expiresAt : Option String

structure Rely where
  relyOk : Bool
  code : String
  message : String
  /-- Continuity's own detail map, carried verbatim. -/
  details : Json

structure Premise where
  src : String
  relation : String
  strength : String
  status : String

structure History where
  eventCount : Nat
  receiptCount : Nat

structure RelyRecord where
  schema : String
  exportId : String
  exportedAt : String
  source : SourceBlock
  subject : Subject
  contentHash : String
  status : String
  supersedes : Option String
  revokedBy : Option String
  authoringTier : String
  relianceClass : String
  effectiveReliance : String
  lifecycle : Lifecycle
  times : Times
  evaluationTime : String
  rely : Rely
  premises : List Premise
  history : History
  establishes : List String
  doesNotEstablish : List String

/-! ## Reading it -/

def Exporter.decode (v : Json) : Option Exporter := do
  let v ← fieldsOf ["tool", "version", "repo", "commit"] v
  return {
    tool := ← v.required "tool" decodeString
    version := ← v.required "version" decodeString
    repo := ← v.optional "repo" decodeString
    commit := ← v.optional "commit" decodeString }

def SourceBlock.decode (v : Json) : Option SourceBlock := do
  let v ← fieldsOf ["system", "store_id", "scope_kind", "schema_version", "exporter"] v
  return {
    system := ← v.required "system" decodeString
    storeId := ← v.optional "store_id" decodeString
    scopeKind := ← v.optional "scope_kind" decodeString
    schemaVersion := ← v.optional "schema_version" decodeU64
    exporter := ← v.required "exporter" Exporter.decode }

def Subject.decode (v : Json) : Option Subject := do
  let v ← fieldsOf ["memory_id", "scope", "kind", "basis"] v
  return {
    memoryId := ← v.required "memory_id" decodeString
    scope := ← v.required "scope" decodeString
    kind := ← v.required "kind" decodeString
    basis := ← v.required "basis" decodeString }

def Lifecycle.decode (v : Json) : Option Lifecycle := do
  let v ← fieldsOf ["observe_event_id", "observe_receipt_hash",
    "latest_commit_event_id", "latest_commit_receipt_hash"] v
  return {
    observeEventId := ← v.defaulted "observe_event_id" decodeString
    observeReceiptHash := ← v.defaulted "observe_receipt_hash" decodeString
    latestCommitEventId := ← v.defaulted "latest_commit_event_id" decodeString
    latestCommitReceiptHash := ← v.defaulted "latest_commit_receipt_hash" decodeString }

def Times.decode (v : Json) : Option Times := do
  let v ← fieldsOf ["created_at", "updated_at", "source_observed_at", "expires_at"] v
  return {
    createdAt := ← v.required "created_at" decodeString
    updatedAt := ← v.required "updated_at" decodeString
    sourceObservedAt := ← v.defaulted "source_observed_at" decodeString
    expiresAt := ← v.defaulted "expires_at" decodeString }

def Rely.decode (v : Json) : Option Rely := do
  let v ← fieldsOf ["rely_ok", "code", "message", "details"] v
  return {
    relyOk := ← v.required "rely_ok" decodeBool
    code := ← v.required "code" decodeString
    message := ← v.required "message" decodeString
    details := ← v.required "details" some }

def Premise.decode (v : Json) : Option Premise := do
  let v ← fieldsOf ["src", "relation", "strength", "status"] v
  return {
    src := ← v.required "src" decodeString
    relation := ← v.required "relation" decodeString
    strength := ← v.required "strength" decodeString
    status := ← v.required "status" decodeString }

def History.decode (v : Json) : Option History := do
  let v ← fieldsOf ["event_count", "receipt_count"] v
  return {
    eventCount := ← v.required "event_count" decodeU64
    receiptCount := ← v.required "receipt_count" decodeU64 }

def RelyRecord.decode (v : Json) : Option RelyRecord := do
  let v ← fieldsOf ["schema", "export_id", "exported_at", "source",
    "subject", "content_hash", "status", "supersedes", "revoked_by",
    "authoring_tier", "reliance_class", "effective_reliance",
      "lifecycle", "times", "evaluation_time", "rely", "premises", "history",
    "establishes", "does_not_establish"] v
  return {
    schema := ← v.required "schema" decodeString
    exportId := ← v.required "export_id" decodeString
    exportedAt := ← v.required "exported_at" decodeString
    source := ← v.required "source" SourceBlock.decode
    subject := ← v.required "subject" Subject.decode
    contentHash := ← v.required "content_hash" decodeString
    status := ← v.required "status" decodeString
    supersedes := ← v.optional "supersedes" decodeString
    revokedBy := ← v.optional "revoked_by" decodeString
    authoringTier := ← v.required "authoring_tier" decodeString
    relianceClass := ← v.required "reliance_class" decodeString
    effectiveReliance := ← v.required "effective_reliance" decodeString
    lifecycle := ← v.required "lifecycle" Lifecycle.decode
    times := ← v.required "times" Times.decode
    evaluationTime := ← v.required "evaluation_time" decodeString
    rely := ← v.required "rely" Rely.decode
    premises := ← v.required "premises" (decodeVec Premise.decode)
    history := ← v.required "history" History.decode
    establishes := ← v.required "establishes" (decodeVec decodeString)
    doesNotEstablish := ← v.required "does_not_establish" (decodeVec decodeString) }

/-! ## Coverage -/

section

variable (codec : Codec)

/-- What the import checks of a record it could read. -/
def RelyRecord.admissible (r : RelyRecord) : Except (ImportRefusal String) Unit := do
  if r.source.system ≠ "continuity" then
    throw (.malformed ("source.system is " ++ debug codec.toCodec r.source.system ++ ", not \"continuity\""))
  if r.rely.code ∉ knownRelyCodes then throw (.unknownRelyCode r.rely.code)

def premiseCoverage (r : RelyRecord) : Except (ImportRefusal String) (List String) := do
  let premises ← r.premises.mapM fun p =>
    if blank p.src then
      .error (.unenforceablePremise
        "premise with empty source; an empty premise cannot be enforced as a coverage limitation")
    else .ok ("coverage bounded by continuity premise: " ++ p.relation ++ " " ++ p.src ++ " (" ++ p.strength ++ ", " ++
      p.status ++
      ") — premise availability is continuity's answer at the recorded evaluation time, asserted, not verified by nq")
  let nonclaims ← r.doesNotEstablish.mapM fun line =>
    if blank line then
      .error (.unenforceablePremise "empty does_not_establish line cannot be enforced as a cannot-testify limitation")
    else .ok ("cannot testify: " ++ line)
  return premises ++ nonclaims ++ ["coverage bounded by continuity authoring tier: " ++ r.authoringTier ++
    " (effective reliance " ++ "ceiling " ++ r.effectiveReliance ++ "; carried, never elevated)"]

/-! ## The packet -/

def Exporter.toJson (e : Exporter) : Json :=
  json [("tool", .string e.tool), ("version", .string e.version), ("repo", jsonOption .string e.repo),
    ("commit", jsonOption .string e.commit)]

def Lifecycle.toJson (l : Lifecycle) : Json :=
  json [("observe_event_id", jsonOption .string l.observeEventId),
    ("observe_receipt_hash", jsonOption .string l.observeReceiptHash),
    ("latest_commit_event_id", jsonOption .string l.latestCommitEventId),
    ("latest_commit_receipt_hash", jsonOption .string l.latestCommitReceiptHash)]

def sourceIdentity (r : RelyRecord) (rawDigest coreDigest : String) : Json :=
  json [("type", .string "continuity_source_identity"), ("continuity_schema", .string r.schema),
    ("continuity_memory_id", .string r.subject.memoryId), ("continuity_scope", .string r.subject.scope),
    ("continuity_kind", .string r.subject.kind), ("continuity_basis", .string r.subject.basis),
    ("continuity_store_id", jsonOption .string r.source.storeId),
    ("continuity_store_scope_kind", jsonOption .string r.source.scopeKind),
    ("continuity_store_schema_version", jsonOption jsonNat r.source.schemaVersion),
      ("continuity_exporter", r.source.exporter.toJson),
    ("continuity_export_id", .string r.exportId),
    ("continuity_export_id_covers",
      .string ("continuity's own canonicalization of the record minus the export envelope; carried " ++
      "opaquely, not recomputed by nq")),
    ("continuity_content_hash", .string r.contentHash),
    ("continuity_content_hash_covers",
      .string ("continuity's portable content identity in its own digest domain; carried " ++
      "opaquely, not recomputed by nq")),
    ("raw_source_digest", .string rawDigest), ("raw_source_digest_covers",
      .string "the exact record bytes as supplied"),
    ("core_consistency_digest", .string coreDigest),
    ("core_consistency_digest_covers",
      .string ("JCS canonicalization of the record's semantic core (subject, verdict, lifecycle " ++
      "state, premises)")),
    ("continuity_lifecycle", r.lifecycle.toJson), ("exported_at", .string r.exportedAt)]

def Times.toJson (t : Times) : Json :=
  json [("created_at", .string t.createdAt), ("updated_at", .string t.updatedAt),
    ("source_observed_at", jsonOption .string t.sourceObservedAt), ("expires_at", jsonOption .string t.expiresAt)]

def History.toJson (h : History) : Json :=
  json [("event_count", jsonNat h.eventCount), ("receipt_count", jsonNat h.receiptCount)]

def relyResult (r : RelyRecord) : Json :=
  json [("type", .string "continuity_rely_result"), ("rely_ok", .bool r.rely.relyOk),
    ("continuity_rely_code", .string r.rely.code),
    ("continuity_rely_message", .string r.rely.message), ("continuity_rely_details", r.rely.details),
    ("evaluation_time", .string r.evaluationTime), ("continuity_status", .string r.status),
    ("continuity_supersedes", jsonOption .string r.supersedes),
      ("continuity_revoked_by", jsonOption .string r.revokedBy),
    ("continuity_authoring_tier", .string r.authoringTier), ("continuity_reliance_class", .string r.relianceClass),
    ("continuity_effective_reliance", .string r.effectiveReliance), ("times", r.times.toJson),
    ("continuity_establishes", jsonArray .string r.establishes), ("history", r.history.toJson),
    ("meaning", .string ("continuity's rely verdict is source testimony at one evaluation time; it is not an nq status, a refusal " ++
      "is not the negation of any historical claim, and cannot-establish flavors (:missing, status observed) are distinct from " ++
      "discontinuity flavors (:revoked, status revoked) and are never collapsed"))]

def Premise.toJson (p : Premise) : Json :=
  json [("type", .string "continuity_premise"), ("src", .string p.src), ("relation", .string p.relation),
    ("strength", .string p.strength), ("status", .string p.status)]

def observationsOf (r : RelyRecord) (rawDigest coreDigest : String) : List Json :=
  [sourceIdentity r rawDigest coreDigest, relyResult r] ++ r.premises.map Premise.toJson

def packetOf (r : RelyRecord) (sourcePath rawDigest coreDigest generatedAt : String)
    (coverage : List String) : WitnessPacket where
  schema := Receipts.witnessSchema
  witnessType := witnessType
  subject := r.subject.scope
  accessPath := sourcePath
  observedAt := r.evaluationTime
  generatedAt := generatedAt
  observations := observationsOf r rawDigest coreDigest
  coverageLimits := Collections.sortDedup (fixedCoverageLimits ++ coverage)
  dependencies := []
  custodyBasis := some Receipts.custodyBasisExternalProjection
  sourceFindingRef := some ("continuity:memory:" ++ r.subject.memoryId ++ "@" ++ r.evaluationTime ++ " export=" ++
    r.schema ++ " " ++ rawDigest)
  projectionLimits := [Receipts.projectionLimitNativeWitnessCustody, "source assertions not independently verified"]
  position := some .applicationInternal

def buildPacket (r : RelyRecord) (sourcePath rawDigest coreDigest generatedAt : String) :
    Except (ImportRefusal String) WitnessPacket := do
  let coverage ← premiseCoverage r
  let packet := packetOf r sourcePath rawDigest coreDigest generatedAt coverage
  (packet.validate codec.toCodec).mapError fun e => .malformed ("constructed packet failed wire validation: " ++ e)
  return packet

end

end Nq.Projection.Continuity
