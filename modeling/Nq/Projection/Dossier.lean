/-
  Nq.Projection.Dossier — Docket attempt dossiers and the packets they are projected to
  (`nq-monitor/src/docket_dossier.rs`).

  A dossier is a closed document. The identity contract ties a v3 subject to its components,
  every premise becomes a coverage limit, and the packet carries the rest as observations.
-/

import Nq.Projection.Receipt

namespace Nq.Projection.Docket

open Receipts (Json WitnessPacket debug)

def supportedDossierFormat : String := "gwr:attempt-dossier:v1"
def supportedDossierFormatV2 : String := "gwr:attempt-dossier:v2"
def supportedDossierFormatV3 : String := "gwr:attempt-dossier:v3"
def witnessType : String := "docket_attempt_dossier"

def fixedCoverageLimits : List String :=
  ["docket authorization is not docket execution: that an upstream office authorized work does not establish that " ++
      "the effect executed",
    "projection of docket-held execution records; not native witness custody",
    "operational testimony; no notary; the source digest is producer self-consistency, not independent custody",
    "docket settlement is source testimony, not nq admissibility",
    "docket occurrence evidence is not artifact meaning",
    "import does not discharge docket residual obligations or epistemic obligations"]

def knownPremiseTags : List String :=
  ["inspectable_endpoint", "atomic_compare_and_swap", "attributable_result_state", "exclusive_ref_custody"]

/-! ## The document -/

structure UpstreamPremise where
  kind : String
  statement : String

structure UpstreamResidual where
  sourceSystem : String
  obligationId : String
  subject : String
  kind : String
  statement : String
  discharged : Bool

structure Issuance where
  issuanceId : String
  decisionId : String
  issuerPrincipal : String
  issuerKeyId : String
  targetId : String
  requestRawSha256 : String
  requestUpstreamDigest : String
  preparedAttemptDigest : String
  requestedActor : String
  issuedAtMs : Nat
  expiresAtMs : Nat
  acceptedAtMs : Nat
  upstreamPremises : List UpstreamPremise
  upstreamPremisesMeaning : String
  upstreamResidualStatus : String
  upstreamResiduals : List UpstreamResidual
  consumptionLedger : String
  consumptionUseDigest : String
  establishes : String
  doesNotEstablish : String

structure Authorization where
  source : String
  issuance : Option Issuance

structure RepositoryLocator where
  kind : String
  value : String

structure ObservationPlan where
  argv : List String
  environment : String

structure Identity where
  workRequest : String
  goal : String
  repository : Option String
  repositoryId : Option String
  repositoryLocator : Option RepositoryLocator
  refContinuitySubject : Option String
  targetRef : String
  basis : String
  effectClass : String
  settlementPremises : List String
  allowedPaths : List String
  candidate : String
  candidateDigest : String
  patchDigest : String
  preparationRun : String
  candidateIngestedAtMs : Nat
  preparedAttemptDigest : String
  observationPlan : ObservationPlan
  requestCreatedAtMs : Nat
  admittedAtMs : Nat

structure Ratification where
  ratification : String
  actor : String
  standingUse : String
  atMs : Nat

structure Grant where
  grant : String
  actor : String
  act : String
  attemptDigestBinding : String
  expiresAtMs : Nat
  consumedBy : Option String
  usedAtMs : Option Nat

structure Reservation where
  reservation : String
  basis : String
  expiresAtMs : Nat
  consumedBy : Option String

structure Dispatch where
  dispatch : String
  createdAtMs : Nat

structure Authority where
  ratification : Option Ratification
  ratifyingGrant : Option Grant
  reservation : Option Reservation
  dispatch : Option Dispatch
  recoveryGrant : Option Grant

structure TimelineEntry where
  seq : Nat
  kind : String
  atMs : Nat

structure Commitment where
  resultCommit : String
  previousValue : String
  targetRef : String
  journalDigest : String
  committedAtMs : Nat

structure DispatchRefusal where
  ground : String
  journalDigest : String
  refusedAtMs : Nat

structure Indeterminate where
  lastJournalDigest : Option String
  recordedAtMs : Nat

structure RecoveryFact where
  fact : String
  source : String
  sourceDetail : Option String
  observedRef : String
  expectedResultCommit : Option String
  journalDigest : String
  recordedAtMs : Nat

structure Resolution where
  resolution : String
  fact : String
  verdict : String
  recoveryStandingUse : String
  resolvedAtMs : Nat

structure Execution where
  settlement : String
  commitment : Option Commitment
  dispatchRefusal : Option DispatchRefusal
  indeterminate : Option Indeterminate
  recoveryFacts : List RecoveryFact
  resolution : Option Resolution

structure ObservationRecord where
  observation : String
  argv : List String
  workingDirectory : String
  resultCommit : String
  environment : String
  exitStatus : Int
  stdoutDigest : String
  stderrDigest : String
  observedAtMs : Nat

structure RelianceAdmission where
  observation : String
  resultCommit : String
  atMs : Nat

structure RelianceSubject where
  observation : String
  consumer : String
  claim : String

structure RelianceRefusal where
  kind : String
  detail : Option String
  subject : Option RelianceSubject
  atMs : Nat

structure ResidualObligation where
  obligation : String
  kind : String
  recordedAtMs : Nat

structure Reconciliation where
  retainedObligations : List String
  reconciledAtMs : Nat

structure ObservationSection where
  observations : List ObservationRecord
  relianceAdmissions : List RelianceAdmission
  relianceRefusals : List RelianceRefusal
  residualObligations : List ResidualObligation
  reconciliation : Option Reconciliation

structure Qualification where
  verdict : String
  proofBasis : String
  fact : String
  factSource : String
  custodyPremise : Option String
  custodyPremiseAssertedNotVerified : Option Bool
  observedRef : String
  expectedResultCommit : Option String
  observedRefOwner : Option String
  journalDigest : String
  evidenceConcordance : String
  evidenceAgrees : Bool
  establishes : String
  doesNotEstablish : String

structure Dossier where
  dossierFormat : String
  attempt : String
  state : String
  version : Nat
  settlement : String
  identity : Identity
  authority : Authority
  timeline : List TimelineEntry
  execution : Execution
  observation : ObservationSection
  qualification : Option Qualification
  authorization : Option Authorization

/-! ## Reading it -/

def UpstreamPremise.decode (v : Json) : Option UpstreamPremise := do
  let v ← fieldsOf ["kind", "statement"] v
  return {
    kind := ← v.required "kind" decodeString
    statement := ← v.required "statement" decodeString }

def UpstreamResidual.decode (v : Json) : Option UpstreamResidual := do
  let v ← fieldsOf ["source_system", "obligation_id", "subject", "kind", "statement", "discharged"] v
  return {
    sourceSystem := ← v.required "source_system" decodeString
    obligationId := ← v.required "obligation_id" decodeString
    subject := ← v.required "subject" decodeString
    kind := ← v.required "kind" decodeString
    statement := ← v.required "statement" decodeString
    discharged := ← v.required "discharged" decodeBool }

def Issuance.decode (v : Json) : Option Issuance := do
  let v ← fieldsOf ["issuance_id", "decision_id", "issuer_principal",
    "issuer_key_id", "target_id", "request_raw_sha256",
    "request_upstream_digest", "prepared_attempt_digest", "requested_actor",
      "issued_at_ms", "expires_at_ms", "accepted_at_ms",
    "upstream_premises", "upstream_premises_meaning", "upstream_residual_status",
      "upstream_residuals", "consumption_ledger",
    "consumption_use_digest", "establishes", "does_not_establish"] v
  return {
    issuanceId := ← v.required "issuance_id" decodeString
    decisionId := ← v.required "decision_id" decodeString
    issuerPrincipal := ← v.required "issuer_principal" decodeString
    issuerKeyId := ← v.required "issuer_key_id" decodeString
    targetId := ← v.required "target_id" decodeString
    requestRawSha256 := ← v.required "request_raw_sha256" decodeString
    requestUpstreamDigest := ← v.required "request_upstream_digest" decodeString
    preparedAttemptDigest := ← v.required "prepared_attempt_digest" decodeString
    requestedActor := ← v.required "requested_actor" decodeString
    issuedAtMs := ← v.required "issued_at_ms" decodeU64
    expiresAtMs := ← v.required "expires_at_ms" decodeU64
    acceptedAtMs := ← v.required "accepted_at_ms" decodeU64
    upstreamPremises := ← v.required "upstream_premises" (decodeVec UpstreamPremise.decode)
    upstreamPremisesMeaning := ← v.required "upstream_premises_meaning" decodeString
    upstreamResidualStatus := ← v.required "upstream_residual_status" decodeString
    upstreamResiduals := ← v.required "upstream_residuals" (decodeVec UpstreamResidual.decode)
    consumptionLedger := ← v.required "consumption_ledger" decodeString
    consumptionUseDigest := ← v.required "consumption_use_digest" decodeString
    establishes := ← v.required "establishes" decodeString
    doesNotEstablish := ← v.required "does_not_establish" decodeString }

def Authorization.decode (v : Json) : Option Authorization := do
  let v ← fieldsOf ["source", "issuance"] v
  return {
    source := ← v.required "source" decodeString
    issuance := ← v.optional "issuance" Issuance.decode }

def RepositoryLocator.decode (v : Json) : Option RepositoryLocator := do
  let v ← fieldsOf ["kind", "value"] v
  return {
    kind := ← v.required "kind" decodeString
    value := ← v.required "value" decodeString }

def ObservationPlan.decode (v : Json) : Option ObservationPlan := do
  let v ← fieldsOf ["argv", "environment"] v
  return {
    argv := ← v.required "argv" (decodeVec decodeString)
    environment := ← v.required "environment" decodeString }

def Identity.decode (v : Json) : Option Identity := do
  let v ← fieldsOf ["work_request", "goal", "repository", "repository_id",
    "repository_locator", "ref_continuity_subject",
    "target_ref", "basis", "effect_class", "settlement_premises",
      "allowed_paths", "candidate", "candidate_digest", "patch_digest",
    "preparation_run", "candidate_ingested_at_ms", "prepared_attempt_digest",
      "observation_plan", "request_created_at_ms",
    "admitted_at_ms"] v
  return {
    workRequest := ← v.required "work_request" decodeString
    goal := ← v.required "goal" decodeString
    repository := ← v.defaulted "repository" decodeString
    repositoryId := ← v.defaulted "repository_id" decodeString
    repositoryLocator := ← v.defaulted "repository_locator" RepositoryLocator.decode
    refContinuitySubject := ← v.defaulted "ref_continuity_subject" decodeString
    targetRef := ← v.required "target_ref" decodeString
    basis := ← v.required "basis" decodeString
    effectClass := ← v.required "effect_class" decodeString
    settlementPremises := ← v.required "settlement_premises" (decodeVec decodeString)
    allowedPaths := ← v.required "allowed_paths" (decodeVec decodeString)
    candidate := ← v.required "candidate" decodeString
    candidateDigest := ← v.required "candidate_digest" decodeString
    patchDigest := ← v.required "patch_digest" decodeString
    preparationRun := ← v.required "preparation_run" decodeString
    candidateIngestedAtMs := ← v.required "candidate_ingested_at_ms" decodeU64
    preparedAttemptDigest := ← v.required "prepared_attempt_digest" decodeString
    observationPlan := ← v.required "observation_plan" ObservationPlan.decode
    requestCreatedAtMs := ← v.required "request_created_at_ms" decodeU64
    admittedAtMs := ← v.required "admitted_at_ms" decodeU64 }

def Ratification.decode (v : Json) : Option Ratification := do
  let v ← fieldsOf ["ratification", "actor", "standing_use", "at_ms"] v
  return {
    ratification := ← v.required "ratification" decodeString
    actor := ← v.required "actor" decodeString
    standingUse := ← v.required "standing_use" decodeString
    atMs := ← v.required "at_ms" decodeU64 }

def Grant.decode (v : Json) : Option Grant := do
  let v ← fieldsOf ["grant", "actor", "act", "attempt_digest_binding", "expires_at_ms", "consumed_by", "used_at_ms"] v
  return {
    grant := ← v.required "grant" decodeString
    actor := ← v.required "actor" decodeString
    act := ← v.required "act" decodeString
    attemptDigestBinding := ← v.required "attempt_digest_binding" decodeString
    expiresAtMs := ← v.required "expires_at_ms" decodeU64
    consumedBy := ← v.optional "consumed_by" decodeString
    usedAtMs := ← v.optional "used_at_ms" decodeU64 }

def Reservation.decode (v : Json) : Option Reservation := do
  let v ← fieldsOf ["reservation", "basis", "expires_at_ms", "consumed_by"] v
  return {
    reservation := ← v.required "reservation" decodeString
    basis := ← v.required "basis" decodeString
    expiresAtMs := ← v.required "expires_at_ms" decodeU64
    consumedBy := ← v.optional "consumed_by" decodeString }

def Dispatch.decode (v : Json) : Option Dispatch := do
  let v ← fieldsOf ["dispatch", "created_at_ms"] v
  return {
    dispatch := ← v.required "dispatch" decodeString
    createdAtMs := ← v.required "created_at_ms" decodeU64 }

def Authority.decode (v : Json) : Option Authority := do
  let v ← fieldsOf ["ratification", "ratifying_grant", "reservation", "dispatch", "recovery_grant"] v
  return {
    ratification := ← v.optional "ratification" Ratification.decode
    ratifyingGrant := ← v.optional "ratifying_grant" Grant.decode
    reservation := ← v.optional "reservation" Reservation.decode
    dispatch := ← v.optional "dispatch" Dispatch.decode
    recoveryGrant := ← v.optional "recovery_grant" Grant.decode }

def TimelineEntry.decode (v : Json) : Option TimelineEntry := do
  let v ← fieldsOf ["seq", "kind", "at_ms"] v
  return {
    seq := ← v.required "seq" decodeU64
    kind := ← v.required "kind" decodeString
    atMs := ← v.required "at_ms" decodeU64 }

def Commitment.decode (v : Json) : Option Commitment := do
  let v ← fieldsOf ["result_commit", "previous_value", "target_ref", "journal_digest", "committed_at_ms"] v
  return {
    resultCommit := ← v.required "result_commit" decodeString
    previousValue := ← v.required "previous_value" decodeString
    targetRef := ← v.required "target_ref" decodeString
    journalDigest := ← v.required "journal_digest" decodeString
    committedAtMs := ← v.required "committed_at_ms" decodeU64 }

def DispatchRefusal.decode (v : Json) : Option DispatchRefusal := do
  let v ← fieldsOf ["ground", "journal_digest", "refused_at_ms"] v
  return {
    ground := ← v.required "ground" decodeString
    journalDigest := ← v.required "journal_digest" decodeString
    refusedAtMs := ← v.required "refused_at_ms" decodeU64 }

def Indeterminate.decode (v : Json) : Option Indeterminate := do
  let v ← fieldsOf ["last_journal_digest", "recorded_at_ms"] v
  return {
    lastJournalDigest := ← v.optional "last_journal_digest" decodeString
    recordedAtMs := ← v.required "recorded_at_ms" decodeU64 }

def RecoveryFact.decode (v : Json) : Option RecoveryFact := do
  let v ← fieldsOf ["fact", "source", "source_detail", "observed_ref", "expected_result_commit", "journal_digest",
    "recorded_at_ms"] v
  return {
    fact := ← v.required "fact" decodeString
    source := ← v.required "source" decodeString
    sourceDetail := ← v.optional "source_detail" decodeString
    observedRef := ← v.required "observed_ref" decodeString
    expectedResultCommit := ← v.optional "expected_result_commit" decodeString
    journalDigest := ← v.required "journal_digest" decodeString
    recordedAtMs := ← v.required "recorded_at_ms" decodeU64 }

def Resolution.decode (v : Json) : Option Resolution := do
  let v ← fieldsOf ["resolution", "fact", "verdict", "recovery_standing_use", "resolved_at_ms"] v
  return {
    resolution := ← v.required "resolution" decodeString
    fact := ← v.required "fact" decodeString
    verdict := ← v.required "verdict" decodeString
    recoveryStandingUse := ← v.required "recovery_standing_use" decodeString
    resolvedAtMs := ← v.required "resolved_at_ms" decodeU64 }

def Execution.decode (v : Json) : Option Execution := do
  let v ← fieldsOf ["settlement", "commitment", "dispatch_refusal", "indeterminate", "recovery_facts", "resolution"] v
  return {
    settlement := ← v.required "settlement" decodeString
    commitment := ← v.optional "commitment" Commitment.decode
    dispatchRefusal := ← v.optional "dispatch_refusal" DispatchRefusal.decode
    indeterminate := ← v.optional "indeterminate" Indeterminate.decode
    recoveryFacts := ← v.required "recovery_facts" (decodeVec RecoveryFact.decode)
    resolution := ← v.optional "resolution" Resolution.decode }

def ObservationRecord.decode (v : Json) : Option ObservationRecord := do
  let v ← fieldsOf ["observation", "argv", "working_directory", "result_commit", "environment", "exit_status",
    "stdout_digest", "stderr_digest", "observed_at_ms"] v
  return {
    observation := ← v.required "observation" decodeString
    argv := ← v.required "argv" (decodeVec decodeString)
    workingDirectory := ← v.required "working_directory" decodeString
    resultCommit := ← v.required "result_commit" decodeString
    environment := ← v.required "environment" decodeString
    exitStatus := ← v.required "exit_status" decodeI64
    stdoutDigest := ← v.required "stdout_digest" decodeString
    stderrDigest := ← v.required "stderr_digest" decodeString
    observedAtMs := ← v.required "observed_at_ms" decodeU64 }

def RelianceAdmission.decode (v : Json) : Option RelianceAdmission := do
  let v ← fieldsOf ["observation", "result_commit", "at_ms"] v
  return {
    observation := ← v.required "observation" decodeString
    resultCommit := ← v.required "result_commit" decodeString
    atMs := ← v.required "at_ms" decodeU64 }

def RelianceSubject.decode (v : Json) : Option RelianceSubject := do
  let v ← fieldsOf ["observation", "consumer", "claim"] v
  return {
    observation := ← v.required "observation" decodeString
    consumer := ← v.required "consumer" decodeString
    claim := ← v.required "claim" decodeString }

def RelianceRefusal.decode (v : Json) : Option RelianceRefusal := do
  let v ← fieldsOf ["kind", "detail", "subject", "at_ms"] v
  return {
    kind := ← v.required "kind" decodeString
    detail := ← v.optional "detail" decodeString
    subject := ← v.optional "subject" RelianceSubject.decode
    atMs := ← v.required "at_ms" decodeU64 }

def ResidualObligation.decode (v : Json) : Option ResidualObligation := do
  let v ← fieldsOf ["obligation", "kind", "recorded_at_ms"] v
  return {
    obligation := ← v.required "obligation" decodeString
    kind := ← v.required "kind" decodeString
    recordedAtMs := ← v.required "recorded_at_ms" decodeU64 }

def Reconciliation.decode (v : Json) : Option Reconciliation := do
  let v ← fieldsOf ["retained_obligations", "reconciled_at_ms"] v
  return {
    retainedObligations := ← v.required "retained_obligations" (decodeVec decodeString)
    reconciledAtMs := ← v.required "reconciled_at_ms" decodeU64 }

def ObservationSection.decode (v : Json) : Option ObservationSection := do
  let v ← fieldsOf ["observations", "reliance_admissions", "reliance_refusals",
    "residual_obligations", "reconciliation"] v
  return {
    observations := ← v.required "observations" (decodeVec ObservationRecord.decode)
    relianceAdmissions := ← v.required "reliance_admissions" (decodeVec RelianceAdmission.decode)
    relianceRefusals := ← v.required "reliance_refusals" (decodeVec RelianceRefusal.decode)
    residualObligations := ← v.required "residual_obligations" (decodeVec ResidualObligation.decode)
    reconciliation := ← v.optional "reconciliation" Reconciliation.decode }

def Qualification.decode (v : Json) : Option Qualification := do
  let v ← fieldsOf ["verdict", "proof_basis", "fact", "fact_source", "custody_premise",
    "custody_premise_asserted_not_verified",
    "observed_ref", "expected_result_commit", "observed_ref_owner",
      "journal_digest", "evidence_concordance", "evidence_agrees",
    "establishes", "does_not_establish"] v
  return {
    verdict := ← v.required "verdict" decodeString
    proofBasis := ← v.required "proof_basis" decodeString
    fact := ← v.required "fact" decodeString
    factSource := ← v.required "fact_source" decodeString
    custodyPremise := ← v.defaulted "custody_premise" decodeString
    custodyPremiseAssertedNotVerified := ← v.defaulted "custody_premise_asserted_not_verified" decodeBool
    observedRef := ← v.required "observed_ref" decodeString
    expectedResultCommit := ← v.optional "expected_result_commit" decodeString
    observedRefOwner := ← v.optional "observed_ref_owner" decodeString
    journalDigest := ← v.required "journal_digest" decodeString
    evidenceConcordance := ← v.required "evidence_concordance" decodeString
    evidenceAgrees := ← v.required "evidence_agrees" decodeBool
    establishes := ← v.required "establishes" decodeString
    doesNotEstablish := ← v.required "does_not_establish" decodeString }

def Dossier.decode (v : Json) : Option Dossier := do
  let v ← fieldsOf ["dossier_format", "attempt", "state", "version", "settlement", "identity", "authority", "timeline",
    "execution", "observation", "qualification", "authorization"] v
  return {
    dossierFormat := ← v.required "dossier_format" decodeString
    attempt := ← v.required "attempt" decodeString
    state := ← v.required "state" decodeString
    version := ← v.required "version" decodeU64
    settlement := ← v.required "settlement" decodeString
    identity := ← v.required "identity" Identity.decode
    authority := ← v.required "authority" Authority.decode
    timeline := ← v.required "timeline" (decodeVec TimelineEntry.decode)
    execution := ← v.required "execution" Execution.decode
    observation := ← v.required "observation" ObservationSection.decode
    qualification := ← v.optional "qualification" Qualification.decode
    authorization := ← v.defaulted "authorization" Authorization.decode }

/-! ## The identity contract -/

/-- `is_lower_hex` -/
def isLowerHex (value : String) (lengths : List Nat) : Bool :=
  value.toList.length ∈ lengths && value.toList.all Inquiry.isHexDigit

def isAsciiControl (c : Char) : Bool := c.toNat < 32 || c.toNat = 127

def validTargetRef (name : String) : Bool :=
  let n := name.toList
  "refs/".toList.isPrefixOf n && !"/".toList.isSuffixOf n && !".".toList.isSuffixOf n && !Text.contains name "//" &&
    !Text.contains name ".." && !Text.contains name "@\x7b" &&
    !n.any (fun c => isAsciiControl c || " ~^:?*[\\".toList.contains c) &&
    (n.splitOn '/').all fun component => !".".toList.isPrefixOf component && !".lock".toList.isSuffixOf component

section

variable (codec : Codec)

def containsKey (identity : List (String × Json)) (key : String) : Bool := (Json.field identity key).isSome

def v3OnlyFields : List String := ["repository_id", "repository_locator", "ref_continuity_subject"]

def Dossier.validateLegacyIdentity (d : Dossier) (identity : List (String × Json)) : Except String Unit := do
  let repository ← Collections.okOr d.identity.repository "legacy identity.repository is required"
  Collections.rejectIf (blank repository) "legacy identity.repository must not be empty"
  v3OnlyFields.forM fun v3Only => Collections.rejectIf (containsKey identity v3Only)
    ("legacy dossier must not carry v3-only identity field " ++ debug codec.toCodec v3Only)

/-- The commitment and the supplied subject. -/
def Dossier.validateSubject (d : Dossier) (repositoryId : String) : Except String Unit :=
  match d.execution.commitment, d.identity.refContinuitySubject with
  | some commitment, some subject => do
    Collections.rejectIf (commitment.targetRef ≠ d.identity.targetRef)
      ("v3 commitment target_ref " ++ debug codec.toCodec commitment.targetRef ++
        " does not exactly match identity target_ref " ++ debug codec.toCodec d.identity.targetRef)
    Collections.rejectIf (!isLowerHex commitment.resultCommit [40, 64])
      "v3 commitment.result_commit must be exactly 40 or 64 lowercase hexadecimal characters"
    let expected := "gwr:ref-continuity:v0:" ++ repositoryId ++ "#" ++ d.identity.targetRef ++ "@" ++
      commitment.resultCommit
    Collections.rejectIf (subject ≠ expected)
      ("v3 ref_continuity_subject component mismatch: supplied " ++ debug codec.toCodec subject ++
        ", expected exact Docket components " ++ debug codec.toCodec expected)
  | some _, none => .error "v3 result commitment requires Docket's supplied ref_continuity_subject"
  | none, some _ => .error "v3 ref_continuity_subject cannot be present before a result commitment exists"
  | none, none => Collections.rejectIf (d.state = "committed")
    "v3 committed state requires a result commitment and supplied ref_continuity_subject"

def Dossier.validateV3Identity (d : Dossier) (identity : List (String × Json)) : Except String Unit := do
  Collections.rejectIf (containsKey identity "repository")
    "v3 identity must label the operational path repository_locator, never repository"
  v3OnlyFields.forM fun required => Collections.rejectIf (!containsKey identity required)
    ("v3 identity field " ++ debug codec.toCodec required ++ " is required")
  let repositoryId ← Collections.okOr d.identity.repositoryId "v3 identity.repository_id must be a string"
  Collections.rejectIf (!"repo-".toList.isPrefixOf repositoryId.toList)
    "repository_id must be an opaque repo- identifier; paths, remotes, and Git object hashes are not repository identities"
  Collections.rejectIf (!isLowerHex (String.ofList (repositoryId.toList.drop 5)) [32])
    ("repository_id must be repo- followed by exactly 32 lowercase hexadecimal characters; paths, remotes, and Git object " ++
      "hashes are not repository identities")
  let locator ← Collections.okOr d.identity.repositoryLocator "v3 identity.repository_locator must be an object"
  Collections.rejectIf (locator.kind ≠ "path") "v3 identity.repository_locator.kind must be \"path\""
  Collections.rejectIf (blank locator.value) "v3 identity.repository_locator.value must not be empty"
  Collections.rejectIf (!validTargetRef d.identity.targetRef)
    ("v3 identity.target_ref must be a conservative complete Git ref under \"refs/\" (no whitespace/control, //, .., @\x7b, " ++
      "forbidden Git characters, dot-prefixed components, or .lock components)")
  d.validateSubject codec repositoryId

/-- `validate_identity_contract`, of a dossier and the value it was read from; fails with the detail of a
    malformed dossier. Another format does not pass the probe of the schema. -/
def validateIdentityContract (d : Dossier) (value : Json) : Except String Unit := do
  let identity ← Collections.okOr ((value.get "identity").bind Json.asObject) "identity must be an object"
  if d.dossierFormat = supportedDossierFormatV3 then d.validateV3Identity codec identity
  else d.validateLegacyIdentity codec identity

/-! ## Coverage -/

def Issuance.residualCoverage (i : Issuance) : Except (ImportRefusal Nat) (List String) :=
  if i.upstreamResidualStatus = "present" then
    i.upstreamResiduals.mapM fun r =>
      if r.discharged then
        .error (.unenforceablePremise ("upstream residual " ++ r.obligationId ++
          " is marked discharged; import cannot represent a " ++ "discharged upstream obligation"))
      else .ok ("outstanding upstream residual obligation " ++ r.obligationId ++ " (" ++ r.kind ++ ") on " ++
        r.subject ++ ": " ++ r.statement)
  else if i.upstreamResidualStatus = "unrepresented" then
    .ok ["upstream residual obligations are unrepresented by the issuing office; their absence is a producer limitation, " ++
      "not evidence"]
  else if i.upstreamResidualStatus = "none_recorded" then
    .ok ["the upstream decision recorded no residual obligations"]
  else
    .error (.unenforceablePremise ("unknown upstream residual status " ++
      debug codec.toCodec i.upstreamResidualStatus ++ "; it cannot be enforced as a coverage limitation"))

def Issuance.coverage (i : Issuance) : Except (ImportRefusal Nat) (List String) := do
  let premises ← i.upstreamPremises.mapM fun p =>
    if blank p.kind || blank p.statement then
      .error (.unenforceablePremise
        ("an upstream authorization premise carries an empty kind or statement and cannot be " ++
        "enforced as a coverage limitation"))
    else .ok ("coverage bounded by upstream authorization premise: " ++ p.kind ++ " — " ++ p.statement ++
      " (asserted by the issuing office; not verified by docket or nq)")
  let residuals ← i.residualCoverage codec
  return premises ++ ["cannot testify: " ++ i.doesNotEstablish] ++ residuals

def Qualification.coverage (q : Qualification) : Except (ImportRefusal Nat) (List String) := do
  let premise := String.ofList (Text.trim (q.custodyPremise.getD "").toList)
  if premise = "" then
    throw (.missingPremise ("recovery verdict " ++ debug codec.toCodec q.verdict ++
      " is premise-qualified but the qualification " ++
      "carries no custody premise; the verdict cannot be imported unqualified"))
  match q.custodyPremiseAssertedNotVerified with
  | some true => pure ()
  | some false => throw (.unenforceablePremise ("qualification asserts custody premise " ++
      debug codec.toCodec premise ++
      " as verified; the supported source schema defines no verification mechanism, so this cannot be enforced as a coverage " ++
      "limitation"))
  | none => throw (.missingPremise ("qualification names custody premise " ++ debug codec.toCodec premise ++
      " without stating whether it is asserted or verified"))
  return ["coverage bounded by docket premise: " ++ premise ++ " (asserted, not verified)", "cannot testify: " ++
    q.doesNotEstablish] ++ if q.evidenceAgrees then []
    else ["retained evidence disagrees (concordance: " ++ q.evidenceConcordance ++
      "); disagreement retained, not resolved"]

def premiseCoverage (d : Dossier) : Except (ImportRefusal Nat) (List String) := do
  let settlement ← d.identity.settlementPremises.mapM fun tag =>
    if blank tag then
      .error (.unenforceablePremise
        ("settlement_premises contains an empty premise tag; an empty premise cannot be enforced as a " ++
        "coverage limitation"))
    else .ok ("coverage bounded by docket premise: " ++ tag ++ " (" ++
      (if tag ∈ knownPremiseTags then "" else "unrecognized; ") ++ "asserted, not verified)")
  let authorization ← match d.authorization.bind (·.issuance) with
    | some i => i.coverage codec
    | none => .ok []
  let qualification ← match d.qualification with
    | some q => q.coverage codec
    | none => .ok []
  return settlement ++ authorization ++ qualification

/-! ## The packet -/

def sourceIdentity (d : Dossier) (rawDigest coreDigest : String) : Json :=
  json [("type", .string "docket_source_identity"), ("docket_dossier_format", .string d.dossierFormat),
    ("docket_attempt", .string d.attempt), ("docket_version", jsonNat d.version),
      ("raw_source_digest", .string rawDigest),
    ("raw_source_digest_covers", .string "the exact dossier bytes as supplied"),
      ("core_consistency_digest", .string coreDigest),
    ("core_consistency_digest_covers",
      .string ("JCS canonicalization of the dossier's immutable core (identity, authority, " ++
      "timeline, execution, qualification)"))]

def UpstreamPremise.toJson (p : UpstreamPremise) : Json :=
  json [("kind", .string p.kind), ("statement", .string p.statement)]

def UpstreamResidual.toJson (r : UpstreamResidual) : Json :=
  json [("source_system", .string r.sourceSystem), ("obligation_id", .string r.obligationId),
    ("subject", .string r.subject),
    ("kind", .string r.kind), ("statement", .string r.statement), ("discharged", .bool r.discharged)]

def Issuance.toJson (i : Issuance) : Json :=
  json [("issuance_id", .string i.issuanceId), ("decision_id", .string i.decisionId),
    ("issuer_principal", .string i.issuerPrincipal), ("issuer_key_id", .string i.issuerKeyId),
      ("target_id", .string i.targetId),
    ("request_raw_sha256", .string i.requestRawSha256), ("request_upstream_digest", .string i.requestUpstreamDigest),
    ("prepared_attempt_digest", .string i.preparedAttemptDigest), ("requested_actor", .string i.requestedActor),
    ("issued_at_ms", jsonNat i.issuedAtMs), ("expires_at_ms", jsonNat i.expiresAtMs),
      ("accepted_at_ms", jsonNat i.acceptedAtMs),
    ("upstream_premises", jsonArray UpstreamPremise.toJson i.upstreamPremises),
    ("upstream_premises_meaning", .string i.upstreamPremisesMeaning),
    ("upstream_residual_status", .string i.upstreamResidualStatus),
    ("upstream_residuals", jsonArray UpstreamResidual.toJson i.upstreamResiduals),
    ("consumption_ledger", .string i.consumptionLedger), ("consumption_use_digest", .string i.consumptionUseDigest),
    ("docket_authorization_establishes", .string i.establishes),
    ("docket_authorization_does_not_establish", .string i.doesNotEstablish)]

def Authorization.toJson (a : Authorization) : Json :=
  json [("type", .string "docket_authorization"), ("docket_authorization_source", .string a.source),
    ("issuance", jsonOption Issuance.toJson a.issuance),
    ("meaning", .string ("upstream authorization facts as recorded by docket; authorization is not execution, and neither is nq " ++
      "admissibility. upstream premises are asserted by the issuing office and verified by no one here; upstream residual " ++
      "obligations are carried undischarged"))]

def RepositoryLocator.toJson (l : RepositoryLocator) : Json :=
  json [("kind", .string l.kind), ("value", .string l.value)]

def Dossier.repositoryFields (d : Dossier) : List (String × Json) :=
  if d.dossierFormat = supportedDossierFormatV3 then
    [("repository_id", jsonOption .string d.identity.repositoryId),
      ("repository_locator", jsonOption RepositoryLocator.toJson d.identity.repositoryLocator),
      ("ref_continuity_subject", jsonOption .string d.identity.refContinuitySubject),
      ("repository_identity_meaning", .string ("repository_id and ref_continuity_subject are supplied by Docket; " ++
        "repository_locator is an operational alias and not identity"))]
  else [("repository", jsonOption .string d.identity.repository)]

def attemptCore (d : Dossier) : Json :=
  json ([("type", .string "docket_attempt_core"), ("docket_attempt", .string d.attempt),
    ("docket_version", jsonNat d.version),
    ("docket_state", .string d.state), ("docket_settlement", .string d.settlement), ("goal", .string d.identity.goal),
    ("work_request", .string d.identity.workRequest), ("target_ref", .string d.identity.targetRef),
      ("basis", .string d.identity.basis),
    ("effect_class", .string d.identity.effectClass),
      ("settlement_premises", jsonArray .string d.identity.settlementPremises),
    ("allowed_paths", jsonArray .string d.identity.allowedPaths), ("candidate", .string d.identity.candidate),
    ("candidate_digest", .string d.identity.candidateDigest), ("patch_digest", .string d.identity.patchDigest),
    ("prepared_attempt_digest", .string d.identity.preparedAttemptDigest),
      ("preparation_run", .string d.identity.preparationRun),
    ("observation_plan_argv", jsonArray .string d.identity.observationPlan.argv),
      ("admitted_at_ms", jsonNat d.identity.admittedAtMs),
    ("request_created_at_ms", jsonNat d.identity.requestCreatedAtMs),
    ("timestamp_provenance", .string "docket clock readings as recorded in the dossier")] ++ d.repositoryFields)

def Grant.toJson (g : Grant) : Json :=
  json [("grant", .string g.grant), ("actor", .string g.actor), ("act", .string g.act),
    ("attempt_digest_binding", .string g.attemptDigestBinding), ("expires_at_ms", jsonNat g.expiresAtMs),
    ("consumed_by", jsonOption .string g.consumedBy), ("used_at_ms", jsonOption jsonNat g.usedAtMs)]

def Ratification.toJson (r : Ratification) : Json :=
  json [("ratification", .string r.ratification), ("actor", .string r.actor), ("standing_use", .string r.standingUse),
    ("at_ms", jsonNat r.atMs)]

def Reservation.toJson (r : Reservation) : Json :=
  json [("reservation", .string r.reservation), ("basis", .string r.basis), ("expires_at_ms", jsonNat r.expiresAtMs),
    ("consumed_by", jsonOption .string r.consumedBy)]

def Dispatch.toJson (x : Dispatch) : Json :=
  json [("dispatch", .string x.dispatch), ("created_at_ms", jsonNat x.createdAtMs)]

def Authority.toJson (a : Authority) : Json :=
  json [("type", .string "docket_authority"), ("ratification", jsonOption Ratification.toJson a.ratification),
    ("ratifying_grant", jsonOption Grant.toJson a.ratifyingGrant),
      ("recovery_grant", jsonOption Grant.toJson a.recoveryGrant),
    ("reservation", jsonOption Reservation.toJson a.reservation), ("dispatch", jsonOption Dispatch.toJson a.dispatch),
    ("meaning", .string "docket-recorded authority bindings; identifiers confer nothing")]

def TimelineEntry.toJson (t : TimelineEntry) : Json :=
  json [("seq", jsonNat t.seq), ("kind", .string t.kind), ("at_ms", jsonNat t.atMs)]

def Commitment.toJson (c : Commitment) : Json :=
  json [("result_commit", .string c.resultCommit), ("previous_value", .string c.previousValue),
    ("target_ref", .string c.targetRef),
    ("journal_digest", .string c.journalDigest), ("committed_at_ms", jsonNat c.committedAtMs)]

def DispatchRefusal.toJson (r : DispatchRefusal) : Json :=
  json [("ground", .string r.ground), ("journal_digest", .string r.journalDigest),
    ("refused_at_ms", jsonNat r.refusedAtMs)]

def Indeterminate.toJson (i : Indeterminate) : Json :=
  json [("last_journal_digest", jsonOption .string i.lastJournalDigest), ("recorded_at_ms", jsonNat i.recordedAtMs)]

def RecoveryFact.toJson (f : RecoveryFact) : Json :=
  json [("fact", .string f.fact), ("source", .string f.source), ("source_detail", jsonOption .string f.sourceDetail),
    ("observed_ref", .string f.observedRef), ("expected_result_commit", jsonOption .string f.expectedResultCommit),
    ("journal_digest", .string f.journalDigest), ("recorded_at_ms", jsonNat f.recordedAtMs)]

def Resolution.toJson (r : Resolution) : Json :=
  json [("resolution", .string r.resolution), ("fact", .string r.fact), ("verdict", .string r.verdict),
    ("resolved_at_ms", jsonNat r.resolvedAtMs)]

def Qualification.toJson (q : Qualification) : Json :=
  json [("verdict", .string q.verdict), ("proof_basis", .string q.proofBasis),
    ("custody_premise", jsonOption .string q.custodyPremise),
    ("custody_premise_asserted_not_verified", jsonOption .bool q.custodyPremiseAssertedNotVerified),
    ("observed_ref", .string q.observedRef), ("expected_result_commit", jsonOption .string q.expectedResultCommit),
    ("observed_ref_owner", jsonOption .string q.observedRefOwner), ("journal_digest", .string q.journalDigest),
    ("evidence_concordance", .string q.evidenceConcordance), ("evidence_agrees", .bool q.evidenceAgrees),
    ("establishes", .string q.establishes), ("does_not_establish", .string q.doesNotEstablish)]

def settlementEvidence (d : Dossier) : Json :=
  json [("type", .string "docket_settlement_evidence"), ("docket_settlement", .string d.execution.settlement),
    ("timeline", jsonArray TimelineEntry.toJson d.timeline),
      ("commitment", jsonOption Commitment.toJson d.execution.commitment),
    ("dispatch_refusal", jsonOption DispatchRefusal.toJson d.execution.dispatchRefusal),
    ("indeterminate", jsonOption Indeterminate.toJson d.execution.indeterminate),
    ("recovery_facts", jsonArray RecoveryFact.toJson d.execution.recoveryFacts),
    ("resolution", jsonOption Resolution.toJson d.execution.resolution),
    ("qualification", jsonOption Qualification.toJson d.qualification),
    ("meaning", .string ("docket settlement is source testimony; it is not an nq verification status, and disagreement is " ++
      "retained unresolved"))]

def ObservationRecord.toJson (o : ObservationRecord) : Json :=
  json [("type", .string "docket_observation"), ("observation", .string o.observation),
    ("argv", jsonArray .string o.argv),
    ("working_directory", .string o.workingDirectory), ("result_commit", .string o.resultCommit),
    ("environment", .string o.environment), ("exit_status", .number (.int o.exitStatus)),
      ("stdout_digest", .string o.stdoutDigest),
    ("stderr_digest", .string o.stderrDigest), ("observed_at_ms", jsonNat o.observedAtMs)]

def RelianceAdmission.toJson (a : RelianceAdmission) : Json :=
  json [("type", .string "docket_reliance_decision"), ("decision", .string "admitted"),
    ("observation", .string a.observation), ("result_commit", .string a.resultCommit), ("at_ms", jsonNat a.atMs)]

def RelianceSubject.toJson (s : RelianceSubject) : Json :=
  json [("observation", .string s.observation), ("consumer", .string s.consumer), ("docket_claim", .string s.claim)]

def RelianceRefusal.toJson (r : RelianceRefusal) : Json :=
  json [("type", .string "docket_reliance_decision"), ("decision", .string "refused"), ("kind", .string r.kind),
    ("detail", jsonOption .string r.detail), ("subject", jsonOption RelianceSubject.toJson r.subject),
      ("at_ms", jsonNat r.atMs),
    ("meaning", .string "a docket reliance refusal is a source record; it is not the negation of the refused claim")]

def ResidualObligation.toJson (o : ResidualObligation) : Json :=
  json [("type", .string "docket_residual_obligation"), ("obligation", .string o.obligation), ("kind", .string o.kind),
    ("recorded_at_ms", jsonNat o.recordedAtMs), ("discharged", .bool false),
    ("meaning", .string "carried, not discharged; import cannot discharge an execution obligation")]

def Reconciliation.toJson (r : Reconciliation) : Json :=
  json [("type", .string "docket_reconciliation"), ("retained_obligations", jsonArray .string r.retainedObligations),
    ("reconciled_at_ms", jsonNat r.reconciledAtMs)]

def observationsOf (d : Dossier) (rawDigest coreDigest : String) : List Json :=
  [sourceIdentity d rawDigest coreDigest] ++ (d.authorization.map Authorization.toJson).toList ++
    [attemptCore d, d.authority.toJson,
    settlementEvidence d] ++ d.observation.observations.map ObservationRecord.toJson ++
    d.observation.relianceAdmissions.map RelianceAdmission.toJson ++
      d.observation.relianceRefusals.map RelianceRefusal.toJson ++
    d.observation.residualObligations.map ResidualObligation.toJson ++
      (d.observation.reconciliation.map Reconciliation.toJson).toList

def msToRfc3339 (ms : Nat) : String := (codec.formatUnixNanos (ms * 1000000)).getD "1970-01-01T00:00:00Z"

def Dossier.observedAtMs (d : Dossier) : Nat := (d.timeline.map (·.atMs)).max?.getD d.identity.admittedAtMs

def Dossier.subject (d : Dossier) : String :=
  if d.dossierFormat = supportedDossierFormatV3 then
    d.identity.refContinuitySubject.getD ("docket:attempt:" ++ d.attempt)
  else "docket:attempt:" ++ d.attempt

def packetOf (d : Dossier) (sourcePath rawDigest coreDigest generatedAt : String)
    (coverage : List String) : WitnessPacket where
  schema := Receipts.witnessSchema
  witnessType := witnessType
  subject := d.subject
  accessPath := sourcePath
  observedAt := msToRfc3339 codec d.observedAtMs
  generatedAt := generatedAt
  observations := observationsOf d rawDigest coreDigest
  coverageLimits := Collections.sortDedup (fixedCoverageLimits ++ coverage)
  dependencies := []
  custodyBasis := some Receipts.custodyBasisExternalProjection
  sourceFindingRef := some ("docket:attempt:" ++ d.attempt ++ "@v" ++ toString d.version ++ " dossier=" ++
    d.dossierFormat ++ " " ++ rawDigest)
  projectionLimits := [Receipts.projectionLimitNativeWitnessCustody, "source assertions not independently verified"]
  position := some .applicationInternal

def buildPacket (d : Dossier) (sourcePath rawDigest coreDigest generatedAt : String) :
    Except (ImportRefusal Nat) WitnessPacket := do
  let coverage ← premiseCoverage codec d
  let packet := packetOf codec d sourcePath rawDigest coreDigest generatedAt coverage
  (packet.validate codec.toCodec).mapError fun e => .malformed ("constructed packet failed wire validation: " ++ e)
  return packet

end

end Nq.Projection.Docket
