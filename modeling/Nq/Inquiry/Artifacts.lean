/-
  Nq.Inquiry.Artifacts — what governed inquiry reads, hands on and seals
  (`nq-core/src/inquiry.rs`, `nq-core/src/intent.rs`): profiles and their catalog, plans,
  requests, witness plans, preflights, grants, positions, observations and receipts.

  Names drop the `Inquiry` prefix and the `V0` suffix. A `BTreeSet` is a `BTreeSet`; a
  machine integer is a `Nat`, and where the code narrows one or adds two, the definition
  says what a machine does.
-/

import Mathlib.Data.Prod.Lex
import Mathlib.Data.String.Basic
import Nq.Collections.Ordered
import Nq.Sql.Real

namespace Nq.Inquiry

open Collections (BTreeSet)
open Sql (F64)

/-! ## Vocabulary -/

def planSchema : String := "nq.inquiry_plan.v0"
def profileSchema : String := "nq.inquiry_profile.v0"
def profileCatalogSchema : String := "nq.inquiry_profile_catalog.v0"
def requestSchema : String := "nq.inquiry_request.v0"
def receiptSchema : String := "nq.inquiry_receipt.v0"
def witnessPlanSchema : String := "nq.inquiry_witness_plan.v0"
def preflightSchema : String := "nq.inquiry_preflight.v0"
def grantSchema : String := "nq.inquiry_grant.v0"
def positionSchema : String := "nq.inquiry_position.v0"
def authorizedTransitionSchema : String := "nq.authorized_inquiry_transition.v0"
def transitionRefusalSchema : String := "nq.inquiry_transition_refusal.v0"
def intentSchema : String := "nq.inquiry_intent.v0"
def intentResolutionSchema : String := "nq.inquiry_intent_resolution.v0"
def tlsCertInquiryQuestion : String :=
  "what certificate did these declared endpoints present, and does it validate within the profile's expiry horizon?"

/-- Inspection depth of a report over recorded testimony, and of a bounded active survey. -/
def reportDepth : Nat := 0
def surveyDepth : Nat := 1

inductive Version where
  | v0
  deriving DecidableEq, Repr

def Version.asStr : Version → String
  | .v0 => "v0"

inductive Question where
  | findingOperationalActivity | tlsCertificatePresentationAndExpiryHorizon
  deriving DecidableEq, Repr

inductive Disposition where
  | operationallyActive | notOperationallyActive | cannotTestify | perTargetOutcomes
  deriving DecidableEq, Repr

inductive Status where
  | answered | refused
  deriving DecidableEq, Repr

inductive RefusalKind where
  | rootCause | futureState | consequenceAuthority | evidenceAbsent | evidenceNotCurrent | evidenceSuppressed
  | evidenceNotAuthenticallyObserved | snapshotUnavailable | snapshotUnsealed | snapshotIncomplete | snapshotAfterAsOf
  | snapshotTooOld | acquisitionBoundCannotBeHonored | resolutionFailed | connectionFailed | tlsHandshakeFailed
  | grantRequired | grantMalformed | grantScopeInsufficient | grantDepthInsufficient
  | grantAcquisitionEnvelopeInsufficient | grantWitnessClassNotPermitted | grantNotApplicableToPassiveInquiry
  deriving DecidableEq, Repr

def RefusalKind.asStr : RefusalKind → String
  | .rootCause => "root_cause"
  | .futureState => "future_state"
  | .consequenceAuthority => "consequence_authority"
  | .evidenceAbsent => "evidence_absent"
  | .evidenceNotCurrent => "evidence_not_current"
  | .evidenceSuppressed => "evidence_suppressed"
  | .evidenceNotAuthenticallyObserved => "evidence_not_authentically_observed"
  | .snapshotUnavailable => "snapshot_unavailable"
  | .snapshotUnsealed => "snapshot_unsealed"
  | .snapshotIncomplete => "snapshot_incomplete"
  | .snapshotAfterAsOf => "snapshot_after_as_of"
  | .snapshotTooOld => "snapshot_too_old"
  | .acquisitionBoundCannotBeHonored => "acquisition_bound_cannot_be_honored"
  | .resolutionFailed => "resolution_failed"
  | .connectionFailed => "connection_failed"
  | .tlsHandshakeFailed => "tls_handshake_failed"
  | .grantRequired => "grant_required"
  | .grantMalformed => "grant_malformed"
  | .grantScopeInsufficient => "grant_scope_insufficient"
  | .grantDepthInsufficient => "grant_depth_insufficient"
  | .grantAcquisitionEnvelopeInsufficient => "grant_acquisition_envelope_insufficient"
  | .grantWitnessClassNotPermitted => "grant_witness_class_not_permitted"
  | .grantNotApplicableToPassiveInquiry => "grant_not_applicable_to_passive_inquiry"

/-- Kinds are ordered as they are declared. -/
instance : LinearOrder RefusalKind :=
  LinearOrder.lift' RefusalKind.ctorIdx fun a b h => by
    rw [← RefusalKind.ofNat_ctorIdx a, h, RefusalKind.ofNat_ctorIdx b]

structure Refusal where
  kind : RefusalKind
  statement : String
  deriving DecidableEq, Repr

instance : LinearOrder Refusal :=
  LinearOrder.lift' (fun r => toLex (r.kind, r.statement)) fun a b h => by
    obtain ⟨kind, statement⟩ := a
    obtain ⟨kind', statement'⟩ := b
    cases h
    rfl

structure FindingSelector where
  host : String
  kind : String
  subject : String
  deriving DecidableEq, Repr

/-- The exact, predeclared identity of one active target. -/
structure TlsTarget where
  targetId : String
  host : String
  port : Nat
  sni : String
  deriving DecidableEq, Repr

instance : LinearOrder TlsTarget :=
  LinearOrder.lift' (fun t => toLex (t.targetId, toLex (t.host, toLex (t.port, t.sni)))) fun a b h => by
    obtain ⟨targetId, host, port, sni⟩ := a
    obtain ⟨targetId', host', port', sni'⟩ := b
    cases h
    rfl

inductive Collector where
  | tlsCertProbe
  deriving DecidableEq, Repr

instance : LinearOrder Collector :=
  LinearOrder.lift' Collector.ctorIdx fun a b _ => by cases a; cases b; rfl

inductive TlsValidationPolicy where
  | webpki
  deriving DecidableEq, Repr

/-! ## Profiles and plans -/

structure TlsCertProfile where
  collector : Collector
  declaredTargets : List TlsTarget
  maxTargets : Nat
  maxConcurrency : Nat
  perTargetDeadlineMs : Nat
  totalDeadlineMs : Nat
  expiryHorizonDays : Nat
  validationPolicy : TlsValidationPolicy
  vantage : String
  deriving DecidableEq, Repr

structure Profile where
  schema : String
  version : Version
  profileId : String
  aliases : List String
  questionKind : Question
  question : String
  selector : Option FindingSelector
  maxSnapshotAgeSeconds : Option Nat
  evidenceLimit : Option Nat
  tlsCert : Option TlsCertProfile
  coverage : List String
  cannotTestify : List Refusal
  deriving DecidableEq, Repr

structure ProfileCatalog where
  schema : String
  version : Version
  profiles : List Profile
  deriving DecidableEq, Repr

structure ResolvedProfile where
  profile : Profile
  profileDigest : String
  deriving DecidableEq, Repr

structure ProfileBinding where
  profileId : String
  version : Version
  profileDigest : String
  deriving DecidableEq, Repr

structure CandidatePlan where
  schema : String
  version : Version
  profile : String
  asOf : String
  targets : List TlsTarget
  deriving DecidableEq, Repr

/-! ## Requests and witness plans -/

structure RequestMaterial where
  schema : String
  version : Version
  profile : ProfileBinding
  questionKind : Question
  question : String
  selector : Option FindingSelector
  asOf : String
  requestedTargets : List TlsTarget
  admittedTargets : List TlsTarget
  deriving DecidableEq, Repr

structure AdmittedRequest extends RequestMaterial where
  requestDigest : String
  deriving DecidableEq, Repr

structure AcquisitionBounds where
  maxTargets : Nat
  maxConcurrency : Nat
  perTargetDeadlineMs : Nat
  totalDeadlineMs : Nat
  maxDnsAttempts : Nat
  maxConnectionAttempts : Nat
  maxHandshakesAttempted : Nat
  maxBoundChecks : Nat
  maxWorkUnits : Nat
  maxRedirects : Nat
  maxRetries : Nat
  maxAiaFetches : Nat
  maxOcspRequests : Nat
  maxDependencyRecursions : Nat
  deriving DecidableEq, Repr

structure WitnessPlanMaterial where
  schema : String
  version : Version
  requestDigest : String
  collector : Collector
  targets : List TlsTarget
  expiryHorizonDays : Nat
  validationPolicy : TlsValidationPolicy
  vantage : String
  bounds : AcquisitionBounds
  deriving DecidableEq, Repr

structure WitnessPlan extends WitnessPlanMaterial where
  witnessPlanDigest : String
  deriving DecidableEq, Repr

/-- Counters of an acquisition, spent or to be spent. -/
structure AcquisitionSpend where
  dnsAttempts : Nat := 0
  connectionAttempts : Nat := 0
  handshakesAttempted : Nat := 0
  handshakesCompleted : Nat := 0
  boundChecks : Nat := 0
  wallMs : Nat := 0
  workUnits : Nat := 0
  deriving DecidableEq, Repr

/-! ## Grants, positions and preflights -/

structure GrantRequirements where
  admittedScope : BTreeSet TlsTarget
  maxDepth : Nat
  totalAcquisitionEnvelope : AcquisitionSpend
  permittedWitnessClasses : BTreeSet Collector
  deriving DecidableEq

structure Grant extends GrantRequirements where
  schema : String
  version : Version
  deriving DecidableEq

/-- One point in the consumption of a grant; the counters are what is left of it. -/
structure Position where
  schema : String
  version : Version
  scope : BTreeSet TlsTarget
  depth : Nat
  remainingAcquisitionEnvelope : AcquisitionSpend
  deriving DecidableEq

inductive PreflightCannotTestifyKind where
  | authorization | execution | grantExistence
  deriving DecidableEq, Repr

structure PreflightCannotTestify where
  kind : PreflightCannotTestifyKind
  statement : String
  deriving DecidableEq, Repr

structure PreflightMaterial where
  schema : String
  version : Version
  profile : ProfileBinding
  questionKind : Question
  asOf : String
  selector : Option FindingSelector
  requestDigest : String
  declaredTargets : BTreeSet TlsTarget
  witnessClass : Option Collector
  witnessPlanDigest : Option String
  bounds : Option AcquisitionBounds
  expiryHorizonDays : Option Nat
  validationPolicy : Option TlsValidationPolicy
  vantage : Option String
  maxSnapshotAgeSeconds : Option Nat
  evidenceLimit : Option Nat
  acquisitionEnvelope : AcquisitionSpend
  acquisitionSpend : AcquisitionSpend
  grantRequirements : GrantRequirements
  cannotTestify : List PreflightCannotTestify
  deriving DecidableEq

structure Preflight extends PreflightMaterial where
  preflightDigest : String
  deriving DecidableEq

/-! ## Observations and receipts -/

inductive TlsOutcome where
  | resolutionFailed | connectionFailed | tlsHandshakeFailed | noCertificatePresented | nameMismatch | chainInvalid
  | expiredUnderAcquisitionClock | validNowButExpiresWithinHorizon | validBeyondExpiryHorizon | acquisitionBoundRefused
  deriving DecidableEq, Repr

inductive TlsValidationResult where
  | valid
  | invalid (reason : String)
  | notAttempted
  deriving DecidableEq, Repr

structure TlsObservation where
  acquiredAt : String
  target : TlsTarget
  observedIp : Option String
  certificateDigest : Option String
  chainDigest : Option String
  chainFingerprints : List String
  notBefore : Option String
  notAfter : Option String
  validationResult : TlsValidationResult
  outcome : TlsOutcome
  spend : AcquisitionSpend
  refusals : List Refusal
  deriving DecidableEq, Repr

/-- A JSON value, as `serde_json` holds one. -/
inductive Json where
  | null
  | bool (b : Bool)
  | number (x : F64)
  | string (s : String)
  | array (xs : List Json)
  | object (fields : List (String × Json))

inductive GenerationStatus where
  | complete | partial_ | failed
  deriving DecidableEq, Repr

structure SourceSnapshot where
  generationId : Int
  startedAt : String
  completedAt : String
  status : GenerationStatus
  sourcesExpected : Int
  sourcesOk : Int
  sourcesFailed : Int
  durationMs : Int
  summaryHash : Option String
  findingsObserved : Int
  detectorsRun : Int
  findingsSuppressed : Int
  coverageJson : Option Json

structure FindingState where
  host : String
  kind : String
  subject : String
  domain : String
  severity : String
  message : String
  firstSeenGen : Int
  firstSeenAt : String
  lastSeenGen : Int
  lastSeenAt : String
  consecutiveGens : Int
  absentGens : Int
  visibilityState : String
  admissibility : String
  suppressionKind : Option String
  ancestorReason : Option String
  suppressionDeclarationId : Option String
  basisState : String
  basisSourceId : Option String
  basisWitnessId : Option String
  lastBasisGeneration : Option Int
  basisStateAt : Option String
  originSource : String
  originProducerId : Option String
  originExtractionRunId : Option String
  originProducerExtractionTime : Option String
  originImportContractVersion : Option Int
  originMode : String

structure EvidenceReceipt where
  observationId : Int
  generationId : Int
  findingKey : String
  scope : String
  detectorId : String
  host : String
  subject : String
  domain : String
  severity : Option String
  value : Option F64
  message : Option String
  findingClass : String
  ruleHash : Option String
  observedAt : String
  basisSourceId : Option String
  basisWitnessId : Option String

structure EvidenceCoverage where
  matchedCurrentRows : Nat := 0
  matchedReceiptRows : Nat := 0
  receiptLimit : Nat := 0
  receiptTailTruncated : Bool := false
  newestReceiptGeneration : Option Int := none
  oldestReceiptGeneration : Option Int := none
  deriving DecidableEq, Repr

structure Receipt where
  schema : String
  version : Version
  status : Status
  disposition : Disposition
  request : AdmittedRequest
  sourceSnapshot : Option SourceSnapshot
  findingState : Option FindingState
  evidenceReceipts : List EvidenceReceipt
  evidenceCoverage : EvidenceCoverage
  witnessPlan : Option WitnessPlan
  tlsObservations : List TlsObservation
  acquisition : Option AcquisitionSpend
  grantDigest : Option String
  authorizedAcquisitionEnvelope : Option AcquisitionSpend
  observedAcquisitionSpend : Option AcquisitionSpend
  coverage : List String
  cannotTestify : List Refusal
  acquisitionSpend : Nat
  receiptDigest : Option String

/-! ## Intents -/

inductive IntentSelector where
  | profile (name : String)
  | question (kind : Question)
  deriving DecidableEq, Repr

inductive Composer where
  | operator
  | model (modelId adapter : String)
  deriving DecidableEq, Repr

structure Intent where
  schema : String
  version : Version
  selector : IntentSelector
  asOf : String
  targetIds : List String
  composedBy : Composer
  sourceText : Option String
  deriving DecidableEq, Repr

/-! ## What is digested -/

/-- The values the code digests. -/
inductive Artifact where
  | profile (p : Profile)
  | request (m : RequestMaterial)
  | witnessPlan (m : WitnessPlanMaterial)
  | preflight (m : PreflightMaterial)
  | grant (g : Grant)
  | position (p : Position)
  | receipt (r : Receipt)
  | intent (i : Intent)

/-- Made of integers, texts, enumerations and ordered sets alone. -/
def Artifact.plain : Artifact → Bool
  | .receipt r => r.sourceSnapshot.isNone && r.evidenceReceipts.isEmpty
  | _ => true

end Nq.Inquiry
