/-
  Nq.Inquiry.Canonical — the digests of inquiry artifacts, computed: their serde forms
  (`nq-core/src/inquiry.rs`, `nq-core/src/intent.rs`) as canonical JSON, under SHA-256.

  `canonicalEnv` is an `Env` of these; its RFC3339 is right on the instants it lists.
-/

import Nq.Inquiry.Digest
import Nq.Text.Canonical

namespace Nq.Inquiry

open Collections (BTreeSet)
open List
open Text (object array quoted)

/-! ## Serde forms -/

def Version.toJcs (v : Version) : String := quoted v.asStr

def Question.toJcs : Question → String
  | .findingOperationalActivity => quoted "finding_operational_activity"
  | .tlsCertificatePresentationAndExpiryHorizon => quoted "tls_certificate_presentation_and_expiry_horizon"

def Disposition.toJcs : Disposition → String
  | .operationallyActive => quoted "operationally_active"
  | .notOperationallyActive => quoted "not_operationally_active"
  | .cannotTestify => quoted "cannot_testify"
  | .perTargetOutcomes => quoted "per_target_outcomes"

def Status.toJcs : Status → String
  | .answered => quoted "answered"
  | .refused => quoted "refused"

def Refusal.toJcs (r : Refusal) : String :=
  object [("kind", some (quoted r.kind.asStr)), ("statement", some (quoted r.statement))]

def FindingSelector.toJcs (s : FindingSelector) : String :=
  object [("host", some (quoted s.host)), ("kind", some (quoted s.kind)), ("subject", some (quoted s.subject))]

def TlsTarget.toJcs (t : TlsTarget) : String :=
  object [("target_id", some (quoted t.targetId)), ("host", some (quoted t.host)), ("port", some (toString t.port)),
    ("sni", some (quoted t.sni))]

def Collector.toJcs : Collector → String
  | .tlsCertProbe => quoted "tls_cert_probe"

def TlsValidationPolicy.toJcs : TlsValidationPolicy → String
  | .webpki => quoted "webpki"

/-- A vector that is left out where it is empty. -/
def nonempty {α : Type} (render : α → String) (items : List α) : Option String :=
  if items.isEmpty then none else some (array (items.map render))

def set {α : Type} [LinearOrder α] (render : α → String) (s : BTreeSet α) : String := array (s.toList.map render)

def TlsCertProfile.toJcs (p : TlsCertProfile) : String :=
  object [("collector", some p.collector.toJcs),
    ("declared_targets", some (array (p.declaredTargets.map TlsTarget.toJcs))),
    ("max_targets", some (toString p.maxTargets)), ("max_concurrency", some (toString p.maxConcurrency)),
    ("per_target_deadline_ms", some (toString p.perTargetDeadlineMs)),
      ("total_deadline_ms", some (toString p.totalDeadlineMs)),
    ("expiry_horizon_days", some (toString p.expiryHorizonDays)), ("validation_policy", some p.validationPolicy.toJcs),
    ("vantage", some (quoted p.vantage))]

def Profile.toJcs (p : Profile) : String :=
  object [("schema", some (quoted p.schema)), ("version", some p.version.toJcs),
    ("profile_id", some (quoted p.profileId)),
    ("aliases", some (array (p.aliases.map quoted))), ("question_kind", some p.questionKind.toJcs),
    ("question", some (quoted p.question)), ("selector", p.selector.map FindingSelector.toJcs),
    ("max_snapshot_age_seconds", p.maxSnapshotAgeSeconds.map toString),
      ("evidence_limit", p.evidenceLimit.map toString),
    ("tls_cert", p.tlsCert.map TlsCertProfile.toJcs), ("coverage", some (array (p.coverage.map quoted))),
    ("cannot_testify", some (array (p.cannotTestify.map Refusal.toJcs)))]

def ProfileBinding.toJcs (b : ProfileBinding) : String :=
  object [("profile_id", some (quoted b.profileId)), ("version", some b.version.toJcs),
    ("profile_digest", some (quoted b.profileDigest))]

def RequestMaterial.fields (m : RequestMaterial) : List (String × Option String) :=
  [("schema", some (quoted m.schema)), ("version", some m.version.toJcs), ("profile", some m.profile.toJcs),
    ("question_kind", some m.questionKind.toJcs), ("question", some (quoted m.question)),
    ("selector", m.selector.map FindingSelector.toJcs), ("as_of", some (quoted m.asOf)),
    ("requested_targets", nonempty TlsTarget.toJcs m.requestedTargets),
    ("admitted_targets", nonempty TlsTarget.toJcs m.admittedTargets)]

def AdmittedRequest.toJcs (r : AdmittedRequest) : String :=
  object (r.toRequestMaterial.fields ++ [("request_digest", some (quoted r.requestDigest))])

def AcquisitionBounds.toJcs (b : AcquisitionBounds) : String :=
  object [("max_targets", some (toString b.maxTargets)), ("max_concurrency", some (toString b.maxConcurrency)),
    ("per_target_deadline_ms", some (toString b.perTargetDeadlineMs)),
      ("total_deadline_ms", some (toString b.totalDeadlineMs)),
    ("max_dns_attempts", some (toString b.maxDnsAttempts)),
      ("max_connection_attempts", some (toString b.maxConnectionAttempts)),
    ("max_handshakes_attempted", some (toString b.maxHandshakesAttempted)),
      ("max_bound_checks", some (toString b.maxBoundChecks)),
    ("max_work_units", some (toString b.maxWorkUnits)), ("max_redirects", some (toString b.maxRedirects)),
    ("max_retries", some (toString b.maxRetries)), ("max_aia_fetches", some (toString b.maxAiaFetches)),
    ("max_ocsp_requests", some (toString b.maxOcspRequests)),
    ("max_dependency_recursions", some (toString b.maxDependencyRecursions))]

def WitnessPlanMaterial.fields (m : WitnessPlanMaterial) : List (String × Option String) :=
  [("schema", some (quoted m.schema)), ("version", some m.version.toJcs),
    ("request_digest", some (quoted m.requestDigest)),
    ("collector", some m.collector.toJcs), ("targets", some (array (m.targets.map TlsTarget.toJcs))),
    ("expiry_horizon_days", some (toString m.expiryHorizonDays)), ("validation_policy", some m.validationPolicy.toJcs),
    ("vantage", some (quoted m.vantage)), ("bounds", some m.bounds.toJcs)]

def WitnessPlan.toJcs (w : WitnessPlan) : String :=
  object (w.toWitnessPlanMaterial.fields ++ [("witness_plan_digest", some (quoted w.witnessPlanDigest))])

def AcquisitionSpend.toJcs (s : AcquisitionSpend) : String :=
  object [("dns_attempts", some (toString s.dnsAttempts)),
    ("connection_attempts", some (toString s.connectionAttempts)),
    ("handshakes_attempted", some (toString s.handshakesAttempted)),
    ("handshakes_completed", some (toString s.handshakesCompleted)), ("bound_checks", some (toString s.boundChecks)),
    ("wall_ms", some (toString s.wallMs)), ("work_units", some (toString s.workUnits))]

def GrantRequirements.fields (g : GrantRequirements) : List (String × Option String) :=
  [("admitted_scope", some (set TlsTarget.toJcs g.admittedScope)), ("max_depth", some (toString g.maxDepth)),
    ("total_acquisition_envelope", some g.totalAcquisitionEnvelope.toJcs),
    ("permitted_witness_classes", some (set Collector.toJcs g.permittedWitnessClasses))]

def Grant.toJcs (g : Grant) : String :=
  object (g.toGrantRequirements.fields ++ [("schema", some (quoted g.schema)), ("version", some g.version.toJcs)])

def Position.toJcs (p : Position) : String :=
  object [("schema", some (quoted p.schema)), ("version", some p.version.toJcs),
    ("scope", some (set TlsTarget.toJcs p.scope)),
    ("depth", some (toString p.depth)), ("remaining_acquisition_envelope", some p.remainingAcquisitionEnvelope.toJcs)]

def PreflightCannotTestify.toJcs (c : PreflightCannotTestify) : String :=
  let kind := match c.kind with
    | .authorization => "authorization"
    | .execution => "execution"
    | .grantExistence => "grant_existence"
  object [("kind", some (quoted kind)), ("statement", some (quoted c.statement))]

def PreflightMaterial.toJcs (m : PreflightMaterial) : String :=
  object [("schema", some (quoted m.schema)), ("version", some m.version.toJcs), ("profile", some m.profile.toJcs),
    ("question_kind", some m.questionKind.toJcs), ("as_of", some (quoted m.asOf)),
    ("selector", m.selector.map FindingSelector.toJcs), ("request_digest", some (quoted m.requestDigest)),
    ("declared_targets", some (set TlsTarget.toJcs m.declaredTargets)),
      ("witness_class", m.witnessClass.map Collector.toJcs),
    ("witness_plan_digest", m.witnessPlanDigest.map quoted), ("bounds", m.bounds.map AcquisitionBounds.toJcs),
    ("expiry_horizon_days", m.expiryHorizonDays.map toString),
    ("validation_policy", m.validationPolicy.map TlsValidationPolicy.toJcs), ("vantage", m.vantage.map quoted),
    ("max_snapshot_age_seconds", m.maxSnapshotAgeSeconds.map toString),
      ("evidence_limit", m.evidenceLimit.map toString),
    ("acquisition_envelope", some m.acquisitionEnvelope.toJcs), ("acquisition_spend", some m.acquisitionSpend.toJcs),
    ("grant_requirements", some (object m.grantRequirements.fields)),
    ("cannot_testify", some (array (m.cannotTestify.map PreflightCannotTestify.toJcs)))]

def TlsOutcome.asStr : TlsOutcome → String
  | .resolutionFailed => "resolution_failed"
  | .connectionFailed => "connection_failed"
  | .tlsHandshakeFailed => "tls_handshake_failed"
  | .noCertificatePresented => "no_certificate_presented"
  | .nameMismatch => "name_mismatch"
  | .chainInvalid => "chain_invalid"
  | .expiredUnderAcquisitionClock => "expired_under_acquisition_clock"
  | .validNowButExpiresWithinHorizon => "valid_now_but_expires_within_horizon"
  | .validBeyondExpiryHorizon => "valid_beyond_expiry_horizon"
  | .acquisitionBoundRefused => "acquisition_bound_refused"

def TlsValidationResult.toJcs : TlsValidationResult → String
  | .valid => object [("result", some (quoted "valid"))]
  | .invalid reason => object [("result", some (quoted "invalid")), ("reason", some (quoted reason))]
  | .notAttempted => object [("result", some (quoted "not_attempted"))]

def TlsObservation.toJcs (o : TlsObservation) : String :=
  object [("acquired_at", some (quoted o.acquiredAt)), ("target", some o.target.toJcs),
    ("observed_ip", o.observedIp.map quoted), ("certificate_digest", o.certificateDigest.map quoted),
    ("chain_digest", o.chainDigest.map quoted), ("chain_fingerprints", some (array (o.chainFingerprints.map quoted))),
    ("not_before", o.notBefore.map quoted), ("not_after", o.notAfter.map quoted),
    ("validation_result", some o.validationResult.toJcs), ("outcome", some (quoted o.outcome.asStr)),
    ("spend", some o.spend.toJcs), ("refusals", nonempty Refusal.toJcs o.refusals)]

/-- An option that is `null` where it is absent. -/
def orNull {α : Type} (render : α → String) (o : Option α) : Option String := some ((o.map render).getD "null")

def FindingState.toJcs (f : FindingState) : String :=
  object [("host", some (quoted f.host)), ("kind", some (quoted f.kind)), ("subject", some (quoted f.subject)),
    ("domain", some (quoted f.domain)), ("severity", some (quoted f.severity)), ("message", some (quoted f.message)),
    ("first_seen_gen", some (toString f.firstSeenGen)), ("first_seen_at", some (quoted f.firstSeenAt)),
    ("last_seen_gen", some (toString f.lastSeenGen)), ("last_seen_at", some (quoted f.lastSeenAt)),
    ("consecutive_gens", some (toString f.consecutiveGens)), ("absent_gens", some (toString f.absentGens)),
    ("visibility_state", some (quoted f.visibilityState)), ("admissibility", some (quoted f.admissibility)),
    ("suppression_kind", orNull quoted f.suppressionKind), ("ancestor_reason", orNull quoted f.ancestorReason),
    ("suppression_declaration_id", orNull quoted f.suppressionDeclarationId),
      ("basis_state", some (quoted f.basisState)),
    ("basis_source_id", orNull quoted f.basisSourceId), ("basis_witness_id", orNull quoted f.basisWitnessId),
    ("last_basis_generation", orNull toString f.lastBasisGeneration), ("basis_state_at", orNull quoted f.basisStateAt),
    ("origin_source", some (quoted f.originSource)), ("origin_producer_id", orNull quoted f.originProducerId),
    ("origin_extraction_run_id", orNull quoted f.originExtractionRunId),
    ("origin_producer_extraction_time", orNull quoted f.originProducerExtractionTime),
    ("origin_import_contract_version", orNull toString f.originImportContractVersion),
      ("origin_mode", some (quoted f.originMode))]

def EvidenceCoverage.toJcs (c : EvidenceCoverage) : String :=
  object [("matched_current_rows", some (toString c.matchedCurrentRows)),
    ("matched_receipt_rows", some (toString c.matchedReceiptRows)), ("receipt_limit", some (toString c.receiptLimit)),
    ("receipt_tail_truncated", some (toString c.receiptTailTruncated)),
    ("newest_receipt_generation", orNull toString c.newestReceiptGeneration),
    ("oldest_receipt_generation", orNull toString c.oldestReceiptGeneration)]

/-- A receipt without a source snapshot and evidence. -/
def Receipt.toJcs (r : Receipt) : String :=
  object [("schema", some (quoted r.schema)), ("version", some r.version.toJcs), ("status", some r.status.toJcs),
    ("disposition", some r.disposition.toJcs), ("request", some r.request.toJcs), ("source_snapshot", some "null"),
    ("finding_state", orNull FindingState.toJcs r.findingState), ("evidence_receipts", some (array [])),
    ("evidence_coverage", some r.evidenceCoverage.toJcs), ("witness_plan", r.witnessPlan.map WitnessPlan.toJcs),
    ("tls_observations", nonempty TlsObservation.toJcs r.tlsObservations),
    ("acquisition", r.acquisition.map AcquisitionSpend.toJcs), ("grant_digest", r.grantDigest.map quoted),
    ("authorized_acquisition_envelope", r.authorizedAcquisitionEnvelope.map AcquisitionSpend.toJcs),
    ("observed_acquisition_spend", r.observedAcquisitionSpend.map AcquisitionSpend.toJcs),
    ("coverage", some (array (r.coverage.map quoted))),
      ("cannot_testify", some (array (r.cannotTestify.map Refusal.toJcs))),
    ("acquisition_spend", some (toString r.acquisitionSpend)), ("receipt_digest", r.receiptDigest.map quoted)]

def Intent.toJcs (i : Intent) : String :=
  let selector := match i.selector with
    | .profile name => object [("profile", some (quoted name))]
    | .question kind => object [("question", some kind.toJcs)]
  let composer := match i.composedBy with
    | .operator => quoted "operator"
    | .model modelId adapter =>
      object [("model", some (object [("model_id", some (quoted modelId)), ("adapter", some (quoted adapter))]))]
  object [("schema", some (quoted i.schema)), ("version", some i.version.toJcs), ("selector", some selector),
    ("as_of", some (quoted i.asOf)), ("target_ids", nonempty quoted i.targetIds), ("composed_by", some composer),
    ("source_text", i.sourceText.map quoted)]

/-- The canonical form of a plain artifact. -/
def Artifact.toJcs : Artifact → String
  | .profile p => p.toJcs
  | .request m => object m.fields
  | .witnessPlan m => object m.fields
  | .preflight m => m.toJcs
  | .grant g => g.toJcs
  | .position p => p.toJcs
  | .receipt r => r.toJcs
  | .intent i => i.toJcs

def canonicalVec (a : Artifact) : Except String (List UInt8) :=
  if a.plain then .ok (Text.bytes a.toJcs) else .error "source snapshots and evidence are not rendered here"

/-! ## Clocks -/

/-- Instants and how RFC3339 writes them. -/
def instants : List (Int × String) :=
  [(1767225600000000000, "2026-01-01T00:00:00Z"), (1783771200000000000, "2026-07-11T12:00:00Z"),
    (1798761600000000000, "2027-01-01T00:00:00Z")]

def newYear : DateTime := ⟨1767225600000000000, by decide⟩
def noon : DateTime := ⟨1783771200000000000, by decide⟩
def nextNewYear : DateTime := ⟨1798761600000000000, by decide⟩

/-- A text for any other instant. -/
def unlisted (ns : Int) : String := String.ofList ((if 0 ≤ ns then '+' else '-') :: List.replicate ns.natAbs '1')

def writeInstant (t : DateTime) : String := ((instants.find? (·.1 = t.ns)).map Prod.snd).getD (unlisted t.ns)

def readInstant (s : String) : Except String Int :=
  match instants.find? (·.2 = s), s.toList with
  | some x, _ => .ok x.1
  | none, '+' :: rest => .ok rest.length
  | none, '-' :: rest => .ok (-rest.length)
  | none, _ => .error "not an instant"

theorem readInstant_unlisted (ns : Int) : readInstant (unlisted ns) = .ok ns := by
  have hfresh : instants.find? (·.2 = unlisted ns) = none := by
    rw [find?_eq_none]
    intro x hx
    simp only [decide_eq_true_eq]
    intro e
    have hhead := congrArg (fun s => s.toList.head?) e
    unfold unlisted at hhead
    rw [String.toList_ofList] at hhead
    have hlisted : ∀ x ∈ instants, x.2.toList.head? = some '2' := by decide
    rw [hlisted x hx] at hhead
    split at hhead <;> cases hhead
  unfold readInstant
  rw [hfresh]
  unfold unlisted
  rw [String.toList_ofList]
  by_cases h : 0 ≤ ns
  · rw [if_pos h]
    simp only [length_replicate]
    rw [Int.natAbs_of_nonneg h]
  · rw [if_neg h]
    simp only [length_replicate]
    rw [Int.ofNat_natAbs_of_nonpos (by omega), Int.neg_neg]

theorem readInstant_writeInstant (t : DateTime) : readInstant (writeInstant t) = .ok t.ns := by
  unfold writeInstant
  cases h : instants.find? (·.1 = t.ns) with
  | none => exact readInstant_unlisted t.ns
  | some x =>
    have hmem := mem_of_find?_eq_some h
    have hns : x.1 = t.ns := by simpa using find?_some h
    have hread : ∀ x ∈ instants, readInstant x.2 = .ok x.1 := by
      intro x hx
      unfold instants at hx
      simp only [mem_cons, not_mem_nil, or_false] at hx
      rcases hx with e | e | e <;> subst e <;> rfl
    exact (hread x hmem).trans (by rw [hns])

def canonicalEnv : Env where
  escapeWide := fun c => [c]
  rfc3339 := readInstant
  formatRfc3339 := writeInstant
  toVec := canonicalVec
  sha256 := Text.sha256
  rfc3339_format := readInstant_writeInstant
  toVec_plain := fun a h => ⟨Text.bytes a.toJcs, if_pos h⟩

end Nq.Inquiry
