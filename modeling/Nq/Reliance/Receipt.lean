/-
  Nq.Reliance.Receipt — evaluation receipts (`nq/src/disposition.rs`, `nq/src/refusal.rs`,
  `nq-core/src/receipt.rs`).

  A receipt records the evaluation of a claim. Its content hash covers all of it but the
  hash itself; what reliance is decided on is a view of a few fields and of the hash as it
  is declared, which receipts it was not computed of may share (`redated_not_genuine`).
-/

import Nq.Collections.Checks
import Nq.Inquiry.Digest
import Nq.Text.Canonical

namespace Nq.Reliance

open Inquiry (digestText)
open Text (object array quoted)

/-! ## Dispositions -/

inductive Status where
  | verified | partiallyVerified | needsMoreEvidence | notVerified | invalidEvidence
  deriving DecidableEq, Repr

def Status.debug : Status → String
  | .verified => "Verified"
  | .partiallyVerified => "PartiallyVerified"
  | .needsMoreEvidence => "NeedsMoreEvidence"
  | .notVerified => "NotVerified"
  | .invalidEvidence => "InvalidEvidence"

inductive StatusReason where
  | allRequirementsVerified | partialComposite | missingRequiredClaim | claimConditionFailed | staleObservation
  | contradictoryObservation | nonMintable | suggestedWeakerClaimAvailable | invalidWitness
  deriving DecidableEq, Repr

inductive RefusalKind where
  | consequenceClaim | futureStateClaim | selfAuditRefusal | outOfJurisdiction | aboveSubstrate | belowSubstrate
  | environmentalContext | absenceSemantics | compositionReEmission | kindSpecific
  deriving DecidableEq, Repr

structure ClaimRefusal where
  refusalKind : RefusalKind
  statement : String
  deriving DecidableEq, Repr

structure WitnessRef where
  witnessType : String
  digest : Option String
  observedAt : Option String
  custodyBasis : Option String
  deriving DecidableEq, Repr

/-- What a decision may depend on. -/
structure EvaluationView where
  claim : String
  subject : String
  status : Status
  statusReasons : List StatusReason
  cannotTestify : List ClaimRefusal
  witnesses : List WitnessRef
  contentHash : Option String
  deriving DecidableEq, Repr

/-! ## Receipts -/

structure EvaluatorBinding where
  evaluator : String
  version : Nat
  deriving DecidableEq, Repr

structure NotVerifiedEntry where
  claim : String
  reason : String
  detail : Option String
  deriving DecidableEq, Repr

structure PreflightTarget where
  host : String
  scope : String
  id : Option String
  deriving DecidableEq, Repr

/-- A JSON value, by its canonical text. -/
structure Value where
  text : String
  deriving DecidableEq, Repr

structure Receipt where
  schema : String
  claim : String
  subject : String
  target : Option PreflightTarget
  status : Status
  statusReasons : List StatusReason
  verified : List String
  notVerified : List NotVerifiedEntry
  suggestedWeakerClaims : List String
  supportedStatus : String
  cannotTestify : List ClaimRefusal
  witnesses : List WitnessRef
  observedAtMin : Option String
  observedAtMax : Option String
  generatedAt : String
  evaluator : Option EvaluatorBinding
  freshnessHorizon : Option String
  signals : Option Value
  contentHash : Option String
  deriving DecidableEq, Repr

def Receipt.evaluationView (r : Receipt) : EvaluationView :=
  ⟨r.claim, r.subject, r.status, r.statusReasons, r.cannotTestify, r.witnesses, r.contentHash⟩

/-- JCS of a receipt, and SHA-256. -/
structure Hashing where
  toVec : Receipt → Except String (List UInt8)
  sha256 : List UInt8 → Vector UInt8 32

section

variable (hashing : Hashing)

def Receipt.computeContentHash (r : Receipt) : Except String String :=
  match hashing.toVec { r with contentHash := none } with
  | .error e => .error ("JCS canonicalization failed: " ++ e)
  | .ok bytes => .ok (digestText (hashing.sha256 bytes))

def Receipt.seal (r : Receipt) (binding : EvaluatorBinding) : Except String Receipt := do
  let r := { r with evaluator := some binding }
  let hash ← r.computeContentHash hashing
  pure { r with contentHash := some hash }

/-- The hash a receipt declares is the one computed of it. -/
def Receipt.Genuine (r : Receipt) : Prop := ∃ hash, r.contentHash = some hash ∧ r.computeContentHash hashing = .ok hash

/-- The bodies of two receipts do not collide. -/
def Hashing.Apart (r r' : Receipt) : Prop :=
  ∀ hash, r.computeContentHash hashing = .ok hash → r'.computeContentHash hashing = .ok hash →
    { r with contentHash := none } = { r' with contentHash := none }

/-- A receipt with another date. -/
def Receipt.redated (r : Receipt) (text : String) : Receipt := { r with generatedAt := text }

/-- No receipt shares its hash with all its redatings. -/
def Hashing.Sensitive : Prop :=
  ∀ r : Receipt, ∃ text, (r.redated text).computeContentHash hashing ≠ r.computeContentHash hashing

end

/-! ## Serde forms -/

def Status.asStr : Status → String
  | .verified => "verified"
  | .partiallyVerified => "partially_verified"
  | .needsMoreEvidence => "needs_more_evidence"
  | .notVerified => "not_verified"
  | .invalidEvidence => "invalid_evidence"

def StatusReason.asStr : StatusReason → String
  | .allRequirementsVerified => "all_requirements_verified"
  | .partialComposite => "partial_composite"
  | .missingRequiredClaim => "missing_required_claim"
  | .claimConditionFailed => "claim_condition_failed"
  | .staleObservation => "stale_observation"
  | .contradictoryObservation => "contradictory_observation"
  | .nonMintable => "non_mintable"
  | .suggestedWeakerClaimAvailable => "suggested_weaker_claim_available"
  | .invalidWitness => "invalid_witness"

def RefusalKind.asStr : RefusalKind → String
  | .consequenceClaim => "consequence_claim"
  | .futureStateClaim => "future_state_claim"
  | .selfAuditRefusal => "self_audit_refusal"
  | .outOfJurisdiction => "out_of_jurisdiction"
  | .aboveSubstrate => "above_substrate"
  | .belowSubstrate => "below_substrate"
  | .environmentalContext => "environmental_context"
  | .absenceSemantics => "absence_semantics"
  | .compositionReEmission => "composition_re_emission"
  | .kindSpecific => "kind_specific"

def ClaimRefusal.toJcs (r : ClaimRefusal) : String :=
  object [("refusal_kind", some (quoted r.refusalKind.asStr)), ("statement", some (quoted r.statement))]

def WitnessRef.toJcs (w : WitnessRef) : String :=
  object [("witness_type", some (quoted w.witnessType)), ("digest", w.digest.map quoted),
    ("observed_at", w.observedAt.map quoted), ("custody_basis", w.custodyBasis.map quoted)]

def EvaluatorBinding.toJcs (b : EvaluatorBinding) : String :=
  object [("evaluator", some (quoted b.evaluator)), ("version", some (toString b.version))]

def NotVerifiedEntry.toJcs (e : NotVerifiedEntry) : String :=
  object [("claim", some (quoted e.claim)), ("reason", some (quoted e.reason)), ("detail", e.detail.map quoted)]

def PreflightTarget.toJcs (t : PreflightTarget) : String :=
  object [("host", some (quoted t.host)), ("scope", some (quoted t.scope)), ("id", t.id.map quoted)]

def Receipt.toJcs (r : Receipt) : String :=
  object [("schema", some (quoted r.schema)), ("claim", some (quoted r.claim)), ("subject", some (quoted r.subject)),
    ("target", r.target.map PreflightTarget.toJcs), ("status", some (quoted r.status.asStr)),
    ("status_reasons", some (array (r.statusReasons.map (quoted ·.asStr)))),
      ("verified", some (array (r.verified.map quoted))),
    ("not_verified", some (array (r.notVerified.map NotVerifiedEntry.toJcs))),
    ("suggested_weaker_claims", some (array (r.suggestedWeakerClaims.map quoted))),
    ("supported_status", some (quoted r.supportedStatus)),
    ("cannot_testify", some (array (r.cannotTestify.map ClaimRefusal.toJcs))),
    ("witnesses", some (array (r.witnesses.map WitnessRef.toJcs))), ("observed_at_min", r.observedAtMin.map quoted),
    ("observed_at_max", r.observedAtMax.map quoted), ("generated_at", some (quoted r.generatedAt)),
    ("evaluator", r.evaluator.map EvaluatorBinding.toJcs), ("freshness_horizon", r.freshnessHorizon.map quoted),
    ("signals", r.signals.map Value.text), ("content_hash", r.contentHash.map quoted)]

/-- The hashing of receipts, computed. -/
def jcsHashing : Hashing := ⟨fun r => .ok (Text.bytes r.toJcs), Text.sha256⟩

def selfHash : String := "sha256:1e4de67b31e106c92aa28cdfe65326111b56fdc2c61f6a186d16232cea913da5"

/-- A receipt of the evaluator on itself. -/
def selfReceipt : Receipt where
  schema := "nq.receipt.v1"
  claim := "nq_evaluator_state"
  subject := "host/nq_evaluator_state"
  target := none
  status := .verified
  statusReasons := []
  verified := []
  notVerified := []
  suggestedWeakerClaims := []
  supportedStatus := ""
  cannotTestify := [⟨.selfAuditRefusal, "nq_trustworthy: NQ refuses to be sole witness to NQ-self standing"⟩]
  witnesses := [⟨"nq_self", some "sha256:bb", some "2026-07-26T00:00:00Z", some "native_observation"⟩]
  observedAtMin := none
  observedAtMax := none
  generatedAt := "2026-07-26T00:00:00Z"
  evaluator := some ⟨"claim_registry", 1⟩
  freshnessHorizon := none
  signals := none
  contentHash := some selfHash

theorem selfReceipt_genuine : selfReceipt.Genuine jcsHashing :=
  ⟨selfHash, rfl, by decide +kernel⟩

/-! ## What a hash says -/

section

variable {hashing : Hashing} {r r' : Receipt}

theorem seal_genuine {binding : EvaluatorBinding} (h : r.seal hashing binding = .ok r') : r'.Genuine hashing := by
  unfold Receipt.seal at h
  rw [Sql.bind_ok] at h
  obtain ⟨hash, hh, e⟩ := h
  cases e
  exact ⟨hash, rfl, hh⟩

/-- Of receipts that do not collide, one is genuine under a declared hash. -/
theorem Receipt.Genuine.unique (h : r.Genuine hashing) (h' : r'.Genuine hashing)
    (hsame : r.contentHash = r'.contentHash)
    (hapart : hashing.Apart r r') : r = r' := by
  obtain ⟨hash, hdeclared, hcomputed⟩ := h
  obtain ⟨hash', hdeclared', hcomputed'⟩ := h'
  have hhash : hash = hash' := Option.some.inj (hdeclared ▸ hdeclared' ▸ hsame)
  have hbody := hapart hash hcomputed (hhash ▸ hcomputed')
  have hrestore : ∀ x : Receipt, { ({ x with contentHash := none } : Receipt) with contentHash := x.contentHash } = x :=
    fun _ => rfl
  rw [← hrestore r, ← hrestore r', hbody, hsame]

/-- The view leaves the date out. -/
theorem redated_view (r : Receipt) (text : String) : (r.redated text).evaluationView = r.evaluationView := rfl

/-- Under a sensitive hash some redating of a receipt is not genuine. -/
theorem redated_not_genuine (hsensitive : hashing.Sensitive) (r : Receipt) :
    ∃ r' : Receipt, r'.evaluationView = r.evaluationView ∧ ¬r'.Genuine hashing := by
  obtain ⟨text, hne⟩ := hsensitive r
  by_cases h : r.Genuine hashing
  · refine ⟨r.redated text, redated_view r text, fun h' => hne ?_⟩
    obtain ⟨hash, hdeclared, hcomputed⟩ := h
    obtain ⟨hash', hdeclared', hcomputed'⟩ := h'
    have hhash : hash = hash' := Option.some.inj (hdeclared.symm.trans hdeclared')
    rw [hcomputed, hcomputed', hhash]
  · exact ⟨r, rfl, h⟩

end

end Nq.Reliance
