/-
  Nq.Reliance.Decide — consumer-indexed reliance (`nq/src/reliance.rs`).

  May a consumer rely on an evaluation for a purpose? The conjuncts are checked in a row and
  the first that fails refuses; all of them together are `Authorizable`, and a decision
  authorizes exactly then (`evaluate_authorized`).

  None of them compares the claim of the request with the claim the receipt evaluated, so a
  consumer may be told to rely on a claim that nobody evaluated (`authorized_on_claim_iff`).
-/

import Nq.Reliance.Receipt

namespace Nq.Reliance

open Inquiry (digestText)
open Text (object array quoted)

/-! ## Profiles and requests -/

inductive CallerBinding where
  | configured | operatorSelected
  deriving DecidableEq, Repr

def CallerBinding.disclosure : CallerBinding → String
  | .configured => "consumer profile was selected from local configuration; " ++
      "this is not an authenticated consumer identity"
  | .operatorSelected => "consumer profile was selected by a local operator for this " ++
      "request; this is not an authenticated consumer identity"

inductive PremisePolicy where
  | requireAllEnforceable | allowQualified
  deriving DecidableEq, Repr

inductive ContradictionPolicy where
  | refuseOnRetained | allowWithDisclosure
  deriving DecidableEq, Repr

inductive ResidualPolicy where
  | refuseOnUnresolved | allowWithDisclosure
  deriving DecidableEq, Repr

structure ConsumerProfile where
  consumerProfileId : String
  allowedClaims : List String
  allowedPurposes : List String
  acceptedCustodyBases : List String
  maxEvidenceAgeS : Nat
  premisePolicy : PremisePolicy
  contradictionPolicy : ContradictionPolicy
  residualPolicy : ResidualPolicy
  requiredSupportingClaims : List String
  deriving DecidableEq, Repr

structure ProfileCatalog where
  schema : String
  policyVersion : String
  profiles : List ConsumerProfile
  deriving DecidableEq, Repr

def ProfileCatalog.get (c : ProfileCatalog) (id : String) : Option ConsumerProfile :=
  c.profiles.find? (·.consumerProfileId = id)

structure EvidenceContext where
  coverageLimits : List String := []
  premises : List String := []
  unenforceablePremises : List String := []
  unresolvedResiduals : List String := []
  retainedContradictions : List String := []
  evidenceAgeS : Option Nat := none
  supportingEvidenceAgeS : Option Nat := none
  deriving DecidableEq, Repr

structure RelianceRequest where
  schema : String
  consumerProfileId : String
  callerBinding : CallerBinding
  purpose : String
  claim : String
  receiptContentHash : String
  policyVersion : String
  requestId : String
  supportingReceiptHashes : List String
  deriving DecidableEq, Repr

inductive RelianceOutcome where
  | authorizedReliance | claimNotVerified | claimNonMintable | consumerUnknown | claimNotAuthorizedForConsumer
  | purposeNotAuthorized | coverageInsufficient | premiseNotAccepted | contradictionRetained | residualObligationBlocks
  | staleEvidence | cannotTestify | custodyBasisNotAccepted | malformedRequest
  deriving DecidableEq, Repr

def RelianceOutcome.isAuthorized (o : RelianceOutcome) : Bool := o = .authorizedReliance

structure SupportingRef where
  claim : String
  contentHash : String
  status : Status
  subject : String
  deriving DecidableEq, Repr

structure RelianceReceipt where
  schema : String
  decisionId : String
  requestDigest : String
  evidenceContextDigest : String
  consumerProfileId : String
  callerBinding : CallerBinding
  callerBindingDisclosure : String
  purpose : String
  claim : String
  receiptContentHash : String
  underlyingStatus : Status
  supportingReceipts : List SupportingRef
  witnesses : List WitnessRef
  premises : List String
  coverageLimits : List String
  unresolvedResiduals : List String
  retainedContradictions : List String
  decision : RelianceOutcome
  refusalReasons : List String
  establishes : List String
  doesNotEstablish : List String
  policyVersion : String
  generatedAt : String
  deriving DecidableEq, Repr

def relianceRequestSchema : String := "nq.reliance.request.v1"
def relianceReceiptSchema : String := "nq.reliance.receipt.v1"
def relianceProfilesSchema : String := "nq.reliance.profiles.v1"

/-- What comes from elsewhere: `{:?}` outside ASCII, JCS and SHA-256. -/
structure Env where
  escapeWide : Char → List Char
  sha256 : List UInt8 → Vector UInt8 32
  requestToVec : RelianceRequest → Except String (List UInt8)
  evidenceToVec : EvidenceContext → Except String (List UInt8)
  /-- JCS fails on no text and no integer. -/
  request_plain : ∀ r, ∃ bytes, requestToVec r = .ok bytes
  evidence_plain : ∀ e, ∃ bytes, evidenceToVec e = .ok bytes

/-! ## Serde forms -/

open List

def CallerBinding.asStr : CallerBinding → String
  | .configured => "configured"
  | .operatorSelected => "operator_selected"

def RelianceRequest.toJcs (r : RelianceRequest) : String :=
  object [("schema", some (quoted r.schema)), ("consumer_profile_id", some (quoted r.consumerProfileId)),
    ("caller_binding", some (quoted r.callerBinding.asStr)), ("purpose", some (quoted r.purpose)),
      ("claim", some (quoted r.claim)),
    ("receipt_content_hash", some (quoted r.receiptContentHash)), ("policy_version", some (quoted r.policyVersion)),
    ("request_id", some (quoted r.requestId)),
    ("supporting_receipt_hashes",
      if r.supportingReceiptHashes.isEmpty then none else some (array (r.supportingReceiptHashes.map quoted)))]

def EvidenceContext.toJcs (e : EvidenceContext) : String :=
  object [("coverage_limits", some (array (e.coverageLimits.map quoted))),
    ("premises", some (array (e.premises.map quoted))),
    ("unenforceable_premises", some (array (e.unenforceablePremises.map quoted))),
    ("unresolved_residuals", some (array (e.unresolvedResiduals.map quoted))),
    ("retained_contradictions", some (array (e.retainedContradictions.map quoted))),
    ("evidence_age_s", e.evidenceAgeS.map toString),
      ("supporting_evidence_age_s", e.supportingEvidenceAgeS.map toString)]

def PremisePolicy.asStr : PremisePolicy → String
  | .requireAllEnforceable => "require_all_enforceable"
  | .allowQualified => "allow_qualified"

def ContradictionPolicy.asStr : ContradictionPolicy → String
  | .refuseOnRetained => "refuse_on_retained"
  | .allowWithDisclosure => "allow_with_disclosure"

def ResidualPolicy.asStr : ResidualPolicy → String
  | .refuseOnUnresolved => "refuse_on_unresolved"
  | .allowWithDisclosure => "allow_with_disclosure"

def ConsumerProfile.toJcs (p : ConsumerProfile) : String :=
  object [("consumer_profile_id", some (quoted p.consumerProfileId)),
    ("allowed_claims", some (array (p.allowedClaims.map quoted))),
    ("allowed_purposes", some (array (p.allowedPurposes.map quoted))),
    ("accepted_custody_bases", some (array (p.acceptedCustodyBases.map quoted))),
    ("max_evidence_age_s", some (toString p.maxEvidenceAgeS)), ("premise_policy", some (quoted p.premisePolicy.asStr)),
    ("contradiction_policy", some (quoted p.contradictionPolicy.asStr)),
      ("residual_policy", some (quoted p.residualPolicy.asStr)),
    ("required_supporting_claims",
      if p.requiredSupportingClaims.isEmpty then none else some (array (p.requiredSupportingClaims.map quoted)))]

def ProfileCatalog.toJcs (c : ProfileCatalog) : String :=
  object [("schema", some (quoted c.schema)), ("policy_version", some (quoted c.policyVersion)),
    ("profiles", some (array (c.profiles.map ConsumerProfile.toJcs)))]

/-- The environment, computed. -/
def jcsEnv : Env where
  escapeWide := fun c => [c]
  sha256 := Text.sha256
  requestToVec := fun r => .ok (Text.bytes r.toJcs)
  evidenceToVec := fun e => .ok (Text.bytes e.toJcs)
  request_plain := fun _ => ⟨_, rfl⟩
  evidence_plain := fun _ => ⟨_, rfl⟩

def operatorReview : ConsumerProfile where
  consumerProfileId := "operator-review"
  allowedClaims := ["docket_attempt_settled", "docket_commitment_observed",
    "nq_evaluator_state", "nq_binary_mtime_state", "sqlite_wal_state"]
  allowedPurposes := ["review", "investigate"]
  acceptedCustodyBases := ["native_observation", "external_projection"]
  maxEvidenceAgeS := 86400
  premisePolicy := .allowQualified
  contradictionPolicy := .allowWithDisclosure
  residualPolicy := .allowWithDisclosure
  requiredSupportingClaims := []

def reviewCatalog : ProfileCatalog := ⟨relianceProfilesSchema, "v1", [operatorReview]⟩

/-- A review of `claim` on the receipt of a hash. -/
def reviewOf (claim hash : String) : RelianceRequest :=
  ⟨relianceRequestSchema, "operator-review", .configured, "review", claim, hash, "v1", "req-conformance", []⟩

/-! ## Conjuncts -/

/-- A refusal and its reason. -/
structure Refused where
  outcome : RelianceOutcome
  reason : String
  deriving DecidableEq, Repr

def refuseIf (bad : Bool) (outcome : RelianceOutcome) (reason : String) : Except Refused Unit :=
  if bad then .error ⟨outcome, reason⟩ else .ok ()

/-- A loop of checks; the first that refuses ends it. -/
def each {α : Type} (check : α → Except Refused Unit) : List α → Except Refused Unit
  | [] => .ok ()
  | a :: rest => do
    check a
    each check rest

section

variable (env : Env)

def debug (s : String) : String := Text.debug env.escapeWide s

/-- The catalog checks of `from_json_slice`, after decoding. -/
def ProfileCatalog.checked (c : ProfileCatalog) : Except String ProfileCatalog := do
  Collections.rejectIf (c.schema ≠ relianceProfilesSchema)
    ("unsupported catalog schema " ++ debug env c.schema ++ ", expected " ++ debug env relianceProfilesSchema)
  Collections.rejectIf (c.policyVersion = "") "catalog policy_version must not be empty"
  Collections.checkDistinct (fun _ => .ok ()) ConsumerProfile.consumerProfileId
    (fun p => "duplicate consumer profile " ++ debug env p.consumerProfileId) [] c.profiles
  pure c

/-- The substitution fence. -/
def fenceReceipt (request : RelianceRequest) (receipt : EvaluationView) : Except Refused Unit :=
  match receipt.contentHash with
  | some h => refuseIf (h ≠ request.receiptContentHash) .malformedRequest
      ("receipt content_hash " ++ debug env h ++ " does not match the requested " ++
        debug env request.receiptContentHash ++ "; " ++ "evidence substituted under an unchanged decision identity")
  | none => .error ⟨.malformedRequest, "receipt is unsealed (no content_hash); an unsealed receipt has " ++
      "no stable identity to rely on"⟩

def namedProfile (request : RelianceRequest) (catalog : ProfileCatalog) : Except Refused ConsumerProfile :=
  match catalog.get request.consumerProfileId with
  | some profile => .ok profile
  | none => .error ⟨.consumerUnknown, "no consumer profile " ++ debug env request.consumerProfileId ++
      " in policy version " ++ debug env catalog.policyVersion⟩

/-- What the profile permits of the request. -/
def admitRequest (request : RelianceRequest) (profile : ConsumerProfile) : Except Refused Unit := do
  refuseIf (request.claim ∉ profile.allowedClaims) .claimNotAuthorizedForConsumer
    ("profile " ++ debug env profile.consumerProfileId ++ " is not permitted to rely on claim " ++
      debug env request.claim)
  refuseIf (request.purpose ∉ profile.allowedPurposes) .purposeNotAuthorized
    ("profile " ++ debug env profile.consumerProfileId ++ " is not permitted the purpose " ++ debug env request.purpose)

def checkWitness (profile : ConsumerProfile) (w : WitnessRef) : Except Refused Unit :=
  let basis := w.custodyBasis.getD "undeclared"
  refuseIf (basis ∉ profile.acceptedCustodyBases) .custodyBasisNotAccepted
    ("witness custody basis " ++ debug env basis ++ " is outside profile " ++ debug env profile.consumerProfileId ++
      "'s " ++ "accepted bases")

/-- What the receipt itself must testify. -/
def admitReceipt (request : RelianceRequest) (receipt : EvaluationView)
    (evidence : EvidenceContext) (profile : ConsumerProfile) :
    Except Refused Unit := do
  refuseIf (receipt.cannotTestify.any (Text.contains ·.statement request.claim)) .cannotTestify
    ("the evaluator constitutionally declines to testify to " ++ debug env request.claim ++ "; " ++
      "inability is not authorization")
  refuseIf (.nonMintable ∈ receipt.statusReasons) .claimNonMintable
    ("claim " ++ debug env request.claim ++ " is non-mintable under current NQ law")
  refuseIf (receipt.status ≠ .verified) .claimNotVerified
    ("underlying evaluation status is " ++ receipt.status.debug ++ ", not verified; this is not " ++
      "permission to retry or proceed")
  refuseIf ((decide (.contradictoryObservation ∈ receipt.statusReasons) || !evidence.retainedContradictions.isEmpty) &&
      profile.contradictionPolicy = .refuseOnRetained) .contradictionRetained
    ("a retained contradiction in the source testimony defeats " ++
      "reliance under this profile's contradiction policy")
  each (checkWitness env profile) receipt.witnesses

/-- A supplied supporting receipt is sealed and listed. -/
def checkSupplied (request : RelianceRequest) (s : EvaluationView) : Except Refused Unit :=
  match s.contentHash with
  | none => .error ⟨.malformedRequest, "supporting receipt for claim " ++ debug env s.claim ++ " is unsealed (no " ++
      "content_hash); an unsealed evaluation has no stable " ++ "identity to support a decision"⟩
  | some h => refuseIf (h ∉ request.supportingReceiptHashes) .malformedRequest
      ("supporting receipt " ++ debug env h ++ " (claim " ++ debug env s.claim ++ ") is not bound by " ++
        "the request; evidence substituted under an unchanged " ++ "decision identity")

def checkListed (supporting : List EvaluationView) (bound : String) : Except Refused Unit :=
  refuseIf (!supporting.any (·.contentHash = some bound)) .malformedRequest
    ("the request binds supporting receipt " ++ debug env bound ++ " but no such " ++ "sealed evaluation was provided")

/-- A bound evaluation of a required claim. -/
def checkBound (profile : ConsumerProfile) (required : String) (s : EvaluationView) : Except Refused Unit := do
  refuseIf (s.cannotTestify.any (Text.contains ·.statement required)) .cannotTestify
    ("the evaluator constitutionally declines to testify to " ++ "the required supporting claim " ++
      debug env required ++ "; inability is " ++ "not authorization")
  refuseIf (.staleObservation ∈ s.statusReasons) .staleEvidence
    ("supporting evaluation of " ++ debug env required ++ " is marked stale")
  refuseIf (decide (.contradictoryObservation ∈ s.statusReasons) && profile.contradictionPolicy = .refuseOnRetained)
    .contradictionRetained
    ("supporting evaluation of " ++ debug env required ++ " retains a " ++
      "contradiction, which this profile's contradiction policy " ++ "refuses")
  refuseIf (s.status ≠ .verified) .coverageInsufficient
    ("required supporting claim " ++ debug env required ++ " is " ++ s.status.debug ++ ", not " ++
      "verified; a supporting refusal is not the negation of " ++
        "the original claim, and it does not permit reliance now")

/-- The evaluations of a required claim for the receipt's subject. -/
def boundTo (receipt : EvaluationView) (supporting : List EvaluationView) (required : String) : List EvaluationView :=
  supporting.filter fun s => s.claim = required && s.subject = receipt.subject

def checkRequired (receipt : EvaluationView) (supporting : List EvaluationView)
    (profile : ConsumerProfile) (required : String) :
    Except Refused Unit := do
  refuseIf (boundTo receipt supporting required).isEmpty .coverageInsufficient
    ("profile " ++ debug env profile.consumerProfileId ++ " requires a current supporting evaluation of " ++
      "claim " ++ debug env required ++ " for subject " ++ debug env receipt.subject ++ ", and none is bound; " ++
      "absence of supporting testimony is not evidence either way")
  each (checkBound env profile required) (boundTo receipt supporting required)

/-- The supporting evaluations: bound by the request, and those the profile requires. -/
def admitSupporting (request : RelianceRequest) (receipt : EvaluationView) (supporting : List EvaluationView)
    (evidence : EvidenceContext) (profile : ConsumerProfile) : Except Refused Unit := do
  each (checkSupplied env request) supporting
  each (checkListed env supporting) request.supportingReceiptHashes
  each (checkRequired env receipt supporting profile) profile.requiredSupportingClaims
  refuseIf (!profile.requiredSupportingClaims.isEmpty &&
    evidence.supportingEvidenceAgeS.any (· > profile.maxEvidenceAgeS))
    .staleEvidence
    ("supporting evidence is " ++ toString (evidence.supportingEvidenceAgeS.getD 0) ++ "s old, beyond profile " ++
      debug env profile.consumerProfileId ++ "'s " ++ "maximum of " ++ toString profile.maxEvidenceAgeS ++
      "s; a current requirement needs current " ++ "testimony")

/-- Premises, residuals and age. -/
def admitEvidence (receipt : EvaluationView) (evidence : EvidenceContext)
    (profile : ConsumerProfile) : Except Refused Unit := do
  refuseIf (profile.premisePolicy = .requireAllEnforceable &&
    !evidence.unenforceablePremises.isEmpty) .premiseNotAccepted
    (toString evidence.unenforceablePremises.length ++ " premise(s) are recorded but not enforceable as coverage " ++
      "limits, which this profile does not accept")
  refuseIf (!evidence.unresolvedResiduals.isEmpty && profile.residualPolicy =
    .refuseOnUnresolved) .residualObligationBlocks
    (toString evidence.unresolvedResiduals.length ++ " unresolved residual obligation(s) block reliance for this " ++
      "consumer and purpose")
  refuseIf (.staleObservation ∈ receipt.statusReasons) .staleEvidence "the evaluator marked the observation stale"
  refuseIf (evidence.evidenceAgeS.any (· > profile.maxEvidenceAgeS)) .staleEvidence
    ("evidence is " ++ toString (evidence.evidenceAgeS.getD 0) ++ "s old, beyond profile " ++
      debug env profile.consumerProfileId ++ "'s maximum of " ++ toString profile.maxEvidenceAgeS ++ "s")
  refuseIf (.missingRequiredClaim ∈ receipt.statusReasons) .coverageInsufficient
    "coverage is insufficient for the requested claim"

/-- The conjuncts in their order. -/
def conjuncts (request : RelianceRequest) (receipt : EvaluationView) (supporting : List EvaluationView)
    (evidence : EvidenceContext) (catalog : ProfileCatalog) : Except Refused Unit := do
  refuseIf (request.schema ≠ relianceRequestSchema) .malformedRequest
    ("unsupported request schema " ++ debug env request.schema ++ ", expected " ++ debug env relianceRequestSchema)
  fenceReceipt env request receipt
  let profile ← namedProfile env request catalog
  admitRequest env request profile
  admitReceipt env request receipt evidence profile
  admitSupporting env request receipt supporting evidence profile
  admitEvidence env receipt evidence profile

/-- The outcome and the reasons of a refusal. -/
def evaluate (request : RelianceRequest) (receipt : EvaluationView) (supporting : List EvaluationView)
    (evidence : EvidenceContext) (catalog : ProfileCatalog) : RelianceOutcome × List String :=
  match conjuncts env request receipt supporting evidence catalog with
  | .ok () => (.authorizedReliance, [])
  | .error r => (r.outcome, [r.reason])

/-! ## Decisions -/

def jcsDigest (bytes : Except String (List UInt8)) : Except String String :=
  match bytes with
  | .error e => .error ("JCS canonicalization failed: " ++ e)
  | .ok bytes => .ok (digestText (env.sha256 bytes))

def RelianceRequest.digest (r : RelianceRequest) : Except String String := jcsDigest env (env.requestToVec r)

def EvidenceContext.digest (e : EvidenceContext) : Except String String := jcsDigest env (env.evidenceToVec e)

def mandatoryDoesNotEstablish : List String :=
  ["this decision grants no execution authority",
    "this decision is operational evidence, not sealed custody",
    "this decision names no action and licenses no retry, clearing, or escalation",
    "a reliance refusal is not a refutation of the underlying claim"]

def doesNotEstablish (evidence : EvidenceContext) : List String :=
  mandatoryDoesNotEstablish ++
  (if evidence.unresolvedResiduals.isEmpty then [] else
    ["residual obligations recorded here remain undischarged; this " ++ "decision discharges none of them"]) ++
  (if evidence.retainedContradictions.isEmpty then [] else
    ["a retained contradiction in the source testimony is preserved " ++ "here and is not resolved by this decision"])

/-- `decide`, over any kind of receipt that can be viewed. -/
def decideReliance {R : Type} (evaluationView : R → EvaluationView) (request : RelianceRequest) (receipt : R)
    (supporting : List R) (evidence : EvidenceContext) (catalog : ProfileCatalog) (generatedAt : String) :
    Except String RelianceReceipt := do
  let receipt := evaluationView receipt
  let supporting := supporting.map evaluationView
  let requestDigest ← request.digest env
  let evidenceContextDigest ← evidence.digest env
  let (outcome, refusals) := evaluate env request receipt supporting evidence catalog
  pure {
    schema := relianceReceiptSchema
    decisionId := requestDigest
    requestDigest
    evidenceContextDigest
    consumerProfileId := request.consumerProfileId
    callerBinding := request.callerBinding
    callerBindingDisclosure := request.callerBinding.disclosure
    purpose := request.purpose
    claim := request.claim
    receiptContentHash := request.receiptContentHash
    underlyingStatus := receipt.status
    supportingReceipts := supporting.map fun s => ⟨s.claim, s.contentHash.getD "", s.status, s.subject⟩
    witnesses := receipt.witnesses
    premises := evidence.premises
    coverageLimits := evidence.coverageLimits
    unresolvedResiduals := evidence.unresolvedResiduals
    retainedContradictions := evidence.retainedContradictions
    decision := outcome
    refusalReasons := refusals
    establishes := if outcome.isAuthorized then
      ["consumer profile " ++ debug env request.consumerProfileId ++ " may rely on claim " ++ debug env request.claim ++
        " for purpose " ++ debug env request.purpose ++ ", " ++
          "under the coverage limits and premises recorded here"] else []
    doesNotEstablish := doesNotEstablish evidence
    policyVersion := catalog.policyVersion
    generatedAt }

end

/-! ## What passes -/

section

variable {env : Env} {α β : Type}
  {bad : Bool} {outcome : RelianceOutcome} {u : Unit} {check : α → Except Refused Unit} {required : String}
  {s : EvaluationView} {c : ProfileCatalog}

@[simp] theorem refuseIf_ok {reason : String} : refuseIf bad outcome reason = .ok u ↔ bad = false := by
  cases bad <;> simp [refuseIf]

theorem each_ok : ∀ {l : List α} {u : Unit}, each check l = .ok u ↔ ∀ a ∈ l, check a = .ok () := by
  intro l
  induction l with
  | nil =>
    intro u
    simp [each]
  | cons a rest ih =>
    intro u
    unfold each
    rw [Collections.check_ok, ih, forall_mem_cons]

/-- A refusal with any outcome but the authorizing one. -/
def Refusing (x : Except Refused α) : Prop := ∀ r, x = .error r → r.outcome ≠ .authorizedReliance

theorem refusing_ok (a : α) : Refusing (.ok a : Except Refused α) := fun _ h => nomatch h

theorem refusing_error (h : outcome ≠ .authorizedReliance) (reason : String) :
    Refusing (.error ⟨outcome, reason⟩ : Except Refused α) := fun r hr => by
  cases hr
  exact h

theorem refusing_if (h : outcome ≠ .authorizedReliance) (reason : String) : Refusing (refuseIf bad outcome reason) := by
  unfold refuseIf
  cases bad with
  | false => exact refusing_ok ()
  | true => exact refusing_error h reason

theorem refusing_bind {x : Except Refused α} {f : α → Except Refused β} (hx : Refusing x) (hf : ∀ a, Refusing (f a)) :
    Refusing (x >>= f) := by
  cases x with
  | error r => exact fun r' h => hx r' (by cases h; rfl)
  | ok a => exact hf a

theorem refusing_each (h : ∀ a, Refusing (check a)) (l : List α) : Refusing (each check l) := by
  induction l with
  | nil => exact refusing_ok ()
  | cons a rest ih => exact refusing_bind (h a) fun _ => ih

theorem refusing_conjuncts (request : RelianceRequest) (receipt : EvaluationView) (supporting : List EvaluationView)
    (evidence : EvidenceContext)
    (catalog : ProfileCatalog) : Refusing (conjuncts env request receipt supporting evidence catalog) := by
  have hwitness : ∀ profile w, Refusing (checkWitness env profile w) := fun _ _ => refusing_if (by decide) _
  have hlisted : ∀ bound, Refusing (checkListed env supporting bound) := fun _ => refusing_if (by decide) _
  have hsupplied : ∀ s, Refusing (checkSupplied env request s) := by
    intro s
    unfold checkSupplied
    split
    · exact refusing_error (by decide) _
    · exact refusing_if (by decide) _
  have hbound : ∀ profile required s, Refusing (checkBound env profile required s) := by
    intro profile required s
    refine refusing_bind (refusing_if (by decide) _) fun _ => ?_
    refine refusing_bind (refusing_if (by decide) _) fun _ => ?_
    exact refusing_bind (refusing_if (by decide) _) fun _ => refusing_if (by decide) _
  have hrequired : ∀ profile required, Refusing (checkRequired env receipt supporting profile required) :=
    fun profile required =>
    refusing_bind (refusing_if (by decide) _) fun _ => refusing_each (hbound profile required) _
  refine refusing_bind (refusing_if (by decide) _) fun _ => refusing_bind ?_ fun _ => refusing_bind ?_ fun profile => ?_
  · unfold fenceReceipt
    split
    · exact refusing_if (by decide) _
    · exact refusing_error (by decide) _
  · unfold namedProfile
    split
    · exact refusing_ok _
    · exact refusing_error (by decide) _
  refine refusing_bind (refusing_bind (refusing_if (by decide) _) fun _ => refusing_if (by decide) _) fun _ =>
    refusing_bind ?_ fun _ => refusing_bind ?_ fun _ => ?_
  · refine refusing_bind (refusing_if (by decide) _) fun _ => refusing_bind (refusing_if (by decide) _) fun _ => ?_
    refine refusing_bind (refusing_if (by decide) _) fun _ => refusing_bind (refusing_if (by decide) _) fun _ => ?_
    exact refusing_each (hwitness profile) _
  · refine refusing_bind (refusing_each hsupplied _) fun _ => refusing_bind (refusing_each hlisted _) fun _ => ?_
    exact refusing_bind (refusing_each (hrequired profile) _) fun _ => refusing_if (by decide) _
  · refine refusing_bind (refusing_if (by decide) _) fun _ => refusing_bind (refusing_if (by decide) _) fun _ => ?_
    refine refusing_bind (refusing_if (by decide) _) fun _ => refusing_bind (refusing_if (by decide) _) fun _ => ?_
    exact refusing_if (by decide) _

variable {request : RelianceRequest} {receipt : EvaluationView}
  {supporting : List EvaluationView} {evidence : EvidenceContext}
  {catalog : ProfileCatalog} {profile : ConsumerProfile}

/-- A bound evaluation that supports a required claim. -/
structure Supports (profile : ConsumerProfile) (required : String) (s : EvaluationView) : Prop where
  testifies : ∀ r ∈ s.cannotTestify, Text.contains r.statement required = false
  fresh : .staleObservation ∉ s.statusReasons
  contradiction : profile.contradictionPolicy = .refuseOnRetained → .contradictoryObservation ∉ s.statusReasons
  verified : s.status = .verified

theorem checkBound_ok : checkBound env profile required s = .ok u ↔ Supports profile required s := by
  unfold checkBound
  simp only [Sql.bind_ok, exists_const, refuseIf_ok, any_eq_false, Bool.not_eq_true, decide_eq_false_iff_not, ne_eq,
    not_not, Bool.and_eq_false_imp, decide_eq_true_eq]
  constructor
  · intro h
    obtain ⟨h₁, h₂, h₃, h₄⟩ := h
    exact ⟨h₁, h₂, fun hp hr => h₃ hr hp, h₄⟩
  · intro h
    exact ⟨h.testifies, h.fresh, fun hr hp => h.contradiction hp hr, h.verified⟩

/-- A required claim is evaluated for the subject, and each evaluation supports it. -/
structure Required (subject : String) (supporting : List EvaluationView)
    (profile : ConsumerProfile) (required : String) :
    Prop where
  bound : ∃ s ∈ supporting, s.claim = required ∧ s.subject = subject
  each : ∀ s ∈ supporting, s.claim = required → s.subject = subject → Supports profile required s

theorem checkRequired_ok :
    checkRequired env receipt supporting profile required = .ok u ↔
      Required receipt.subject supporting profile required := by
  have hmem : ∀ s, s ∈ boundTo receipt supporting required ↔
      s ∈ supporting ∧ s.claim = required ∧ s.subject = receipt.subject := by
    intro s
    unfold boundTo
    simp only [mem_filter, Bool.and_eq_true, decide_eq_true_eq]
  unfold checkRequired
  simp only [Sql.bind_ok, exists_const, refuseIf_ok, each_ok, checkBound_ok, hmem]
  rw [isEmpty_eq_false_iff_exists_mem]
  simp only [hmem]
  constructor
  · intro h
    exact ⟨h.1, fun s hs hc hsub => h.2 s ⟨hs, hc, hsub⟩⟩
  · intro h
    exact ⟨h.bound, fun s hs => h.each s hs.1 hs.2.1 hs.2.2⟩

/-- Everything a decision to authorize rests on. -/
structure Authorizable (request : RelianceRequest) (receipt : EvaluationView) (supporting : List EvaluationView)
    (evidence : EvidenceContext) (catalog : ProfileCatalog) (profile : ConsumerProfile) : Prop where
  schema : request.schema = relianceRequestSchema
  fence : receipt.contentHash = some request.receiptContentHash
  named : catalog.get request.consumerProfileId = some profile
  claim : request.claim ∈ profile.allowedClaims
  purpose : request.purpose ∈ profile.allowedPurposes
  testifies : ∀ r ∈ receipt.cannotTestify, Text.contains r.statement request.claim = false
  mintable : .nonMintable ∉ receipt.statusReasons
  verified : receipt.status = .verified
  contradiction : profile.contradictionPolicy = .refuseOnRetained →
    .contradictoryObservation ∉ receipt.statusReasons ∧ evidence.retainedContradictions = []
  custody : ∀ w ∈ receipt.witnesses, w.custodyBasis.getD "undeclared" ∈ profile.acceptedCustodyBases
  supplied : ∀ s ∈ supporting, ∃ h ∈ request.supportingReceiptHashes, s.contentHash = some h
  listed : ∀ h ∈ request.supportingReceiptHashes, ∃ s ∈ supporting, s.contentHash = some h
  required : ∀ c ∈ profile.requiredSupportingClaims, Required receipt.subject supporting profile c
  supportingAge : profile.requiredSupportingClaims ≠ [] →
    ∀ age ∈ evidence.supportingEvidenceAgeS, age ≤ profile.maxEvidenceAgeS
  premises : profile.premisePolicy = .requireAllEnforceable → evidence.unenforceablePremises = []
  residuals : profile.residualPolicy = .refuseOnUnresolved → evidence.unresolvedResiduals = []
  fresh : .staleObservation ∉ receipt.statusReasons
  age : ∀ age ∈ evidence.evidenceAgeS, age ≤ profile.maxEvidenceAgeS
  covered : .missingRequiredClaim ∉ receipt.statusReasons

theorem fenceReceipt_ok :
    fenceReceipt env request receipt = .ok u ↔ receipt.contentHash = some request.receiptContentHash := by
  unfold fenceReceipt
  cases receipt.contentHash <;> simp

theorem namedProfile_ok : namedProfile env request catalog = .ok profile ↔
    catalog.get request.consumerProfileId = some profile := by
  unfold namedProfile
  cases catalog.get request.consumerProfileId <;> simp

theorem checkSupplied_ok :
    checkSupplied env request s = .ok u ↔ ∃ h ∈ request.supportingReceiptHashes, s.contentHash = some h := by
  unfold checkSupplied
  cases s.contentHash <;> simp

theorem any_older {limit : Nat} {age : Option Nat} : age.any (· > limit) = false ↔ ∀ a ∈ age, a ≤ limit := by
  cases age <;> simp

variable (env) in
theorem conjuncts_ok (u : Unit) : conjuncts env request receipt supporting evidence catalog = .ok u ↔
    ∃ profile, Authorizable request receipt supporting evidence catalog profile := by
  unfold conjuncts admitRequest admitReceipt admitSupporting admitEvidence checkWitness checkListed
  simp only [Sql.bind_ok, exists_const, refuseIf_ok, fenceReceipt_ok,
    namedProfile_ok, each_ok, checkSupplied_ok, checkRequired_ok,
    any_older, any_eq_false, any_eq_true, Bool.not_eq_true, Bool.not_eq_false',
      decide_eq_false_iff_not, decide_eq_true_eq,
    ne_eq, not_not, Bool.and_eq_false_imp, Bool.not_eq_true', isEmpty_eq_false_iff, List.isEmpty_iff, and_assoc]
  have hcontradiction : ∀ p : ConsumerProfile,
      ((decide (.contradictoryObservation ∈ receipt.statusReasons) || !evidence.retainedContradictions.isEmpty) = true →
        ¬p.contradictionPolicy = .refuseOnRetained) ↔ (p.contradictionPolicy = .refuseOnRetained →
          .contradictoryObservation ∉ receipt.statusReasons ∧ evidence.retainedContradictions = []) := by
    intro p
    rw [imp_not_comm, Bool.not_eq_true, Bool.or_eq_false_iff, decide_eq_false_iff_not, Bool.not_eq_false',
      List.isEmpty_iff]
  constructor
  · intro h
    obtain ⟨h₁, h₂, p, h₃, h₄, h₅, h₆, h₇, h₈, h₉, h₁₀, h₁₁, h₁₂, h₁₃, h₁₄, h₁₅, h₁₆, h₁₇, h₁₈, h₁₉⟩ := h
    exact ⟨p, h₁, h₂, h₃, h₄, h₅, h₆, h₇, h₈, (hcontradiction p).mp h₉, h₁₀, h₁₁, h₁₂, h₁₃, h₁₄, h₁₅,
      fun hp => not_not.mp fun hne => h₁₆ hne hp, h₁₇, h₁₈, h₁₉⟩
  · intro h
    obtain ⟨p, h⟩ := h
    exact ⟨h.schema, h.fence, p, h.named, h.claim, h.purpose, h.testifies, h.mintable, h.verified,
      (hcontradiction p).mpr h.contradiction, h.custody, h.supplied, h.listed, h.required, h.supportingAge, h.premises,
      fun hne hp => hne (h.residuals hp), h.fresh, h.age, h.covered⟩

variable (env) in
theorem evaluate_authorized : (evaluate env request receipt supporting evidence catalog).1 = .authorizedReliance ↔
    ∃ profile, Authorizable request receipt supporting evidence catalog profile := by
  rw [← conjuncts_ok env ()]
  unfold evaluate
  cases h : conjuncts env request receipt supporting evidence catalog with
  | ok u => simp
  | error r =>
    have hr := refusing_conjuncts request receipt supporting evidence catalog r h
    simp [hr]

/-! ## Decisions that authorize -/

variable {R : Type} {evaluationView : R → EvaluationView} {artifact : R} {supplied : List R} {generatedAt : String}

theorem jcsDigest_ok {bytes : Except String (List UInt8)}
    (h : ∃ b, bytes = .ok b) : ∃ d, jcsDigest env bytes = .ok d := by
  obtain ⟨b, e⟩ := h
  exact ⟨_, by rw [e]; rfl⟩

/-- A decision is always reached; it authorizes exactly what is authorizable. -/
theorem decideReliance_authorized :
    (∃ d, decideReliance env evaluationView request artifact supplied evidence catalog generatedAt = .ok d ∧
      d.decision = .authorizedReliance) ↔
    ∃ profile, Authorizable request (evaluationView artifact)
      (supplied.map evaluationView) evidence catalog profile := by
  obtain ⟨requestDigest, hrequest⟩ := jcsDigest_ok (env.request_plain request)
  obtain ⟨evidenceDigest, hevidence⟩ := jcsDigest_ok (env.evidence_plain evidence)
  rw [← evaluate_authorized env]
  unfold decideReliance RelianceRequest.digest EvidenceContext.digest
  dsimp only
  rw [hrequest, hevidence]
  simp [bind, Except.bind, pure, Except.pure]

/-- An identifier that names one profile. -/
def ProfileCatalog.NamesOne (c : ProfileCatalog) (id : String) : Prop :=
  ∀ p ∈ c.profiles, ∀ q ∈ c.profiles, p.consumerProfileId = id → q.consumerProfileId = id → p = q

theorem ProfileCatalog.checked_namesOne {c' : ProfileCatalog} (h : c.checked env = .ok c') (id : String) :
    c'.NamesOne id := by
  unfold ProfileCatalog.checked at h
  simp only [Sql.bind_ok, exists_const, Collections.rejectIf_ok, Collections.checkDistinct_ok] at h
  obtain ⟨_, _, ⟨_, hnodup⟩, e⟩ := h
  cases e
  intro p hp q hq hpid hqid
  exact inj_on_of_nodup_map hnodup hp hq (hpid.trans hqid.symm)

theorem ProfileCatalog.get_eq_some {id : String} (h : c.get id = some profile) :
    profile ∈ c.profiles ∧ profile.consumerProfileId = id :=
  ⟨mem_of_find?_eq_some h, by simpa using find?_some h⟩

/-- What an authorization should rest on. -/
structure Justified (request : RelianceRequest) (receipt : EvaluationView) (supporting : List EvaluationView)
    (catalog : ProfileCatalog) : Prop where
  claim : receipt.claim = request.claim
  verified : receipt.status = .verified ∧ .nonMintable ∉ receipt.statusReasons
  profile : ∃ p ∈ catalog.profiles, p.consumerProfileId = request.consumerProfileId ∧
    (∀ q ∈ catalog.profiles, q.consumerProfileId = request.consumerProfileId → q = p) ∧
    request.claim ∈ p.allowedClaims ∧ request.purpose ∈ p.allowedPurposes ∧
    (∀ w ∈ receipt.witnesses, w.custodyBasis.getD "undeclared" ∈ p.acceptedCustodyBases) ∧
    ∀ c ∈ p.requiredSupportingClaims,
      (∃ s ∈ supporting, s.claim = c ∧ s.subject = receipt.subject ∧ s.status = .verified ∧
        .staleObservation ∉ s.statusReasons) ∧
      ∀ s ∈ supporting, s.claim = c → s.subject = receipt.subject →
        s.status = .verified ∧ .staleObservation ∉ s.statusReasons
  supplied : ∀ s ∈ supporting, ∃ h ∈ request.supportingReceiptHashes, s.contentHash = some h

theorem Authorizable.justified_iff (h : Authorizable request receipt supporting evidence catalog profile) :
    Justified request receipt supporting catalog ↔
      receipt.claim = request.claim ∧ catalog.NamesOne request.consumerProfileId := by
  obtain ⟨hmem, hid⟩ := ProfileCatalog.get_eq_some h.named
  constructor
  · intro hj
    obtain ⟨p, _, _, hone, _⟩ := hj.profile
    exact ⟨hj.claim, fun a ha b hb hida hidb => (hone a ha hida).trans (hone b hb hidb).symm⟩
  · intro hc
    obtain ⟨hclaim, hone⟩ := hc
    refine ⟨hclaim, ⟨h.verified, h.mintable⟩, ⟨profile, hmem, hid, fun q hq hqid => hone q hq profile hmem hqid hid,
      h.claim, h.purpose, h.custody, fun c hc => ?_⟩, h.supplied⟩
    have hrequired := h.required c hc
    obtain ⟨s, hs, hsc, hsub⟩ := hrequired.bound
    have hsupports := hrequired.each s hs hsc hsub
    exact ⟨⟨s, hs, hsc, hsub, hsupports.verified, hsupports.fresh⟩,
      fun s' hs' hsc' hsub' => ⟨(hrequired.each s' hs' hsc' hsub').verified, (hrequired.each s' hs' hsc' hsub').fresh⟩⟩

/-- Where a decision authorizes, it is justified exactly when the receipt evaluates the
    requested claim and the request names one profile, as it does in any loaded catalog. -/
theorem authorized_on_claim_iff (env : Env) {R : Type} (evaluationView : R → EvaluationView) (request : RelianceRequest)
    (receipt : R) (supporting : List R) (evidence : EvidenceContext) (catalog : ProfileCatalog) (generatedAt : String) :
    ((∀ d, decideReliance env evaluationView request receipt supporting evidence catalog generatedAt = .ok d →
        d.decision = .authorizedReliance →
          Justified request (evaluationView receipt) (supporting.map evaluationView) catalog) ↔
      ∀ profile, Authorizable request (evaluationView receipt) (supporting.map evaluationView) evidence catalog
        profile → (evaluationView receipt).claim = request.claim ∧ catalog.NamesOne request.consumerProfileId) ∧
    ∀ loaded, catalog.checked env = .ok loaded → loaded = catalog ∧ catalog.NamesOne request.consumerProfileId := by
  refine ⟨⟨fun h profile ha => ?_, fun h d hd hauthorized => ?_⟩, fun loaded hloaded => ?_⟩
  · obtain ⟨d, hd, hauthorized⟩ := decideReliance_authorized.mpr ⟨profile, ha⟩
    exact ha.justified_iff.mp (h d hd hauthorized)
  · obtain ⟨profile, ha⟩ := decideReliance_authorized.mp ⟨d, hd, hauthorized⟩
    exact ha.justified_iff.mpr (h profile ha)
  · have hone := ProfileCatalog.checked_namesOne hloaded request.consumerProfileId
    have e : loaded = catalog := by
      unfold ProfileCatalog.checked at hloaded
      simp only [Sql.bind_ok] at hloaded
      obtain ⟨_, _, _, _, _, _, e⟩ := hloaded
      exact (Except.ok.inj e).symm
    exact ⟨e, e ▸ hone⟩

end

/-- The self receipt authorizes a review of any allowed claim it does not decline, its own or another. -/
theorem selfReceipt_authorized {claim : String} (hclaim : claim ∈ operatorReview.allowedClaims)
    (htestifies : ∀ r ∈ selfReceipt.cannotTestify, Text.contains r.statement claim = false) : ∃ d,
    decideReliance jcsEnv Receipt.evaluationView (reviewOf claim selfHash) selfReceipt [] {} reviewCatalog
      "2026-07-26T00:00:00Z" = .ok d ∧ d.decision = .authorizedReliance := by
  rw [decideReliance_authorized]
  exact ⟨operatorReview, {
    schema := rfl
    fence := rfl
    named := rfl
    claim := hclaim
    purpose := mem_cons_self
    testifies := htestifies
    mintable := by decide
    verified := rfl
    contradiction := by decide
    custody := by decide
    supplied := fun _ h => (nomatch h)
    listed := fun _ h => (nomatch h)
    required := fun _ h => (nomatch h)
    supportingAge := fun h => absurd rfl h
    premises := by decide
    residuals := by decide
    fresh := by decide
    age := by decide
    covered := by decide }⟩

theorem a_review_of_another_claim_is_authorized : ∃ d,
    decideReliance jcsEnv Receipt.evaluationView (reviewOf "sqlite_wal_state" selfHash) selfReceipt [] {} reviewCatalog
      "2026-07-26T00:00:00Z" = .ok d ∧
    d.decision = .authorizedReliance ∧ selfReceipt.claim = "nq_evaluator_state" ∧
    ¬Justified (reviewOf "sqlite_wal_state" selfHash) selfReceipt.evaluationView [] reviewCatalog := by
  obtain ⟨d, hd, hauthorized⟩ :=
    selfReceipt_authorized (show "sqlite_wal_state" ∈ operatorReview.allowedClaims by decide)
    (by decide +kernel)
  exact ⟨d, hd, hauthorized, rfl, fun hj => absurd hj.claim (by decide)⟩

theorem a_review_of_the_evaluated_claim_is_justified : ∃ d,
    decideReliance jcsEnv Receipt.evaluationView (reviewOf "nq_evaluator_state" selfHash)
      selfReceipt [] {} reviewCatalog
      "2026-07-26T00:00:00Z" = .ok d ∧
    d.decision = .authorizedReliance ∧
    Justified (reviewOf "nq_evaluator_state" selfHash) selfReceipt.evaluationView [] reviewCatalog := by
  obtain ⟨d, hd, hauthorized⟩ :=
    selfReceipt_authorized (show "nq_evaluator_state" ∈ operatorReview.allowedClaims by decide)
    (by decide +kernel)
  have hiff := authorized_on_claim_iff jcsEnv Receipt.evaluationView
    (reviewOf "nq_evaluator_state" selfHash) selfReceipt [] {}
    reviewCatalog "2026-07-26T00:00:00Z"
  have hloaded := hiff.2 reviewCatalog (by decide +kernel)
  exact ⟨d, hd, hauthorized, hiff.1.mpr (fun _ _ => ⟨rfl, hloaded.2⟩) d hd hauthorized⟩

end Nq.Reliance
