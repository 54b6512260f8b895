/-
  Nq.Reliance.Reasons — what a refusal discloses (`nq/src/reliance.rs`).

  `everyRefusal` is what `decide` says of its conjuncts: each is evaluated, one for every
  pass of a loop, and each that fails is kept with its reason. `evaluate` returns at the
  first of them (`conjuncts_firstOf`), so a refusal discloses that one alone: it discloses
  every reason exactly where the conjuncts that fail give no two
  (`discloses_iff_one_reason`).
-/

import Nq.Reliance.Decide

namespace Nq.Reliance

open List

/-! ## Every conjunct -/

section

variable (env : Env)

/-- The refusal of a check that fails. -/
def refusalOf (x : Except Refused Unit) : List Refused :=
  match x with
  | .ok () => []
  | .error r => [r]

def refusedIf (bad : Bool) (outcome : RelianceOutcome) (reason : String) : List Refused :=
  refusalOf (refuseIf bad outcome reason)

def requestRefusals (request : RelianceRequest) (profile : ConsumerProfile) : List Refused :=
  refusedIf (request.claim ∉ profile.allowedClaims) .claimNotAuthorizedForConsumer
    ("profile " ++ debug env profile.consumerProfileId ++ " is not permitted to rely on claim " ++
      debug env request.claim) ++
  refusedIf (request.purpose ∉ profile.allowedPurposes) .purposeNotAuthorized
    ("profile " ++ debug env profile.consumerProfileId ++ " is not permitted the purpose " ++ debug env request.purpose)

def receiptRefusals (request : RelianceRequest) (receipt : EvaluationView) (evidence : EvidenceContext)
    (profile : ConsumerProfile) :
    List Refused :=
  refusedIf (receipt.cannotTestify.any (Text.contains ·.statement request.claim)) .cannotTestify
    ("the evaluator constitutionally declines to testify to " ++ debug env request.claim ++ "; " ++
      "inability is not authorization") ++
  refusedIf (.nonMintable ∈ receipt.statusReasons) .claimNonMintable
    ("claim " ++ debug env request.claim ++ " is non-mintable under current NQ law") ++
  refusedIf (receipt.status ≠ .verified) .claimNotVerified
    ("underlying evaluation status is " ++ receipt.status.debug ++ ", not verified; this is not " ++
      "permission to retry or proceed") ++
  refusedIf ((decide (.contradictoryObservation ∈ receipt.statusReasons) || !evidence.retainedContradictions.isEmpty) &&
      profile.contradictionPolicy = .refuseOnRetained) .contradictionRetained
    ("a retained contradiction in the source testimony defeats " ++
      "reliance under this profile's contradiction policy") ++
  receipt.witnesses.flatMap fun w => refusalOf (checkWitness env profile w)

def boundRefusals (profile : ConsumerProfile) (required : String) (s : EvaluationView) : List Refused :=
  refusedIf (s.cannotTestify.any (Text.contains ·.statement required)) .cannotTestify
    ("the evaluator constitutionally declines to testify to " ++ "the required supporting claim " ++
      debug env required ++ "; inability is " ++ "not authorization") ++
  refusedIf (.staleObservation ∈ s.statusReasons) .staleEvidence
    ("supporting evaluation of " ++ debug env required ++ " is marked stale") ++
  refusedIf (decide (.contradictoryObservation ∈ s.statusReasons) && profile.contradictionPolicy = .refuseOnRetained)
    .contradictionRetained
    ("supporting evaluation of " ++ debug env required ++ " retains a " ++
      "contradiction, which this profile's contradiction policy " ++ "refuses") ++
  refusedIf (s.status ≠ .verified) .coverageInsufficient
    ("required supporting claim " ++ debug env required ++ " is " ++ s.status.debug ++ ", not " ++
      "verified; a supporting refusal is not the negation of " ++
        "the original claim, and it does not permit reliance now")

def requiredRefusals (receipt : EvaluationView) (supporting : List EvaluationView) (profile : ConsumerProfile)
    (required : String) :
    List Refused :=
  refusedIf (boundTo receipt supporting required).isEmpty .coverageInsufficient
    ("profile " ++ debug env profile.consumerProfileId ++ " requires a current supporting evaluation of " ++
      "claim " ++ debug env required ++ " for subject " ++ debug env receipt.subject ++ ", and none is bound; " ++
      "absence of supporting testimony is not evidence either way") ++
  (boundTo receipt supporting required).flatMap (boundRefusals env profile required)

def supportingRefusals (request : RelianceRequest) (receipt : EvaluationView) (supporting : List EvaluationView)
    (evidence : EvidenceContext) (profile : ConsumerProfile) : List Refused :=
  (supporting.flatMap fun s => refusalOf (checkSupplied env request s)) ++
  (request.supportingReceiptHashes.flatMap fun h => refusalOf (checkListed env supporting h)) ++
  profile.requiredSupportingClaims.flatMap (requiredRefusals env receipt supporting profile) ++
  refusedIf (!profile.requiredSupportingClaims.isEmpty &&
    evidence.supportingEvidenceAgeS.any (· > profile.maxEvidenceAgeS))
    .staleEvidence
    ("supporting evidence is " ++ toString (evidence.supportingEvidenceAgeS.getD 0) ++ "s old, beyond profile " ++
      debug env profile.consumerProfileId ++ "'s " ++ "maximum of " ++ toString profile.maxEvidenceAgeS ++
      "s; a current requirement needs current " ++ "testimony")

def evidenceRefusals (receipt : EvaluationView) (evidence : EvidenceContext)
    (profile : ConsumerProfile) : List Refused :=
  refusedIf (profile.premisePolicy = .requireAllEnforceable &&
    !evidence.unenforceablePremises.isEmpty) .premiseNotAccepted
    (toString evidence.unenforceablePremises.length ++ " premise(s) are recorded but not enforceable as coverage " ++
      "limits, which this profile does not accept") ++
  refusedIf (!evidence.unresolvedResiduals.isEmpty && profile.residualPolicy =
    .refuseOnUnresolved) .residualObligationBlocks
    (toString evidence.unresolvedResiduals.length ++ " unresolved residual obligation(s) block reliance for this " ++
      "consumer and purpose") ++
  refusedIf (.staleObservation ∈ receipt.statusReasons) .staleEvidence "the evaluator marked the observation stale" ++
  refusedIf (evidence.evidenceAgeS.any (· > profile.maxEvidenceAgeS)) .staleEvidence
    ("evidence is " ++ toString (evidence.evidenceAgeS.getD 0) ++ "s old, beyond profile " ++
      debug env profile.consumerProfileId ++ "'s maximum of " ++ toString profile.maxEvidenceAgeS ++ "s") ++
  refusedIf (.missingRequiredClaim ∈ receipt.statusReasons) .coverageInsufficient
    "coverage is insufficient for the requested claim"

/-- Every conjunct that fails of a request under a profile, in their order: what the decision
says it evaluates. -/
def everyRefusal (request : RelianceRequest) (receipt : EvaluationView) (supporting : List EvaluationView)
    (evidence : EvidenceContext) (profile : ConsumerProfile) : List Refused :=
  requestRefusals env request profile ++ receiptRefusals env request receipt evidence profile ++
  supportingRefusals env request receipt supporting evidence profile ++ evidenceRefusals env receipt evidence profile

end

/-! ## The first of them -/

def firstOf : List Refused → Except Refused Unit
  | [] => .ok ()
  | r :: _ => .error r

section

variable {env : Env} (x : Except Refused Unit)

@[simp] theorem firstOf_refusalOf : firstOf (refusalOf x) = x := by
  cases x with
  | error r => rfl
  | ok u => rfl

@[simp] theorem firstOf_refusedIf (bad : Bool) (outcome : RelianceOutcome) (reason : String) :
    firstOf (refusedIf bad outcome reason) = refuseIf bad outcome reason := firstOf_refusalOf _

theorem firstOf_append (l l' : List Refused) : firstOf (l ++ l') = firstOf l >>= fun _ => firstOf l' := by
  cases l with
  | nil => rfl
  | cons r l => rfl

theorem firstOf_flatMap {α : Type} {check : α → Except Refused Unit} {refusals : α → List Refused}
    (h : ∀ a, firstOf (refusals a) = check a) (l : List α) : firstOf (l.flatMap refusals) = each check l := by
  induction l with
  | nil => rfl
  | cons a l ih =>
    rw [flatMap_cons, firstOf_append, h, ih]
    rfl

theorem bind_assoc_unit (y : Except Refused Unit) (f : Unit → Except Refused Unit) :
    ((x >>= fun _ => y) >>= f) = x >>= fun _ => y >>= f := by
  cases x with
  | error r => rfl
  | ok u => rfl

theorem requestRefusals_firstOf (request : RelianceRequest) (profile : ConsumerProfile) :
    firstOf (requestRefusals env request profile) = admitRequest env request profile := by
  unfold requestRefusals admitRequest
  rw [firstOf_append, firstOf_refusedIf, firstOf_refusedIf]

theorem receiptRefusals_firstOf (request : RelianceRequest) (receipt : EvaluationView) (evidence : EvidenceContext)
    (profile : ConsumerProfile) :
    firstOf (receiptRefusals env request receipt evidence profile) =
      admitReceipt env request receipt evidence profile := by
  unfold receiptRefusals admitReceipt
  simp only [firstOf_append, firstOf_refusedIf, firstOf_flatMap fun _ => firstOf_refusalOf _, bind_assoc_unit]

theorem boundRefusals_firstOf (profile : ConsumerProfile) (required : String) (s : EvaluationView) :
    firstOf (boundRefusals env profile required s) = checkBound env profile required s := by
  unfold boundRefusals checkBound
  simp only [firstOf_append, firstOf_refusedIf, bind_assoc_unit]

theorem requiredRefusals_firstOf (receipt : EvaluationView) (supporting : List EvaluationView)
    (profile : ConsumerProfile)
    (required : String) :
    firstOf (requiredRefusals env receipt supporting profile required) =
      checkRequired env receipt supporting profile required := by
  unfold requiredRefusals checkRequired
  rw [firstOf_append, firstOf_refusedIf, firstOf_flatMap (boundRefusals_firstOf profile required)]

theorem supportingRefusals_firstOf (request : RelianceRequest)
    (receipt : EvaluationView) (supporting : List EvaluationView)
    (evidence : EvidenceContext) (profile : ConsumerProfile) :
    firstOf (supportingRefusals env request receipt supporting evidence profile) =
      admitSupporting env request receipt supporting evidence profile := by
  unfold supportingRefusals admitSupporting
  simp only [firstOf_append, firstOf_refusedIf, firstOf_flatMap fun _ => firstOf_refusalOf _,
    firstOf_flatMap (requiredRefusals_firstOf receipt supporting profile), bind_assoc_unit]

theorem evidenceRefusals_firstOf (receipt : EvaluationView) (evidence : EvidenceContext) (profile : ConsumerProfile) :
    firstOf (evidenceRefusals env receipt evidence profile) = admitEvidence env receipt evidence profile := by
  unfold evidenceRefusals admitEvidence
  simp only [firstOf_append, firstOf_refusedIf, bind_assoc_unit]

variable {request : RelianceRequest} {receipt : EvaluationView}
  {supporting : List EvaluationView} {evidence : EvidenceContext}
  {catalog : ProfileCatalog} {profile : ConsumerProfile}

variable (env) in
/-- Past the schema, the fence and the profile, the conjuncts end at the first that fails. -/
theorem conjuncts_firstOf (hschema : request.schema = relianceRequestSchema)
    (hfence : receipt.contentHash = some request.receiptContentHash)
    (hnamed : catalog.get request.consumerProfileId = some profile) :
    conjuncts env request receipt supporting evidence catalog =
      firstOf (everyRefusal env request receipt supporting evidence profile) := by
  have hfence : fenceReceipt env request receipt = .ok () := fenceReceipt_ok.mpr hfence
  have hnamed : namedProfile env request catalog = .ok profile := namedProfile_ok.mpr hnamed
  unfold conjuncts everyRefusal
  rw [firstOf_append, firstOf_append, firstOf_append, requestRefusals_firstOf, receiptRefusals_firstOf,
    supportingRefusals_firstOf, evidenceRefusals_firstOf, bind_assoc_unit, bind_assoc_unit, hfence, hnamed]
  simp [refuseIf, hschema, bind, Except.bind]

/-! ## Disclosure -/

/-- The receipt of a decision holds the reason of every refusal, and none where it authorizes. -/
structure Discloses (d : RelianceReceipt) (refusals : List Refused) : Prop where
  reasons : ∀ r ∈ refusals, r.reason ∈ d.refusalReasons
  none_iff : d.refusalReasons = [] ↔ d.decision = .authorizedReliance

variable (env request evidence catalog) in
theorem decideReliance_ok {R : Type} (evaluationView : R → EvaluationView)
    (artifact : R) (supplied : List R) (generatedAt : String) :
    ∃ d, decideReliance env evaluationView request artifact supplied evidence catalog generatedAt = .ok d ∧
      (d.decision, d.refusalReasons) = evaluate env request (evaluationView artifact)
      (supplied.map evaluationView) evidence catalog := by
  obtain ⟨requestDigest, hrequest⟩ := jcsDigest_ok (env.request_plain request)
  obtain ⟨evidenceDigest, hevidence⟩ := jcsDigest_ok (env.evidence_plain evidence)
  unfold decideReliance RelianceRequest.digest EvidenceContext.digest
  dsimp only
  rw [hrequest, hevidence]
  exact ⟨_, rfl, rfl⟩

/-- A decision on a supported schema, a sealed receipt that matches and a known profile
discloses every reason exactly where no two conjuncts fail for different ones; it gives no
reason exactly where it authorizes. -/
theorem discloses_iff_one_reason (env : Env) {R : Type} (evaluationView : R → EvaluationView)
    (artifact : R) (supplied : List R)
    (evidence : EvidenceContext) (generatedAt : String) {request : RelianceRequest} {catalog : ProfileCatalog}
    {profile : ConsumerProfile} (hschema : request.schema = relianceRequestSchema)
    (hfence : (evaluationView artifact).contentHash = some request.receiptContentHash)
    (hnamed : catalog.get request.consumerProfileId = some profile) :
    ∃ d, decideReliance env evaluationView request artifact supplied evidence catalog generatedAt = .ok d ∧
      (d.refusalReasons = [] ↔ d.decision = .authorizedReliance) ∧
      (Discloses d (everyRefusal env request (evaluationView artifact) (supplied.map evaluationView) evidence profile) ↔
        ∀ r ∈ everyRefusal env request (evaluationView artifact) (supplied.map evaluationView) evidence profile,
          ∀ r' ∈ everyRefusal env request (evaluationView artifact) (supplied.map evaluationView) evidence profile,
            r.reason = r'.reason) := by
  obtain ⟨d, hd, hevaluate⟩ :=
    decideReliance_ok env request evidence catalog evaluationView artifact supplied generatedAt
  have hrefusing : Refusing (conjuncts env request (evaluationView artifact) (supplied.map evaluationView)
      evidence catalog) :=
    refusing_conjuncts _ _ _ _ _
  have hfirst : conjuncts env request (evaluationView artifact) (supplied.map evaluationView) evidence catalog = _ :=
    conjuncts_firstOf env hschema hfence hnamed
  unfold evaluate at hevaluate
  rw [hfirst] at hevaluate hrefusing
  refine ⟨d, hd, ?_⟩
  generalize everyRefusal env request (evaluationView artifact)
    (supplied.map evaluationView) evidence profile = refusals at *
  cases refusals with
  | nil =>
    obtain ⟨hdecision, hreasons⟩ := Prod.mk.inj hevaluate
    have hnone : d.refusalReasons = [] ↔ d.decision = .authorizedReliance := by rw [hdecision, hreasons]; simp
    exact ⟨hnone, fun _ _ h => (nomatch h), fun _ => ⟨fun _ h => (nomatch h), hnone⟩⟩
  | cons first rest =>
    obtain ⟨hdecision, hreasons⟩ := Prod.mk.inj hevaluate
    have hnone : d.refusalReasons = [] ↔ d.decision = .authorizedReliance := by
      rw [hdecision, hreasons]
      exact ⟨fun h => (nomatch h), fun h => absurd h (hrefusing first rfl)⟩
    refine ⟨hnone, fun h r hr r' hr' => ?_, fun h => ⟨fun r hr => ?_, hnone⟩⟩
    · have hreason := h.reasons r hr
      have hreason' := h.reasons r' hr'
      rw [hreasons, mem_singleton] at hreason hreason'
      rw [hreason, hreason']
    · rw [hreasons, mem_singleton]
      exact h r hr first mem_cons_self

end

/-- A claim and a purpose that the operator's profile does not permit. -/
def foreignRequest : RelianceRequest := { reviewOf "host_is_idle" selfHash with purpose := "execute" }

theorem a_second_reason_is_not_disclosed : ∃ d,
    decideReliance jcsEnv Receipt.evaluationView foreignRequest selfReceipt [] {} reviewCatalog "2026-07-26T00:00:00Z" =
      .ok d ∧ ¬Discloses d (everyRefusal jcsEnv foreignRequest selfReceipt.evaluationView [] {} operatorReview) := by
  obtain ⟨d, hd, hevaluate⟩ :=
    decideReliance_ok jcsEnv foreignRequest {} reviewCatalog Receipt.evaluationView selfReceipt []
    "2026-07-26T00:00:00Z"
  have hclaim : evaluate jcsEnv foreignRequest selfReceipt.evaluationView [] {} reviewCatalog =
      (.claimNotAuthorizedForConsumer,
        ["profile \"operator-review\" is not permitted to rely on claim \"host_is_idle\""]) := by
    decide +kernel
  have hpurpose : ⟨.purposeNotAuthorized, "profile \"operator-review\" is not permitted the purpose \"execute\""⟩ ∈
      everyRefusal jcsEnv foreignRequest selfReceipt.evaluationView [] {} operatorReview := by
    decide +kernel
  refine ⟨d, hd, fun h => ?_⟩
  have hmem := h.reasons _ hpurpose
  rw [(Prod.mk.inj (hevaluate.trans hclaim)).2] at hmem
  exact absurd hmem (by decide)

/-- A purpose that is not permitted is the one reason. -/
theorem a_single_reason_is_disclosed : ∃ d,
    decideReliance jcsEnv Receipt.evaluationView { reviewOf "nq_evaluator_state" selfHash with purpose := "execute" }
      selfReceipt [] {}
      reviewCatalog "2026-07-26T00:00:00Z" = .ok d ∧
    Discloses d (everyRefusal jcsEnv { reviewOf "nq_evaluator_state" selfHash with purpose := "execute" }
      selfReceipt.evaluationView [] {}
      operatorReview) := by
  obtain ⟨d, hd, _, hiff⟩ :=
    discloses_iff_one_reason jcsEnv Receipt.evaluationView selfReceipt [] {} "2026-07-26T00:00:00Z"
    (show ({ reviewOf "nq_evaluator_state" selfHash with purpose := "execute" } : RelianceRequest).schema =
      relianceRequestSchema from rfl)
    rfl (show reviewCatalog.get _ = some operatorReview from rfl)
  have hone : everyRefusal jcsEnv { reviewOf "nq_evaluator_state" selfHash with purpose := "execute" }
    selfReceipt.evaluationView [] {}
      operatorReview =
      [⟨.purposeNotAuthorized, "profile \"operator-review\" is not permitted the purpose \"execute\""⟩] := by
    decide +kernel
  refine ⟨d, hd, hiff.mpr fun r hr r' hr' => ?_⟩
  rw [map_nil, hone, mem_singleton] at hr hr'
  rw [hr, hr']

end Nq.Reliance
