/-
  Nq.Reliance.Evaluate — `nq-monitor reliance evaluate` (`nq-monitor/src/cmd/reliance.rs`).

  The command decodes what it reads and decides once; what does not decode is no decision.
  The hash a receipt declares is compared with the one the request names and never with the
  receipt, so the fence holds off another declared hash but no other body: evidence is
  genuine exactly where nothing else is put in (`substituted_evidence_iff`).
-/

import Nq.Reliance.Decide

namespace Nq.Reliance

open Inquiry (digestText)

/-! ## The command -/

/-- serde's decoders. -/
structure Decoding where
  request : List UInt8 → Except String RelianceRequest
  receipt : List UInt8 → Except String Receipt
  evidence : List UInt8 → Except String EvidenceContext
  catalog : List UInt8 → Except String ProfileCatalog

/-- What the paths of a command read, and the current time as RFC3339. -/
structure EvaluateCmd where
  request : Except String (List UInt8)
  receipt : Except String (List UInt8)
  evidence : Option (Except String (List UInt8))
  supporting : List (String × Except String (List UInt8))
  profiles : Except String (List UInt8)
  generatedAt : Option String
  now : String

/-- What a command decides on. -/
structure Inputs where
  request : RelianceRequest
  receipt : Receipt
  evidence : EvidenceContext
  supporting : List Receipt
  catalog : ProfileCatalog
  generatedAt : String
  deriving DecidableEq

section

variable (env : Env) (decoding : Decoding)

/-- Reads and decodes; what fails says so, after `text` where it fails to decode. -/
def decode {α : Type} (decoder : List UInt8 → Except String α) (text : String) (input : Except String (List UInt8)) :
    Except String α := do
  let bytes ← input
  (decoder bytes).mapError (text ++ ·)

def ProfileCatalog.fromJsonSlice (bytes : List UInt8) : Except String ProfileCatalog := do
  let catalog ← (decoding.catalog bytes).mapError ("not a profile catalog: " ++ ·)
  catalog.checked env

def EvaluateCmd.inputs (cmd : EvaluateCmd) : Except String Inputs := do
  let request ← decode decoding.request "request is not an nq.reliance.request.v1: " cmd.request
  let receipt ← decode decoding.receipt "receipt is not an nq.receipt.v1: " cmd.receipt
  let evidence ← match cmd.evidence with
    | none => .ok {}
    | some input => decode decoding.evidence "evidence context is not decodable: " input
  let supporting ← cmd.supporting.mapM fun (path, input) =>
    decode decoding.receipt ("supporting receipt " ++ path ++ " is not an nq.receipt.v1: ") input
  let catalog ← decode (ProfileCatalog.fromJsonSlice env decoding) "profile catalog refused: " cmd.profiles
  pure ⟨request, receipt, evidence, supporting, catalog, cmd.generatedAt.getD cmd.now⟩

def Inputs.decide (i : Inputs) : Except String RelianceReceipt :=
  decideReliance env Receipt.evaluationView i.request i.receipt i.supporting i.evidence i.catalog i.generatedAt

/-- A decision, or the diagnostic of none. -/
def EvaluateCmd.evaluate (cmd : EvaluateCmd) : Except String RelianceReceipt := do
  let inputs ← cmd.inputs env decoding
  (inputs.decide env).mapError ("canonicalization failed: " ++ ·)

end

/-! ## Requests that authorize -/

section

variable {env : Env} {decoding : Decoding} {hashing : Hashing}

/-- Every receipt a decision is made on is genuine. -/
def Inputs.Genuine (hashing : Hashing) (i : Inputs) : Prop :=
  i.receipt.Genuine hashing ∧ ∀ s ∈ i.supporting, s.Genuine hashing

def Inputs.Authorizes (i : Inputs) : Prop :=
  ∃ profile, Authorizable i.request i.receipt.evaluationView
    (i.supporting.map Receipt.evaluationView) i.evidence i.catalog profile

variable (env) in
theorem decide_authorizes {i : Inputs} : (∃ d, i.decide env = .ok d ∧ d.decision = .authorizedReliance) ↔
    i.Authorizes :=
  decideReliance_authorized

theorem evaluate_ok {cmd : EvaluateCmd} {d : RelianceReceipt} :
    cmd.evaluate env decoding = .ok d ↔ ∃ i, cmd.inputs env decoding = .ok i ∧ i.decide env = .ok d := by
  unfold EvaluateCmd.evaluate
  simp only [Sql.bind_ok, Sql.mapError_ok]

/-- The conjuncts on everything but the receipt relied upon, of which they take the subject. -/
structure Admissible (request : RelianceRequest) (supporting : List EvaluationView) (evidence : EvidenceContext)
    (catalog : ProfileCatalog) (profile : ConsumerProfile) (subject : String) : Prop where
  schema : request.schema = relianceRequestSchema
  named : catalog.get request.consumerProfileId = some profile
  claim : request.claim ∈ profile.allowedClaims
  purpose : request.purpose ∈ profile.allowedPurposes
  contradiction : profile.contradictionPolicy = .refuseOnRetained → evidence.retainedContradictions = []
  supplied : ∀ s ∈ supporting, ∃ h ∈ request.supportingReceiptHashes, s.contentHash = some h
  listed : ∀ h ∈ request.supportingReceiptHashes, ∃ s ∈ supporting, s.contentHash = some h
  required : ∀ c ∈ profile.requiredSupportingClaims, Required subject supporting profile c
  supportingAge : profile.requiredSupportingClaims ≠ [] →
    ∀ age ∈ evidence.supportingEvidenceAgeS, age ≤ profile.maxEvidenceAgeS
  premises : profile.premisePolicy = .requireAllEnforceable → evidence.unenforceablePremises = []
  residuals : profile.residualPolicy = .refuseOnUnresolved → evidence.unresolvedResiduals = []
  age : ∀ age ∈ evidence.evidenceAgeS, age ≤ profile.maxEvidenceAgeS

variable {request : RelianceRequest} {supporting : List Receipt} {evidence : EvidenceContext} {catalog : ProfileCatalog}
  {profile : ConsumerProfile} {generatedAt : String}

/-- A receipt for the request: verified, with nothing held against it. -/
def receiptFor (request : RelianceRequest) (subject : String) : Receipt where
  schema := "nq.receipt.v1"
  claim := request.claim
  subject := subject
  target := none
  status := .verified
  statusReasons := []
  verified := [request.claim]
  notVerified := []
  suggestedWeakerClaims := []
  supportedStatus := ""
  cannotTestify := []
  witnesses := []
  observedAtMin := none
  observedAtMax := none
  generatedAt := ""
  evaluator := none
  freshnessHorizon := none
  signals := none
  contentHash := some request.receiptContentHash

variable (generatedAt) in
/-- Some receipt is authorized exactly when the rest is admissible. -/
theorem exists_authorizes :
    (∃ receipt, Inputs.Authorizes ⟨request, receipt, evidence, supporting, catalog, generatedAt⟩) ↔
    ∃ profile subject, Admissible request (supporting.map Receipt.evaluationView) evidence catalog profile subject := by
  constructor
  · intro h
    obtain ⟨receipt, profile, ha⟩ := h
    exact ⟨profile, receipt.subject, ha.schema, ha.named, ha.claim, ha.purpose, fun hp => (ha.contradiction hp).2,
      ha.supplied, ha.listed, ha.required, ha.supportingAge, ha.premises, ha.residuals, ha.age⟩
  · intro h
    obtain ⟨profile, subject, ha⟩ := h
    exact ⟨receiptFor request subject, profile, {
      schema := ha.schema
      fence := rfl
      named := ha.named
      claim := ha.claim
      purpose := ha.purpose
      testifies := fun _ h => (nomatch h)
      mintable := List.not_mem_nil
      verified := rfl
      contradiction := fun hp => ⟨List.not_mem_nil, ha.contradiction hp⟩
      custody := fun _ h => (nomatch h)
      supplied := ha.supplied
      listed := ha.listed
      required := ha.required
      supportingAge := ha.supportingAge
      premises := ha.premises
      residuals := ha.residuals
      fresh := List.not_mem_nil
      age := ha.age
      covered := List.not_mem_nil }⟩

/-- Only the view of a receipt decides. -/
theorem authorizes_of_view {receipt receipt' : Receipt} (hview : receipt'.evaluationView = receipt.evaluationView)
    (h : Inputs.Authorizes ⟨request, receipt, evidence, supporting, catalog, generatedAt⟩) :
    Inputs.Authorizes ⟨request, receipt', evidence, supporting, catalog, generatedAt⟩ := by
  unfold Inputs.Authorizes
  dsimp only
  rw [hview]
  exact h

variable (generatedAt) in
theorem genuine_for_all_iff (hsensitive : hashing.Sensitive) :
    (∀ receipt, Inputs.Authorizes ⟨request, receipt, evidence, supporting, catalog, generatedAt⟩ →
      Inputs.Genuine hashing ⟨request, receipt, evidence, supporting, catalog, generatedAt⟩) ↔
    ¬∃ profile subject, Admissible request (supporting.map Receipt.evaluationView)
      evidence catalog profile subject := by
  rw [← exists_authorizes generatedAt]
  constructor
  · intro h hexists
    obtain ⟨receipt, ha⟩ := hexists
    obtain ⟨receipt', hview, hnot⟩ := redated_not_genuine hsensitive receipt
    exact hnot (h receipt' (authorizes_of_view hview ha)).1
  · intro hnone receipt ha
    exact absurd ⟨receipt, ha⟩ hnone

/-- What a command authorizes is genuine exactly where no authorizable input is anything else;
    so no request under which some receipt is authorized is safe from another in its place,
    while two genuine ones are the same. -/
theorem substituted_evidence_iff (env : Env) (decoding : Decoding)
    (hashing : Hashing) (hsensitive : hashing.Sensitive) :
    (∀ (cmd : EvaluateCmd) (i : Inputs), cmd.inputs env decoding = .ok i →
      ((∀ d, cmd.evaluate env decoding = .ok d → d.decision = .authorizedReliance → i.Genuine hashing) ↔
        (i.Authorizes → i.Genuine hashing))) ∧
    (∀ (request : RelianceRequest) (evidence : EvidenceContext) (supporting : List Receipt) (catalog : ProfileCatalog)
      (generatedAt : String),
      ((∀ receipt d, Inputs.decide env ⟨request, receipt, evidence, supporting, catalog, generatedAt⟩ = .ok d →
          d.decision = .authorizedReliance →
          Inputs.Genuine hashing ⟨request, receipt, evidence, supporting, catalog, generatedAt⟩) ↔
        ¬∃ profile subject, Admissible request (supporting.map Receipt.evaluationView)
          evidence catalog profile subject) ∧
      ∀ receipt receipt' : Receipt, Inputs.Authorizes ⟨request, receipt, evidence, supporting, catalog, generatedAt⟩ →
        Inputs.Authorizes ⟨request, receipt', evidence, supporting, catalog, generatedAt⟩ → receipt.Genuine hashing →
        receipt'.Genuine hashing → hashing.Apart receipt receipt' → receipt = receipt') := by
  refine ⟨fun cmd i hi => ⟨fun h ha => ?_, fun h d hd hauthorized => ?_⟩,
    fun request evidence supporting catalog generatedAt => ⟨?_, ?_⟩⟩
  · obtain ⟨d, hd, hauthorized⟩ := (decide_authorizes env).mpr ha
    exact h d (evaluate_ok.mpr ⟨i, hi, hd⟩) hauthorized
  · obtain ⟨i', hi', hd'⟩ := evaluate_ok.mp hd
    rw [hi] at hi'
    cases hi'
    exact h ((decide_authorizes env).mp ⟨d, hd', hauthorized⟩)
  · rw [← genuine_for_all_iff generatedAt hsensitive]
    constructor
    · intro h receipt ha
      obtain ⟨d, hd, hauthorized⟩ := (decide_authorizes env).mpr ha
      exact h receipt d hd hauthorized
    · intro h receipt d hd hauthorized
      exact h receipt ((decide_authorizes env).mp ⟨d, hd, hauthorized⟩)
  · intro receipt receipt' ha ha' hg hg' hapart
    obtain ⟨_, ha⟩ := ha
    obtain ⟨_, ha'⟩ := ha'
    exact hg.unique hg' (ha.fence.trans ha'.fence.symm) hapart

end

/-! ## A receipt put in for another -/

/-- The self receipt with its subject edited. -/
def forgedReceipt : Receipt := { selfReceipt with subject := "host/another" }

/-- A decoder that knows the text of one value. -/
def reading {α : Type} (render : α → String) (known : α) (bytes : List UInt8) : Except String α :=
  if bytes = Text.bytes (render known) then .ok known else .error "expected value at line 1 column 1"

theorem reading_render {α : Type} (render : α → String)
    (known : α) : reading render known (Text.bytes (render known)) = .ok known :=
  if_pos rfl

/-- A review of the evaluator under the self receipt's hash. -/
def selfReview : RelianceRequest := reviewOf "nq_evaluator_state" selfHash

def sampleDecoding (receipt : Receipt) : Decoding where
  request := reading RelianceRequest.toJcs selfReview
  receipt := reading Receipt.toJcs receipt
  evidence := reading EvidenceContext.toJcs {}
  catalog := reading ProfileCatalog.toJcs reviewCatalog

def reviewCmd (receipt : Receipt) : EvaluateCmd where
  request := .ok (Text.bytes selfReview.toJcs)
  receipt := .ok (Text.bytes receipt.toJcs)
  evidence := none
  supporting := []
  profiles := .ok (Text.bytes reviewCatalog.toJcs)
  generatedAt := none
  now := "2026-07-26T00:00:00Z"

def reviewInputs (receipt : Receipt) : Inputs := ⟨selfReview, receipt, {}, [], reviewCatalog, "2026-07-26T00:00:00Z"⟩

theorem reviewCmd_inputs (receipt : Receipt) :
    (reviewCmd receipt).inputs jcsEnv (sampleDecoding receipt) = .ok (reviewInputs receipt) := by
  have hchecked : reviewCatalog.checked jcsEnv = .ok reviewCatalog := by decide +kernel
  unfold EvaluateCmd.inputs reviewCmd sampleDecoding decode ProfileCatalog.fromJsonSlice
  simp only [bind, Except.bind, reading_render, Except.mapError, hchecked]
  rfl

theorem reviewInputs_authorizes {receipt : Receipt}
    (h : receipt.evaluationView = selfReceipt.evaluationView ∨ receipt = forgedReceipt) :
    (reviewInputs receipt).Authorizes := by
  have hevaluate : (evaluate jcsEnv selfReview receipt.evaluationView [] {} reviewCatalog).1 = .authorizedReliance := by
    cases h with
    | inl h =>
      rw [h]
      decide +kernel
    | inr h =>
      rw [h]
      decide +kernel
  exact (evaluate_authorized jcsEnv).mp hevaluate

theorem forgedReceipt_not_genuine : ¬forgedReceipt.Genuine jcsHashing := by
  intro h
  obtain ⟨hash, hdeclared, hcomputed⟩ := h
  cases hdeclared
  exact absurd hcomputed (by decide +kernel)

theorem an_edited_receipt_is_authorized :
    selfReceipt.Genuine jcsHashing ∧ forgedReceipt.subject ≠ selfReceipt.subject ∧
    (∃ d, (reviewCmd forgedReceipt).evaluate jcsEnv (sampleDecoding forgedReceipt) = .ok d ∧ d.decision =
      .authorizedReliance) ∧ ¬forgedReceipt.Genuine jcsHashing := by
  refine ⟨selfReceipt_genuine, by decide, ?_, forgedReceipt_not_genuine⟩
  obtain ⟨d, hd, hauthorized⟩ := (decide_authorizes jcsEnv).mpr (reviewInputs_authorizes (.inr rfl))
  exact ⟨d, evaluate_ok.mpr ⟨reviewInputs forgedReceipt, reviewCmd_inputs forgedReceipt, hd⟩, hauthorized⟩

/-- The body of the self receipt, as it is hashed. -/
def selfBody : Receipt := { selfReceipt with contentHash := none }

/-- A hashing that is the computed one on the body of the self receipt; elsewhere it takes the
    length of the date. -/
def sampleHashing : Hashing where
  toVec := fun r => .ok (if r = selfBody then Text.bytes r.toJcs else Text.bytes r.generatedAt)
  sha256 := fun bytes =>
    if bytes = Text.bytes selfBody.toJcs then Text.sha256 bytes else Vector.ofFn fun _ => UInt8.ofNat bytes.length

variable (r : Receipt)

/-- The hash of anything but the self receipt, by the length of its date. -/
theorem sampleHashing_redated {text : String} (htext : text ≠ selfReceipt.generatedAt)
    (hbytes : Text.bytes text ≠ Text.bytes selfBody.toJcs) :
    (r.redated text).computeContentHash sampleHashing =
      .ok (digestText (Vector.ofFn fun _ => UInt8.ofNat (Text.bytes text).length)) := by
  have hne : ({ r.redated text with contentHash := none } : Receipt) ≠ selfBody :=
    fun e => htext (congrArg Receipt.generatedAt e)
  unfold Receipt.computeContentHash sampleHashing
  dsimp only
  rw [if_neg hne]
  show Except.ok _ = Except.ok _
  rw [show ({ r.redated text with contentHash := none } : Receipt).generatedAt = text from rfl, if_neg hbytes]

theorem sampleHashing_sensitive : sampleHashing.Sensitive := by
  intro r
  have h₁ := sampleHashing_redated r (show "a" ≠ selfReceipt.generatedAt by decide) (by decide +kernel)
  have h₂ := sampleHashing_redated r (show "aa" ≠ selfReceipt.generatedAt by decide) (by decide +kernel)
  by_cases h : (r.redated "a").computeContentHash sampleHashing = r.computeContentHash sampleHashing
  · refine ⟨"aa", fun h' => ?_⟩
    rw [← h, h₁, h₂] at h'
    exact absurd h' (by decide +kernel)
  · exact ⟨"a", h⟩

theorem computeContentHash_jcs : r.computeContentHash jcsHashing =
    .ok (digestText (Text.sha256 (Text.bytes ({ r with contentHash := none } : Receipt).toJcs))) := rfl

theorem selfReceipt_genuine_sample : selfReceipt.Genuine sampleHashing := by
  obtain ⟨hash, hdeclared, hcomputed⟩ := selfReceipt_genuine
  have hbody : sampleHashing.toVec selfBody = .ok (Text.bytes selfBody.toJcs) := by
    show Except.ok (if selfBody = selfBody then _ else _) = _
    rw [if_pos rfl]
  have hsha : sampleHashing.sha256 (Text.bytes selfBody.toJcs) = Text.sha256 (Text.bytes selfBody.toJcs) := by
    unfold sampleHashing
    dsimp only
    rw [if_pos rfl]
  refine ⟨hash, hdeclared, ?_⟩
  have hbodied : sampleHashing.toVec { selfReceipt with contentHash := none } = .ok (Text.bytes selfBody.toJcs) := hbody
  unfold Receipt.computeContentHash
  rw [hbodied]
  dsimp only
  rw [hsha]
  rw [computeContentHash_jcs] at hcomputed
  exact hcomputed

theorem a_genuine_receipt_is_authorized : ∃ d,
    (reviewCmd selfReceipt).evaluate jcsEnv (sampleDecoding selfReceipt) = .ok d ∧ d.decision = .authorizedReliance ∧
    (reviewInputs selfReceipt).Genuine sampleHashing := by
  have hinputs := reviewCmd_inputs selfReceipt
  obtain ⟨d, hd, hauthorized⟩ := (decide_authorizes jcsEnv).mpr (reviewInputs_authorizes (.inl rfl))
  have hevaluate := evaluate_ok.mpr ⟨reviewInputs selfReceipt, hinputs, hd⟩
  have hiff := (substituted_evidence_iff jcsEnv (sampleDecoding selfReceipt) sampleHashing sampleHashing_sensitive).1
    (reviewCmd selfReceipt) (reviewInputs selfReceipt) hinputs
  exact ⟨d, hevaluate, hauthorized,
    hiff.mpr (fun _ => ⟨selfReceipt_genuine_sample, fun _ h => (nomatch h)⟩) d hevaluate hauthorized⟩

end Nq.Reliance
