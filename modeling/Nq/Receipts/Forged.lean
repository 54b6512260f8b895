/-
  Nq.Receipts.Forged — what a replay that succeeds says about reliance.

  Reliance reads of a receipt its status and reasons, what it declines to testify to, and the
  custody bases of its witnesses. Replay compares the status and the reasons only, so a
  receipt that replays is relied on like the one its packets evaluate to exactly where the
  rest agrees as well (`replayed_reliance_iff`).
-/

import Nq.Receipts.Honest
import Nq.Reliance.Decide

namespace Nq.Receipts

open List
open Reliance

/-! ## Outcomes -/

def outcomeOf : Except Refused Unit → RelianceOutcome
  | .ok () => .authorizedReliance
  | .error r => r.outcome

/-- A request, bound to the content hash of a receipt. -/
def bound (request : RelianceRequest) (hash : String) : RelianceRequest := { request with receiptContentHash := hash }

/-- The outcome of relying on a receipt. -/
def outcomeOn (env : Reliance.Env) (request : RelianceRequest)
    (view : EvaluationView) (supporting : List EvaluationView)
    (evidence : EvidenceContext) (catalog : ProfileCatalog) : RelianceOutcome :=
  (Reliance.evaluate env request view supporting evidence catalog).1

section

variable {env : Reliance.Env} {request : RelianceRequest} {view view' : EvaluationView}
  {supporting : List EvaluationView}
  {evidence : EvidenceContext} {catalog : ProfileCatalog} {profile : ConsumerProfile} {f : Unit → Except Refused Unit}
  {outcome : RelianceOutcome} {hash : String}

theorem outcomeOf_refuseIf {bad : Bool} {reason : String} :
    outcomeOf (refuseIf bad outcome reason >>= f) = if bad then outcome else outcomeOf (f ()) := by
  cases bad <;> rfl

theorem outcomeOf_each {α : Type} {check : α → Except Refused Unit}
    (hcheck : ∀ a r, check a = .error r → r.outcome = outcome) : ∀ (l : List α),
    (∀ a ∈ l, check a = .ok ()) ∧ outcomeOf (each check l >>= f) = outcomeOf (f ()) ∨
      (¬∀ a ∈ l, check a = .ok ()) ∧ outcomeOf (each check l >>= f) = outcome := by
  intro l
  induction l with
  | nil => exact Or.inl ⟨fun _ h => (nomatch h), rfl⟩
  | cons a rest ih =>
    unfold each
    cases ha : check a with
    | error r =>
      refine Or.inr ⟨fun h => ?_, hcheck a r ha⟩
      have h := h a mem_cons_self
      rw [ha] at h
      cases h
    | ok u =>
      rcases ih with ih | ih
      · refine Or.inl ⟨fun b hb => ?_, ih.2⟩
        rcases mem_cons.mp hb with e | hb
        · exact e ▸ ha
        · exact ih.1 b hb
      · exact Or.inr ⟨fun h => ih.1 fun b hb => h b (mem_cons_of_mem _ hb), ih.2⟩

/-- The bases a profile would have to accept. -/
def Accepted (profile : ConsumerProfile) (witnesses : List WitnessRef) : Prop :=
  ∀ w ∈ witnesses, w.custodyBasis.getD "undeclared" ∈ profile.acceptedCustodyBases

instance (profile : ConsumerProfile) (witnesses : List WitnessRef) : Decidable (Accepted profile witnesses) :=
  inferInstanceAs (Decidable (∀ w ∈ witnesses, w.custodyBasis.getD "undeclared" ∈ profile.acceptedCustodyBases))

theorem outcomeOf_admitReceipt : outcomeOf (admitReceipt env request view evidence profile >>= f) =
    if view.cannotTestify.any (Text.contains ·.statement request.claim) then .cannotTestify
    else if .nonMintable ∈ view.statusReasons then .claimNonMintable
    else if view.status ≠ .verified then .claimNotVerified
    else if (decide (.contradictoryObservation ∈ view.statusReasons) || !evidence.retainedContradictions.isEmpty) &&
        profile.contradictionPolicy = .refuseOnRetained then .contradictionRetained
    else if Accepted profile view.witnesses then outcomeOf (f ())
    else .custodyBasisNotAccepted := by
  have hcheck : ∀ w, Reliance.checkWitness env profile w = .ok () ↔
      w.custodyBasis.getD "undeclared" ∈ profile.acceptedCustodyBases := by
    intro w
    unfold Reliance.checkWitness
    dsimp only
    rw [refuseIf_ok, decide_eq_false_iff_not, not_not]
  have hrefuses : ∀ w r, Reliance.checkWitness env profile w = .error r → r.outcome = .custodyBasisNotAccepted := by
    intro w r h
    unfold Reliance.checkWitness refuseIf at h
    dsimp only at h
    split at h
    · cases h
      rfl
    · cases h
  have hloop := outcomeOf_each (f := f) hrefuses view.witnesses
  have hlast : outcomeOf (each (Reliance.checkWitness env profile) view.witnesses >>= f) =
      if Accepted profile view.witnesses then outcomeOf (f ()) else .custodyBasisNotAccepted := by
    simp only [hcheck] at hloop
    rcases hloop with h | h
    · rw [h.2, if_pos (show Accepted profile view.witnesses from h.1)]
    · rw [h.2, if_neg (show ¬Accepted profile view.witnesses from h.1)]
  unfold admitReceipt
  simp only [bind_assoc, outcomeOf_refuseIf, hlast, decide_eq_true_eq]

/-- The fence lets a bound request pass. -/
theorem outcomeOn_bound (hhash : view.contentHash = some hash) :
    outcomeOn env (bound request hash) view supporting evidence catalog =
      if request.schema ≠ relianceRequestSchema then .malformedRequest
      else outcomeOf (namedProfile env request catalog >>= fun profile => do
        admitRequest env request profile
        admitReceipt env request view evidence profile
        admitSupporting env request view supporting evidence profile
        admitEvidence env view evidence profile) := by
  have hfence : fenceReceipt env (bound request hash) view = .ok () := fenceReceipt_ok.mpr hhash
  have houtcome : outcomeOn env (bound request hash) view supporting evidence catalog =
      outcomeOf (conjuncts env (bound request hash) view supporting evidence catalog) := by
    unfold outcomeOn Reliance.evaluate
    cases conjuncts env (bound request hash) view supporting evidence catalog <;> rfl
  rw [houtcome]
  unfold conjuncts
  rw [outcomeOf_refuseIf, hfence]
  simp only [decide_eq_true_eq]
  rfl

/-- What reliance reads of two receipts that decline nothing. -/
structure ReadAlike (view view' : EvaluationView) : Prop where
  subject : view.subject = view'.subject
  silent : view.cannotTestify = [] ∧ view'.cannotTestify = []
  nonMintable : .nonMintable ∈ view.statusReasons ↔ .nonMintable ∈ view'.statusReasons
  verified : view.status = .verified ↔ view'.status = .verified
  reasons : view.status = .verified → view.statusReasons = view'.statusReasons
  custody : view.status = .verified → ∀ profile, Accepted profile view.witnesses ↔ Accepted profile view'.witnesses

theorem ReadAlike.outcome_eq (h : ReadAlike view view') {hash' : String} (hhash : view.contentHash = some hash)
    (hhash' : view'.contentHash = some hash') (env : Reliance.Env) (request : RelianceRequest)
    (supporting : List EvaluationView) (evidence : EvidenceContext) (catalog : ProfileCatalog) :
    outcomeOn env (bound request hash) view supporting evidence catalog =
      outcomeOn env (bound request hash') view' supporting evidence catalog := by
  rw [outcomeOn_bound hhash, outcomeOn_bound hhash']
  cases hprofile : namedProfile env request catalog with
  | error r => rfl
  | ok profile =>
    have hsupporting : admitSupporting env request view supporting evidence profile =
        admitSupporting env request view' supporting evidence profile := by
      unfold admitSupporting checkRequired boundTo
      rw [h.subject]
    have hrest : outcomeOf (admitReceipt env request view evidence profile >>= fun _ => do
          admitSupporting env request view supporting evidence profile
          admitEvidence env view evidence profile) =
        outcomeOf (admitReceipt env request view' evidence profile >>= fun _ => do
          admitSupporting env request view' supporting evidence profile
          admitEvidence env view' evidence profile) := by
      rw [outcomeOf_admitReceipt, outcomeOf_admitReceipt, h.silent.1, h.silent.2]
      by_cases hnon : .nonMintable ∈ view.statusReasons
      · rw [if_pos hnon, if_pos (h.nonMintable.mp hnon)]
      · rw [if_neg hnon, if_neg fun h' => hnon (h.nonMintable.mpr h')]
        by_cases hv : view.status = .verified
        · have hevidence : admitEvidence env view evidence profile = admitEvidence env view' evidence profile := by
            unfold admitEvidence
            rw [h.reasons hv]
          rw [if_neg (not_not.mpr hv), if_neg (not_not.mpr (h.verified.mp hv)), h.reasons hv, hsupporting, hevidence]
          simp only [h.custody hv profile]
        · rw [if_pos hv, if_pos fun h' => hv (h.verified.mpr h')]
    by_cases hschema : request.schema ≠ relianceRequestSchema
    · rw [if_pos hschema, if_pos hschema]
    · rw [if_neg hschema, if_neg hschema]
      show outcomeOf (admitRequest env request profile >>= _) = outcomeOf (admitRequest env request profile >>= _)
      cases admitRequest env request profile with
      | error r => rfl
      | ok u => exact hrest

/-! ## A profile that accepts what it is given -/

def lenient (claim : String) (bases : List String) : ConsumerProfile where
  consumerProfileId := "lenient"
  allowedClaims := [claim]
  allowedPurposes := ["review"]
  acceptedCustodyBases := bases
  maxEvidenceAgeS := 0
  premisePolicy := .allowQualified
  contradictionPolicy := .allowWithDisclosure
  residualPolicy := .allowWithDisclosure
  requiredSupportingClaims := []

def lenientCatalog (claim : String) (bases : List String) : ProfileCatalog :=
  ⟨relianceProfilesSchema, "v1", [lenient claim bases]⟩

def lenientRequest (claim : String) : RelianceRequest :=
  ⟨relianceRequestSchema, "lenient", .configured, "review", claim, "", "v1", "req-1", []⟩

/-- A lenient reliance on a receipt, by what it reads. -/
theorem outcomeOn_lenient (hhash : view.contentHash = some hash) (env : Reliance.Env) (claim : String)
    (bases : List String) :
    outcomeOn env (bound (lenientRequest claim) hash) view [] {} (lenientCatalog claim bases) =
      if view.cannotTestify.any (Text.contains ·.statement claim) then .cannotTestify
      else if .nonMintable ∈ view.statusReasons then .claimNonMintable
      else if view.status ≠ .verified then .claimNotVerified
      else if Accepted (lenient claim bases) view.witnesses then
        if .staleObservation ∈ view.statusReasons then .staleEvidence
        else if .missingRequiredClaim ∈ view.statusReasons then .coverageInsufficient
        else .authorizedReliance
      else .custodyBasisNotAccepted := by
  have hprofile : namedProfile env (lenientRequest claim) (lenientCatalog claim bases) =
      .ok (lenient claim bases) := rfl
  have hrequest : admitRequest env (lenientRequest claim) (lenient claim bases) = .ok () := by
    unfold admitRequest lenientRequest lenient refuseIf
    simp [bind, Except.bind]
  have hlast : outcomeOf (admitSupporting env (lenientRequest claim) view [] {} (lenient claim bases) >>= fun _ =>
        admitEvidence env view {} (lenient claim bases)) =
      if .staleObservation ∈ view.statusReasons then .staleEvidence
      else if .missingRequiredClaim ∈ view.statusReasons then .coverageInsufficient
      else .authorizedReliance := by
    have hsupporting : admitSupporting env (lenientRequest claim) view [] {} (lenient claim bases) = .ok () := by
      unfold admitSupporting lenientRequest lenient refuseIf
      simp [bind, Except.bind, each]
    rw [hsupporting]
    show outcomeOf (admitEvidence env view {} (lenient claim bases)) = _
    unfold admitEvidence lenient
    simp only [outcomeOf_refuseIf, isEmpty_nil, Bool.not_true, Bool.and_false, Bool.false_and, Option.any_none,
      Bool.false_eq_true, if_false, decide_eq_true_eq]
    by_cases hstale : .staleObservation ∈ view.statusReasons
    · rw [if_pos hstale, if_pos hstale]
    · rw [if_neg hstale, if_neg hstale]
      by_cases hmissing : .missingRequiredClaim ∈ view.statusReasons <;> simp [hmissing, refuseIf, outcomeOf]
  rw [outcomeOn_bound hhash, if_neg (fun h => h rfl), hprofile]
  show outcomeOf (admitRequest env (lenientRequest claim) (lenient claim bases) >>= _) = _
  rw [hrequest]
  show outcomeOf (admitReceipt env (lenientRequest claim) view {} (lenient claim bases) >>= _) = _
  rw [outcomeOf_admitReceipt, hlast]
  simp [lenient, lenientRequest]

end

/-! ## Evaluated receipts -/

section

variable {codec : Codec} {registry : ClaimRegistry} {claim subject generatedAt : String}
  {packets witnesses : List WitnessPacket}
  {fuel : Nat} {r : Receipt} {entry : ClaimEntry}

theorem resolve_reasons (h : resolve codec registry subject witnesses generatedAt fuel entry = some r) :
    (r.status = .verified → r.statusReasons = [.allRequirementsVerified]) ∧
      (.nonMintable ∈ r.statusReasons ↔ ∃ nm, entry = .nonMintable nm) := by
  cases fuel with
  | zero => cases h
  | succ fuel =>
    unfold resolve at h
    dsimp only at h
    cases entry with
    | leaf leaf =>
      cases h
      unfold resolveLeaf
      dsimp only
      split
      · simp
      · split <;> simp
    | composite comp =>
      obtain ⟨t, _, e⟩ := Option.map_eq_some_iff.mp h
      subst e
      unfold Tally.receipt
      dsimp only
      split
      · simp
      · split
        · simp
        · dsimp only
          split <;> simp
    | nonMintable nm =>
      obtain ⟨t, _, e⟩ := Option.map_eq_some_iff.mp h
      subst e
      simp [Weaker.receipt]

theorem resolveClaim_reasons (h : resolveClaim codec registry claim subject witnesses generatedAt fuel = some r) :
    (r.status = .verified → r.statusReasons = [.allRequirementsVerified]) ∧
      (.nonMintable ∈ r.statusReasons ↔ ∃ nm, registry.get claim = some (.nonMintable nm)) := by
  unfold resolveClaim at h
  cases hget : registry.get claim with
  | none =>
    rw [hget] at h
    cases h
    simp [unknownClaim]
  | some entry =>
    rw [hget] at h
    obtain ⟨hverified, hnon⟩ := resolve_reasons h
    exact ⟨hverified, by rw [hnon]; simp⟩

theorem resolveClaim_verified
    (h : resolveClaim codec registry claim subject (applicable subject packets) generatedAt fuel = some r) :
    r.status = .verified ↔ Verifies registry subject packets claim := by
  unfold resolveClaim at h
  cases hget : registry.get claim with
  | none =>
    rw [hget] at h
    cases h
    refine ⟨fun h => (nomatch h), fun h => ?_⟩
    obtain ⟨entry, he⟩ := h.registered
    rw [hget] at he
    cases he
  | some entry =>
    rw [hget] at h
    exact (resolve_sound fuel hget h).1

/-- What reliance reads of a minted receipt. -/
structure Minted (claim subject : String) (packets : List WitnessPacket) (r : Receipt) : Prop where
  about : r.subject = subject
  silent : r.cannotTestify = []
  verified : r.status = .verified ↔ Verifies .trackBStarter subject packets claim
  reasons : r.status = .verified → r.statusReasons = [.allRequirementsVerified]
  nonMintable : .nonMintable ∈ r.statusReasons ↔ ∃ nm, ClaimRegistry.trackBStarter.get claim = some (.nonMintable nm)
  custody : r.witnesses.map (·.custodyBasis) = (applicable subject packets).map (·.custodyBasis)

theorem resolve_silent (h : resolve codec registry subject witnesses generatedAt fuel entry = some r) :
    r.cannotTestify = [] := by
  cases fuel with
  | zero => cases h
  | succ fuel =>
    unfold resolve at h
    dsimp only at h
    cases entry with
    | leaf leaf =>
      cases h
      unfold resolveLeaf
      dsimp only
      split
      · rfl
      · split <;> rfl
    | composite comp =>
      obtain ⟨t, _, e⟩ := Option.map_eq_some_iff.mp h
      subst e
      unfold Tally.receipt
      dsimp only
      split
      · rfl
      · split <;> rfl
    | nonMintable nm =>
      obtain ⟨t, _, e⟩ := Option.map_eq_some_iff.mp h
      subst e
      rfl

theorem resolveClaim_silent (h : resolveClaim codec registry claim subject witnesses generatedAt fuel = some r) :
    r.cannotTestify = [] := by
  unfold resolveClaim at h
  cases hget : registry.get claim with
  | none =>
    rw [hget] at h
    cases h
    rfl
  | some entry =>
    rw [hget] at h
    exact resolve_silent h

theorem exists_mint (claim subject generatedAt : String) (hvalid : ∀ p ∈ packets, p.validate codec = .ok ()) : ∃ r,
    evaluate codec .trackBStarter claim subject packets generatedAt ClaimRegistry.trackBStarter.entries.length =
      some r ∧ Minted claim subject packets r := by
  obtain ⟨base, hbase, hr⟩ := exists_minted subject claim generatedAt hvalid
  refine ⟨_, hr, ?_⟩
  obtain ⟨hreasons, hnon⟩ := resolveClaim_reasons hbase
  have hverified := resolveClaim_verified hbase
  have hsilent := resolveClaim_silent hbase
  have habout := resolveClaim_about hbase
  unfold witnessed
  obtain ⟨hash, e⟩ := sealed_eq codec { base with
    witnesses := (applicable subject packets).map (witnessRef codec)
    observedAtMin := ((applicable subject packets).map (·.observedAt)).min?
    observedAtMax := ((applicable subject packets).map (·.observedAt)).max? }
  rw [e]
  exact ⟨habout.subject, hsilent, hverified, hreasons, hnon, by dsimp only; rw [map_map]; rfl⟩

theorem evaluate_invalid (h : ∃ p ∈ packets, p.validate codec ≠ .ok ()) :
    ∃ r, evaluate codec registry claim subject packets generatedAt fuel = some r ∧ r.contentHash = none := by
  cases hfirst : firstInvalid codec 0 packets with
  | none =>
    obtain ⟨p, hp, hinvalid⟩ := h
    exact absurd (firstInvalid_none.mp hfirst p hp) hinvalid
  | some found =>
    unfold evaluate
    rw [hfirst]
    exact ⟨_, rfl, rfl⟩

end

/-! ## Reliance on what replays -/

section

variable {codec : Codec} {env : Reliance.Env} {r honest : Receipt} {packets : List WitnessPacket}

/-- A decision, and its outcome. -/
theorem exists_decision (env : Reliance.Env) (request : RelianceRequest) (receipt : Receipt) (supporting : List Receipt)
    (evidence : EvidenceContext) (catalog : ProfileCatalog) (generatedAt : String) : ∃ d,
    decideReliance env Receipt.evaluationView request receipt supporting evidence catalog generatedAt = .ok d ∧
      d.decision = outcomeOn env request receipt.evaluationView
        (supporting.map Receipt.evaluationView) evidence catalog := by
  obtain ⟨requestDigest, hrequest⟩ := jcsDigest_ok (env.request_plain request)
  obtain ⟨evidenceDigest, hevidence⟩ := jcsDigest_ok (env.evidence_plain evidence)
  unfold decideReliance RelianceRequest.digest EvidenceContext.digest
  dsimp only
  rw [hrequest, hevidence]
  exact ⟨_, rfl, rfl⟩

/-- Two receipts are relied on alike, under requests bound to each. -/
def ReliedAlike (env : Reliance.Env) (r honest : Receipt) : Prop :=
  ∀ hash hash', r.contentHash = some hash → honest.contentHash = some hash' →
    ∀ (request : RelianceRequest) (supporting : List Receipt) (evidence : EvidenceContext) (catalog : ProfileCatalog)
      (generatedAt : String) (d d' : RelianceReceipt),
      decideReliance env Receipt.evaluationView (bound request hash) r supporting evidence catalog generatedAt = .ok d →
      decideReliance env Receipt.evaluationView (bound request hash') honest supporting evidence catalog generatedAt =
        .ok d' → d.decision = d'.decision

variable {hash hash' : String}

theorem reliedAlike_iff (hhash : r.contentHash = some hash) (hhash' : honest.contentHash = some hash') :
    ReliedAlike env r honest ↔ ∀ request (supporting : List Receipt) evidence catalog,
      outcomeOn env (bound request hash) r.evaluationView (supporting.map Receipt.evaluationView) evidence catalog =
        outcomeOn env (bound request hash') honest.evaluationView
          (supporting.map Receipt.evaluationView) evidence catalog := by
  constructor
  · intro h request supporting evidence catalog
    obtain ⟨d, hd, ed⟩ := exists_decision env (bound request hash) r supporting evidence catalog ""
    obtain ⟨d', hd', ed'⟩ := exists_decision env (bound request hash') honest supporting evidence catalog ""
    rw [← ed, ← ed']
    exact h hash hash' hhash hhash' request supporting evidence catalog "" d d' hd hd'
  · intro h x x' hx hx' request supporting evidence catalog generatedAt d d' hd hd'
    rw [hhash] at hx
    rw [hhash'] at hx'
    cases hx
    cases hx'
    obtain ⟨e, he, ee⟩ := exists_decision env (bound request hash) r supporting evidence catalog generatedAt
    obtain ⟨e', he', ee'⟩ := exists_decision env (bound request hash') honest supporting evidence catalog generatedAt
    rw [hd] at he
    rw [hd'] at he'
    cases he
    cases he'
    rw [ee, ee']
    exact h request supporting evidence catalog

/-- What replay leaves unread of a receipt agrees with the packets it was given. -/
structure UnreadAgrees (codec : Codec) (r : Receipt) (packets : List WitnessPacket) : Prop where
  silent : r.cannotTestify = []
  verifies : Verifies .trackBStarter r.subject packets r.claim ↔
    Verifies .trackBStarter r.subject (deduped codec packets) r.claim
  custody : Verifies .trackBStarter r.subject packets r.claim → ∀ basis,
    (∃ w ∈ r.witnesses, w.custodyBasis.getD "undeclared" = basis) ↔
      ∃ p ∈ packets, p.subject = r.subject ∧ p.custodyBasis.getD "undeclared" = basis

/-- What a receipt and the mint it replays to have in common for reliance. -/
theorem readAlike_iff (h : Minted r.claim r.subject packets honest) {again : Receipt}
    (hagain : Minted r.claim r.subject (deduped codec packets) again)
    (hsame : SameDecision r again) (hsilent : r.cannotTestify = []) :
    ReadAlike r.evaluationView honest.evaluationView ↔ UnreadAgrees codec r packets := by
  have hstatus : r.status = .verified ↔ Verifies .trackBStarter r.subject (deduped codec packets) r.claim := by
    rw [hsame.status]
    exact hagain.verified
  have hbases : ∀ basis, (∃ w ∈ honest.witnesses, w.custodyBasis.getD "undeclared" = basis) ↔
      ∃ p ∈ packets, p.subject = r.subject ∧ p.custodyBasis.getD "undeclared" = basis := by
    intro basis
    have hmem : ∀ b, (∃ w ∈ honest.witnesses, w.custodyBasis = b) ↔
        ∃ p ∈ applicable r.subject packets, p.custodyBasis = b := by
      intro b
      rw [← List.mem_map, ← List.mem_map, h.custody]
    constructor
    · intro hw
      obtain ⟨w, hw, hb⟩ := hw
      obtain ⟨p, hp, e⟩ := (hmem w.custodyBasis).mp ⟨w, hw, rfl⟩
      exact ⟨p, (mem_applicable.mp hp).1, (mem_applicable.mp hp).2, by rw [e, hb]⟩
    · intro hp
      obtain ⟨p, hp, hs, hb⟩ := hp
      obtain ⟨w, hw, e⟩ := (hmem p.custodyBasis).mpr ⟨p, mem_applicable.mpr ⟨hp, hs⟩, rfl⟩
      exact ⟨w, hw, by rw [e, hb]⟩
  have haccepted : ∀ witnesses profile, Accepted profile witnesses ↔
      ∀ basis, (∃ w ∈ witnesses, w.custodyBasis.getD "undeclared" = basis) → basis ∈ profile.acceptedCustodyBases := by
    intro witnesses profile
    constructor
    · intro ha basis hw
      obtain ⟨w, hw, e⟩ := hw
      exact e ▸ ha w hw
    · intro ha w hw
      exact ha _ ⟨w, hw, rfl⟩
  constructor
  · intro halike
    have hverifies : Verifies .trackBStarter r.subject packets r.claim ↔
        Verifies .trackBStarter r.subject (deduped codec packets) r.claim := by
      rw [← h.verified, ← hstatus]
      exact halike.verified.symm
    refine ⟨hsilent, hverifies, fun hv basis => ?_⟩
    have hcustody := halike.custody (hstatus.mpr (hverifies.mp hv))
    rw [← hbases]
    -- the bases of either receipt, as what a profile accepts
    constructor
    · intro hw
      obtain ⟨w, hw, e⟩ := hw
      have hall := (hcustody (lenient "" (honest.witnesses.map (·.custodyBasis.getD "undeclared")))).mpr
        fun w' hw' => List.mem_map.mpr ⟨w', hw', rfl⟩
      obtain ⟨w', hw', e'⟩ := List.mem_map.mp (hall w hw)
      exact ⟨w', hw', e'.trans e⟩
    · intro hw
      obtain ⟨w, hw, e⟩ := hw
      have hall := (hcustody (lenient "" (r.witnesses.map (·.custodyBasis.getD "undeclared")))).mp
        fun w' hw' => List.mem_map.mpr ⟨w', hw', rfl⟩
      obtain ⟨w', hw', e'⟩ := List.mem_map.mp (hall w hw)
      exact ⟨w', hw', e'.trans e⟩
  · intro hagrees
    have hverified : r.status = .verified ↔ honest.status = .verified := by
      rw [hstatus, h.verified, hagrees.verifies]
    refine ⟨h.about.symm, ⟨hsilent, h.silent⟩, ?_, hverified, fun hv => ?_, fun hv profile => ?_⟩
    · show .nonMintable ∈ r.statusReasons ↔ .nonMintable ∈ honest.statusReasons
      rw [hsame.statusReasons, hagain.nonMintable, h.nonMintable]
    · show r.statusReasons = honest.statusReasons
      rw [hsame.statusReasons, h.reasons (hverified.mp hv), hagain.reasons (hsame.status ▸ hv)]
    · rw [haccepted, haccepted]
      show (∀ basis, (∃ w ∈ r.witnesses, _) → _) ↔ ∀ basis, (∃ w ∈ honest.witnesses, _) → _
      simp only [hbases, hagrees.custody (h.verified.mp (hverified.mp hv))]

/-- A lenient reliance authorizes what verifies on accepted witnesses. -/
theorem lenient_authorized (view : EvaluationView) (hhash : view.contentHash = some hash)
    (hsilent : view.cannotTestify = [])
    (hreasons : view.status = .verified → view.statusReasons = [.allRequirementsVerified]) (env : Reliance.Env)
    (claim : String) (bases : List String) :
    outcomeOn env (bound (lenientRequest claim) hash) view [] {} (lenientCatalog claim bases) = .authorizedReliance ↔
      view.status = .verified ∧ Accepted (lenient claim bases) view.witnesses := by
  rw [outcomeOn_lenient hhash, hsilent]
  by_cases hv : view.status = .verified
  · rw [hreasons hv]
    by_cases ha : Accepted (lenient claim bases) view.witnesses <;> simp [hv, ha]
  · by_cases hnon : .nonMintable ∈ view.statusReasons <;> simp [hv, hnon]

/-- A receipt that declines a claim is not relied on for it like one that declines nothing. -/
theorem ReliedAlike.silent (hhash : r.contentHash = some hash) (hhash' : honest.contentHash = some hash')
    (h : ReliedAlike env r honest) (hsilent : honest.cannotTestify = []) : r.cannotTestify = [] := by
  by_contra hne
  obtain ⟨x, hx⟩ := exists_mem_of_ne_nil _ hne
  have hlenient := (reliedAlike_iff hhash hhash').mp h (lenientRequest x.statement)
    [] {} (lenientCatalog x.statement [])
  have hdeclines : r.evaluationView.cannotTestify.any (Text.contains ·.statement x.statement) = true :=
    any_eq_true.mpr ⟨x, hx, decide_eq_true (infix_refl _)⟩
  have hnone : honest.evaluationView.cannotTestify = [] := hsilent
  rw [map_nil, outcomeOn_lenient hhash, outcomeOn_lenient hhash', if_pos hdeclines, hnone, any_nil,
    if_neg Bool.false_ne_true] at hlenient
  split at hlenient
  · cases hlenient
  · split at hlenient
    · cases hlenient
    · split at hlenient
      · split at hlenient
        · cases hlenient
        · split at hlenient <;> cases hlenient
      · cases hlenient

/-- Receipts that are relied on alike are read alike. -/
theorem ReliedAlike.readAlike (hhash : r.contentHash = some hash) (hhash' : honest.contentHash = some hash')
    (h : ReliedAlike env r honest) (hmint : Minted r.claim r.subject packets honest)
    (hreasons : r.status = .verified → r.statusReasons = [.allRequirementsVerified])
    (hnon : .nonMintable ∈ r.statusReasons ↔ .nonMintable ∈ honest.statusReasons) :
    ReadAlike r.evaluationView honest.evaluationView := by
  have hsilent := h.silent hhash hhash' hmint.silent
  have hlenient : ∀ bases, r.status = .verified ∧ Accepted (lenient "" bases) r.witnesses ↔
      honest.status = .verified ∧ Accepted (lenient "" bases) honest.witnesses := by
    intro bases
    have e := (reliedAlike_iff hhash hhash').mp h (lenientRequest "") [] {} (lenientCatalog "" bases)
    have hr := lenient_authorized r.evaluationView hhash hsilent hreasons env "" bases
    have hh := lenient_authorized honest.evaluationView hhash' hmint.silent hmint.reasons env "" bases
    rw [map_nil] at e
    rw [e] at hr
    exact hr.symm.trans hh
  have hverified : r.status = .verified ↔ honest.status = .verified := by
    have hall := hlenient ((r.witnesses ++ honest.witnesses).map (·.custodyBasis.getD "undeclared"))
    have haccepted : ∀ w ∈ r.witnesses ++ honest.witnesses, w.custodyBasis.getD "undeclared" ∈
        (r.witnesses ++ honest.witnesses).map (·.custodyBasis.getD "undeclared") :=
          fun w hw => List.mem_map.mpr ⟨w, hw, rfl⟩
    have hleft : Accepted
        (lenient "" ((r.witnesses ++ honest.witnesses).map (·.custodyBasis.getD "undeclared"))) r.witnesses :=
      fun w hw => haccepted w (mem_append_left _ hw)
    have hright : Accepted (lenient "" ((r.witnesses ++ honest.witnesses).map (·.custodyBasis.getD "undeclared")))
        honest.witnesses :=
      fun w hw => haccepted w (mem_append_right _ hw)
    exact ⟨fun hv => (hall.mp ⟨hv, hleft⟩).1, fun hv => (hall.mpr ⟨hv, hright⟩).1⟩
  refine ⟨hmint.about.symm, ⟨hsilent, hmint.silent⟩, hnon, hverified, fun hv => ?_, fun hv profile => ?_⟩
  · exact (hreasons hv).trans (hmint.reasons (hverified.mp hv)).symm
  · have hall := hlenient profile.acceptedCustodyBases
    exact ⟨fun ha => (hall.mp ⟨hv, ha⟩).2, fun ha => (hall.mpr ⟨hverified.mp hv, ha⟩).2⟩

/-- A sealed receipt that replays is relied on like the receipt its packets evaluate to exactly
    where one of them is invalid, so that their receipt is not sealed, or what replay leaves
    unread agrees with them. -/
theorem replayed_reliance_iff (codec : Codec) (hcodec : codec.Canonicalizes) (env : Reliance.Env) (r : Receipt)
    (hgenuine : r.Genuine codec.hashing) (packets : List WitnessPacket) (opts : ReplayOptions) (report : ReplayReport)
    (hreport : replayReceipt codec r packets opts = some report) (hok : report.status = .ok) : ∃ honest,
    evaluate codec .trackBStarter r.claim r.subject packets r.generatedAt
      ClaimRegistry.trackBStarter.entries.length = some honest ∧
      (ReliedAlike env r honest ↔ (∃ p ∈ packets, p.validate codec ≠ .ok ()) ∨ UnreadAgrees codec r packets) := by
  by_cases hinvalid : ∃ p ∈ packets, p.validate codec ≠ .ok ()
  · obtain ⟨honest, he, hnone⟩ := evaluate_invalid hinvalid
    refine ⟨honest, he, fun _ => Or.inl hinvalid, fun _ hash hash' _ hhash' => ?_⟩
    rw [hnone] at hhash'
    cases hhash'
  · have hvalid : ∀ p ∈ packets, p.validate codec = .ok () := by
      intro p hp
      by_contra hne
      exact hinvalid ⟨p, hp, hne⟩
    obtain ⟨base, hbase, he⟩ := exists_minted r.subject r.claim r.generatedAt hvalid
    obtain ⟨honest, hhonest, hmint⟩ := exists_mint r.claim r.subject r.generatedAt hvalid
    obtain ⟨again, hagain, hsame⟩ := (replay_ok hreport hok).decision
    obtain ⟨again', hagain', hmint'⟩ := exists_mint r.claim r.subject r.generatedAt fun p hp =>
      hvalid p (mem_deduped hp)
    have e : again = again' := Option.some.inj (hagain.symm.trans hagain')
    subst e
    obtain ⟨hash, hhash, _⟩ := hgenuine
    have e : honest = witnessed codec (applicable r.subject packets) base := Option.some.inj (hhonest.symm.trans he)
    obtain ⟨hash', hhash', _⟩ := e ▸ witnessed_genuine hcodec base
    have hreasons : r.status = .verified → r.statusReasons = [.allRequirementsVerified] := by
      rw [hsame.status, hsame.statusReasons]
      exact hmint'.reasons
    have hnon : .nonMintable ∈ r.statusReasons ↔ .nonMintable ∈ honest.statusReasons := by
      rw [hsame.statusReasons, hmint'.nonMintable, hmint.nonMintable]
    refine ⟨honest, hhonest, fun h => Or.inr ?_, fun h => ?_⟩
    · exact (readAlike_iff hmint hmint' hsame (h.silent hhash hhash' hmint.silent)).mp
        (h.readAlike hhash hhash' hmint hreasons hnon)
    · have hagrees := h.resolve_left hinvalid
      rw [reliedAlike_iff hhash hhash']
      intro request supporting evidence catalog
      exact ((readAlike_iff hmint hmint' hsame hagrees.silent).mpr hagrees).outcome_eq
        hhash hhash' env request _ evidence catalog

/-- A receipt with the custody of its witnesses edited, sealed again. -/
def recast (codec : Codec) (basis : Option String) (r : Receipt) : Receipt :=
  sealed codec { r with witnesses := r.witnesses.map fun w => { w with custodyBasis := basis } }

theorem recast_eq (codec : Codec) (basis : Option String) (r : Receipt) : ∃ hash, recast codec basis r = { r with
    witnesses := r.witnesses.map fun w => { w with custodyBasis := basis }
    evaluator := some ⟨"claim_registry", evaluatorVersion⟩
    contentHash := hash } := sealed_eq codec _

/-- Replay does not see the edit. -/
theorem Replays.recast (hcodec : codec.Canonicalizes) (h : Replays codec r packets) (basis : Option String) :
    Replays codec (recast codec basis r) packets := by
  have hgenuine : (Receipts.recast codec basis r).Genuine codec.hashing := sealed_genuine hcodec _
  obtain ⟨hash, e⟩ := recast_eq codec basis r
  obtain ⟨again, hagain, hsame⟩ := h.decision
  rw [e] at hgenuine ⊢
  refine ⟨Or.inr hgenuine, h.schema, rfl, fun w hw d hd => ?_, again, hagain, ?_⟩
  · obtain ⟨w', hw', e'⟩ := List.mem_map.mp hw
    subst e'
    exact h.material w' hw' d hd
  · refine ⟨hsame.claim, hsame.subject, hsame.status, hsame.statusReasons, hsame.verified, hsame.suggestedWeakerClaims,
      hsame.notVerified, hsame.supportedStatus, ?_, hsame.observedAtMin, hsame.observedAtMax⟩
    dsimp only
    rw [map_map]
    exact hsame.witnesses

/-- The receipt of one clean run. -/
theorem exists_pytest_receipt : ∃ r,
    evaluate sampleCodec .trackBStarter "tests_passed" "repo:." [pytestPacket 0] "2026-05-15T14:00:00Z"
      ClaimRegistry.trackBStarter.entries.length = some r ∧
    Minted "tests_passed" "repo:." [pytestPacket 0] r ∧ r.status = .verified ∧ r.Genuine sampleCodec.hashing ∧
    About r "tests_passed" "repo:." "2026-05-15T14:00:00Z" := by
  have hvalid : ∀ p ∈ [pytestPacket 0], p.validate sampleCodec = .ok () :=
    fun p hp => mem_singleton.mp hp ▸ pytestPacket_valid
  obtain ⟨r, hr, hmint⟩ := exists_mint "tests_passed" "repo:." "2026-05-15T14:00:00Z" hvalid
  obtain ⟨base, hbase, hr'⟩ := exists_minted "repo:." "tests_passed" "2026-05-15T14:00:00Z" hvalid
  have e := Option.some.inj (hr.symm.trans hr')
  refine ⟨r, hr, hmint, hmint.verified.mpr (pytest_verifies fun p => mem_singleton), ?_, ?_⟩
  · rw [e]
    exact witnessed_genuine sampleCodec_canonicalizes base
  · rw [e]
    exact witnessed_about sampleCodec _ (resolveClaim_about hbase)

/-- An edited custody basis replays, and is relied on where the honest one is not. -/
theorem a_recast_receipt_is_relied_on : ∃ honest forged hash hash',
    evaluate sampleCodec .trackBStarter "tests_passed" "repo:." [pytestPacket 0] "2026-05-15T14:00:00Z"
      ClaimRegistry.trackBStarter.entries.length = some honest ∧
    forged.Genuine sampleCodec.hashing ∧
    (∃ report, replayReceipt sampleCodec forged [pytestPacket 0] ⟨false, false, none⟩ = some report ∧ report.status =
      .ok) ∧ forged.contentHash = some hash ∧ honest.contentHash = some hash' ∧
    outcomeOn jcsEnv (bound (lenientRequest "tests_passed") hash) forged.evaluationView [] {}
      (lenientCatalog "tests_passed" ["native_observation"]) = .authorizedReliance ∧
    outcomeOn jcsEnv (bound (lenientRequest "tests_passed") hash') honest.evaluationView [] {}
      (lenientCatalog "tests_passed" ["native_observation"]) = .custodyBasisNotAccepted := by
  obtain ⟨honest, he, hmint, hverified, hgenuine, _⟩ := exists_pytest_receipt
  have hvalid : ∀ p ∈ [pytestPacket 0], p.validate sampleCodec = .ok () :=
    fun p hp => mem_singleton.mp hp ▸ pytestPacket_valid
  have hreplays := minted_replays sampleCodec_canonicalizes hvalid (fun _ => Iff.rfl) (pairwise_singleton _ _) he
  have hforged := hreplays.recast sampleCodec_canonicalizes (some "native_observation")
  have hsealed : (recast sampleCodec (some "native_observation") honest).Genuine sampleCodec.hashing :=
    sealed_genuine sampleCodec_canonicalizes _
  obtain ⟨report, hreport, hok, _⟩ := replay_of_replays hforged ⟨false, false, none⟩
  have ⟨hash, hhash, _⟩ := hsealed
  obtain ⟨hash', hhash', _⟩ := hgenuine
  refine ⟨honest, _, hash, hash', he, hsealed, ⟨report, hreport, hok⟩, hhash, hhash', ?_, ?_⟩
  · obtain ⟨hash'', e⟩ := recast_eq sampleCodec (some "native_observation") honest
    rw [e] at hhash ⊢
    refine (lenient_authorized _ hhash hmint.silent (fun _ =>
      hmint.reasons hverified) jcsEnv _ _).mpr ⟨hverified, fun w hw => ?_⟩
    obtain ⟨w', _, ew⟩ := List.mem_map.mp hw
    rw [← ew]
    exact mem_singleton_self _
  · have hbases : honest.witnesses.map (·.custodyBasis) = [none] := hmint.custody
    have hrefused : ¬Accepted (lenient "tests_passed" ["native_observation"]) honest.witnesses := by
      intro ha
      have hmem : none ∈ honest.witnesses.map (·.custodyBasis) := by
        rw [hbases]
        exact mem_singleton_self _
      obtain ⟨w, hw, ew⟩ := List.mem_map.mp hmem
      have hw := ha w hw
      rw [ew] at hw
      exact absurd hw (by decide)
    rw [outcomeOn_lenient hhash']
    show (if honest.cannotTestify.any _ then _ else if .nonMintable ∈ honest.statusReasons then _ else
      if honest.status ≠ .verified then _
        else if Accepted (lenient "tests_passed" ["native_observation"]) honest.witnesses then _ else _) = _
    rw [hmint.silent, hmint.reasons hverified, hverified, if_neg hrefused]
    decide

/-- A receipt of one run is relied on like that of the same packet given twice. -/
theorem a_repeated_packet_is_relied_on_alike : ∃ r honest,
    evaluate sampleCodec .trackBStarter "tests_passed" "repo:." [pytestPacket 0] "2026-05-15T14:00:00Z"
      ClaimRegistry.trackBStarter.entries.length = some r ∧
    evaluate sampleCodec .trackBStarter "tests_passed" "repo:." [pytestPacket 0, pytestPacket 0] "2026-05-15T14:00:00Z"
      ClaimRegistry.trackBStarter.entries.length = some honest ∧
    ReliedAlike jcsEnv r honest := by
  obtain ⟨r, he, hmint, _, hgenuine, habout⟩ := exists_pytest_receipt
  have hvalid : ∀ p ∈ [pytestPacket 0], p.validate sampleCodec = .ok () :=
    fun p hp => mem_singleton.mp hp ▸ pytestPacket_valid
  have htwice : ∀ p, p ∈ [pytestPacket 0, pytestPacket 0] ↔ p = pytestPacket 0 := fun p => by simp
  have hreplays := minted_replays sampleCodec_canonicalizes hvalid (fun p => (htwice p).trans mem_singleton.symm)
    (pairwise_singleton _ _) he
  obtain ⟨report, hreport, hok, _⟩ := replay_of_replays hreplays ⟨false, false, none⟩
  obtain ⟨honest, hhonest, hiff⟩ := replayed_reliance_iff sampleCodec sampleCodec_canonicalizes jcsEnv r hgenuine
    [pytestPacket 0, pytestPacket 0] ⟨false, false, none⟩ report hreport hok
  rw [habout.claim, habout.subject, habout.generatedAt] at hhonest
  refine ⟨r, honest, he, hhonest, hiff.mpr (Or.inr ⟨hmint.silent, ?_, fun _ basis => ?_⟩)⟩
  · rw [habout.claim, habout.subject]
    have hsome : ∃ q, q ∈ deduped sampleCodec [pytestPacket 0, pytestPacket 0] := by
      obtain ⟨d, hd⟩ := exists_digest sampleCodec_canonicalizes (pytestPacket 0)
      obtain ⟨q, hq, _⟩ := exists_mem_deduped ((htwice _).mpr rfl) hd
      exact ⟨q, hq⟩
    obtain ⟨q, hq⟩ := hsome
    have hq' := (htwice q).mp (mem_deduped hq)
    have hdeduped : ∀ p, p ∈ deduped sampleCodec [pytestPacket 0, pytestPacket 0] ↔ p = pytestPacket 0 := by
      refine fun p => ⟨fun hp => (htwice p).mp (mem_deduped hp), fun e => ?_⟩
      rw [e.trans hq'.symm]
      exact hq
    exact ⟨fun _ => pytest_verifies hdeduped, fun _ => pytest_verifies htwice⟩
  · rw [habout.subject]
    have hbases : r.witnesses.map (·.custodyBasis) = [none] := hmint.custody
    have hmem : ∀ b, (∃ w ∈ r.witnesses, w.custodyBasis = b) ↔ b = none := by
      intro b
      rw [← List.mem_map, hbases, mem_singleton]
    constructor
    · intro hw
      obtain ⟨w, hw, e⟩ := hw
      have ew := (hmem w.custodyBasis).mp ⟨w, hw, rfl⟩
      rw [ew] at e
      exact ⟨pytestPacket 0, mem_cons_self, rfl, e⟩
    · intro hp
      obtain ⟨p, hp, _, e⟩ := hp
      obtain ⟨w, hw, ew⟩ := (hmem none).mpr rfl
      rw [(htwice p).mp hp] at e
      exact ⟨w, hw, by rw [ew]; exact e⟩

end

end Nq.Receipts
