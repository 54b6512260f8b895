/-
  Nq.Reliance.Strictness — harsher terms never authorize (`nq/src/reliance.rs`).

  One case is at least as harsh as another when its profiles permit no more and require no
  less, its receipt carries every witness, refusal and status reason of the other's, and its
  evidence is no younger and holds whatever the other's holds against reliance. Each conjunct
  of a decision only gets harder to meet this way (`Authorizable.of_le`), so what is
  authorized is downward closed in that order (`reliance_monotone`).
-/

import Mathlib.Order.UpperLower.Basic
import Nq.Reliance.Decide

namespace Nq.Reliance

open List hiding le_refl le_trans

/-! ## Harsher terms -/

/-- `q` permits no more than `p` and requires no less. -/
structure ConsumerProfile.Tightens (p q : ConsumerProfile) : Prop where
  consumerProfileId : q.consumerProfileId = p.consumerProfileId
  allowedClaims : q.allowedClaims ⊆ p.allowedClaims
  allowedPurposes : q.allowedPurposes ⊆ p.allowedPurposes
  acceptedCustodyBases : q.acceptedCustodyBases ⊆ p.acceptedCustodyBases
  maxEvidenceAgeS : q.maxEvidenceAgeS ≤ p.maxEvidenceAgeS
  premisePolicy : p.premisePolicy = .requireAllEnforceable → q.premisePolicy = .requireAllEnforceable
  contradictionPolicy : p.contradictionPolicy = .refuseOnRetained → q.contradictionPolicy = .refuseOnRetained
  residualPolicy : p.residualPolicy = .refuseOnUnresolved → q.residualPolicy = .refuseOnUnresolved
  requiredSupportingClaims : p.requiredSupportingClaims ⊆ q.requiredSupportingClaims

instance : Preorder ConsumerProfile where
  le := ConsumerProfile.Tightens
  le_refl p := ⟨rfl, fun _ => id, fun _ => id, fun _ => id, Nat.le_refl _, id, id, id, fun _ => id⟩
  le_trans p q r h h' :=
    { consumerProfileId := h'.consumerProfileId.trans h.consumerProfileId
      allowedClaims := List.Subset.trans h'.allowedClaims h.allowedClaims
      allowedPurposes := List.Subset.trans h'.allowedPurposes h.allowedPurposes
      acceptedCustodyBases := List.Subset.trans h'.acceptedCustodyBases h.acceptedCustodyBases
      maxEvidenceAgeS := Nat.le_trans h'.maxEvidenceAgeS h.maxEvidenceAgeS
      premisePolicy := h'.premisePolicy ∘ h.premisePolicy
      contradictionPolicy := h'.contradictionPolicy ∘ h.contradictionPolicy
      residualPolicy := h'.residualPolicy ∘ h.residualPolicy
      requiredSupportingClaims := List.Subset.trans h.requiredSupportingClaims h'.requiredSupportingClaims }

/-- `v'` is a receipt of the same claim with more said against it. -/
structure EvaluationView.Worsens (v v' : EvaluationView) : Prop where
  claim : v'.claim = v.claim
  subject : v'.subject = v.subject
  status : v'.status = v.status
  statusReasons : v.statusReasons ⊆ v'.statusReasons
  cannotTestify : v.cannotTestify ⊆ v'.cannotTestify
  witnesses : v.witnesses ⊆ v'.witnesses
  contentHash : v'.contentHash = v.contentHash

instance : Preorder EvaluationView where
  le := EvaluationView.Worsens
  le_refl v := ⟨rfl, rfl, rfl, fun _ => id, fun _ => id, fun _ => id, rfl⟩
  le_trans u v w h h' :=
    { claim := h'.claim.trans h.claim
      subject := h'.subject.trans h.subject
      status := h'.status.trans h.status
      statusReasons := List.Subset.trans h.statusReasons h'.statusReasons
      cannotTestify := List.Subset.trans h.cannotTestify h'.cannotTestify
      witnesses := List.Subset.trans h.witnesses h'.witnesses
      contentHash := h'.contentHash.trans h.contentHash }

/-- An age that is no younger, no age being the youngest. -/
def NoYounger (age age' : Option Nat) : Prop := ∀ a ∈ age, ∃ a' ∈ age', a ≤ a'

theorem NoYounger.refl (age : Option Nat) : NoYounger age age := fun a h => ⟨a, h, Nat.le_refl a⟩

variable {age age' : Option Nat}

theorem NoYounger.trans {age'' : Option Nat} (h : NoYounger age age') (h' : NoYounger age' age'') :
    NoYounger age age'' := by
  intro a ha
  obtain ⟨a', ha', hle⟩ := h a ha
  obtain ⟨a'', ha'', hle'⟩ := h' a' ha'
  exact ⟨a'', ha'', Nat.le_trans hle hle'⟩

theorem NoYounger.bounded (h : NoYounger age age') {limit limit' : Nat} (hlimit : limit' ≤ limit)
    (hold : ∀ a ∈ age', a ≤ limit') : ∀ a ∈ age, a ≤ limit := by
  intro a ha
  obtain ⟨a', ha', hle⟩ := h a ha
  have hle' := hold a' ha'
  omega

/-- Evidence that is no younger, with whatever the other holds against reliance; coverage
limits and premises are only disclosed. -/
structure EvidenceContext.Worsens (e e' : EvidenceContext) : Prop where
  unenforceablePremises : e.unenforceablePremises ⊆ e'.unenforceablePremises
  unresolvedResiduals : e.unresolvedResiduals ⊆ e'.unresolvedResiduals
  retainedContradictions : e.retainedContradictions ⊆ e'.retainedContradictions
  evidenceAgeS : NoYounger e.evidenceAgeS e'.evidenceAgeS
  supportingEvidenceAgeS : NoYounger e.supportingEvidenceAgeS e'.supportingEvidenceAgeS

instance : Preorder EvidenceContext where
  le := EvidenceContext.Worsens
  le_refl e := ⟨fun _ => id, fun _ => id, fun _ => id, .refl _, .refl _⟩
  le_trans e e' e'' h h' :=
    { unenforceablePremises := List.Subset.trans h.unenforceablePremises h'.unenforceablePremises
      unresolvedResiduals := List.Subset.trans h.unresolvedResiduals h'.unresolvedResiduals
      retainedContradictions := List.Subset.trans h.retainedContradictions h'.retainedContradictions
      evidenceAgeS := h.evidenceAgeS.trans h'.evidenceAgeS
      supportingEvidenceAgeS := h.supportingEvidenceAgeS.trans h'.supportingEvidenceAgeS }

theorem forall₂_le_trans {α : Type} [Preorder α] {l l' l'' : List α} (h : List.Forall₂ (· ≤ ·) l l')
    (h' : List.Forall₂ (· ≤ ·) l' l'') : List.Forall₂ (· ≤ ·) l l'' := by
  induction h generalizing l'' with
  | nil => exact h'
  | cons hab _ ih =>
    cases h' with
    | cons hbc h' => exact .cons (hab.trans hbc) (ih h')

/-- Profile by profile. -/
instance : Preorder ProfileCatalog where
  le c c' := List.Forall₂ (· ≤ ·) c.profiles c'.profiles
  le_refl c := forall₂_refl c.profiles
  le_trans _ _ _ h h' := forall₂_le_trans h h'

/-- What a decision is asked. -/
structure Case where
  request : RelianceRequest
  receipt : EvaluationView
  supporting : List EvaluationView
  evidence : EvidenceContext
  catalog : ProfileCatalog

/-- `c'` asks the same on harsher terms. -/
structure Case.Worsens (c c' : Case) : Prop where
  request : c'.request = c.request
  receipt : c.receipt ≤ c'.receipt
  supporting : c'.supporting = c.supporting
  evidence : c.evidence ≤ c'.evidence
  catalog : c.catalog ≤ c'.catalog

instance : Preorder Case where
  le := Case.Worsens
  le_refl c := ⟨rfl, le_refl _, rfl, le_refl _, le_refl _⟩
  le_trans _ _ _ h h' :=
    ⟨h'.request.trans h.request, h.receipt.trans h'.receipt, h'.supporting.trans h.supporting,
      h.evidence.trans h'.evidence, h.catalog.trans h'.catalog⟩

def Case.Authorizable (c : Case) : Prop :=
  ∃ profile, Reliance.Authorizable c.request c.receipt c.supporting c.evidence c.catalog profile

/-! ## Conjunct by conjunct -/

theorem ProfileCatalog.get_of_le {c c' : ProfileCatalog} (h : c ≤ c') {id : String} {q : ConsumerProfile}
    (hq : c'.get id = some q) :
    ∃ p, c.get id = some p ∧ p ≤ q := by
  have h : List.Forall₂ (· ≤ ·) c.profiles c'.profiles := h
  unfold ProfileCatalog.get at hq ⊢
  generalize c.profiles = l at h
  generalize c'.profiles = l' at h hq
  induction h with
  | nil => cases hq
  | @cons p q' l l' hp _ ih =>
    have hid : q'.consumerProfileId = p.consumerProfileId := hp.consumerProfileId
    by_cases he : p.consumerProfileId = id
    · rw [find?_cons_of_pos (by rw [hid]; exact decide_eq_true he)] at hq
      cases hq
      exact ⟨p, find?_cons_of_pos (decide_eq_true he), hp⟩
    · rw [find?_cons_of_neg (by rw [hid]; exact fun h => he (of_decide_eq_true h))] at hq
      obtain ⟨p', hp', hle⟩ := ih hq
      refine ⟨p', ?_, hle⟩
      rw [find?_cons_of_neg (by exact fun h => he (of_decide_eq_true h))]
      exact hp'

section

variable {p q : ConsumerProfile} {required : String} {supporting : List EvaluationView}

theorem Supports.of_le (h : p ≤ q) {s : EvaluationView} (hs : Supports q required s) : Supports p required s :=
  ⟨hs.testifies, hs.fresh, fun hp => hs.contradiction (h.contradictionPolicy hp), hs.verified⟩

theorem Required.of_le (h : p ≤ q) {subject : String} (hr : Required subject supporting q required) :
    Required subject supporting p required :=
  ⟨hr.bound, fun s hs hc hsub => (hr.each s hs hc hsub).of_le h⟩

theorem Authorizable.of_le {request : RelianceRequest} {receipt receipt' : EvaluationView}
    {evidence evidence' : EvidenceContext} {catalog catalog' : ProfileCatalog} (hreceipt : receipt ≤ receipt')
    (hevidence : evidence ≤ evidence') (hle : p ≤ q) (hnamed : catalog.get request.consumerProfileId = some p)
    (h : Authorizable request receipt' supporting evidence' catalog' q) :
    Authorizable request receipt supporting evidence catalog p where
  schema := h.schema
  fence := hreceipt.contentHash.symm.trans h.fence
  named := hnamed
  claim := hle.allowedClaims h.claim
  purpose := hle.allowedPurposes h.purpose
  testifies r hr := h.testifies r (hreceipt.cannotTestify hr)
  mintable hr := h.mintable (hreceipt.statusReasons hr)
  verified := hreceipt.status.symm.trans h.verified
  contradiction hp := by
    obtain ⟨hnot, hnone⟩ := h.contradiction (hle.contradictionPolicy hp)
    exact ⟨fun hr => hnot (hreceipt.statusReasons hr), subset_nil.mp (hnone ▸ hevidence.retainedContradictions)⟩
  custody w hw := hle.acceptedCustodyBases (h.custody w (hreceipt.witnesses hw))
  supplied := h.supplied
  listed := h.listed
  required c hc := by
    have hrequired := h.required c (hle.requiredSupportingClaims hc)
    rw [hreceipt.subject] at hrequired
    exact hrequired.of_le hle
  supportingAge hne := by
    have hne' : q.requiredSupportingClaims ≠ [] := fun e => hne (subset_nil.mp (e ▸ hle.requiredSupportingClaims))
    exact hevidence.supportingEvidenceAgeS.bounded hle.maxEvidenceAgeS (h.supportingAge hne')
  premises hp := subset_nil.mp (h.premises (hle.premisePolicy hp) ▸ hevidence.unenforceablePremises)
  residuals hp := subset_nil.mp (h.residuals (hle.residualPolicy hp) ▸ hevidence.unresolvedResiduals)
  fresh hr := h.fresh (hreceipt.statusReasons hr)
  age := hevidence.evidenceAgeS.bounded hle.maxEvidenceAgeS h.age
  covered hr := h.covered (hreceipt.statusReasons hr)

end

theorem Case.Authorizable.of_le {c c' : Case} (hle : c ≤ c') (h : c'.Authorizable) : c.Authorizable := by
  obtain ⟨q, hq⟩ := h
  have hnamed := hq.named
  rw [hle.request] at hq hnamed
  rw [hle.supporting] at hq
  obtain ⟨p, hp, hpq⟩ := ProfileCatalog.get_of_le hle.catalog hnamed
  exact ⟨p, hq.of_le hle.receipt hle.evidence hpq hp⟩

/-! ## Decisions -/

/-- What a decision does not authorize it does not authorize on harsher terms either: the
authorized cases are a lower set. -/
theorem reliance_monotone (env : Env) {R : Type} (evaluationView : R → EvaluationView)
    (generatedAt generatedAt' : String) :
    (∀ (request : RelianceRequest) (receipt receipt' : R) (supporting : List R) (evidence evidence' : EvidenceContext)
        (catalog catalog' : ProfileCatalog),
      evaluationView receipt ≤ evaluationView receipt' → evidence ≤ evidence' → catalog ≤ catalog' →
      (∀ d, decideReliance env evaluationView request receipt supporting evidence catalog generatedAt = .ok d →
        d.decision ≠ .authorizedReliance) →
      ∀ d', decideReliance env evaluationView request receipt' supporting evidence' catalog' generatedAt' = .ok d' →
        d'.decision ≠ .authorizedReliance) ∧
    IsLowerSet {c : Case | ∃ d,
      decideReliance env id c.request c.receipt c.supporting c.evidence c.catalog generatedAt = .ok d ∧
      d.decision = .authorizedReliance} := by
  constructor
  · intro request receipt receipt' supporting evidence evidence' catalog catalog' hreceipt hevidence hcatalog hrefused d' hd' ha
    have hle : Case.mk request (evaluationView receipt) (supporting.map evaluationView) evidence catalog ≤
        Case.mk request (evaluationView receipt') (supporting.map evaluationView) evidence' catalog' :=
      ⟨rfl, hreceipt, rfl, hevidence, hcatalog⟩
    have hauthorizable := Case.Authorizable.of_le hle (decideReliance_authorized.mp ⟨d', hd', ha⟩)
    obtain ⟨profile, hauthorizable⟩ := hauthorizable
    have hexists : ∃ d, decideReliance env evaluationView request receipt supporting evidence catalog generatedAt =
      .ok d ∧ d.decision = .authorizedReliance := decideReliance_authorized.mpr ⟨profile, hauthorizable⟩
    obtain ⟨d, hd, hauthorized⟩ := hexists
    exact hrefused d hd hauthorized
  · intro c' c hle h
    have h' := decideReliance_authorized.mp h
    rw [map_id] at h'
    refine decideReliance_authorized.mpr ?_
    rw [map_id]
    exact Case.Authorizable.of_le hle h'

/-- The operator's profile with every term made harsher. -/
def lockedReview : ConsumerProfile :=
  { operatorReview with
    allowedClaims := ["nq_evaluator_state"]
    allowedPurposes := ["review"]
    acceptedCustodyBases := ["native_observation"]
    maxEvidenceAgeS := 60
    premisePolicy := .requireAllEnforceable
    contradictionPolicy := .refuseOnRetained
    residualPolicy := .refuseOnUnresolved
    requiredSupportingClaims := ["sqlite_wal_state"] }

/-- A review with evidence a week old is refused, and so is one under harsher terms. -/
theorem a_stale_review_stays_refused :
    (∀ d, decideReliance jcsEnv Receipt.evaluationView (reviewOf "nq_evaluator_state" selfHash)
      selfReceipt [] { evidenceAgeS := some 604800 }
      reviewCatalog "2026-07-26T00:00:00Z" = .ok d → d.decision ≠ .authorizedReliance) ∧
    ∀ d, decideReliance jcsEnv Receipt.evaluationView (reviewOf "nq_evaluator_state" selfHash) selfReceipt []
      { evidenceAgeS := some 604801, supportingEvidenceAgeS := some 1,
        unresolvedResiduals := ["the disk is not replaced"] }
      ⟨relianceProfilesSchema, "v1", [lockedReview]⟩ "2026-07-27T00:00:00Z" = .ok d →
        d.decision ≠ .authorizedReliance := by
  have hstale : ∀ d, decideReliance jcsEnv Receipt.evaluationView
    (reviewOf "nq_evaluator_state" selfHash) selfReceipt []
      { evidenceAgeS := some 604800 } reviewCatalog "2026-07-26T00:00:00Z" = .ok d →
        d.decision ≠ .authorizedReliance := by
    intro d hd ha
    obtain ⟨profile, hauthorizable⟩ := decideReliance_authorized.mp ⟨d, hd, ha⟩
    have hnamed : reviewCatalog.get "operator-review" = some profile := hauthorizable.named
    cases hnamed
    exact absurd (hauthorizable.age 604800 rfl) (by decide)
  have htighter : operatorReview ≤ lockedReview :=
    { consumerProfileId := rfl
      allowedClaims := by decide
      allowedPurposes := by decide
      acceptedCustodyBases := by decide
      maxEvidenceAgeS := by decide
      premisePolicy := fun _ => rfl
      contradictionPolicy := fun _ => rfl
      residualPolicy := fun _ => rfl
      requiredSupportingClaims := nil_subset _ }
  refine ⟨hstale, (reliance_monotone jcsEnv Receipt.evaluationView _ _).1 _ selfReceipt selfReceipt []
    _ _ reviewCatalog _ (le_refl _) ?_
    (List.Forall₂.cons htighter List.Forall₂.nil) hstale⟩
  exact
    { unenforceablePremises := nil_subset _
      unresolvedResiduals := nil_subset _
      retainedContradictions := nil_subset _
      evidenceAgeS := fun a ha => ⟨604801, rfl, by cases ha; decide⟩
      supportingEvidenceAgeS := fun _ ha => (nomatch ha) }

end Nq.Reliance
