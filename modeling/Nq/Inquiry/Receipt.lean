/-
  Nq.Inquiry.Receipt — sealing a receipt (`nq-core/src/inquiry.rs`).

  Sealing puts the vectors of a receipt in order, checks it against its witness plan, its
  observations and its grant, and digests it. The checks come to one condition
  (`verifyTlsEnvelope_ok`). Counters are summed as a machine sums them; the work units of a
  sealed receipt are few enough that no sum of counters wraps (`Completed.sums`), so a
  sealed receipt accounts for everything that was spent (`sealed_accounts`).
-/

import Mathlib.Algebra.Group.Action.Defs
import Mathlib.Algebra.GroupWithZero.Nat
import Mathlib.Algebra.Order.BigOperators.Group.List
import Nq.Inquiry.Ratchet
import Nq.Inquiry.Request

namespace Nq.Inquiry

open Collections
open List

/-! ## Spend -/

def AcquisitionSpend.countedWorkUnits (s : AcquisitionSpend) : Nat :=
  s.dnsAttempts + s.connectionAttempts + s.handshakesAttempted + s.boundChecks

/-- `+=` on every counter: `u32`s, but for the wall clock and the work units. -/
def AcquisitionSpend.add (a b : AcquisitionSpend) : AcquisitionSpend where
  dnsAttempts := (a.dnsAttempts + b.dnsAttempts) % 2 ^ 32
  connectionAttempts := (a.connectionAttempts + b.connectionAttempts) % 2 ^ 32
  handshakesAttempted := (a.handshakesAttempted + b.handshakesAttempted) % 2 ^ 32
  handshakesCompleted := (a.handshakesCompleted + b.handshakesCompleted) % 2 ^ 32
  boundChecks := (a.boundChecks + b.boundChecks) % 2 ^ 32
  wallMs := (a.wallMs + b.wallMs) % 2 ^ 64
  workUnits := (a.workUnits + b.workUnits) % 2 ^ 64

/-! ## Observations -/

/-- The outcomes that refuse an inquiry. -/
def TlsOutcome.refuses : TlsOutcome → Bool
  | .resolutionFailed | .connectionFailed | .tlsHandshakeFailed | .noCertificatePresented | .acquisitionBoundRefused =>
      true
  | _ => false

def TlsValidationResult.isInvalid : TlsValidationResult → Bool
  | .invalid _ => true
  | _ => false

def TlsObservation.hasRefusal (o : TlsObservation) (kind : RefusalKind) : Bool := o.refusals.any (·.kind = kind)

def TlsObservation.certificateObserved (o : TlsObservation) : Bool :=
  o.certificateDigest.isSome && o.chainDigest.isSome && !o.chainFingerprints.isEmpty &&
    o.notBefore.isSome && o.notAfter.isSome

def TlsObservation.noCertificateEvidence (o : TlsObservation) : Bool :=
  o.certificateDigest.isNone && o.chainDigest.isNone && o.chainFingerprints.isEmpty && o.notBefore.isNone &&
    o.notAfter.isNone

/-- What an outcome asks of the rest of its observation. -/
def TlsObservation.shapeIsValid (o : TlsObservation) : Bool :=
  let completed := o.spend.handshakesCompleted = 1
  match o.outcome with
  | .resolutionFailed => o.spend.connectionAttempts = 0 && o.spend.handshakesAttempted = 0 && o.observedIp.isNone &&
      o.noCertificateEvidence && o.validationResult = .notAttempted && o.hasRefusal .resolutionFailed
  | .connectionFailed => o.spend.connectionAttempts = 1 && o.spend.handshakesAttempted = 0 && o.observedIp.isSome &&
      o.noCertificateEvidence && o.validationResult = .notAttempted && o.hasRefusal .connectionFailed
  | .tlsHandshakeFailed => o.spend.handshakesAttempted = 1 && !completed && o.observedIp.isSome &&
      o.noCertificateEvidence && o.validationResult = .notAttempted && o.hasRefusal .tlsHandshakeFailed
  | .noCertificatePresented => completed && !o.certificateObserved &&
      o.observedIp.isSome && o.hasRefusal .evidenceAbsent
  | .nameMismatch | .expiredUnderAcquisitionClock =>
    completed && o.certificateObserved && o.observedIp.isSome && o.validationResult.isInvalid
  | .chainInvalid => completed && o.certificateObserved && o.observedIp.isSome && o.validationResult.isInvalid
  | .validNowButExpiresWithinHorizon | .validBeyondExpiryHorizon =>
    completed && o.certificateObserved && o.observedIp.isSome && o.validationResult = .valid
  | .acquisitionBoundRefused => o.hasRefusal .acquisitionBoundCannotBeHonored

section

variable (env : Env)

def parseOptional (field : String) : Option String → Except String Unit
  | none => .ok ()
  | some value => do
    let _ ← parseRfc3339 env field value
    pure ()

def TlsObservation.verifyShape (o : TlsObservation) : Except String Unit := do
  rejectIf (o.certificateDigest.any (!isSha256Digest ·) || o.chainDigest.any (!isSha256Digest ·))
    "TLS observation carries a malformed SHA-256 digest"
  parseOptional env "tls_observations[].not_before" o.notBefore
  parseOptional env "tls_observations[].not_after" o.notAfter
  rejectIf (!o.shapeIsValid) "TLS observation outcome contradicts its evidence or refusal"

/-- The bounds of one target. -/
def TlsObservation.exceeds (o : TlsObservation) (bounds : AcquisitionBounds) : Bool :=
  o.spend.workUnits ≠ o.spend.countedWorkUnits || o.spend.handshakesCompleted > o.spend.handshakesAttempted ||
    o.spend.connectionAttempts > o.spend.dnsAttempts || o.spend.handshakesAttempted > o.spend.connectionAttempts ||
    o.spend.dnsAttempts > 1 || o.spend.connectionAttempts > 1 || o.spend.handshakesAttempted > 1 ||
      o.spend.boundChecks > 1 ||
    o.spend.wallMs > bounds.perTargetDeadlineMs

/-- Checks the observations one by one and sums what they spent. -/
def sumObservations (plan : WitnessPlan) (cannotTestify : List Refusal) (observed : List TlsTarget)
    (summed : AcquisitionSpend) : List TlsObservation → Except String AcquisitionSpend
  | [] => .ok summed
  | o :: rest => do
    let _ ← parseRfc3339 env "tls_observations[].acquired_at" o.acquiredAt
    o.verifyShape env
    rejectIf (o.target ∉ plan.targets || o.target ∈ observed)
      "TLS inquiry observation target is undeclared or duplicated"
    rejectIf (o.exceeds plan.bounds) "TLS target observation exceeded its resolved bounds"
    rejectIf (o.refusals.any (· ∉ cannotTestify)) "TLS target refusal is missing from receipt cannot_testify"
    sumObservations plan cannotTestify (o.target :: observed) (summed.add o.spend) rest

/-! ## Envelopes -/

def Receipt.verifyGrantBinding (r : Receipt) (acquisition : AcquisitionSpend) : Except String Unit :=
  match r.grantDigest, r.authorizedAcquisitionEnvelope, r.observedAcquisitionSpend with
  | none, none, none => .ok ()
  | some grantDigest, some authorized, some observed => do
    rejectIf (!isSha256Digest grantDigest) "inquiry receipt grant_digest must be a canonical SHA-256 digest"
    rejectIf (observed ≠ acquisition) "inquiry receipt observed spend does not match acquisition accounting"
    rejectIf (!spendIsPointwiseAtMost observed authorized)
      "inquiry receipt observed spend exceeds its authorized envelope"
  | _, _, _ => .error "inquiry receipt grant binding must be wholly present or wholly absent"

def Receipt.verifyReportEnvelope (r : Receipt) : Except String Unit := do
  rejectIf (r.acquisitionSpend ≠ 0 || r.acquisition.isSome || r.witnessPlan.isSome || !r.tlsObservations.isEmpty ||
      r.grantDigest.isSome || r.authorizedAcquisitionEnvelope.isSome || r.observedAcquisitionSpend.isSome)
    "report inquiry requires zero acquisition and no active payload"
  rejectIf (r.request.selector.isNone || !r.request.requestedTargets.isEmpty || !r.request.admittedTargets.isEmpty)
    "report inquiry request has invalid selector/target shape"
  rejectIf (r.disposition = .perTargetOutcomes) "report inquiry cannot use per_target_outcomes disposition"

inductive TlsEnvelopeShape where
  | completedPerTargetOutcomes | preAcquisitionGrantRefusal
  deriving DecidableEq, Repr

def RefusalKind.isGrantRefusal : RefusalKind → Bool
  | .grantRequired | .grantMalformed | .grantScopeInsufficient | .grantDepthInsufficient
  | .grantAcquisitionEnvelopeInsufficient | .grantWitnessClassNotPermitted => true
  | _ => false

def Receipt.tlsEnvelopeShape (r : Receipt) : Except String TlsEnvelopeShape :=
  match r.disposition, r.status, r.cannotTestify.any (·.kind.isGrantRefusal) with
  | .perTargetOutcomes, _, _ => .ok .completedPerTargetOutcomes
  | .cannotTestify, .refused, true => .ok .preAcquisitionGrantRefusal
  | _, _, _ => .error "TLS inquiry envelope is neither completed per-target outcomes nor a pre-acquisition grant refusal"

/-- The refusals of an inquiry without a usable grant. -/
def RefusalKind.deniesGrant (k : RefusalKind) : Bool := k = .grantRequired || k = .grantMalformed

def Receipt.verifyPreAcquisitionGrantRefusal (r : Receipt) (acquisition : AcquisitionSpend) : Except String Unit := do
  rejectIf (!r.tlsObservations.isEmpty || r.acquisitionSpend ≠ 0 || acquisition ≠ {})
    "pre-acquisition grant refusal requires zero spend and no per-target testimony"
  rejectIf (r.cannotTestify.any (·.kind.deniesGrant) &&
      (r.grantDigest.isSome || r.authorizedAcquisitionEnvelope.isSome || r.observedAcquisitionSpend.isSome))
    "missing or malformed grant refusal cannot carry a grant binding"
  r.verifyGrantBinding acquisition

/-- The rest of the checks where every target has an outcome. -/
def Receipt.verifyCompleted (r : Receipt) (plan : WitnessPlan)
    (acquisition : AcquisitionSpend) : Except String Unit := do
  rejectIf (acquisition.workUnits = 0 || acquisition.workUnits ≠ acquisition.countedWorkUnits ||
      r.acquisitionSpend ≠ acquisition.workUnits)
    "TLS inquiry acquisition_spend must be the positive counted work-unit sum"
  rejectIf (acquisition.dnsAttempts > plan.bounds.maxDnsAttempts ||
      acquisition.connectionAttempts > plan.bounds.maxConnectionAttempts ||
      acquisition.handshakesAttempted > plan.bounds.maxHandshakesAttempted ||
      acquisition.boundChecks > plan.bounds.maxBoundChecks ||
        acquisition.connectionAttempts > acquisition.dnsAttempts ||
      acquisition.handshakesAttempted > acquisition.connectionAttempts ||
      acquisition.handshakesCompleted > acquisition.handshakesAttempted ||
      acquisition.workUnits > plan.bounds.maxWorkUnits || acquisition.wallMs > plan.bounds.totalDeadlineMs)
    "TLS inquiry acquisition exceeded its resolved bounds"
  rejectIf (r.tlsObservations.length ≠ plan.targets.length)
    "TLS inquiry requires exactly one observation per admitted target"
  let summed ← sumObservations env plan r.cannotTestify [] {} r.tlsObservations
  rejectIf (summed.dnsAttempts ≠ acquisition.dnsAttempts || summed.connectionAttempts ≠
    acquisition.connectionAttempts || summed.handshakesAttempted ≠ acquisition.handshakesAttempted ||
      summed.handshakesCompleted ≠ acquisition.handshakesCompleted || summed.boundChecks ≠ acquisition.boundChecks ||
      summed.wallMs > acquisition.wallMs || summed.workUnits ≠ acquisition.workUnits)
    "TLS inquiry aggregate spend does not equal target accounting"
  let shouldRefuse := r.tlsObservations.any (·.outcome.refuses)
  rejectIf ((shouldRefuse && r.status ≠ .refused) || (!shouldRefuse && r.status ≠ .answered))
    "TLS inquiry status contradicts its target outcomes"
  r.verifyGrantBinding acquisition

def Receipt.verifyByShape (r : Receipt) (plan : WitnessPlan) (acquisition : AcquisitionSpend) :
    TlsEnvelopeShape → Except String Unit
  | .completedPerTargetOutcomes => r.verifyCompleted env plan acquisition
  | .preAcquisitionGrantRefusal => r.verifyPreAcquisitionGrantRefusal acquisition

def Receipt.verifyTlsEnvelope (r : Receipt) : Except String Unit := do
  rejectIf (r.request.selector.isSome || r.sourceSnapshot.isSome || r.findingState.isSome ||
    !r.evidenceReceipts.isEmpty || r.evidenceCoverage ≠ {})
    "TLS inquiry must carry only per-target active testimony"
  rejectIf (!r.cannotTestify.any (·.kind = .consequenceAuthority))
    "TLS inquiry requires a consequence_authority refusal"
  let plan ← okOr r.witnessPlan "TLS inquiry receipt is missing its witness plan"
  plan.verifyEnvelope env
  rejectIf (plan.requestDigest ≠ r.request.requestDigest || plan.targets ≠ r.request.admittedTargets ||
      r.request.requestedTargets ≠ r.request.admittedTargets)
    "TLS inquiry witness plan does not match the admitted request"
  let acquisition ← okOr r.acquisition "TLS inquiry receipt is missing acquisition accounting"
  let shape ← r.tlsEnvelopeShape
  r.verifyByShape env plan acquisition shape

/-! ## Sealing -/

def Receipt.computeReceiptDigest (r : Receipt) : Except String String :=
  digestJcs env (.receipt { r with receiptDigest := none })

/-- The vectors of a receipt in order. -/
def Receipt.sorted (r : Receipt) : Receipt :=
  { r with
    coverage := sort r.coverage
    cannotTestify := sortDedup r.cannotTestify
    tlsObservations := (r.tlsObservations.map fun o => { o with refusals := sortDedup o.refusals }).insertionSort
      fun a b => a.target ≤ b.target }

def Receipt.verifyEnvelope (r : Receipt) : Except String Unit :=
  match r.request.questionKind with
  | .findingOperationalActivity => r.verifyReportEnvelope
  | .tlsCertificatePresentationAndExpiryHorizon => r.verifyTlsEnvelope env

/-- What sealing leaves of a receipt. -/
def Receipt.seal (r : Receipt) : Except String Receipt := do
  rejectIf (r.schema ≠ receiptSchema) ("unsupported inquiry receipt schema " ++ debug env r.schema)
  r.request.verifyRequestDigest env
  let r := r.sorted
  r.verifyEnvelope env
  let receiptDigest ← r.computeReceiptDigest env
  pure { r with receiptDigest := some receiptDigest }

end

section

variable {env : Env} {plan : WitnessPlan} {acquisition : AcquisitionSpend} {r : Receipt}

/-! ## Observations that pass -/

/-- An observation within the bounds of one target. -/
structure TlsObservation.Bounded (o : TlsObservation) (bounds : AcquisitionBounds) : Prop where
  counted : o.spend.workUnits = o.spend.countedWorkUnits
  completed : o.spend.handshakesCompleted ≤ o.spend.handshakesAttempted
  connected : o.spend.connectionAttempts ≤ o.spend.dnsAttempts
  attempted : o.spend.handshakesAttempted ≤ o.spend.connectionAttempts
  dnsOnce : o.spend.dnsAttempts ≤ 1
  connectionOnce : o.spend.connectionAttempts ≤ 1
  handshakeOnce : o.spend.handshakesAttempted ≤ 1
  checkOnce : o.spend.boundChecks ≤ 1
  wall : o.spend.wallMs ≤ bounds.perTargetDeadlineMs

theorem TlsObservation.exceeds_eq_false {o : TlsObservation} {bounds : AcquisitionBounds} :
    o.exceeds bounds = false ↔ o.Bounded bounds := by
  unfold TlsObservation.exceeds
  simp only [Bool.or_eq_false_iff, decide_eq_false_iff_not, ne_eq, not_not, Nat.not_lt, gt_iff_lt, and_assoc]
  constructor
  · intro h
    obtain ⟨h₁, h₂, h₃, h₄, h₅, h₆, h₇, h₈, h₉⟩ := h
    exact ⟨h₁, h₂, h₃, h₄, h₅, h₆, h₇, h₈, h₉⟩
  · intro h
    exact ⟨h.counted, h.completed, h.connected, h.attempted, h.dnsOnce, h.connectionOnce, h.handshakeOnce,
      h.checkOnce, h.wall⟩

/-- An observation that passes, but for the target it shares with no other. -/
structure Observed (env : Env) (plan : WitnessPlan) (cannotTestify : List Refusal) (o : TlsObservation) : Prop where
  acquiredAt : ∃ i, env.rfc3339 o.acquiredAt = .ok i
  shape : o.verifyShape env = .ok ()
  declared : o.target ∈ plan.targets
  bounded : o.Bounded plan.bounds
  testified : ∀ x ∈ o.refusals, x ∈ cannotTestify

theorem sumObservations_ok {cannotTestify : List Refusal} :
    ∀ {observations : List TlsObservation} {observed : List TlsTarget}
    {summed total : AcquisitionSpend}, sumObservations env plan cannotTestify observed summed observations = .ok total ↔
      (∀ o ∈ observations, Observed env plan cannotTestify o) ∧ (observations.map TlsObservation.target).Nodup ∧
      (∀ o ∈ observations, o.target ∉ observed) ∧
      total = (observations.map TlsObservation.spend).foldl AcquisitionSpend.add summed := by
  intro observations
  induction observations with
  | nil =>
    intro observed summed total
    simp [sumObservations, eq_comm]
  | cons o rest ih =>
    intro observed summed total
    unfold sumObservations
    simp only [Sql.bind_ok, parseRfc3339_ok, rejectIf_ok, ih,
      exists_const, Bool.or_eq_false_iff, decide_eq_false_iff_not, not_not,
      TlsObservation.exceeds_eq_false, any_eq_false, decide_eq_true_eq, map_cons, nodup_cons, foldl_cons,
      forall_mem_cons]
    constructor
    · intro h
      obtain ⟨i, hi, _, hshape, ⟨hdeclared, hnew⟩, hbounded, htestified, hall, hn, hseen, e⟩ := h
      refine ⟨⟨⟨⟨i, hi⟩, hshape, hdeclared, hbounded, htestified⟩, hall⟩, ⟨?_, hn⟩, ⟨hnew, ?_⟩, e⟩
      · intro hmem
        obtain ⟨o', ho', e'⟩ := List.mem_map.mp hmem
        exact hseen o' ho' (e' ▸ mem_cons_self)
      · exact fun o' ho' hmem => hseen o' ho' (mem_cons_of_mem _ hmem)
    · intro h
      obtain ⟨⟨ho, hall⟩, ⟨hfresh, hn⟩, ⟨hnew, hseen⟩, e⟩ := h
      obtain ⟨i, hi⟩ := ho.acquiredAt
      refine ⟨i, hi, (), ho.shape, ⟨ho.declared, hnew⟩, ho.bounded, ho.testified, hall, hn, fun o' ho' hmem => ?_, e⟩
      rcases mem_cons.mp hmem with e' | hmem
      · exact hfresh (e' ▸ mem_map_of_mem ho')
      · exact hseen o' ho' hmem

/-! ## Envelopes that pass -/

/-- What a grant binds: nothing, or the spend under an envelope that covers it. -/
def Receipt.GrantBound (r : Receipt) (acquisition : AcquisitionSpend) : Prop :=
  (r.grantDigest = none ∧ r.authorizedAcquisitionEnvelope = none ∧ r.observedAcquisitionSpend = none) ∨
  ∃ digest authorized, r.grantDigest = some digest ∧ isSha256Digest digest = true ∧
    r.authorizedAcquisitionEnvelope = some authorized ∧ r.observedAcquisitionSpend = some acquisition ∧
    acquisition.AtMost authorized

variable {u : Unit} {field : AcquisitionSpend → Nat} {m : Nat}

theorem verifyGrantBinding_ok : r.verifyGrantBinding acquisition = .ok u ↔ r.GrantBound acquisition := by
  unfold Receipt.verifyGrantBinding Receipt.GrantBound
  cases r.grantDigest with
  | none => cases r.authorizedAcquisitionEnvelope <;> cases r.observedAcquisitionSpend <;> simp
  | some digest =>
    cases r.authorizedAcquisitionEnvelope with
    | none => cases r.observedAcquisitionSpend <;> simp
    | some authorized =>
      cases r.observedAcquisitionSpend with
      | none => simp
      | some observed =>
        simp only [Sql.bind_ok, exists_const, rejectIf_ok, Bool.not_eq_false', spendIsPointwiseAtMost_iff, ne_eq,
          decide_eq_false_iff_not, not_not, Option.some.injEq, reduceCtorEq, false_and, false_or]
        constructor
        · intro h
          obtain ⟨hsha, e, hmost⟩ := h
          exact ⟨digest, authorized, rfl, hsha, rfl, e, e ▸ hmost⟩
        · intro h
          obtain ⟨_, _, e, hsha, e', e'', hmost⟩ := h
          subst e
          subst e'
          exact ⟨hsha, e'', e''.symm ▸ hmost⟩

/-- The aggregate stays within the plan. -/
structure AcquisitionSpend.Fits (a : AcquisitionSpend) (bounds : AcquisitionBounds) : Prop where
  dns : a.dnsAttempts ≤ bounds.maxDnsAttempts
  connections : a.connectionAttempts ≤ bounds.maxConnectionAttempts
  handshakes : a.handshakesAttempted ≤ bounds.maxHandshakesAttempted
  boundChecks : a.boundChecks ≤ bounds.maxBoundChecks
  connected : a.connectionAttempts ≤ a.dnsAttempts
  attempted : a.handshakesAttempted ≤ a.connectionAttempts
  completed : a.handshakesCompleted ≤ a.handshakesAttempted
  workUnits : a.workUnits ≤ bounds.maxWorkUnits
  wall : a.wallMs ≤ bounds.totalDeadlineMs

/-- The aggregate is what the machine sums up to. -/
structure AcquisitionSpend.Sums (a summed : AcquisitionSpend) : Prop where
  dns : summed.dnsAttempts = a.dnsAttempts
  connections : summed.connectionAttempts = a.connectionAttempts
  handshakes : summed.handshakesAttempted = a.handshakesAttempted
  completed : summed.handshakesCompleted = a.handshakesCompleted
  boundChecks : summed.boundChecks = a.boundChecks
  wall : summed.wallMs ≤ a.wallMs
  workUnits : summed.workUnits = a.workUnits

structure Completed (env : Env) (r : Receipt) (plan : WitnessPlan) (acquisition : AcquisitionSpend) : Prop where
  positive : acquisition.workUnits ≠ 0
  counted : acquisition.workUnits = acquisition.countedWorkUnits
  spend : r.acquisitionSpend = acquisition.workUnits
  fits : acquisition.Fits plan.bounds
  oneEach : r.tlsObservations.length = plan.targets.length
  each : ∀ o ∈ r.tlsObservations, Observed env plan r.cannotTestify o
  distinct : (r.tlsObservations.map TlsObservation.target).Nodup
  sums : acquisition.Sums ((r.tlsObservations.map TlsObservation.spend).foldl AcquisitionSpend.add {})
  status : r.status = if r.tlsObservations.any (·.outcome.refuses) then .refused else .answered
  bound : r.GrantBound acquisition

theorem verifyCompleted_ok : r.verifyCompleted env plan acquisition = .ok u ↔ Completed env r plan acquisition := by
  have hstatus : ∀ (b : Bool) (s : Status), ((b && decide (s ≠ .refused)) || (!b && decide (s ≠ .answered))) = false ↔
      s = if b then .refused else .answered := by
    intro b s
    cases b <;> cases s <;> decide
  unfold Receipt.verifyCompleted
  simp only [Sql.bind_ok, exists_const, rejectIf_ok, sumObservations_ok, verifyGrantBinding_ok, hstatus]
  simp only [Bool.or_eq_false_iff, decide_eq_false_iff_not, ne_eq, not_not, Nat.not_lt, gt_iff_lt, and_assoc,
    not_mem_nil, not_false_eq_true, implies_true, true_and]
  constructor
  · intro h
    obtain ⟨h₁, h₂, h₃, h₄, h₅, h₆, h₇, h₈, h₉, h₁₀, h₁₁, h₁₂,
        h₁₃, total, hall, hn, e, h₁₄, h₁₅, h₁₆, h₁₇, h₁₈, h₁₉, h₂₀, hs, hb⟩ := h
    subst e
    exact ⟨h₁, h₂, h₃, ⟨h₄, h₅, h₆, h₇, h₈, h₉, h₁₀, h₁₁, h₁₂⟩,
      h₁₃, hall, hn, ⟨h₁₄, h₁₅, h₁₆, h₁₇, h₁₈, h₁₉, h₂₀⟩, hs, hb⟩
  · intro h
    obtain ⟨h₁, h₂, h₃, ⟨h₄, h₅, h₆, h₇, h₈, h₉, h₁₀, h₁₁, h₁₂⟩, h₁₃,
        hall, hn, ⟨h₁₄, h₁₅, h₁₆, h₁₇, h₁₈, h₁₉, h₂₀⟩, hs, hb⟩ := h
    exact ⟨h₁, h₂, h₃, h₄, h₅, h₆, h₇, h₈, h₉, h₁₀, h₁₁, h₁₂, h₁₃,
      _, hall, hn, rfl, h₁₄, h₁₅, h₁₆, h₁₇, h₁₈, h₁₉, h₂₀, hs, hb⟩

/-- A refusal before anything was spent; one that denies the grant binds none. -/
structure RefusedBefore (r : Receipt) (acquisition : AcquisitionSpend) : Prop where
  unobserved : r.tlsObservations = []
  unspent : r.acquisitionSpend = 0 ∧ acquisition = {}
  denied : (∃ x ∈ r.cannotTestify, x.kind.deniesGrant = true) →
    r.grantDigest = none ∧ r.authorizedAcquisitionEnvelope = none ∧ r.observedAcquisitionSpend = none
  bound : r.GrantBound acquisition

theorem verifyPreAcquisitionGrantRefusal_ok :
    r.verifyPreAcquisitionGrantRefusal acquisition = .ok u ↔ RefusedBefore r acquisition := by
  have hdenied : (r.cannotTestify.any (·.kind.deniesGrant) &&
      (r.grantDigest.isSome || r.authorizedAcquisitionEnvelope.isSome || r.observedAcquisitionSpend.isSome)) = false ↔
      ((∃ x ∈ r.cannotTestify, x.kind.deniesGrant = true) →
        r.grantDigest = none ∧ r.authorizedAcquisitionEnvelope = none ∧ r.observedAcquisitionSpend = none) := by
    rw [← any_eq_true, Bool.and_eq_false_imp]
    simp only [Bool.or_eq_false_iff, Option.isSome_eq_false_iff, Option.isNone_iff_eq_none, and_assoc]
  unfold Receipt.verifyPreAcquisitionGrantRefusal
  simp only [Sql.bind_ok, exists_const, rejectIf_ok, verifyGrantBinding_ok, hdenied]
  simp only [Bool.or_eq_false_iff, Bool.not_eq_false', List.isEmpty_iff,
    decide_eq_false_iff_not, ne_eq, not_not, and_assoc]
  constructor
  · intro h
    obtain ⟨h₁, h₂, h₃, h₄, h₅⟩ := h
    exact ⟨h₁, ⟨h₂, h₃⟩, h₄, h₅⟩
  · intro h
    exact ⟨h.unobserved, h.unspent.1, h.unspent.2, h.denied, h.bound⟩

/-- What both kinds of TLS receipt hold. -/
structure TlsEnvelope (env : Env) (r : Receipt) (plan : WitnessPlan) (acquisition : AcquisitionSpend) : Prop where
  selector : r.request.selector = none
  passive : r.sourceSnapshot = none ∧ r.findingState = none ∧ r.evidenceReceipts = [] ∧ r.evidenceCoverage = {}
  consequence : ∃ x ∈ r.cannotTestify, x.kind = .consequenceAuthority
  planned : r.witnessPlan = some plan
  enveloped : plan.Enveloped env
  requestDigest : plan.requestDigest = r.request.requestDigest
  targets : plan.targets = r.request.admittedTargets
  requested : r.request.requestedTargets = r.request.admittedTargets
  accounted : r.acquisition = some acquisition

theorem tlsEnvelopeShape_ok {shape : TlsEnvelopeShape} : r.tlsEnvelopeShape = .ok shape ↔
    (r.disposition = .perTargetOutcomes ∧ shape = .completedPerTargetOutcomes) ∨
    (r.disposition = .cannotTestify ∧ r.status = .refused ∧ (∃ x ∈ r.cannotTestify, x.kind.isGrantRefusal = true) ∧
      shape = .preAcquisitionGrantRefusal) := by
  rw [← any_eq_true]
  unfold Receipt.tlsEnvelopeShape
  cases r.disposition with
  | perTargetOutcomes => simp [@eq_comm _ _ shape]
  | cannotTestify =>
    cases r.status with
    | answered => simp
    | refused => cases r.cannotTestify.any (·.kind.isGrantRefusal) <;> simp [@eq_comm _ _ shape]
  | operationallyActive => simp
  | notOperationallyActive => simp

theorem verifyTlsEnvelope_ok : r.verifyTlsEnvelope env = .ok u ↔ ∃ plan acquisition,
    TlsEnvelope env r plan acquisition ∧
    ((r.disposition = .perTargetOutcomes ∧ Completed env r plan acquisition) ∨
      (r.disposition = .cannotTestify ∧ r.status = .refused ∧ (∃ x ∈ r.cannotTestify, x.kind.isGrantRefusal = true) ∧
        RefusedBefore r acquisition)) := by
  unfold Receipt.verifyTlsEnvelope
  simp only [Sql.bind_ok, exists_const, rejectIf_ok, okOr_ok, WitnessPlan.verifyEnvelope_ok, tlsEnvelopeShape_ok]
  simp only [Bool.or_eq_false_iff, Bool.not_eq_false', List.isEmpty_iff, Option.isSome_eq_false_iff,
    Option.isNone_iff_eq_none, decide_eq_false_iff_not, ne_eq, not_not, any_eq_true, decide_eq_true_eq, and_assoc]
  constructor
  · intro h
    obtain ⟨h₁, h₂, h₃, h₄, h₅, h₆, plan, h₇, h₈, h₉, h₁₀, h₁₁, acquisition, h₁₂, shape, hshape, hverified⟩ := h
    refine ⟨plan, acquisition, ⟨h₁, ⟨h₂, h₃, h₄, h₅⟩, h₆, h₇, h₈, h₉, h₁₀, h₁₁, h₁₂⟩, ?_⟩
    rcases hshape with hs | hs
    · obtain ⟨hd, e⟩ := hs
      subst e
      exact Or.inl ⟨hd, verifyCompleted_ok.mp hverified⟩
    · obtain ⟨hd, hstatus, hrefusal, e⟩ := hs
      subst e
      exact Or.inr ⟨hd, hstatus, hrefusal, verifyPreAcquisitionGrantRefusal_ok.mp hverified⟩
  · intro h
    obtain ⟨plan, acquisition, he, hshape⟩ := h
    refine ⟨he.selector, he.passive.1, he.passive.2.1, he.passive.2.2.1, he.passive.2.2.2, he.consequence, plan,
      he.planned, he.enveloped, he.requestDigest, he.targets, he.requested, acquisition, he.accounted, ?_⟩
    rcases hshape with hs | hs
    · exact ⟨.completedPerTargetOutcomes, Or.inl ⟨hs.1, rfl⟩, verifyCompleted_ok.mpr hs.2⟩
    · exact ⟨.preAcquisitionGrantRefusal, Or.inr ⟨hs.1, hs.2.1, hs.2.2.1, rfl⟩,
        verifyPreAcquisitionGrantRefusal_ok.mpr hs.2.2.2⟩

theorem seal_ok {s : Receipt} : r.seal env = .ok s ↔ r.schema = receiptSchema ∧ r.request.Sealed env ∧
    r.sorted.verifyEnvelope env = .ok () ∧
    ∃ d, digestJcs env (.receipt { r.sorted with receiptDigest := none }) = .ok d ∧
      s = { r.sorted with receiptDigest := some d } := by
  unfold Receipt.seal Receipt.computeReceiptDigest
  simp only [Sql.bind_ok, exists_const, rejectIf_ok, AdmittedRequest.verifyRequestDigest_ok, decide_eq_false_iff_not,
    ne_eq, not_not, pure, Except.pure, Except.ok.injEq]
  constructor
  · intro h
    obtain ⟨hs, hr, _, hv, d, hd, e⟩ := h
    exact ⟨hs, hr, hv, d, hd, e.symm⟩
  · intro h
    obtain ⟨hs, hr, hv, d, hd, e⟩ := h
    exact ⟨hs, hr, (), hv, d, hd, e.symm⟩

/-! ## Sums -/

theorem foldl_add (hadd : ∀ a b, field (a.add b) = (field a + field b) % m) :
    ∀ {spends : List AcquisitionSpend} {summed : AcquisitionSpend}, field summed < m →
      field (spends.foldl AcquisitionSpend.add summed) = (field summed + (spends.map field).sum) % m := by
  intro spends
  induction spends with
  | nil => intro summed h; simp [Nat.mod_eq_of_lt h]
  | cons b rest ih =>
    intro summed h
    have hpos : 0 < m := Nat.lt_of_le_of_lt (Nat.zero_le _) h
    rw [foldl_cons, ih (hadd summed b ▸ Nat.mod_lt _ hpos), hadd, Nat.mod_add_mod, map_cons, sum_cons,
      Nat.add_assoc]

/-- The true sum of a counter over the observations. -/
def Receipt.total (r : Receipt) (field : AcquisitionSpend → Nat) : Nat := (r.tlsObservations.map (field ·.spend)).sum

theorem foldl_total (field : AcquisitionSpend → Nat) (hadd : ∀ a b, field (a.add b) = (field a + field b) % m)
    (hzero : field {} = 0) (hm : 0 < m) :
    field ((r.tlsObservations.map TlsObservation.spend).foldl AcquisitionSpend.add {}) = r.total field % m := by
  rw [foldl_add hadd (by rw [hzero]; exact hm), hzero, Nat.zero_add, map_map]
  rfl

theorem total_le {field' : AcquisitionSpend → Nat} (h : ∀ o ∈ r.tlsObservations, field o.spend ≤ field' o.spend) :
    r.total field ≤ r.total field' :=
  sum_le_sum h

theorem total_le_length (field : AcquisitionSpend → Nat) {n : Nat} (h : ∀ o ∈ r.tlsObservations, field o.spend ≤ n) :
    r.total field ≤ r.tlsObservations.length * n := by
  have hle := sum_le_card_nsmul (r.tlsObservations.map (field ·.spend)) n fun x hx => by
    obtain ⟨o, ho, e⟩ := List.mem_map.mp hx
    exact e ▸ h o ho
  rwa [length_map, smul_eq_mul] at hle

/-- A vector of observations, of more than 256 bytes each, fits 2^56 bytes of memory. -/
def Receipt.Addressable (r : Receipt) : Prop := r.tlsObservations.length * 256 ≤ 2 ^ 56

theorem Completed.wall_lt (h : Completed env r plan acquisition) (hplan : plan.Enveloped env) (hmem : r.Addressable) :
    r.total AcquisitionSpend.wallMs < 2 ^ 64 := by
  have hper := hplan.bounds.perTarget.2
  have hle := total_le_length (r := r) AcquisitionSpend.wallMs fun o ho => (h.each o ho).bounded.wall.trans hper
  unfold Receipt.Addressable at hmem
  omega

/-- The work units of a receipt are few, and no counter exceeds them. -/
theorem Completed.work_eq (h : Completed env r plan acquisition) (hplan : plan.Enveloped env) (hmem : r.Addressable) :
    r.total AcquisitionSpend.workUnits = acquisition.workUnits ∧ acquisition.workUnits ≤ 128 := by
  have hfew := hplan.bounds.targets
  have hmax := hplan.bounds.workUnits
  have hfits := h.fits.workUnits
  have hsum : r.total AcquisitionSpend.workUnits % 2 ^ 64 = acquisition.workUnits :=
    (foldl_total AcquisitionSpend.workUnits (fun _ _ => rfl) rfl (by decide)).symm.trans h.sums.workUnits
  have hle := total_le_length (r := r) AcquisitionSpend.workUnits (n := 4) fun o ho => by
    have hb := (h.each o ho).bounded
    have hcounted := hb.counted
    unfold AcquisitionSpend.countedWorkUnits at hcounted
    have h₁ := hb.dnsOnce
    have h₂ := hb.connectionOnce
    have h₃ := hb.handshakeOnce
    have h₄ := hb.checkOnce
    omega
  unfold Receipt.Addressable at hmem
  omega

/-- A counter that no observation has more of than work units is summed without wrapping. -/
theorem Completed.total_eq (h : Completed env r plan acquisition) (hplan : plan.Enveloped env) (hmem : r.Addressable)
    (hadd : ∀ a b, field (a.add b) = (field a + field b) % 2 ^ 32) (hzero : field {} = 0)
    (hwork : ∀ o ∈ r.tlsObservations, field o.spend ≤ o.spend.workUnits)
    (hsummed : field ((r.tlsObservations.map TlsObservation.spend).foldl AcquisitionSpend.add {}) = field acquisition) :
    r.total field = field acquisition ∧ r.total field < 2 ^ 32 := by
  obtain ⟨hwork', hfew⟩ := h.work_eq hplan hmem
  have hle := total_le hwork
  rw [foldl_total field hadd hzero (by decide)] at hsummed
  have hlt : r.total field < 2 ^ 32 := by omega
  exact ⟨by rw [← hsummed, Nat.mod_eq_of_lt hlt], hlt⟩

/-! ## What a sealed receipt accounts for -/

/-- What one target spent. -/
structure OnePerTarget (s : AcquisitionSpend) : Prop where
  completed : s.handshakesCompleted ≤ s.handshakesAttempted
  attempted : s.handshakesAttempted ≤ s.connectionAttempts
  connected : s.connectionAttempts ≤ s.dnsAttempts
  once : s.dnsAttempts ≤ 1 ∧ s.boundChecks ≤ 1

/-- A receipt that accounts for everything. -/
structure Accounts (env : Env) (r : Receipt) (plan : WitnessPlan) (acquisition : AcquisitionSpend) : Prop where
  planned : r.witnessPlan = some plan
  accounted : r.acquisition = some acquisition
  targets : (r.tlsObservations.map TlsObservation.target).Perm r.request.admittedTargets
  distinct : (r.tlsObservations.map TlsObservation.target).Nodup
  dns : acquisition.dnsAttempts = r.total AcquisitionSpend.dnsAttempts
  connections : acquisition.connectionAttempts = r.total AcquisitionSpend.connectionAttempts
  handshakes : acquisition.handshakesAttempted = r.total AcquisitionSpend.handshakesAttempted
  completed : acquisition.handshakesCompleted = r.total AcquisitionSpend.handshakesCompleted
  boundChecks : acquisition.boundChecks = r.total AcquisitionSpend.boundChecks
  workUnits : acquisition.workUnits = r.total AcquisitionSpend.workUnits
  counted : acquisition.workUnits = acquisition.countedWorkUnits ∧ r.acquisitionSpend = acquisition.workUnits
  perTarget : ∀ o ∈ r.tlsObservations, OnePerTarget o.spend ∧ o.spend.workUnits = o.spend.countedWorkUnits
  fits : acquisition.Fits plan.bounds
  granted : ∀ digest, r.grantDigest = some digest → ∃ authorized, r.authorizedAcquisitionEnvelope = some authorized ∧
    r.observedAcquisitionSpend = some acquisition ∧ acquisition.AtMost authorized
  status : r.status = .refused ↔ ∃ o ∈ r.tlsObservations, o.outcome.refuses = true
  testified : ∀ o ∈ r.tlsObservations, ∀ x ∈ o.refusals, x ∈ r.cannotTestify
  counters : r.total AcquisitionSpend.dnsAttempts < 2 ^ 32 ∧ r.total AcquisitionSpend.connectionAttempts < 2 ^ 32 ∧
    r.total AcquisitionSpend.handshakesAttempted < 2 ^ 32 ∧ r.total AcquisitionSpend.handshakesCompleted < 2 ^ 32 ∧
    r.total AcquisitionSpend.boundChecks < 2 ^ 32
  clocks : r.total AcquisitionSpend.wallMs < 2 ^ 64 ∧ r.total AcquisitionSpend.workUnits < 2 ^ 64

theorem Completed.accounts (h : Completed env r plan acquisition) (he : TlsEnvelope env r plan acquisition)
    (hmem : r.Addressable) : Accounts env r plan acquisition := by
  obtain ⟨hwork, hfew⟩ := h.work_eq he.enveloped hmem
  have hcounted : ∀ o ∈ r.tlsObservations, o.spend.workUnits = o.spend.countedWorkUnits :=
    fun o ho => (h.each o ho).bounded.counted
  have hdns := h.total_eq he.enveloped hmem (fun _ _ => rfl) rfl
    (fun o ho => by rw [hcounted o ho]; unfold AcquisitionSpend.countedWorkUnits; omega) h.sums.dns
  have hconnections := h.total_eq he.enveloped hmem (fun _ _ => rfl) rfl
    (fun o ho => by rw [hcounted o ho]; unfold AcquisitionSpend.countedWorkUnits; omega) h.sums.connections
  have hhandshakes := h.total_eq he.enveloped hmem (fun _ _ => rfl) rfl
    (fun o ho => by rw [hcounted o ho]; unfold AcquisitionSpend.countedWorkUnits; omega) h.sums.handshakes
  have hcompleted := h.total_eq he.enveloped hmem (fun _ _ => rfl) rfl (fun o ho => by
    have hle := (h.each o ho).bounded.completed
    rw [hcounted o ho]
    unfold AcquisitionSpend.countedWorkUnits
    omega) h.sums.completed
  have hchecks := h.total_eq he.enveloped hmem (fun _ _ => rfl) rfl
    (fun o ho => by rw [hcounted o ho]; unfold AcquisitionSpend.countedWorkUnits; omega) h.sums.boundChecks
  have hsubset : r.tlsObservations.map TlsObservation.target ⊆ plan.targets := by
    intro t ht
    obtain ⟨o, ho, e⟩ := List.mem_map.mp ht
    exact e ▸ (h.each o ho).declared
  refine {
    planned := he.planned
    accounted := he.accounted
    targets := ?_
    distinct := h.distinct
    dns := hdns.1.symm
    connections := hconnections.1.symm
    handshakes := hhandshakes.1.symm
    completed := hcompleted.1.symm
    boundChecks := hchecks.1.symm
    workUnits := hwork.symm
    counted := ⟨h.counted, h.spend⟩
    perTarget := fun o ho => ?_
    fits := h.fits
    granted := ?_
    status := ?_
    testified := fun o ho => (h.each o ho).testified
    counters := ⟨hdns.2, hconnections.2, hhandshakes.2, hcompleted.2, hchecks.2⟩
    clocks := ⟨h.wall_lt he.enveloped hmem, by omega⟩ }
  · rw [← he.targets]
    refine (subperm_of_subset h.distinct hsubset).perm_of_length_le ?_
    rw [length_map, h.oneEach]
  · have hb := (h.each o ho).bounded
    exact ⟨⟨hb.completed, hb.attempted, hb.connected, hb.dnsOnce, hb.checkOnce⟩, hb.counted⟩
  · intro digest hdigest
    rcases h.bound with hnone | hsome
    · rw [hnone.1] at hdigest
      cases hdigest
    · obtain ⟨_, authorized, _, _, ha, ho, hmost⟩ := hsome
      exact ⟨authorized, ha, ho, hmost⟩
  · rw [h.status, ← any_eq_true]
    cases r.tlsObservations.any (·.outcome.refuses) <;> simp

/-- A sealed receipt of per-target outcomes accounts for everything it spent. -/
theorem sealed_accounts (env : Env) {r s : Receipt} (h : r.seal env = .ok s) (hd : s.disposition = .perTargetOutcomes)
    (hmem : s.Addressable) : (∃ plan acquisition, Accounts env s plan acquisition) ∧
      ∃ d, s.receiptDigest = some d ∧ s.computeReceiptDigest env = .ok d := by
  obtain ⟨_, _, hv, d, hdigest, e⟩ := seal_ok.mp h
  subst e
  refine ⟨?_, d, rfl, hdigest⟩
  have hv : ({ r.sorted with receiptDigest := some d } : Receipt).verifyEnvelope env = .ok () := hv
  generalize ({ r.sorted with receiptDigest := some d } : Receipt) = s at hv hd hmem
  unfold Receipt.verifyEnvelope at hv
  split at hv
  · unfold Receipt.verifyReportEnvelope at hv
    simp only [Sql.bind_ok, rejectIf_ok, decide_eq_false_iff_not] at hv
    obtain ⟨_, _, _, _, hnot⟩ := hv
    exact absurd hd hnot
  · obtain ⟨plan, acquisition, he, hshape⟩ := verifyTlsEnvelope_ok.mp hv
    rcases hshape with hs | hs
    · exact ⟨plan, acquisition, hs.2.accounts he hmem⟩
    · rw [hd] at hs
      cases hs.1

end

end Nq.Inquiry
