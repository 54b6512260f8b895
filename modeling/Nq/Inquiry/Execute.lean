/-
  Nq.Inquiry.Execute — executing an active inquiry (`nq-monitor/src/inquiry.rs`).

  An execution admits its plan, holds the grant against the preflight of the plan, and then
  lets the acquirer at one target after another until a bound is refused. The acquirer is any
  function of any state, and may read clocks; what it was called for is written to a log
  (`logged`) that the run does not depend on (`execute_logged`).

  A grant that does not cover the plan is refused with a sealed receipt, but not always:
  which refusal it is is read back from the text of an error (`refused_iff`).
-/

import Nq.Inquiry.Preflight
import Nq.Inquiry.Receipt

namespace Nq.Inquiry

open Collections
open List

/-- The clocks an execution reads. -/
structure Clock (σ : Type) where
  /-- `Instant::now`, in nanoseconds. -/
  instant : σ → Nat × σ
  /-- `OffsetDateTime::now_utc`. -/
  wall : σ → DateTime × σ

/-- An acquirer: of a target, its plan, the overall deadline and the refusals so far. -/
abbrev Acquirer (σ : Type) := TlsTarget → WitnessPlan → Nat → List Refusal → σ → (TlsObservation × List Refusal) × σ

section

variable (env : Env) {σ : Type} (clock : Clock σ)

/-! ## Refused observations -/

def TlsTarget.endpoint (t : TlsTarget) : String :=
  if Text.contains t.host ":" && !"[".toList.isPrefixOf t.host.toList then "[" ++ t.host ++ "]:" ++ toString t.port
  else t.host ++ ":" ++ toString t.port

def targetRefusal (target : TlsTarget) (kind : RefusalKind) (statement : String) : Refusal :=
  ⟨kind, "target " ++ debug env target.targetId ++ " (" ++ target.endpoint ++ "): " ++ statement⟩

def elapsedMs (started : Nat) (s : σ) : Nat × σ :=
  let (now, s) := clock.instant s
  (min ((now - started) / 1000000) (2 ^ 64 - 1), s)

def failedObservation (target : TlsTarget) (acquiredAt : String) (spend : AcquisitionSpend) (started : Nat)
    (outcome : TlsOutcome) (kind : RefusalKind) (statement : String) (refusals : List Refusal) (s : σ) :
    (TlsObservation × List Refusal) × σ :=
  let (wallMs, s) := elapsedMs clock started s
  let refusal := targetRefusal env target kind statement
  (({ acquiredAt, target, observedIp := none, certificateDigest := none, chainDigest := none, chainFingerprints := [],
      notBefore := none, notAfter := none, validationResult := .notAttempted, outcome, spend := { spend with wallMs },
      refusals := [refusal] }, refusals ++ [refusal]), s)

def boundRefusal (target : TlsTarget) (acquiredAt : String) (spend : AcquisitionSpend)
    (started : Nat) (statement : String)
    (refusals : List Refusal) (s : σ) : (TlsObservation × List Refusal) × σ :=
  failedObservation env clock target acquiredAt spend started .acquisitionBoundRefused .acquisitionBoundCannotBeHonored
    statement refusals s

/-- The observation of a target after the acquisition was halted. -/
def haltedObservation (target : TlsTarget) (refusals : List Refusal) (s : σ) : (TlsObservation × List Refusal) × σ :=
  let (now, s) := clock.wall s
  let (started, s) := clock.instant s
  boundRefusal env clock target (env.formatRfc3339 now) { boundChecks := 1, workUnits := 1 } started
    "acquisition halted after an earlier target could not honor its bound" refusals s

/-! ## The gate -/

/-- `Context::context`, as `{:#}` shows it. -/
def context {α : Type} (text : String) (x : Except String α) : Except String α := x.mapError (text ++ ": " ++ ·)

def grantAdmissionRefusal (error : String) : Refusal :=
  let kind :=
    if Text.contains error "position scope" then .grantScopeInsufficient
    else if Text.contains error "position depth" then .grantDepthInsufficient
    else if Text.contains error "remaining acquisition" then .grantAcquisitionEnvelopeInsufficient
    else .grantMalformed
  ⟨kind, error⟩

/-- What every active receipt starts from. -/
def activeReceipt (resolved : ResolvedProfile) (request : AdmittedRequest) (w : WitnessPlan) : Receipt where
  schema := receiptSchema
  version := .v0
  status := .refused
  disposition := .cannotTestify
  request := request
  sourceSnapshot := none
  findingState := none
  evidenceReceipts := []
  evidenceCoverage := {}
  witnessPlan := some w
  tlsObservations := []
  acquisition := some {}
  grantDigest := none
  authorizedAcquisitionEnvelope := none
  observedAcquisitionSpend := none
  coverage := resolved.profile.coverage
  cannotTestify := resolved.profile.cannotTestify
  acquisitionSpend := 0
  receiptDigest := none

/-- The digest and the envelope of a grant, and what was spent under it: nothing. -/
structure GrantBinding where
  grantDigest : Option String := none
  authorized : Option AcquisitionSpend := none
  observed : Option AcquisitionSpend := none

def grantBinding : Option Grant → Except String GrantBinding
  | some grant => do
    let grantDigest ← context "digesting refused active inquiry grant" (grant.grantDigest env)
    pure ⟨some grantDigest, some grant.totalAcquisitionEnvelope, some {}⟩
  | none => pure {}

def preAcquisitionReceipt (resolved : ResolvedProfile) (request : AdmittedRequest) (w : WitnessPlan) (refusal : Refusal)
    (b : GrantBinding) : Receipt :=
  { activeReceipt resolved request w with
    cannotTestify := resolved.profile.cannotTestify ++ [refusal]
    grantDigest := b.grantDigest
    authorizedAcquisitionEnvelope := b.authorized
    observedAcquisitionSpend := b.observed }

def sealPreAcquisitionRefusal (resolved : ResolvedProfile) (request : AdmittedRequest) (w : WitnessPlan)
    (refusal : Refusal)
    (grant : Option Grant) : Except String Receipt := do
  let binding ← grantBinding env grant
  context "sealing pre-acquisition inquiry refusal"
    (Receipt.seal env (preAcquisitionReceipt resolved request w refusal binding))

/-- What an execution acquires under. -/
structure Clearance where
  request : AdmittedRequest
  witnessPlan : WitnessPlan
  grantDigest : String
  authorized : AcquisitionSpend

def Collector.debug : Collector → String
  | .tlsCertProbe => "TlsCertProbe"

/-- Holds the grant against the preflight. -/
def holdGrant (resolved : ResolvedProfile) (grant : Grant) (request : AdmittedRequest) (witnessPlan : WitnessPlan)
    (preflight : Preflight) : Except String (Receipt ⊕ Clearance) :=
  match admitInitialPosition env grant preflight.position with
  | .error error =>
    let refusal := grantAdmissionRefusal error
    let validGrant := if refusal.kind ≠ .grantMalformed then some grant else none
    (sealPreAcquisitionRefusal env resolved request witnessPlan refusal validGrant).map .inl
  | .ok () =>
    if witnessPlan.collector ∉ grant.permittedWitnessClasses then
      (sealPreAcquisitionRefusal env resolved request witnessPlan ⟨.grantWitnessClassNotPermitted,
        "grant permitted_witness_classes does not include " ++ witnessPlan.collector.debug⟩ (some grant)).map .inl
    else do
      let grantDigest ← context "digesting admitted active inquiry grant" (grant.grantDigest env)
      pure (.inr ⟨request, witnessPlan, grantDigest, grant.totalAcquisitionEnvelope⟩)

/-- Everything before the acquisition: a refused receipt, or the clearance to acquire. -/
def gate (resolved : ResolvedProfile) (plan : CandidatePlan) (grant : Grant) : Except String (Receipt ⊕ Clearance) := do
  let request ← context "admitting active inquiry request" (admitPlan env plan resolved)
  let witnessPlan ← context "resolving active inquiry witness plan" (WitnessPlan.resolve env request resolved)
  rejectIf (witnessPlan.validationPolicy ≠ .webpki) "active inquiry V0 only executes WebPKI validation"
  let preflight ← context "rendering active inquiry grant requirements" (Preflight.render env plan resolved)
  holdGrant env resolved grant request witnessPlan preflight

/-! ## Acquisition -/

/-- One target after another; once a bound is refused, the rest are not acquired. -/
def acquireAll (acquire : Acquirer σ) (w : WitnessPlan) (deadline : Nat) :
    List TlsTarget → Bool → List Refusal → σ → (List TlsObservation × List Refusal) × σ
  | [], _, refusals, s => (([], refusals), s)
  | target :: rest, halted, refusals, s =>
    let ((o, refusals), s) :=
      if halted then haltedObservation env clock target refusals s else acquire target w deadline refusals s
    let ((os, refusals), s) := acquireAll acquire w deadline rest (o.outcome = .acquisitionBoundRefused) refusals s
    ((o :: os, refusals), s)

/-- The receipt of an acquisition, before it is sealed. -/
def completedReceipt (resolved : ResolvedProfile) (c : Clearance) (observations : List TlsObservation)
    (refusals : List Refusal) (wallMs : Nat) : Receipt :=
  let acquisition := { (observations.map TlsObservation.spend).foldl AcquisitionSpend.add {} with wallMs }
  { activeReceipt resolved c.request c.witnessPlan with
    status := if observations.any (·.outcome.refuses) then .refused else .answered
    disposition := .perTargetOutcomes
    tlsObservations := observations
    acquisition := some acquisition
    grantDigest := some c.grantDigest
    authorizedAcquisitionEnvelope := some c.authorized
    observedAcquisitionSpend := some acquisition
    cannotTestify := refusals
    acquisitionSpend := acquisition.workUnits }

def executeCleared (acquire : Acquirer σ) (resolved : ResolvedProfile)
    (c : Clearance) (s : σ) : Except String Receipt × σ :=
  let (started, s) := clock.instant s
  let deadline := started + c.witnessPlan.bounds.totalDeadlineMs * 1000000
  let ((observations, refusals), s) :=
    acquireAll env clock acquire c.witnessPlan deadline c.witnessPlan.targets false resolved.profile.cannotTestify s
  let (wallMs, s) := elapsedMs clock started s
  (context "sealing active inquiry receipt"
    (Receipt.seal env (completedReceipt resolved c observations refusals wallMs)), s)

def executeTlsCertInquiryWith (acquire : Acquirer σ) (resolved : ResolvedProfile) (plan : CandidatePlan) (grant : Grant)
    (s : σ) : Except String Receipt × σ :=
  match gate env resolved plan grant with
  | .error e => (.error e, s)
  | .ok (.inl receipt) => (.ok receipt, s)
  | .ok (.inr c) => executeCleared env clock acquire resolved c s

end

/-! ## Refusals before the acquisition -/

section

variable {env : Env} {resolved : ResolvedProfile} {plan : CandidatePlan} {request : AdmittedRequest} {w : WitnessPlan}
  {preflight : Preflight} {grant : Grant}

/-- The first dimension in which a grant does not cover the position, after its own validity. -/
def nonCoveringKind (env : Env) (grant : Grant) (position : Position) : RefusalKind :=
  if !(grant.validate env).isOk then .grantMalformed
  else if ¬position.scope ⊆ grant.admittedScope then .grantScopeInsufficient
  else if position.depth > grant.maxDepth then .grantDepthInsufficient
  else if !spendIsPointwiseAtMost position.remainingAcquisitionEnvelope grant.totalAcquisitionEnvelope then
    .grantAcquisitionEnvelopeInsufficient
  else .grantWitnessClassNotPermitted

/-- A sealed refusal of the kind, without spend or testimony. -/
structure RefusedReceipt (env : Env) (resolved : ResolvedProfile) (kind : RefusalKind) (receipt : Receipt) : Prop where
  status : receipt.status = .refused
  disposition : receipt.disposition = .cannotTestify
  unspent : receipt.acquisition = some {} ∧ receipt.acquisitionSpend = 0
  unobserved : receipt.tlsObservations = []
  added : ∃ statement, receipt.cannotTestify = sortDedup (resolved.profile.cannotTestify ++ [⟨kind, statement⟩])
  sealed : ∃ d, receipt.receiptDigest = some d ∧ receipt.computeReceiptDigest env = .ok d

/-- Of the request, as `admitPlan`, `WitnessPlan.resolve` and `Preflight.render` leave it. -/
structure Prepared (env : Env) (resolved : ResolvedProfile) (plan : CandidatePlan) (request : AdmittedRequest)
    (w : WitnessPlan)
    (preflight : Preflight) : Prop where
  admitted : admitPlan env plan resolved = .ok request
  planned : WitnessPlan.resolve env request resolved = .ok w
  rendered : Preflight.render env plan resolved = .ok preflight

variable {e text : String} {α β : Type} {a : α} {x : Except String α} {r : Receipt} {refusal : Refusal}
  {position : Position}

theorem context_ok : context text x = .ok a ↔ x = .ok a :=
  Sql.mapError_ok

theorem context_bind {f : α → Except String β} : (context text (.ok a) >>= f) = f a := rfl

theorem gate_eq (h : Prepared env resolved plan request w preflight) :
    gate env resolved plan grant = holdGrant env resolved grant request w preflight := by
  have hpolicy : w.validationPolicy = .webpki := by cases w.validationPolicy; rfl
  unfold gate
  rw [h.admitted, context_bind, h.planned, context_bind, h.rendered, context_bind, hpolicy]
  rfl

/-- The plan of a prepared request. -/
theorem Prepared.facts (h : Prepared env resolved plan request w preflight) :
    ∃ tlsCert, Admitted env plan resolved request ∧
    Admitted.Tls plan resolved request tlsCert ∧ w.Of env request tlsCert ∧
    preflight.toPreflightMaterial = activePreflight request w ∧ preflight.Valid env := by
  have hadmitted := admitPlan_ok.mp h.admitted
  have hk : resolved.profile.questionKind = .tlsCertificatePresentationAndExpiryHorizon := by
    rw [← resolve_kind h.planned, hadmitted.material]
    rfl
  obtain ⟨tlsCert, ht⟩ := hadmitted.tls hk
  obtain ⟨w', hw', hof⟩ := hadmitted.resolve ht hk
  rw [h.planned] at hw'
  cases hw'
  obtain ⟨hm, hv⟩ := render_active h.rendered h.admitted h.planned
  exact ⟨tlsCert, hadmitted, ht, hof, hm, hv⟩

/-- What every receipt of a prepared request holds. -/
theorem Prepared.envelope (h : Prepared env resolved plan request w preflight) {acquisition : AcquisitionSpend}
    (hrequest : r.request = request) (hplan : r.witnessPlan = some w)
    (hpassive : r.sourceSnapshot = none ∧ r.findingState = none ∧
      r.evidenceReceipts = [] ∧ r.evidenceCoverage = {})
    (hrefusals : ∀ x ∈ resolved.profile.cannotTestify, x ∈ r.cannotTestify)
    (hacquisition : r.acquisition = some acquisition) : TlsEnvelope env r w acquisition := by
  obtain ⟨tlsCert, hadmitted, ht, hof, _⟩ := h.facts
  have hkind := hadmitted.against.kind
  have hk : resolved.profile.questionKind = .tlsCertificatePresentationAndExpiryHorizon := by
    rw [← resolve_kind h.planned, hadmitted.material]
    rfl
  unfold Profile.KindValid at hkind
  rw [hk] at hkind
  obtain ⟨x, hx, hxk⟩ := hkind.consequence
  have hmaterial := hof.material
  refine ⟨?_, hpassive, ⟨x, hrefusals x hx, hxk⟩, hplan, hof.enveloped ht, ?_, ?_, ?_, hacquisition⟩
  · rw [hrequest]
    exact ht.selector
  · rw [hrequest, hmaterial]
    rfl
  · rw [hrequest, hmaterial]
    rfl
  · rw [hrequest, hadmitted.material]
    rfl

theorem Prepared.active (h : Prepared env resolved plan request w preflight) :
    request.questionKind = .tlsCertificatePresentationAndExpiryHorizon := resolve_kind h.planned

theorem Prepared.verifyEnvelope (h : Prepared env resolved plan request w preflight) (hr : r.request = request) :
    r.verifyEnvelope env = r.verifyTlsEnvelope env := by
  unfold Receipt.verifyEnvelope
  rw [hr, h.active]

/-- A refusal before the acquisition seals exactly when its envelope does. -/
theorem seal_refusal_iff (h : Prepared env resolved plan request w preflight)
    (hkind : refusal.kind.isGrantRefusal = true) (b : GrantBinding) :
    (∃ s, (preAcquisitionReceipt resolved request w refusal b).seal env = .ok s) ↔
      RefusedBefore (preAcquisitionReceipt resolved request w refusal b).sorted {} := by
  obtain ⟨_, hadmitted, _⟩ := h.facts
  have hverify := h.verifyEnvelope (r := (preAcquisitionReceipt resolved request w refusal b).sorted) rfl
  have henvelope : TlsEnvelope env (preAcquisitionReceipt resolved request w refusal b).sorted w {} := by
    refine h.envelope rfl rfl ⟨rfl, rfl, rfl, rfl⟩ (fun x hx => ?_) rfl
    exact mem_sortDedup.mpr (mem_append_left _ hx)
  constructor
  · intro hs
    obtain ⟨s, hs⟩ := hs
    obtain ⟨_, _, hv, _⟩ := seal_ok.mp hs
    rw [hverify] at hv
    obtain ⟨_, acquisition, he, hshape⟩ := verifyTlsEnvelope_ok.mp hv
    have haccounted := he.accounted
    cases haccounted
    rcases hshape with hs | hs
    · cases hs.1
    · exact hs.2.2.2
  · intro hrefused
    obtain ⟨d, hd⟩ := digestJcs_plain env
      (a := .receipt { (preAcquisitionReceipt resolved request w refusal b).sorted with receiptDigest := none }) rfl
    refine ⟨_, seal_ok.mpr ⟨rfl, hadmitted.requestSealed, ?_, d, hd, rfl⟩⟩
    rw [hverify]
    refine verifyTlsEnvelope_ok.mpr ⟨w, {}, henvelope, Or.inr ⟨rfl, rfl, ⟨refusal, ?_, hkind⟩, hrefused⟩⟩
    exact mem_sortDedup.mpr (mem_append_right _ (mem_singleton_self _))

theorem refusedReceipt_of_seal {b : GrantBinding} {s : Receipt}
    (h : (preAcquisitionReceipt resolved request w refusal b).seal env = .ok s) :
    RefusedReceipt env resolved refusal.kind s := by
  obtain ⟨_, _, _, d, hd, e⟩ := seal_ok.mp h
  subst e
  exact ⟨rfl, rfl, ⟨rfl, rfl⟩, rfl, ⟨refusal.statement, rfl⟩, d, rfl, hd⟩

/-- Without a grant to bind, the refusal seals. -/
theorem seal_unbound (h : Prepared env resolved plan request w preflight) (hkind : refusal.kind.isGrantRefusal = true) :
    ∃ s, sealPreAcquisitionRefusal env resolved request w refusal none = .ok s ∧
      RefusedReceipt env resolved refusal.kind s := by
  obtain ⟨s, hs⟩ := (seal_refusal_iff h hkind {}).mpr ⟨rfl, ⟨rfl, rfl⟩, fun _ =>
    ⟨rfl, rfl, rfl⟩, Or.inl ⟨rfl, rfl, rfl⟩⟩
  refine ⟨s, ?_, refusedReceipt_of_seal hs⟩
  unfold sealPreAcquisitionRefusal
  rw [Sql.bind_ok]
  exact ⟨{}, rfl, context_ok.mpr hs⟩

theorem spend_zero_atMost (a : AcquisitionSpend) : AcquisitionSpend.AtMost {} a :=
  ⟨Nat.zero_le _, Nat.zero_le _, Nat.zero_le _, Nat.zero_le _, Nat.zero_le _, Nat.zero_le _, Nat.zero_le _⟩

/-- With a valid grant to bind, it seals unless some refusal denies the grant. -/
theorem seal_bound (h : Prepared env resolved plan request w preflight) (hkind : refusal.kind.isGrantRefusal = true)
    (husable : refusal.kind.deniesGrant = false) (hgrant : grant.validate env = .ok ()) :
    (∃ s, sealPreAcquisitionRefusal env resolved request w refusal (some grant) = .ok s ∧
        RefusedReceipt env resolved refusal.kind s) ↔
      ∀ x ∈ resolved.profile.cannotTestify, x.kind.deniesGrant = false := by
  obtain ⟨digest, hdigest⟩ := digestJcs_plain env (a := .grant grant) rfl
  have hg : grant.grantDigest env = .ok digest := by
    unfold Grant.grantDigest
    rw [hgrant]
    exact hdigest
  have hbinding : sealPreAcquisitionRefusal env resolved request w refusal (some grant) =
      context "sealing pre-acquisition inquiry refusal"
        (Receipt.seal env (preAcquisitionReceipt resolved request w refusal
        ⟨some digest, some grant.totalAcquisitionEnvelope, some {}⟩)) := by
    have hbound : grantBinding env (some grant) = .ok ⟨some digest, some grant.totalAcquisitionEnvelope, some {}⟩ := by
      unfold grantBinding
      dsimp only
      rw [hg]
      rfl
    unfold sealPreAcquisitionRefusal
    rw [hbound]
    rfl
  rw [hbinding]
  constructor
  · intro hs
    obtain ⟨s, hs, _⟩ := hs
    have hrefused := (seal_refusal_iff h hkind _).mp ⟨s, context_ok.mp hs⟩
    intro x hx
    by_contra hdenies
    have hnone := (hrefused.denied ⟨x, mem_sortDedup.mpr (mem_append_left _ hx), by simpa using hdenies⟩).1
    cases hnone
  · intro hall
    have hrefused : RefusedBefore (preAcquisitionReceipt resolved request w refusal
        ⟨some digest, some grant.totalAcquisitionEnvelope, some {}⟩).sorted {} := by
      refine ⟨rfl, ⟨rfl, rfl⟩, ?_, ?_⟩
      · intro hdenied
        obtain ⟨x, hx, hdenies⟩ := hdenied
        rcases mem_append.mp (mem_sortDedup.mp hx) with hx | hx
        · rw [hall x hx] at hdenies
          cases hdenies
        · rw [mem_singleton.mp hx, husable] at hdenies
          cases hdenies
      · exact Or.inr ⟨digest, _, rfl, isSha256Digest_digestJcs hdigest, rfl, rfl, spend_zero_atMost _⟩
    obtain ⟨s, hs⟩ := (seal_refusal_iff h hkind _).mpr hrefused
    exact ⟨s, context_ok.mpr hs, refusedReceipt_of_seal hs⟩

/-! ## Which refusal it is -/

theorem scope_refusal :
    (grantAdmissionRefusal "initial inquiry position scope is outside the grant").kind = .grantScopeInsufficient := by
  decide +kernel

theorem depth_refusal :
    (grantAdmissionRefusal "initial inquiry position depth exceeds grant.max_depth").kind =
      .grantDepthInsufficient := by
  decide +kernel

theorem dimension_names {a b : AcquisitionSpend} {dimension : String}
    (h : firstSpendDimensionOverLimit a b = some dimension) :
    dimension ∈ ["dns_attempts", "connection_attempts", "handshakes_attempted", "handshakes_completed", "bound_checks",
      "wall_ms", "work_units"] := by
  unfold firstSpendDimensionOverLimit at h
  repeat' split at h
  all_goals cases h
  all_goals simp

theorem envelope_refusals : ∀ dimension ∈ ["dns_attempts", "connection_attempts", "handshakes_attempted",
    "handshakes_completed", "bound_checks", "wall_ms", "work_units"],
    (grantAdmissionRefusal ("initial inquiry position remaining acquisition " ++ dimension ++
      " exceeds the grant envelope")).kind = .grantAcquisitionEnvelopeInsufficient := by
  simp (disch := exact rfl) only [forall_mem_cons, not_mem_nil, false_implies, implies_true, and_true,
    grantAdmissionRefusal, Text.contains_eq_occurs, String.toList_append, Text.toList_lit]
  decide

theorem admitInitialPosition_invalid (h : grant.validate env = .error e) :
    admitInitialPosition env grant position = .error e := by
  unfold admitInitialPosition
  rw [h]
  rfl

/-- The first dimension that is not covered, as the error's text says. -/
theorem admitInitialPosition_refusal (hg : grant.validate env = .ok ()) (hp : position.validate env = .ok ())
    (h : admitInitialPosition env grant position = .error e) :
    (grantAdmissionRefusal e).kind = nonCoveringKind env grant position ∧
      nonCoveringKind env grant position ∈
        [RefusalKind.grantScopeInsufficient, .grantDepthInsufficient, .grantAcquisitionEnvelopeInsufficient] := by
  have hvalid : (grant.validate env).isOk = true := by rw [hg]; rfl
  unfold admitInitialPosition at h
  rw [hg, hp] at h
  unfold nonCoveringKind
  simp only [hvalid, Bool.not_true, Bool.false_eq_true, if_false]
  by_cases hscope : position.scope ⊆ grant.admittedScope
  · by_cases hdepth : position.depth > grant.maxDepth
    · simp [rejectIf, hscope, hdepth, bind, Except.bind] at h
      rw [if_neg (not_not.mpr hscope), if_pos hdepth, ← h]
      exact ⟨depth_refusal, by simp⟩
    · cases hfirst : firstSpendDimensionOverLimit position.remainingAcquisitionEnvelope grant.totalAcquisitionEnvelope
        with
      | none => simp [rejectIf, hscope, hdepth, hfirst, bind, Except.bind] at h
      | some dimension =>
        simp [rejectIf, hscope, hdepth, hfirst, bind, Except.bind] at h
        have hnot : spendIsPointwiseAtMost position.remainingAcquisitionEnvelope
            grant.totalAcquisitionEnvelope = false := by
          unfold spendIsPointwiseAtMost
          rw [hfirst]
          rfl
        rw [if_neg (not_not.mpr hscope), if_neg hdepth, hnot, ← h]
        exact ⟨envelope_refusals dimension (dimension_names hfirst), by simp⟩
  · simp [rejectIf, hscope, bind, Except.bind] at h
    rw [if_pos hscope, ← h]
    exact ⟨scope_refusal, by simp⟩

theorem map_inl_ok {p : α → Prop} :
    (∃ a, x.map Sum.inl = (.ok (.inl a) : Except String (α ⊕ β)) ∧ p a) ↔ ∃ a, x = .ok a ∧ p a := by
  cases x <;> simp [Except.map]

/-- The phrases a refusal is recognised by. -/
def recognised : List String := ["position scope", "position depth", "remaining acquisition"]

/-- A grant whose refusal comes out right: no phrase in what is wrong with it, or, where
    nothing is, a profile that denies no grant by itself. -/
def Recoverable (env : Env) (resolved : ResolvedProfile) (grant : Grant) : Prop :=
  match grant.validate env with
  | .error e => ∀ phrase ∈ recognised, Text.contains e phrase = false
  | .ok () => ∀ x ∈ resolved.profile.cannotTestify, x.kind.deniesGrant = false

theorem malformed_iff :
    (grantAdmissionRefusal e).kind = .grantMalformed ↔ ∀ phrase ∈ recognised, Text.contains e phrase = false := by
  unfold grantAdmissionRefusal recognised
  simp only [forall_mem_cons, not_mem_nil, false_implies, implies_true, and_true]
  cases Text.contains e "position scope" with
  | true => simp
  | false =>
    cases Text.contains e "position depth" with
    | true => simp
    | false => cases Text.contains e "remaining acquisition" <;> simp

/-- An invalid grant is refused as malformed unless its error reads like another refusal. -/
theorem holdGrant_invalid (h : Prepared env resolved plan request w preflight) (hg : grant.validate env = .error e) :
    (∃ receipt, holdGrant env resolved grant request w preflight = .ok (.inl receipt) ∧
        RefusedReceipt env resolved .grantMalformed receipt) ↔
          ∀ phrase ∈ recognised, Text.contains e phrase = false := by
  unfold holdGrant
  rw [admitInitialPosition_invalid hg, ← malformed_iff]
  dsimp only
  rw [map_inl_ok]
  by_cases hkind : (grantAdmissionRefusal e).kind = .grantMalformed
  · rw [if_neg (not_not.mpr hkind)]
    obtain ⟨s, hs, hr⟩ := seal_unbound h (show (grantAdmissionRefusal e).kind.isGrantRefusal = true by rw [hkind]; rfl)
    exact ⟨fun _ => hkind, fun _ => ⟨s, hs, hkind ▸ hr⟩⟩
  · rw [if_pos hkind]
    refine ⟨fun hs => ?_, fun hm => absurd hm hkind⟩
    obtain ⟨s, hs, _⟩ := hs
    unfold sealPreAcquisitionRefusal grantBinding Grant.grantDigest at hs
    dsimp only at hs
    rw [hg] at hs
    cases hs

/-- A valid grant that does not cover the plan is refused in its first dimension unless the
    profile denies grants by itself. -/
theorem holdGrant_valid (h : Prepared env resolved plan request w preflight) (hg : grant.validate env = .ok ())
    (hnot : ¬Passes env grant preflight w) :
    (∃ receipt, holdGrant env resolved grant request w preflight = .ok (.inl receipt) ∧
        RefusedReceipt env resolved (nonCoveringKind env grant preflight.position) receipt) ↔
      ∀ x ∈ resolved.profile.cannotTestify, x.kind.deniesGrant = false := by
  obtain ⟨_, _, _, _, _, hpreflight⟩ := h.facts
  have hp : preflight.position.validate env = .ok () := Position.validate_ok.mpr ⟨rfl, hpreflight.grantScope⟩
  unfold holdGrant
  cases hscope : admitInitialPosition env grant preflight.position with
  | error e =>
    obtain ⟨hkind, hmem⟩ := admitInitialPosition_refusal hg hp hscope
    have hnames : nonCoveringKind env grant preflight.position ≠ .grantMalformed ∧
        (nonCoveringKind env grant preflight.position).isGrantRefusal = true ∧
        (nonCoveringKind env grant preflight.position).deniesGrant = false := by
      revert hmem
      generalize nonCoveringKind env grant preflight.position = k
      intro hmem
      simp only [mem_cons, not_mem_nil, or_false] at hmem
      rcases hmem with e | e | e <;> subst e <;> decide
    dsimp only
    rw [map_inl_ok, if_pos (hkind ▸ hnames.1), ← hkind]
    exact seal_bound h (hkind ▸ hnames.2.1) (hkind ▸ hnames.2.2) hg
  | ok u =>
    have hclass : w.collector ∉ grant.permittedWitnessClasses := fun hmem => hnot ⟨hscope, hmem⟩
    obtain ⟨_, _, hwithin⟩ := admitInitialPosition_ok.mp hscope
    have hkind : nonCoveringKind env grant preflight.position = .grantWitnessClassNotPermitted := by
      have hvalid : (grant.validate env).isOk = true := by rw [hg]; rfl
      unfold nonCoveringKind
      rw [hvalid, spendIsPointwiseAtMost_iff.mpr hwithin.remaining, if_neg (not_not.mpr hwithin.scope),
        if_neg (Nat.not_lt.mpr hwithin.depth)]
      rfl
    dsimp only
    rw [if_pos hclass, map_inl_ok, hkind]
    exact seal_bound h rfl rfl hg

theorem gate_ok {x : Receipt ⊕ Clearance} (h : gate env resolved plan grant = .ok x) :
    ∃ request w preflight, Prepared env resolved plan request w preflight ∧
      holdGrant env resolved grant request w preflight = .ok x := by
  unfold gate at h
  simp only [Sql.bind_ok, context_ok] at h
  obtain ⟨request, hadmitted, w, hplanned, _, _, preflight, hrendered, hx⟩ := h
  exact ⟨request, w, preflight, ⟨hadmitted, hplanned, hrendered⟩, hx⟩

theorem map_inl_ne_inr {b : β} : x.map Sum.inl ≠ (.ok (.inr b) : Except String (α ⊕ β)) := by
  cases x <;> simp [Except.map]

/-- What is cleared is prepared, and the grant passes. -/
theorem gate_cleared {c : Clearance} (h : gate env resolved plan grant = .ok (.inr c)) :
    ∃ preflight, Prepared env resolved plan c.request c.witnessPlan preflight ∧
      Passes env grant preflight c.witnessPlan ∧
      grant.grantDigest env = .ok c.grantDigest ∧ c.authorized = grant.totalAcquisitionEnvelope := by
  obtain ⟨request, w, preflight, hprepared, hx⟩ := gate_ok h
  unfold holdGrant at hx
  cases hscope : admitInitialPosition env grant preflight.position with
  | error e =>
    rw [hscope] at hx
    exact absurd hx map_inl_ne_inr
  | ok u =>
    rw [hscope] at hx
    dsimp only at hx
    by_cases hclass : w.collector ∈ grant.permittedWitnessClasses
    · rw [if_neg (not_not.mpr hclass)] at hx
      simp only [Sql.bind_ok, context_ok] at hx
      obtain ⟨digest, hdigest, e⟩ := hx
      cases e
      exact ⟨preflight, hprepared, ⟨hscope, hclass⟩, hdigest, rfl⟩
    · rw [if_pos hclass] at hx
      exact absurd hx map_inl_ne_inr

end

/-! ## What the acquirer is called for -/

/-- The calls of an acquirer and what it observed. -/
abbrev Log := List (TlsTarget × TlsObservation)

section

variable {env : Env} {σ : Type} {clock : Clock σ} {acquire : Acquirer σ}

def Clock.logged (clock : Clock σ) : Clock (σ × Log) where
  instant := fun (s, log) => ((clock.instant s).1, ((clock.instant s).2, log))
  wall := fun (s, log) => ((clock.wall s).1, ((clock.wall s).2, log))

/-- The acquirer, writing down each call. -/
def logged (acquire : Acquirer σ) : Acquirer (σ × Log) := fun target w deadline refusals (s, log) =>
  let r := acquire target w deadline refusals s
  (r.1, (r.2, log ++ [(target, r.1.1)]))

/-- Once halted the loop calls no acquirer, and it stays halted. -/
theorem acquireAll_halted {w : WitnessPlan} {deadline : Nat} {target : TlsTarget} {rest : List TlsTarget}
    {refusals : List Refusal} {s : σ} : acquireAll env clock acquire w deadline (target :: rest) true refusals s =
      let halted := haltedObservation env clock target refusals s
      let after := acquireAll env clock acquire w deadline rest true halted.1.2 halted.2
      ((halted.1.1 :: after.1.1, after.1.2), after.2) := rfl

/-- The calls of a loop, in order and up to a refused bound; the loop does not see them. -/
theorem acquireAll_logged (env : Env) (clock : Clock σ) (acquire : Acquirer σ) (w : WitnessPlan) (deadline : Nat) :
    ∀ (targets : List TlsTarget) (halted : Bool) (refusals : List Refusal) (s : σ) (log : Log), ∃ calls : Log,
      acquireAll env clock.logged (logged acquire) w deadline targets halted refusals (s, log) =
        ((acquireAll env clock acquire w deadline targets halted refusals s).1,
          ((acquireAll env clock acquire w deadline targets halted refusals s).2, log ++ calls)) ∧
      (halted = true → calls = []) ∧ calls.map Prod.fst <+: targets ∧
      ∀ before x after, calls = before ++ x :: after → x.2.outcome = .acquisitionBoundRefused → after = [] := by
  intro targets
  induction targets with
  | nil =>
    intro halted refusals s log
    exact ⟨[], by simp [acquireAll], fun _ => rfl, nil_prefix, fun before x after e => by simp at e⟩
  | cons target rest ih =>
    intro halted refusals s log
    cases halted with
    | true =>
      obtain ⟨calls, e, hnone, _, _⟩ := ih true (haltedObservation env clock target refusals s).1.2
        (haltedObservation env clock target refusals s).2 log
      refine ⟨calls, ?_, fun _ => hnone rfl, ?_, ?_⟩
      · have e : acquireAll env clock.logged (logged acquire) w deadline rest true
            (haltedObservation env clock.logged target refusals (s, log)).1.2
            (haltedObservation env clock.logged target refusals (s, log)).2 = _ := e
        rw [acquireAll_halted, acquireAll_halted]
        dsimp only
        rw [e]
        rfl
      · rw [hnone rfl]
        exact nil_prefix
      · rw [hnone rfl]
        intro before x after h
        simp at h
    | false =>
      generalize hr : acquire target w deadline refusals s = r
      obtain ⟨⟨o, refusals'⟩, s'⟩ := r
      obtain ⟨calls, e, hnone, hcalls, hlast⟩ := ih (decide (o.outcome = .acquisitionBoundRefused)) refusals' s'
        (log ++ [(target, o)])
      refine ⟨(target, o) :: calls, ?_, fun h => (nomatch h), ?_, ?_⟩
      · simp only [acquireAll, Bool.false_eq_true, if_false, logged, hr, e, append_assoc, singleton_append]
      · exact cons_prefix_cons.mpr ⟨rfl, hcalls⟩
      · intro before x after h hx
        cases before with
        | nil =>
          obtain ⟨e, e'⟩ := List.cons.inj h
          subst e
          rw [← e']
          exact hnone (decide_eq_true hx)
        | cons y before => exact hlast before x after (List.cons.inj h).2 hx

/-- Writing the calls down changes nothing else of an execution. -/
theorem execute_logged (env : Env) (clock : Clock σ) (acquire : Acquirer σ) (resolved : ResolvedProfile)
    (plan : CandidatePlan) (grant : Grant)
    (s : σ) : ∃ calls : Log,
      executeTlsCertInquiryWith env clock.logged (logged acquire) resolved plan grant (s, []) =
        ((executeTlsCertInquiryWith env clock acquire resolved plan grant s).1,
          ((executeTlsCertInquiryWith env clock acquire resolved plan grant s).2, calls)) ∧
      (calls ≠ [] → ∃ c, gate env resolved plan grant = .ok (.inr c) ∧ calls.map Prod.fst <+: c.witnessPlan.targets) ∧
      ∀ before x after, calls = before ++ x :: after → x.2.outcome = .acquisitionBoundRefused → after = [] := by
  unfold executeTlsCertInquiryWith
  cases hgate : gate env resolved plan grant with
  | error e => exact ⟨[], rfl, fun h => absurd rfl h, fun before x after h => by simp at h⟩
  | ok x =>
    cases x with
    | inl receipt => exact ⟨[], rfl, fun h => absurd rfl h, fun before x after h => by simp at h⟩
    | inr c =>
      obtain ⟨calls, e, _, hcalls, hlast⟩ := acquireAll_logged env clock acquire c.witnessPlan
        ((clock.instant s).1 + c.witnessPlan.bounds.totalDeadlineMs * 1000000) c.witnessPlan.targets false
        resolved.profile.cannotTestify (clock.instant s).2 []
      refine ⟨calls, ?_, fun _ => ⟨c, rfl, hcalls⟩, hlast⟩
      unfold executeCleared
      dsimp only [Clock.logged, elapsedMs] at e ⊢
      rw [e]
      rfl

/-- Whatever the acquirer and the clocks, the inquiry is refused with a receipt of this kind,
    and the acquirer is not called. -/
def RefusesNonCovering (env : Env) (resolved : ResolvedProfile)
    (plan : CandidatePlan) (grant : Grant) (kind : RefusalKind) :
    Prop :=
  ∀ (σ : Type) (clock : Clock σ) (acquire : Acquirer σ) (s : σ), ∃ receipt,
    executeTlsCertInquiryWith env clock.logged (logged acquire) resolved plan grant (s, []) = (.ok receipt, (s, [])) ∧
    RefusedReceipt env resolved kind receipt

theorem refusesNonCovering_iff {resolved : ResolvedProfile} {plan : CandidatePlan} {request : AdmittedRequest}
    {w : WitnessPlan} {preflight : Preflight} {grant : Grant}
    (h : Prepared env resolved plan request w preflight)
    (hnot : ¬Passes env grant preflight w) {kind : RefusalKind} : RefusesNonCovering env resolved plan grant kind ↔
      ∃ receipt, holdGrant env resolved grant request w preflight = .ok (.inl receipt) ∧
        RefusedReceipt env resolved kind receipt := by
  constructor
  · intro hrefuses
    -- any clocks and any acquirer will do: none is asked
    obtain ⟨receipt, hrun, hr⟩ := hrefuses Unit ⟨fun _ => (0, ()), fun _ => (⟨0, by decide⟩, ())⟩
      (fun t _ _ refusals s =>
        ((haltedObservation env ⟨fun _ => (0, ()), fun _ => (⟨0, by decide⟩, ())⟩ t refusals s))) ()
    unfold executeTlsCertInquiryWith at hrun
    rw [gate_eq h] at hrun
    cases hx : holdGrant env resolved grant request w preflight with
    | error e =>
      rw [hx] at hrun
      cases congrArg Prod.fst hrun
    | ok x =>
      rw [hx] at hrun
      cases x with
      | inl receipt' =>
        have e : receipt' = receipt := Except.ok.inj (congrArg Prod.fst hrun)
        exact ⟨receipt, by rw [e], hr⟩
      | inr c =>
        obtain ⟨preflight', hprepared, hpasses, _⟩ := gate_cleared (gate_eq h ▸ hx)
        have hrequest : c.request = request := Except.ok.inj (hprepared.admitted.symm.trans h.admitted)
        have hpreflight : preflight' = preflight := Except.ok.inj (hprepared.rendered.symm.trans h.rendered)
        have hw : c.witnessPlan = w := Except.ok.inj ((hrequest ▸ hprepared.planned).symm.trans h.planned)
        rw [hpreflight, hw] at hpasses
        exact absurd hpasses hnot
  · intro hheld σ clock acquire s
    obtain ⟨receipt, hx, hr⟩ := hheld
    refine ⟨receipt, ?_, hr⟩
    unfold executeTlsCertInquiryWith
    rw [gate_eq h, hx]

theorem refusesNonCovering_recoverable {resolved : ResolvedProfile} {plan : CandidatePlan} {request : AdmittedRequest}
    {w : WitnessPlan} {preflight : Preflight} {grant : Grant} (h : Prepared env resolved plan request w preflight)
    (hnot : ¬Passes env grant preflight w) :
    RefusesNonCovering env resolved plan grant (nonCoveringKind env grant preflight.position) ↔
      Recoverable env resolved grant := by
  rw [refusesNonCovering_iff h hnot]
  unfold Recoverable
  cases hg : grant.validate env with
  | error e =>
    have hkind : nonCoveringKind env grant preflight.position = .grantMalformed := by
      unfold nonCoveringKind
      rw [hg]
      rfl
    rw [hkind]
    exact holdGrant_invalid h hg
  | ok u => exact holdGrant_valid h hg hnot

theorem exists_prepared {resolved : ResolvedProfile} {plan : CandidatePlan} {request : AdmittedRequest}
    (ha : admitPlan env plan resolved = .ok request)
    (hk : resolved.profile.questionKind = .tlsCertificatePresentationAndExpiryHorizon) :
    ∃ w preflight, Prepared env resolved plan request w preflight := by
  obtain ⟨tlsCert, ht⟩ := (admitPlan_ok.mp ha).tls hk
  obtain ⟨w, hw, _⟩ := (admitPlan_ok.mp ha).resolve ht hk
  obtain ⟨preflight, hp⟩ := render_ok_iff.mpr ⟨request, ha⟩
  exact ⟨w, preflight, ha, hw, hp⟩

/-- A grant that does not cover the plan is refused with a receipt exactly when it is
    recoverable. -/
theorem non_covering_grant_refused_iff (env : Env) {resolved : ResolvedProfile}
    {plan : CandidatePlan} {request : AdmittedRequest}
    (ha : admitPlan env plan resolved = .ok request)
    (hk : resolved.profile.questionKind = .tlsCertificatePresentationAndExpiryHorizon) (grant : Grant) :
    ∃ w preflight, Prepared env resolved plan request w preflight ∧ (¬Passes env grant preflight w →
      (RefusesNonCovering env resolved plan grant (nonCoveringKind env grant preflight.position) ↔
        Recoverable env resolved grant)) := by
  obtain ⟨w, preflight, h⟩ := exists_prepared ha hk
  exact ⟨w, preflight, h, refusesNonCovering_recoverable h⟩

/-- A grant for nothing. -/
def emptyGrant : Grant where
  admittedScope := BTreeSet.empty
  maxDepth := 1
  totalAcquisitionEnvelope := ⟨1, 1, 1, 1, 1, 750, 4⟩
  permittedWitnessClasses := BTreeSet.ofList [.tlsCertProbe]
  schema := grantSchema
  version := .v0

/-- A grant that is malformed in its schema, by a text that reads like another refusal. -/
def misnamedGrant : Grant := { emptyGrant with schema := "position scope" }

theorem emptyGrant_valid : emptyGrant.validate canonicalEnv = .ok () :=
  Grant.validate_ok.mpr ⟨rfl, ⟨fun _ h => (nomatch h), nodup_nil⟩⟩

theorem misnamedGrant_invalid : misnamedGrant.validate canonicalEnv = .error
    "unsupported inquiry grant schema \"position scope\"; expected \"nq.inquiry_grant.v0\"" := by rfl

/-- A prepared plan has targets, so a grant for nothing does not cover it. -/
theorem not_passes_empty {resolved : ResolvedProfile} {plan : CandidatePlan} {request : AdmittedRequest}
    {w : WitnessPlan}
    {preflight : Preflight} (h : Prepared env resolved plan request w preflight) {grant : Grant}
    (hempty : grant.admittedScope = BTreeSet.empty) : ¬Passes env grant preflight w := by
  intro hpasses
  obtain ⟨_, _, hwithin⟩ := admitInitialPosition_ok.mp hpasses.1
  obtain ⟨tlsCert, _, ht, hof, hm, _⟩ := h.facts
  have htargets : w.targets = plan.requested tlsCert := by
    rw [← ht.targets, hof.material]
    rfl
  obtain ⟨t, hmem⟩ := exists_mem_of_ne_nil _ (htargets ▸ requested_nonempty ht.valid)
  have hdeclared : t ∈ preflight.grantRequirements.admittedScope := by
    rw [hm]
    exact BTreeSet.mem_ofList.mpr hmem
  have hgranted := hwithin.scope t hdeclared
  rw [hempty] at hgranted
  cases hgranted

theorem a_grant_for_nothing_is_refused_for_its_scope : ∃ resolved request w preflight,
    Prepared canonicalEnv resolved loopbackPlan request w preflight ∧
    RefusesNonCovering canonicalEnv resolved loopbackPlan emptyGrant
      (nonCoveringKind canonicalEnv emptyGrant preflight.position) := by
  obtain ⟨resolved, request, ha, hprofile⟩ := loopbackPlan_admitted
  obtain ⟨w, preflight, hprepared, hrefuses⟩ :=
    non_covering_grant_refused_iff canonicalEnv ha (by rw [hprofile]; rfl) emptyGrant
  refine ⟨resolved, request, w, preflight, hprepared, (hrefuses (not_passes_empty hprepared rfl)).mpr ?_⟩
  unfold Recoverable
  rw [emptyGrant_valid, hprofile]
  decide

/-- A grant under the schema `position scope` is not refused with a receipt, though it does not validate. -/
theorem a_misnamed_grant_gets_no_receipt : ∃ resolved request w preflight,
    Prepared canonicalEnv resolved loopbackPlan request w preflight ∧ ¬Passes canonicalEnv misnamedGrant preflight w ∧
    (misnamedGrant.validate canonicalEnv).isOk = false ∧
    ¬RefusesNonCovering canonicalEnv resolved loopbackPlan misnamedGrant .grantMalformed := by
  obtain ⟨resolved, request, ha, hprofile⟩ := loopbackPlan_admitted
  obtain ⟨w, preflight, hprepared⟩ := exists_prepared ha (by rw [hprofile]; rfl)
  have hnot := not_passes_empty hprepared (show misnamedGrant.admittedScope = BTreeSet.empty from rfl)
  refine ⟨resolved, request, w, preflight, hprepared, hnot, by rw [misnamedGrant_invalid]; rfl, ?_⟩
  rw [refusesNonCovering_iff hprepared hnot, holdGrant_invalid hprepared misnamedGrant_invalid]
  decide +kernel

/-- The acquirer is called under a covering grant alone, for a prefix of the witness plan, and
    not again after a refused bound. -/
theorem acquisition_gated (env : Env) {σ : Type} (clock : Clock σ) (acquire : Acquirer σ) (resolved : ResolvedProfile)
    (plan : CandidatePlan) (grant : Grant) (s : σ) : ∃ calls : Log,
      executeTlsCertInquiryWith env clock.logged (logged acquire) resolved plan grant (s, []) =
        ((executeTlsCertInquiryWith env clock acquire resolved plan grant s).1,
          ((executeTlsCertInquiryWith env clock acquire resolved plan grant s).2, calls)) ∧
      (calls ≠ [] → ∃ request w preflight, Prepared env resolved plan request w preflight ∧
        grant.validate env = .ok () ∧ preflight.position.Within grant ∧ w.collector ∈ grant.permittedWitnessClasses ∧
        calls.map Prod.fst <+: w.targets ∧ w.targets.Pairwise (· < ·) ∧ (calls.map Prod.fst).Nodup ∧
        ∀ t ∈ calls.map Prod.fst, t ∈ resolved.profile.declaredTargets ∧ (plan.targets = [] ∨ t ∈ plan.targets) ∧
          t ∈ grant.admittedScope) ∧
      ∀ before x after, calls = before ++ x :: after → x.2.outcome = .acquisitionBoundRefused → after = [] := by
  obtain ⟨calls, e, hcleared, hlast⟩ := execute_logged env clock acquire resolved plan grant s
  refine ⟨calls, e, fun hne => ?_, hlast⟩
  obtain ⟨c, hgate, hcalls⟩ := hcleared hne
  obtain ⟨preflight, hprepared, ⟨hscope, hclass⟩, _⟩ := gate_cleared hgate
  obtain ⟨tlsCert, hadmitted, ht, hof, hm, _⟩ := hprepared.facts
  obtain ⟨hvalid, _, hwithin⟩ := admitInitialPosition_ok.mp hscope
  have htargets : c.witnessPlan.targets = plan.requested tlsCert := by
    rw [← ht.targets, hof.material]
    rfl
  have hsorted : c.witnessPlan.targets.Pairwise (· < ·) := htargets ▸ sortDedup_pairwise _
  refine ⟨c.request, c.witnessPlan, preflight, hprepared, hvalid, hwithin, hclass, hcalls, hsorted,
    (hsorted.imp ne_of_lt).sublist hcalls.sublist, fun t hmem => ?_⟩
  have hrequested : t ∈ plan.requested tlsCert := htargets ▸ hcalls.subset hmem
  refine ⟨?_, ?_, hwithin.scope t ?_⟩
  · have hdeclared := ht.declared t (ht.targets ▸ hrequested)
    unfold Profile.declaredTargets
    rw [ht.profile]
    exact hdeclared
  · have hasked := mem_requested.mp hrequested
    by_cases hnil : plan.targets = []
    · exact Or.inl hnil
    · rw [if_neg hnil] at hasked
      exact Or.inr hasked
  · show t ∈ preflight.grantRequirements.admittedScope
    rw [hm]
    exact BTreeSet.mem_ofList.mpr (hcalls.subset hmem)

end

end Nq.Inquiry
