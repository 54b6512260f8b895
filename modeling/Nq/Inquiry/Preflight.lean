/-
  Nq.Inquiry.Preflight — the envelope an inquiry would use, rendered before it runs
  (`nq-core/src/inquiry.rs`).

  Rendering checks what it rendered once more, against bounds of its own. Those never refuse
  what admission and the witness plan let through: a plan has a preflight exactly when it is
  admitted (`render_ok_iff`). The requirements a preflight states are the least of all grants
  that pass the gate of the executor (`requirements_pass`, `requirements_least`).
-/

import Nq.Inquiry.Ratchet
import Nq.Inquiry.Request

namespace Nq.Inquiry

open Collections

section

variable (env : Env)

/-! ## Rendering -/

def GrantRequirements.validate (g : GrantRequirements) : Except String Unit :=
  validateRatchetScope env "grant_requirements.admitted_scope" g.admittedScope

def acquisitionEnvelopeFromBounds (bounds : AcquisitionBounds) : AcquisitionSpend where
  dnsAttempts := bounds.maxDnsAttempts
  connectionAttempts := bounds.maxConnectionAttempts
  handshakesAttempted := bounds.maxHandshakesAttempted
  handshakesCompleted := bounds.maxHandshakesAttempted
  boundChecks := bounds.maxBoundChecks
  wallMs := bounds.totalDeadlineMs
  workUnits := bounds.maxWorkUnits

def inquiryPreflightCannotTestify : List PreflightCannotTestify :=
  [⟨.authorization, "preflight authorizes nothing"⟩, ⟨.execution, "preflight executes nothing"⟩,
    ⟨.grantExistence, "preflight does not evaluate whether any inquiry grant exists"⟩]

def Preflight.computePreflightDigest (p : Preflight) : Except String String :=
  digestJcs env (.preflight p.toPreflightMaterial)

/-- The envelope of a report. -/
def Preflight.validateReport (p : Preflight) : Except String Unit := do
  let selector ← okOr p.selector "report inquiry preflight is missing its selector"
  requireNonempty "preflight.selector.host" selector.host
  requireNonempty "preflight.selector.kind" selector.kind
  rejectIf (!p.declaredTargets.toList.isEmpty || p.witnessClass.isSome ||
    p.witnessPlanDigest.isSome || p.bounds.isSome ||
      p.expiryHorizonDays.isSome || p.validationPolicy.isSome || p.vantage.isSome ||
        p.maxSnapshotAgeSeconds.all (· = 0) ||
      p.evidenceLimit.all (· = 0) || p.acquisitionEnvelope ≠ {} || p.grantRequirements.maxDepth ≠ reportDepth)
    "report inquiry preflight has an invalid L0 envelope"

/-- The envelope of an active survey. -/
def Preflight.validateActive (p : Preflight) : Except String Unit := do
  let bounds ← okOr p.bounds "active inquiry preflight is missing bounds"
  let targetCount := p.declaredTargets.card % 2 ^ 32
  rejectIf (p.selector.isSome || p.declaredTargets.toList.isEmpty ||
    p.witnessClass.isNone || p.witnessPlanDigest.isNone ||
      p.expiryHorizonDays.isNone || p.validationPolicy.isNone || p.vantage.all (·.isEmpty) ||
      p.maxSnapshotAgeSeconds.isSome || p.evidenceLimit.isSome ||
        bounds.maxTargets = 0 || targetCount > bounds.maxTargets ||
      bounds.maxConcurrency ≠ 1 || bounds.perTargetDeadlineMs < 100 || bounds.perTargetDeadlineMs > 60000 ||
      bounds.totalDeadlineMs = 0 || bounds.totalDeadlineMs > 300000 ||
      -- `saturating_mul`
      bounds.totalDeadlineMs < min (bounds.perTargetDeadlineMs * targetCount) (2 ^ 64 - 1) ||
      p.expiryHorizonDays.all (fun days => days = 0 || days > 3650) || bounds.maxDnsAttempts ≠ targetCount ||
      bounds.maxConnectionAttempts ≠ targetCount || bounds.maxHandshakesAttempted ≠ targetCount ||
      bounds.maxBoundChecks ≠ targetCount || bounds.maxWorkUnits ≠ targetCount * 4 || bounds.maxRedirects ≠ 0 ||
      bounds.maxRetries ≠ 0 || bounds.maxAiaFetches ≠ 0 || bounds.maxOcspRequests ≠ 0 ||
        bounds.maxDependencyRecursions ≠ 0 ||
      p.acquisitionEnvelope ≠ acquisitionEnvelopeFromBounds bounds || p.grantRequirements.maxDepth ≠ surveyDepth)
    "active inquiry preflight has an invalid L1 envelope"

def Preflight.validateKind (p : Preflight) : Except String Unit :=
  match p.questionKind with
  | .findingOperationalActivity => p.validateReport
  | .tlsCertificatePresentationAndExpiryHorizon => p.validateActive

def Preflight.validate (p : Preflight) : Except String Unit := do
  rejectIf (p.schema ≠ preflightSchema)
    ("unsupported inquiry preflight schema " ++ debug env p.schema ++ "; expected " ++ debug env preflightSchema)
  requireNonempty "preflight.profile.profile_id" p.profile.profileId
  let _ ← parseRfc3339 env "preflight.as_of" p.asOf
  rejectIf (!isSha256Digest p.profile.profileDigest || !isSha256Digest p.requestDigest ||
    !isSha256Digest p.preflightDigest || p.witnessPlanDigest.any fun digest => !isSha256Digest digest)
    "inquiry preflight bindings must be canonical SHA-256 digests"
  validateRatchetScope env "preflight.declared_targets" p.declaredTargets
  p.grantRequirements.validate env
  rejectIf (p.acquisitionSpend ≠ {}) "inquiry preflight acquisition_spend must be zero"
  rejectIf (p.grantRequirements.admittedScope ≠ p.declaredTargets ||
      p.grantRequirements.totalAcquisitionEnvelope ≠ p.acquisitionEnvelope)
    "inquiry preflight grant requirements do not cover its rendered envelope"
  rejectIf (p.grantRequirements.permittedWitnessClasses ≠ BTreeSet.ofList p.witnessClass.toList)
    "inquiry preflight grant requirements do not name its witness class"
  rejectIf (p.cannotTestify ≠ inquiryPreflightCannotTestify)
    "inquiry preflight must refuse authorization, execution, and grant-existence testimony"
  p.validateKind
  let computed ← (p.computePreflightDigest env).mapError ("inquiry preflight digest failed: " ++ ·)
  rejectIf (computed ≠ p.preflightDigest)
    ("inquiry preflight digest mismatch: declared " ++ p.preflightDigest ++ ", computed " ++ computed)

/-- What both kinds of preflight hold; the rest belongs to one of them. -/
def preflightMaterial (request : AdmittedRequest) (declaredTargets : BTreeSet TlsTarget)
    (witnessClass : Option Collector)
    (acquisitionEnvelope : AcquisitionSpend) (maxDepth : Nat) : PreflightMaterial where
  schema := preflightSchema
  version := .v0
  profile := request.profile
  questionKind := request.questionKind
  asOf := request.asOf
  selector := request.selector
  requestDigest := request.requestDigest
  declaredTargets := declaredTargets
  witnessClass := witnessClass
  witnessPlanDigest := none
  bounds := none
  expiryHorizonDays := none
  validationPolicy := none
  vantage := none
  maxSnapshotAgeSeconds := none
  evidenceLimit := none
  acquisitionEnvelope := acquisitionEnvelope
  acquisitionSpend := {}
  grantRequirements := ⟨declaredTargets, maxDepth, acquisitionEnvelope, BTreeSet.ofList witnessClass.toList⟩
  cannotTestify := inquiryPreflightCannotTestify

def reportPreflight (request : AdmittedRequest) (resolved : ResolvedProfile) : PreflightMaterial :=
  { preflightMaterial request .empty none {} reportDepth with
    maxSnapshotAgeSeconds := resolved.profile.maxSnapshotAgeSeconds
    evidenceLimit := resolved.profile.evidenceLimit }

def activePreflight (request : AdmittedRequest) (w : WitnessPlan) : PreflightMaterial :=
  { preflightMaterial request (.ofList w.targets) (some w.collector)
    (acquisitionEnvelopeFromBounds w.bounds) surveyDepth with
    witnessPlanDigest := some w.witnessPlanDigest
    bounds := some w.bounds
    expiryHorizonDays := some w.expiryHorizonDays
    validationPolicy := some w.validationPolicy
    vantage := some w.vantage }

def renderMaterial (request : AdmittedRequest) (resolved : ResolvedProfile) : Except String PreflightMaterial :=
  match request.questionKind with
  | .findingOperationalActivity => .ok (reportPreflight request resolved)
  | .tlsCertificatePresentationAndExpiryHorizon => do
    let witnessPlan ← WitnessPlan.resolve env request resolved
    pure (activePreflight request witnessPlan)

def Preflight.render (plan : CandidatePlan) (resolved : ResolvedProfile) : Except String Preflight := do
  let request ← admitPlan env plan resolved
  let material ← renderMaterial env request resolved
  let preflightDigest ← (digestJcs env (.preflight material)).mapError ("inquiry preflight digest failed: " ++ ·)
  let preflight : Preflight := { material with preflightDigest }
  preflight.validate env
  pure preflight

/-! ## The gate -/

/-- The position an execution starts from. -/
def Preflight.position (p : Preflight) : Position :=
  ⟨positionSchema, .v0, p.grantRequirements.admittedScope, p.grantRequirements.maxDepth,
    p.grantRequirements.totalAcquisitionEnvelope⟩

/-- The executor acquires under a grant that contains its position and permits its collector. -/
def Passes (grant : Grant) (preflight : Preflight) (w : WitnessPlan) : Prop :=
  admitInitialPosition env grant preflight.position = .ok () ∧ w.collector ∈ grant.permittedWitnessClasses

/-- The grant of the requirements, nothing more. -/
def GrantRequirements.grant (r : GrantRequirements) : Grant := { r with schema := grantSchema, version := .v0 }

end

/-- At least the requirements. -/
structure GrantRequirements.Below (r g : GrantRequirements) : Prop where
  scope : r.admittedScope ⊆ g.admittedScope
  depth : r.maxDepth ≤ g.maxDepth
  envelope : r.totalAcquisitionEnvelope.AtMost g.totalAcquisitionEnvelope
  classes : r.permittedWitnessClasses ⊆ g.permittedWitnessClasses

/-! ## What is rendered -/

section

variable {env : Env} {plan : CandidatePlan} {resolved : ResolvedProfile}
  {request : AdmittedRequest} {preflight : Preflight}

structure Preflight.Valid (env : Env) (p : Preflight) : Prop where
  schema : p.schema = preflightSchema
  profileId : Nonblank p.profile.profileId
  asOf : ∃ i, env.rfc3339 p.asOf = .ok i
  profileDigest : isSha256Digest p.profile.profileDigest = true
  requestDigest : isSha256Digest p.requestDigest = true
  preflightDigest : isSha256Digest p.preflightDigest = true
  witnessPlanDigest : ∀ d, p.witnessPlanDigest = some d → isSha256Digest d = true
  declaredTargets : ValidTargets p.declaredTargets.toList
  grantScope : ValidTargets p.grantRequirements.admittedScope.toList
  unspent : p.acquisitionSpend = {}
  scope : p.grantRequirements.admittedScope = p.declaredTargets
  envelope : p.grantRequirements.totalAcquisitionEnvelope = p.acquisitionEnvelope
  classes : p.grantRequirements.permittedWitnessClasses = BTreeSet.ofList p.witnessClass.toList
  refuses : p.cannotTestify = inquiryPreflightCannotTestify
  kind : p.validateKind = .ok ()
  sealed : digestJcs env (.preflight p.toPreflightMaterial) = .ok p.preflightDigest

theorem Preflight.validate_ok {u : Unit} : preflight.validate env = .ok u ↔ preflight.Valid env := by
  have hplan : (preflight.witnessPlanDigest.any fun d => !isSha256Digest d) = false ↔
      ∀ d, preflight.witnessPlanDigest = some d → isSha256Digest d = true := by
    cases preflight.witnessPlanDigest with
    | none => simp
    | some d => simp
  unfold Preflight.validate GrantRequirements.validate Preflight.computePreflightDigest
  simp only [Sql.bind_ok, exists_const, rejectIf_ok, requireNonempty_ok, parseRfc3339_ok, validateRatchetScope_ok,
    Sql.mapError_ok, Bool.or_eq_false_iff, Bool.not_eq_false',
      decide_eq_false_iff_not, ne_eq, not_not, hplan, exists_eq_right]
  constructor
  · intro h
    obtain ⟨h₁, h₂, i, hi, ⟨⟨⟨h₃, h₄⟩, h₅⟩, h₆⟩, h₇, h₈, h₉, ⟨h₁₀, h₁₁⟩, h₁₂, h₁₃, _, h₁₄, h₁₅⟩ := h
    exact ⟨h₁, h₂, ⟨i, hi⟩, h₃, h₄, h₅, h₆, h₇, h₈, h₉, h₁₀, h₁₁, h₁₂, h₁₃, h₁₄, h₁₅⟩
  · intro h
    obtain ⟨i, hi⟩ := h.asOf
    exact ⟨h.schema, h.profileId, i, hi, ⟨⟨⟨h.profileDigest, h.requestDigest⟩, h.preflightDigest⟩, h.witnessPlanDigest⟩,
      h.declaredTargets, h.grantScope, h.unspent, ⟨h.scope, h.envelope⟩, h.classes, h.refuses, (), h.kind, h.sealed⟩

theorem Admitted.profileDigest (h : Admitted env plan resolved request) :
    request.profile = resolved.binding ∧ isSha256Digest resolved.profileDigest = true := by
  refine ⟨by rw [h.material]; rfl, ?_⟩
  have hbound := h.bound
  rw [Profile.profileDigest_eq h.against] at hbound
  exact isSha256Digest_digestJcs hbound

variable {digest : String} {w : WitnessPlan}

/-- The preflight of a report. -/
theorem report_valid (h : Admitted env plan resolved request)
    (hk : resolved.profile.questionKind = .findingOperationalActivity)
    (hd : digestJcs env (.preflight (reportPreflight request resolved)) = .ok digest) :
    Preflight.Valid env { reportPreflight request resolved with preflightDigest := digest } := by
  obtain ⟨hprofile, hsha⟩ := h.profileDigest
  have hkind := h.against.kind
  unfold Profile.KindValid at hkind
  rw [hk] at hkind
  obtain ⟨s, hs, hhost, hskind⟩ := hkind.selector
  obtain ⟨age, hage, hpos⟩ := hkind.maxSnapshotAge
  obtain ⟨limit, hlimit, hlow, _⟩ := hkind.evidenceLimit
  have hselector : request.selector = some s := by
    obtain ⟨_, e⟩ := (admitTargets_report hk).mp h.targets
    exact (Prod.mk.inj e).1.trans hs
  have hquestion : request.questionKind = .findingOperationalActivity := by rw [h.material]; exact hk
  exact {
    schema := rfl
    profileId := by
      show Nonblank request.profile.profileId
      rw [hprofile]
      exact h.against.profileId
    asOf := h.requestSealed.asOf
    profileDigest := by
      show isSha256Digest request.profile.profileDigest = true
      rw [hprofile]
      exact hsha
    requestDigest := isSha256Digest_digestJcs h.sealed
    preflightDigest := isSha256Digest_digestJcs hd
    witnessPlanDigest := fun _ e => nomatch e
    declaredTargets := ⟨fun _ h => (nomatch h), List.nodup_nil⟩
    grantScope := ⟨fun _ h => (nomatch h), List.nodup_nil⟩
    unspent := rfl
    scope := rfl
    envelope := rfl
    classes := rfl
    refuses := rfl
    kind := by
      unfold Preflight.validateKind
      show (match request.questionKind with
        | .findingOperationalActivity => _
        | .tlsCertificatePresentationAndExpiryHorizon => _) = _
      rw [hquestion]
      unfold Preflight.validateReport
      simp only [Sql.bind_ok, exists_const, okOr_ok, requireNonempty_ok, rejectIf_ok]
      refine ⟨s, hselector, hhost, hskind, ?_⟩
      simp [reportPreflight, preflightMaterial, BTreeSet.empty, hage, hpos, hlimit]
      omega
    sealed := hd }

/-- The preflight of an active survey. -/
theorem active_valid (h : Admitted env plan resolved request) {tlsCert : TlsCertProfile}
    (ht : Admitted.Tls plan resolved request tlsCert)
    (hk : resolved.profile.questionKind = .tlsCertificatePresentationAndExpiryHorizon) (hw : w.Of env request tlsCert)
    (hd : digestJcs env (.preflight (activePreflight request w)) = .ok digest) :
    Preflight.Valid env { activePreflight request w with preflightDigest := digest } := by
  obtain ⟨hprofile, hsha⟩ := h.profileDigest
  have hquestion : request.questionKind = .tlsCertificatePresentationAndExpiryHorizon := by rw [h.material]; exact hk
  have henveloped := hw.enveloped ht
  have htargets : w.targets = request.admittedTargets := by rw [hw.material]; rfl
  have hnodup : w.targets.Nodup := henveloped.targets.nodup
  have hvalid : ValidTargets (BTreeSet.ofList w.targets).toList := by
    rw [BTreeSet.toList_ofList_of_nodup hnodup]
    exact henveloped.targets.perm (sort_perm _).symm
  exact {
    schema := rfl
    profileId := by
      show Nonblank request.profile.profileId
      rw [hprofile]
      exact h.against.profileId
    asOf := h.requestSealed.asOf
    profileDigest := by
      show isSha256Digest request.profile.profileDigest = true
      rw [hprofile]
      exact hsha
    requestDigest := isSha256Digest_digestJcs h.sealed
    preflightDigest := isSha256Digest_digestJcs hd
    witnessPlanDigest := by
      intro d e
      cases e
      exact isSha256Digest_digestJcs hw.sealed
    declaredTargets := hvalid
    grantScope := hvalid
    unspent := rfl
    scope := rfl
    envelope := rfl
    classes := rfl
    refuses := rfl
    kind := by
      unfold Preflight.validateKind
      show (match request.questionKind with
        | .findingOperationalActivity => _
        | .tlsCertificatePresentationAndExpiryHorizon => _) = _
      rw [hquestion]
      unfold Preflight.validateActive
      simp only [Sql.bind_ok, okOr_ok, rejectIf_ok]
      refine ⟨w.bounds, rfl, ?_⟩
      have hcard : (BTreeSet.ofList w.targets).card = w.targets.length := BTreeSet.card_ofList_of_nodup hnodup
      have hfit := henveloped.bounds
      have hnonempty : (BTreeSet.ofList w.targets).toList ≠ [] := by
        rw [BTreeSet.toList_ofList_of_nodup hnodup]
        intro e
        exact henveloped.nonempty ((sort_perm w.targets).symm.trans (e ▸ .nil)).eq_nil
      have hvantage : w.vantage.isEmpty = false := by
        rw [Bool.eq_false_iff, ne_eq, String.isEmpty_iff]
        intro e
        refine henveloped.vantage ?_
        rw [e]
        rfl
      have hselector : request.selector = none := ht.selector
      obtain ⟨⟨hpos, hfits, _⟩, hone, hper, ⟨htotal, hserial, hmost⟩, hdns, hconn, hhand, hchecks, hwork, hunused⟩ :=
        hfit
      have hhorizon := henveloped.expiryHorizon
      simp [activePreflight, preflightMaterial, hselector, hnonempty, hvantage, hcard, hone, hdns, hconn, hhand,
        hchecks, hwork, hunused]
      simp only [Nat.reducePow] at hserial
      omega
    sealed := hd }

/-- Only an active request has a witness plan. -/
theorem resolve_kind (h : WitnessPlan.resolve env request resolved = .ok w) :
    request.questionKind = .tlsCertificatePresentationAndExpiryHorizon := by
  unfold WitnessPlan.resolve at h
  simp only [Sql.bind_ok, rejectIf_ok, Bool.or_eq_false_iff, decide_eq_false_iff_not, ne_eq, not_not] at h
  obtain ⟨_, _, _, hmatches, _⟩ := h
  exact hmatches.1.1.1.2

theorem renderMaterial_ok (hadmitted : Admitted env plan resolved request) :
    ∃ material, renderMaterial env request resolved = .ok material ∧
      ∀ digest, digestJcs env (.preflight material) = .ok digest →
        Preflight.Valid env { material with preflightDigest := digest } := by
  have hquestion : request.questionKind = resolved.profile.questionKind := by rw [hadmitted.material]; rfl
  unfold renderMaterial
  rw [hquestion]
  cases hk : resolved.profile.questionKind with
  | findingOperationalActivity => exact ⟨_, rfl, fun _ hd => report_valid hadmitted hk hd⟩
  | tlsCertificatePresentationAndExpiryHorizon =>
    obtain ⟨tlsCert, ht⟩ := hadmitted.tls hk
    obtain ⟨w, hresolve, hw⟩ := hadmitted.resolve ht hk
    refine ⟨activePreflight request w, ?_, fun _ hd => active_valid hadmitted ht hk hw hd⟩
    dsimp only
    rw [hresolve]
    rfl

/-- What is rendered passes its own check. -/
theorem render_ok : Preflight.render env plan resolved = .ok preflight ↔ ∃ request, Admitted env plan resolved request ∧
    renderMaterial env request resolved = .ok preflight.toPreflightMaterial ∧
    digestJcs env (.preflight preflight.toPreflightMaterial) = .ok preflight.preflightDigest := by
  unfold Preflight.render
  simp only [Sql.bind_ok, admitPlan_ok, Sql.mapError_ok, pure, Except.pure, Except.ok.injEq]
  constructor
  · intro h
    obtain ⟨request, hadmitted, material, hm, digest, hd, _, _, e⟩ := h
    subst e
    exact ⟨request, hadmitted, hm, hd⟩
  · intro h
    obtain ⟨request, hadmitted, hm, hd⟩ := h
    obtain ⟨material, hm', hvalid⟩ := renderMaterial_ok hadmitted
    rw [hm] at hm'
    cases hm'
    exact ⟨request, hadmitted, _, hm, _, hd, (), Preflight.validate_ok.mpr (hvalid _ hd), rfl⟩

/-- A plan has a preflight exactly when it is admitted. -/
theorem render_ok_iff : (∃ preflight, Preflight.render env plan resolved = .ok preflight) ↔
    ∃ request, admitPlan env plan resolved = .ok request := by
  simp only [render_ok, admitPlan_ok]
  constructor
  · intro h
    obtain ⟨_, request, hadmitted, _⟩ := h
    exact ⟨request, hadmitted⟩
  · intro h
    obtain ⟨request, hadmitted⟩ := h
    obtain ⟨material, hm, _⟩ := renderMaterial_ok hadmitted
    obtain ⟨digest, hd⟩ := digestJcs_plain env (a := .preflight material) rfl
    exact ⟨{ material with preflightDigest := digest }, request, hadmitted, hm, hd⟩

/-- The preflight of an active plan is that of its witness plan. -/
theorem render_active (hr : Preflight.render env plan resolved = .ok preflight)
    (ha : admitPlan env plan resolved = .ok request) (hw : WitnessPlan.resolve env request resolved = .ok w) :
    preflight.toPreflightMaterial = activePreflight request w ∧ preflight.Valid env := by
  obtain ⟨request', hadmitted, hm, hd⟩ := render_ok.mp hr
  have hsame : request' = request := by
    have ha' := admitPlan_ok.mpr hadmitted
    rw [ha] at ha'
    exact (Except.ok.inj ha').symm
  subst hsame
  obtain ⟨material, hm', hvalid⟩ := renderMaterial_ok hadmitted
  rw [hm] at hm'
  cases hm'
  refine ⟨?_, hvalid _ hd⟩
  unfold renderMaterial at hm
  rw [resolve_kind hw] at hm
  dsimp only at hm
  rw [hw] at hm
  exact (Except.ok.inj hm).symm

/-! ## The least grant -/

theorem requirements_pass (hm : preflight.toPreflightMaterial = activePreflight request w) (hv : preflight.Valid env) :
    Passes env preflight.grantRequirements.grant preflight w := by
  refine ⟨admitInitialPosition_ok.mpr ⟨Grant.validate_ok.mpr ⟨rfl, hv.grantScope⟩,
    Position.validate_ok.mpr ⟨rfl, hv.grantScope⟩, BTreeSet.subset_refl _, Nat.le_refl _, .refl _⟩, ?_⟩
  show w.collector ∈ preflight.grantRequirements.permittedWitnessClasses
  rw [hm]
  exact BTreeSet.mem_ofList.mpr (List.mem_singleton_self _)

theorem requirements_least (hm : preflight.toPreflightMaterial = activePreflight request w) {grant : Grant}
    (h : Passes env grant preflight w) : preflight.grantRequirements.Below grant.toGrantRequirements := by
  obtain ⟨hgate, hclass⟩ := h
  obtain ⟨_, _, hwithin⟩ := admitInitialPosition_ok.mp hgate
  refine ⟨hwithin.scope, hwithin.depth, hwithin.remaining, ?_⟩
  intro a ha
  rw [hm] at ha
  rw [List.mem_singleton.mp (BTreeSet.mem_ofList.mp ha)]
  exact hclass

/-- A preflight exists when the inquiry does, and states the least grant for it. -/
theorem preflight_states_the_least_grant (env : Env) (plan : CandidatePlan) (resolved : ResolvedProfile) :
    ((∃ preflight, Preflight.render env plan resolved = .ok preflight) ↔
      ∃ request, admitPlan env plan resolved = .ok request ∧
        (request.questionKind = .tlsCertificatePresentationAndExpiryHorizon →
          ∃ w, WitnessPlan.resolve env request resolved = .ok w)) ∧
    ∀ request w preflight, admitPlan env plan resolved = .ok request → WitnessPlan.resolve env request resolved =
      .ok w → Preflight.render env plan resolved = .ok preflight →
      Passes env preflight.grantRequirements.grant preflight w ∧
      ∀ grant, Passes env grant preflight w → preflight.grantRequirements.Below grant.toGrantRequirements := by
  constructor
  · rw [render_ok_iff]
    constructor
    · intro h
      obtain ⟨request, ha⟩ := h
      refine ⟨request, ha, fun hk => ?_⟩
      have hadmitted := admitPlan_ok.mp ha
      have hk' : resolved.profile.questionKind = .tlsCertificatePresentationAndExpiryHorizon := by
        rw [← hk, hadmitted.material]
        rfl
      obtain ⟨tlsCert, ht⟩ := hadmitted.tls hk'
      obtain ⟨w, hw, _⟩ := hadmitted.resolve ht hk'
      exact ⟨w, hw⟩
    · intro h
      obtain ⟨request, ha, _⟩ := h
      exact ⟨request, ha⟩
  · intro request w preflight ha hw hr
    obtain ⟨hm, hv⟩ := render_active hr ha hw
    exact ⟨requirements_pass hm hv, fun grant h => requirements_least hm h⟩

theorem the_requirements_of_a_plan_are_the_least_grant : ∃ resolved request w preflight,
    admitPlan canonicalEnv loopbackPlan resolved = .ok request ∧ WitnessPlan.resolve canonicalEnv request resolved =
      .ok w ∧ Preflight.render canonicalEnv loopbackPlan resolved = .ok preflight ∧
    Passes canonicalEnv preflight.grantRequirements.grant preflight w ∧
    preflight.grantRequirements.Below preflight.grantRequirements.grant.toGrantRequirements := by
  obtain ⟨resolved, request, ha, hprofile⟩ := loopbackPlan_admitted
  have hleast := preflight_states_the_least_grant canonicalEnv loopbackPlan resolved
  have hk : resolved.profile.questionKind = .tlsCertificatePresentationAndExpiryHorizon := by
    rw [hprofile]
    rfl
  obtain ⟨tlsCert, ht⟩ := (admitPlan_ok.mp ha).tls hk
  obtain ⟨w, hw, _⟩ := (admitPlan_ok.mp ha).resolve ht hk
  obtain ⟨preflight, hr⟩ := hleast.1.mpr ⟨request, ha, fun _ => ⟨w, hw⟩⟩
  have hpasses := hleast.2 request w preflight ha hw hr
  exact ⟨resolved, request, w, preflight, ha, hw, hr, hpasses.1, hpasses.2 _ hpasses.1⟩

end

end Nq.Inquiry
