/-
  Nq.Inquiry.Request — admitting a plan, and the witness plan of the request
  (`nq-core/src/inquiry.rs`).

  `admitPlan` refuses a plan that does not validate, that names another profile, or that asks for
  a target the profile does not declare; what it answers carries no alias and has its targets
  in order (`admitPlan_ok`). The witness plan of an admitted request of a TLS profile always
  resolves (`Admitted.resolve`), to the admitted targets, and stays within the bounded envelope
  (`WitnessPlan.Of.enveloped`).
-/

import Nq.Inquiry.Profile

namespace Nq.Inquiry

open Collections
open List hiding le_trans

section

variable (env : Env)

/-! ## Admission -/

/-- The targets a plan asks a TLS profile for: all of them where it names none. -/
def CandidatePlan.requested (plan : CandidatePlan) (tlsCert : TlsCertProfile) : List TlsTarget :=
  sortDedup (if plan.targets.isEmpty then tlsCert.declaredTargets else plan.targets)

/-- The selector and the targets of the request. -/
def admitTargets (plan : CandidatePlan) (profile : Profile) : Except String (Option FindingSelector × List TlsTarget) :=
  match profile.questionKind with
  | .findingOperationalActivity => do
    rejectIf (!plan.targets.isEmpty) "report inquiry plan must not request active targets"
    pure (profile.selector, [])
  | .tlsCertificatePresentationAndExpiryHorizon => do
    let tlsCert ← okOr profile.tlsCert "resolved TLS profile has no tls_cert policy"
    let requested := plan.requested tlsCert
    rejectIf requested.isEmpty "TLS certificate inquiry requires at least one target"
    rejectIf (requested.length > tlsCert.maxTargets) ("requested " ++ toString requested.length ++
      " TLS targets exceeds profile max_targets " ++ toString tlsCert.maxTargets)
    match requested.find? (· ∉ tlsCert.declaredTargets) with
    | some t => .error ("TLS target " ++ debug env t.targetId ++ " is not exactly predeclared by the profile")
    | none => pure (none, requested)

def requestMaterial (plan : CandidatePlan) (resolved : ResolvedProfile) (selector : Option FindingSelector)
    (targets : List TlsTarget) : RequestMaterial where
  schema := requestSchema
  version := .v0
  profile := resolved.binding
  questionKind := resolved.profile.questionKind
  question := resolved.profile.question
  selector := selector
  asOf := plan.asOf
  requestedTargets := targets
  admittedTargets := targets

def admitPlan (plan : CandidatePlan) (resolved : ResolvedProfile) : Except String AdmittedRequest := do
  plan.validate env
  resolved.profile.validate env
  rejectIf (!resolved.profile.named plan.profile) ("plan profile selector " ++ debug env plan.profile ++
    " does not name resolved profile " ++ resolved.profile.label)
  let computed ← (resolved.profile.profileDigest env).mapError ("profile digest verification failed: " ++ ·)
  rejectIf (resolved.profileDigest ≠ computed)
    ("resolved profile digest mismatch: supplied " ++ resolved.profileDigest ++ ", computed " ++ computed)
  let (selector, targets) ← admitTargets env plan resolved.profile
  let material := requestMaterial plan resolved selector targets
  let requestDigest ← (digestJcs env (.request material)).mapError ("request digest failed: " ++ ·)
  pure { material with requestDigest }

def AdmittedRequest.computeRequestDigest (r : AdmittedRequest) : Except String String :=
  digestJcs env (.request r.toRequestMaterial)

def AdmittedRequest.verifyRequestDigest (r : AdmittedRequest) : Except String Unit := do
  rejectIf (r.schema ≠ requestSchema) ("unsupported inquiry request schema " ++ debug env r.schema)
  let _ ← parseRfc3339 env "request.as_of" r.asOf
  let computed ← r.computeRequestDigest env
  rejectIf (computed ≠ r.requestDigest)
    ("inquiry request digest mismatch: declared " ++ r.requestDigest ++ ", computed " ++ computed)

/-! ## The witness plan -/

/-- The bounds of `admitted` targets. -/
def TlsCertProfile.bounds (tlsCert : TlsCertProfile) (admitted : Nat) : AcquisitionBounds where
  maxTargets := tlsCert.maxTargets
  maxConcurrency := tlsCert.maxConcurrency
  perTargetDeadlineMs := tlsCert.perTargetDeadlineMs
  totalDeadlineMs := tlsCert.totalDeadlineMs
  maxDnsAttempts := admitted
  maxConnectionAttempts := admitted
  maxHandshakesAttempted := admitted
  maxBoundChecks := admitted
  maxWorkUnits := admitted * 4
  maxRedirects := 0
  maxRetries := 0
  maxAiaFetches := 0
  maxOcspRequests := 0
  maxDependencyRecursions := 0

def witnessPlanMaterial (request : AdmittedRequest) (tlsCert : TlsCertProfile) (targets : List TlsTarget) :
    WitnessPlanMaterial where
  schema := witnessPlanSchema
  version := .v0
  requestDigest := request.requestDigest
  collector := tlsCert.collector
  targets := targets
  expiryHorizonDays := tlsCert.expiryHorizonDays
  validationPolicy := tlsCert.validationPolicy
  vantage := tlsCert.vantage
  -- `targets.len() as u32`
  bounds := tlsCert.bounds (targets.length % 2 ^ 32)

def WitnessPlan.resolve (request : AdmittedRequest) (resolved : ResolvedProfile) : Except String WitnessPlan := do
  (request.verifyRequestDigest env).mapError ("request digest verification failed: " ++ ·)
  rejectIf (request.schema ≠ requestSchema || request.questionKind ≠ .tlsCertificatePresentationAndExpiryHorizon ||
      request.question ≠ resolved.profile.question || request.selector.isSome ||
      request.requestedTargets ≠ request.admittedTargets)
    "admitted request does not match the resolved TLS certificate question"
  let _ ← parseRfc3339 env "request.as_of" request.asOf
  let computed ← (resolved.profile.profileDigest env).mapError ("profile digest verification failed: " ++ ·)
  rejectIf (request.profile.profileId ≠ resolved.profile.profileId || request.profile.version ≠
    resolved.profile.version || request.profile.profileDigest ≠ computed || resolved.profileDigest ≠ computed)
    "admitted request does not bind the resolved profile"
  let tlsCert ← okOr resolved.profile.tlsCert "resolved TLS profile has no tls_cert policy"
  let targets := sort request.admittedTargets
  rejectIf (targets.isEmpty || targets.length > tlsCert.maxTargets)
    "admitted TLS targets do not fit the profile target bound"
  rejectIf (targets.any (· ∉ tlsCert.declaredTargets)) "admitted TLS target is not exactly predeclared by the profile"
  let material := witnessPlanMaterial request tlsCert targets
  let witnessPlanDigest ← (digestJcs env (.witnessPlan material)).mapError ("witness plan digest failed: " ++ ·)
  pure { material with witnessPlanDigest }

def WitnessPlan.verifyWitnessPlanDigest (p : WitnessPlan) : Except String Unit := do
  let computed ← digestJcs env (.witnessPlan p.toWitnessPlanMaterial)
  rejectIf (computed ≠ p.witnessPlanDigest)
    ("inquiry witness plan digest mismatch: declared " ++ p.witnessPlanDigest ++ ", computed " ++ computed)

/-- The bounds of an envelope of `n` targets. -/
def AcquisitionBounds.violate (b : AcquisitionBounds) (n : Nat) : Bool :=
  b.maxTargets = 0 || b.maxTargets > 32 || n > b.maxTargets || b.maxConcurrency ≠ 1 || b.perTargetDeadlineMs < 100 ||
    b.perTargetDeadlineMs > 60000 || b.totalDeadlineMs = 0 || b.totalDeadlineMs > 300000 ||
    -- `saturating_mul`
    b.totalDeadlineMs < min (b.perTargetDeadlineMs * n) (2 ^ 64 - 1) || b.maxDnsAttempts ≠ n ||
    b.maxConnectionAttempts ≠ n || b.maxHandshakesAttempted ≠ n || b.maxBoundChecks ≠ n || b.maxWorkUnits ≠ n * 4 ||
    b.maxRedirects ≠ 0 || b.maxRetries ≠ 0 || b.maxAiaFetches ≠ 0 || b.maxOcspRequests ≠ 0 ||
      b.maxDependencyRecursions ≠ 0

def WitnessPlan.verifyEnvelope (p : WitnessPlan) : Except String Unit := do
  p.verifyWitnessPlanDigest env
  rejectIf (p.schema ≠ witnessPlanSchema || p.targets.isEmpty || p.bounds.violate (p.targets.length % 2 ^ 32) ||
      p.expiryHorizonDays = 0 || p.expiryHorizonDays > 3650 || Text.trim p.vantage.toList = [])
    "inquiry witness plan violates the bounded TLS envelope"
  -- a target that is repeated repeats its identity
  checkDistinct (TlsTarget.validate "witness_plan.targets[]") TlsTarget.targetId
    (fun _ => "inquiry witness plan contains a duplicate target") [] p.targets

end

/-! ## What is admitted -/

section

variable {env : Env} {plan : CandidatePlan} {resolved : ResolvedProfile} {request : AdmittedRequest}

structure Admitted (env : Env) (plan : CandidatePlan) (resolved : ResolvedProfile)
    (request : AdmittedRequest) : Prop where
  asked : plan.Valid env
  against : resolved.profile.Valid
  named : resolved.profile.named plan.profile = true
  bound : resolved.profile.profileDigest env = .ok resolved.profileDigest
  targets : admitTargets env plan resolved.profile = .ok (request.selector, request.admittedTargets)
  material : request.toRequestMaterial = requestMaterial plan resolved request.selector request.admittedTargets
  sealed : digestJcs env (.request request.toRequestMaterial) = .ok request.requestDigest

theorem admitPlan_ok : admitPlan env plan resolved = .ok request ↔ Admitted env plan resolved request := by
  unfold admitPlan
  simp only [Sql.bind_ok, exists_const, CandidatePlan.validate_ok, Profile.validate_ok, rejectIf_ok, Sql.mapError_ok,
    Bool.not_eq_false', decide_eq_false_iff_not, ne_eq, not_not]
  constructor
  · intro h
    obtain ⟨hplan, hprofile, hnamed, computed, hdigest, hsame, ⟨selector, targets⟩, htargets, d, hd, e⟩ := h
    cases e
    exact ⟨hplan, hprofile, hnamed, hsame ▸ hdigest, htargets, rfl, hd⟩
  · intro h
    refine ⟨h.asked, h.against, h.named, _, h.bound, rfl, (request.selector, request.admittedTargets), h.targets,
      request.requestDigest, ?_, ?_⟩
    · exact h.material ▸ h.sealed
    · have hmaterial := h.material
      obtain ⟨material, d⟩ := request
      exact congrArg (fun m => Except.ok (AdmittedRequest.mk m d)) hmaterial.symm

variable {profile : Profile} {x : Option FindingSelector × List TlsTarget} {tlsCert : TlsCertProfile} {u : Unit}
  {w : WitnessPlan}

theorem admitTargets_report (hk : profile.questionKind = .findingOperationalActivity) :
    admitTargets env plan profile = .ok x ↔ plan.targets = [] ∧ x = (profile.selector, []) := by
  unfold admitTargets
  rw [hk]
  simp only [Sql.bind_ok, exists_const, rejectIf_ok, Bool.not_eq_false', List.isEmpty_iff, pure, Except.pure,
    Except.ok.injEq, @eq_comm _ _ x]

theorem mem_requested {a : TlsTarget} :
    a ∈ plan.requested tlsCert ↔ if plan.targets = [] then a ∈ tlsCert.declaredTargets else a ∈ plan.targets := by
  unfold CandidatePlan.requested
  rw [mem_sortDedup]
  by_cases h : plan.targets = []
  · simp [h]
  · simp [h]

theorem requested_nonempty (ht : tlsCert.Valid) : plan.requested tlsCert ≠ [] := by
  intro hnil
  by_cases hempty : plan.targets = []
  · obtain ⟨a, ha⟩ := exists_mem_of_ne_nil _ ht.nonempty
    have hmem : a ∈ plan.requested tlsCert := mem_requested.mpr (by rw [if_pos hempty]; exact ha)
    rw [hnil] at hmem
    cases hmem
  · obtain ⟨a, ha⟩ := exists_mem_of_ne_nil _ hempty
    have hmem : a ∈ plan.requested tlsCert := mem_requested.mpr (by rw [if_neg hempty]; exact ha)
    rw [hnil] at hmem
    cases hmem

theorem requested_valid (hp : plan.Valid env) (ht : tlsCert.Valid) : ValidTargets (plan.requested tlsCert) := by
  have hasked : ValidTargets (if plan.targets.isEmpty then tlsCert.declaredTargets else plan.targets) := by
    split
    · exact ht.targets
    · exact hp.targets
  unfold CandidatePlan.requested
  rw [sortDedup_of_nodup hasked.nodup]
  exact hasked.perm (sort_perm _).symm

/-- A plan is admitted for the targets it asks for when the profile declares them. -/
theorem admitTargets_tls (hp : plan.Valid env) (hk : profile.questionKind = .tlsCertificatePresentationAndExpiryHorizon)
    (htls : profile.tlsCert = some tlsCert) (ht : tlsCert.Valid) :
    admitTargets env plan profile = .ok x ↔
      x = (none, plan.requested tlsCert) ∧ ∀ a ∈ plan.targets, a ∈ tlsCert.declaredTargets := by
  have hvalid := requested_valid hp ht
  have hdeclared : (∀ a ∈ plan.requested tlsCert, a ∈ tlsCert.declaredTargets) ↔
      ∀ a ∈ plan.targets, a ∈ tlsCert.declaredTargets := by
    by_cases hnil : plan.targets = []
    · simp [mem_requested, hnil]
    · simp [mem_requested, hnil]
  unfold admitTargets
  rw [hk]
  simp only [htls, okOr, Sql.bind_ok, Except.ok.injEq, exists_eq_left', exists_const, rejectIf_ok,
    isEmpty_eq_false_iff, decide_eq_false_iff_not, Nat.not_lt]
  cases hfind : (plan.requested tlsCert).find? (fun a => decide (a ∉ tlsCert.declaredTargets)) with
  | some a =>
    have hmem := mem_of_find?_eq_some hfind
    have hnot : a ∉ tlsCert.declaredTargets := by simpa using find?_some hfind
    constructor
    · intro h
      cases h.2.2
    · intro h
      exact absurd (hdeclared.mpr h.2 a hmem) hnot
  | none =>
    have hall : ∀ a ∈ plan.requested tlsCert, a ∈ tlsCert.declaredTargets := by
      intro a ha
      simpa using find?_eq_none.mp hfind a ha
    constructor
    · intro h
      cases h.2.2
      exact ⟨rfl, hdeclared.mp hall⟩
    · intro h
      refine ⟨requested_nonempty ht, ?_, by rw [h.1]; rfl⟩
      exact le_trans (subperm_of_subset hvalid.nodup hall).length_le ht.fit

/-- A valid plan is admitted as soon as the profile it names declares its targets. -/
theorem exists_admitted (resolved : ResolvedProfile) (hplan : plan.Valid env) (hprofile : resolved.profile.Valid)
    (hnamed : resolved.profile.named plan.profile = true)
    (hbound : resolved.profile.profileDigest env = .ok resolved.profileDigest)
    {selector : Option FindingSelector} {targets : List TlsTarget}
    (htargets : admitTargets env plan resolved.profile = .ok (selector, targets)) :
    ∃ request, Admitted env plan resolved request ∧ request.selector = selector ∧
      request.admittedTargets = targets := by
  obtain ⟨d, hd⟩ := digestJcs_plain env (a := .request (requestMaterial plan resolved selector targets)) rfl
  exact ⟨{ requestMaterial plan resolved selector targets with requestDigest := d },
    ⟨hplan, hprofile, hnamed, hbound, htargets, rfl, hd⟩, rfl, rfl⟩

/-! ## What an admitted request resolves to -/

/-- A request under its own digest. -/
structure AdmittedRequest.Sealed (env : Env) (r : AdmittedRequest) : Prop where
  schema : r.schema = requestSchema
  asOf : ∃ i, env.rfc3339 r.asOf = .ok i
  digest : digestJcs env (.request r.toRequestMaterial) = .ok r.requestDigest

theorem AdmittedRequest.verifyRequestDigest_ok {r : AdmittedRequest} :
    r.verifyRequestDigest env = .ok u ↔ r.Sealed env := by
  unfold AdmittedRequest.verifyRequestDigest AdmittedRequest.computeRequestDigest
  simp only [Sql.bind_ok, exists_const, rejectIf_ok, parseRfc3339_ok,
    decide_eq_false_iff_not, ne_eq, not_not, exists_eq_right]
  constructor
  · intro h
    obtain ⟨hs, i, hi, hd⟩ := h
    exact ⟨hs, ⟨i, hi⟩, hd⟩
  · intro h
    obtain ⟨i, hi⟩ := h.asOf
    exact ⟨h.schema, i, hi, h.digest⟩

theorem Admitted.requestSealed (h : Admitted env plan resolved request) : request.Sealed env := by
  have hmaterial := h.material
  refine ⟨by rw [hmaterial]; rfl, ?_, h.sealed⟩
  rw [hmaterial]
  exact h.asked.asOf

/-- The targets of an admitted request of a TLS profile. -/
structure Admitted.Tls (plan : CandidatePlan) (resolved : ResolvedProfile) (request : AdmittedRequest)
    (tlsCert : TlsCertProfile) : Prop where
  profile : resolved.profile.tlsCert = some tlsCert
  valid : tlsCert.Valid
  selector : request.selector = none
  targets : request.admittedTargets = plan.requested tlsCert
  declared : ∀ a ∈ request.admittedTargets, a ∈ tlsCert.declaredTargets
  each : ValidTargets request.admittedTargets
  nonempty : request.admittedTargets ≠ []
  fit : request.admittedTargets.length ≤ tlsCert.declaredTargets.length

theorem Admitted.tls (h : Admitted env plan resolved request)
    (hk : resolved.profile.questionKind = .tlsCertificatePresentationAndExpiryHorizon) :
    ∃ tlsCert, Admitted.Tls plan resolved request tlsCert := by
  have hkind := h.against.kind
  unfold Profile.KindValid at hkind
  rw [hk] at hkind
  obtain ⟨tlsCert, htls, ht⟩ := hkind.tlsCert
  obtain ⟨e, hdeclared⟩ := (admitTargets_tls h.asked hk htls ht).mp h.targets
  obtain ⟨hselector, htargets⟩ := Prod.mk.inj e
  have hall : ∀ a ∈ request.admittedTargets, a ∈ tlsCert.declaredTargets := by
    intro a ha
    rw [htargets, mem_requested] at ha
    split at ha
    · exact ha
    · exact hdeclared a ha
  have hvalid : ValidTargets request.admittedTargets := htargets ▸ requested_valid h.asked ht
  exact ⟨tlsCert, htls, ht, hselector, htargets, hall, hvalid, htargets ▸ requested_nonempty ht,
    (subperm_of_subset hvalid.nodup hall).length_le⟩

/-- A plan of this many targets fits its counters. -/
theorem Admitted.Tls.length_le (h : Admitted.Tls plan resolved request tlsCert) :
    request.admittedTargets.length ≤ tlsCert.maxTargets ∧
      request.admittedTargets.length % 2 ^ 32 = request.admittedTargets.length := by
  have hfit := h.valid.fit
  have hmax := h.valid.maxTargets
  have hlength := h.fit
  exact ⟨by omega, Nat.mod_eq_of_lt (by omega)⟩

/-- The witness plan of a request. -/
structure WitnessPlan.Of (env : Env) (request : AdmittedRequest)
    (tlsCert : TlsCertProfile) (w : WitnessPlan) : Prop where
  material : w.toWitnessPlanMaterial = witnessPlanMaterial request tlsCert request.admittedTargets
  sealed : digestJcs env (.witnessPlan w.toWitnessPlanMaterial) = .ok w.witnessPlanDigest

/-- The witness plan of an admitted request of a TLS profile always resolves. -/
theorem Admitted.resolve (h : Admitted env plan resolved request) (ht : Admitted.Tls plan resolved request tlsCert)
    (hk : resolved.profile.questionKind = .tlsCertificatePresentationAndExpiryHorizon) :
    ∃ w, WitnessPlan.resolve env request resolved = .ok w ∧ w.Of env request tlsCert := by
  obtain ⟨d, hd⟩ := digestJcs_plain env
    (a := .witnessPlan (witnessPlanMaterial request tlsCert request.admittedTargets)) rfl
  obtain ⟨i, hi⟩ := h.asked.asOf
  have hmaterial := h.material
  have hsort : sort request.admittedTargets = request.admittedTargets := by
    rw [ht.targets]
    exact sort_sortDedup _
  have hlength := ht.length_le.1
  have hkind : request.questionKind = .tlsCertificatePresentationAndExpiryHorizon := by rw [hmaterial]; exact hk
  have hquestion : request.question = resolved.profile.question := by rw [hmaterial]; rfl
  have hsame : request.requestedTargets = request.admittedTargets := by rw [hmaterial]; rfl
  have hasOf : env.rfc3339 request.asOf = .ok i := by rw [hmaterial]; exact hi
  have hprofile : request.profile = resolved.binding := by rw [hmaterial]; rfl
  refine ⟨⟨_, d⟩, ?_, rfl, hd⟩
  unfold WitnessPlan.resolve
  simp only [Sql.bind_ok, exists_const, rejectIf_ok, Sql.mapError_ok, okOr_ok, parseRfc3339_ok, Bool.or_eq_false_iff,
    AdmittedRequest.verifyRequestDigest_ok, decide_eq_false_iff_not, ne_eq, not_not, pure, Except.pure, Except.ok.injEq,
    Nat.not_lt, Option.isSome_eq_false_iff, Option.isNone_iff_eq_none, isEmpty_eq_false_iff, any_eq_false,
    decide_eq_true_eq, hsort, hprofile]
  exact ⟨h.requestSealed, ⟨⟨⟨⟨h.requestSealed.schema, hkind⟩, hquestion⟩, ht.selector⟩, hsame⟩, i, hasOf, _, h.bound,
    ⟨⟨⟨rfl, trivial⟩, rfl⟩, rfl⟩, tlsCert, ht.profile, ⟨ht.nonempty, hlength⟩, ht.declared, d, hd, rfl⟩

/-! ## The envelope of a witness plan -/

/-- The bounds fit an envelope of `n` targets. -/
structure AcquisitionBounds.Fit (b : AcquisitionBounds) (n : Nat) : Prop where
  targets : 0 < b.maxTargets ∧ n ≤ b.maxTargets ∧ b.maxTargets ≤ 32
  concurrency : b.maxConcurrency = 1
  perTarget : 100 ≤ b.perTargetDeadlineMs ∧ b.perTargetDeadlineMs ≤ 60000
  total : 0 < b.totalDeadlineMs ∧ b.perTargetDeadlineMs * n ≤ b.totalDeadlineMs ∧ b.totalDeadlineMs ≤ 300000
  dns : b.maxDnsAttempts = n
  connections : b.maxConnectionAttempts = n
  handshakes : b.maxHandshakesAttempted = n
  boundChecks : b.maxBoundChecks = n
  workUnits : b.maxWorkUnits = n * 4
  unused : b.maxRedirects = 0 ∧ b.maxRetries = 0 ∧ b.maxAiaFetches = 0 ∧
    b.maxOcspRequests = 0 ∧ b.maxDependencyRecursions = 0

theorem AcquisitionBounds.violate_eq_false {b : AcquisitionBounds} {n : Nat} : b.violate n = false ↔ b.Fit n := by
  unfold AcquisitionBounds.violate
  simp only [Bool.or_eq_false_iff, decide_eq_false_iff_not, ne_eq, not_not, and_assoc]
  constructor
  · intro h
    obtain ⟨h₁, h₂, h₃, h₄, h₅, h₆, h₇, h₈, h₉, h₁₀, h₁₁, h₁₂, h₁₃, h₁₄, h₁₅⟩ := h
    refine ⟨by omega, h₄, by omega, ⟨by omega, ?_, by omega⟩, h₁₀, h₁₁, h₁₂, h₁₃, h₁₄, h₁₅⟩
    -- a product cut off at the machine's end would exceed the total deadline
    have hcut : min (b.perTargetDeadlineMs * n) (2 ^ 64 - 1) ≤ b.totalDeadlineMs := Nat.le_of_not_lt h₉
    omega
  · intro h
    obtain ⟨h₁, h₂, h₃, ⟨h₄, h₅, h₆⟩, h₇, h₈, h₉, h₁₀, h₁₁, h₁₂⟩ := h
    refine ⟨by omega, by omega, by omega, h₂, by omega, by omega, by omega, by omega, ?_, h₇, h₈, h₉, h₁₀, h₁₁, h₁₂⟩
    omega

/-- A witness plan within the bounded envelope. -/
structure WitnessPlan.Enveloped (env : Env) (w : WitnessPlan) : Prop where
  sealed : digestJcs env (.witnessPlan w.toWitnessPlanMaterial) = .ok w.witnessPlanDigest
  schema : w.schema = witnessPlanSchema
  nonempty : w.targets ≠ []
  bounds : w.bounds.Fit (w.targets.length % 2 ^ 32)
  expiryHorizon : 0 < w.expiryHorizonDays ∧ w.expiryHorizonDays ≤ 3650
  vantage : Nonblank w.vantage
  targets : ValidTargets w.targets

theorem WitnessPlan.verifyWitnessPlanDigest_ok : w.verifyWitnessPlanDigest env = .ok u ↔
    digestJcs env (.witnessPlan w.toWitnessPlanMaterial) = .ok w.witnessPlanDigest := by
  unfold WitnessPlan.verifyWitnessPlanDigest
  simp only [Sql.bind_ok, rejectIf_ok, decide_eq_false_iff_not, ne_eq, not_not, exists_eq_right]

theorem WitnessPlan.verifyEnvelope_ok : w.verifyEnvelope env = .ok u ↔ w.Enveloped env := by
  unfold WitnessPlan.verifyEnvelope
  simp only [Sql.bind_ok, exists_const, rejectIf_ok, checkTargets_ok, WitnessPlan.verifyWitnessPlanDigest_ok,
    Bool.or_eq_false_iff, AcquisitionBounds.violate_eq_false,
      decide_eq_false_iff_not, isEmpty_eq_false_iff, ne_eq, not_not]
  constructor
  · intro h
    obtain ⟨hd, ⟨⟨⟨⟨⟨hs, hne⟩, hb⟩, hlow⟩, hhigh⟩, hv⟩, ht⟩ := h
    exact ⟨hd, hs, hne, hb, by omega, hv, ht⟩
  · intro h
    have hhorizon := h.expiryHorizon
    exact ⟨h.sealed, ⟨⟨⟨⟨⟨h.schema, h.nonempty⟩, h.bounds⟩, by omega⟩, by omega⟩, h.vantage⟩, h.targets⟩

/-- The witness plan of an admitted request is within the bounded envelope. -/
theorem WitnessPlan.Of.enveloped (ht : Admitted.Tls plan resolved request tlsCert) (hw : w.Of env request tlsCert) :
    w.Enveloped env := by
  have hsealed := hw.sealed
  obtain ⟨hlength, hmod⟩ := ht.length_le
  have hmax := ht.valid.maxTargets
  have hserial : tlsCert.perTargetDeadlineMs * request.admittedTargets.length ≤ tlsCert.totalDeadlineMs :=
    le_trans (Nat.mul_le_mul_left _ ht.fit) ht.valid.serial
  have hmaterial := hw.material
  obtain ⟨material, d⟩ := w
  dsimp only at hmaterial
  subst hmaterial
  refine ⟨hsealed, rfl, ht.nonempty, ?_, ht.valid.expiryHorizon, ht.valid.vantage, ht.each⟩
  show (tlsCert.bounds (request.admittedTargets.length % 2 ^ 32)).Fit (request.admittedTargets.length % 2 ^ 32)
  rw [hmod]
  exact ⟨⟨hmax.1, hlength, hmax.2⟩, ht.valid.maxConcurrency, ht.valid.perTargetDeadline,
    ⟨ht.valid.totalDeadline.1, hserial, ht.valid.totalDeadline.2⟩, rfl, rfl, rfl, rfl, rfl, rfl, rfl, rfl, rfl, rfl⟩

/-- The plan for the loopback target is admitted. -/
theorem loopbackPlan_admitted : ∃ resolved request, admitPlan canonicalEnv loopbackPlan resolved = .ok request ∧
    resolved.profile = boundedTlsCert := by
  obtain ⟨resolved, h⟩ := Profile.exists_resolved canonicalEnv boundedTlsCert_valid
  obtain ⟨_, d, hd, e⟩ := Profile.resolved_ok.mp h
  have hprofile : resolved.profile = boundedTlsCert := by
    rw [e]
    rfl
  obtain ⟨request, hadmitted, _, _⟩ := exists_admitted resolved loopbackPlan_valid (hprofile ▸ boundedTlsCert_valid)
    (by rw [hprofile]; decide) (by rw [e]; exact hd)
    ((admitTargets_tls loopbackPlan_valid (by rw [hprofile]; rfl) (by rw [hprofile]; rfl) loopbackPolicy_valid).mpr
      ⟨rfl, fun _ h => (nomatch h)⟩)
  exact ⟨resolved, request, admitPlan_ok.mpr hadmitted, hprofile⟩

end

end Nq.Inquiry
