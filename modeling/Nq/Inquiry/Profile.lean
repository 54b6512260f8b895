/-
  Nq.Inquiry.Profile — profiles and their catalog (`nq-core/src/inquiry.rs`).

  A profile that validates is `Valid`, and its vectors are sets: `sorted` puts each in order,
  so that a profile with the same vectors in another order is resolved to the same value
  under the same digest. A catalog that validates gives each name to one profile
  (`ProfileCatalog.Valid.named_unique`), and `resolve` answers with that one
  (`resolve_ok`).
-/

import Nq.Collections.Checks
import Nq.Inquiry.Canonical
import Nq.Sql.Query

namespace Nq.Inquiry

open Collections
open List

instance : LinearOrder Version := LinearOrder.lift' Version.ctorIdx fun a b _ => by cases a; cases b; rfl

/-- `binding_order`. -/
instance : LinearOrder ProfileBinding :=
  LinearOrder.lift' (fun b => toLex (b.profileId, toLex (b.version, b.profileDigest))) fun a b h => by
    obtain ⟨profileId, version, profileDigest⟩ := a
    obtain ⟨profileId', version', profileDigest'⟩ := b
    cases h
    rfl

section

variable (env : Env)

/-! ## Validation -/

def TlsTarget.validate (field : String) (t : TlsTarget) : Except String Unit := do
  requireNonempty (field ++ ".target_id") t.targetId
  requireNonempty (field ++ ".host") t.host
  rejectIf (t.port = 0) (field ++ ".port must be greater than zero")
  requireNonempty (field ++ ".sni") t.sni

def TlsCertProfile.validate (p : TlsCertProfile) : Except String Unit := do
  rejectIf p.declaredTargets.isEmpty "profile.tls_cert.declared_targets must not be empty"
  rejectIf (p.maxTargets = 0 || p.maxTargets > 32) "profile.tls_cert.max_targets must be in 1..=32"
  rejectIf (p.declaredTargets.length > p.maxTargets) "profile.tls_cert.declared_targets exceeds max_targets"
  rejectIf (p.maxConcurrency ≠ 1) "profile.tls_cert.max_concurrency must be exactly 1 in V0"
  rejectIf (p.perTargetDeadlineMs < 100 || p.perTargetDeadlineMs > 60000)
    "profile.tls_cert.per_target_deadline_ms must be in 100..=60000"
  rejectIf (p.totalDeadlineMs = 0 || p.totalDeadlineMs > 300000)
    "profile.tls_cert.total_deadline_ms must be in 1..=300000"
  -- `checked_mul`
  rejectIf (p.perTargetDeadlineMs * p.declaredTargets.length ≥ 2 ^ 64) "profile.tls_cert deadline envelope overflow"
  rejectIf (p.totalDeadlineMs < p.perTargetDeadlineMs * p.declaredTargets.length)
    "profile.tls_cert.total_deadline_ms must cover every declared serial target deadline"
  rejectIf (p.expiryHorizonDays = 0 || p.expiryHorizonDays >
    3650) "profile.tls_cert.expiry_horizon_days must be in 1..=3650"
  requireNonempty "profile.tls_cert.vantage" p.vantage
  checkDistinct (TlsTarget.validate "profile.tls_cert.declared_targets[]") TlsTarget.targetId
    (fun t => "duplicate TLS target_id " ++ debug env t.targetId) [] p.declaredTargets

def CandidatePlan.validate (p : CandidatePlan) : Except String Unit := do
  rejectIf (p.schema ≠ planSchema) ("unsupported plan schema " ++ debug env p.schema ++ "; expected " ++
    debug env planSchema)
  requireNonempty "plan.profile" p.profile
  let _ ← parseRfc3339 env "plan.as_of" p.asOf
  checkDistinct (TlsTarget.validate "plan.targets[]") TlsTarget.targetId
    (fun t => "duplicate plan target_id " ++ debug env t.targetId) [] p.targets

/-- The arm of a report profile. -/
def Profile.validateReport (p : Profile) : Except String Unit := do
  let selector ← okOr p.selector "report profile requires profile.selector"
  requireNonempty "profile.selector.host" selector.host
  requireNonempty "profile.selector.kind" selector.kind
  let maxAge ← okOr p.maxSnapshotAgeSeconds "report profile requires profile.max_snapshot_age_seconds"
  rejectIf (maxAge = 0) "profile.max_snapshot_age_seconds must be greater than zero"
  let evidenceLimit ← okOr p.evidenceLimit "report profile requires profile.evidence_limit"
  rejectIf (evidenceLimit = 0 || evidenceLimit > 1000) "profile.evidence_limit must be in 1..=1000"
  rejectIf p.tlsCert.isSome "report profile must not declare profile.tls_cert"

/-- The arm of a TLS certificate profile. -/
def Profile.validateTls (p : Profile) : Except String Unit := do
  rejectIf (p.question ≠ tlsCertInquiryQuestion)
    ("TLS certificate profile question must be " ++ debug env tlsCertInquiryQuestion)
  rejectIf (p.selector.isSome || p.maxSnapshotAgeSeconds.isSome || p.evidenceLimit.isSome)
    "TLS certificate profile must not declare report-only selector or evidence bounds"
  let tlsCert ← okOr p.tlsCert "TLS certificate profile requires profile.tls_cert"
  tlsCert.validate env
  rejectIf (!p.cannotTestify.any (·.kind = .consequenceAuthority))
    "TLS certificate profile must declare a consequence_authority refusal"

def Profile.validateKind (p : Profile) : Except String Unit :=
  match p.questionKind with
  | .findingOperationalActivity => p.validateReport
  | .tlsCertificatePresentationAndExpiryHorizon => p.validateTls env

def Profile.validateAlias (p : Profile) (name : String) : Except String Unit := do
  requireNonempty "profile.aliases[]" name
  rejectIf (name = p.profileId) ("profile alias " ++ debug env name ++ " duplicates its canonical profile_id")

def Profile.validate (p : Profile) : Except String Unit := do
  rejectIf (p.schema ≠ profileSchema)
    ("unsupported profile schema " ++ debug env p.schema ++ "; expected " ++ debug env profileSchema)
  requireNonempty "profile.profile_id" p.profileId
  requireNonempty "profile.question" p.question
  p.validateKind env
  rejectIf p.coverage.isEmpty "profile.coverage must declare at least one bounded coverage statement"
  rejectIf p.cannotTestify.isEmpty "profile.cannot_testify must declare at least one refusal"
  checkDistinct (p.validateAlias env) id (fun name => "duplicate profile alias " ++ debug env name) [] p.aliases
  checkDistinct (requireNonempty "profile.coverage[]") id (fun s =>
    "duplicate coverage statement " ++ debug env s) [] p.coverage
  checkDistinct (fun r : Refusal => requireNonempty "profile.cannot_testify[].statement" r.statement)
    (fun r => (r.kind, r.statement))
    (fun r => "duplicate cannot_testify entry " ++ r.kind.asStr ++ ": " ++ debug env r.statement) [] p.cannotTestify

/-! ## Normal form -/

/-- The vectors of a profile in order. -/
def Profile.sorted (p : Profile) : Profile :=
  { p with
    aliases := sort p.aliases
    coverage := sort p.coverage
    cannotTestify := sort p.cannotTestify
    tlsCert := p.tlsCert.map fun t => { t with declaredTargets := sort t.declaredTargets } }

def Profile.normalized (p : Profile) : Except String Profile := do
  p.validate env
  pure p.sorted

def Profile.profileDigest (p : Profile) : Except String String := do
  let normalized ← p.normalized env
  digestJcs env (.profile normalized)

/-- The targets a profile declares. -/
def Profile.declaredTargets (p : Profile) : List TlsTarget := (p.tlsCert.map TlsCertProfile.declaredTargets).getD []

/-! ## The catalog -/

def Profile.label (p : Profile) : String := p.profileId ++ "@" ++ p.version.asStr

/-- The names of the profiles, each with the profile it is a name of. -/
def ProfileCatalog.names (c : ProfileCatalog) : List (String × String) :=
  c.profiles.flatMap fun p => (p.profileId :: p.aliases).map (·, p.label)

def ProfileCatalog.owners (c : ProfileCatalog) (name : String) : List String :=
  sortDedup ((c.names.filter (·.1 = name)).map Prod.snd)

def ProfileCatalog.validate (c : ProfileCatalog) : Except String Unit := do
  rejectIf (c.schema ≠ profileCatalogSchema)
    ("unsupported profile catalog schema " ++ debug env c.schema ++ "; expected " ++ debug env profileCatalogSchema)
  rejectIf c.profiles.isEmpty "profile catalog declares no profiles"
  checkDistinct (Profile.validate env) (fun p => (p.profileId, p.version))
    (fun p => "duplicate profile binding " ++ p.profileId ++ "@" ++ p.version.asStr) [] c.profiles
  match (sortDedup (c.names.map Prod.fst)).find? fun name => 1 < (c.owners name).length with
  | some name => .error ("profile name or alias " ++ debug env name ++ " resolves ambiguously to " ++
      ", ".intercalate (c.owners name))
  | none => .ok ()

def Profile.named (p : Profile) (selector : String) : Bool := p.profileId = selector || p.aliases.any (· = selector)

def Profile.resolved (p : Profile) : Except String ResolvedProfile := do
  let profile ← p.normalized env
  let profileDigest ← profile.profileDigest env
  pure { profile, profileDigest }

def ResolvedProfile.binding (r : ResolvedProfile) : ProfileBinding :=
  ⟨r.profile.profileId, r.profile.version, r.profileDigest⟩

def ProfileCatalog.resolve (c : ProfileCatalog) (selector : String) : Except String ResolvedProfile := do
  c.validate env
  requireNonempty "profile selector" selector
  let found ← (c.profiles.filter (·.named selector)).mapM (Profile.resolved env)
  match sortDedupOn ResolvedProfile.binding found with
  | [] => .error ("profile selector " ++ debug env selector ++ " did not resolve")
  | [r] => .ok r
  | _ => .error ("profile selector " ++ debug env selector ++ " resolved to more than one version/digest")

end

/-! ## What validates -/

/-- Not empty after trimming. -/
def Nonblank (s : String) : Prop := Text.trim s.toList ≠ []

instance (s : String) : Decidable (Nonblank s) := inferInstanceAs (Decidable (Text.trim s.toList ≠ []))

variable {field name value : String} {u : Unit} {ts ts' : List TlsTarget} {p p' q : Profile} {c : ProfileCatalog}
  {r : ResolvedProfile}

@[simp] theorem requireNonempty_ok : requireNonempty field value = .ok u ↔ Nonblank value := by
  unfold requireNonempty Nonblank
  by_cases h : Text.trim value.toList = []
  · simp [h]
  · simp [h]

structure TlsTarget.Valid (t : TlsTarget) : Prop where
  targetId : Nonblank t.targetId
  host : Nonblank t.host
  port : t.port ≠ 0
  sni : Nonblank t.sni

theorem TlsTarget.validate_ok {t : TlsTarget} : t.validate field = .ok () ↔ t.Valid := by
  unfold TlsTarget.validate
  rw [check_ok, check_ok, check_ok, requireNonempty_ok, requireNonempty_ok, rejectIf_ok, requireNonempty_ok,
    decide_eq_false_iff_not]
  exact ⟨fun h => ⟨h.1, h.2.1, h.2.2.1, h.2.2.2⟩, fun h => ⟨h.1, h.2, h.3, h.4⟩⟩

/-- Targets with an identity each. -/
structure ValidTargets (ts : List TlsTarget) : Prop where
  each : ∀ t ∈ ts, t.Valid
  ids : (ts.map TlsTarget.targetId).Nodup

theorem checkTargets_ok {repeated : TlsTarget → String} :
    checkDistinct (TlsTarget.validate field) TlsTarget.targetId repeated [] ts = .ok u ↔ ValidTargets ts := by
  rw [checkDistinct_ok]
  simp only [TlsTarget.validate_ok]
  exact ⟨fun h => ⟨h.1, h.2⟩, fun h => ⟨h.1, h.2⟩⟩

theorem ValidTargets.nodup (h : ValidTargets ts) : ts.Nodup := h.ids.of_map _

theorem ValidTargets.perm (h : ValidTargets ts) (hp : ts.Perm ts') : ValidTargets ts' :=
  ⟨fun t ht => h.each t (hp.mem_iff.mpr ht), (hp.map _).nodup_iff.mp h.ids⟩

theorem ValidTargets.sublist (h : ValidTargets ts) (hs : ts'.Sublist ts) : ValidTargets ts' :=
  ⟨fun t ht => h.each t (hs.subset ht), (hs.map _).nodup h.ids⟩

structure TlsCertProfile.Valid (p : TlsCertProfile) : Prop where
  nonempty : p.declaredTargets ≠ []
  maxTargets : 0 < p.maxTargets ∧ p.maxTargets ≤ 32
  fit : p.declaredTargets.length ≤ p.maxTargets
  maxConcurrency : p.maxConcurrency = 1
  perTargetDeadline : 100 ≤ p.perTargetDeadlineMs ∧ p.perTargetDeadlineMs ≤ 60000
  totalDeadline : 0 < p.totalDeadlineMs ∧ p.totalDeadlineMs ≤ 300000
  serial : p.perTargetDeadlineMs * p.declaredTargets.length ≤ p.totalDeadlineMs
  expiryHorizon : 0 < p.expiryHorizonDays ∧ p.expiryHorizonDays ≤ 3650
  vantage : Nonblank p.vantage
  targets : ValidTargets p.declaredTargets

/-- The deadline envelope cannot overflow before it exceeds the total deadline. -/
theorem TlsCertProfile.validate_ok {env : Env} {p : TlsCertProfile} : p.validate env = .ok u ↔ p.Valid := by
  unfold TlsCertProfile.validate
  simp only [check_ok, rejectIf_ok, requireNonempty_ok, checkTargets_ok, Bool.or_eq_false_iff, decide_eq_false_iff_not,
    isEmpty_eq_false_iff, ne_eq, not_not]
  constructor
  · intro h
    obtain ⟨h₁, h₂, h₃, h₄, h₅, h₆, _, h₈, h₉, h₁₀, h₁₁⟩ := h
    exact ⟨h₁, by omega, by omega, h₄, by omega, by omega, by omega, by omega, h₁₀, h₁₁⟩
  · intro h
    obtain ⟨h₁, h₂, h₃, h₄, h₅, h₆, h₇, h₈, h₉, h₁₀⟩ := h
    refine ⟨h₁, ?_, ?_, h₄, ?_, ?_, ?_, ?_, ?_, h₉, h₁₀⟩ <;> omega

structure Profile.ReportValid (p : Profile) : Prop where
  selector : ∃ s, p.selector = some s ∧ Nonblank s.host ∧ Nonblank s.kind
  maxSnapshotAge : ∃ n, p.maxSnapshotAgeSeconds = some n ∧ n ≠ 0
  evidenceLimit : ∃ n, p.evidenceLimit = some n ∧ 0 < n ∧ n ≤ 1000
  passive : p.tlsCert = none

structure Profile.TlsValid (p : Profile) : Prop where
  question : p.question = tlsCertInquiryQuestion
  active : p.selector = none ∧ p.maxSnapshotAgeSeconds = none ∧ p.evidenceLimit = none
  tlsCert : ∃ t, p.tlsCert = some t ∧ t.Valid
  consequence : ∃ r ∈ p.cannotTestify, r.kind = .consequenceAuthority

def Profile.KindValid (p : Profile) : Prop :=
  match p.questionKind with
  | .findingOperationalActivity => p.ReportValid
  | .tlsCertificatePresentationAndExpiryHorizon => p.TlsValid

structure Profile.Valid (p : Profile) : Prop where
  schema : p.schema = profileSchema
  profileId : Nonblank p.profileId
  question : Nonblank p.question
  kind : p.KindValid
  covered : p.coverage ≠ []
  refuses : p.cannotTestify ≠ []
  aliases : (∀ name ∈ p.aliases, Nonblank name ∧ name ≠ p.profileId) ∧ p.aliases.Nodup
  coverage : (∀ s ∈ p.coverage, Nonblank s) ∧ p.coverage.Nodup
  cannotTestify : (∀ r ∈ p.cannotTestify, Nonblank r.statement) ∧ p.cannotTestify.Nodup

theorem Profile.validateReport_ok : p.validateReport = .ok () ↔ p.ReportValid := by
  unfold Profile.validateReport
  simp only [Sql.bind_ok, exists_const, rejectIf_ok, requireNonempty_ok,
    okOr_ok, Bool.or_eq_false_iff, decide_eq_false_iff_not]
  constructor
  · intro h
    obtain ⟨s, hs, hhost, hkind, n, hn, hage, m, hm, hlimit, htls⟩ := h
    exact ⟨⟨s, hs, hhost, hkind⟩, ⟨n, hn, hage⟩, ⟨m, hm, by omega, by omega⟩, by simpa using htls⟩
  · intro h
    obtain ⟨⟨s, hs, hhost, hkind⟩, ⟨n, hn, hage⟩, ⟨m, hm, hpos, hle⟩, htls⟩ := h
    exact ⟨s, hs, hhost, hkind, n, hn, hage, m, hm, ⟨by omega, by omega⟩, by simpa using htls⟩

theorem Profile.validateTls_ok {env : Env} : p.validateTls env = .ok () ↔ p.TlsValid := by
  unfold Profile.validateTls
  simp only [Sql.bind_ok, exists_const, rejectIf_ok, okOr_ok, TlsCertProfile.validate_ok, Bool.or_eq_false_iff,
    Option.isSome_eq_false_iff, Option.isNone_iff_eq_none, decide_eq_false_iff_not, ne_eq, not_not, Bool.not_eq_false',
    any_eq_true, decide_eq_true_eq]
  constructor
  · intro h
    obtain ⟨hq, ⟨⟨hs, ha⟩, hl⟩, t, ht, hv, hr⟩ := h
    exact ⟨hq, ⟨hs, ha, hl⟩, ⟨t, ht, hv⟩, hr⟩
  · intro h
    obtain ⟨hq, ⟨hs, ha, hl⟩, ⟨t, ht, hv⟩, hr⟩ := h
    exact ⟨hq, ⟨⟨hs, ha⟩, hl⟩, t, ht, hv, hr⟩

theorem Profile.validateKind_ok {env : Env} : p.validateKind env = .ok () ↔ p.KindValid := by
  unfold Profile.validateKind Profile.KindValid
  cases p.questionKind with
  | findingOperationalActivity => exact Profile.validateReport_ok
  | tlsCertificatePresentationAndExpiryHorizon => exact Profile.validateTls_ok

theorem Profile.validate_ok {env : Env} : p.validate env = .ok u ↔ p.Valid := by
  have hrefusals : (p.cannotTestify.map fun r : Refusal => (r.kind, r.statement)).Nodup ↔ p.cannotTestify.Nodup := by
    refine nodup_map_iff fun a b h => ?_
    obtain ⟨_, _⟩ := a
    cases h
    rfl
  unfold Profile.validate
  simp only [check_ok, rejectIf_ok, requireNonempty_ok, checkDistinct_ok, Profile.validateKind_ok,
    Profile.validateAlias, decide_eq_false_iff_not, isEmpty_eq_false_iff, ne_eq, not_not, map_id, hrefusals]
  constructor
  · intro h
    obtain ⟨h₁, h₂, h₃, h₄, h₅, h₆, h₇, h₈, h₉⟩ := h
    exact ⟨h₁, h₂, h₃, h₄, h₅, h₆, h₇, h₈, h₉⟩
  · intro h
    exact ⟨h.schema, h.profileId, h.question, h.kind, h.covered, h.refuses, h.aliases, h.coverage, h.cannotTestify⟩

theorem Profile.Valid.declaredTargets (h : p.Valid) : ValidTargets p.declaredTargets := by
  have hkind := h.kind
  unfold Profile.KindValid at hkind
  unfold Profile.declaredTargets
  cases hk : p.questionKind with
  | findingOperationalActivity =>
    rw [hk] at hkind
    rw [hkind.passive]
    exact ⟨fun _ h => (nomatch h), nodup_nil⟩
  | tlsCertificatePresentationAndExpiryHorizon =>
    rw [hk] at hkind
    obtain ⟨t, ht, htv⟩ := hkind.tlsCert
    rw [ht]
    exact htv.targets

theorem Profile.declaredTargets_sorted (p : Profile) : p.sorted.declaredTargets = sort p.declaredTargets := by
  unfold Profile.declaredTargets Profile.sorted
  cases p.tlsCert <;> rfl

/-! ## The order of the vectors -/

structure TlsCertProfile.Rearranged (t t' : TlsCertProfile) : Prop where
  same : t' = { t with declaredTargets := t'.declaredTargets }
  declaredTargets : t.declaredTargets.Perm t'.declaredTargets

/-- The same profile with its vectors in another order. -/
structure Profile.Rearranged (p p' : Profile) : Prop where
  same : p' = { p with
    aliases := p'.aliases, coverage := p'.coverage, cannotTestify := p'.cannotTestify, tlsCert := p'.tlsCert }
  aliases : p.aliases.Perm p'.aliases
  coverage : p.coverage.Perm p'.coverage
  cannotTestify : p.cannotTestify.Perm p'.cannotTestify
  tlsCert : Option.Rel TlsCertProfile.Rearranged p.tlsCert p'.tlsCert

theorem TlsCertProfile.Rearranged.valid {t t' : TlsCertProfile} (h : t.Rearranged t') (hv : t.Valid) : t'.Valid := by
  have hlength := h.declaredTargets.length_eq
  rw [h.same]
  exact { hv with
    nonempty := fun hnil => hv.nonempty ((hnil ▸ h.declaredTargets).eq_nil)
    fit := hlength ▸ hv.fit
    serial := hlength ▸ hv.serial
    targets := hv.targets.perm h.declaredTargets }

theorem Profile.Rearranged.kindValid (h : p.Rearranged p') (hv : p.KindValid) : p'.KindValid := by
  have htls := h.tlsCert
  have hrefusals := h.cannotTestify
  rw [h.same]
  generalize p'.tlsCert = tlsCert' at htls ⊢
  unfold Profile.KindValid at hv ⊢
  dsimp only
  cases hk : p.questionKind with
  | findingOperationalActivity =>
    rw [hk] at hv
    refine ⟨hv.selector, hv.maxSnapshotAge, hv.evidenceLimit, ?_⟩
    rw [hv.passive] at htls
    cases htls with
    | none => rfl
  | tlsCertificatePresentationAndExpiryHorizon =>
    rw [hk] at hv
    refine ⟨hv.question, hv.active, ?_, ?_⟩
    · obtain ⟨t, ht, htv⟩ := hv.tlsCert
      rw [ht] at htls
      cases htls with
      | some hr => exact ⟨_, rfl, hr.valid htv⟩
    · obtain ⟨r, hr, hkind⟩ := hv.consequence
      exact ⟨r, hrefusals.mem_iff.mp hr, hkind⟩

theorem Profile.Rearranged.valid (h : p.Rearranged p') (hv : p.Valid) : p'.Valid := by
  have hkind := h.kindValid hv.kind
  have haliases := h.aliases
  have hcoverage := h.coverage
  have hrefusals := h.cannotTestify
  rw [h.same] at hkind ⊢
  exact {
    schema := hv.schema
    profileId := hv.profileId
    question := hv.question
    kind := hkind
    covered := fun hnil => hv.covered (hnil ▸ hcoverage).eq_nil
    refuses := fun hnil => hv.refuses (hnil ▸ hrefusals).eq_nil
    aliases := ⟨fun n hn => hv.aliases.1 n (haliases.mem_iff.mpr hn), haliases.nodup_iff.mp hv.aliases.2⟩
    coverage := ⟨fun s hs => hv.coverage.1 s (hcoverage.mem_iff.mpr hs), hcoverage.nodup_iff.mp hv.coverage.2⟩
    cannotTestify :=
      ⟨fun r hr => hv.cannotTestify.1 r (hrefusals.mem_iff.mpr hr), hrefusals.nodup_iff.mp hv.cannotTestify.2⟩ }

theorem Profile.Rearranged.sorted_eq (h : p.Rearranged p') : p'.sorted = p.sorted := by
  have haliases := sort_congr h.aliases
  have hcoverage := sort_congr h.coverage
  have hrefusals := sort_congr h.cannotTestify
  have htls : p'.tlsCert.map (fun t => { t with declaredTargets := sort t.declaredTargets }) =
      p.tlsCert.map fun t => { t with declaredTargets := sort t.declaredTargets } := by
    have hrel := h.tlsCert
    cases hp : p.tlsCert with
    | none =>
      rw [hp] at hrel
      cases hp' : p'.tlsCert with
      | none => rfl
      | some t' => rw [hp'] at hrel; cases hrel
    | some t =>
      rw [hp] at hrel
      cases hp' : p'.tlsCert with
      | none => rw [hp'] at hrel; cases hrel
      | some t' =>
        rw [hp'] at hrel
        cases hrel with
        | some hr =>
          have htargets := sort_congr hr.declaredTargets
          rw [Option.map_some, Option.map_some, hr.same]
          exact congrArg some (by rw [htargets])
  unfold Profile.sorted
  rw [htls, ← haliases, ← hcoverage, ← hrefusals, h.same]

theorem Profile.rearranged_sorted (p : Profile) : p.Rearranged p.sorted := by
  refine ⟨rfl, (sort_perm _).symm, (sort_perm _).symm, (sort_perm _).symm, ?_⟩
  cases h : p.tlsCert with
  | none => simp only [Profile.sorted, h]; exact .none
  | some t => simp only [Profile.sorted, h]; exact .some ⟨rfl, (sort_perm _).symm⟩

theorem Profile.Rearranged.refl (p : Profile) : p.Rearranged p := by
  refine ⟨rfl, .refl _, .refl _, .refl _, ?_⟩
  cases p.tlsCert with
  | none => exact .none
  | some t => exact .some ⟨rfl, .refl _⟩

theorem Profile.named_iff : p.named name = true ↔ name ∈ p.profileId :: p.aliases := by
  unfold Profile.named
  rw [Bool.or_eq_true, decide_eq_true_eq, any_eq_true, mem_cons, eq_comm]
  refine or_congr Iff.rfl ⟨?_, fun h => ⟨name, h, decide_eq_true rfl⟩⟩
  intro h
  obtain ⟨n, hn, e⟩ := h
  exact of_decide_eq_true e ▸ hn

theorem Profile.Rearranged.named (h : p.Rearranged p') (name : String) : p'.named name = p.named name := by
  have haliases := h.aliases
  rw [Bool.eq_iff_iff, Profile.named_iff, Profile.named_iff, mem_cons, mem_cons, ← haliases.mem_iff, h.same]

/-! ## What a catalog resolves -/

structure ProfileCatalog.Valid (c : ProfileCatalog) : Prop where
  schema : c.schema = profileCatalogSchema
  nonempty : c.profiles ≠ []
  each : ∀ p ∈ c.profiles, p.Valid
  bindings : (c.profiles.map fun p => (p.profileId, p.version)).Nodup
  unambiguous : ∀ p ∈ c.profiles, ∀ q ∈ c.profiles, ∀ name, p.named name = true →
    q.named name = true → p.label = q.label

theorem ProfileCatalog.mem_names {label : String} :
    (name, label) ∈ c.names ↔ ∃ p ∈ c.profiles, p.named name = true ∧ p.label = label := by
  simp only [ProfileCatalog.names, mem_flatMap, List.mem_map, Prod.mk.injEq, Profile.named_iff]
  constructor
  · intro h
    obtain ⟨p, hp, n, hn, e, hl⟩ := h
    exact ⟨p, hp, e ▸ hn, hl⟩
  · intro h
    obtain ⟨p, hp, hn, hl⟩ := h
    exact ⟨p, hp, name, hn, rfl, hl⟩

theorem ProfileCatalog.one_owner :
    (∀ name ∈ sortDedup (c.names.map Prod.fst), ¬1 < (c.owners name).length) ↔
      ∀ p ∈ c.profiles, ∀ q ∈ c.profiles, ∀ name, p.named name = true → q.named name = true → p.label = q.label := by
  have howners : ∀ name label, label ∈ (c.names.filter (·.1 = name)).map Prod.snd ↔ (name, label) ∈ c.names := by
    intro name label
    rw [List.mem_map]
    constructor
    · intro h
      obtain ⟨⟨n, l⟩, hmem, e⟩ := h
      obtain ⟨hmem, hn⟩ := mem_filter.mp hmem
      have hn : n = name := of_decide_eq_true hn
      have hl : l = label := e
      rw [← hn, ← hl]
      exact hmem
    · intro h
      exact ⟨_, mem_filter.mpr ⟨h, decide_eq_true rfl⟩, rfl⟩
  constructor
  · intro h p hp q hq name hpn hqn
    have hpl := mem_names.mpr ⟨p, hp, hpn, rfl⟩
    have hql := mem_names.mpr ⟨q, hq, hqn, rfl⟩
    have hname := h name (mem_sortDedup.mpr (mem_map_of_mem hpl))
    exact length_sortDedup_le_one.mp (Nat.le_of_not_lt hname) _ ((howners _ _).mpr hpl) _ ((howners _ _).mpr hql)
  · intro h name _
    refine Nat.not_lt.mpr (length_sortDedup_le_one.mpr fun l hl l' hl' => ?_)
    obtain ⟨p, hp, hpn, e⟩ := mem_names.mp ((howners _ _).mp hl)
    obtain ⟨q, hq, hqn, e'⟩ := mem_names.mp ((howners _ _).mp hl')
    rw [← e, ← e', h p hp q hq name hpn hqn]

theorem ProfileCatalog.validate_ok {env : Env} : c.validate env = .ok u ↔ c.Valid := by
  have hfind : ((match (sortDedup (c.names.map Prod.fst)).find? fun name => 1 < (c.owners name).length with
      | some name => .error ("profile name or alias " ++ debug env name ++ " resolves ambiguously to " ++
          ", ".intercalate (c.owners name))
      | none => .ok ()) = (.ok u : Except String Unit)) ↔
        ∀ name ∈ sortDedup (c.names.map Prod.fst), ¬1 < (c.owners name).length := by
    cases h : (sortDedup (c.names.map Prod.fst)).find? fun name => 1 < (c.owners name).length with
    | some name =>
      refine ⟨fun h => (nomatch h), fun hall => absurd ?_ (hall name (mem_of_find?_eq_some h))⟩
      have hmany := find?_some h
      simpa using hmany
    | none =>
      refine ⟨fun _ name hname => ?_, fun _ => rfl⟩
      simpa using find?_eq_none.mp h name hname
  unfold ProfileCatalog.validate
  simp only [check_ok, rejectIf_ok, checkDistinct_ok, Profile.validate_ok, decide_eq_false_iff_not, ne_eq, not_not,
    isEmpty_eq_false_iff]
  rw [hfind, one_owner]
  exact ⟨fun h => ⟨h.1, h.2.1, h.2.2.1.1, h.2.2.1.2, h.2.2.2⟩, fun h => ⟨h.1, h.2, ⟨h.3, h.4⟩, h.5⟩⟩

theorem Profile.label_inj (h : p.label = q.label) : p.profileId = q.profileId := by
  have hv : p.version = q.version := by cases p.version; cases q.version; rfl
  unfold Profile.label at h
  rw [hv] at h
  have hlist := congrArg String.toList h
  rw [String.toList_append, String.toList_append, String.toList_append, String.toList_append] at hlist
  exact String.toList_inj.mp (append_cancel_right (append_cancel_right hlist))

/-- A name is a name of one profile. -/
theorem ProfileCatalog.Valid.named_unique (h : c.Valid) (hp : p ∈ c.profiles) (hq : q ∈ c.profiles)
    (hpn : p.named name = true) (hqn : q.named name = true) : p = q := by
  refine inj_on_of_nodup_map h.bindings hp hq ?_
  have hv : p.version = q.version := by cases p.version; cases q.version; rfl
  rw [Profile.label_inj (h.unambiguous p hp q hq name hpn hqn), hv]

theorem Profile.resolved_ok {env : Env} :
    p.resolved env = .ok r ↔ p.Valid ∧ ∃ d, p.sorted.profileDigest env = .ok d ∧ r = ⟨p.sorted, d⟩ := by
  unfold Profile.resolved Profile.normalized
  simp only [Sql.bind_ok, exists_const, Profile.validate_ok, pure, Except.pure, Except.ok.injEq]
  constructor
  · intro h
    obtain ⟨_, ⟨hv, e⟩, d, hd, e'⟩ := h
    subst e
    exact ⟨hv, d, hd, e'.symm⟩
  · intro h
    obtain ⟨hv, d, hd, e⟩ := h
    exact ⟨_, ⟨hv, rfl⟩, d, hd, e.symm⟩

theorem ProfileCatalog.Valid.filter_named (h : c.Valid) (hp : p ∈ c.profiles) (hn : p.named name = true) :
    c.profiles.filter (·.named name) = [p] := by
  refine Sql.filter_eq_singleton (h.bindings.of_map _) hp fun q hq => ?_
  constructor
  · intro hqn
    exact h.named_unique hq hp hqn hn
  · intro e
    exact e ▸ hn

theorem Profile.resolved_eq {env : Env} (h : p.Valid) :
    p.resolved env = (p.sorted.profileDigest env).map fun d => ⟨p.sorted, d⟩ := by
  unfold Profile.resolved Profile.normalized
  rw [(Profile.validate_ok (u := ())).mpr h]
  cases hd : p.sorted.profileDigest env <;> simp [hd, bind, Except.bind, pure, Except.pure, Except.map]

theorem Profile.profileDigest_eq {env : Env} (h : p.Valid) :
    p.profileDigest env = digestJcs env (.profile p.sorted) := by
  unfold Profile.profileDigest Profile.normalized
  rw [(Profile.validate_ok (u := ())).mpr h]
  rfl

theorem Profile.Rearranged.resolved_eq {env : Env} (h : p.Rearranged p') (hv : p.Valid) :
    p'.resolved env = p.resolved env := by
  rw [Profile.resolved_eq hv, Profile.resolved_eq (h.valid hv), h.sorted_eq]

theorem Profile.exists_resolved (env : Env) (h : p.Valid) : ∃ r, p.resolved env = .ok r := by
  obtain ⟨d, hd⟩ := digestJcs_plain env (a := .profile p.sorted.sorted) rfl
  refine ⟨⟨p.sorted, d⟩, Profile.resolved_ok.mpr ⟨h, d, ?_, rfl⟩⟩
  rw [Profile.profileDigest_eq (p.rearranged_sorted.valid h), hd]

theorem Profile.Valid.nonblank (h : p.Valid) (hn : p.named name = true) : Nonblank name := by
  rcases mem_cons.mp (Profile.named_iff.mp hn) with e | hmem
  · exact e ▸ h.profileId
  · exact (h.aliases.1 name hmem).1

/-- A name of a profile resolves to that profile. -/
theorem ProfileCatalog.resolve_named {env : Env} (h : c.Valid) (hp : p ∈ c.profiles) (hn : p.named name = true) :
    c.resolve env name = p.resolved env := by
  unfold ProfileCatalog.resolve
  rw [(ProfileCatalog.validate_ok (u := ())).mpr h, (requireNonempty_ok (u := ())).mpr ((h.each p hp).nonblank hn),
    h.filter_named hp hn]
  obtain ⟨r, hr⟩ := Profile.exists_resolved env (h.each p hp)
  simp [mapM_cons, hr, bind, Except.bind, pure, Except.pure]

/-- A text that names no profile resolves to nothing. -/
theorem ProfileCatalog.resolve_unnamed {env : Env} (h : c.Valid) (hn : ∀ p ∈ c.profiles, p.named name = false) :
    c.resolve env name = (requireNonempty "profile selector" name >>= fun _ =>
      .error ("profile selector " ++ debug env name ++ " did not resolve")) := by
  have hnone : c.profiles.filter (·.named name) = [] :=
    filter_eq_nil_iff.mpr fun p hp => by rw [hn p hp]; exact Bool.false_ne_true
  unfold ProfileCatalog.resolve
  rw [(ProfileCatalog.validate_ok (u := ())).mpr h, hnone]
  rfl

theorem ProfileCatalog.resolve_ok {env : Env} :
    c.resolve env name = .ok r ↔ c.Valid ∧ ∃ p ∈ c.profiles, p.named name = true ∧ p.resolved env = .ok r := by
  constructor
  · intro h
    have hv : c.Valid := ProfileCatalog.validate_ok.mp (check_ok.mp h).1
    refine ⟨hv, ?_⟩
    by_cases hn : ∃ p ∈ c.profiles, p.named name = true
    · obtain ⟨p, hp, hn⟩ := hn
      exact ⟨p, hp, hn, resolve_named hv hp hn ▸ h⟩
    · have hnone : ∀ p ∈ c.profiles, p.named name = false := by
        intro p hp
        cases hpn : p.named name with
        | true => exact absurd ⟨p, hp, hpn⟩ hn
        | false => rfl
      rw [resolve_unnamed hv hnone] at h
      cases (check_ok.mp h).2
  · intro h
    obtain ⟨hv, p, hp, hn, hr⟩ := h
    rw [resolve_named hv hp hn, hr]

structure CandidatePlan.Valid (env : Env) (p : CandidatePlan) : Prop where
  schema : p.schema = planSchema
  profile : Nonblank p.profile
  asOf : ∃ i, env.rfc3339 p.asOf = .ok i
  targets : ValidTargets p.targets

theorem parseRfc3339_ok {env : Env} {i : Int} :
    parseRfc3339 env field value = .ok i ↔ env.rfc3339 value = .ok i := Sql.mapError_ok

theorem CandidatePlan.validate_ok {env : Env} {p : CandidatePlan} : p.validate env = .ok u ↔ p.Valid env := by
  unfold CandidatePlan.validate
  simp only [Sql.bind_ok, exists_const, rejectIf_ok, requireNonempty_ok, parseRfc3339_ok, checkTargets_ok,
    decide_eq_false_iff_not, ne_eq, not_not]
  constructor
  · intro h
    obtain ⟨hs, hp, i, hi, ht⟩ := h
    exact ⟨hs, hp, ⟨i, hi⟩, ht⟩
  · intro h
    obtain ⟨i, hi⟩ := h.asOf
    exact ⟨h.schema, h.profile, i, hi, h.targets⟩

/-! ## The profile of a loopback target -/

def loopback : TlsTarget := ⟨"loopback", "127.0.0.1", 443, "tls-lab.test"⟩

def loopbackPolicy : TlsCertProfile where
  collector := .tlsCertProbe
  declaredTargets := [loopback]
  maxTargets := 1
  maxConcurrency := 1
  perTargetDeadlineMs := 500
  totalDeadlineMs := 750
  expiryHorizonDays := 30
  validationPolicy := .webpki
  vantage := "test-runner"

/-- `tests/fixtures/tls_cert_probe.profile_catalog.v0.json`. -/
def boundedTlsCert : Profile where
  schema := profileSchema
  version := .v0
  profileId := "bounded_tls_cert"
  aliases := ["tls-cert"]
  questionKind := .tlsCertificatePresentationAndExpiryHorizon
  question := tlsCertInquiryQuestion
  selector := none
  maxSnapshotAgeSeconds := none
  evidenceLimit := none
  tlsCert := some loopbackPolicy
  coverage := ["Only the predeclared host:port and SNI are acquired; no target discovery or dependency follow-up is authorized."]
  cannotTestify := [⟨.consequenceAuthority, "This inquiry authorizes no remediation or broader follow-up acquisition."⟩]

def tlsCatalog : ProfileCatalog := ⟨profileCatalogSchema, .v0, [boundedTlsCert]⟩

def loopbackPlan : CandidatePlan := ⟨planSchema, .v0, "tls-cert", "2026-07-11T12:00:00Z", []⟩

theorem loopback_valid : loopback.Valid := ⟨by decide +kernel, by decide +kernel, by decide, by decide +kernel⟩

theorem loopbackPolicy_valid : loopbackPolicy.Valid where
  nonempty := cons_ne_nil _ _
  maxTargets := by decide
  fit := Nat.le_refl 1
  maxConcurrency := rfl
  perTargetDeadline := by decide
  totalDeadline := by decide
  serial := by decide
  expiryHorizon := by decide
  vantage := by decide +kernel
  targets := ⟨fun _ ht => mem_singleton.mp ht ▸ loopback_valid, nodup_singleton _⟩

theorem boundedTlsCert_valid : boundedTlsCert.Valid where
  schema := rfl
  profileId := by decide +kernel
  question := by decide +kernel
  kind := ⟨rfl, ⟨rfl, rfl, rfl⟩, ⟨_, rfl, loopbackPolicy_valid⟩, ⟨_, mem_cons_self, rfl⟩⟩
  covered := cons_ne_nil _ _
  refuses := cons_ne_nil _ _
  aliases := by decide +kernel
  coverage := by decide +kernel
  cannotTestify := by decide +kernel

theorem tlsCatalog_valid : tlsCatalog.Valid where
  schema := rfl
  nonempty := cons_ne_nil _ _
  each := fun _ hp => mem_singleton.mp hp ▸ boundedTlsCert_valid
  bindings := nodup_singleton _
  unambiguous := fun p hp q hq _ _ _ => by rw [mem_singleton.mp hp, mem_singleton.mp hq]

theorem loopbackPlan_valid : loopbackPlan.Valid canonicalEnv where
  schema := rfl
  profile := by decide +kernel
  asOf := ⟨1783771200000000000, rfl⟩
  targets := ⟨fun _ h => (nomatch h), nodup_nil⟩

end Nq.Inquiry
