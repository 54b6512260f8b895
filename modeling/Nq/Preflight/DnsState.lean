/-
  Nq.Preflight.DnsState — the `dns_state` preflight (`nq-db/src/dns.rs`,
  `dns_state_witness_projection.rs`).

  One row answers: the latest of the tuple. It is stale by the age of its stamp as it is
  stored, and it is projected by its stamp without the space around it; a stamp that only
  the second reads has no age and is not stale.
-/

import Nq.Dns.Probe
import Nq.Preflight.Result

namespace Nq.Preflight

open Dns (DnsObservation ResponseKind)
open Receipts (Json WitnessPacket)
open Sql (Table)

/-! ## Observations -/

def responseKindAsStr : ResponseKind → String
  | .success => "success"
  | .nodata => "nodata"
  | .nxdomain => "nxdomain"
  | .servfail => "servfail"
  | .refused => "refused"
  | .timeout => "timeout"
  | .transportError => "transport_error"
  | .validationFailure => "validation_failure"

abbrev DnsRow := Stored DnsObservation

/-- `dns_observations`. -/
abbrev DnsTable := Table (Stored.observationId : DnsRow → Int)

structure DnsObservationTuple where
  vantageHost : String
  resolver : String
  queryName : String
  queryType : String
  deriving DecidableEq, Repr

def DnsRow.isOf (key : DnsObservationTuple) (r : DnsRow) : Bool :=
  r.obs.vantageHost = key.vantageHost && r.obs.resolver = key.resolver && r.obs.queryName = key.queryName &&
    r.obs.queryType = key.queryType

def latestObservationForTuple (t : DnsTable) (key : DnsObservationTuple) : Option DnsRow :=
  Stored.latest DnsObservation.observedAt (t.rows.filter (DnsRow.isOf key))

/-! ## Projection -/

def witnessTypeDnsResolver : String := "dns_resolver_legacy_projection"

def projectionLimitDnsObservationRecovery : String :=
  "probe observation recovered from dns_observations row, not first-person witness emission"

def projectDnsObservation (crates : Crates) (r : DnsRow)
    (generatedAt : String) : Except ProjectionRefusal WitnessPacket :=
  let sourceRef := "dns_observation:" ++ toString r.observationId
  let obs := r.obs
  let incomplete (field : String) : String := field ++ " is empty; substrate identity is incomplete"
  refusedAs sourceRef do
    Collections.rejectIf (r.observationId ≤ 0)
      "observation_id is missing or non-positive; projection cannot anchor source_finding_ref to a written row"
    Collections.rejectIf (trimmed obs.vantageHost = "") (incomplete "vantage_host")
    Collections.rejectIf (trimmed obs.resolver = "") (incomplete "resolver")
    Collections.rejectIf (trimmed obs.queryName = "") (incomplete "query_name")
    Collections.rejectIf (trimmed obs.queryType = "") (incomplete "query_type")
    let observedAt ← recoverStamp crates
      "dns_observations row has no substrate-time observed_at (empty); projection would have to fabricate it"
      ("dns_observations observed_at is not RFC3339: " ++ Receipts.debug crates.codec (trimmed obs.observedAt) ++
        "; projection would have to forge a parseable timestamp") obs.observedAt
    let observation := Json.object [("type", .string "dns_resolver_observation_projected"),
      ("vantage_host", .string obs.vantageHost),
      ("resolver", .string obs.resolver), ("query_name", .string obs.queryName), ("query_type", .string obs.queryType),
      ("response_kind", .string (responseKindAsStr obs.responseKind)), ("rcode", Json.ofInt obs.rcode),
      ("answer_summary", Json.ofString obs.answerSummary), ("min_ttl_seconds", Json.ofInt obs.minTtlSeconds),
      ("duration_ms", .number (.int obs.durationMs)), ("observed_at", .string obs.observedAt),
      ("error_detail", Json.ofString obs.errorDetail)]
    validated crates.codec (legacyPacket witnessTypeDnsResolver
      ("resolver=" ++ trimmed obs.resolver ++ ";name=" ++ trimmed obs.queryName ++ ";type=" ++ trimmed obs.queryType)
      "legacy_dns_observation_projection" observedAt generatedAt observation
      ["packet reconstructed from probe-written dns_observations row",
        "native witness packet emission not implemented for dns_state"] sourceRef
      [projectionLimitDnsObservationRecovery] .substrate)

theorem projectDnsObservation_validates {crates : Crates} {r : DnsRow} {generatedAt : String} {packet : WitnessPacket}
    (h : projectDnsObservation crates r generatedAt = .ok packet) : packet.validate crates.codec = .ok () := by
  unfold projectDnsObservation at h
  refine validates_refusedAs ?_ h
  repeat refine validates_bind fun _ => ?_
  exact validates_validated

/-! ## The evaluator -/

def dnsStateStaleThresholdSeconds : Int := 300

/-- The kinds that say what the resolver answered. -/
def isAnswer : ResponseKind → Bool
  | .success | .nodata | .nxdomain | .servfail | .refused => true
  | .timeout | .transportError | .validationFailure => false

def DnsRow.subject (r : DnsRow) : String :=
  "resolver=" ++ r.obs.resolver ++ ";name=" ++ r.obs.queryName ++ ";type=" ++ r.obs.queryType

def DnsRow.makeSupport (r : DnsRow) : PreflightSupport :=
  let obs := r.obs
  let asked := "(" ++ obs.queryName ++ ", " ++ obs.queryType ++ ")"
  let observed := " at observed_at " ++ obs.observedAt
  { claim := match obs.responseKind with
      | .success => "Resolver " ++ obs.resolver ++ " returned an answer for " ++ asked ++ " with summary " ++
          obs.answerSummary.getD "(none)" ++ ", min_ttl " ++ obs.minTtlSeconds.elim "unknown" (fun t => toString t ++
            "s") ++ "," ++ observed
      | .nodata => "Resolver " ++ obs.resolver ++ " returned NODATA for " ++ asked ++ observed ++
          " — name exists per this resolver; no records of type " ++ obs.queryType
      | .nxdomain => "Resolver " ++ obs.resolver ++ " returned NXDOMAIN for (" ++ obs.queryName ++ ")" ++ observed ++
          " — cached denial, not eternal nonexistence"
      | .servfail => "Resolver " ++ obs.resolver ++ " reported SERVFAIL for " ++ asked ++ observed ++
          " — testimony about the resolver, not about " ++ obs.queryName
      | .refused => "Resolver " ++ obs.resolver ++ " refused query for " ++ asked ++ observed ++
          " — testimony about resolver policy, not about " ++ obs.queryName
      | .validationFailure => "Resolver " ++ obs.resolver ++ " returned an answer for " ++ asked ++ observed ++
          " that failed DNSSEC validation; this row is reserved for a future validating probe and is not emitted by V0"
      | .timeout | .transportError => "Resolver " ++ obs.resolver ++ " produced no answer (" ++
          responseKindAsStr obs.responseKind ++ ") for " ++ asked ++ observed
    findingKind := "dns_" ++ responseKindAsStr obs.responseKind
    subject := r.subject
    observedAt := some obs.observedAt
    admissibilityState := some "observable" }

/-- The row is the one support of the result, and its window. -/
def PreflightResult.supportedBy (crates : Crates) (thresholdSeconds : Int) (support : PreflightSupport)
    (result : PreflightResult) :
    PreflightResult :=
  { result with
    supports := [support]
    observedAtMin := support.observedAt
    observedAtMax := support.observedAt
    freshnessHorizon := freshnessHorizonFrom crates support.observedAt thresholdSeconds }

/-- A row that is not stale, by the kind of its response. -/
def answerFresh (supported result : PreflightResult) (obs : DnsObservation) : PreflightResult :=
  let asked := "(" ++ obs.queryName ++ ", " ++ obs.queryType ++ ")"
  match obs.responseKind with
  | .success | .nodata | .nxdomain | .servfail | .refused =>
    { supported with
      coverage := [⟨"dns_resolver", "observable",
        some ("resolver " ++ obs.resolver ++ " answered within budget for " ++ asked)⟩]
      verdict := .admissibleWithScope
      verdictNote := some ("Resolver " ++ obs.resolver ++ " returned a " ++ responseKindAsStr obs.responseKind ++
        " response from vantage " ++
        obs.vantageHost ++ "; admissible only at witness scope. Consequence claims remain refused (see cannot_testify).") }
  | .timeout =>
    { result with
      coverage := [⟨"dns_resolver", "silent",
        some ("resolver " ++ obs.resolver ++ " did not respond within budget at observed_at " ++ obs.observedAt)⟩]
      verdict := .insufficientCoverage
      verdictNote := some ("Resolver " ++ obs.resolver ++ " did not answer (timeout) for " ++ asked ++
        " at observed_at " ++ obs.observedAt ++
        "; no answer-shape testimony to admit. Silence is not affirmative testimony.") }
  | .transportError =>
    let detail := obs.errorDetail.elim "" (" — " ++ ·)
    { result with
      coverage := [⟨"dns_resolver", "unreachable",
        some ("vantage " ++ obs.vantageHost ++ " could not reach resolver " ++ obs.resolver ++
        " at observed_at " ++ obs.observedAt ++ detail)⟩]
      verdict := .cannotTestify
      verdictNote := some ("Vantage " ++ obs.vantageHost ++ " could not reach resolver " ++ obs.resolver ++ " for " ++
        asked ++
        " at observed_at " ++ obs.observedAt ++ detail ++
          "; the unknown is the vantage's path to the resolver, not the queried name.") }
  | .validationFailure =>
    { supported with
      coverage := [⟨"dns_resolver", "observable",
        some ("resolver " ++ obs.resolver ++ " returned an answer that failed DNSSEC validation")⟩]
      verdict := .contradictoryTestimony
      verdictNote := some ("Resolver returned an answer that failed DNSSEC validation; admitting either the answer or its absence as " ++
        "live truth is laundering. V0 collectors do not validate, so encountering this verdict means a later slice's row is being read.") }

def evaluateDnsRow (crates : Crates) (result : PreflightResult) (r : DnsRow) (now : Int) : PreflightResult :=
  let age := crates.ageSeconds r.obs.observedAt now
  let stale := isStale dnsStateStaleThresholdSeconds age
  let producesSupport := stale || isAnswer r.obs.responseKind || r.obs.responseKind = .validationFailure
  let projected := if producesSupport then (projectDnsObservation crates r result.generatedAt).map some else .ok none
  match projected with
  | .error refusal =>
    { result with
      excludes := [makeProjectionRefusalExclusion ("dns_" ++ responseKindAsStr r.obs.responseKind) r.subject refusal]
      coverage := [⟨"dns_resolver", "observable",
        some "latest dns_observations row refused projection — see excludes for the custody constraint"⟩]
      verdict := .insufficientCoverage
      verdictNote := some ("Latest dns_observations row could not be projected into an admissible witness packet; " ++
        "dns_state evidence is in custody refusal.") }
  | .ok packet =>
    let support := { r.makeSupport with witnessPacket := packet.bind (packetIdentity crates.codec) }
    let supported := result.supportedBy crates dnsStateStaleThresholdSeconds support
    if stale then
      { supported with
        coverage := [⟨"dns_resolver", "stale", some ("most recent observation from resolver " ++ r.obs.resolver ++
          " is older than " ++ toString dnsStateStaleThresholdSeconds ++ "s")⟩]
        verdict := .staleTestimony
        verdictNote := some ("Latest dns_observations row at observed_at " ++ r.obs.observedAt ++ " is " ++
          toString (age.getD 0) ++
          "s old (> " ++ toString dnsStateStaleThresholdSeconds ++ "s threshold); dns_state testimony is stale.") }
    else answerFresh supported result r.obs

def evaluateDnsStatePreflightAt (crates : Crates) (t : DnsTable)
    (key : DnsObservationTuple) (now : Int) : PreflightResult :=
  let generatedAt := (crates.format now).getD ""
  let result := PreflightResult.skeleton .dnsState ⟨key.vantageHost, "dns_query",
    some ("resolver=" ++ key.resolver ++ ";name=" ++ key.queryName ++ ";type=" ++ key.queryType)⟩ generatedAt
  PreflightResult.computeTimeBasis crates (match latestObservationForTuple t key with
    | none =>
      { result with
        verdictNote := some ("No dns_observations row exists for (vantage=" ++ key.vantageHost ++ ", resolver=" ++
          key.resolver ++ ", name=" ++
          key.queryName ++ ", type=" ++ key.queryType ++
            "); the prober has not run for this tuple. Absence of observation is not " ++
          "affirmative testimony of healthy resolution.")
        coverage := [⟨"dns_resolver", "absent", some ("no observation row for resolver " ++ key.resolver)⟩] }
    | some obs => evaluateDnsRow crates result obs now)

/-! ## What is admissible -/

section

variable {crates : Crates} {result : PreflightResult} {r : DnsRow} {now : Int}

/-- A row is admissible with scope exactly where it is not stale, is an answer, and
    projects; then it is the support. -/
theorem evaluateDnsRow_admissible : (evaluateDnsRow crates result r now).verdict = .admissibleWithScope ↔
    isStale dnsStateStaleThresholdSeconds (crates.ageSeconds r.obs.observedAt now) = false ∧
      isAnswer r.obs.responseKind = true ∧ projects (projectDnsObservation crates · result.generatedAt) r = true := by
  unfold evaluateDnsRow projects
  dsimp only
  cases hstale : isStale dnsStateStaleThresholdSeconds (crates.ageSeconds r.obs.observedAt now) with
  | true =>
    simp only [Bool.true_or, if_pos]
    cases projectDnsObservation crates r result.generatedAt <;> simp [Except.map]
  | false =>
    cases hp : projectDnsObservation crates r result.generatedAt <;> cases hk : r.obs.responseKind <;>
      simp [isAnswer, answerFresh, Except.map, Except.toOption, hk]

variable {packet : WitnessPacket}

theorem evaluateDnsRow_supported (hp : projectDnsObservation crates r result.generatedAt = .ok packet)
    (hstale : isStale dnsStateStaleThresholdSeconds (crates.ageSeconds r.obs.observedAt now) = false)
    (hk : isAnswer r.obs.responseKind = true) :
    (evaluateDnsRow crates result r now).supports =
      [{ r.makeSupport with witnessPacket := packetIdentity crates.codec packet }] ∧
      (evaluateDnsRow crates result r now).observedAtMax = some r.obs.observedAt := by
  unfold evaluateDnsRow
  cases hkind : r.obs.responseKind <;> simp [hkind, isAnswer] at hk <;>
    simp [hstale, hp, isAnswer, answerFresh, Except.map, hkind, PreflightResult.supportedBy, DnsRow.makeSupport]

variable {t : DnsTable} {key : DnsObservationTuple}

theorem latestObservationForTuple_delete {p : DnsRow → Bool}
    (h : latestObservationForTuple t key = some r) (hp : p r = false) :
    latestObservationForTuple (t.delete p) key = some r := by
  have hrows : (t.delete p).rows.filter (DnsRow.isOf key) = (t.rows.filter (DnsRow.isOf key)).filter (!p ·) := by
    rw [Sql.Table.rows_delete, List.filter_comm]
  unfold latestObservationForTuple at h ⊢
  rw [hrows]
  exact Stored.latest_filter ((List.filter_sublist.map _).nodup t.nodup) h (by simp [hp])

theorem evaluateDns_admissible : (evaluateDnsStatePreflightAt crates t key now).verdict = .admissibleWithScope ↔
    ∃ r, latestObservationForTuple t key = some r ∧ isAnswer r.obs.responseKind = true ∧
      projects (projectDnsObservation crates · ((crates.format now).getD "")) r = true ∧
      isStale dnsStateStaleThresholdSeconds (crates.ageSeconds r.obs.observedAt now) = false := by
  unfold evaluateDnsStatePreflightAt
  dsimp only
  rw [verdict_computeTimeBasis]
  cases hlatest : latestObservationForTuple t key with
  | none => simp [PreflightResult.skeleton]
  | some r =>
    dsimp only
    rw [evaluateDnsRow_admissible]
    constructor
    · rintro ⟨hstale, hk, hp⟩
      exact ⟨r, rfl, hk, hp, hstale⟩
    · rintro ⟨r', hr', hk, hp, hstale⟩
      cases hr'
      exact ⟨hstale, hk, hp⟩

theorem evaluateDns_supported (hr : latestObservationForTuple t key = some r)
    (hp : projectDnsObservation crates r ((crates.format now).getD "") = .ok packet)
    (hstale : isStale dnsStateStaleThresholdSeconds (crates.ageSeconds r.obs.observedAt now) = false)
    (hk : isAnswer r.obs.responseKind = true) : (evaluateDnsStatePreflightAt crates t key now).supports =
        [{ r.makeSupport with witnessPacket := packetIdentity crates.codec packet }] ∧
      (evaluateDnsStatePreflightAt crates t key now).observedAtMax = some r.obs.observedAt := by
  unfold evaluateDnsStatePreflightAt
  rw [supports_computeTimeBasis, observedAtMax_computeTimeBasis, hr]
  exact evaluateDnsRow_supported hp hstale hk

end

end Nq.Preflight
