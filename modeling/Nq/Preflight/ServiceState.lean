/-
  Nq.Preflight.ServiceState — the `service_state` preflight (`nq-db/src/service_state.rs`,
  `service_state_witness_projection.rs`).

  One row answers, as for `dns_state`: the latest of the service, stale by its stamp as it
  is stored, projected by its stamp without the space around it.
-/

import Nq.Preflight.Result

namespace Nq.Preflight

open Receipts (Json WitnessPacket)
open Sql (Table)

/-! ## Observations -/

structure ServiceObservation where
  generationId : Int
  host : String
  serviceManager : String
  serviceName : String
  activeState : String
  subState : Option String
  loadState : Option String
  unitFileState : Option String
  observedAt : String
  deriving DecidableEq, Repr

abbrev ServiceObservationRow := Stored ServiceObservation

/-- `service_observations`. -/
abbrev ServiceTable := Table (Stored.observationId : ServiceObservationRow → Int)

structure ServiceObservationTuple where
  host : String
  serviceManager : String
  serviceName : String
  deriving DecidableEq, Repr

def ServiceObservationRow.isOf (key : ServiceObservationTuple) (r : ServiceObservationRow) : Bool :=
  r.obs.host = key.host && r.obs.serviceManager = key.serviceManager && r.obs.serviceName = key.serviceName

def latestServiceObservationForTuple (t : ServiceTable)
    (key : ServiceObservationTuple) : Option ServiceObservationRow :=
  Stored.latest ServiceObservation.observedAt (t.rows.filter (ServiceObservationRow.isOf key))

/-! ## Projection -/

def witnessTypeServiceManager : String := "service_manager_legacy_projection"

def projectionLimitServiceObservationRecovery : String :=
  "service state recovered from service_observations row, not first-person witness emission"

def projectServiceObservation (crates : Crates) (r : ServiceObservationRow) (generatedAt : String) :
    Except ProjectionRefusal WitnessPacket :=
  let sourceRef := "service_observation:" ++ toString r.observationId
  let obs := r.obs
  let unreadable := "service_observations row has no parseable substrate-time observed_at; projection would have to fabricate it"
  refusedAs sourceRef do
    Collections.rejectIf (r.observationId ≤ 0)
      "observation_id is missing or non-positive; projection cannot anchor source_finding_ref to a written row"
    Collections.rejectIf (trimmed obs.host = "" ∨ trimmed obs.serviceManager = "" ∨ trimmed obs.serviceName = "")
      "substrate identity (host/manager/service) is incomplete"
    Collections.rejectIf (trimmed obs.activeState = "") "active_state is empty; there is no native state to project"
    let observedAt ← recoverStamp crates unreadable unreadable obs.observedAt
    let observation := Json.object [("type", .string "service_manager_observation_projected"),
      ("host", .string obs.host),
      ("service_manager", .string obs.serviceManager), ("service_name", .string obs.serviceName),
      ("active_state", .string obs.activeState), ("sub_state", Json.ofString obs.subState),
        ("load_state", Json.ofString obs.loadState),
      ("unit_file_state", Json.ofString obs.unitFileState), ("observed_at", .string obs.observedAt)]
    validated crates.codec (legacyPacket witnessTypeServiceManager
      ("manager=" ++ trimmed obs.serviceManager ++ ";service=" ++ trimmed obs.serviceName)
      "legacy_service_observation_projection" observedAt generatedAt observation
      ["packet reconstructed from a collected service_observations row",
        "native first-person witness emission not implemented for service_state",
        "native state only — not service health, recovery, or safety"] sourceRef
      [projectionLimitServiceObservationRecovery] .substrate)

theorem projectServiceObservation_validates {crates : Crates}
    {r : ServiceObservationRow} {generatedAt : String} {packet : WitnessPacket}
    (h : projectServiceObservation crates r generatedAt = .ok packet) : packet.validate crates.codec = .ok () := by
  unfold projectServiceObservation at h
  refine validates_refusedAs ?_ h
  repeat refine validates_bind fun _ => ?_
  exact validates_validated

/-! ## The evaluator -/

def serviceStateStaleThresholdSeconds : Int := 300

def ServiceObservationRow.subject (r : ServiceObservationRow) : String :=
  r.obs.host ++ "/" ++ r.obs.serviceManager ++ ":" ++ r.obs.serviceName

def ServiceObservationRow.makeSupport (r : ServiceObservationRow) : PreflightSupport :=
  let obs := r.obs
  { claim := obs.serviceManager ++ " reported service '" ++ obs.serviceName ++ "' in native state '" ++
    obs.activeState ++ "'" ++
      obs.subState.elim "" (fun s => " (sub=" ++ s ++ ")") ++ obs.loadState.elim "" (fun s => " (load=" ++ s ++ ")") ++
      " at observed_at " ++ obs.observedAt
    findingKind := "service_state_observed"
    subject := r.subject
    observedAt := some obs.observedAt
    admissibilityState := some "admissible_with_scope" }

def evaluateServiceRow (crates : Crates) (result : PreflightResult)
    (r : ServiceObservationRow) (now : Int) : PreflightResult :=
  let obs := r.obs
  let age := crates.ageSeconds obs.observedAt now
  let disclosed :=
    { result with
      observedAtMin := some obs.observedAt
      observedAtMax := some obs.observedAt
      freshnessHorizon := freshnessHorizonFrom crates (some obs.observedAt) serviceStateStaleThresholdSeconds }
  match projectServiceObservation crates r result.generatedAt with
  | .error refusal =>
    { disclosed with
      excludes := [makeProjectionRefusalExclusion "service_state_observed" r.subject refusal]
      coverage := [⟨"service_manager", "observable",
        some "latest service_observations row refused projection - see excludes for the custody constraint"⟩]
      verdict := .insufficientCoverage
      verdictNote := some ("Latest service_observations row could not be projected into an admissible witness packet; " ++
        "service_state evidence is in custody refusal.") }
  | .ok packet =>
    let support := { r.makeSupport with witnessPacket := packetIdentity crates.codec packet }
    if isStale serviceStateStaleThresholdSeconds age then
      { disclosed with
        supports := [{ support with freshness := some "stale" }]
        coverage := [⟨"service_manager", "stale", some ("most recent observation for " ++ obs.serviceName ++
          " is older than " ++ toString serviceStateStaleThresholdSeconds ++ "s")⟩]
        verdict := .staleTestimony
        verdictNote := some ("Latest service_observations row at " ++ obs.observedAt ++ " is " ++
          toString (age.getD 0) ++ "s old (> " ++
          toString serviceStateStaleThresholdSeconds ++ "s); service_state testimony is stale.") }
    else
      { disclosed with
        supports := [{ support with freshness := some "fresh" }]
        coverage := [⟨"service_manager", "observable", some (obs.serviceManager ++ " reported " ++ obs.serviceName ++
          " within the freshness window")⟩]
        verdict := .admissibleWithScope
        verdictNote := some (obs.serviceManager ++ " reported service '" ++ obs.serviceName ++ "' in native state '" ++
          obs.activeState ++
          "' at " ++ obs.observedAt ++
            "; admissible only at witness scope. active does not imply healthy; inactive does not imply broken; " ++
          "recovery/health/safety/coverage remain refused (see cannot_testify).") }

def evaluateServiceStatePreflightAt (crates : Crates) (t : ServiceTable) (key : ServiceObservationTuple)
    (now : Int) : PreflightResult :=
  let generatedAt := (crates.format now).getD ""
  let result := PreflightResult.skeleton .serviceState ⟨key.host, "service",
    some ("manager=" ++ key.serviceManager ++ ";service=" ++ key.serviceName)⟩ generatedAt
  PreflightResult.computeTimeBasis crates (match latestServiceObservationForTuple t key with
    | none =>
      { result with
        verdictNote := some ("No service_observations row exists for (host=" ++ key.host ++ ", manager=" ++
          key.serviceManager ++
          ", service=" ++ key.serviceName ++
            "); no witness has observed this service. Absence is not affirmative testimony.")
        coverage := [⟨"service_manager", "absent", some ("no observation row for " ++ key.serviceName)⟩] }
    | some obs => evaluateServiceRow crates result obs now)

/-! ## What is admissible -/

section

variable {crates : Crates} {result : PreflightResult} {r : ServiceObservationRow} {now : Int}

/-- A row is admissible with scope exactly where it is not stale and projects; then it is
    the support. -/
theorem evaluateServiceRow_admissible : (evaluateServiceRow crates result r now).verdict = .admissibleWithScope ↔
    isStale serviceStateStaleThresholdSeconds (crates.ageSeconds r.obs.observedAt now) = false ∧
      projects (projectServiceObservation crates · result.generatedAt) r = true := by
  unfold evaluateServiceRow projects
  dsimp only
  cases projectServiceObservation crates r result.generatedAt <;>
    cases isStale serviceStateStaleThresholdSeconds (crates.ageSeconds r.obs.observedAt now) <;> simp [Except.toOption]

variable {packet : WitnessPacket}

theorem evaluateServiceRow_supported (hp : projectServiceObservation crates r result.generatedAt = .ok packet)
    (hstale : isStale serviceStateStaleThresholdSeconds (crates.ageSeconds r.obs.observedAt now) = false) :
    (evaluateServiceRow crates result r now).supports =
        [{ r.makeSupport with witnessPacket := packetIdentity crates.codec packet, freshness := some "fresh" }] ∧
      (evaluateServiceRow crates result r now).observedAtMax = some r.obs.observedAt := by
  unfold evaluateServiceRow
  simp [hstale, hp]

variable {t : ServiceTable} {key : ServiceObservationTuple}

theorem latestServiceObservationForTuple_delete {p : ServiceObservationRow → Bool}
    (h : latestServiceObservationForTuple t key = some r) (hp : p r = false) :
    latestServiceObservationForTuple (t.delete p) key = some r := by
  have hrows : (t.delete p).rows.filter (ServiceObservationRow.isOf key) =
      (t.rows.filter (ServiceObservationRow.isOf key)).filter (!p ·) := by
    rw [Sql.Table.rows_delete, List.filter_comm]
  unfold latestServiceObservationForTuple at h ⊢
  rw [hrows]
  exact Stored.latest_filter ((List.filter_sublist.map _).nodup t.nodup) h (by simp [hp])

theorem evaluateService_admissible : (evaluateServiceStatePreflightAt crates t key now).verdict = .admissibleWithScope ↔
    ∃ r, latestServiceObservationForTuple t key = some r ∧
      projects (projectServiceObservation crates · ((crates.format now).getD "")) r = true ∧
      isStale serviceStateStaleThresholdSeconds (crates.ageSeconds r.obs.observedAt now) = false := by
  unfold evaluateServiceStatePreflightAt
  dsimp only
  rw [verdict_computeTimeBasis]
  cases hlatest : latestServiceObservationForTuple t key with
  | none => simp [PreflightResult.skeleton]
  | some r =>
    dsimp only
    rw [evaluateServiceRow_admissible]
    constructor
    · rintro ⟨hstale, hp⟩
      exact ⟨r, rfl, hp, hstale⟩
    · rintro ⟨r', hr', hp, hstale⟩
      cases hr'
      exact ⟨hstale, hp⟩

theorem evaluateService_supported (hr : latestServiceObservationForTuple t key = some r)
    (hp : projectServiceObservation crates r ((crates.format now).getD "") = .ok packet)
    (hstale : isStale serviceStateStaleThresholdSeconds (crates.ageSeconds r.obs.observedAt now) = false) :
    (evaluateServiceStatePreflightAt crates t key now).supports =
        [{ r.makeSupport with witnessPacket := packetIdentity crates.codec packet, freshness := some "fresh" }] ∧
      (evaluateServiceStatePreflightAt crates t key now).observedAtMax = some r.obs.observedAt := by
  unfold evaluateServiceStatePreflightAt
  rw [supports_computeTimeBasis, observedAtMax_computeTimeBasis, hr]
  exact evaluateServiceRow_supported hp hstale

end

end Nq.Preflight
