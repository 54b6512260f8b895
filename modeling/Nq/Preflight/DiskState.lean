/-
  Nq.Preflight.DiskState — the `disk_state` preflight (`nq-db/src/preflight.rs`,
  `disk_state_witness_projection.rs`, and what it reads of `export.rs`).

  The findings of a host with a streak answer, suppressed or not. Findings of the substrate
  are projected, and are supports where they are observable; findings about standing say
  which witness can speak. A target narrows both by one match of subjects. The texts of the
  findings (`message`) are a parameter: no statement modelled elsewhere reads them.
-/

import Nq.Lifecycle.Masking
import Nq.Preflight.Result

namespace Nq.Preflight

open List
open Receipts (Json WitnessPacket)

/-! ## Snapshots -/

inductive AdmissibilityState where
  | observable | suppressedByDeclaration | suppressedByAncestor
  deriving DecidableEq, Repr

def AdmissibilityState.asStr : AdmissibilityState → String
  | .observable => "observable"
  | .suppressedByDeclaration => "suppressed_by_declaration"
  | .suppressedByAncestor => "suppressed_by_ancestor"

structure AdmissibilityExport where
  state : AdmissibilityState
  ancestorFindingKey : Option String
  deriving DecidableEq, Repr

/-- The fields of a snapshot the preflight reads. -/
structure FindingSnapshot where
  findingKey : String
  host : String
  detector : String
  subject : String
  severity : String
  message : String
  consecutiveGens : Int
  firstSeenAt : String
  lastSeenAt : String
  admissibility : AdmissibilityExport
  deriving DecidableEq, Repr

/-- The kind of the masking parent. -/
def ancestorKind (childKind : String) : SuppressionReason → Option String
  | .hostUnreachable => some "stale_host"
  | .sourceUnreachable => some "source_error"
  | .witnessUnobservable =>
    if startsWith childKind "smart_" then some "smart_witness_silent"
    else if startsWith childKind "zfs_" then some "zfs_witness_silent"
    else none

/-- `resolve_ancestor_finding_key`; `LIMIT 1` along the primary key. -/
def resolveAncestorFindingKey (ws : WarningState) (host childKind : String)
    (reason : SuppressionReason) : Option String := do
  let parentKind ← ancestorKind childKind reason
  let parent ← Sql.firstBy (fun a b : WarningRow => a.subject < b.subject)
    (ws.rows.filter fun r => r.host = host && r.kind = parentKind && r.visibilityState = .observed)
  return computeFindingKey "local" host parentKind parent.subject

def admissibilityState (r : WarningRow) : AdmissibilityState :=
  if r.visibilityState ≠ .suppressed then .observable
  else if r.suppressionKind = some .operatorDeclaration then .suppressedByDeclaration
  else .suppressedByAncestor

def buildAdmissibility (ws : WarningState) (r : WarningRow) : AdmissibilityExport :=
  { state := admissibilityState r
    ancestorFindingKey := match admissibilityState r with
      | .suppressedByAncestor => r.suppressionReason.bind (resolveAncestorFindingKey ws r.host r.kind)
      | _ => none }

def snapshot (message : FindingId → String) (ws : WarningState) (r : WarningRow) : FindingSnapshot :=
  { findingKey := computeFindingKey "local" r.host r.kind r.subject
    host := r.host, detector := r.kind, subject := r.subject
    severity := r.severity, message := message r.id, consecutiveGens := r.consecutiveGens
    firstSeenAt := r.firstSeenAt, lastSeenAt := r.lastSeenAt
    admissibility := buildAdmissibility ws r }

/-- `ORDER BY host, kind, subject`, on the rows of one host. -/
def byKindSubject (a b : WarningRow) : Prop := a.kind < b.kind ∨ a.kind = b.kind ∧ a.subject ≤ b.subject

instance : DecidableRel byKindSubject :=
  fun a b => inferInstanceAs (Decidable (a.kind < b.kind ∨ a.kind = b.kind ∧ a.subject ≤ b.subject))

def exportedRows (ws : WarningState) (host : String) : List WarningRow :=
  (ws.rows.filter fun r => r.host = host && 1 ≤ r.consecutiveGens).insertionSort byKindSubject

/-- `export_findings_from_conn` with the filter of the preflight: the host's findings, the
    suppressed ones with them, and none that is cleared. -/
def exportFindings (message : FindingId → String) (ws : WarningState) (host : String) : List FindingSnapshot :=
  (exportedRows ws host).map (snapshot message ws)

/-! ## Projection -/

def diskStateSubstrateDetectors : List String :=
  ["zfs_pool_degraded", "zfs_vdev_faulted", "zfs_error_count_increased",
    "zfs_scrub_overdue", "smart_uncorrected_errors_nonzero",
    "smart_reallocated_sectors_rising", "smart_temperature_high", "smart_status_lies", "smart_nvme_available_spare_low",
    "smart_nvme_critical_warning_set", "smart_nvme_percentage_used", "disk_pressure"]

def diskStateStandingDetectors : List String := ["zfs_witness_silent", "smart_witness_silent", "node_unobservable"]

/-- The same list in the projector. -/
def projectableDetectors : List String := diskStateSubstrateDetectors

def formatProjectedSubject (detector host findingSubject : String) : String :=
  let scopeToken :=
    if detector ∈ ["zfs_pool_degraded", "zfs_error_count_increased", "zfs_scrub_overdue"] then "pool"
    else if detector = "zfs_vdev_faulted" then "vdev"
    else if detector ∈ ["smart_uncorrected_errors_nonzero", "smart_reallocated_sectors_rising",
      "smart_temperature_high",
      "smart_status_lies", "smart_nvme_available_spare_low", "smart_nvme_critical_warning_set",
        "smart_nvme_percentage_used"] then "device"
    else if detector = "disk_pressure" then "mount"
    else "subject"
  "host:" ++ host ++ "/" ++ scopeToken ++ ":" ++ findingSubject

def projectDiskStateFinding (crates : Crates) (snap : FindingSnapshot)
    (generatedAt : String) : Except ProjectionRefusal WitnessPacket :=
  let debug := Receipts.debug crates.codec
  refusedAs snap.findingKey do
    Collections.rejectIf (snap.detector ∉ projectableDetectors) ("projector does not handle detector " ++
      debug snap.detector)
    let observedAt ← recoverStamp crates
      "finding has no substrate-time observed_at (last_seen_at is empty); projection would have to fabricate it"
      ("finding last_seen_at is not RFC3339: " ++ debug (trimmed snap.lastSeenAt) ++
        "; projection would have to forge a parseable timestamp") snap.lastSeenAt
    Collections.rejectIf (trimmed snap.findingKey = "")
      "finding_key is empty; projection cannot anchor source_finding_ref"
    let observation := Json.object [("type", .string (snap.detector ++ "_projected")),
      ("finding_key", .string snap.findingKey), ("detector", .string snap.detector), ("subject", .string snap.subject),
      ("admissibility_state", .string snap.admissibility.state.asStr), ("severity", .string snap.severity),
      ("message", .string snap.message), ("consecutive_gens", .number (.int snap.consecutiveGens)),
      ("first_seen_at", .string snap.firstSeenAt), ("last_seen_at", .string snap.lastSeenAt)]
    let packet := legacyPacket (snap.detector ++
      "_legacy_projection") (formatProjectedSubject snap.detector snap.host snap.subject)
      "legacy_finding_projection" observedAt generatedAt observation
      ["packet reconstructed from legacy finding state",
        "native witness packet unavailable for this observation"] snap.findingKey
      ["original detector run metadata not preserved", "transport / encoding lineage unknown"] .substrate
    validated crates.codec packet

theorem projectDiskStateFinding_validates {crates : Crates} {snap : FindingSnapshot}
    {generatedAt : String} {packet : WitnessPacket}
    (h : projectDiskStateFinding crates snap generatedAt = .ok packet) : packet.validate crates.codec = .ok () := by
  unfold projectDiskStateFinding at h
  refine validates_refusedAs ?_ h
  repeat refine validates_bind fun _ => ?_
  exact validates_validated

/-! ## The evaluator -/

/-- The subject is the target, or lies under it, or is empty. -/
def subjectMatchesTarget (subject target : String) : Bool :=
  subject = target ||
    (startsWith subject target && (subject.toList.drop target.toList.length).head? = some '/') ||
    subject = ""

def inferTargetScope (target : String) : String :=
  if startsWith target "/dev/" then "device" else if '/' ∈ target.toList then "vdev" else "pool"

def makeTarget (host : String) : Option String → PreflightTarget
  | none => ⟨host, "host", none⟩
  | some t => ⟨host, inferTargetScope t, some t⟩

def scopedClaimText (detector subject observedAt : String) : String :=
  let quoted := "'" ++ subject ++ "'"
  let observed := " at observed_at " ++ observedAt
  match detector with
  | "zfs_pool_degraded" => "ZFS reports pool " ++ quoted ++ " state as DEGRADED" ++ observed
  | "zfs_vdev_faulted" => "ZFS reports vdev " ++ quoted ++ " state as FAULTED" ++ observed
  | "zfs_error_count_increased" => "ZFS reports rising error counters on " ++ quoted ++ observed
  | "zfs_scrub_overdue" => "ZFS reports scrub overdue on pool " ++ quoted ++ observed
  | "smart_uncorrected_errors_nonzero" => "SMART reports nonzero uncorrected error counters on " ++ quoted ++ observed
  | "smart_reallocated_sectors_rising" => "SMART reports rising reallocated-sector count on " ++ quoted ++ observed
  | "smart_temperature_high" => "SMART reports temperature above declared threshold on " ++ quoted ++ observed
  | "smart_status_lies" => "SMART self-test reports PASSED while uncorrected/reallocated counters disagree on " ++
      quoted ++ observed
  | "smart_nvme_available_spare_low" => "SMART (NVMe) reports available-spare below threshold on " ++ quoted ++ observed
  | "smart_nvme_critical_warning_set" => "SMART (NVMe) reports critical-warning bit set on " ++ quoted ++ observed
  | "smart_nvme_percentage_used" => "SMART (NVMe) reports percentage-used exceeds threshold on " ++ quoted ++ observed
  | "disk_pressure" => "Filesystem occupancy above threshold on " ++ quoted ++ observed
  | other => other ++ " reports finding on " ++ quoted ++ observed

def FindingSnapshot.makeSupport (snap : FindingSnapshot) : PreflightSupport :=
  { claim := scopedClaimText snap.detector snap.subject snap.lastSeenAt
    findingKind := snap.detector
    subject := snap.subject
    observedAt := some snap.lastSeenAt
    admissibilityState := some snap.admissibility.state.asStr }

def FindingSnapshot.makeExclusion (snap : FindingSnapshot) : PreflightExclusion :=
  { findingKind := snap.detector
    subject := snap.subject
    reason := match snap.admissibility.state with
      | .suppressedByAncestor => "Witness has lost standing (ancestor finding suppressed this)"
      | .suppressedByDeclaration => "Operator-declared maintenance window covers this finding"
      | .observable => "Not currently admissible"
    detail := snap.admissibility.ancestorFindingKey }

def FindingSnapshot.isObservable (snap : FindingSnapshot) : Bool := snap.admissibility.state = .observable

/-- A finding of the kind is observable. -/
def reports (kind : String) (snaps : List FindingSnapshot) : Bool :=
  snaps.any fun s => s.detector = kind && s.isObservable

def computeCoverage (standing : List FindingSnapshot) : List PreflightCoverage :=
  let zfsSilent := reports "zfs_witness_silent" standing
  let smartSilent := reports "smart_witness_silent" standing
  let nodeUnobs := reports "node_unobservable" standing
  let family (silent : Bool) : String := if nodeUnobs then "node_unobservable" else if silent then "silent"
    else "observable"
  [⟨"zfs_witness", family zfsSilent, none⟩, ⟨"smart_witness", family smartSilent, none⟩,
    ⟨"disk_pressure", if nodeUnobs then "node_unobservable" else "observable", some "host-level filesystem occupancy"⟩]

def computeVerdict (substrate standing : List FindingSnapshot) : Verdict × String :=
  if reports "smart_status_lies" substrate then
    (.contradictoryTestimony, "SMART self-test reports PASSED while uncorrected/reallocated counters disagree; " ++
      "admitting either as the drive's true condition is laundering.")
  else if reports "node_unobservable" standing then
    (.cannotTestify, "Host is unobservable; no disk-state witness has standing.")
  else if reports "zfs_witness_silent" standing && reports "smart_witness_silent" standing then
    (.cannotTestify, "Both ZFS and SMART witnesses are silent on this host.")
  else if (substrate.filter FindingSnapshot.isObservable).isEmpty then
    (.insufficientCoverage,
      "No disk-state substrate findings are observable for this target. Absence of problem findings is not " ++
      "affirmative testimony of healthy state.")
  else
    (.admissibleWithScope, "Supporting findings are scoped to their witness coverage and observed_at; " ++
      "consequence claims remain refused (see cannot_testify).")

/-- The snapshots of the detectors listed that the question is about. -/
def partitioned (detectors : List String) (target : Option String)
    (snapshots : List FindingSnapshot) : List FindingSnapshot :=
  snapshots.filter fun s => s.detector ∈ detectors && target.elim true (subjectMatchesTarget s.subject)

section

variable (crates : Crates) (message : FindingId →
  String) (ws : WarningState) (host : String) (target : Option String) (now : Int)

def diskSubstrate : List FindingSnapshot :=
  partitioned diskStateSubstrateDetectors target (exportFindings message ws host)
def diskStanding : List FindingSnapshot :=
  partitioned diskStateStandingDetectors target (exportFindings message ws host)

/-- The findings of the substrate that are projected. -/
def admittedSubstrate (generatedAt : String) : List FindingSnapshot :=
  (diskSubstrate message ws host target).filter (projects (projectDiskStateFinding crates · generatedAt))

def evaluateDiskStatePreflightAt : PreflightResult :=
  let generatedAt := (crates.format now).getD ""
  let project := (projectDiskStateFinding crates · generatedAt)
  let substrate := diskSubstrate message ws host target
  let standing := diskStanding message ws host target
  let admitted := admittedSubstrate crates message ws host target generatedAt
  let refused := excludeRefused project (fun snap refusal =>
    makeProjectionRefusalExclusion snap.detector snap.subject refusal) substrate
  let verdict := computeVerdict admitted standing
  let result := PreflightResult.discloseWindow
    { PreflightResult.skeleton .diskState (makeTarget host target) generatedAt with
      coverage := computeCoverage standing
      supports := supportAdmitted project
        (fun snap packet => { snap.makeSupport with witnessPacket := packetIdentity crates.codec packet })
        (admitted.filter FindingSnapshot.isObservable)
      excludes := refused ++ (admitted.filter (!·.isObservable)).map FindingSnapshot.makeExclusion }
  PreflightResult.computeTimeBasis crates { result with verdict := verdict.1, verdictNote := some verdict.2 }

end

/-! ## What the findings say -/

/-- A finding of the host with a streak, on what is asked about. -/
structure Asked (host : String) (target : Option String) (r : WarningRow) : Prop where
  host : r.host = host
  streak : 1 ≤ r.consecutiveGens
  subject : target.elim true (subjectMatchesTarget r.subject) = true

/-- Some finding of the kind is asked about, and not suppressed. -/
def Stands (ws : WarningState) (host : String) (target : Option String) (kind : String) : Prop :=
  ∃ r ∈ ws.rows, Asked host target r ∧ r.kind = kind ∧ r.visibilityState ≠ .suppressed

section

variable {crates : Crates} {message : FindingId → String} {ws : WarningState} {host : String} {target : Option String}
  {detectors : List String} {kind : String}

theorem isObservable_snapshot (r : WarningRow) : (snapshot message ws r).isObservable = true ↔
    r.visibilityState ≠ .suppressed := by
  unfold FindingSnapshot.isObservable
  rw [decide_eq_true_iff]
  show admissibilityState r = .observable ↔ _
  unfold admissibilityState
  by_cases hs : r.visibilityState = .suppressed
  · rw [if_neg (not_not.mpr hs)]
    by_cases hk : r.suppressionKind = some .operatorDeclaration
    · simp [hk, hs]
    · simp [hk, hs]
  · simp [hs]

variable {s : FindingSnapshot}

theorem mem_exportFindings : s ∈ exportFindings message ws host ↔
    ∃ r ∈ ws.rows, (r.host = host ∧ 1 ≤ r.consecutiveGens) ∧ snapshot message ws r = s := by
  unfold exportFindings exportedRows
  rw [List.mem_map]
  constructor
  · rintro ⟨r, hr, e⟩
    obtain ⟨hmem, hrow⟩ := mem_filter.mp ((perm_insertionSort _ _).mem_iff.mp hr)
    exact ⟨r, hmem, by simpa using hrow, e⟩
  · rintro ⟨r, hr, hrow, e⟩
    exact ⟨r, (perm_insertionSort _ _).mem_iff.mpr (mem_filter.mpr ⟨hr, by simpa using hrow⟩), e⟩

theorem mem_partitioned : s ∈ partitioned detectors target (exportFindings message ws host) ↔
    ∃ r ∈ ws.rows, Asked host target r ∧ r.kind ∈ detectors ∧ snapshot message ws r = s := by
  unfold partitioned
  rw [mem_filter, mem_exportFindings, Bool.and_eq_true, decide_eq_true_iff]
  constructor
  · rintro ⟨⟨r, hr, ⟨hhost, hgens⟩, rfl⟩, hkind, hsubject⟩
    exact ⟨r, hr, ⟨hhost, hgens, hsubject⟩, hkind, rfl⟩
  · rintro ⟨r, hr, ⟨hhost, hgens, hsubject⟩, hkind, rfl⟩
    exact ⟨⟨r, hr, ⟨hhost, hgens⟩, rfl⟩, hkind, hsubject⟩

theorem reports_iff {snaps : List FindingSnapshot} : reports kind snaps = true ↔
    ∃ s ∈ snaps, s.detector = kind ∧ s.isObservable = true := by
  simp [reports]

/-- A kind of the detectors is reported where a finding of it stands. -/
theorem reports_partitioned (hkind : kind ∈ detectors) :
    reports kind (partitioned detectors target (exportFindings message ws host)) = true ↔
      Stands ws host target kind := by
  rw [reports_iff]
  constructor
  · rintro ⟨s, hs, hdetector, hobservable⟩
    obtain ⟨r, hr, hasked, _, rfl⟩ := mem_partitioned.mp hs
    exact ⟨r, hr, hasked, hdetector, (isObservable_snapshot r).mp hobservable⟩
  · rintro ⟨r, hr, hasked, rfl, hvisible⟩
    exact ⟨_, mem_partitioned.mpr ⟨r, hr, hasked, hkind, rfl⟩, rfl, (isObservable_snapshot r).mpr hvisible⟩

theorem computeVerdict_admissible {substrate standing : List FindingSnapshot} :
    (computeVerdict substrate standing).1 = .admissibleWithScope ↔ reports "smart_status_lies" substrate = false ∧
      reports "node_unobservable" standing = false ∧
      ¬ (reports "zfs_witness_silent" standing = true ∧ reports "smart_witness_silent" standing = true) ∧
      ∃ s ∈ substrate, s.isObservable = true := by
  have hempty : (substrate.filter FindingSnapshot.isObservable).isEmpty = false ↔
      ∃ s ∈ substrate, s.isObservable = true := by
    rw [← Bool.not_eq_true, List.isEmpty_iff, filter_eq_nil_iff]
    push Not
    rfl
  rw [← hempty]
  unfold computeVerdict
  cases reports "smart_status_lies" substrate
  · cases reports "node_unobservable" standing
    · cases reports "zfs_witness_silent" standing <;> cases reports "smart_witness_silent" standing <;>
        cases (substrate.filter FindingSnapshot.isObservable).isEmpty <;> simp
    · simp
  · simp

section

variable (now : Int)

theorem verdict_evaluateDisk : (evaluateDiskStatePreflightAt crates message ws host target now).verdict =
    (computeVerdict (admittedSubstrate crates message ws host target ((crates.format now).getD ""))
      (diskStanding message ws host target)).1 := by
  unfold evaluateDiskStatePreflightAt
  rw [verdict_computeTimeBasis]

theorem coverage_evaluateDisk : (evaluateDiskStatePreflightAt crates message ws host target now).coverage =
    computeCoverage (diskStanding message ws host target) := by
  unfold evaluateDiskStatePreflightAt
  rw [coverage_computeTimeBasis]
  rfl

theorem supports_evaluateDisk : (evaluateDiskStatePreflightAt crates message ws host target now).supports =
    supportAdmitted (projectDiskStateFinding crates · ((crates.format now).getD ""))
      (fun snap packet => { snap.makeSupport with witnessPacket := packetIdentity crates.codec packet })
      ((admittedSubstrate crates message ws host target ((crates.format now).getD "")).filter
        FindingSnapshot.isObservable) := by
  unfold evaluateDiskStatePreflightAt
  rw [supports_computeTimeBasis]
  rfl

end

end

end Nq.Preflight
