/-
  Nq.Preflight.Narrowing — whether a narrower `disk_state` question still sees that a
  witness lost its standing.

  A target narrows the findings about standing by the same match of subjects as those of
  the substrate. `subject_matches_target` lets an empty subject through for
  `node_unobservable`; the detectors write the witness's id there, and in the silence
  findings. A question about a pool keeps the standing of its host exactly where the ids
  happen to match (`narrowing_keeps_standing_iff`); for a witness with an ordinary id they
  do not (`a_pool_question_overlooks_a_failed_witness`).
-/

import Nq.Detect.Fresh
import Nq.Preflight.DiskState

namespace Nq.Preflight

open Sql (Table)

section

variable (crates : Crates) (message : FindingId → String) (ws : WarningState) (host target : String) (now : Int)

/-- The question about the target has the coverage of the question about the host, and is
    not admissible where that one cannot testify. -/
structure KeepsStanding : Prop where
  coverage : (evaluateDiskStatePreflightAt crates message ws host (some target) now).coverage =
    (evaluateDiskStatePreflightAt crates message ws host none now).coverage
  verdict : (evaluateDiskStatePreflightAt crates message ws host none now).verdict = .cannotTestify →
    (evaluateDiskStatePreflightAt crates message ws host (some target) now).verdict ≠ .admissibleWithScope

/-- If the host has a `node_unobservable`, one matches the target; otherwise if it has a
    silence of a witness, one of these does. -/
structure StandingMatches : Prop where
  node : Stands ws host none "node_unobservable" → Stands ws host (some target) "node_unobservable"
  zfs : ¬ Stands ws host none "node_unobservable" →
    Stands ws host none "zfs_witness_silent" → Stands ws host (some target) "zfs_witness_silent"
  smart : ¬ Stands ws host none "node_unobservable" →
    Stands ws host none "smart_witness_silent" → Stands ws host (some target) "smart_witness_silent"

end

section

variable {crates : Crates} {message : FindingId → String} {ws : WarningState} {host target : String} {now : Int}
  {kind : String}

/-- What is said of the target is said of the host. -/
theorem Stands.widen (h : Stands ws host (some target) kind) : Stands ws host none kind := by
  obtain ⟨r, hr, hasked, hkind, hvisible⟩ := h
  exact ⟨r, hr, ⟨hasked.host, hasked.streak, rfl⟩, hkind, hvisible⟩

/-- Two coverages agree where the host is unobservable in both, or in neither and each
    witness is silent in both or in neither. -/
theorem computeCoverage_eq_iff {a b : List FindingSnapshot} : computeCoverage a = computeCoverage b ↔
    reports "node_unobservable" a = reports "node_unobservable" b ∧ (reports "node_unobservable" a = false →
      reports "zfs_witness_silent" a = reports "zfs_witness_silent" b ∧
        reports "smart_witness_silent" a = reports "smart_witness_silent" b) := by
  unfold computeCoverage
  cases reports "node_unobservable" a <;> cases reports "node_unobservable" b <;>
    cases reports "zfs_witness_silent" a <;>
    cases reports "zfs_witness_silent" b <;> cases reports "smart_witness_silent" a <;>
      cases reports "smart_witness_silent" b <;> simp

theorem computeVerdict_cannotTestify {substrate standing : List FindingSnapshot}
    (h : (computeVerdict substrate standing).1 = .cannotTestify) : reports "node_unobservable" standing = true ∨
      (reports "zfs_witness_silent" standing = true ∧ reports "smart_witness_silent" standing = true) := by
  unfold computeVerdict at h
  cases hlies : reports "smart_status_lies" substrate
  · cases hnode : reports "node_unobservable" standing
    · right
      cases hzfs : reports "zfs_witness_silent" standing <;> cases hsmart : reports "smart_witness_silent" standing <;>
        cases hnone : (substrate.filter FindingSnapshot.isObservable).isEmpty <;>
          simp [hlies, hnode, hzfs, hsmart, hnone] at h ⊢
    · exact Or.inl rfl
  · simp [hlies] at h

theorem reports_standing {target : Option String} (hkind : kind ∈ diskStateStandingDetectors) :
    reports kind (diskStanding message ws host target) = true ↔ Stands ws host target kind := reports_partitioned hkind

end

/-- In every state of the findings, a question about a target keeps the standing of its host
    exactly where the findings about standing match the target. -/
theorem narrowing_keeps_standing_iff (crates : Crates) (message : FindingId → String) (ws : WarningState)
    (host target : String)
    (now : Int) : KeepsStanding crates message ws host target now ↔ StandingMatches ws host target := by
  have hsame : ∀ {kind : String}, kind ∈ diskStateStandingDetectors →
      (reports kind (diskStanding message ws host (some target)) = reports kind (diskStanding message ws host none) ↔
        (Stands ws host none kind → Stands ws host (some target) kind)) := by
    intro kind hkind
    rw [Bool.eq_iff_iff, reports_standing hkind, reports_standing hkind]
    exact ⟨fun h => h.mpr, fun h => ⟨Stands.widen, h⟩⟩
  have hnode : "node_unobservable" ∈ diskStateStandingDetectors := by decide
  have hzfs : "zfs_witness_silent" ∈ diskStateStandingDetectors := by decide
  have hsmart : "smart_witness_silent" ∈ diskStateStandingDetectors := by decide
  have hcoverage : (evaluateDiskStatePreflightAt crates message ws host (some target) now).coverage =
      (evaluateDiskStatePreflightAt crates message ws host none now).coverage ↔ StandingMatches ws host target := by
    rw [coverage_evaluateDisk, coverage_evaluateDisk, computeCoverage_eq_iff, hsame hnode, hsame hzfs, hsame hsmart,
      ← Bool.not_eq_true, reports_standing hnode]
    constructor
    · rintro ⟨hn, hrest⟩
      refine ⟨hn, fun hnone => (hrest fun h => hnone h.widen).1, fun hnone => (hrest fun h => hnone h.widen).2⟩
    · rintro ⟨hn, hz, hs⟩
      exact ⟨hn, fun hnone => ⟨hz fun h => hnone (hn h), hs fun h => hnone (hn h)⟩⟩
  constructor
  · intro h
    exact hcoverage.mp h.coverage
  · intro h
    refine ⟨hcoverage.mpr h, fun hcannot hadmissible => ?_⟩
    rw [verdict_evaluateDisk] at hcannot
    rw [verdict_evaluateDisk, computeVerdict_admissible] at hadmissible
    obtain ⟨_, hnotNode, hnotBoth, _⟩ := hadmissible
    rw [← Bool.not_eq_true, reports_standing hnode] at hnotNode
    rw [reports_standing hzfs, reports_standing hsmart] at hnotBoth
    have hnone : ¬ Stands ws host none "node_unobservable" := fun hs => hnotNode (h.node hs)
    rcases computeVerdict_cannotTestify hcannot with hs | ⟨hz, hs⟩
    · exact hnone ((reports_standing hnode).mp hs)
    · exact hnotBoth ⟨h.zfs hnone ((reports_standing hzfs).mp hz), h.smart hnone ((reports_standing hsmart).mp hs)⟩

/-- The ZFS witness of a host failed, beside a pool. -/
def failedWitnessBatch : Batch :=
  { sourceRuns := [⟨"nas", .ok⟩]
    zfsWitnessRows :=
      [{ host := "nas", collectedAt := "", witnessId := "zfs.local", witnessStatus := "failed"
         coverage := ⟨["pool_state"], []⟩, observations := [] }] }

/-- After one cycle of a host whose ZFS witness failed, a question about the pool `tank` sees
    every witness observable. -/
theorem a_pool_question_overlooks_a_failed_witness : ∃ m : MonitorCycle, m.Ran ∧ m.before = Db.init ∧
    m.batch = failedWitnessBatch ∧
    ∀ crates message now, ¬ KeepsStanding crates message m.after.warningState "nas" "tank" now := by
  have h : (monitorCycle Db.init failedWitnessBatch).map (fun m =>
      (m.after.warningState.rows.any (fun r => r.host = "nas" && 1 ≤ r.consecutiveGens && r.kind =
        "node_unobservable" && r.visibilityState ≠ .suppressed),
      m.after.warningState.rows.all fun r => r.kind ≠ "node_unobservable" || !subjectMatchesTarget r.subject "tank")) =
        some (true, true) := by
    decide +kernel
  obtain ⟨m, hm, h⟩ := Option.map_eq_some_iff.mp h
  obtain ⟨hsome, hnone⟩ := Prod.mk.inj h
  obtain ⟨hran, hbefore, hbatch⟩ := ran_monitorCycle hm
  refine ⟨m, hran, hbefore, hbatch, fun crates message now hkeeps => ?_⟩
  obtain ⟨r, hr, hrow⟩ := List.any_eq_true.mp hsome
  simp only [Bool.and_eq_true, decide_eq_true_eq] at hrow
  obtain ⟨⟨⟨hhost, hgens⟩, hkind⟩, hvisible⟩ := hrow
  have hstands : Stands m.after.warningState "nas" none "node_unobservable" :=
    ⟨r, hr, ⟨hhost, hgens, rfl⟩, hkind, hvisible⟩
  have hcoverage := hkeeps.coverage
  rw [coverage_evaluateDisk, coverage_evaluateDisk, computeCoverage_eq_iff] at hcoverage
  have hnode : "node_unobservable" ∈ diskStateStandingDetectors := by decide
  obtain ⟨r', hr', hasked, hkind', _⟩ :=
    (reports_standing hnode).mp (hcoverage.1.trans ((reports_standing hnode).mpr hstands))
  have hmatch := List.all_eq_true.mp hnone r' hr'
  have hsubject : subjectMatchesTarget r'.subject "tank" = true := hasked.subject
  rw [hkind', hsubject] at hmatch
  exact absurd hmatch (by decide)

end Nq.Preflight
