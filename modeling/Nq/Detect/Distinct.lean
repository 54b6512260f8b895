/-
  Nq.Detect.Distinct — the identities of one cycle's findings.

  A cycle records all its findings in one transaction, under UNIQUE (generation_id,
  finding_key): two findings with one (host, kind, subject) roll the whole lifecycle back.
  Detectors of one kind are told apart by their kind, and most take their subject from the
  key of the table they read. Four do not: a metric's name is not its series, a service and
  a metric may share a name, two witnesses on a host may share an id, and a rejected
  declaration keeps its id however often it is rejected (`Collisionless`).

  - `findings_distinct_iff`: the findings are distinct exactly when none of the four
    collides;
  - `cycle_commits_iff_collisionless`: and then, in a served database, the cycle commits
    (`one_id_rejected_twice_rolls_back` is a cycle that does not).
-/

import Mathlib
import Nq.Declarations.Hygiene
import Nq.Detect.Checks
import Nq.Publish.Serve

namespace Nq

open List
open Sql (F64 Table collect)

/-! ## Findings of one family -/

/-- The kinds told apart together. -/
def familyOf (kind : String) : String :=
  if kind ∈ ["zfs_witness_silent", "smart_witness_silent", "node_unobservable"] then "witness_silent"
  else if kind ∈ ["check_error", "check_failed"] then "saved_checks"
  else if kind ∈ ["declarations_file_unreadable", "declaration_expired", "persistent_declaration_without_review",
      "withdrawn_subject_active"] then "hygiene"
  else kind

def FindingId.family (k : FindingId) : String := familyOf k.kind

/-- The host and the subject: what tells two findings of one kind apart. -/
def FindingId.place (k : FindingId) : String × String := (k.host, k.subject)

structure Distinct (family : String) (fs : List Finding) : Prop where
  family : ∀ f ∈ fs, f.id.family = family
  nodup : (fs.map Finding.id).Nodup

section

variable {ρ κ ε : Type} {rows : List ρ} {family : String}

theorem distinct_flatMap (of : FindingId → κ) {key : ρ → κ} {g : ρ → List Finding} (hn : (rows.map key).Nodup)
    (hg : ∀ r ∈ rows, ((g r).map Finding.id).Nodup ∧ ∀ f ∈ g r, of f.id = key r ∧ f.id.family = family) :
    Distinct family (rows.flatMap g) := by
  refine ⟨?_, Sql.nodup_flatMap_key of hn fun r hr => ⟨(hg r hr).1, fun f hf => ((hg r hr).2 f hf).1⟩⟩
  intro f hf
  obtain ⟨r, hr, hfr⟩ := mem_flatMap.mp hf
  exact ((hg r hr).2 f hfr).2

variable {key : ρ → String × String}

theorem distinct_filterMap {g : ρ → Option Finding} (hn : (rows.map key).Nodup)
    (hg : ∀ r f, g r = some f → f.id.place = key r ∧ f.id.family = family) : Distinct family (rows.filterMap g) := by
  refine ⟨?_, Sql.nodup_filterMap_key FindingId.place hn fun r _ f hf => (hg r f hf).1⟩
  intro f hf
  obtain ⟨r, _, hfr⟩ := mem_filterMap.mp hf
  exact (hg r f hfr).2

theorem distinct_map {g : ρ → Finding} (hn : (rows.map key).Nodup)
    (hg : ∀ r, (g r).id.place = key r ∧ (g r).id.family = family) : Distinct family (rows.map g) := by
  rw [← filterMap_eq_map]
  refine distinct_filterMap hn ?_
  intro r f hf
  cases hf
  exact hg r

theorem distinct_nil : Distinct family [] := ⟨fun _ hf => (nomatch hf), nodup_nil⟩

/-- A loop that pushes at most one finding for each row. -/
theorem distinct_collect {g : ρ → Except ε (List Finding)} {fs : List Finding} (h : collect g rows = .ok fs)
    (hn : (rows.map key).Nodup)
    (hg : ∀ r xs, g r = .ok xs → xs = [] ∨ ∃ f, xs = [f] ∧ f.id.place = key r ∧ f.id.family = family) :
    Distinct family fs := by
  obtain ⟨hall, rfl⟩ := Sql.collect_ok h
  refine distinct_flatMap FindingId.place hn ?_
  intro r hr
  obtain ⟨xs, hxs⟩ := hall r hr
  rw [hxs]
  rcases hg r xs hxs with rfl | ⟨f, rfl, hf⟩
  · exact ⟨nodup_nil, fun f hf => (nomatch hf)⟩
  · refine ⟨nodup_singleton _, ?_⟩
    intro f' hf'
    rw [mem_singleton.mp hf']
    exact hf

theorem nodup_filter {κ : Type} {key : ρ → κ} {p : ρ → Bool} (h : (rows.map key).Nodup) :
    ((rows.filter p).map key).Nodup :=
  (filter_sublist.map key).nodup h

/-- Rows told apart by their host alone, for findings without a subject. -/
theorem nodup_hosts {host : ρ → String} (h : (rows.map host).Nodup) : (rows.map fun r => (host r, "")).Nodup := by
  have hmap : rows.map (fun r => (host r, "")) = (rows.map host).map fun x => (x, "") := by
    rw [map_map]
    rfl
  rw [hmap]
  exact h.map fun a b he => congrArg Prod.fst he

end

/-! ## The detectors whose subject is a key -/

section

variable {env : Env} {config : DetectorConfig} {db : Db} {fs : List Finding}

theorem walBloat_distinct (h : detectWalBloat env config db = .ok fs) : Distinct "wal_bloat" fs := by
  refine distinct_collect h (nodup_filter (nodup_viewed db.monitoredDbsCurrent.nodup)) ?_
  intro v xs hx
  obtain ⟨_, _, hx⟩ := Sql.bind_ok.mp hx
  cases hx
  split
  · exact .inr ⟨_, rfl, rfl, rfl⟩
  · exact .inl rfl

theorem pinnedWal_distinct : Distinct "pinned_wal" (detectPinnedWal env config db) :=
  distinct_map (nodup_filter db.monitoredDbsCurrent.nodup) fun _ => ⟨rfl, rfl⟩

theorem freelistBloat_distinct : Distinct "freelist_bloat" (detectFreelistBloat env config db) :=
  distinct_map (nodup_filter (nodup_viewed db.monitoredDbsCurrent.nodup)) fun _ => ⟨rfl, rfl⟩

theorem staleHosts_distinct (h : detectStaleHosts env config db = .ok fs) : Distinct "stale_host" fs := by
  refine distinct_collect h (nodup_hosts (nodup_filter (nodup_viewed db.hostsCurrent.nodup))) ?_
  intro v xs hx
  obtain ⟨_, _, hx⟩ := Sql.bind_ok.mp hx
  split at hx
  cases hx
  exact .inr ⟨_, rfl, rfl, rfl⟩

theorem staleServices_distinct (h : detectStaleServices env config db = .ok fs) : Distinct "stale_service" fs := by
  refine distinct_collect h (nodup_filter (nodup_viewed db.servicesCurrent.nodup)) ?_
  intro v xs hx
  obtain ⟨_, _, hx⟩ := Sql.bind_ok.mp hx
  split at hx
  cases hx
  exact .inr ⟨_, rfl, rfl, rfl⟩

theorem serviceStatus_distinct : Distinct "service_status" (detectServiceStatus env db) :=
  distinct_map (nodup_filter (nodup_viewed db.servicesCurrent.nodup)) fun _ => ⟨rfl, rfl⟩

theorem sourceErrors_distinct : Distinct "source_error" (detectSourceErrors db) :=
  distinct_map (nodup_hosts (nodup_filter (nodup_vSources db))) fun _ => ⟨rfl, rfl⟩

theorem diskPressure_distinct (h : detectDiskPressure env db = .ok fs) : Distinct "disk_pressure" fs := by
  refine distinct_collect h (nodup_hosts (nodup_filter (nodup_viewed db.hostsCurrent.nodup))) ?_
  intro v xs hx
  obtain ⟨_, _, hx⟩ := Sql.bind_ok.mp hx
  obtain ⟨_, _, hx⟩ := Sql.bind_ok.mp hx
  split at hx
  cases hx
  exact .inr ⟨_, rfl, rfl, rfl⟩

theorem memoryPressure_distinct (h : detectMemoryPressure env db = .ok fs) : Distinct "mem_pressure" fs := by
  refine distinct_collect h (nodup_hosts (nodup_filter (nodup_viewed db.hostsCurrent.nodup))) ?_
  intro v xs hx
  obtain ⟨_, _, hx⟩ := Sql.bind_ok.mp hx
  obtain ⟨_, _, hx⟩ := Sql.bind_ok.mp hx
  cases hx
  exact .inr ⟨_, rfl, rfl, rfl⟩

/-- One resource of a host gives at most one finding, under its own subject. -/
theorem ids_resourceDrift (rows : List (History HostRow)) (host : String) (arith : Arith) (subject : String)
    (read : HostRow → Option F64) (worse : F64 → F64 → Bool) :
    (resourceDrift rows host arith subject read worse).map Finding.id = [] ∨
      (resourceDrift rows host arith subject read worse).map Finding.id = [⟨host, "resource_drift", subject⟩] := by
  unfold resourceDrift
  split
  · split
    · exact .inr rfl
    · exact .inl rfl
  · exact .inl rfl

theorem resourceDrift_distinct : Distinct "resource_drift" (detectResourceDrift env db) := by
  unfold detectResourceDrift
  dsimp only
  split
  · exact distinct_nil
  · refine distinct_flatMap FindingId.host (nodup_filter (?_ : (List.map (fun h : String => h) _).Nodup)) ?_
    · rw [map_id']
      exact Sql.nodup_groups _ _
    · intro host _
      have hdisk := ids_resourceDrift db.hostsHistory.rows host env.arith "disk" HostRow.diskUsedPct
        fun now avg => F64.lt (env.arith.add avg 5) now && F64.lt 70 now
      have hmemory := ids_resourceDrift db.hostsHistory.rows host env.arith "memory" HostRow.memPressurePct
        fun now avg => F64.lt (env.arith.add avg 10) now && F64.lt 60 now
      have hcpu := ids_resourceDrift db.hostsHistory.rows host env.arith "cpu" HostRow.cpuLoad1m
        fun now avg => F64.lt f64Tenth avg && F64.lt (env.arith.mul avg 2) now && F64.lt 2 now
      constructor
      · rw [map_append, map_append]
        rcases hdisk with hd | hd <;> rcases hmemory with hm | hm <;> rcases hcpu with hc | hc <;> simp [hd, hm, hc]
      · intro f hf
        have hid : ∃ subject, f.id = ⟨host, "resource_drift", subject⟩ := by
          have hmem := mem_map_of_mem (f := Finding.id) hf
          rw [map_append, map_append] at hmem
          rcases hdisk with hd | hd <;> rcases hmemory with hm | hm <;> rcases hcpu with hc | hc <;>
            simp only [hd, hm, hc, nil_append, append_nil, mem_append, mem_singleton,
              not_mem_nil] at hmem <;> grind
        obtain ⟨subject, hid⟩ := hid
        rw [hid]
        exact ⟨rfl, rfl⟩

theorem serviceFlap_distinct : Distinct "service_flap" (detectServiceFlap env db) := by
  unfold detectServiceFlap
  split
  · exact distinct_nil
  · refine distinct_map (nodup_filter (?_ : (List.map (fun k : String × String => k) _).Nodup)) fun _ => ⟨rfl, rfl⟩
    rw [map_id']
    exact Sql.nodup_groups _ _

theorem scrapeRegimeShift_distinct : Distinct "scrape_regime_shift" (detectScrapeRegimeShift env db) := by
  unfold detectScrapeRegimeShift
  dsimp only
  split
  · exact distinct_nil
  · constructor
    · intro f hf
      rcases mem_append.mp hf with hf | hf
      all_goals
        split at hf
        · rw [mem_singleton.mp hf]; rfl
        · cases hf
    · split <;> split <;> simp [Finding.id]

theorem logSilence_distinct : Distinct "log_silence" (detectLogSilence env db) := by
  unfold detectLogSilence
  dsimp only
  split
  · exact distinct_nil
  · exact distinct_map (nodup_filter db.logObservationsCurrent.nodup) fun _ => ⟨rfl, rfl⟩

theorem errorShift_distinct : Distinct "error_shift" (detectErrorShift env db) := by
  unfold detectErrorShift
  dsimp only
  split
  · exact distinct_nil
  · exact distinct_map (nodup_filter db.logObservationsCurrent.nodup) fun _ => ⟨rfl, rfl⟩

variable {diagnosis : FindingDiagnosis} {stateKind : StateKind} {f : Finding} {hygiene : List Finding} (d : Declaration)

theorem zfsPoolsIn_distinct {state kind : String} (hk : familyOf kind = kind) :
    Distinct kind (zfsPoolsIn env db state kind stateKind diagnosis) :=
  distinct_map (nodup_filter db.zfsPoolsCurrent.nodup) fun _ => ⟨rfl, hk⟩

theorem zfsPoolCapacityPressure_distinct :
    Distinct "zfs_pool_capacity_pressure" (detectZfsPoolCapacityPressure env db) := by
  refine distinct_filterMap (nodup_filter db.zfsPoolsCurrent.nodup) ?_
  intro c f hf
  obtain ⟨allocPct, _, hf⟩ := Option.bind_eq_some_iff.mp hf
  split at hf
  · cases hf
  · split at hf
    cases hf
    exact ⟨rfl, rfl⟩

theorem zfsPoolHealthChanged_distinct : Distinct "zfs_pool_health_changed" (detectZfsPoolHealthChanged env db) := by
  refine distinct_filterMap (Sql.nodup_lastTwo (nodup_filter db.zfsPoolsHistory.nodup)) ?_
  intro p f hf
  dsimp only at hf
  split at hf
  · cases hf
  · cases hf
    exact ⟨rfl, rfl⟩

theorem zfsSpareActivated_distinct : Distinct "zfs_spare_activated" (detectZfsSpareActivated db) := by
  refine distinct_filterMap (Sql.nodup_lastTwo (nodup_filter db.zfsSparesHistory.nodup)) ?_
  intro p f hf
  dsimp only at hf
  split at hf
  · cases hf
    exact ⟨rfl, rfl⟩
  · cases hf

theorem zfsVdevFaulted_distinct : Distinct "zfs_vdev_faulted" (detectZfsVdevFaulted env db) :=
  distinct_map (nodup_filter db.zfsVdevsCurrent.nodup) fun _ => ⟨rfl, rfl⟩

theorem zfsErrorCountIncreased_distinct :
    Distinct "zfs_error_count_increased" (detectZfsErrorCountIncreased env db) := by
  refine distinct_filterMap (Sql.nodup_lastTwo (nodup_filter db.zfsVdevErrorsHistory.nodup)) ?_
  intro p f hf
  dsimp only at hf
  split at hf
  · cases hf
  · split at hf
    · cases hf
    · cases hf
      exact ⟨rfl, rfl⟩

theorem zfsScrubOverdue_distinct : Distinct "zfs_scrub_overdue" (detectZfsScrubOverdue env db) := by
  refine distinct_filterMap (nodup_filter db.zfsScansCurrent.nodup) ?_
  intro c f hf
  obtain ⟨_, _, hf⟩ := Option.bind_eq_some_iff.mp hf
  obtain ⟨_, _, hf⟩ := Option.bind_eq_some_iff.mp hf
  split at hf
  · cases hf
  · split at hf
    · cases hf
      exact ⟨rfl, rfl⟩
    · cases hf

theorem smartStatusLies_distinct : Distinct "smart_status_lies" (detectSmartStatusLies env db) :=
  distinct_map (nodup_filter db.smartDevicesCurrent.nodup) fun _ => ⟨rfl, rfl⟩

theorem smartUncorrectedErrorsNonzero_distinct :
    Distinct "smart_uncorrected_errors_nonzero" (detectSmartUncorrectedErrorsNonzero env db) :=
  distinct_map (nodup_filter db.smartDevicesCurrent.nodup) fun _ => ⟨rfl, rfl⟩

theorem nvmeLevel_distinct {kind : String} {read : SmartDevice → Option Int} {test : Int → Bool}
    (hk : familyOf kind = kind) : Distinct kind (nvmeLevel env db kind read test stateKind diagnosis) :=
  distinct_map (nodup_filter db.smartDevicesCurrent.nodup) fun _ => ⟨rfl, hk⟩

theorem smartReallocatedSectorsRising_distinct :
    Distinct "smart_reallocated_sectors_rising" (detectSmartReallocatedSectorsRising env db) := by
  refine distinct_filterMap (Sql.nodup_lastTwo (nodup_filter db.smartReallocatedHistory.nodup)) ?_
  intro p f hf
  dsimp only at hf
  split at hf
  · cases hf
  · cases hf
    exact ⟨rfl, rfl⟩

theorem smartTemperatureHigh_distinct : Distinct "smart_temperature_high" (detectSmartTemperatureHigh env db) :=
  distinct_map (nodup_filter db.smartDevicesCurrent.nodup) fun _ => ⟨rfl, rfl⟩

/-! ## Saved checks -/

theorem savedCheck_id {q : SavedQuery} (h : savedCheck env db q = some f) :
    f.id = ⟨"", "check_error", q.name⟩ ∨ f.id = ⟨"", "check_failed", "#" ++ toString q.queryId⟩ := by
  unfold savedCheck at h
  split at h
  · cases h
  · cases h
  · split at h
    · cases h
      exact .inl rfl
    · split at h
      · cases h
        exact .inr rfl
      · cases h

theorem checkFailed_subject_inj {a b : Int} (h : "#" ++ toString a = "#" ++ toString b) : a = b := by
  have htail : (toString a).toList = (toString b).toList := by
    have := congrArg String.toList h
    rw [String.toList_append, String.toList_append] at this
    exact append_cancel_left this
  exact Int.repr_inj.mp (String.toList_inj.mp htail)

theorem savedChecks_distinct : Distinct "saved_checks" (runSavedChecks env db) := by
  constructor
  · intro f hf
    obtain ⟨q, _, hq⟩ := mem_filterMap.mp hf
    rcases savedCheck_id hq with hid | hid <;> rw [hid] <;> rfl
  · have hids : db.savedQueries.table.rows.Pairwise fun q q' => q.queryId ≠ q'.queryId :=
      pairwise_map.mp db.savedQueries.table.nodup
    have hnames : db.savedQueries.table.rows.Pairwise fun q q' => q.name ≠ q'.name :=
      pairwise_map.mp db.savedQueries.unique
    refine pairwise_map.mpr (pairwise_filterMap.mpr ((hids.and hnames).imp ?_))
    rintro q q' ⟨hid, hname⟩ f hf f' hf' he
    rcases savedCheck_id hf with h | h <;> rcases savedCheck_id hf' with h' | h' <;> rw [h, h'] at he
    · exact hname (congrArg FindingId.subject he)
    · exact absurd (congrArg FindingId.kind he) (by simp)
    · exact absurd (congrArg FindingId.kind he) (by simp)
    · exact hid (checkFailed_subject_inj (congrArg FindingId.subject he))

/-! ## Four detectors whose subject is no key -/

/-- Findings of one kind are distinct exactly when their places are. -/
theorem nodup_ids {fs : List Finding} {kind : String} (hk : ∀ f ∈ fs, f.kind = kind) :
    (fs.map Finding.id).Nodup ↔ (fs.map fun f => f.id.place).Nodup := by
  have hmap : fs.map Finding.id = (fs.map fun f => f.id.place).map fun p => ⟨p.1, kind, p.2⟩ := by
    rw [map_map]
    refine map_congr_left fun f hf => ?_
    rw [← hk f hf]
    rfl
  rw [hmap]
  refine nodup_map_iff ?_
  intro p p' he
  exact Prod.ext (congrArg FindingId.host he) (congrArg FindingId.subject he)

/-- A sample under its metric's name, which its labels may share. -/
def metricPlace (p : String × SeriesRow) : String × String := (p.1, p.2.metricName)

theorem metricNan_kind : ∀ f ∈ detectMetricNan db, f.kind = "metric_signal" := by
  intro f hf
  obtain ⟨p, _, rfl⟩ := List.mem_map.mp hf
  rfl

theorem metricNan_nodup :
    ((detectMetricNan db).map Finding.id).Nodup ↔ (db.nonFiniteSamples.map metricPlace).Nodup := by
  rw [nodup_ids metricNan_kind, detectMetricNan, map_map]
  rfl

/-- What vanished, services and metrics under one kind. -/
def Db.vanished (db : Db) : List (String × String) := db.vanishedServices ++ db.vanishedSeries.map metricPlace

theorem signalDropout_kind : ∀ f ∈ detectSignalDropout db, f.kind = "signal_dropout" := by
  intro f hf
  unfold detectSignalDropout at hf
  split at hf
  · cases hf
  · rcases mem_append.mp hf with hf | hf
    all_goals
      obtain ⟨p, _, rfl⟩ := List.mem_map.mp hf
      rfl

theorem signalDropout_nodup : ((detectSignalDropout db).map Finding.id).Nodup ↔
    (6 ≤ generationCount db.servicesHistory.rows → db.vanished.Nodup) := by
  rw [nodup_ids signalDropout_kind, detectSignalDropout]
  split
  case isTrue hfew =>
    exact iff_of_true nodup_nil fun hmany => absurd hmany (by omega)
  case isFalse hmany =>
    refine Iff.trans (b := db.vanished.Nodup) (Iff.of_eq ?_) ⟨fun h _ => h, fun h => h (by omega)⟩
    rw [map_append, map_map, map_map, Db.vanished]
    nth_rewrite 2 [← map_id db.vanishedServices]
    rfl

/-! ## Silent witnesses -/

section

variable {arith : Arith} {now kind : String} {ws : List WitnessRow}

/-- A silent witness gives two findings, on itself. -/
theorem witnessPair_id {w : WitnessRow} {f : Finding}
    (h : f ∈ [witnessSilent arith now kind w, pairedNodeUnobservable kind w]) :
    f.id = ⟨w.host, kind, w.witnessId⟩ ∨ f.id = ⟨w.host, "node_unobservable", w.witnessId⟩ := by
  rcases mem_cons.mp h with rfl | h
  · exact .inl rfl
  · rw [mem_singleton.mp h]
    exact .inr rfl

theorem witnessPairs_distinct (hn : (ws.map WitnessRow.host).Nodup) (hkind : kind ≠ "node_unobservable")
    (hfamily : familyOf kind = "witness_silent") :
    Distinct "witness_silent" (ws.flatMap fun w =>
      [witnessSilent arith now kind w, pairedNodeUnobservable kind w]) := by
  refine distinct_flatMap FindingId.host hn ?_
  intro w _
  constructor
  · simp [Finding.id, witnessSilent, pairedNodeUnobservable, hkind]
  · intro f hf
    rcases witnessPair_id hf with hid | hid <;> rw [hid]
    · exact ⟨rfl, hfamily⟩
    · exact ⟨rfl, rfl⟩

theorem mem_witnessPairs {k : FindingId} :
    k ∈ (ws.flatMap fun w => [witnessSilent arith now kind w, pairedNodeUnobservable kind w]).map Finding.id ↔
      ∃ w ∈ ws, k = ⟨w.host, kind, w.witnessId⟩ ∨ k = ⟨w.host, "node_unobservable", w.witnessId⟩ := by
  constructor
  · intro hk
    obtain ⟨f, hf, rfl⟩ := List.mem_map.mp hk
    obtain ⟨w, hw, hf⟩ := mem_flatMap.mp hf
    exact ⟨w, hw, witnessPair_id hf⟩
  · rintro ⟨w, hw, hk⟩
    rw [map_flatMap, mem_flatMap]
    refine ⟨w, hw, ?_⟩
    rcases hk with rfl | rfl <;> simp [Finding.id, witnessSilent, pairedNodeUnobservable]

end

def witnessSilents (env : Env) (db : Db) : List Finding :=
  detectZfsWitnessSilent env db ++ detectSmartWitnessSilent env db

theorem zfsWitnessSilent_distinct : Distinct "witness_silent" (detectZfsWitnessSilent env db) :=
  witnessPairs_distinct (nodup_filter db.zfsWitnessCurrent.nodup) (by decide) (by decide)

theorem smartWitnessSilent_distinct : Distinct "witness_silent" (detectSmartWitnessSilent env db) :=
  witnessPairs_distinct (nodup_filter db.smartWitnessCurrent.nodup) (by decide) (by decide)

theorem witnessSilents_family : ∀ f ∈ witnessSilents env db, f.id.family = "witness_silent" := by
  intro f hf
  rcases mem_append.mp hf with hf | hf
  · exact zfsWitnessSilent_distinct.family f hf
  · exact smartWitnessSilent_distinct.family f hf

theorem witnessSilents_nodup : ((witnessSilents env db).map Finding.id).Nodup ↔
    ∀ z ∈ db.silentZfsWitnesses env, ∀ s ∈ db.silentSmartWitnesses env, z.host = s.host →
      z.witnessId ≠ s.witnessId := by
  rw [witnessSilents, map_append, nodup_append']
  constructor
  · rintro ⟨_, _, hdisjoint⟩ z hz s hs hhost hid
    refine @hdisjoint ⟨z.host, "node_unobservable", z.witnessId⟩ ?_ ?_
    · exact mem_witnessPairs.mpr ⟨z, hz, .inr rfl⟩
    · exact mem_witnessPairs.mpr ⟨s, hs, .inr (by rw [hhost, hid])⟩
  · intro h
    refine ⟨zfsWitnessSilent_distinct.nodup, smartWitnessSilent_distinct.nodup, ?_⟩
    intro k hk hk'
    obtain ⟨z, hz, hkz⟩ := mem_witnessPairs.mp hk
    obtain ⟨s, hs, hks⟩ := mem_witnessPairs.mp hk'
    have hhost : z.host = s.host := by
      rcases hkz with rfl | rfl <;> rcases hks with he | he <;> exact congrArg FindingId.host he
    have hid : z.witnessId = s.witnessId := by
      rcases hkz with rfl | rfl <;> rcases hks with he | he <;> exact congrArg FindingId.subject he
    exact h z hz s hs hhost hid

/-! ## Declaration hygiene -/

variable {rfc3339 : String → Except String Int} {arith : Arith} {now : Int} {outcome : LoadOutcome}

/-- At most one finding of each of three kinds, each under the declaration's id. -/
theorem declarationHygiene_distinct :
    ((declarationHygiene rfc3339 arith db now d).map Finding.id).Nodup ∧
      ∀ f ∈ declarationHygiene rfc3339 arith db now d, f.subject = d.declarationId ∧
        f.kind ∈ ["declaration_expired", "persistent_declaration_without_review", "withdrawn_subject_active"] := by
  unfold declarationHygiene
  split
  · exact ⟨nodup_nil, fun f hf => (nomatch hf)⟩
  · split <;> split <;> split <;>
      simp [Finding.id, expiredFinding, persistentNoReviewFinding, withdrawnActiveFinding]

theorem declarationHygiene_family : ∀ f ∈ declarationHygiene rfc3339 arith db now d, f.id.family = "hygiene" := by
  intro f hf
  have hall : ∀ k ∈ ["declaration_expired", "persistent_declaration_without_review", "withdrawn_subject_active"],
      familyOf k = "hygiene" := by decide
  exact hall f.kind ((declarationHygiene_distinct d).2 f hf).2

theorem validHygiene_distinct (hn : (outcome.valid.map Declaration.declarationId).Nodup) :
    Distinct "hygiene" (outcome.valid.flatMap (declarationHygiene rfc3339 arith db now)) := by
  refine distinct_flatMap FindingId.subject hn ?_
  intro d _
  obtain ⟨hd, hall⟩ := declarationHygiene_distinct d
  exact ⟨hd, fun f hf => ⟨(hall f hf).1, declarationHygiene_family d f hf⟩⟩

theorem unreadable_kind : ∀ f ∈ outcome.rejected.map unreadableFinding, f.kind = "declarations_file_unreadable" := by
  intro f hf
  obtain ⟨subject, _, rfl⟩ := List.mem_map.mp hf
  rfl

theorem unreadable_nodup : ((outcome.rejected.map unreadableFinding).map Finding.id).Nodup ↔
    outcome.rejected.Nodup := by
  rw [nodup_ids unreadable_kind, map_map]
  refine nodup_map_iff ?_
  intro s s' he
  exact congrArg Prod.snd he

theorem hygiene_family : ∀ f ∈ runHygiene rfc3339 arith db now outcome, f.id.family = "hygiene" := by
  intro f hf
  rcases mem_append.mp hf with hf | hf
  · obtain ⟨subject, _, rfl⟩ := List.mem_map.mp hf
    rfl
  · obtain ⟨d, _, hf⟩ := mem_flatMap.mp hf
    exact declarationHygiene_family d f hf

theorem hygiene_nodup (hn : (outcome.valid.map Declaration.declarationId).Nodup) :
    ((runHygiene rfc3339 arith db now outcome).map Finding.id).Nodup ↔ outcome.rejected.Nodup := by
  rw [runHygiene, map_append, nodup_append', unreadable_nodup]
  refine ⟨And.left, fun h => ⟨h, (validHygiene_distinct hn).nodup, ?_⟩⟩
  intro k hk hk'
  obtain ⟨f, hf, rfl⟩ := List.mem_map.mp hk
  obtain ⟨f', hf', he⟩ := List.mem_map.mp hk'
  obtain ⟨d, _, hf'⟩ := mem_flatMap.mp hf'
  have hkind : f'.kind = "declarations_file_unreadable" := (congrArg FindingId.kind he).trans (unreadable_kind f hf)
  have hmem := ((declarationHygiene_distinct d).2 f' hf').2
  rw [hkind] at hmem
  exact absurd hmem (by decide)

/-! ## All findings of a cycle -/

/-- What a detector gave, by family; the two witness detectors share one. -/
def families (env : Env) (config : DetectorConfig) (db : Db) (hygiene : List Finding) : List (String × List Finding) :=
  [("wal_bloat", (detectWalBloat env config db).toOption.getD []),
   ("pinned_wal", detectPinnedWal env config db),
   ("freelist_bloat", detectFreelistBloat env config db),
   ("stale_host", (detectStaleHosts env config db).toOption.getD []),
   ("stale_service", (detectStaleServices env config db).toOption.getD []),
   ("service_status", detectServiceStatus env db),
   ("source_error", detectSourceErrors db),
   ("metric_signal", detectMetricNan db),
   ("disk_pressure", (detectDiskPressure env db).toOption.getD []),
   ("mem_pressure", (detectMemoryPressure env db).toOption.getD []),
   ("resource_drift", detectResourceDrift env db),
   ("service_flap", detectServiceFlap env db),
   ("signal_dropout", detectSignalDropout db),
   ("scrape_regime_shift", detectScrapeRegimeShift env db),
   ("log_silence", detectLogSilence env db),
   ("error_shift", detectErrorShift env db),
   ("zfs_pool_degraded", detectZfsPoolDegraded env db),
   ("zfs_pool_suspended", detectZfsPoolSuspended env db),
   ("zfs_pool_capacity_pressure", detectZfsPoolCapacityPressure env db),
   ("zfs_pool_health_changed", detectZfsPoolHealthChanged env db),
   ("zfs_spare_activated", detectZfsSpareActivated db),
   ("zfs_vdev_faulted", detectZfsVdevFaulted env db),
   ("zfs_error_count_increased", detectZfsErrorCountIncreased env db),
   ("zfs_scrub_overdue", detectZfsScrubOverdue env db),
   ("witness_silent", witnessSilents env db),
   ("smart_status_lies", detectSmartStatusLies env db),
   ("smart_uncorrected_errors_nonzero", detectSmartUncorrectedErrorsNonzero env db),
   ("smart_nvme_percentage_used", detectSmartNvmePercentageUsed env db),
   ("smart_nvme_available_spare_low", detectSmartNvmeAvailableSpareLow env db),
   ("smart_nvme_critical_warning_set", detectSmartNvmeCriticalWarningSet env db),
   ("smart_reallocated_sectors_rising", detectSmartReallocatedSectorsRising env db),
   ("smart_temperature_high", detectSmartTemperatureHigh env db),
   ("saved_checks", runSavedChecks env db),
   ("hygiene", hygiene)]

theorem nodup_families : ((families env config db hygiene).map Prod.fst).Nodup := by
  simp only [families, map_cons, map_nil]
  decide

/-- The SMART witnesses move up to the ZFS ones; nothing else changes place. -/
theorem runAll_perm (h : runAll env config db = .ok fs) :
    (fs ++ hygiene).Perm ((families env config db hygiene).flatMap Prod.snd) := by
  obtain ⟨_, rfl⟩ := Sql.collect_ok h
  simp only [detectors, families, flatMap_cons, flatMap_nil, append_nil, append_assoc, id,
    Except.toOption, Option.getD_some, witnessSilents]
  iterate 25 refine List.Perm.append_left _ ?_
  exact ((perm_append_comm_assoc _ _ _).append_left _).trans (perm_append_comm_assoc _ _ _)

/-- A detector that did not fail is distinct as its own lemma says. -/
theorem distinct_getD {family : String} {out : Except DetectError (List Finding)} (hok : ∃ xs, out = .ok xs)
    (h : ∀ xs, out = .ok xs → Distinct family xs) : Distinct family (out.toOption.getD []) := by
  obtain ⟨xs, rfl⟩ := hok
  exact h xs rfl

/-- The four ways in which two findings of a cycle can carry one identity. -/
structure Collisionless (env : Env) (db : Db) (outcome : LoadOutcome) : Prop where
  metrics : (db.nonFiniteSamples.map metricPlace).Nodup
  dropouts : 6 ≤ generationCount db.servicesHistory.rows → db.vanished.Nodup
  witnesses : ∀ z ∈ db.silentZfsWitnesses env, ∀ s ∈ db.silentSmartWitnesses env, z.host = s.host →
    z.witnessId ≠ s.witnessId
  rejected : outcome.rejected.Nodup

/-- The families whose subject is no key. -/
def shared (env : Env) (db : Db) (hygiene : List Finding) : List (String × List Finding) :=
  [("metric_signal", detectMetricNan db), ("signal_dropout", detectSignalDropout db),
   ("witness_silent", witnessSilents env db), ("hygiene", hygiene)]

theorem families_distinct (h : runAll env config db = .ok fs) :
    ∀ g ∈ families env config db hygiene, g ∈ shared env db hygiene ∨ Distinct g.1 g.2 := by
  obtain ⟨hall, _⟩ := Sql.collect_ok h
  have hwal := distinct_getD (hall (detectWalBloat env config db) (by simp [detectors])) fun _ => walBloat_distinct
  have hhosts := distinct_getD (hall (detectStaleHosts env config db) (by simp [detectors])) fun _ =>
    staleHosts_distinct
  have hservices := distinct_getD (hall (detectStaleServices env config db) (by simp [detectors]))
    fun _ => staleServices_distinct
  have hdisk := distinct_getD (hall (detectDiskPressure env db) (by simp [detectors])) fun _ => diskPressure_distinct
  have hmem := distinct_getD (hall (detectMemoryPressure env db) (by simp [detectors])) fun _ => memoryPressure_distinct
  simp only [families, forall_mem_cons]
  refine ⟨.inr hwal, .inr pinnedWal_distinct, .inr freelistBloat_distinct, .inr hhosts, .inr hservices,
    .inr serviceStatus_distinct, .inr sourceErrors_distinct, .inl (by simp [shared]), .inr hdisk, .inr hmem,
    .inr resourceDrift_distinct, .inr serviceFlap_distinct, .inl (by simp [shared]), .inr scrapeRegimeShift_distinct,
    .inr logSilence_distinct, .inr errorShift_distinct, .inr (zfsPoolsIn_distinct (by decide)),
    .inr (zfsPoolsIn_distinct (by decide)), .inr zfsPoolCapacityPressure_distinct,
    .inr zfsPoolHealthChanged_distinct, .inr zfsSpareActivated_distinct, .inr zfsVdevFaulted_distinct,
    .inr zfsErrorCountIncreased_distinct, .inr zfsScrubOverdue_distinct, .inl (by simp [shared]),
    .inr smartStatusLies_distinct, .inr smartUncorrectedErrorsNonzero_distinct,
    .inr (nvmeLevel_distinct (by decide)), .inr (nvmeLevel_distinct (by decide)),
    .inr (nvmeLevel_distinct (by decide)), .inr smartReallocatedSectorsRising_distinct,
    .inr smartTemperatureHigh_distinct, .inr savedChecks_distinct, .inl (by simp [shared]), ?_⟩
  intro g hg
  cases hg

theorem mem_shared {g : String × List Finding} : g ∈ shared env db hygiene ↔
    g = ("metric_signal", detectMetricNan db) ∨ g = ("signal_dropout", detectSignalDropout db) ∨
      g = ("witness_silent", witnessSilents env db) ∨ g = ("hygiene", hygiene) := by
  simp [shared]

theorem shared_subset : shared env db hygiene ⊆ families env config db hygiene := by
  intro g hg
  rcases mem_shared.mp hg with rfl | rfl | rfl | rfl <;> simp [families]

/-- The family of a finding is that of the detector it came from. -/
theorem families_tagged (h : runAll env config db = .ok fs) (hh : ∀ f ∈ hygiene, f.id.family = "hygiene") :
    ∀ g ∈ families env config db hygiene, ∀ f ∈ g.2, f.id.family = g.1 := by
  intro g hg f hf
  rcases families_distinct h g hg with hs | hd
  · rcases mem_shared.mp hs with rfl | rfl | rfl | rfl
    · exact congrArg familyOf (metricNan_kind f hf)
    · exact congrArg familyOf (signalDropout_kind f hf)
    · exact witnessSilents_family f hf
    · exact hh f hf
  · exact hd.family f hf

/-- A cycle's findings are distinct exactly when none of the four ways collides. -/
theorem findings_distinct_iff (h : runAll env config db = .ok fs)
    (hn : (outcome.valid.map Declaration.declarationId).Nodup) :
    ((fs ++ runHygiene rfc3339 arith db now outcome).map Finding.id).Nodup ↔ Collisionless env db outcome := by
  rw [((runAll_perm h).map Finding.id).nodup_iff, Sql.nodup_tagged nodup_families (families_tagged h hygiene_family)]
  constructor
  · intro hall
    have hshared := fun g hg => hall g (shared_subset hg)
    have hmetrics := hshared _ (mem_shared.mpr (.inl rfl))
    have hdropouts := hshared _ (mem_shared.mpr (.inr (.inl rfl)))
    have hwitnesses := hshared _ (mem_shared.mpr (.inr (.inr (.inl rfl))))
    have hhygiene := hshared _ (mem_shared.mpr (.inr (.inr (.inr rfl))))
    exact ⟨metricNan_nodup.mp hmetrics, signalDropout_nodup.mp hdropouts, witnessSilents_nodup.mp hwitnesses,
      (hygiene_nodup hn).mp hhygiene⟩
  · intro hc g hg
    rcases families_distinct h g hg with hs | hd
    · rcases mem_shared.mp hs with rfl | rfl | rfl | rfl
      · exact metricNan_nodup.mpr hc.metrics
      · exact signalDropout_nodup.mpr hc.dropouts
      · exact witnessSilents_nodup.mpr hc.witnesses
      · exact (hygiene_nodup hn).mpr hc.rejected
    · exact hd.nodup

/-- No detector gives a finding derived from another. -/
theorem kind_ne_misleading (h : runAll env config db = .ok fs) (hh : ∀ f ∈ hygiene, f.id.family = "hygiene")
    (hf : f ∈ fs ++ hygiene) : f.kind ≠ "health_claim_misleading" := by
  intro hk
  obtain ⟨g, hg, hfg⟩ := mem_flatMap.mp ((runAll_perm h).mem_iff.mp hf)
  have hfamily := (families_tagged h hh g hg f hfg).symm.trans (congrArg familyOf hk)
  have hmem := mem_map_of_mem (f := Prod.fst) hg
  rw [hfamily] at hmem
  simp only [families, map_cons, map_nil] at hmem
  exact absurd hmem (by decide)

/-! ## A cycle -/

/-- In a served database, a cycle's findings are distinct and its lifecycle update commits
    exactly when nothing collides. -/
theorem cycle_commits_iff_collisionless {db₁ : Db} {b : Batch} {res : PublishResult} (hs : Served rfc3339 db)
    (hp : publishBatch db b = .ok (db₁, res)) (hd : runAll env config db₁ = .ok fs)
    (file : FileRead) (loadedAt now : Int)
    (clock : Clock) (escalation : EscalationConfig) :
    (((fs ++ runHygiene rfc3339 env.arith db₁ now (loadDeclarations rfc3339 file)).map Finding.id).Nodup ∧
      ∃ db₂, updateWarningStateWithDeclarations clock db₁ res.generationId
        (fs ++ runHygiene rfc3339 env.arith db₁ now (loadDeclarations rfc3339 file)) escalation
        (activeDeclarations rfc3339 (loadDeclarations rfc3339 file) loadedAt) = .ok db₂) ↔
      Collisionless env db₁ (loadDeclarations rfc3339 file) := by
  rw [← findings_distinct_iff hd (nodup_valid file)]
  refine ⟨And.left, fun hn => ⟨hn, ?_⟩⟩
  let u : UpdateCall :=
    { generationId := res.generationId
      findings := fs ++ runHygiene rfc3339 env.arith db₁ now (loadDeclarations rfc3339 file)
      escalation, clock, active := activeDeclarations rfc3339 (loadDeclarations rfc3339 file) loadedAt }
  have hemitted : u.emitted db₁ = u.findings :=
    emitted_eq_findings (fun f hf => kind_ne_misleading hd hygiene_family hf) db₁
  obtain ⟨hgeneration, hunrecorded⟩ := publish_unrecorded (served_known hs) (publishBatch_published hp)
  refine (run_ok (u := u)).mpr ⟨rfl, fun _ _ => hgeneration, ?_, fun f _ => hunrecorded f.key⟩
  rw [UpdateCall.emittedIds, hemitted]
  exact hn

end

/-! ## Cycles -/

/-- A host with a service down. -/
def downBatch : Batch := { serviceSets := [⟨"db-1", "", [{ service := "api", status := .down }]⟩] }

def entry (id : String) (evidenceRefs : List String) : Declaration :=
  { declarationId := id, subjectKind := .host, subjectId := "db-1", mode := .quiesced, durability := .transient
    reasonClass := "maintenance", declaredBy := "ops", declaredAt := "2026-01-01T00:00:00Z", evidenceRefs }

/-- The findings of a cycle with this declarations file. -/
def cycleFindings (db : Db) (fs : List Finding) (file : FileRead) : List Finding :=
  fs ++ runHygiene (fun _ => .ok 0) exactArith db 0 (loadDeclarations (fun _ => .ok 0) file)

def cycleUpdate (db : Db) (g : Int) (fs : List Finding) (file : FileRead) : Except DbError Db :=
  updateWarningStateWithDeclarations ⟨"", ""⟩ db g (cycleFindings db fs file) {}
    (activeDeclarations (fun _ => .ok 0) (loadDeclarations (fun _ => .ok 0) file) 0)

/-- Two entries under one id, neither with evidence: the file is reported twice under that
    id, and the outage of the service is not recorded either. -/
theorem one_id_rejected_twice_rolls_back : ∃ db₁ res fs, Served (fun _ => .ok 0) Db.init ∧
    publishBatch Db.init downBatch = .ok (db₁, res) ∧ runAll exactEnv {} db₁ = .ok fs ∧
    ⟨"db-1", "service_status", "api"⟩ ∈ fs.map Finding.id ∧
    ¬((cycleFindings db₁ fs (.parsed [entry "d-1" [], entry "d-1" []])).map Finding.id).Nodup ∧
    ∀ db₂, cycleUpdate db₁ res.generationId fs (.parsed [entry "d-1" [], entry "d-1" []]) ≠ .ok db₂ := by
  have h : ((publishBatch Db.init downBatch).toOption.bind fun p => (runAll exactEnv {} p.1).toOption.map fun fs =>
      (decide (⟨"db-1", "service_status", "api"⟩ ∈ fs.map Finding.id),
        decide ((cycleFindings p.1 fs (.parsed [entry "d-1" [], entry "d-1" []])).map Finding.id).Nodup,
        (cycleUpdate p.1 p.2.generationId fs (.parsed [entry "d-1" [], entry "d-1" []])).toOption.isSome)) =
      some (true, false, false) := by
    decide +kernel
  obtain ⟨⟨db₁, res⟩, hp, h⟩ := Option.bind_eq_some_iff.mp h
  obtain ⟨fs, hfs, h⟩ := Sql.ok_of_toOption h
  simp only [Prod.mk.injEq, decide_eq_true_eq, decide_eq_false_iff_not] at h
  obtain ⟨hservice, hn, hfail⟩ := h
  refine ⟨db₁, res, fs, .init _ _, Sql.toOption_eq_some.mp hp, hfs, hservice, hn, ?_⟩
  intro db₂ hok
  rw [hok] at hfail
  cases hfail

/-- With an id of its own for each entry the cycle commits. -/
theorem rejected_entry_commits : ∃ db₁ res fs, publishBatch Db.init downBatch = .ok (db₁, res) ∧
    runAll exactEnv {} db₁ = .ok fs ∧
    ((cycleFindings db₁ fs (.parsed [entry "d-1" [], entry "d-2" ["runbook"]])).map Finding.id).Nodup ∧
    ∃ db₂, cycleUpdate db₁ res.generationId fs (.parsed [entry "d-1" [], entry "d-2" ["runbook"]]) = .ok db₂ := by
  have h : ((publishBatch Db.init downBatch).toOption.bind fun p => (runAll exactEnv {} p.1).toOption.map fun _ =>
      (decide ((p.1.nonFiniteSamples.map metricPlace).Nodup), decide (generationCount p.1.servicesHistory.rows < 6),
        (p.1.silentZfsWitnesses exactEnv).length)) = some (true, true, 0) := by
    decide +kernel
  obtain ⟨⟨db₁, res⟩, hp, h⟩ := Option.bind_eq_some_iff.mp h
  obtain ⟨fs, hfs, h⟩ := Sql.ok_of_toOption h
  simp only [Prod.mk.injEq, decide_eq_true_eq, length_eq_zero_iff] at h
  obtain ⟨hmetrics, hfew, hnone⟩ := h
  refine ⟨db₁, res, fs, Sql.toOption_eq_some.mp hp, hfs, ?_⟩
  refine (cycle_commits_iff_collisionless (.init ⟨.empty, nodup_nil⟩ .empty) (Sql.toOption_eq_some.mp hp) hfs _ 0 0
    ⟨"", ""⟩ {}).mpr ⟨hmetrics, fun hmany => absurd hmany (by omega), ?_, ?_⟩
  · intro z hz
    rw [hnone] at hz
    cases hz
  · decide +kernel

end Nq
