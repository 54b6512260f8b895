/-
  Nq.Store.Accepts — which reports the publish transaction accepts.

  One refused statement refuses the whole report, every other host's rows with it. On the
  store of a running monitor the generation of a report is new to every history, so a
  report with one entry a host is accepted exactly when it is admissible
  (`publishReport_commits`).
-/

import Nq.Store.Admissible
import Nq.Store.Runs

namespace Nq

open List
open Sql (Table Commits)

/-! ## Runs and observations -/

variable {g : Int} {sets : List (HostSet ServiceReport)} {r : Report} {s : Store} {db : Db}

theorem serviceObservationRows_check :
    (serviceObservationRows g sets).all ServiceObservationRow.check = true ↔
      ∀ e ∈ sets, ∀ r ∈ e.rows, r.managerKnown = true := by
  simp only [all_eq_true, serviceObservationRows, mem_flatMap, mem_filterMap]
  constructor
  · intro h e he r hr
    unfold ServiceReport.managerKnown
    cases ha : r.activeState with
    | none => rfl
    | some active =>
      have hcheck := h _ ⟨e, he, r, hr, by unfold ServiceReport.observation; rw [ha]; rfl⟩
      exact hcheck
  · intro h o ho
    obtain ⟨e, he, r, hr, ho⟩ := ho
    have hknown := h e he r hr
    unfold ServiceReport.managerKnown at hknown
    obtain ⟨active, ha, e'⟩ := Option.map_eq_some_iff.mp ho
    rw [ha] at hknown
    rw [← e']
    exact hknown

/-- What is kept of a list, read by what it was before. -/
theorem map_filterMap_sublist {α β γ : Type} {f : α → Option β} {k : β → γ} {h : α → γ}
    (hk : ∀ a b, f a = some b → k b = h a) : ∀ as : List α, ((as.filterMap f).map k).Sublist (as.map h) := by
  intro as
  induction as with
  | nil => exact .slnil
  | cons a as ih =>
    rw [filterMap_cons, map_cons]
    cases ha : f a with
    | none => exact ih.cons _
    | some b =>
      rw [map_cons, hk a b ha]
      exact ih.cons_cons _

/-- One observation for each service of a host. -/
theorem nodup_serviceObservations (hosts : (sets.map HostSet.host).Nodup)
    (names : ∀ e ∈ sets, (e.rows.map (·.service)).Nodup) :
    ((serviceObservationRows g sets).map ServiceObservationRow.pk).Nodup := by
  unfold serviceObservationRows
  rw [map_flatMap]
  refine Sql.nodup_flatMap_owned (fun k => k.2.1) ?_ hosts ?_
  · intro e k hk
    obtain ⟨o, ho, ek⟩ := List.mem_map.mp hk
    obtain ⟨r, _, ho⟩ := mem_filterMap.mp ho
    obtain ⟨_, _, eo⟩ := Option.map_eq_some_iff.mp ho
    rw [← ek, ← eo]
    rfl
  · intro e he
    refine List.Nodup.of_map (fun k => k.2.2.2) ?_
    rw [map_map]
    refine (map_filterMap_sublist ?_ e.rows).nodup (names e he)
    intro r o ho
    obtain ⟨_, _, eo⟩ := Option.map_eq_some_iff.mp ho
    rw [← eo]
    rfl

theorem publishRuns_commits (hd : r.Distinct) (names : ∀ e ∈ r.serviceSets, (e.rows.map (·.service)).Nodup)
    (hruns : ∀ x ∈ s.collectorRuns.rows, x.generationId ≠ g)
    (hobservations : ∀ x ∈ s.serviceObservations.rows, x.generationId ≠ g) :
    Commits (publishRuns g s r) ↔ (∀ e ∈ r.serviceSets, ∀ x ∈ e.rows, x.managerKnown = true) ∧
      (∀ e ∈ r.walObservationSets, ∀ o ∈ e.rows, o.check = true) ∧
        ∀ b ∈ r.nqBinaryObservationRows, b.data.check = true := by
  have hcollected : (s.collectorRuns.insertAll (r.collectorRuns.map (CollectorRunRow.mk g))).isSome = true := by
    refine (Table.insertAll_new Prod.fst hruns ?_).mpr ?_
    · intro x hx
      obtain ⟨_, _, e⟩ := List.mem_map.mp hx
      rw [← e]
      rfl
    · have hkeys := hd.collectors.map (Prod.mk_right_injective g)
      rw [map_map] at hkeys ⊢
      exact hkeys
  have hservices : (s.serviceObservations.insertAll (serviceObservationRows g r.serviceSets)).isSome = true :=
    (Table.insertAll_new Prod.fst hobservations fun _ => generationId_serviceObservationRows).mpr
      (nodup_serviceObservations hd.services names)
  have hwal : (historyRows g r.walObservationSets).all (·.row.check) = true ↔
      ∀ e ∈ r.walObservationSets, ∀ o ∈ e.rows, o.check = true := by
    simp [historyRows, all_flatMap]
  have hbinaries : (r.nqBinaryObservationRows.map fun b => (⟨g, b.host, b.data⟩ : History NqBinaryObservation)).all
      (·.row.check) = true ↔ ∀ b ∈ r.nqBinaryObservationRows, b.data.check = true := by
    simp
  rw [← serviceObservationRows_check (g := g), ← hwal, ← hbinaries]
  constructor
  · intro h
    obtain ⟨_, _, h⟩ := Sql.commits_bind.mp h
    obtain ⟨_, hs, h⟩ := Sql.commits_bind.mp h
    obtain ⟨_, _, h⟩ := Sql.commits_bind.mp h
    obtain ⟨_, hw, h⟩ := Sql.commits_bind.mp h
    obtain ⟨_, hb, _⟩ := Sql.commits_bind.mp h
    exact ⟨(checked_ok.mp hs).1, (checked_ok.mp hw).1, (checked_ok.mp hb).1⟩
  · intro h
    obtain ⟨hs, hw, hb⟩ := h
    refine Sql.commits_bind_of (commits_unique.mpr hcollected) fun _ _ => ?_
    refine Sql.commits_bind_of (commits_checked.mpr hs) fun services hservices' => ?_
    rw [← (checked_ok.mp hservices').2]
    refine Sql.commits_bind_of (commits_unique.mpr hservices) fun _ _ => ?_
    refine Sql.commits_bind_of (commits_checked.mpr hw) fun _ _ => ?_
    exact Sql.commits_bind_of (commits_checked.mpr hb) fun _ _ => Sql.commits_pure _

/-! ## The core tables -/

theorem smartHistory_publishZfsWitness {db' : Db} {w : ZfsWitnessRow} (h : publishZfsWitness g db w = .ok db') :
    db'.smartReallocatedHistory = db.smartReallocatedHistory := by
  obtain ⟨t, _, h⟩ := Sql.bind_ok.mp h
  cases h
  rfl

/-- No row of a generation yet, in any history that the core tables keep. -/
structure HistoriesNew (g : Int) (db : Db) : Prop where
  sourceRuns : ∀ x ∈ db.sourceRuns.rows, x.generationId ≠ g
  hosts : ∀ x ∈ db.hostsHistory.rows, x.generationId ≠ g
  services : ∀ x ∈ db.servicesHistory.rows, x.generationId ≠ g
  logs : ∀ x ∈ db.logObservationsHistory.rows, x.generationId ≠ g
  zfsPools : ∀ host, Unwritten g host db.zfsPoolsHistory.rows
  zfsVdevErrors : ∀ host, Unwritten g host db.zfsVdevErrorsHistory.rows
  zfsSpares : ∀ host, Unwritten g host db.zfsSparesHistory.rows
  smart : ∀ host, Unwritten g host db.smartReallocatedHistory.rows

theorem historiesNew (h : g ∉ db.recorded) : HistoriesNew g db := by
  simp only [Db.recorded, mem_append, List.mem_map, not_or, not_exists, not_and] at h
  obtain ⟨⟨⟨⟨⟨⟨⟨⟨hsources, hhosts⟩, hservices⟩, _⟩, hlogs⟩, hpools⟩, hvdevs⟩, hspares⟩, hsmart⟩ := h
  have hunwritten : ∀ {α : Type} {rows : List (History α)}, (∀ x ∈ rows, x.generationId ≠ g) →
      ∀ host, Unwritten g host rows :=
    fun h _ x hx hg => absurd hg (h x hx)
  exact ⟨hsources, hhosts, hservices, hlogs, hunwritten hpools,
    hunwritten hvdevs, hunwritten hspares, hunwritten hsmart⟩

theorem zfsReports_commit (hd : r.Distinct) (hu : ∀ host, ZfsUnwritten g db host) :
    Commits (r.batch.zfsWitnessRows.foldlM (publishZfsWitness g) db) ↔
      ∀ w ∈ r.zfsWitnessRows, ZfsAdmissible w.observations := by
  have hosts : (r.batch.zfsWitnessRows.map ZfsWitnessRow.host).Nodup := by
    rw [Report.batch, map_map]
    exact hd.zfs
  rw [publishZfsWitnesses_commits hosts fun w _ => hu w.host, Report.batch, forall_mem_map]

theorem smartReports_commit (hd : r.Distinct) (hu : ∀ host, Unwritten g host db.smartReallocatedHistory.rows) :
    Commits (r.batch.smartWitnessRows.foldlM (publishSmartWitness g) db) ↔
      ∀ w ∈ r.smartWitnessRows, SmartAdmissible w.observations := by
  have hosts : (r.batch.smartWitnessRows.map SmartWitnessRow.host).Nodup := by
    rw [Report.batch, map_map]
    exact hd.smart
  rw [publishSmartWitnesses_commits hosts fun w _ => hu w.host, Report.batch, forall_mem_map]

theorem publishBatch_commits (hd : r.Distinct) (hnew : HistoriesNew db.generations.nextRowid db) :
    Commits (publishBatch db r.batch) ↔
      (∀ e ∈ r.serviceSets, (e.rows.map (·.service)).Nodup) ∧
        (∀ e ∈ r.sqliteDbSets, (e.rows.map SqliteDbRow.dbPath).Nodup) ∧
      (∀ e ∈ r.metricSets, SamplesAdmissible e.rows) ∧ (∀ e ∈ r.logSets, (e.rows.map LogObsRow.sourceId).Nodup) ∧
      (∀ w ∈ r.zfsWitnessRows, ZfsAdmissible w.observations) ∧
        ∀ w ∈ r.smartWitnessRows, SmartAdmissible w.observations := by
  have hnames : (∀ e ∈ r.batch.serviceSets, (e.rows.map ServiceRow.service).Nodup) ↔
      ∀ e ∈ r.serviceSets, (e.rows.map (·.service)).Nodup := by
    simp [Report.batch, HostSet.map, Function.comp_def]
  have hstored : (∀ e ∈ r.batch.serviceSets.map (·.map ServiceRow.stored), (e.rows.map ServiceRow.service).Nodup) ↔
      ∀ e ∈ r.serviceSets, (e.rows.map (·.service)).Nodup := by
    rw [← hnames]
    simp [HostSet.map, ServiceRow.stored, Function.comp_def]
  have hpaths : (∀ e ∈ r.sqliteDbSets.map (·.map SqliteDbRow.stored), (e.rows.map SqliteDbRow.dbPath).Nodup) ↔
      ∀ e ∈ r.sqliteDbSets, (e.rows.map SqliteDbRow.dbPath).Nodup := by
    simp [HostSet.map, SqliteDbRow.stored, Function.comp_def]
  have hserviceHosts : (r.batch.serviceSets.map HostSet.host).Nodup := by
    rw [Report.batch, map_map]
    exact hd.services
  constructor
  · intro h
    obtain ⟨_, h⟩ := h
    unfold publishBatch at h
    obtain ⟨_, _, h⟩ := Sql.bind_ok.mp h
    obtain ⟨_, _, h⟩ := Sql.bind_ok.mp h
    obtain ⟨_, hservices, h⟩ := Sql.bind_ok.mp h
    obtain ⟨_, _, h⟩ := Sql.bind_ok.mp h
    obtain ⟨_, hdbs, h⟩ := Sql.bind_ok.mp h
    obtain ⟨_, hmetrics, h⟩ := Sql.bind_ok.mp h
    obtain ⟨_, hlogs, h⟩ := Sql.bind_ok.mp h
    obtain ⟨_, _, h⟩ := Sql.bind_ok.mp h
    obtain ⟨db₁, hzfs, h⟩ := Sql.bind_ok.mp h
    obtain ⟨_, hsmart, _⟩ := Sql.bind_ok.mp h
    refine ⟨hstored.mp (replaceSets_commits.mp ⟨_, hservices⟩), hpaths.mp (replaceSets_commits.mp ⟨_, hdbs⟩),
      publishMetricSets_commits.mp ⟨_, hmetrics⟩, replaceSets_commits.mp ⟨_, hlogs⟩,
      (zfsReports_commit hd ?_).mp ⟨_, hzfs⟩, (smartReports_commit hd ?_).mp ⟨_, hsmart⟩⟩
    · exact fun host => ⟨hnew.zfsPools host, hnew.zfsVdevErrors host, hnew.zfsSpares host⟩
    · rw [Sql.foldlM_keeps (fun _ _ _ => smartHistory_publishZfsWitness) hzfs]
      exact hnew.smart
  · intro h
    obtain ⟨hservices, hdbs, hmetrics, hlogs, hzfs, hsmart⟩ := h
    unfold publishBatch
    refine Sql.commits_bind_of (commits_unique.mpr ?_) fun _ _ => ?_
    · refine (Table.insertAll_new Prod.fst hnew.sourceRuns ?_).mpr ?_
      · intro x hx
        obtain ⟨_, _, e⟩ := List.mem_map.mp hx
        rw [← e]
        rfl
      · have hkeys := hd.sources.map (Prod.mk_right_injective db.generations.nextRowid)
        rw [map_map] at hkeys ⊢
        exact hkeys
    refine Sql.commits_bind_of (commits_unique.mpr ?_) fun _ _ => ?_
    · refine (Table.insertAll_new Prod.fst hnew.hosts ?_).mpr ?_
      · intro x hx
        obtain ⟨_, _, e⟩ := List.mem_map.mp hx
        rw [← e]
      · have hkeys := hd.hosts.map (Prod.mk_right_injective db.generations.nextRowid)
        rw [map_map] at hkeys ⊢
        exact hkeys
    refine Sql.commits_bind_of (replaceSets_commits.mpr (hstored.mpr hservices)) fun _ _ => ?_
    refine Sql.commits_bind_of
      (commits_unique.mpr (historyRows_insertAll hnew.services hserviceHosts (hnames.mpr hservices))) fun _ _ => ?_
    refine Sql.commits_bind_of (replaceSets_commits.mpr (hpaths.mpr hdbs)) fun _ _ => ?_
    refine Sql.commits_bind_of (publishMetricSets_commits.mpr hmetrics) fun _ _ => ?_
    refine Sql.commits_bind_of (replaceSets_commits.mpr hlogs) fun _ _ => ?_
    refine Sql.commits_bind_of (commits_unique.mpr (historyRows_insertAll hnew.logs hd.logs hlogs)) fun _ _ => ?_
    refine Sql.commits_bind_of ((zfsReports_commit hd ?_).mpr hzfs) fun db₁ hzfs => ?_
    · exact fun host => ⟨hnew.zfsPools host, hnew.zfsVdevErrors host, hnew.zfsSpares host⟩
    refine Sql.commits_bind_of ((smartReports_commit hd ?_).mpr hsmart) fun _ _ => Sql.commits_pure _
    rw [Sql.foldlM_keeps (fun _ _ _ => smartHistory_publishZfsWitness) hzfs]
    exact hnew.smart

/-! ## The whole report -/

variable {rfc3339 : String → Except String Int}

/-- The generation a sound store gives to the next report names no row of any history. -/
theorem nextRowid_new (hs : s.Sound rfc3339) :
    HistoriesNew s.core.generations.nextRowid s.core ∧
      (∀ x ∈ s.collectorRuns.rows, x.generationId ≠ s.core.generations.nextRowid) ∧
      ∀ x ∈ s.serviceObservations.rows, x.generationId ≠ s.core.generations.nextRowid := by
  have hfree : s.core.generations.nextRowid ∉ s.generationIds := by
    rw [mem_generationIds, Table.get_nextRowid]
    decide
  refine ⟨historiesNew fun hmem => ?_, fun x hx e => hfree (hs.extras _ ?_), fun x hx e => hfree (hs.extras _ ?_)⟩
  · exact hfree (mem_generationIds.mpr (served_linked hs.served _ hmem))
  · have hmem := mem_map_of_mem (f := CollectorRunRow.generationId) hx
    rw [e] at hmem
    simp only [Store.extras, mem_append, hmem, true_or]
  · have hmem := mem_map_of_mem (f := ServiceObservationRow.generationId) hx
    rw [e] at hmem
    simp only [Store.extras, mem_append, hmem, true_or, or_true]

/-- A report with one entry a host is accepted exactly when it is admissible. -/
theorem publishReport_commits (hk : Kept rfc3339 s) (hd : r.Distinct) : Commits (publishReport s r) ↔ r.Admissible := by
  obtain ⟨hnew, hruns, hobservations⟩ := nextRowid_new (kept_sound hk)
  constructor
  · intro h
    obtain ⟨⟨s', res⟩, h⟩ := h
    obtain ⟨core, s₁, s₂, s₃, h₀, h₁, h₂, h₃, h₄⟩ := publishReport_ok h
    have hg := (publishBatch_published h₀).fresh
    rw [hg] at h₁
    obtain ⟨hservices, hdbs, hmetrics, hlogs, hzfs, hsmart⟩ := (publishBatch_commits hd hnew).mp ⟨_, h₀⟩
    have hrest := publishRuns_commits (s := { s with core }) hd hservices hruns hobservations
    obtain ⟨hmanagers, hwal, hbinaries⟩ := hrest.mp ⟨_, h₁⟩
    have hgpu := publishGpuWitnesses_commits.mp ⟨_, h₄⟩
    exact ⟨fun e he => ⟨hservices e he, hmanagers e he⟩, hdbs, hmetrics, hlogs, hzfs, hsmart, hgpu, hwal, hbinaries⟩
  · intro h
    have hbatch := (publishBatch_commits hd hnew).mpr
      ⟨fun e he => (h.services e he).names, h.monitoredDbs, h.metrics, h.logs, h.zfs, h.smart⟩
    refine Sql.commits_bind_of hbatch fun out hout => ?_
    obtain ⟨core, res⟩ := out
    have hg := (publishBatch_published hout).fresh
    have hrest := (publishRuns_commits (s := { s with core }) hd (fun e he =>
      (h.services e he).names) hruns hobservations).mpr
      ⟨fun e he => (h.services e he).managers, h.wal, h.binaries⟩
    rw [← hg] at hrest
    refine Sql.commits_bind_of hrest fun s₁ _ => ?_
    refine Sql.commits_bind_of (publishZfsReports_commit.mpr fun w hw => (h.zfs w hw).spares) fun s₂ _ => ?_
    refine Sql.commits_bind_of publishSmartReports_commit fun s₃ _ => ?_
    exact Sql.commits_bind_of (publishGpuWitnesses_commits.mpr h.gpu) fun s₄ _ => Sql.commits_pure _

end Nq
