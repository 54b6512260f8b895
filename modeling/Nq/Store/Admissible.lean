/-
  Nq.Store.Admissible — what the statements of a publish transaction refuse.

  On top of a store that has no row of the generation yet, a statement can be refused only
  for what is in the report: two rows under one key in what one host reported, or a value a
  column does not take (`Report.Admissible`). One lemma for each loop says when it commits:
  `replaceSets_commits`, `publishMetricSets_commits`, `publishZfsWitnesses_commits`,
  `publishSmartWitnesses_commits`, `publishGpuWitnesses_commits`.
-/

import Nq.Sql.Commits
import Nq.Store.Replaced

namespace Nq

open List
open Sql (F64 Table Commits)

/-! ## What a host may report -/

/-- A native state is stored under its manager, `systemd` where none is named. -/
def ServiceReport.managerKnown (r : ServiceReport) : Bool :=
  r.activeState.isNone || r.serviceManager.getD "systemd" ∈ ["systemd", "docker", "process", "unknown"]

structure ServicesAdmissible (rows : List ServiceReport) : Prop where
  names : (rows.map (·.service)).Nodup
  managers : ∀ r ∈ rows, r.managerKnown = true

/-- One sample for each metric name and set of labels, and none of them NaN. -/
structure SamplesAdmissible (samples : List MetricRow) : Prop where
  identities : (samples.map MetricRow.identity).Nodup
  values : ∀ m ∈ samples, m.value ≠ .nan

structure ZfsAdmissible (observations : List ZfsObservation) : Prop where
  pools : ((observations.filterMap ZfsObservation.pool?).map ZfsPool.pool).Nodup
  vdevs : ((observations.filterMap ZfsObservation.vdev?).map ZfsVdev.subject).Nodup
  scans : ((observations.filterMap ZfsObservation.scan?).map ZfsScan.pool).Nodup
  spares : ((observations.filterMap ZfsObservation.spare?).map ZfsSpare.subject).Nodup

structure SmartAdmissible (observations : List SmartObservation) : Prop where
  subjects : ((observations.filterMap SmartObservation.device?).map SmartDevice.subject).Nodup
  checks : ∀ d ∈ observations.filterMap SmartObservation.device?, d.check = true

structure GpuAdmissible (observations : List GpuObservation) : Prop where
  subjects : ((observations.filterMap GpuObservation.device?).map GpuDevice.subject).Nodup
  checks : ∀ d ∈ observations.filterMap GpuObservation.device?, d.check = true

structure Report.Admissible (r : Report) : Prop where
  services : ∀ e ∈ r.serviceSets, ServicesAdmissible e.rows
  monitoredDbs : ∀ e ∈ r.sqliteDbSets, (e.rows.map SqliteDbRow.dbPath).Nodup
  metrics : ∀ e ∈ r.metricSets, SamplesAdmissible e.rows
  logs : ∀ e ∈ r.logSets, (e.rows.map LogObsRow.sourceId).Nodup
  zfs : ∀ w ∈ r.zfsWitnessRows, ZfsAdmissible w.observations
  smart : ∀ w ∈ r.smartWitnessRows, SmartAdmissible w.observations
  gpu : ∀ w ∈ r.gpuWitnessRows, GpuAdmissible w.observations
  wal : ∀ e ∈ r.walObservationSets, ∀ o ∈ e.rows, o.check = true
  binaries : ∀ b ∈ r.nqBinaryObservationRows, b.data.check = true

/-- One entry a host, and one run of each of its collectors. -/
structure Report.Distinct (r : Report) : Prop where
  sources : (r.sourceRuns.map SourceRun.source).Nodup
  collectors : (r.collectorRuns.map fun c => (c.source, c.collector)).Nodup
  hosts : (r.hostRows.map BatchHost.host).Nodup
  services : (r.serviceSets.map HostSet.host).Nodup
  logs : (r.logSets.map HostSet.host).Nodup
  zfs : (r.zfsWitnessRows.map (·.host)).Nodup
  smart : (r.smartWitnessRows.map (·.host)).Nodup

/-! ## Sets -/

theorem commits_unique {α : Type} {x : Option α} : Commits (unique x) ↔ x.isSome = true := by
  cases x with
  | none => exact ⟨fun ⟨_, h⟩ => (nomatch h), fun h => (nomatch h)⟩
  | some a => exact ⟨fun _ => rfl, fun _ => ⟨a, rfl⟩⟩

theorem commits_checked {ρ : Type} {check : ρ → Bool} {rows : List ρ} :
    Commits (checked check rows) ↔ rows.all check = true := by
  constructor
  · intro h
    obtain ⟨_, h⟩ := h
    exact (checked_ok.mp h).1
  · intro h
    exact ⟨rows, checked_ok.mpr ⟨h, rfl⟩⟩

section

variable {α : Type} {name : α → String} {g : Int}

/-- What a host reported, as history rows. -/
def historyOf (g : Int) (host : String) (xs : List α) : List (History α) := xs.map (⟨g, host, ·⟩)

variable {xs : List α} {sets : List (HostSet α)}

theorem current_insertAll {t : Table fun c : Current α => (c.host, name c.row)} (host at_ : String) :
    ((t.delete (·.host = host)).insertAll (HostSet.current g ⟨host, at_, xs⟩)).isSome = true ↔ (xs.map name).Nodup := by
  have hkeys : (HostSet.current g ⟨host, at_, xs⟩).map (fun c => (c.host, name c.row)) =
      (xs.map name).map (Prod.mk host) := by
    unfold HostSet.current
    rw [map_map, map_map]
    rfl
  rw [Table.insertAll_delete (fun _ _ e => congrArg Prod.fst e) (host_current ⟨host, at_, xs⟩), hkeys]
  exact nodup_map_iff (Prod.mk_right_injective host)

/-- A history that has no row of the host in this generation yet. -/
def Unwritten (g : Int) (host : String) (rows : List (History α)) : Prop :=
  ∀ h ∈ rows, h.generationId = g → h.host ≠ host

theorem history_insertAll {t : Table fun h : History α => (h.generationId, h.host, name h.row)} {host : String}
    (hu : Unwritten g host t.rows) : (t.insertAll (historyOf g host xs)).isSome = true ↔ (xs.map name).Nodup := by
  have hkeys : (historyOf g host xs).map (fun h => (h.generationId, h.host, name h.row)) =
      (xs.map name).map fun n => (g, host, n) := by
    unfold historyOf
    rw [map_map, map_map]
    rfl
  have hinj : Function.Injective fun n : String => (g, host, n) := fun _ _ e => congrArg (fun k => k.2.2) e
  rw [Table.insertAll_isSome, hkeys, nodup_map_iff hinj]
  refine and_iff_left ?_
  intro r hr hmem
  obtain ⟨_, _, e⟩ := List.mem_map.mp hr
  obtain ⟨h, hh, e'⟩ := List.mem_map.mp hmem
  rw [← e] at e'
  exact hu h hh (congrArg Prod.fst e') (congrArg (fun k => k.2.1) e')

theorem replaceSet_commits {t : Table fun c : Current α => (c.host, name c.row)} {s : HostSet α} :
    Commits (replaceSet name g t s) ↔ (s.rows.map name).Nodup :=
      commits_unique.trans (current_insertAll s.host s.collectedAt)

theorem replaceSets_commits {t : Table fun c : Current α => (c.host, name c.row)} :
    Commits (replaceSets name g t sets) ↔ ∀ s ∈ sets, (s.rows.map name).Nodup := by
  refine Sql.foldlM_commits (fun _ _ => True) ?_ trivial
  intro s _ t _
  exact ⟨replaceSet_commits, fun _ _ => trivial⟩

/-- The history of sets of different hosts, in a generation no row is of yet. -/
theorem historyRows_insertAll {t : Table fun h : History α => (h.generationId, h.host, name h.row)}
    (hnew : ∀ h ∈ t.rows, h.generationId ≠ g) (hosts : (sets.map HostSet.host).Nodup)
    (names : ∀ s ∈ sets, (s.rows.map name).Nodup) : (t.insertAll (historyRows g sets)).isSome = true := by
  refine (Table.insertAll_new Prod.fst hnew fun _ => generationId_historyRows).mpr ?_
  unfold historyRows
  rw [map_flatMap]
  refine Sql.nodup_flatMap_owned (fun k => k.2.1) ?_ hosts ?_
  · intro s k hk
    rw [map_map] at hk
    obtain ⟨row, _, e⟩ := List.mem_map.mp hk
    rw [← e]
    rfl
  · intro s hs
    have hkeys := (names s hs).map (f := fun n => (g, s.host, n)) fun _ _ e => by simpa using e
    rw [map_map] at hkeys ⊢
    exact hkeys

end

/-! ## Metrics -/

/-- The current rows of a host are samples of series of the dictionary. -/
def MetricTables.Fits (t : MetricTables) (host : String) : Prop :=
  ∀ c ∈ t.current.rows, c.host = host → ∃ r ∈ t.series.table.rows, r.seriesId = c.row.seriesId

/-- The host has a current row of the series a sample belongs to. -/
def MetricTables.Taken (t : MetricTables) (host : String) (m : MetricRow) : Prop :=
  ∃ r, t.series.find m = some r ∧ ∃ c ∈ t.current.rows, c.host = host ∧ c.row.seriesId = r.seriesId

section

variable {policies : List HistoryPolicy} {g : Int} {host at_ : String} {t t' : MetricTables} {m : MetricRow}

theorem bind_isSome {x : F64} : x.bind.isSome = true ↔ x ≠ .nan := by
  cases x <;> simp [F64.bind]

/-- A series not in the dictionary yet gets an id that no current row can have. -/
theorem upsert_free (hf : t.Fits host) :
    (host, (t.series.upsert m g).2) ∈ t.current.rows.map (fun c => (c.host, c.row.seriesId)) ↔ t.Taken host m := by
  obtain ⟨r, hr, hid⟩ := t.series.find_upsert_self m g
  constructor
  · intro hmem
    obtain ⟨c, hc, e⟩ := List.mem_map.mp hmem
    have hhost := congrArg Prod.fst e
    have hseries := congrArg Prod.snd e
    cases hfind : t.series.find m with
    | some r₀ =>
      obtain ⟨r', hr', hid'⟩ := t.series.upsert_extends m g m r₀ hfind
      rw [hr] at hr'
      cases hr'
      exact ⟨r₀, hfind, c, hc, hhost, hseries.trans (hid.symm.trans hid')⟩
    | none =>
      obtain ⟨r₁, hr₁, e₁⟩ := hf c hc hhost
      have hlt := Table.lt_nextRowid hr₁
      have hnew : (t.series.upsert m g).2 = t.series.table.nextRowid := by
        rw [SeriesTable.find_upsert, if_pos rfl, hfind] at hr
        rw [← hid, ← Option.some.inj hr]
        rfl
      change c.row.seriesId = (t.series.upsert m g).2 at hseries
      omega
  · intro htaken
    obtain ⟨r₀, hfind, c, hc, hhost, hseries⟩ := htaken
    obtain ⟨r', hr', hid'⟩ := t.series.upsert_extends m g m r₀ hfind
    rw [hr] at hr'
    cases hr'
    exact List.mem_map.mpr ⟨c, hc, by rw [hhost, hseries, ← hid', hid]⟩

theorem publishMetric_commits (hf : t.Fits host) :
    Commits (publishMetric policies g host at_ t m) ↔ m.value ≠ .nan ∧ ¬t.Taken host m := by
  rw [← bind_isSome, ← upsert_free (g := g) hf, ← Table.get_eq_none]
  constructor
  · intro h
    obtain ⟨_, h⟩ := h
    obtain ⟨value, current, hv, hc, _⟩ := publishMetric_ok.mp h
    exact ⟨by rw [hv]; rfl, (Table.insert?_eq_some hc).1⟩
  · intro h
    obtain ⟨hv, hfree⟩ := h
    obtain ⟨value, hv⟩ := Option.isSome_iff_exists.mp hv
    obtain ⟨current, hc⟩ := Option.isSome_iff_exists.mp
      (Table.insert?_isSome (r := (⟨host, ⟨(t.series.upsert m g).2, value⟩, g, at_⟩ : Current MetricCell)).mpr hfree)
    exact ⟨_, publishMetric_ok.mpr ⟨value, current, hv, hc, rfl⟩⟩

theorem publishMetric_fits (hf : t.Fits host) (h : publishMetric policies g host at_ t m = .ok t') : t'.Fits host := by
  obtain ⟨value, current, _, hc, rfl⟩ := publishMetric_ok.mp h
  intro c hmem hhost
  change c ∈ current.rows at hmem
  rw [Table.rows_insert? hc] at hmem
  rcases mem_append.mp hmem with hmem | hmem
  · obtain ⟨r, hr, hid⟩ := hf c hmem hhost
    have hfind : t.series.find ⟨r.metricName, r.labelsJson, 0, none, none, none⟩ = some r :=
      SeriesTable.find_eq_some.mpr ⟨hr, rfl⟩
    obtain ⟨r', hr', hid'⟩ := t.series.upsert_extends m g _ r hfind
    exact ⟨r', (SeriesTable.find_eq_some.mp hr').1, hid'.trans hid⟩
  · obtain ⟨r, hr, hid⟩ := t.series.find_upsert_self m g
    refine ⟨r, (SeriesTable.find_eq_some.mp hr).1, ?_⟩
    rw [mem_singleton.mp hmem, hid]

/-- A sample takes its own series and no other. -/
theorem publishMetric_taken (h : publishMetric policies g host at_ t m = .ok t') (m' : MetricRow) :
    t'.Taken host m' ↔ m.identity = m'.identity ∨ t.Taken host m' := by
  obtain ⟨value, current, _, hc, rfl⟩ := publishMetric_ok.mp h
  obtain ⟨r, hr, hid⟩ := t.series.find_upsert_self m g
  have hrows : ∀ id, (∃ c ∈ current.rows, c.host = host ∧ c.row.seriesId = id) ↔
      (∃ c ∈ t.current.rows, c.host = host ∧ c.row.seriesId = id) ∨ r.seriesId = id := by
    intro id
    rw [Table.rows_insert? hc]
    simp [or_and_right, exists_or, hid]
  unfold MetricTables.Taken
  simp only [hrows]
  by_cases e : m.identity = m'.identity
  · have hsame : (t.series.upsert m g).1.find m' = some r := by
      rw [SeriesTable.find_eq_some] at hr ⊢
      exact ⟨hr.1, hr.2.trans e⟩
    exact ⟨fun _ => .inl e, fun _ => ⟨r, hsame, .inr rfl⟩⟩
  · have hother : (t.series.upsert m g).1.find m' = t.series.find m' := by
      rw [SeriesTable.find_upsert, if_neg e]
    rw [hother]
    constructor
    · intro h
      obtain ⟨r', hr', hc' | hid'⟩ := h
      · exact .inr ⟨r', hr', hc'⟩
      · rw [← hother, SeriesTable.find_eq_some] at hr'
        obtain ⟨hmem, hkey⟩ := SeriesTable.find_eq_some.mp hr
        have hrow := inj_on_of_nodup_map (t.series.upsert m g).1.table.nodup hmem hr'.1 hid'
        exact absurd (hkey.symm.trans (hrow ▸ hr'.2)) e
    · intro h
      obtain ⟨r', hr', hc'⟩ := h.resolve_left e
      exact ⟨r', hr', .inl hc'⟩

theorem publishMetrics_commits {ms : List MetricRow} : ∀ {t : MetricTables}, t.Fits host →
    (Commits (ms.foldlM (publishMetric policies g host at_) t) ↔ SamplesAdmissible ms ∧ ∀ m ∈ ms, ¬t.Taken host m) := by
  induction ms with
  | nil =>
    intro t _
    exact ⟨fun _ => ⟨⟨nodup_nil, by simp⟩, by simp⟩, fun _ => Sql.commits_pure t⟩
  | cons m ms ih =>
    intro t hf
    rw [foldlM_cons, Sql.commits_bind, forall_mem_cons]
    constructor
    · intro h
      obtain ⟨t₁, h₁, h⟩ := h
      obtain ⟨hv, hfree⟩ := (publishMetric_commits hf).mp ⟨t₁, h₁⟩
      obtain ⟨hms, hrest⟩ := (ih (publishMetric_fits hf h₁)).mp h
      have hothers : ∀ m' ∈ ms, m.identity ≠ m'.identity ∧ ¬t.Taken host m' := fun m' hm' =>
        not_or.mp fun hor => hrest m' hm' ((publishMetric_taken h₁ m').mpr hor)
      refine ⟨⟨?_, ?_⟩, hfree, fun m' hm' => (hothers m' hm').2⟩
      · rw [map_cons, nodup_cons]
        refine ⟨fun hmem => ?_, hms.identities⟩
        obtain ⟨m', hm', e⟩ := List.mem_map.mp hmem
        exact (hothers m' hm').1 e.symm
      · exact forall_mem_cons.mpr ⟨hv, hms.values⟩
    · intro h
      obtain ⟨⟨hids, hvs⟩, hfree, hrest⟩ := h
      rw [map_cons, nodup_cons] at hids
      obtain ⟨hv, hvs⟩ := forall_mem_cons.mp hvs
      obtain ⟨t₁, h₁⟩ := (publishMetric_commits hf).mpr ⟨hv, hfree⟩
      refine ⟨t₁, h₁, (ih (publishMetric_fits hf h₁)).mpr ⟨⟨hids.2, hvs⟩, fun m' hm' htaken => ?_⟩⟩
      rcases (publishMetric_taken h₁ m').mp htaken with e | htaken
      · exact hids.1 (e ▸ mem_map_of_mem hm')
      · exact hrest m' hm' htaken

theorem publishMetricSet_commits {t : MetricTables} {s : HostSet MetricRow} :
    Commits (publishMetricSet policies g t s) ↔ SamplesAdmissible s.rows := by
  have hnone : ∀ c ∈ (t.current.delete (·.host = s.host)).rows, c.host ≠ s.host := by
    intro c hc e
    have hother := (mem_filter.mp hc).2
    simp [e] at hother
  unfold publishMetricSet
  rw [publishMetrics_commits]
  · refine and_iff_left ?_
    intro m _ htaken
    obtain ⟨_, _, c, hc, hhost, _⟩ := htaken
    exact hnone c hc hhost
  · intro c hc hhost
    exact absurd hhost (hnone c hc)

theorem publishMetricSets_commits {t : MetricTables} {sets : List (HostSet MetricRow)} :
    Commits (sets.foldlM (publishMetricSet policies g) t) ↔ ∀ s ∈ sets, SamplesAdmissible s.rows := by
  refine Sql.foldlM_commits (fun _ _ => True) ?_ trivial
  intro s _ t _
  exact ⟨publishMetricSet_commits, fun _ _ => trivial⟩

end

/-! ## Witness reports -/

section

variable {g : Int} {host at_ : String}

/-- Pools, vdevs, scans and spares, inserted in the tables of their kind. -/
structure ZfsInserted (g : Int) (host at_ : String) (ps : List ZfsPool) (vs : List ZfsVdev) (ss : List ZfsScan)
    (xs : List ZfsSpare) (t t' : ZfsTables) : Prop where
  pools : t.pools.insertAll (HostSet.current g ⟨host, at_, ps⟩) = some t'.pools
  poolsHistory : t.poolsHistory.insertAll (historyOf g host ps) = some t'.poolsHistory
  vdevs : t.vdevs.insertAll (HostSet.current g ⟨host, at_, vs⟩) = some t'.vdevs
  vdevErrorsHistory : t.vdevErrorsHistory.insertAll (historyOf g host vs) = some t'.vdevErrorsHistory
  scans : t.scans.insertAll (HostSet.current g ⟨host, at_, ss⟩) = some t'.scans
  sparesHistory : t.sparesHistory.insertAll (historyOf g host xs) = some t'.sparesHistory

attribute [ext] ZfsTables

theorem insert_ok {ρ κ : Type} [DecidableEq κ] {key : ρ → κ} {t t' : Table key} {r : ρ} :
    unique (t.insert? r) = .ok t' ↔ t.insertAll [r] = some t' := by
  rw [unique_ok, Table.insertAll_singleton]

theorem publishZfsObservation_ok {t t' : ZfsTables} {o : ZfsObservation} :
    publishZfsObservation g host at_ t o = .ok t' ↔
      ZfsInserted g host at_ o.pool?.toList o.vdev?.toList o.scan?.toList o.spare?.toList t t' := by
  cases o with
  | pool p =>
    constructor
    · intro h
      obtain ⟨pools, hp, h⟩ := Sql.bind_ok.mp h
      obtain ⟨history, hh, h⟩ := Sql.bind_ok.mp h
      cases h
      exact ⟨insert_ok.mp hp, insert_ok.mp hh, rfl, rfl, rfl, rfl⟩
    · intro h
      obtain ⟨hp, hh, hv, hvh, hs, hx⟩ := h
      refine Sql.bind_ok.mpr ⟨_, insert_ok.mpr hp, Sql.bind_ok.mpr ⟨_, insert_ok.mpr hh, congrArg Except.ok ?_⟩⟩
      exact ZfsTables.ext rfl rfl (Option.some.inj hv) (Option.some.inj hvh) (Option.some.inj hs) (Option.some.inj hx)
  | vdev v =>
    constructor
    · intro h
      obtain ⟨vdevs, hv, h⟩ := Sql.bind_ok.mp h
      obtain ⟨history, hh, h⟩ := Sql.bind_ok.mp h
      cases h
      exact ⟨rfl, rfl, insert_ok.mp hv, insert_ok.mp hh, rfl, rfl⟩
    · intro h
      obtain ⟨hp, hph, hv, hh, hs, hx⟩ := h
      refine Sql.bind_ok.mpr ⟨_, insert_ok.mpr hv, Sql.bind_ok.mpr ⟨_, insert_ok.mpr hh, congrArg Except.ok ?_⟩⟩
      exact ZfsTables.ext (Option.some.inj hp) (Option.some.inj hph) rfl rfl (Option.some.inj hs) (Option.some.inj hx)
  | scan s =>
    constructor
    · intro h
      obtain ⟨scans, hs, h⟩ := Sql.bind_ok.mp h
      cases h
      exact ⟨rfl, rfl, rfl, rfl, insert_ok.mp hs, rfl⟩
    · intro h
      obtain ⟨hp, hph, hv, hvh, hs, hx⟩ := h
      refine Sql.bind_ok.mpr ⟨_, insert_ok.mpr hs, congrArg Except.ok ?_⟩
      exact ZfsTables.ext (Option.some.inj hp) (Option.some.inj hph) (Option.some.inj hv) (Option.some.inj hvh) rfl
        (Option.some.inj hx)
  | spare x =>
    constructor
    · intro h
      obtain ⟨history, hh, h⟩ := Sql.bind_ok.mp h
      cases h
      exact ⟨rfl, rfl, rfl, rfl, rfl, insert_ok.mp hh⟩
    · intro h
      obtain ⟨hp, hph, hv, hvh, hs, hh⟩ := h
      refine Sql.bind_ok.mpr ⟨_, insert_ok.mpr hh, congrArg Except.ok ?_⟩
      exact ZfsTables.ext (Option.some.inj hp) (Option.some.inj hph) (Option.some.inj hv) (Option.some.inj hvh)
        (Option.some.inj hs) rfl
  | other =>
    constructor
    · intro h
      cases h
      exact ⟨rfl, rfl, rfl, rfl, rfl, rfl⟩
    · intro h
      obtain ⟨hp, hph, hv, hvh, hs, hx⟩ := h
      exact congrArg Except.ok (ZfsTables.ext (Option.some.inj hp) (Option.some.inj hph) (Option.some.inj hv)
        (Option.some.inj hvh) (Option.some.inj hs) (Option.some.inj hx))

theorem ZfsInserted.append {ps ps' : List ZfsPool} {vs vs' : List ZfsVdev}
    {ss ss' : List ZfsScan} {xs xs' : List ZfsSpare}
    {t t' : ZfsTables} :
    ZfsInserted g host at_ (ps ++ ps') (vs ++ vs') (ss ++ ss') (xs ++ xs') t t' ↔
      ∃ t₁, ZfsInserted g host at_ ps vs ss xs t t₁ ∧ ZfsInserted g host at_ ps' vs' ss' xs' t₁ t' := by
  constructor
  · intro h
    obtain ⟨hp, hph, hv, hvh, hs, hx⟩ := h
    simp only [HostSet.current, historyOf, map_append, Table.insertAll_append, Option.bind_eq_some_iff]
      at hp hph hv hvh hs hx
    obtain ⟨p, hp, hp'⟩ := hp
    obtain ⟨ph, hph, hph'⟩ := hph
    obtain ⟨v, hv, hv'⟩ := hv
    obtain ⟨vh, hvh, hvh'⟩ := hvh
    obtain ⟨s, hs, hs'⟩ := hs
    obtain ⟨x, hx, hx'⟩ := hx
    exact ⟨⟨p, ph, v, vh, s, x⟩, ⟨hp, hph, hv, hvh, hs, hx⟩, ⟨hp', hph', hv', hvh', hs', hx'⟩⟩
  · intro h
    obtain ⟨t₁, h, h'⟩ := h
    constructor <;>
      simp only [HostSet.current, historyOf, map_append, Table.insertAll_append, Option.bind_eq_some_iff]
    · exact ⟨_, h.pools, h'.pools⟩
    · exact ⟨_, h.poolsHistory, h'.poolsHistory⟩
    · exact ⟨_, h.vdevs, h'.vdevs⟩
    · exact ⟨_, h.vdevErrorsHistory, h'.vdevErrorsHistory⟩
    · exact ⟨_, h.scans, h'.scans⟩
    · exact ⟨_, h.sparesHistory, h'.sparesHistory⟩

theorem filterMap_cons_toList {α β : Type} (f : α → Option β) (a : α) (as : List α) :
    (a :: as).filterMap f = (f a).toList ++ as.filterMap f := by
  rw [filterMap_cons]
  cases f a <;> rfl

theorem publishZfsObservations_ok {os : List ZfsObservation} : ∀ {t t' : ZfsTables},
    os.foldlM (publishZfsObservation g host at_) t = .ok t' ↔
      ZfsInserted g host at_ (os.filterMap ZfsObservation.pool?) (os.filterMap ZfsObservation.vdev?)
        (os.filterMap ZfsObservation.scan?) (os.filterMap ZfsObservation.spare?) t t' := by
  induction os with
  | nil =>
    intro t t'
    constructor
    · intro h
      cases h
      exact ⟨rfl, rfl, rfl, rfl, rfl, rfl⟩
    · intro h
      obtain ⟨hp, hph, hv, hvh, hs, hx⟩ := h
      exact congrArg Except.ok (ZfsTables.ext (Option.some.inj hp) (Option.some.inj hph) (Option.some.inj hv)
        (Option.some.inj hvh) (Option.some.inj hs) (Option.some.inj hx))
  | cons o os ih =>
    intro t t'
    simp only [filterMap_cons_toList]
    rw [foldlM_cons, Sql.bind_ok, ZfsInserted.append]
    simp only [publishZfsObservation_ok, ih]

/-- No row of a host in the generation yet, in the histories ZFS reports write. -/
structure ZfsUnwritten (g : Int) (db : Db) (host : String) : Prop where
  pools : Unwritten g host db.zfsPoolsHistory.rows
  vdevErrors : Unwritten g host db.zfsVdevErrorsHistory.rows
  spares : Unwritten g host db.zfsSparesHistory.rows

variable {db db' : Db} {w : SmartWitnessRow} {s : Store}

theorem publishZfsWitness_commits {w : ZfsWitnessRow} (hu : ZfsUnwritten g db w.host) :
    Commits (publishZfsWitness g db w) ↔ ZfsAdmissible w.observations := by
  unfold publishZfsWitness
  rw [Sql.commits_bind]
  simp only [publishZfsObservations_ok]
  constructor
  · intro h
    obtain ⟨t, hi, _⟩ := h
    refine ⟨?_, ?_, ?_, ?_⟩
    · exact (current_insertAll w.host w.collectedAt).mp (Option.isSome_of_eq_some hi.pools)
    · exact (current_insertAll w.host w.collectedAt).mp (Option.isSome_of_eq_some hi.vdevs)
    · exact (current_insertAll w.host w.collectedAt).mp (Option.isSome_of_eq_some hi.scans)
    · exact (history_insertAll hu.spares).mp (Option.isSome_of_eq_some hi.sparesHistory)
  · intro h
    obtain ⟨pools, hp⟩ := Option.isSome_iff_exists.mp
      ((current_insertAll (t := db.zfsPoolsCurrent) (g := g) w.host w.collectedAt).mpr h.pools)
    obtain ⟨poolsHistory, hph⟩ := Option.isSome_iff_exists.mp ((history_insertAll hu.pools).mpr h.pools)
    obtain ⟨vdevs, hv⟩ := Option.isSome_iff_exists.mp
      ((current_insertAll (t := db.zfsVdevsCurrent) (g := g) w.host w.collectedAt).mpr h.vdevs)
    obtain ⟨vdevsHistory, hvh⟩ := Option.isSome_iff_exists.mp ((history_insertAll hu.vdevErrors).mpr h.vdevs)
    obtain ⟨scans, hs⟩ := Option.isSome_iff_exists.mp
      ((current_insertAll (t := db.zfsScansCurrent) (g := g) w.host w.collectedAt).mpr h.scans)
    obtain ⟨sparesHistory, hx⟩ := Option.isSome_iff_exists.mp ((history_insertAll hu.spares).mpr h.spares)
    exact ⟨⟨pools, poolsHistory, vdevs, vdevsHistory, scans, sparesHistory⟩,
      ⟨hp, hph, hv, hvh, hs, hx⟩, Sql.commits_pure _⟩

/-- Rows of one host in a history are not rows of another. -/
theorem unwritten_append {α : Type} {host host' : String} {rows : List (History α)} {xs : List α}
    (hu : Unwritten g host rows) (hne : host' ≠ host) : Unwritten g host (rows ++ historyOf g host' xs) := by
  intro h hh hg
  rcases mem_append.mp hh with hh | hh
  · exact hu h hh hg
  · obtain ⟨_, _, e⟩ := List.mem_map.mp hh
    rw [← e]
    exact hne

theorem publishZfsWitness_unwritten {w : ZfsWitnessRow} {host : String} (h : publishZfsWitness g db w = .ok db')
    (hne : w.host ≠ host) (hu : ZfsUnwritten g db host) : ZfsUnwritten g db' host := by
  obtain ⟨t, ht, h⟩ := Sql.bind_ok.mp h
  have hi := publishZfsObservations_ok.mp ht
  cases h
  refine ⟨?_, ?_, ?_⟩
  · show Unwritten g host t.poolsHistory.rows
    rw [Table.rows_insertAll hi.poolsHistory]
    exact unwritten_append hu.pools hne
  · show Unwritten g host t.vdevErrorsHistory.rows
    rw [Table.rows_insertAll hi.vdevErrorsHistory]
    exact unwritten_append hu.vdevErrors hne
  · show Unwritten g host t.sparesHistory.rows
    rw [Table.rows_insertAll hi.sparesHistory]
    exact unwritten_append hu.spares hne

theorem publishZfsWitnesses_commits {ws : List ZfsWitnessRow} (hosts : (ws.map ZfsWitnessRow.host).Nodup)
    (hu : ∀ w ∈ ws, ZfsUnwritten g db w.host) :
    Commits (ws.foldlM (publishZfsWitness g) db) ↔ ∀ w ∈ ws, ZfsAdmissible w.observations := by
  refine Sql.foldlM_commits
    (fun ws db => (ws.map ZfsWitnessRow.host).Nodup ∧ ∀ w ∈ ws, ZfsUnwritten g db w.host) ?_ ⟨hosts, hu⟩
  intro w ws db hleft
  obtain ⟨hhosts, hu⟩ := hleft
  rw [map_cons, nodup_cons] at hhosts
  obtain ⟨hw, hws⟩ := forall_mem_cons.mp hu
  refine ⟨publishZfsWitness_commits hw, ?_⟩
  intro db' h
  refine ⟨hhosts.2, fun w' hw' => publishZfsWitness_unwritten h (fun e => ?_) (hws w' hw')⟩
  exact hhosts.1 (e ▸ mem_map_of_mem hw')

theorem publishSmartObservations_commits {os : List SmartObservation} : ∀ {db : Db},
    Commits (os.foldlM (publishSmartObservation g host at_) db) ↔
      (∀ d ∈ os.filterMap SmartObservation.device?, d.check = true) ∧
      (db.smartDevicesCurrent.insertAll
        (HostSet.current g ⟨host, at_, os.filterMap SmartObservation.device?⟩)).isSome = true ∧
      (db.smartReallocatedHistory.insertAll (historyOf g host (os.filterMap SmartObservation.device?))).isSome =
        true := by
  induction os with
  | nil =>
    intro db
    exact ⟨fun _ => ⟨by simp, rfl, rfl⟩, fun _ => Sql.commits_pure db⟩
  | cons o os ih =>
    intro db
    rw [foldlM_cons, Sql.commits_bind]
    cases o with
    | other =>
      constructor
      · intro h
        obtain ⟨_, h₁, h⟩ := h
        cases h₁
        exact ih.mp h
      · intro h
        exact ⟨db, rfl, ih.mpr h⟩
    | device d coverage =>
      rw [show (SmartObservation.device d coverage :: os).filterMap SmartObservation.device? =
        d :: os.filterMap SmartObservation.device? from rfl, forall_mem_cons]
      constructor
      · intro h
        obtain ⟨db₁, h₁, h⟩ := h
        change (if d.check = true then _ else _) = _ at h₁
        by_cases hc : d.check = true
        · rw [if_pos hc] at h₁
          obtain ⟨devices, hd, h₁⟩ := Sql.bind_ok.mp h₁
          obtain ⟨history, hh, h₁⟩ := Sql.bind_ok.mp h₁
          cases h₁
          obtain ⟨hchecks, hdevices, hhistory⟩ := ih.mp h
          exact ⟨⟨hc, hchecks⟩, Table.insertAll_cons_isSome.mpr ⟨devices, unique_ok.mp hd, hdevices⟩,
            Table.insertAll_cons_isSome.mpr ⟨history, unique_ok.mp hh, hhistory⟩⟩
        · rw [if_neg hc] at h₁
          cases h₁
      · intro h
        obtain ⟨⟨hc, hchecks⟩, hdevices, hhistory⟩ := h
        obtain ⟨devices, hd, hdevices⟩ := Table.insertAll_cons_isSome.mp hdevices
        obtain ⟨history, hh, hhistory⟩ := Table.insertAll_cons_isSome.mp hhistory
        refine ⟨{ db with
          smartDevicesCurrent := devices
          smartReallocatedHistory := history
          smartDeviceCoverageCurrent :=
            ((SmartObservation.device d coverage).coverageRows host).foldl
              Table.replace db.smartDeviceCoverageCurrent }, ?_,
          ih.mpr ⟨hchecks, hdevices, hhistory⟩⟩
        change (if d.check = true then _ else _) = _
        rw [if_pos hc]
        exact Sql.bind_ok.mpr ⟨devices, unique_ok.mpr hd, Sql.bind_ok.mpr ⟨history, unique_ok.mpr hh, rfl⟩⟩

theorem publishSmartWitness_commits (hu : Unwritten g w.host db.smartReallocatedHistory.rows) :
    Commits (publishSmartWitness g db w) ↔ SmartAdmissible w.observations := by
  unfold publishSmartWitness
  rw [publishSmartObservations_commits, current_insertAll, history_insertAll hu]
  exact ⟨fun h => ⟨h.2.1, h.1⟩, fun h => ⟨h.checks, h.subjects, h.subjects⟩⟩

theorem publishSmartObservation_history {o : SmartObservation} (h : publishSmartObservation g host at_ db o = .ok db') :
    db'.smartReallocatedHistory.rows = db.smartReallocatedHistory.rows ++
      (o.device?.map fun d => (⟨g, host, d⟩ : History SmartDevice)).toList := by
  cases o with
  | other =>
    cases h
    exact (append_nil _).symm
  | device d coverage =>
    change (if d.check = true then _ else _) = _ at h
    by_cases hc : d.check = true
    · rw [if_pos hc] at h
      obtain ⟨_, _, h⟩ := Sql.bind_ok.mp h
      obtain ⟨history, hh, h⟩ := Sql.bind_ok.mp h
      cases h
      exact Table.rows_insert? (unique_ok.mp hh)
    · rw [if_neg hc] at h
      cases h

theorem publishSmartWitness_unwritten {host : String} (h : publishSmartWitness g db w = .ok db') (hne : w.host ≠ host)
    (hu : Unwritten g host db.smartReallocatedHistory.rows) : Unwritten g host db'.smartReallocatedHistory.rows := by
  unfold publishSmartWitness at h
  have hstep := fun d o d' (h : publishSmartObservation g w.host w.collectedAt d o = .ok d') =>
    publishSmartObservation_history h
  have hrows := Sql.foldlM_adds hstep h
  rw [← map_filterMap] at hrows
  rw [hrows]
  exact unwritten_append hu hne

theorem publishSmartWitnesses_commits {ws : List SmartWitnessRow} (hosts : (ws.map SmartWitnessRow.host).Nodup)
    (hu : ∀ w ∈ ws, Unwritten g w.host db.smartReallocatedHistory.rows) :
    Commits (ws.foldlM (publishSmartWitness g) db) ↔ ∀ w ∈ ws, SmartAdmissible w.observations := by
  refine Sql.foldlM_commits (fun ws db => (ws.map SmartWitnessRow.host).Nodup ∧
    ∀ w ∈ ws, Unwritten g w.host db.smartReallocatedHistory.rows) ?_ ⟨hosts, hu⟩
  intro w ws db hleft
  obtain ⟨hhosts, hu⟩ := hleft
  rw [map_cons, nodup_cons] at hhosts
  obtain ⟨hw, hws⟩ := forall_mem_cons.mp hu
  refine ⟨publishSmartWitness_commits hw, ?_⟩
  intro db' h
  refine ⟨hhosts.2, fun w' hw' => publishSmartWitness_unwritten h (fun e => ?_) (hws w' hw')⟩
  exact hhosts.1 (e ▸ mem_map_of_mem hw')

/-- The errors of a witness are numbered, so they are never refused. -/
theorem publishErrors_commits (host : String) (errors : List WitnessError) (t : Table WitnessErrorRow.pk) :
    Commits (publishErrors host errors t) := by
  refine commits_unique.mpr ((Table.insertAll_delete (fun _ _ e => congrArg Prod.fst e) host_errorRows).mpr ?_)
  have hkeys : (errorRows host errors).map WitnessErrorRow.pk = (List.range errors.length).map (Prod.mk host) := by
    refine ext_getElem ?_ ?_
    · simp [errorRows]
    · intro i _ _
      simp [errorRows, WitnessErrorRow.pk]
  rw [hkeys]
  exact nodup_range.map (Prod.mk_right_injective host)

theorem publishZfsReports_commit {ws : List ZfsReport} :
    Commits (ws.foldlM (publishZfsReport g) s) ↔
      ∀ w ∈ ws, ((w.observations.filterMap ZfsObservation.spare?).map ZfsSpare.subject).Nodup := by
  refine Sql.foldlM_commits (fun _ _ => True) ?_ trivial
  intro w _ s _
  refine ⟨?_, fun _ _ => trivial⟩
  unfold publishZfsReport
  rw [Sql.commits_bind]
  constructor
  · intro h
    obtain ⟨_, hspares, _⟩ := h
    exact (current_insertAll w.host w.collectedAt).mp (commits_unique.mp ⟨_, hspares⟩)
  · intro h
    obtain ⟨spares, hspares⟩ := commits_unique.mpr
      ((current_insertAll (t := s.zfsSparesCurrent) (g := g) w.host w.collectedAt).mpr h)
    obtain ⟨errors, herrors⟩ := publishErrors_commits w.host w.errors s.zfsWitnessErrorsCurrent
    exact ⟨spares, hspares, Sql.commits_bind.mpr ⟨errors, herrors, Sql.commits_pure _⟩⟩

theorem publishSmartReports_commit {ws : List SmartReport} : Commits (ws.foldlM publishSmartReport s) := by
  refine (Sql.foldlM_commits (P := fun _ => True) (fun _ _ => True) ?_ trivial).mpr fun _ _ => trivial
  intro w _ s _
  refine ⟨iff_of_true ?_ trivial, fun _ _ => trivial⟩
  obtain ⟨errors, herrors⟩ := publishErrors_commits w.host w.errors s.smartWitnessErrorsCurrent
  exact Sql.commits_bind.mpr ⟨errors, herrors, Sql.commits_pure _⟩

theorem publishGpuWitnesses_commits {ws : List GpuReport} :
    Commits (ws.foldlM (publishGpuWitness g) s) ↔ ∀ w ∈ ws, GpuAdmissible w.observations := by
  refine Sql.foldlM_commits (fun _ _ => True) ?_ trivial
  intro w _ s _
  refine ⟨?_, fun _ _ => trivial⟩
  unfold publishGpuWitness
  rw [Sql.commits_bind]
  constructor
  · intro h
    obtain ⟨rows, hchecked, h⟩ := h
    obtain ⟨hchecks, hrows⟩ := checked_ok.mp hchecked
    obtain ⟨devices, hdevices, _⟩ := Sql.commits_bind.mp h
    refine ⟨?_, ?_⟩
    · rw [← hrows] at hdevices
      exact (current_insertAll w.host w.collectedAt).mp (commits_unique.mp ⟨_, hdevices⟩)
    · intro d hd
      exact all_eq_true.mp hchecks _ (mem_map_of_mem hd)
  · intro h
    have hchecks : (gpuDeviceRows g w).all (·.row.check) = true := by
      refine all_eq_true.mpr fun c hc => ?_
      obtain ⟨d, hd, e⟩ := List.mem_map.mp hc
      rw [← e]
      exact h.checks d hd
    obtain ⟨devices, hdevices⟩ := commits_unique.mpr
      ((current_insertAll (t := s.gpuDevicesCurrent) (g := g) w.host w.collectedAt).mpr h.subjects)
    obtain ⟨errors, herrors⟩ := publishErrors_commits w.host w.errors s.gpuWitnessErrorsCurrent
    refine ⟨_, checked_ok.mpr ⟨hchecks, rfl⟩, Sql.commits_bind.mpr ⟨devices, hdevices, ?_⟩⟩
    exact Sql.commits_bind.mpr ⟨errors, herrors, Sql.commits_pure _⟩

end

end Nq
