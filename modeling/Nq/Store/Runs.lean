/-
  Nq.Store.Runs — the stores of a running monitor, and the foreign keys they keep.

  A store is `Kept` when it is reached from a fresh one by published reports, steps on the
  core tables and sweeps, in any order. Its core tables are those of a served database, and
  every `generation_id` it holds names a generation (`kept_sound`). So a sweep of it does
  what it promises exactly when no current-state row is of a generation to be deleted
  (`prune_meets_contract_iff`).
-/

import Nq.Store.Retention

namespace Nq

open List
open Sql (Table)

/-! ## Runs of a store -/

section

variable (rfc3339 : String → Except String Int)

/-- A step on the core tables that publishes nothing and sweeps nothing. -/
inductive CoreStep : Db → Db → Prop
  | update {db db' : Db} (u : UpdateCall) (h : u.run db = .ok db') : CoreStep db db'
  | ingest {db : Db} (read : ManifestRead) (generation : Int) (now : String) (cfg : IngestConfig) :
      CoreStep db (ingestFindingImport rfc3339 db read generation now cfg).1
  | coverage {db db' : Db} {key : String} (c : CoverageCall)
      (h : recordCoverageTestimonyAbsentFinding db c = .ok (db', key)) : CoreStep db db'
  | operator {db : Db} (f : WarningRow → WarningRow) (hf : OperatorEdit f) :
      CoreStep db { db with warningState := db.warningState.update f hf.id }
  | settings {db : Db} (queries : SavedQueries) (policies : Table HistoryPolicy.pattern)
      (maintenance : Table MaintenanceDeclaration.maintenanceId) (retired : Table RetiredSource.sourceId) :
      CoreStep db { db with
        savedQueries := queries, metricHistoryPolicy := policies, maintenanceDeclarations := maintenance
        sourcesRetired := retired }

/-- The stores of a running monitor. `observe` is what its other parts record under a
    generation that exists. -/
inductive Kept : Store → Prop
  | init (queries : SavedQueries) (policies : Table HistoryPolicy.pattern) :
      Kept (.of { Db.init with savedQueries := queries, metricHistoryPolicy := policies })
  | publish {s s' : Store} {res : PublishResult} (r : Report)
      (hk : Kept s) (h : publishReport s r = .ok (s', res)) : Kept s'
  | core {s : Store} {db : Db} (hk : Kept s) (h : CoreStep rfc3339 s.core db) : Kept { s with core := db }
  | observe {s : Store} (regime dns loop evaluator : List Int) (hk : Kept s)
      (hg : ∀ g ∈ regime ++ dns ++ loop ++ evaluator, g ∈ s.generationIds) :
      Kept { s with
        regimeFeatures := s.regimeFeatures ++ regime
        dnsObservations := s.dnsObservations ++ dns
        observationLoopAliveObservations := s.observationLoopAliveObservations ++ loop
        nqEvaluatorObservations := s.nqEvaluatorObservations ++ evaluator }
  | prune {s s' : Store} {stats : PruneStats} (maxGenerations : Nat) (now : String) (hk : Kept s)
      (h : prune s maxGenerations now = .ok (s', stats)) : Kept s'

end

/-! ## Foreign keys -/

variable {s : Store} {policies : List HistoryPolicy} {t t' : MetricTables} {db : Db} {x : Int}

theorem mem_generationIds {g : Int} : g ∈ s.generationIds ↔ (s.core.generations.get g).isSome = true := by
  constructor
  · intro h
    obtain ⟨row, hrow, e⟩ := List.mem_map.mp h
    rw [← e, Table.get_of_mem hrow]
    rfl
  · intro h
    obtain ⟨row, hrow⟩ := Option.isSome_iff_exists.mp h
    exact Table.key_of_get hrow ▸ mem_map_of_mem (Table.mem_of_get hrow)

/-- Every row is one of generation `g` or was there before. -/
def Renews {α : Type} (g : Int) (old new : List (Current α)) : Prop := ∀ c ∈ new, c.asOfGeneration = g ∨ c ∈ old

namespace Renews

variable {α : Type} {g : Int}

theorem refl (rows : List (Current α)) : Renews g rows rows := fun _ hc => .inr hc

theorem trans {a b c : List (Current α)} (h : Renews g a b) (h' : Renews g b c) : Renews g a c := by
  intro r hr
  rcases h' r hr with hg | hr
  · exact .inl hg
  · exact h r hr

theorem mem_map {old new : List (Current α)} (h : Renews g old new) {x : Int}
    (hx : x ∈ new.map Current.asOfGeneration) :
    x = g ∨ x ∈ old.map Current.asOfGeneration := by
  obtain ⟨c, hc, e⟩ := List.mem_map.mp hx
  rcases h c hc with hg | hc
  · exact .inl (e.symm.trans hg)
  · exact .inr (e ▸ mem_map_of_mem hc)

end Renews

theorem upsertHost_renews {t : Table (Current.host : Current HostRow → String)} {new : Current HostRow} :
    Renews new.asOfGeneration t.rows (upsertHost t new).rows := by
  intro c hc
  unfold upsertHost Table.upsert at hc
  split at hc
  · rcases mem_append.mp hc with hc | hc
    · exact .inr hc
    · rw [mem_singleton.mp hc]
      exact .inl rfl
  · obtain ⟨c', hc', e⟩ := List.mem_map.mp hc
    by_cases hk : c'.host = new.host
    · rw [if_pos hk] at e
      exact .inl (by rw [← e])
    · rw [if_neg hk] at e
      exact .inr (e ▸ hc')

theorem upsertHosts_renews {g : Int} {hosts : List BatchHost} : ∀ {t : Table (Current.host : Current HostRow → String)},
    Renews g t.rows (hosts.foldl (fun t h => upsertHost t ⟨h.host, h.row.stored, g, h.collectedAt⟩) t).rows := by
  induction hosts with
  | nil => intro t; exact .refl _
  | cons h hosts ih =>
    intro t
    have hhead : Renews g t.rows (upsertHost t ⟨h.host, h.row.stored, g, h.collectedAt⟩).rows := upsertHost_renews
    exact hhead.trans ih

theorem replaceSets_renews {α : Type} {name : α → String} {g : Int} {sets : List (HostSet α)}
    {t t' : Table fun c : Current α => (c.host, name c.row)} (h : replaceSets name g t sets = .ok t') :
    Renews g t.rows t'.rows := by
  intro c hc
  rcases mem_replaceSets h c hc with ⟨hg, _⟩ | ⟨hc, _⟩
  · exact .inl hg
  · exact .inr hc

theorem publishMetric_renews {g : Int} {host at_ : String} {m : MetricRow}
    (h : publishMetric policies g host at_ t m = .ok t') : Renews g t.current.rows t'.current.rows := by
  unfold publishMetric at h
  cases hv : m.value.bind with
  | none => rw [hv] at h; cases h
  | some value =>
    rw [hv] at h
    obtain ⟨current, hc, h⟩ := Sql.bind_ok.mp h
    cases h
    intro c hmem
    change c ∈ current.rows at hmem
    rw [Table.rows_insert? (unique_ok.mp hc)] at hmem
    rcases mem_append.mp hmem with hmem | hmem
    · exact .inr hmem
    · rw [mem_singleton.mp hmem]
      exact .inl rfl

theorem publishMetricSet_renews {g : Int} {s : HostSet MetricRow} (h : publishMetricSet policies g t s = .ok t') :
    Renews g t.current.rows t'.current.rows := by
  unfold publishMetricSet at h
  have hloop := Sql.foldlM_rel (R := fun t t' : MetricTables => Renews g t.current.rows t'.current.rows)
    (fun _ => .refl _) .trans (fun _ _ _ => publishMetric_renews) h
  intro c hc
  rcases hloop c hc with hg | hc
  · exact .inl hg
  · exact .inr (mem_filter.mp hc).1

/-- A published batch leaves current-state rows of its own generation and older ones. -/
theorem pinned_publishBatch {b : Batch} {db' : Db} {res : PublishResult} (h : publishBatch db b = .ok (db', res))
    (hx : x ∈ db'.pinned) : x = res.generationId ∨ x ∈ db.pinned := by
  have hp := publishBatch_published h
  obtain ⟨metrics, hmetrics, _, hcurrent, hhosts⟩ := publishBatch_metrics h
  have hm := Sql.foldlM_rel (R := fun t t' : MetricTables => Renews res.generationId t.current.rows t'.current.rows)
    (fun _ => .refl _) .trans (fun _ _ _ => publishMetricSet_renews) hmetrics
  simp only [Db.pinned, mem_append] at hx ⊢
  rcases hx with (((hx | hx) | hx) | hx) | hx
  · rw [hhosts] at hx
    exact (upsertHosts_renews.mem_map hx).imp_right fun hx => .inl (.inl (.inl (.inl hx)))
  · exact ((replaceSets_renews hp.services).mem_map hx).imp_right fun hx => .inl (.inl (.inl (.inr hx)))
  · exact ((replaceSets_renews hp.monitoredDbs).mem_map hx).imp_right fun hx => .inl (.inl (.inr hx))
  · rw [hcurrent] at hx
    exact (hm.mem_map hx).imp_right fun hx => .inl (.inr hx)
  · exact ((replaceSets_renews hp.logs).mem_map hx).imp_right .inr

/-- The generations that the tables outside the core name. -/
def Store.extras (s : Store) : List Int :=
  s.collectorRuns.rows.map CollectorRunRow.generationId ++
    s.serviceObservations.rows.map ServiceObservationRow.generationId ++ s.walObservations.map History.generationId ++
    s.nqBinaryObservations.map History.generationId ++ s.regimeFeatures ++ s.dnsObservations ++
    s.observationLoopAliveObservations ++ s.nqEvaluatorObservations

theorem RunsPublished.mem_extras {g : Int} {s' : Store} (h : RunsPublished g s s') (hx : x ∈ s'.extras) :
    x = g ∨ x ∈ s.extras := by
  have hrest : s'.regimeFeatures = s.regimeFeatures ∧ s'.dnsObservations = s.dnsObservations ∧
      s'.observationLoopAliveObservations = s.observationLoopAliveObservations ∧
      s'.nqEvaluatorObservations = s.nqEvaluatorObservations := by
    rw [h.frame]
    exact ⟨rfl, rfl, rfl, rfl⟩
  simp only [Store.extras, mem_append, hrest] at hx ⊢
  rcases hx with ((((((hx | hx) | hx) | hx) | hx) | hx) | hx) | hx
  · exact (h.collectorRuns.mem_map hx).imp_right fun hx => by simp only [hx, true_or]
  · exact (h.services.mem_map hx).imp_right fun hx => by simp only [hx, true_or, or_true]
  · exact (h.wal.mem_map hx).imp_right fun hx => by simp only [hx, true_or, or_true]
  · exact (h.binaries.mem_map hx).imp_right fun hx => by simp only [hx, true_or, or_true]
  · exact .inr (by simp only [hx, true_or, or_true])
  · exact .inr (by simp only [hx, true_or, or_true])
  · exact .inr (by simp only [hx, true_or, or_true])
  · exact .inr (by simp only [hx, or_true])

/-- Cascades that agree on the generations there are agree on the database. -/
theorem cascade_congr (hl : db.Linked) (hk : db.Known) {p q : Int → Bool}
    (h : ∀ g, (db.generations.get g).isSome = true → p g = q g) : db.cascade p = db.cascade q := by
  have hrecorded : ∀ g ∈ db.recorded, p g = q g := fun g hg => h g (hl g hg)
  simp only [Db.recorded, mem_append, List.mem_map] at hrecorded
  have hmetrics : db.metricsHistory.filter (!p ·.generationId) = db.metricsHistory.filter (!q ·.generationId) :=
    filter_congr fun r hr => by rw [hrecorded _ (by grind)]
  have hgenerations : ∀ r ∈ db.generations.rows, p r.generationId = q r.generationId := by
    intro r hr
    refine h _ ?_
    rw [Table.get_of_mem hr]
    rfl
  have hobservations : ∀ r ∈ db.findingObservations.rows, p r.generationId = q r.generationId :=
    fun r hr => h _ (hk _ r (Table.get_of_mem hr))
  unfold Db.cascade
  rw [Table.delete_congr hgenerations, Table.delete_congr hobservations,
    Table.delete_congr (t := db.sourceRuns) fun r hr => hrecorded _ (by grind),
    Table.delete_congr (t := db.hostsHistory) fun r hr => hrecorded _ (by grind),
    Table.delete_congr (t := db.servicesHistory) fun r hr => hrecorded _ (by grind),
    hmetrics,
    Table.delete_congr (t := db.logObservationsHistory) fun r hr => hrecorded _ (by grind),
    Table.delete_congr (t := db.zfsPoolsHistory) fun r hr => hrecorded _ (by grind),
    Table.delete_congr (t := db.zfsVdevErrorsHistory) fun r hr => hrecorded _ (by grind),
    Table.delete_congr (t := db.zfsSparesHistory) fun r hr => hrecorded _ (by grind),
    Table.delete_congr (t := db.smartReallocatedHistory) fun r hr => hrecorded _ (by grind)]

section

variable (rfc3339 : String → Except String Int)

/-- The core tables are those of a monitor, and every reference to a generation holds. -/
structure Store.Sound (s : Store) : Prop where
  served : Served rfc3339 s.core
  extras : ∀ g ∈ s.extras, g ∈ s.generationIds
  pinned : ∀ g ∈ s.core.pinned, g ∈ s.generationIds

variable {rfc3339} {s s' : Store} {db db' : Db} {maxGenerations : Nat}

theorem Store.Sound.linked (h : s.Sound rfc3339) : s.Linked := by
  refine ⟨?_, h.pinned⟩
  have hrecorded : ∀ g ∈ s.core.recorded, g ∈ s.generationIds :=
    fun g hg => mem_generationIds.mpr (served_linked h.served g hg)
  have hobservations : ∀ g ∈ s.core.findingObservations.rows.map ObservationRow.generationId, g ∈ s.generationIds := by
    intro g hg
    obtain ⟨o, ho, e⟩ := List.mem_map.mp hg
    exact mem_generationIds.mpr (e ▸ served_known h.served _ o (Table.get_of_mem ho))
  have hextras := h.extras
  simp only [Db.recorded, Store.extras, mem_append] at hrecorded hextras
  intro t ht g hg
  simp only [Store.generationIdTables, mem_cons, not_mem_nil, or_false] at ht
  rcases ht with e | e | e | e | e | e | e | e | e | e | e | e | e | e | e | e | e | e <;> rw [e] at hg
  · exact hextras g (by simp only [hg, true_or])
  · exact hextras g (by simp only [hg, true_or, or_true])
  · exact hobservations g hg
  · exact hrecorded g (by simp only [hg, true_or, or_true])
  · exact hrecorded g (by simp only [hg, true_or, or_true])
  · exact hrecorded g (by simp only [hg, true_or, or_true])
  · exact hextras g (by simp only [hg, true_or, or_true])
  · exact hextras g (by simp only [hg, or_true])
  · exact hextras g (by simp only [hg, true_or, or_true])
  · exact hextras g (by simp only [hg, true_or, or_true])
  · exact hextras g (by simp only [hg, true_or, or_true])
  · exact hrecorded g (by simp only [hg, true_or, or_true])
  · exact hrecorded g (by simp only [hg, or_true])
  · exact hrecorded g (by simp only [hg, true_or])
  · exact hextras g (by simp only [hg, true_or, or_true])
  · exact hrecorded g (by simp only [hg, true_or, or_true])
  · exact hrecorded g (by simp only [hg, true_or, or_true])
  · exact hrecorded g (by simp only [hg, true_or, or_true])

theorem CoreStep.served (hs : Served rfc3339 db) (h : CoreStep rfc3339 db db') : Served rfc3339 db' := by
  cases h with
  | update u h => exact .update u hs h
  | ingest read generation now cfg => exact .ingest read generation now cfg hs
  | coverage c h => exact .coverage c hs h
  | operator f hf => exact .operator f hf hs
  | settings queries policies maintenance retired => exact .settings queries policies maintenance retired hs

/-- Such a step neither publishes nor deletes a generation, and leaves the current rows. -/
theorem CoreStep.frame (h : CoreStep rfc3339 db db') :
    (∀ g, (db'.generations.get g).isSome = (db.generations.get g).isSome) ∧ db'.pinned = db.pinned := by
  cases h with
  | update u h =>
    have hu := run_updated h
    exact ⟨hu.generations, by rw [hu.frame]; rfl⟩
  | ingest read generation now cfg =>
    unfold ingestFindingImport
    cases read with
    | unparsable => exact ⟨fun _ => rfl, rfl⟩
    | parsed m =>
      simp only
      split
      · exact ⟨fun _ => rfl, rfl⟩
      · exact ⟨fun _ => rfl, rfl⟩
  | coverage c h =>
    obtain ⟨_, _, hframe⟩ := recordCoverage_ok h
    rw [hframe]
    exact ⟨fun _ => rfl, rfl⟩
  | operator f hf => exact ⟨fun _ => rfl, rfl⟩
  | settings queries policies maintenance retired => exact ⟨fun _ => rfl, rfl⟩

theorem sound_core (hs : s.Sound rfc3339) (h : CoreStep rfc3339 s.core db) :
    ({ s with core := db } : Store).Sound rfc3339 := by
  obtain ⟨hgenerations, hpinned⟩ := h.frame
  have hids : ∀ g ∈ s.generationIds, g ∈ ({ s with core := db } : Store).generationIds := by
    intro g hg
    rw [mem_generationIds] at hg ⊢
    rw [← hg]
    exact hgenerations g
  refine ⟨h.served hs.served, fun g hg => hids g (hs.extras g hg), fun g hg => hids g (hs.pinned g ?_)⟩
  rw [← hpinned]
  exact hg

theorem sound_publish {r : Report} {res : PublishResult} (hs : s.Sound rfc3339)
    (h : publishReport s r = .ok (s', res)) :
    s'.Sound rfc3339 := by
  obtain ⟨core, s₁, hcore, hruns, hrest⟩ := publishReport_runs h
  have hp := publishBatch_published hcore
  have hcore' := congrArg Store.core hrest
  have hextras' := congrArg Store.extras hrest
  change s'.core = s₁.core at hcore'
  change s'.extras = s₁.extras at hextras'
  rw [hruns.core] at hcore'
  have hids : s'.generationIds = s.generationIds ++ [res.generationId] := by
    unfold Store.generationIds
    rw [hcore', hp.generations, map_append]
    rfl
  have hold : ∀ g, g = res.generationId ∨ g ∈ s.generationIds → g ∈ s'.generationIds := by
    intro g hg
    rw [hids, mem_append, mem_singleton]
    exact hg.symm
  refine ⟨?_, ?_, ?_⟩
  · rw [hcore']
    exact .publish r.batch hs.served hcore
  · intro g hg
    rw [hextras'] at hg
    exact hold g ((hruns.mem_extras hg).imp_right (hs.extras g))
  · intro g hg
    rw [hcore'] at hg
    exact hold g ((pinned_publishBatch hcore hg).imp_right (hs.pinned g))

/-- A sweep does to the core tables what `Db.prune` says. -/
theorem core_cascade (hs : s.Sound rfc3339) (hmany : maxGenerations < s.generationIds.length) {low high : Int}
    (hlow : (Sql.smallest (s.generationIds.length - maxGenerations) s.generationIds).min? = some low)
    (hhigh : (Sql.smallest (s.generationIds.length - maxGenerations) s.generationIds).max? = some high) :
    s.core.cascade (· ∈ s.generationIds.filter (inRange low high)) = s.core.prune maxGenerations := by
  refine cascade_congr (served_linked hs.served) (served_known hs.served) fun g hg => ?_
  have hmem := mem_generationIds.mpr hg
  have hcount := Sql.length_below_above (nodup_generationIds s) hmem
  have hnewer : (s.core.generations.rows.filter (g < ·.generationId)).length =
      (s.generationIds.filter (g < ·)).length := by
    unfold Store.generationIds
    rw [filter_map, length_map]
    rfl
  rw [Bool.eq_iff_iff, decide_eq_true_eq, decide_eq_true_eq, mem_range hlow hhigh,
    Sql.mem_smallest (nodup_generationIds s), hnewer]
  simp only [hmem, true_and]
  omega

theorem sound_prune {now : String} {stats : PruneStats} (hs : s.Sound rfc3339)
    (h : prune s maxGenerations now = .ok (s', stats)) : s'.Sound rfc3339 := by
  by_cases hfew : s.generationIds.length ≤ maxGenerations
  · unfold prune at h
    rw [if_pos hfew] at h
    cases h
    exact hs
  · have hmany : maxGenerations < s.generationIds.length := by omega
    obtain ⟨low, high, hlow, hhigh, hfree, hs', _⟩ := (prune_ok hmany).mp h
    have hids : s'.generationIds =
        s.generationIds.filter fun g => !decide (g ∈ s.generationIds.filter (inRange low high)) := by
      rw [hs', generationIds_cascade]
      rfl
    have hcore : s'.core = s.core.prune maxGenerations := by
      rw [hs']
      exact core_cascade hs hmany hlow hhigh
    refine ⟨?_, ?_, ?_⟩
    · rw [hcore]
      exact .prune maxGenerations hs.served
    · intro g hg
      have hextras : s'.extras = s.extras.filter fun g => !decide (g ∈ s.generationIds.filter (inRange low high)) := by
        rw [hs']
        simp only [Store.extras, Store.cascade, Store.mint, Table.rows_delete, filter_append, filter_map]
        rfl
      rw [hextras, mem_filter] at hg
      rw [hids, mem_filter]
      exact ⟨hs.extras g hg.1, hg.2⟩
    · intro g hg
      have hpinned : s'.core.pinned = s.core.pinned := by rw [hs']; rfl
      rw [hpinned] at hg
      rw [hids, mem_filter]
      rw [Bool.not_eq_true', decide_eq_false_iff_not]
      exact ⟨hs.pinned g hg, hfree g hg⟩

theorem kept_sound (h : Kept rfc3339 s) : s.Sound rfc3339 := by
  induction h with
  | init queries policies => exact ⟨.init queries policies, fun g hg => (nomatch hg), fun g hg => (nomatch hg)⟩
  | publish r _ h ih => exact sound_publish ih h
  | core _ h ih => exact sound_core ih h
  | @observe s regime dns loop evaluator _ hg ih =>
    refine ⟨ih.served, fun g hmem => ?_, ih.pinned⟩
    change g ∈ s.generationIds
    have hextras := ih.extras
    simp only [Store.extras, mem_append] at hmem hg hextras
    grind
  | prune maxGenerations now _ h ih => exact sound_prune ih h

/-- On a kept store a sweep does what it promises exactly when every current-state row of
    the five tables is of one of the newest `maxGenerations` generations. -/
theorem prune_meets_contract_iff {s : Store} (h : Kept rfc3339 s) (maxGenerations : Nat) (now : String) :
    (∃ s' stats, prune s maxGenerations now = .ok (s', stats) ∧ Swept s maxGenerations now s' stats) ↔
      ∀ g ∈ s.core.pinned, (s.generationIds.filter (g < ·)).length < maxGenerations :=
  prune_sweeps_iff (kept_sound h).linked maxGenerations now

/-- A cycle in which the host collector of this host answered. -/
def hostReport (host : String) : Report := { hostRows := [⟨host, {}, ""⟩] }

/-- Two cycles on a fresh store. -/
def twoCycles (first second : Report) : Except DbError (Store × Store) := do
  let (s₁, _) ← publishReport (.of Db.init) first
  let (s₂, _) ← publishReport s₁ second
  return (s₁, s₂)

theorem kept_twoCycles {first second : Report} {s₁ s₂ : Store} (h : twoCycles first second = .ok (s₁, s₂)) :
    Kept (fun _ => .ok 0) s₂ := by
  obtain ⟨⟨s, res⟩, h₁, h⟩ := Sql.bind_ok.mp h
  obtain ⟨⟨s', res'⟩, h₂, h⟩ := Sql.bind_ok.mp h
  cases h
  exact .publish second (.publish first (.init ⟨.empty, nodup_nil⟩ .empty) h₁) h₂

theorem a_reporting_host_lets_the_sweep_through : ∃ s₁ s₂, twoCycles (hostReport "db-1") (hostReport "db-1") =
    .ok (s₁, s₂) ∧ ∃ s' stats, prune s₂ 1 "" = .ok (s', stats) ∧ Swept s₂ 1 "" s' stats := by
  have h : (twoCycles (hostReport "db-1") (hostReport "db-1")).toOption.map (fun p =>
      p.2.core.pinned.all fun g => decide ((p.2.generationIds.filter (g < ·)).length < 1)) = some true := by
    decide +kernel
  obtain ⟨⟨s₁, s₂⟩, hp, h⟩ := Sql.ok_of_toOption h
  refine ⟨s₁, s₂, hp, (prune_meets_contract_iff (kept_twoCycles hp) 1 "").mpr fun g hg => ?_⟩
  simpa using all_eq_true.mp h g hg

/-- The host answered in the first cycle and not in the second; of the two generations only
    one may stay, and the sweep is refused. -/
theorem a_silent_host_blocks_the_sweep : ∃ s₁ s₂, twoCycles (hostReport "db-1") {} = .ok (s₁, s₂) ∧
    Kept (fun _ => .ok 0) s₂ ∧ s₂.generationIds.length = 2 ∧ ∀ s' stats, prune s₂ 1 "" ≠ .ok (s', stats) := by
  have h : (twoCycles (hostReport "db-1") {}).toOption.map (fun p =>
      (p.2.generationIds.length, (prune p.2 1 "").toOption.isSome)) = some (2, false) := by
    decide +kernel
  obtain ⟨⟨s₁, s₂⟩, hp, h⟩ := Sql.ok_of_toOption h
  simp only [Prod.mk.injEq] at h
  refine ⟨s₁, s₂, hp, kept_twoCycles hp, h.1, ?_⟩
  intro s' stats hok
  rw [hok] at h
  cases h.2

end

end Nq
