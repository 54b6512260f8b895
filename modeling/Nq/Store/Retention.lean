/-
  Nq.Store.Retention — the retention sweep and its receipt (`nq-db/src/retention.rs`,
  `prune`), and the runs of a store.

  A sweep deletes all but the newest `max` generations and lets ON DELETE CASCADE take
  their rows out of every table with a `generation_id` column. The receipt is written
  first, in the same transaction; its range, count and row counts are exactly what is
  deleted (`prune_receipted`).

  Five current-state tables (hosts, services, databases, metrics, logs) reference
  `generations` by `as_of_generation`, without an action on delete, so the sweep is refused
  while a row of one of them is of a generation to be deleted: a host that fell silent
  keeps its last rows, and once `max` newer generations exist no sweep succeeds
  (`prune_meets_contract_iff`).
-/

import Nq.Sql.Query
import Nq.Store.Publish

namespace Nq

open List
open Sql (Table)

/-! ## The sweep -/

namespace Store

def generationIds (s : Store) : List Int := s.core.generations.rows.map GenerationRow.generationId

/-- `generation_id_tables`: the tables with a `generation_id` column in order of name, each
    with the generations its rows are of. -/
def generationIdTables (s : Store) : List (String × List Int) :=
  [("collector_runs", s.collectorRuns.rows.map CollectorRunRow.generationId),
    ("dns_observations", s.dnsObservations),
    ("finding_observations", s.core.findingObservations.rows.map ObservationRow.generationId),
    ("hosts_history", s.core.hostsHistory.rows.map History.generationId),
    ("log_observations_history", s.core.logObservationsHistory.rows.map History.generationId),
    ("metrics_history", s.core.metricsHistory.map History.generationId),
    ("nq_binary_observations", s.nqBinaryObservations.map History.generationId),
    ("nq_evaluator_observations", s.nqEvaluatorObservations),
    ("observation_loop_alive_observations", s.observationLoopAliveObservations),
    ("regime_features", s.regimeFeatures),
    ("service_observations", s.serviceObservations.rows.map ServiceObservationRow.generationId),
    ("services_history", s.core.servicesHistory.rows.map History.generationId),
    ("smart_reallocated_history", s.core.smartReallocatedHistory.rows.map History.generationId),
    ("source_runs", s.core.sourceRuns.rows.map SourceRunRow.generationId),
    ("wal_observations", s.walObservations.map History.generationId),
    ("zfs_pools_history", s.core.zfsPoolsHistory.rows.map History.generationId),
    ("zfs_spares_history", s.core.zfsSparesHistory.rows.map History.generationId),
    ("zfs_vdev_errors_history", s.core.zfsVdevErrorsHistory.rows.map History.generationId)]

/-- ON DELETE CASCADE from `generations`. -/
def cascade (s : Store) (doomed : Int → Bool) : Store :=
  { s with
    core := s.core.cascade doomed
    collectorRuns := s.collectorRuns.delete (doomed ·.generationId)
    serviceObservations := s.serviceObservations.delete (doomed ·.generationId)
    walObservations := s.walObservations.filter (!doomed ·.generationId)
    nqBinaryObservations := s.nqBinaryObservations.filter (!doomed ·.generationId)
    regimeFeatures := s.regimeFeatures.filter (!doomed ·)
    dnsObservations := s.dnsObservations.filter (!doomed ·)
    observationLoopAliveObservations := s.observationLoopAliveObservations.filter (!doomed ·)
    nqEvaluatorObservations := s.nqEvaluatorObservations.filter (!doomed ·) }

end Store

/-- The generations that current-state rows reference without an action on delete. -/
def Db.pinned (db : Db) : List Int :=
  db.hostsCurrent.rows.map Current.asOfGeneration ++ db.servicesCurrent.rows.map Current.asOfGeneration ++
    db.monitoredDbsCurrent.rows.map Current.asOfGeneration ++ db.metricsCurrent.rows.map Current.asOfGeneration ++
    db.logObservationsCurrent.rows.map Current.asOfGeneration

def inRange (low high g : Int) : Bool := low ≤ g && g ≤ high

namespace Store

/-- `DELETE FROM generations WHERE generation_id >= low AND generation_id <= high`. -/
def deleteGenerations (s : Store) (low high : Int) : Except DbError (Store × Nat) :=
  let doomed := s.generationIds.filter (inRange low high)
  if s.core.pinned.any (· ∈ doomed) then .error .foreignKeyViolation
  else .ok (s.cascade (· ∈ doomed), doomed.length)

/-- The rows of each table in a range of generations; a table with none is not listed. -/
def rowsDeleted (s : Store) (low high : Int) : List (String × Nat) :=
  (s.generationIdTables.map fun t => (t.1, (t.2.filter (inRange low high)).length)).filter (0 < ·.2)

end Store

structure PruneStats where
  generationsPruned : Nat
  tombstoneId : Option Int
  generationIdLow : Option Int
  generationIdHigh : Option Int
  rowsDeleted : List (String × Nat)
  deriving DecidableEq

def PruneStats.noop : PruneStats := ⟨0, none, none, none, []⟩

/-- The receipt of a sweep, with the rows counted before it deletes them. -/
def Store.tombstone (s : Store) (maxGenerations : Nat) (now : String) (low high : Int) : TombstoneRow where
  tombstoneId := s.evidenceTombstones.nextRowid
  generationIdLow := low
  generationIdHigh := high
  generationsDeleted := (s.generationIds.length - maxGenerations : Nat)
  rowsDeleted := s.rowsDeleted low high
  retentionRuleCited := s!"retention.max_generations={maxGenerations}"
  tombstonedAt := now

/-- The receipt is written first; it goes with the transaction if the delete fails. -/
def Store.mint (s : Store) (maxGenerations : Nat) (now : String) (low high : Int) : Store :=
  { s with
    evidenceTombstones :=
      s.evidenceTombstones.append (s.tombstone maxGenerations now low high) s.evidenceTombstones.get_nextRowid }

def prune (s : Store) (maxGenerations : Nat) (now : String) : Except DbError (Store × PruneStats) :=
  let count := s.generationIds.length
  if count ≤ maxGenerations then .ok (s, .noop)
  else
    let doomed := Sql.smallest (count - maxGenerations) s.generationIds
    match doomed.min?, doomed.max? with
    | some low, some high => do
      let t := s.tombstone maxGenerations now low high
      if t.check then
        let (s', deleted) ← (s.mint maxGenerations now low high).deleteGenerations low high
        return (s', ⟨deleted, some t.tombstoneId, some low, some high, t.rowsDeleted⟩)
      else .error .checkViolation
    -- MIN and MAX of no rows are NULL
    | _, _ => .error .notNullViolation

/-! ## What a sweep leaves -/

/-- The generations a sweep deleted. -/
def gone (s s' : Store) : List Int := s.generationIds.filter (· ∉ s'.generationIds)

/-- The rows each table with a `generation_id` column lost. -/
def removed (s s' : Store) : List (String × Nat) :=
  ((s.generationIdTables.zip s'.generationIdTables).map fun t => (t.1.1, t.1.2.length - t.2.2.length)).filter (0 < ·.2)

/-- The oldest generations are gone down to `maxGenerations`, with their rows and nothing
    else, and there is one receipt of exactly that, or none if nothing is gone. -/
structure Swept (s : Store) (maxGenerations : Nat) (now : String) (s' : Store) (stats : PruneStats) : Prop where
  bounded : s'.generationIds.length ≤ maxGenerations
  count : (gone s s').length = s.generationIds.length - maxGenerations
  oldest : ∀ g ∈ gone s s', ∀ k ∈ s'.generationIds, g < k
  cascade : s' = { s.cascade (· ∈ gone s s') with evidenceTombstones := s'.evidenceTombstones }
  unreceipted : gone s s' = [] → s' = s ∧ stats = .noop
  receipted : gone s s' ≠ [] → ∃ t : TombstoneRow, s'.evidenceTombstones.rows = s.evidenceTombstones.rows ++ [t] ∧
    t.generationIdLow ∈ gone s s' ∧ t.generationIdHigh ∈ gone s s' ∧
    (∀ g ∈ s.generationIds, g ∈ gone s s' ↔ t.generationIdLow ≤ g ∧ g ≤ t.generationIdHigh) ∧
    t.generationsDeleted = (gone s s').length ∧ t.rowsDeleted = removed s s' ∧
    t.retentionRuleCited = s!"retention.max_generations={maxGenerations}" ∧ t.tombstonedAt = now ∧
    stats = ⟨(gone s s').length, some t.tombstoneId, some t.generationIdLow, some t.generationIdHigh, t.rowsDeleted⟩

/-- The foreign keys on `generations` hold. -/
structure Store.Linked (s : Store) : Prop where
  tables : ∀ t ∈ s.generationIdTables, ∀ g ∈ t.2, g ∈ s.generationIds
  pinned : ∀ g ∈ s.core.pinned, g ∈ s.generationIds

theorem nodup_generationIds (s : Store) : s.generationIds.Nodup := s.core.generations.nodup

theorem generationIds_cascade (s : Store) (doomed : Int → Bool) :
    (s.cascade doomed).generationIds = s.generationIds.filter (!doomed ·) := map_filter_gen doomed _

theorem generationIdTables_cascade (s : Store) (doomed : Int → Bool) :
    (s.cascade doomed).generationIdTables = s.generationIdTables.map fun t => (t.1, t.2.filter (!doomed ·)) := by
  simp only [Store.generationIdTables, Store.cascade, Db.cascade, Table.rows_delete, map_filter_gen, map_cons,
    map_nil]

theorem cascade_nothing (s : Store) : s.cascade (fun _ => false) = s := by
  have hlist : ∀ {ρ : Type} (rows : List ρ), rows.filter (fun _ => !false) = rows := fun rows => by simp
  simp only [Store.cascade, Db.cascade, hlist]
  simp only [Table.delete_eq_self fun _ _ => rfl]

section

variable {s : Store} {maxGenerations : Nat} {now : String}

/-- The generations between the least and the greatest doomed one are the doomed ones. -/
theorem mem_range {low high g : Int} {n : Nat} (hlow : (Sql.smallest n s.generationIds).min? = some low)
    (hhigh : (Sql.smallest n s.generationIds).max? = some high) :
    g ∈ s.generationIds.filter (inRange low high) ↔ g ∈ Sql.smallest n s.generationIds := by
  have hsub : g ∈ Sql.smallest n s.generationIds → g ∈ s.generationIds :=
    fun h => ((Sql.mem_smallest (nodup_generationIds s)).mp h).1
  rw [mem_filter, inRange, Bool.and_eq_true, decide_eq_true_eq, decide_eq_true_eq]
  constructor
  · intro h
    exact (Sql.range_smallest (nodup_generationIds s) hlow hhigh h.1).mp h.2
  · intro h
    exact ⟨hsub h, (Sql.range_smallest (nodup_generationIds s) hlow hhigh (hsub h)).mpr h⟩

/-- A sweep with something to prune: the receipt, then the delete, unless it is refused. -/
theorem prune_ok {s' : Store} {stats : PruneStats} (hmany : maxGenerations < s.generationIds.length) :
    prune s maxGenerations now = .ok (s', stats) ↔ ∃ low high,
      (Sql.smallest (s.generationIds.length - maxGenerations) s.generationIds).min? = some low ∧
      (Sql.smallest (s.generationIds.length - maxGenerations) s.generationIds).max? = some high ∧
      (∀ g ∈ s.core.pinned, g ∉ s.generationIds.filter (inRange low high)) ∧
      s' = (s.mint maxGenerations now low high).cascade (· ∈ s.generationIds.filter (inRange low high)) ∧
      stats = ⟨(s.generationIds.filter (inRange low high)).length, some s.evidenceTombstones.nextRowid, some low,
        some high, s.rowsDeleted low high⟩ := by
  unfold prune
  rw [if_neg (by omega)]
  dsimp only
  cases hlow : (Sql.smallest (s.generationIds.length - maxGenerations) s.generationIds).min? with
  | none =>
    constructor
    · intro h; cases h
    · intro h; obtain ⟨_, _, h, _⟩ := h; cases h
  | some low =>
    cases hhigh : (Sql.smallest (s.generationIds.length - maxGenerations) s.generationIds).max? with
    | none =>
      constructor
      · intro h; cases h
      · intro h; obtain ⟨_, _, _, h, _⟩ := h; cases h
    | some high =>
      have hcheck : (s.tombstone maxGenerations now low high).check = true := by
        have hle : low ≤ high := (max?_eq_some_iff.mp hhigh).2 low (min?_eq_some_iff.mp hlow).1
        simp [TombstoneRow.check, Store.tombstone, hle]
      simp only [hcheck, if_true, Option.some.injEq]
      have hdelete : ∀ s₁ n, (s.mint maxGenerations now low high).deleteGenerations low high = .ok (s₁, n) ↔
          (∀ g ∈ s.core.pinned, g ∉ s.generationIds.filter (inRange low high)) ∧
          s₁ = (s.mint maxGenerations now low high).cascade (· ∈ s.generationIds.filter (inRange low high)) ∧
          n = (s.generationIds.filter (inRange low high)).length := by
        intro s₁ n
        change (if s.core.pinned.any (· ∈ s.generationIds.filter (inRange low high)) then _ else _) = _ ↔ _
        rw [Sql.ite_error_ok]
        refine and_congr ?_ ?_
        · simp
        · constructor
          · intro h; cases h; exact ⟨rfl, rfl⟩
          · intro h; rw [h.1, h.2]; rfl
      constructor
      · intro h
        obtain ⟨⟨s₁, n⟩, h₁, h⟩ := Sql.bind_ok.mp h
        obtain ⟨hpinned, hs₁, hn⟩ := (hdelete s₁ n).mp h₁
        cases h
        exact ⟨low, high, rfl, rfl, hpinned, hs₁, by rw [hn]; rfl⟩
      · intro h
        obtain ⟨low', high', elow, ehigh, hpinned, hs', hstats⟩ := h
        subst elow ehigh hs' hstats
        exact Sql.bind_ok.mpr ⟨_, (hdelete _ _).mpr ⟨hpinned, rfl, rfl⟩, rfl⟩

/-- Nothing to prune: nothing changes. -/
theorem swept_noop (hfew : s.generationIds.length ≤ maxGenerations) : Swept s maxGenerations now s .noop := by
  have hgone : gone s s = [] := by
    refine filter_eq_nil_iff.mpr fun g hg hnot => ?_
    simp only [decide_eq_true_eq] at hnot
    exact hnot hg
  refine ⟨hfew, ?_, ?_, ?_, fun _ => ⟨rfl, rfl⟩, fun h => absurd hgone h⟩
  · rw [hgone, length_nil]; omega
  · intro g hg; rw [hgone] at hg; cases hg
  · have hnone : (fun g => decide (g ∈ gone s s)) = fun _ => false := by
      funext g
      simp [hgone]
    rw [hnone, cascade_nothing]

variable {low high : Int}
  (hlow : (Sql.smallest (s.generationIds.length - maxGenerations) s.generationIds).min? = some low)
  (hhigh : (Sql.smallest (s.generationIds.length - maxGenerations) s.generationIds).max? = some high)
include hlow hhigh

theorem length_range :
    (s.generationIds.filter (inRange low high)).length = s.generationIds.length - maxGenerations := by
  have hsame : s.generationIds.filter (inRange low high) =
      s.generationIds.filter (· ∈ Sql.smallest (s.generationIds.length - maxGenerations) s.generationIds) := by
    refine filter_congr fun g hg => ?_
    have hmem := mem_range (g := g) hlow hhigh
    rw [mem_filter] at hmem
    rw [Bool.eq_iff_iff, decide_eq_true_eq, ← hmem]
    simp [hg]
  rw [hsame, Sql.length_filter_smallest (nodup_generationIds s)]
  omega

omit hlow hhigh in
/-- What is gone after a cascade over part of the generations. -/
theorem gone_cascade {s₁ : Store} (h₁ : s₁.generationIds = s.generationIds) (p : Int → Bool) :
    gone s (s₁.cascade (· ∈ s.generationIds.filter p)) = s.generationIds.filter p := by
  unfold gone
  rw [generationIds_cascade, h₁]
  refine filter_congr fun g hg => ?_
  rw [Bool.eq_iff_iff]
  simp [mem_filter, hg]

omit hlow hhigh in
theorem removed_cascade (hl : s.Linked) {s₁ : Store} (h₁ : s₁.generationIdTables = s.generationIdTables)
    (low high : Int) :
    removed s (s₁.cascade (· ∈ s.generationIds.filter (inRange low high))) = s.rowsDeleted low high := by
  unfold removed Store.rowsDeleted
  rw [generationIdTables_cascade, h₁]
  refine congrArg _ ?_
  have hzip : ∀ (ts : List (String × List Int)) (f : String × List Int → String × List Int),
      (ts.zip (ts.map f)).map (fun t => (t.1.1, t.1.2.length - t.2.2.length)) =
        ts.map fun t => (t.1, t.2.length - (f t).2.length) := by
    intro ts f
    induction ts with
    | nil => rfl
    | cons t ts ih => simp [ih]
  rw [hzip]
  refine map_congr_left fun t ht => ?_
  have hsplit := length_eq_length_filter_add (l := t.2) (inRange low high)
  have hkept : t.2.filter (fun g => !decide (g ∈ s.generationIds.filter (inRange low high))) =
      t.2.filter (fun g => !inRange low high g) := by
    refine filter_congr fun g hg => ?_
    simp [mem_filter, hl.tables t ht g hg]
  rw [hkept]
  refine congrArg (t.1, ·) ?_
  show t.2.length - (t.2.filter fun g => !inRange low high g).length = (t.2.filter (inRange low high)).length
  omega

/-- Every sweep that succeeds is receipted exactly. -/
theorem prune_swept (hl : s.Linked) (hmany : maxGenerations < s.generationIds.length)
    (hfree : ∀ g ∈ s.core.pinned, g ∉ s.generationIds.filter (inRange low high)) :
    ∃ s' stats, prune s maxGenerations now = .ok (s', stats) ∧ Swept s maxGenerations now s' stats := by
  refine ⟨_, _, (prune_ok hmany).mpr ⟨low, high, hlow, hhigh, hfree, rfl, rfl⟩, ?_⟩
  have hgone : gone s ((s.mint maxGenerations now low high).cascade (· ∈ s.generationIds.filter (inRange low high))) =
      s.generationIds.filter (inRange low high) := gone_cascade rfl (inRange low high)
  have hlength := length_range hlow hhigh
  have hids : ((s.mint maxGenerations now low high).cascade (· ∈
    s.generationIds.filter (inRange low high))).generationIds =
      s.generationIds.filter fun g => !decide (g ∈ s.generationIds.filter (inRange low high)) :=
        generationIds_cascade _ _
  refine ⟨?_, ?_, ?_, ?_, ?_, ?_⟩
  · have hsplit := length_eq_length_filter_add (l := s.generationIds) (inRange low high)
    have hkept : s.generationIds.filter (fun g => !decide (g ∈ s.generationIds.filter (inRange low high))) =
        s.generationIds.filter fun g => !inRange low high g := by
      refine filter_congr fun g hg => ?_
      simp [mem_filter, hg]
    rw [hids, hkept]
    omega
  · rw [hgone, hlength]
  · intro g hg k hk
    rw [hgone, mem_range hlow hhigh, Sql.mem_smallest (nodup_generationIds s)] at hg
    rw [hids, mem_filter, Bool.not_eq_true', decide_eq_false_iff_not, mem_range hlow hhigh,
      Sql.mem_smallest (nodup_generationIds s)] at hk
    by_contra hle
    refine hk.2 ⟨hk.1, Nat.lt_of_le_of_lt (List.Sublist.length_le ?_) hg.2⟩
    refine monotone_filter_right _ fun y hy => ?_
    simp only [decide_eq_true_eq] at hy ⊢
    omega
  · rw [hgone]
    rfl
  · intro hnil
    rw [hgone] at hnil
    rw [hnil, length_nil] at hlength
    omega
  · intro _
    rw [hgone]
    refine ⟨s.tombstone maxGenerations now low high, rfl, ?_, ?_, ?_, ?_, ?_, rfl, rfl, rfl⟩
    · exact (mem_range hlow hhigh).mpr (min?_eq_some_iff.mp hlow).1
    · exact (mem_range hlow hhigh).mpr (max?_eq_some_iff.mp hhigh).1
    · intro g hg
      rw [mem_filter, inRange, Bool.and_eq_true, decide_eq_true_eq, decide_eq_true_eq]
      exact and_iff_right hg
    · rw [hlength]
      rfl
    · exact (removed_cascade hl rfl low high).symm

end

/-- A sweep goes through exactly when no current-state row is of a generation with
    `maxGenerations` newer ones. -/
theorem prune_sweeps_iff {s : Store} (hl : s.Linked) (maxGenerations : Nat) (now : String) :
    (∃ s' stats, prune s maxGenerations now = .ok (s', stats) ∧ Swept s maxGenerations now s' stats) ↔
      ∀ g ∈ s.core.pinned, (s.generationIds.filter (g < ·)).length < maxGenerations := by
  by_cases hfew : s.generationIds.length ≤ maxGenerations
  · constructor
    · intro _ g hg
      have := Sql.length_below_above (nodup_generationIds s) (hl.pinned g hg)
      omega
    · intro _
      exact ⟨s, .noop, if_pos hfew, swept_noop hfew⟩
  · have hmany : maxGenerations < s.generationIds.length := by omega
    have hdoomed : ∀ g ∈ s.core.pinned, g ∉ Sql.smallest (s.generationIds.length - maxGenerations) s.generationIds ↔
        (s.generationIds.filter (g < ·)).length < maxGenerations := by
      intro g hg
      have hmem := hl.pinned g hg
      have := Sql.length_below_above (nodup_generationIds s) hmem
      rw [Sql.mem_smallest (nodup_generationIds s)]
      simp only [hmem, true_and]
      omega
    constructor
    · intro h g hg
      obtain ⟨s', stats, h, _⟩ := h
      obtain ⟨low, high, hlow, hhigh, hfree, _⟩ := (prune_ok hmany).mp h
      have hnot := hfree g hg
      rw [mem_range hlow hhigh] at hnot
      exact (hdoomed g hg).mp hnot
    · intro h
      have hsome : Sql.smallest (s.generationIds.length - maxGenerations) s.generationIds ≠ [] := by
        intro hnil
        have hlength := Sql.length_filter_smallest (n := s.generationIds.length -
          maxGenerations) (nodup_generationIds s)
        rw [hnil] at hlength
        simp at hlength
        omega
      obtain ⟨low, hlow⟩ := Option.ne_none_iff_exists'.mp (mt min?_eq_none_iff.mp hsome)
      obtain ⟨high, hhigh⟩ := Option.ne_none_iff_exists'.mp (mt max?_eq_none_iff.mp hsome)
      refine prune_swept hlow hhigh hl hmany fun g hg => ?_
      rw [mem_range hlow hhigh]
      exact (hdoomed g hg).mpr (h g hg)

end Nq
