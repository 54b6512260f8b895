/-
  Nq.Db.Migrations — the migrations of the database (`nq-db/migrations`, listed in
  `nq-db/src/migrate.rs`), as far as they create, drop and rename objects.

  Columns, constraints and rows are not modelled, so of the statements that may fail for them
  it is left open whether they do (`Nq.Db.Startup`).

  - `Ddl.exec`: one statement on the objects there are.
  - `execAll_hasTable`: a table that no statement drops or renames stays.
  - `migrations_exec`: from an empty database each of the migrations finds the tables it
    alters and none of the names it takes.
-/

import Nq.Sql.Table

namespace Nq.Migrate

open List

/-! ## Statements -/

/-- A row of `sqlite_master`. -/
inductive SqlObject where
  | table (name : String)
  | view (name : String)
  | index (name table : String)
  deriving DecidableEq, Repr

def SqlObject.name : SqlObject → String
  | .table name => name
  | .view name => name
  | .index name _ => name

abbrev Schema := List SqlObject

inductive Ddl where
  | createTable (name : String)
  | createIndex (name table : String)
  | createView (name : String)
  | dropTable (name : String)
  | dropView (name : String)
  | dropViewIfExists (name : String)
  | renameTable (old new : String)
  /-- ADD COLUMN, once or more. -/
  | alterTable (name : String)
  deriving DecidableEq, Repr

inductive SqlError where
  | alreadyExists (name : String)
  | noSuchTable (name : String)
  | noSuchView (name : String)
  deriving DecidableEq, Repr

def hasTable (s : Schema) (name : String) : Bool := .table name ∈ s

def hasView (s : Schema) (name : String) : Bool := .view name ∈ s

def taken (s : Schema) (name : String) : Bool := name ∈ s.map SqlObject.name

/-- A table, or an index on it. -/
def SqlObject.ofTable (name : String) : SqlObject → Bool
  | .table t => t = name
  | .view _ => false
  | .index _ t => t = name

def SqlObject.renamed (old new : String) : SqlObject → SqlObject
  | .table t => .table (if t = old then new else t)
  | .view v => .view v
  | .index i t => .index i (if t = old then new else t)

def Ddl.exec (s : Schema) : Ddl → Except SqlError Schema
  | .createTable name => if taken s name then .error (.alreadyExists name) else .ok (s ++ [SqlObject.table name])
  | .createIndex name table =>
    if taken s name then .error (.alreadyExists name)
    else if hasTable s table then .ok (s ++ [.index name table]) else .error (.noSuchTable table)
  | .createView name => if taken s name then .error (.alreadyExists name) else .ok (s ++ [SqlObject.view name])
  | .dropTable name => if hasTable s name then .ok (s.filter (!·.ofTable name)) else .error (.noSuchTable name)
  | .dropView name => if hasView s name then .ok (s.filter (· ≠ .view name)) else .error (.noSuchView name)
  | .dropViewIfExists name => .ok (s.filter (· ≠ .view name))
  | .renameTable old new =>
    if !hasTable s old then .error (.noSuchTable old)
    else if taken s new then .error (.alreadyExists new) else .ok (s.map (SqlObject.renamed old new))
  | .alterTable name => if hasTable s name then .ok s else .error (.noSuchTable name)

/-- `execute_batch` -/
def execAll (sql : List Ddl) (s : Schema) : Except SqlError Schema := sql.foldlM Ddl.exec s

/-- A version, and what its file does. -/
abbrev Migration := Nat × List Ddl

/-- The statements of some migrations, in order. -/
def statements (ms : List Migration) : List Ddl := ms.flatMap Prod.snd

theorem execAll_append (sql sql' : List Ddl) (s : Schema) : execAll (sql ++ sql') s = execAll sql s >>= execAll sql' :=
  foldlM_append

theorem statements_append (ms ms' : List Migration) : statements (ms ++ ms') = statements ms ++ statements ms' :=
  flatMap_append

variable {s s' : Schema} {name : String}

/-- What the first migrations left, the others go on from. -/
theorem execAll_drop {ms : List Migration} {v : Nat} (h : execAll (statements ms) [] = .ok s')
    (hs : execAll (statements (ms.take v)) [] = .ok s) : execAll (statements (ms.drop v)) s = .ok s' := by
  rw [← take_append_drop v ms, statements_append, execAll_append, hs] at h
  exact h

/-! ## Tables that stay -/

/-- The statement takes a table of this name away. -/
def Ddl.removes (name : String) : Ddl → Bool
  | .dropTable table => table = name
  | .renameTable old _ => old = name
  | _ => false

/-- Views and other tables go; a table of another name is not renamed. -/
theorem exec_hasTable {d : Ddl} (h : d.exec s = .ok s') (hd : d.removes name = false) (ht : hasTable s name = true) :
    hasTable s' name = true := by
  unfold hasTable at ht ⊢
  simp only [decide_eq_true_eq] at ht ⊢
  cases d with
  | createTable n =>
    simp only [Ddl.exec, Sql.ite_error_ok, Except.ok.injEq] at h
    simp [← h.2, ht]
  | createIndex n t =>
    simp only [Ddl.exec, Sql.ite_error_ok] at h
    split at h
    · cases h.2
      simp [ht]
    · cases h.2
  | createView n =>
    simp only [Ddl.exec, Sql.ite_error_ok, Except.ok.injEq] at h
    simp [← h.2, ht]
  | dropTable n =>
    simp only [Ddl.removes, decide_eq_false_iff_not] at hd
    by_cases hn : hasTable s n = true
    · simp only [Ddl.exec, hn, if_true, Except.ok.injEq] at h
      simp [← h, ht, SqlObject.ofTable, Ne.symm hd]
    · simp [Ddl.exec, hn] at h
  | dropView n =>
    by_cases hn : hasView s n = true
    · simp only [Ddl.exec, hn, if_true, Except.ok.injEq] at h
      simp [← h, ht]
    · simp [Ddl.exec, hn] at h
  | dropViewIfExists n =>
    simp only [Ddl.exec, Except.ok.injEq] at h
    simp [← h, ht]
  | renameTable old new =>
    simp only [Ddl.removes, decide_eq_false_iff_not] at hd
    simp only [Ddl.exec, Sql.ite_error_ok, Except.ok.injEq] at h
    rw [← h.2.2]
    refine List.mem_map.mpr ⟨.table name, ht, ?_⟩
    simp [SqlObject.renamed, Ne.symm hd]
  | alterTable n =>
    by_cases hn : hasTable s n = true
    · simp only [Ddl.exec, hn, if_true, Except.ok.injEq] at h
      exact h ▸ ht
    · simp [Ddl.exec, hn] at h

theorem execAll_hasTable {sql : List Ddl} (hd : ∀ d ∈ sql, d.removes name = false) :
    ∀ {s s' : Schema}, execAll sql s = .ok s' → hasTable s name = true → hasTable s' name = true := by
  induction sql with
  | nil =>
    intro s s' h ht
    cases h
    exact ht
  | cons d sql ih =>
    intro s s' h ht
    obtain ⟨s₁, h₁, h⟩ := Sql.bind_ok.mp h
    exact ih (fun d' hd' => hd d' (mem_cons_of_mem _ hd')) h (exec_hasTable h₁ (hd d mem_cons_self) ht)

/-! ## The list -/

def migrations : List Migration := [
  (1, [.createTable "generations", .createIndex "idx_generations_completed_at" "generations",
    .createTable "source_runs", .createIndex "idx_source_runs_source_gen" "source_runs", .createTable "collector_runs",
    .createIndex "idx_collector_runs_source_gen" "collector_runs", .createTable "hosts_current",
    .createIndex "idx_hosts_current_gen" "hosts_current", .createTable "services_current",
    .createIndex "idx_services_current_host_gen" "services_current", .createTable "monitored_dbs_current",
    .createIndex "idx_monitored_dbs_current_host_gen" "monitored_dbs_current"]),
  (2, [.createView "v_hosts", .createView "v_services", .createView "v_sqlite_dbs", .createView "v_sources",
    .createView "v_warnings"]),
  (3, [.createTable "warning_state", .dropViewIfExists "v_sqlite_dbs", .createView "v_sqlite_dbs",
    .dropViewIfExists "v_warnings", .createView "v_warnings"]),
  (4, [.alterTable "warning_state", .dropViewIfExists "v_warnings", .createView "v_warnings"]),
  (5, [.alterTable "generations"]),
  (6, [.createTable "metrics_current", .createIndex "idx_metrics_current_host_gen" "metrics_current",
    .createIndex "idx_metrics_current_name" "metrics_current", .createView "v_metrics"]),
  (7, [.createTable "collector_runs_new", .dropTable "collector_runs",
    .renameTable "collector_runs_new" "collector_runs", .createIndex "idx_collector_runs_source_gen" "collector_runs"]),
  (8, [.createTable "metrics_history", .createIndex "idx_metrics_history_lookup" "metrics_history",
    .createTable "hosts_history", .createTable "services_history"]),
  (9, [.createTable "metric_history_policy"]),
  (10, [.dropViewIfExists "v_metrics", .createTable "series", .createIndex "idx_series_name" "series",
    .createTable "metrics_current_v2", .dropTable "metrics_current",
      .renameTable "metrics_current_v2" "metrics_current",
    .createIndex "idx_metrics_current_host_gen" "metrics_current", .createTable "metrics_history_v2",
    .dropTable "metrics_history", .renameTable "metrics_history_v2" "metrics_history",
    .createIndex "idx_metrics_history_lookup" "metrics_history",
      .createIndex "idx_metrics_history_gen" "metrics_history",
    .dropViewIfExists "v_metrics", .createView "v_metrics"]),
  (11, [.alterTable "warning_state"]),
  (12, [.createTable "saved_queries"]),
  (13, []),
  (14, []),
  (15, [.alterTable "warning_state", .createTable "finding_transitions",
    .createIndex "idx_finding_transitions_key" "finding_transitions"]),
  (16, [.dropViewIfExists "v_warnings", .createView "v_warnings"]),
  (17, [.createTable "collector_runs_v2", .dropTable "collector_runs",
    .renameTable "collector_runs_v2" "collector_runs",
    .createIndex "idx_collector_runs_source_gen" "collector_runs", .createTable "log_observations_current",
    .createTable "log_observations_history", .createIndex "idx_log_obs_history" "log_observations_history",
    .createView "v_log_observations"]),
  (18, [.alterTable "warning_state", .dropViewIfExists "v_warnings", .createView "v_warnings"]),
  (19, []),
  (20, [.alterTable "warning_state"]),
  (21, [.alterTable "warning_state"]),
  (22, [.alterTable "warning_state"]),
  (23, [.createTable "notification_history"]),
  (24, [.alterTable "warning_state", .dropViewIfExists "v_warnings", .createView "v_warnings"]),
  (25, [.createTable "finding_observations", .createIndex "idx_fo_finding_key" "finding_observations",
    .createIndex "idx_fo_detector" "finding_observations", .createIndex "idx_fo_host" "finding_observations"]),
  (26, [.alterTable "generations"]),
  (27, [.alterTable "warning_state", .alterTable "finding_observations", .dropViewIfExists "v_warnings",
    .createView "v_warnings"]),
  (28, [.alterTable "warning_state", .dropViewIfExists "v_warnings", .createView "v_warnings"]),
  (29, [.createView "v_host_state"]),
  (30, [.createTable "regime_features", .createIndex "idx_regime_subject" "regime_features",
    .createIndex "idx_regime_type" "regime_features"]),
  (31, [.createTable "collector_runs_v3", .dropTable "collector_runs",
    .renameTable "collector_runs_v3" "collector_runs",
    .createIndex "idx_collector_runs_source_gen" "collector_runs", .createTable "zfs_witness_current",
    .createTable "zfs_witness_coverage_current", .createTable "zfs_witness_standing_current",
      .createTable "zfs_pools_current",
    .createTable "zfs_vdevs_current", .createIndex "zfs_vdevs_current_by_pool" "zfs_vdevs_current",
    .createTable "zfs_scans_current", .createTable "zfs_spares_current", .createTable "zfs_witness_errors_current",
    .createView "v_zfs_witness", .createView "v_zfs_pools"]),
  (32, [.createTable "zfs_vdev_errors_history",
    .createIndex "idx_zfs_vdev_errors_history_subject" "zfs_vdev_errors_history"]),
  (33, [.alterTable "warning_state", .alterTable "finding_observations", .dropViewIfExists "v_warnings",
    .createView "v_warnings"]),
  (34, [.createTable "collector_runs_v4", .dropTable "collector_runs",
    .renameTable "collector_runs_v4" "collector_runs",
    .createIndex "idx_collector_runs_source_gen" "collector_runs", .createTable "smart_witness_current",
    .createTable "smart_witness_coverage_current", .createTable "smart_witness_standing_current",
    .createTable "smart_devices_current", .createIndex "smart_devices_current_by_host" "smart_devices_current",
    .createTable "smart_device_coverage_current", .createTable "smart_witness_errors_current",
      .createView "v_smart_witness",
    .createView "v_smart_devices"]),
  (35, [.alterTable "warning_state", .alterTable "finding_observations", .dropViewIfExists "v_warnings",
    .createView "v_warnings"]),
  (36, [.alterTable "monitored_dbs_current"]),
  (37, [.alterTable "smart_devices_current", .createTable "smart_reallocated_history",
    .createIndex "idx_smart_reallocated_history_subject" "smart_reallocated_history"]),
  (38, [.alterTable "warning_state", .alterTable "finding_observations", .dropViewIfExists "v_warnings",
    .createView "v_warnings"]),
  (39, [.createView "v_admissibility"]),
  (40, [.alterTable "warning_state", .alterTable "finding_observations", .dropViewIfExists "v_warnings",
    .createView "v_warnings"]),
  (41, [.createTable "operational_intent_declarations",
    .createIndex "idx_oid_active_subject" "operational_intent_declarations"]),
  (42, [.alterTable "warning_state"]),
  (43, [.dropView "v_admissibility", .createView "v_admissibility"]),
  (44, [.dropViewIfExists "v_host_state", .createView "v_host_state"]),
  (45, [.createTable "maintenance_declarations", .createIndex "idx_maintenance_lookup" "maintenance_declarations",
    .alterTable "warning_state", .dropViewIfExists "v_warnings", .createView "v_warnings"]),
  (46, [.alterTable "warning_state", .dropViewIfExists "v_warnings", .createView "v_warnings"]),
  (47, [.createTable "dns_observations", .createIndex "idx_dns_observations_tuple_recent" "dns_observations"]),
  (48, [.createTable "wal_observations", .createIndex "idx_wal_observations_target_window" "wal_observations"]),
  (49, [.createTable "wal_observations_v2", .dropTable "wal_observations",
    .renameTable "wal_observations_v2" "wal_observations",
      .createIndex "idx_wal_observations_target_window" "wal_observations"]),
  (50, [.createTable "collector_runs_v5", .dropTable "collector_runs",
    .renameTable "collector_runs_v5" "collector_runs", .createIndex "idx_collector_runs_source_gen" "collector_runs"]),
  (51, [.createTable "coverage_rules", .createIndex "idx_coverage_rules_active" "coverage_rules",
    .createIndex "idx_coverage_rules_lookup" "coverage_rules"]),
  (52, [.createTable "observation_loop_alive_observations",
    .createIndex "idx_obs_loop_alive_target_observed" "observation_loop_alive_observations",
    .createIndex "idx_obs_loop_alive_coverage_rule" "observation_loop_alive_observations"]),
  (53, [.createTable "coverage_testimony_absence_details",
    .createIndex "idx_coverage_testimony_absence_by_component" "coverage_testimony_absence_details"]),
  (54, [.createTable "nq_binary_observations",
    .createIndex "idx_nq_binary_observations_lookup" "nq_binary_observations",
    .createIndex "idx_nq_binary_observations_generation" "nq_binary_observations"]),
  (55, [.createTable "collector_runs_v6", .dropTable "collector_runs",
    .renameTable "collector_runs_v6" "collector_runs", .createIndex "idx_collector_runs_source_gen" "collector_runs"]),
  (56, [.createTable "nq_evaluator_observations",
    .createIndex "idx_nq_evaluator_observations_lookup" "nq_evaluator_observations",
    .createIndex "idx_nq_evaluator_observations_generation" "nq_evaluator_observations"]),
  (57, [.alterTable "warning_state", .dropViewIfExists "v_warnings", .createView "v_warnings"]),
  (58, [.alterTable "series", .dropViewIfExists "v_metrics", .createView "v_metrics"]),
  (59, [.createTable "service_observations", .createIndex "idx_service_observations_identity" "service_observations",
    .createIndex "idx_service_observations_tuple" "service_observations"]),
  (60, [.createTable "collector_runs_v7", .dropTable "collector_runs",
    .renameTable "collector_runs_v7" "collector_runs", .createIndex "idx_collector_runs_source_gen" "collector_runs"]),
  (61, [.createTable "evidence_tombstones"]),
  (62, [.createTable "sources_retired"]),
  (63, [.createTable "zfs_pools_history", .createIndex "idx_zfs_pools_history_pool" "zfs_pools_history",
    .createTable "zfs_spares_history", .createIndex "idx_zfs_spares_history_subject" "zfs_spares_history"]),
  (64, [.createTable "collector_runs_v8", .dropTable "collector_runs",
    .renameTable "collector_runs_v8" "collector_runs",
    .createIndex "idx_collector_runs_source_gen" "collector_runs", .createTable "gpu_witness_current",
    .createTable "gpu_witness_coverage_current", .createTable "gpu_witness_standing_current",
    .createTable "gpu_devices_current", .createIndex "gpu_devices_current_by_host" "gpu_devices_current",
    .createTable "gpu_compute_apps_current", .createTable "gpu_witness_errors_current", .createView "v_gpu_witness",
    .createView "v_gpu_devices", .createView "v_gpu_compute_apps"])]

def currentSchemaVersion : Nat := 64

theorem migrations_numbered : migrations.map Prod.fst = List.range' 1 currentSchemaVersion := by decide

theorem migrations_keep_ledger : ∀ m ∈ migrations, ∀ d ∈ m.2, d.removes "generations" = false := by decide +kernel

/-- The first one makes the generation ledger. -/
theorem migrations_first : ∃ sql, migrations.head? = some (1, .createTable "generations" :: sql) := ⟨_, rfl⟩

theorem migrations_exec : ∃ schema, execAll (statements migrations) [] = .ok schema := by
  have h : (execAll (statements migrations) []).isOk = true := by decide +kernel
  generalize execAll (statements migrations) [] = x at h ⊢
  cases x with
  | error e => cases h
  | ok schema => exact ⟨schema, rfl⟩

end Nq.Migrate
