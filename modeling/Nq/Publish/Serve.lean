/-
  Nq.Publish.Serve — the database of a running monitor (`nq-monitor/src/cmd/serve.rs`).

  A freshly migrated database, then any number of published batches, lifecycle updates,
  imports, coverage evaluations, operator edits and retention sweeps, in any order. Every
  recorded observation is of a generation that is still there (`served_known`): the
  insert checks it, and a sweep takes a generation's rows with it. So nothing is recorded
  yet under the generation a batch has just been given (`publish_unrecorded`).
-/

import Nq.Lifecycle.Run
import Nq.Publish.Publish

namespace Nq

open Sql (Table)

/-! ## Retention -/

/-- ON DELETE CASCADE from `generations`. -/
def Db.cascade (db : Db) (doomed : Int → Bool) : Db :=
  { db with
    generations := db.generations.delete (doomed ·.generationId)
    sourceRuns := db.sourceRuns.delete (doomed ·.generationId)
    hostsHistory := db.hostsHistory.delete (doomed ·.generationId)
    servicesHistory := db.servicesHistory.delete (doomed ·.generationId)
    metricsHistory := db.metricsHistory.filter (!doomed ·.generationId)
    logObservationsHistory := db.logObservationsHistory.delete (doomed ·.generationId)
    zfsPoolsHistory := db.zfsPoolsHistory.delete (doomed ·.generationId)
    zfsVdevErrorsHistory := db.zfsVdevErrorsHistory.delete (doomed ·.generationId)
    zfsSparesHistory := db.zfsSparesHistory.delete (doomed ·.generationId)
    smartReallocatedHistory := db.smartReallocatedHistory.delete (doomed ·.generationId)
    findingObservations := db.findingObservations.delete (doomed ·.generationId) }

/-- `retention::prune`: all but the newest `maxGenerations` generations. -/
def Db.prune (db : Db) (maxGenerations : Nat) : Db :=
  db.cascade fun g => maxGenerations ≤ (db.generations.rows.filter (g < ·.generationId)).length

/-! ## Runs -/

section

variable (rfc3339 : String → Except String Int)

inductive Served : Db → Prop
  | init (queries : SavedQueries) (policies : Table HistoryPolicy.pattern) :
      Served { Db.init with savedQueries := queries, metricHistoryPolicy := policies }
  | publish {db db' : Db} {res : PublishResult} (b : Batch) (hs : Served db) (h : publishBatch db b = .ok (db', res)) :
      Served db'
  | update {db db' : Db} (u : UpdateCall) (hs : Served db) (h : u.run db = .ok db') : Served db'
  | ingest {db : Db} (read : ManifestRead) (generation : Int) (now : String) (cfg : IngestConfig) (hs : Served db) :
      Served (ingestFindingImport rfc3339 db read generation now cfg).1
  | coverage {db db' : Db} {key : String} (c : CoverageCall) (hs : Served db)
      (h : recordCoverageTestimonyAbsentFinding db c = .ok (db', key)) : Served db'
  | operator {db : Db} (f : WarningRow → WarningRow) (hf : OperatorEdit f) (hs : Served db) :
      Served { db with warningState := db.warningState.update f hf.id }
  | settings {db : Db} (queries : SavedQueries) (policies : Table HistoryPolicy.pattern)
      (maintenance : Table MaintenanceDeclaration.maintenanceId) (retired : Table RetiredSource.sourceId)
      (hs : Served db) :
      Served { db with
        savedQueries := queries, metricHistoryPolicy := policies, maintenanceDeclarations := maintenance
        sourcesRetired := retired }
  | prune {db : Db} (maxGenerations : Nat) (hs : Served db) : Served (db.prune maxGenerations)

end

/-! ## Observations -/

/-- The foreign key of `finding_observations`. -/
def Db.Known (db : Db) : Prop :=
  ∀ p o, db.findingObservations.get p = some o → (db.generations.get o.generationId).isSome = true

variable {db db' : Db} {b : Batch} {g : Int}

theorem known_congr (hk : db.Known) (ho : db'.findingObservations = db.findingObservations)
    (hg : db'.generations = db.generations) : db'.Known := by
  intro p o h
  rw [hg]
  exact hk p o (ho ▸ h)

/-- Inserts under a checked generation keep the key. -/
theorem known_insert (hk : db.Known) (hg : ∀ g, (db'.generations.get g).isSome = (db.generations.get g).isSome)
    (h : ∀ p o, db'.findingObservations.get p = some o →
      db.findingObservations.get p = some o ∨ (db.generations.get o.generationId).isSome = true) : db'.Known := by
  intro p o ho
  rw [hg]
  exact (h p o ho).elim (hk p o) id

theorem updated_known {u : UpdateCall} (hk : db.Known) (h : Updated u db db') : db'.Known := by
  refine known_insert hk h.generations ?_
  intro p o ho
  rw [h.observations p] at ho
  cases hf : (u.emitted db).find? fun f => (u.generationId, f.key) = p with
  | none => rw [hf] at ho; exact .inl ho
  | some f =>
    rw [hf] at ho
    cases ho
    exact .inr (h.generation f (List.mem_of_find?_eq_some hf))

theorem published_known (hk : db.Known) (h : Published b db db' g) : db'.Known := by
  intro p o ho
  rw [h.findingObservations] at ho
  obtain ⟨row, hrow⟩ := Option.isSome_iff_exists.mp (hk p o ho)
  have hmem : row ∈ db'.generations.rows := by
    rw [h.generations]
    exact List.mem_append_left _ (Table.mem_of_get hrow)
  rw [← Table.key_of_get hrow, Table.get_of_mem hmem]
  rfl

theorem insertObservationIfNew_known {o : ObservationRow} (hk : db.Known) (h : insertObservationIfNew db o = .ok db') :
    db'.Known := by
  unfold insertObservationIfNew at h
  split at h
  · cases h; exact hk
  · obtain ⟨hg, obs, hobs, rfl⟩ := insertObservation_ok.mp h
    refine known_insert hk (fun _ => rfl) ?_
    intro p o' ho'
    have hget : obs.get p = some o' := ho'
    rw [(Table.insert?_eq_some hobs).2 p] at hget
    split at hget
    · cases hget; exact .inr hg
    · exact .inl hget

theorem coverage_known {c : CoverageCall} {key : String} (hk : db.Known)
    (h : recordCoverageTestimonyAbsentFinding db c = .ok (db', key)) : db'.Known := by
  unfold recordCoverageTestimonyAbsentFinding at h
  cases hd : c.detail with
  | none => rw [hd] at h; cases h
  | some detail =>
    rw [hd] at h
    obtain ⟨db₁, h₁, h⟩ := Sql.bind_ok.mp h
    have hk₁ : db₁.Known := by
      refine insertObservationIfNew_known ?_ h₁
      exact known_congr hk rfl rfl
    by_cases hc : detail.check = true
    · simp only [hc, if_true] at h
      cases h
      exact known_congr hk₁ rfl rfl
    · simp [hc] at h

theorem cascade_known (hk : db.Known) (doomed : Int → Bool) : (db.cascade doomed).Known := by
  intro p o ho
  have ho' : (db.findingObservations.delete (doomed ·.generationId)).get p = some o := ho
  rw [Table.get_delete, Option.filter_eq_some_iff] at ho'
  obtain ⟨row, hrow⟩ := Option.isSome_iff_exists.mp (hk p o ho'.1)
  show ((db.generations.delete (doomed ·.generationId)).get o.generationId).isSome = true
  have hid : row.generationId = o.generationId := Table.key_of_get hrow
  rw [Table.get_delete, hrow, Option.filter_some, hid, if_pos ho'.2]
  rfl

variable {rfc3339 : String → Except String Int}

theorem served_known (h : Served rfc3339 db) : db.Known := by
  induction h with
  | init _ _ => intro p o ho; cases ho
  | publish _ _ h ih => exact published_known ih (publishBatch_published h)
  | update _ _ h ih => exact updated_known ih (run_updated h)
  | ingest read generation now cfg _ ih =>
    unfold ingestFindingImport
    cases read with
    | unparsable => exact known_congr ih rfl rfl
    | parsed m => simp only; split <;> exact known_congr ih rfl rfl
  | coverage _ _ h ih => exact coverage_known ih h
  | operator _ _ _ ih => exact known_congr ih rfl rfl
  | settings _ _ _ _ _ ih => exact known_congr ih rfl rfl
  | prune _ _ ih => exact cascade_known ih _

/-- Nothing is recorded yet under a generation that was just published. -/
theorem publish_unrecorded (hk : db.Known) (h : Published b db db' g) :
    (db'.generations.get g).isSome = true ∧ ∀ key, db'.findingObservations.get (g, key) = none := by
  constructor
  · have hmem : b.generationRow g ∈ db'.generations.rows := by
      rw [h.generations]
      exact List.mem_append_right _ (List.mem_singleton.mpr rfl)
    have hget : db'.generations.get g = some (b.generationRow g) := Table.get_of_mem hmem
    rw [hget]
    rfl
  · intro key
    rw [h.findingObservations]
    cases hget : db.findingObservations.get (g, key) with
    | none => rfl
    | some o =>
      have hid : o.generationId = g := congrArg Prod.fst (Table.key_of_get hget)
      have hknown := hk _ o hget
      rw [hid, h.fresh, Table.get_nextRowid] at hknown
      cases hknown

end Nq
