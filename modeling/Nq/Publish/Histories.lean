/-
  Nq.Publish.Histories — the tables with a `generation_id` column.

  Publishing a batch only adds to them, and only rows of the generation it was given
  (`publishBatch_gained`). So every row is of a generation that is still there
  (`served_linked`: the foreign key each of these columns declares), and the rows of a
  batch just published are the newest of their history (`publish_newest`).
-/

import Nq.Publish.Serve

namespace Nq

open List
open Sql (Table)

/-! ## Rows of one generation added -/

/-- Rows added at the end, all of generation `g`. -/
def Gains {ρ : Type} (gen : ρ → Int) (g : Int) (old new : List ρ) : Prop :=
  ∃ added, new = old ++ added ∧ ∀ r ∈ added, gen r = g

namespace Gains

variable {ρ κ : Type} {gen : ρ → Int} {g : Int}

theorem refl (rows : List ρ) : Gains gen g rows rows := ⟨[], by simp, by simp⟩

theorem trans {a b c : List ρ} (h : Gains gen g a b) (h' : Gains gen g b c) : Gains gen g a c := by
  obtain ⟨xs, hb, hxs⟩ := h
  obtain ⟨ys, hc, hys⟩ := h'
  refine ⟨xs ++ ys, by rw [hc, hb, append_assoc], ?_⟩
  intro r hr
  rcases mem_append.mp hr with hr | hr
  · exact hxs r hr
  · exact hys r hr

variable {r : ρ} {key : ρ → κ} {t t' : Table key}

theorem snoc {rows : List ρ} (hr : gen r = g) : Gains gen g rows (rows ++ [r]) := ⟨[r], rfl, by simpa using hr⟩

theorem insert [DecidableEq κ] (h : unique (t.insert? r) = .ok t') (hr : gen r = g) : Gains gen g t.rows t'.rows := by
  rw [Table.rows_insert? (unique_ok.mp h)]
  exact snoc hr

theorem insertAll [DecidableEq κ] {rs : List ρ} (h : unique (t.insertAll rs) = .ok t') (hrs : ∀ r ∈ rs, gen r = g) :
    Gains gen g t.rows t'.rows := ⟨rs, Table.rows_insertAll (unique_ok.mp h), hrs⟩

theorem mem {old new : List ρ} (h : Gains gen g old new) (hr : r ∈ new) : gen r = g ∨ r ∈ old := by
  obtain ⟨added, hnew, hadded⟩ := h
  rw [hnew] at hr
  rcases mem_append.mp hr with hr | hr
  · exact .inr hr
  · exact .inl (hadded r hr)

end Gains

theorem generationId_historyRows {α : Type} {g : Int} {sets : List (HostSet α)} {h : History α}
    (hh : h ∈ historyRows g sets) : h.generationId = g := by
  obtain ⟨s, _, hs⟩ := mem_flatMap.mp hh
  obtain ⟨row, _, e⟩ := List.mem_map.mp hs
  rw [← e]

/-! ## What each statement adds -/

variable {at_ host : String} {policies : List HistoryPolicy} {t t' : MetricTables} {db db' : Db} {b : Batch} {x : Int}

theorem publishMetric_gained {g : Int} {m : MetricRow} (h : publishMetric policies g host at_ t m = .ok t') :
    Gains History.generationId g t.history t'.history := by
  unfold publishMetric at h
  cases hv : m.value.bind with
  | none => rw [hv] at h; cases h
  | some value =>
    rw [hv] at h
    obtain ⟨current, _, h⟩ := Sql.bind_ok.mp h
    cases h
    show Gains _ _ _ (if metricMatchesPolicy m.metricName policies then _ else _)
    by_cases hp : metricMatchesPolicy m.metricName policies = true
    · rw [if_pos hp]; exact .snoc rfl
    · rw [if_neg hp]; exact .refl _

theorem publishMetricSet_gained {g : Int} {s : HostSet MetricRow} (h : publishMetricSet policies g t s = .ok t') :
    Gains History.generationId g t.history t'.history := by
  unfold publishMetricSet at h
  have hloop := Sql.foldlM_rel (R := fun t t' : MetricTables => Gains History.generationId g t.history t'.history)
    (fun _ => .refl _) .trans (fun _ _ _ => publishMetric_gained) h
  exact hloop

structure ZfsGained (g : Int) (t t' : ZfsTables) : Prop where
  pools : Gains History.generationId g t.poolsHistory.rows t'.poolsHistory.rows
  vdevErrors : Gains History.generationId g t.vdevErrorsHistory.rows t'.vdevErrorsHistory.rows
  spares : Gains History.generationId g t.sparesHistory.rows t'.sparesHistory.rows

theorem ZfsGained.refl (g : Int) (t : ZfsTables) : ZfsGained g t t := ⟨.refl _, .refl _, .refl _⟩

theorem ZfsGained.trans {g : Int} {a b c : ZfsTables} (h : ZfsGained g a b) (h' : ZfsGained g b c) : ZfsGained g a c :=
  ⟨h.pools.trans h'.pools, h.vdevErrors.trans h'.vdevErrors, h.spares.trans h'.spares⟩

theorem publishZfsObservation_gained {g : Int} {t t' : ZfsTables} {o : ZfsObservation}
    (h : publishZfsObservation g host at_ t o = .ok t') : ZfsGained g t t' := by
  cases o with
  | pool p =>
    obtain ⟨_, _, h⟩ := Sql.bind_ok.mp h
    obtain ⟨_, hi, h⟩ := Sql.bind_ok.mp h
    cases h
    exact ⟨.insert hi rfl, .refl _, .refl _⟩
  | vdev v =>
    obtain ⟨_, _, h⟩ := Sql.bind_ok.mp h
    obtain ⟨_, hi, h⟩ := Sql.bind_ok.mp h
    cases h
    exact ⟨.refl _, .insert hi rfl, .refl _⟩
  | scan s =>
    obtain ⟨_, _, h⟩ := Sql.bind_ok.mp h
    cases h
    exact ⟨.refl _, .refl _, .refl _⟩
  | spare s =>
    obtain ⟨_, hi, h⟩ := Sql.bind_ok.mp h
    cases h
    exact ⟨.refl _, .refl _, .insert hi rfl⟩
  | other =>
    cases h
    exact .refl g t

/-- Every history of `db'` is that of `db` with rows of `g` added. -/
structure Gained (g : Int) (db db' : Db) : Prop where
  sourceRuns : Gains SourceRunRow.generationId g db.sourceRuns.rows db'.sourceRuns.rows
  hosts : Gains History.generationId g db.hostsHistory.rows db'.hostsHistory.rows
  services : Gains History.generationId g db.servicesHistory.rows db'.servicesHistory.rows
  metrics : Gains History.generationId g db.metricsHistory db'.metricsHistory
  logs : Gains History.generationId g db.logObservationsHistory.rows db'.logObservationsHistory.rows
  zfsPools : Gains History.generationId g db.zfsPoolsHistory.rows db'.zfsPoolsHistory.rows
  zfsVdevErrors : Gains History.generationId g db.zfsVdevErrorsHistory.rows db'.zfsVdevErrorsHistory.rows
  zfsSpares : Gains History.generationId g db.zfsSparesHistory.rows db'.zfsSparesHistory.rows
  smartReallocated : Gains History.generationId g db.smartReallocatedHistory.rows db'.smartReallocatedHistory.rows

namespace Gained

variable {g : Int}

theorem refl (db : Db) : Gained g db db :=
  ⟨.refl _, .refl _, .refl _, .refl _, .refl _, .refl _, .refl _, .refl _, .refl _⟩

theorem trans {a b c : Db} (h : Gained g a b) (h' : Gained g b c) : Gained g a c where
  sourceRuns := h.sourceRuns.trans h'.sourceRuns
  hosts := h.hosts.trans h'.hosts
  services := h.services.trans h'.services
  metrics := h.metrics.trans h'.metrics
  logs := h.logs.trans h'.logs
  zfsPools := h.zfsPools.trans h'.zfsPools
  zfsVdevErrors := h.zfsVdevErrors.trans h'.zfsVdevErrors
  zfsSpares := h.zfsSpares.trans h'.zfsSpares
  smartReallocated := h.smartReallocated.trans h'.smartReallocated

end Gained

theorem publishZfsWitness_gained {g : Int} {w : ZfsWitnessRow} (h : publishZfsWitness g db w = .ok db') :
    Gained g db db' := by
  obtain ⟨t, ht, h⟩ := Sql.bind_ok.mp h
  cases h
  have hz := Sql.foldlM_rel (R := ZfsGained g) (.refl g) .trans (fun _ _ _ => publishZfsObservation_gained) ht
  exact ⟨.refl _, .refl _, .refl _, .refl _, .refl _, hz.pools, hz.vdevErrors, hz.spares, .refl _⟩

theorem publishSmartObservation_gained {g : Int} {o : SmartObservation}
    (h : publishSmartObservation g host at_ db o = .ok db') : Gained g db db' := by
  cases o with
  | other => cases h; exact .refl db
  | device d coverage =>
    change (if d.check = true then _ else _) = _ at h
    split at h
    · obtain ⟨_, _, h⟩ := Sql.bind_ok.mp h
      obtain ⟨_, hi, h⟩ := Sql.bind_ok.mp h
      cases h
      exact ⟨.refl _, .refl _, .refl _, .refl _, .refl _, .refl _, .refl _, .refl _, .insert hi rfl⟩
    · cases h

theorem publishSmartWitness_gained {g : Int} {w : SmartWitnessRow} (h : publishSmartWitness g db w = .ok db') :
    Gained g db db' := by
  unfold publishSmartWitness at h
  have hloop := Sql.foldlM_rel (R := Gained g) .refl .trans (fun _ _ _ => publishSmartObservation_gained) h
  exact ⟨hloop.sourceRuns, hloop.hosts, hloop.services, hloop.metrics, hloop.logs, hloop.zfsPools, hloop.zfsVdevErrors,
    hloop.zfsSpares, hloop.smartReallocated⟩

/-- A published batch adds rows of its own generation to the histories, and no others. -/
theorem publishBatch_gained {res : PublishResult} (h : publishBatch db b = .ok (db', res)) :
    Gained res.generationId db db' := by
  unfold publishBatch at h
  obtain ⟨runs, hruns, h⟩ := Sql.bind_ok.mp h
  obtain ⟨hostsHistory, hhosts, h⟩ := Sql.bind_ok.mp h
  obtain ⟨services, _, h⟩ := Sql.bind_ok.mp h
  obtain ⟨servicesHistory, hservices, h⟩ := Sql.bind_ok.mp h
  obtain ⟨dbs, _, h⟩ := Sql.bind_ok.mp h
  obtain ⟨metrics, hmetrics, h⟩ := Sql.bind_ok.mp h
  obtain ⟨logs, _, h⟩ := Sql.bind_ok.mp h
  obtain ⟨logsHistory, hlogs, h⟩ := Sql.bind_ok.mp h
  obtain ⟨db₁, h₁, h⟩ := Sql.bind_ok.mp h
  obtain ⟨db₂, h₂, h⟩ := Sql.bind_ok.mp h
  cases h
  have hzfs := Sql.foldlM_rel (R := Gained _) .refl .trans (fun _ _ _ => publishZfsWitness_gained) h₁
  have hsmart := Sql.foldlM_rel (R := Gained _) .refl .trans (fun _ _ _ => publishSmartWitness_gained) h₂
  refine Gained.trans ?_ (hzfs.trans hsmart)
  refine ⟨.insertAll hruns ?_, .insertAll hhosts ?_, .insertAll hservices fun _ => generationId_historyRows, ?_,
    .insertAll hlogs fun _ => generationId_historyRows, .refl _, .refl _, .refl _, .refl _⟩
  · intro r hr
    obtain ⟨s, _, e⟩ := List.mem_map.mp hr
    rw [← e]
  · intro r hr
    obtain ⟨s, _, e⟩ := List.mem_map.mp hr
    rw [← e]
  · exact Sql.foldlM_rel (R := fun t t' : MetricTables => Gains History.generationId _ t.history t'.history)
      (fun _ => .refl _) .trans (fun _ _ _ => publishMetricSet_gained) hmetrics

/-! ## The foreign keys -/

/-- The generations the histories name. -/
def Db.recorded (db : Db) : List Int :=
  db.sourceRuns.rows.map SourceRunRow.generationId ++ db.hostsHistory.rows.map History.generationId ++
    db.servicesHistory.rows.map History.generationId ++ db.metricsHistory.map History.generationId ++
    db.logObservationsHistory.rows.map History.generationId ++ db.zfsPoolsHistory.rows.map History.generationId ++
    db.zfsVdevErrorsHistory.rows.map History.generationId ++ db.zfsSparesHistory.rows.map History.generationId ++
    db.smartReallocatedHistory.rows.map History.generationId

def Db.Linked (db : Db) : Prop := ∀ g ∈ db.recorded, (db.generations.get g).isSome = true

theorem linked_congr (hl : db.Linked) (hr : db'.recorded = db.recorded)
    (hg : ∀ g, (db'.generations.get g).isSome = (db.generations.get g).isSome) : db'.Linked := by
  intro g hmem
  rw [hr] at hmem
  rw [hg]
  exact hl g hmem

theorem Gains.mem_map {ρ : Type} {gen : ρ → Int} {g : Int} {old new : List ρ} (h : Gains gen g old new)
    (hx : x ∈ new.map gen) : x = g ∨ x ∈ old.map gen := by
  obtain ⟨r, hr, e⟩ := List.mem_map.mp hx
  rcases h.mem hr with hr | hr
  · exact .inl (e.symm.trans hr)
  · exact .inr (e ▸ mem_map_of_mem hr)

theorem Gained.mem_recorded {g : Int} (h : Gained g db db') (hx : x ∈ db'.recorded) : x = g ∨ x ∈ db.recorded := by
  simp only [Db.recorded, mem_append] at hx ⊢
  rcases hx with (((((((hx | hx) | hx) | hx) | hx) | hx) | hx) | hx) | hx
  · exact (h.sourceRuns.mem_map hx).imp_right fun hx => by simp only [hx, true_or]
  · exact (h.hosts.mem_map hx).imp_right fun hx => by simp only [hx, true_or, or_true]
  · exact (h.services.mem_map hx).imp_right fun hx => by simp only [hx, true_or, or_true]
  · exact (h.metrics.mem_map hx).imp_right fun hx => by simp only [hx, true_or, or_true]
  · exact (h.logs.mem_map hx).imp_right fun hx => by simp only [hx, true_or, or_true]
  · exact (h.zfsPools.mem_map hx).imp_right fun hx => by simp only [hx, true_or, or_true]
  · exact (h.zfsVdevErrors.mem_map hx).imp_right fun hx => by simp only [hx, true_or, or_true]
  · exact (h.zfsSpares.mem_map hx).imp_right fun hx => by simp only [hx, true_or, or_true]
  · exact (h.smartReallocated.mem_map hx).imp_right fun hx => by simp only [hx, or_true]

theorem published_linked {g : Int} (hl : db.Linked) (h : Published b db db' g) (hgain : Gained g db db') :
    db'.Linked := by
  intro x hx
  have hmem : ∀ row ∈ db'.generations.rows, (db'.generations.get row.generationId).isSome = true := by
    intro row hrow
    rw [Table.get_of_mem hrow]
    rfl
  rcases hgain.mem_recorded hx with e | hx
  · rw [e]
    refine hmem (b.generationRow g) ?_
    rw [h.generations]
    exact mem_append_right _ (mem_singleton.mpr rfl)
  · obtain ⟨row, hrow⟩ := Option.isSome_iff_exists.mp (hl x hx)
    rw [← Table.key_of_get hrow]
    refine hmem row ?_
    rw [h.generations]
    exact mem_append_left _ (Table.mem_of_get hrow)

theorem map_filter_gen {ρ : Type} {gen : ρ → Int} (doomed : Int → Bool) (rows : List ρ) :
    (rows.filter fun r => !doomed (gen r)).map gen = (rows.map gen).filter (!doomed ·) := by
  rw [filter_map]
  rfl

/-- The cascade takes the doomed generations out of every history. -/
theorem recorded_cascade (db : Db) (doomed : Int → Bool) :
    (db.cascade doomed).recorded = db.recorded.filter (!doomed ·) := by
  simp only [Db.recorded, Db.cascade, Table.rows_delete, map_filter_gen, filter_append]

theorem cascade_linked (hl : db.Linked) (doomed : Int → Bool) : (db.cascade doomed).Linked := by
  intro x hx
  rw [recorded_cascade, mem_filter] at hx
  obtain ⟨row, hrow⟩ := Option.isSome_iff_exists.mp (hl x hx.1)
  show ((db.generations.delete (doomed ·.generationId)).get x).isSome = true
  have hid : row.generationId = x := Table.key_of_get hrow
  rw [Table.get_delete, hrow, Option.filter_some, hid, if_pos hx.2]
  rfl

variable {rfc3339 : String → Except String Int}

theorem served_linked (h : Served rfc3339 db) : db.Linked := by
  induction h with
  | init _ _ => intro g hg; cases hg
  | publish _ _ h ih => exact published_linked ih (publishBatch_published h) (publishBatch_gained h)
  | update _ _ h ih =>
    have hu := run_updated h
    refine linked_congr ih ?_ hu.generations
    rw [hu.frame]
    rfl
  | ingest read generation now cfg _ ih =>
    refine linked_congr ih ?_ fun g => ?_
    · unfold ingestFindingImport
      cases read with
      | unparsable => rfl
      | parsed m => simp only; split <;> rfl
    · unfold ingestFindingImport
      cases read with
      | unparsable => rfl
      | parsed m => simp only; split <;> rfl
  | coverage _ _ h ih =>
    obtain ⟨_, _, hframe⟩ := recordCoverage_ok h
    refine linked_congr ih (by rw [hframe]; rfl) fun g => by rw [hframe]
  | operator _ _ _ ih => exact linked_congr ih rfl fun _ => rfl
  | settings _ _ _ _ _ ih => exact linked_congr ih rfl fun _ => rfl
  | prune _ _ ih => exact cascade_linked ih _

/-- The generation a batch was given is newer than every generation a history names. -/
theorem publish_newest {g : Int} (hl : db.Linked) (h : Published b db db' g) (hgain : Gained g db db')
    (hx : x ∈ db'.recorded) : x ≤ g := by
  rcases hgain.mem_recorded hx with e | hx
  · omega
  · obtain ⟨row, hrow⟩ := Option.isSome_iff_exists.mp (hl x hx)
    have hlt := Table.lt_nextRowid (Table.mem_of_get hrow)
    rw [Table.key_of_get hrow, ← h.fresh] at hlt
    omega

end Nq
