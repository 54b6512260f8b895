/-
  Nq.Lifecycle.Peak — the peak of a finding's values (`publish.rs`, `update_warning_state_inner`,
  the upsert's `peak_value`).

  The emission that creates a row stores its value as it is; every later one takes the greater
  of the peak and the value, with zero for what is missing. So the peak of a row is the greatest
  of the values it was emitted with unless it was emitted again, once without a value, and none
  of the values reached zero (`peak_iff`).

  - `peaks_at_zero_without_a_value`: a finding emitted twice without a value shows a peak of 0.
-/

import Mathlib.Data.List.Induction
import Nq.Lifecycle.Run

namespace Nq

open List hiding le_antisymm le_refl
open Sql (F64 Table)

/-! ## Emissions -/

/-- What a finding was emitted with since its row was created: by the emission that created it,
    unless another writer did, and by those after it. -/
structure Emissions where
  first : Option (Option F64)
  later : List (Option F64)

namespace Emissions

/-- The values among them, as they are stored. -/
def values (e : Emissions) : List F64 := (e.first.toList ++ e.later).filterMap (·.bind F64.bind)

/-- The peak is the greatest value, and missing where there is none. -/
def Peaks (e : Emissions) : Option F64 → Prop
  | some m => m ∈ e.values ∧ ∀ v ∈ e.values, F64.lt m v = false
  | none => e.values = []

/-- An emission carried no value; one that did not create its row counts as such. -/
def Missing (e : Emissions) : Prop := (e.first.getD none).bind F64.bind = none ∨ ∃ v ∈ e.later, v.bind F64.bind = none

/-- A finding that was emitted again, once without a value, has had one that is not negative. -/
def ReachZero (e : Emissions) : Prop := e.later ≠ [] → e.Missing → ∃ v ∈ e.values, F64.lt v 0 = false

/-- The peak after one more emission. -/
def raise (peak value : Option F64) : Option F64 := some (F64.max (peak.getD 0) ((value.bind F64.bind).getD 0))

/-- The peak the upserts leave. -/
def shown (e : Emissions) : Option F64 := e.later.foldl raise ((e.first.getD none).bind F64.bind)

def again (e : Emissions) (value : Option F64) : Emissions := { e with later := e.later ++ [value] }

variable (e : Emissions) (value : Option F64)

theorem shown_again : (e.again value).shown = raise e.shown value := by
  unfold shown again
  rw [foldl_append]
  rfl

theorem values_again : (e.again value).values = e.values ++ (value.bind F64.bind).toList := by
  unfold values again
  rw [← append_assoc, filterMap_append]
  cases h : value.bind F64.bind <;> simp [h]

theorem ne_nan {e : Emissions} {v : F64} (hv : v ∈ e.values) : v ≠ .nan := by
  obtain ⟨x, _, hx⟩ := mem_filterMap.mp hv
  obtain ⟨y, _, hy⟩ := Option.bind_eq_some_iff.mp hx
  exact F64.bind_ne_nan hy

theorem zero_ne_nan : (0 : F64) ≠ .nan := nofun

/-- What the peak is, with zero for a missing one. -/
structure Tops (e : Emissions) (q : F64) : Prop where
  ne_nan : q ≠ .nan
  source : q ∈ e.values ∨ q = 0 ∧ e.Missing
  bound : ∀ v ∈ e.values, v.rank ≤ q.rank
  zero : e.Missing → F64.rank 0 ≤ q.rank

theorem tops_first (first : Option (Option F64)) :
    (Emissions.mk first []).Tops ((Emissions.mk first []).shown.getD 0) := by
  have hmissing : (Emissions.mk first []).Missing ↔ (first.getD none).bind F64.bind = none := by simp [Missing]
  cases h : (first.getD none).bind F64.bind with
  | none =>
    have hshown : (Emissions.mk first []).shown = none := h
    have hvalues : (Emissions.mk first []).values = [] := by
      unfold values
      cases first with
      | none => rfl
      | some value => simpa using h
    rw [hshown]
    exact ⟨zero_ne_nan, .inr ⟨rfl, hmissing.mpr h⟩, by simp [hvalues], fun _ => le_refl _⟩
  | some x =>
    have hshown : (Emissions.mk first []).shown = some x := h
    have hvalues : (Emissions.mk first []).values = [x] := by
      unfold values
      cases first with
      | none => cases h
      | some value =>
        have hvalue : value.bind F64.bind = some x := h
        simp [hvalue]
    obtain ⟨y, _, hy⟩ := Option.bind_eq_some_iff.mp h
    rw [hshown]
    refine ⟨F64.bind_ne_nan hy, .inl (by simp [hvalues]), by simp [hvalues], fun hnone => ?_⟩
    rw [hmissing.mp hnone] at h
    cases h

theorem Tops.again {e : Emissions} {q : F64} (h : e.Tops q) (value : Option F64) :
    (e.again value).Tops (F64.max q ((value.bind F64.bind).getD 0)) := by
  have hmissing : (e.again value).Missing ↔ e.Missing ∨ value.bind F64.bind = none := by
    simp only [Missing, Emissions.again, mem_append, mem_singleton, or_and_right, exists_or, exists_eq_left, or_assoc]
  have hvalue : (value.bind F64.bind).getD 0 ≠ .nan := by
    cases hstored : value.bind F64.bind with
    | none => exact zero_ne_nan
    | some x =>
      obtain ⟨y, _, hy⟩ := Option.bind_eq_some_iff.mp hstored
      exact F64.bind_ne_nan hy
  have hrank := F64.rank_max h.ne_nan hvalue
  refine ⟨?_, ?_, ?_, ?_⟩
  · rcases F64.max_eq_or q ((value.bind F64.bind).getD 0) with hmax | hmax
    · rw [hmax]; exact h.ne_nan
    · rw [hmax]; exact hvalue
  · rw [values_again, hmissing]
    rcases F64.max_eq_or q ((value.bind F64.bind).getD 0) with hmax | hmax
    · rw [hmax]
      exact h.source.imp (fun h => mem_append_left _ h) fun h => ⟨h.1, .inl h.2⟩
    · rw [hmax]
      cases value.bind F64.bind with
      | none => exact .inr ⟨rfl, .inr rfl⟩
      | some x => exact .inl (mem_append_right _ (mem_singleton_self x))
  · intro v hv
    rw [hrank]
    rw [values_again] at hv
    rcases mem_append.mp hv with hv | hv
    · exact (h.bound v hv).trans (le_max_left _ _)
    · rw [Option.mem_toList] at hv
      rw [hv]
      exact le_max_right _ _
  · intro hm
    rw [hrank]
    rcases hmissing.mp hm with hm | hm
    · exact (h.zero hm).trans (le_max_left _ _)
    · rw [hm]
      exact le_max_right _ _

theorem tops_shown : e.Tops (e.shown.getD 0) := by
  obtain ⟨first, later⟩ := e
  induction later using List.reverseRecOn with
  | nil => exact tops_first first
  | append_singleton before value ih =>
    have hagain := shown_again ⟨first, before⟩ value
    have htops := ih.again value
    show (Emissions.again ⟨first, before⟩ value).Tops ((Emissions.again ⟨first, before⟩ value).shown.getD 0)
    rw [hagain]
    exact htops

/-- Behind the first emission a peak is not missing. -/
theorem shown_of_later {e : Emissions} (h : e.later ≠ []) : e.shown = some (e.shown.getD 0) := by
  obtain ⟨first, later⟩ := e
  rcases eq_nil_or_concat later with rfl | ⟨before, value, rfl⟩
  · exact absurd rfl h
  · have hagain := shown_again ⟨first, before⟩ value
    rw [concat_eq_append]
    show (Emissions.again ⟨first, before⟩ value).shown = some ((Emissions.again ⟨first, before⟩ value).shown.getD 0)
    rw [hagain]
    rfl

/-- The peak is the greatest of the values, unless zero was put in for one and none reached it. -/
theorem peaks_shown_iff : e.Peaks e.shown ↔ e.ReachZero := by
  have htops := e.tops_shown
  have hlt : ∀ {q v : F64}, q ≠ .nan → v ∈ e.values → (F64.lt q v = false ↔ v.rank ≤ q.rank) :=
    fun hq hv => F64.not_lt_iff hq (ne_nan hv)
  by_cases hlater : e.later = []
  · refine iff_of_true ?_ fun h => absurd hlater h
    obtain ⟨first, later⟩ := e
    simp only at hlater
    subst hlater
    unfold Peaks shown values
    cases first with
    | none => rfl
    | some value => cases h : value.bind F64.bind <;> simp [h, F64.lt_self]
  · rw [shown_of_later hlater]
    constructor
    · rintro ⟨hmem, _⟩ _ hmissing
      exact ⟨_, hmem, (F64.not_lt_iff (ne_nan hmem) zero_ne_nan).mpr (htops.zero hmissing)⟩
    · intro hzero
      refine ⟨?_, fun v hv => (hlt htops.ne_nan hv).mpr (htops.bound v hv)⟩
      rcases htops.source with hmem | ⟨hq, hmissing⟩
      · exact hmem
      · obtain ⟨v, hv, hreach⟩ := hzero hlater hmissing
        have hle := htops.bound v hv
        rw [hq] at hle ⊢
        have hsame := le_antisymm hle ((F64.not_lt_iff (ne_nan hv) zero_ne_nan).mp hreach)
        exact F64.rank_inj (ne_nan hv) zero_ne_nan hsame ▸ hv

end Emissions

/-! ## Runs -/

/-- The emissions of each finding after an update; the one that creates a row starts them again. -/
def UpdateCall.emits (u : UpdateCall) (db : Db) (hist : FindingId → Emissions) (k : FindingId) : Emissions :=
  ((u.emitted db).find? (·.id = k)).elim (hist k) fun f =>
    if (db.warningState.get k).isSome then (hist k).again f.value else ⟨some f.value, []⟩

/-- The emissions of each finding after a step of another writer, whose rows start without one. -/
def Db.emits (db : Db) (hist : FindingId → Emissions) (k : FindingId) : Emissions :=
  if (db.warningState.get k).isSome then hist k else ⟨none, []⟩

/-- A run, with what each finding was emitted with since its row was created. -/
inductive Recounted (rfc3339 : String → Except String Int) : Db → (FindingId → Emissions) → Prop
  | init {db : Db} {hist : FindingId → Emissions} (h : db.warningState = .empty) : Recounted rfc3339 db hist
  | update {db db' : Db} {hist : FindingId → Emissions} (u : UpdateCall) (hprev : Recounted rfc3339 db hist)
      (h : u.run db = .ok db') : Recounted rfc3339 db' (u.emits db hist)
  | ingest {db : Db} {hist : FindingId → Emissions} (read : ManifestRead) (generation : Int) (now : String)
      (cfg : IngestConfig) (hprev : Recounted rfc3339 db hist) :
      Recounted rfc3339 (ingestFindingImport rfc3339 db read generation now cfg).1 (db.emits hist)
  | coverage {db db' : Db} {key : String} {hist : FindingId → Emissions} (c : CoverageCall)
      (hprev : Recounted rfc3339 db hist) (h : recordCoverageTestimonyAbsentFinding db c = .ok (db', key)) :
      Recounted rfc3339 db' (db.emits hist)
  | operator {db db' : Db} {hist : FindingId → Emissions} (f : WarningRow → WarningRow) (hf : OperatorEdit f)
      (hprev : Recounted rfc3339 db hist) (h : db'.warningState = db.warningState.update f hf.id) :
      Recounted rfc3339 db' hist
  | elsewhere {db db' : Db} {hist : FindingId → Emissions} (hprev : Recounted rfc3339 db hist)
      (h : db'.warningState = db.warningState) : Recounted rfc3339 db' hist

/-- Every row's peak is the one its emissions leave. -/
def Db.ShowsPeaks (db : Db) (hist : FindingId → Emissions) : Prop :=
  ∀ k r, db.warningState.get k = some r → r.peakValue = (hist k).shown

theorem peakValue_emittedRow (c : Cycle) (prev : Option WarningRow) (f : Finding) :
    (emittedRow c prev f).peakValue =
      prev.elim (f.value.bind F64.bind) fun r => Emissions.raise r.peakValue f.value := by
  cases prev <;> rfl

theorem peakValue_of_core {r r' : WarningRow} (h : r'.core = r.core) : r'.peakValue = r.peakValue :=
  congrArg (·.peakValue) h

variable {db db' : Db} {hist : FindingId → Emissions} {ws : List RowWrite} (rfc3339 : String → Except String Int)

theorem update_showsPeaks {u : UpdateCall} (hshow : db.ShowsPeaks hist) (h : Updated u db db') :
    db'.ShowsPeaks (u.emits db hist) := by
  intro k r' hr'
  rcases h.row_cases hr' with ⟨f, hf, rfl, s, hfin⟩ | ⟨hk, r, hr, hcase⟩
  · have hemits : u.emits db hist f.id =
        if (db.warningState.get f.id).isSome then (hist f.id).again f.value else ⟨some f.value, []⟩ := by
      unfold UpdateCall.emits
      rw [find_id h.nodup hf, Option.elim_some]
    have hvalue := peakValue_emittedRow (u.cycle db) (db.warningState.get f.id) f
    generalize emittedRow (u.cycle db) (db.warningState.get f.id) f = e at hfin hvalue
    have hpeak : r'.peakValue = (e.setStability s).peakValue := peakValue_of_core (finish_core hfin)
    have hstable : (e.setStability s).peakValue = e.peakValue := rfl
    rw [hpeak, hstable, hvalue, hemits]
    cases hprev : db.warningState.get f.id with
    | none => rfl
    | some r => simp only [Option.elim_some, Option.isSome_some, if_true, Emissions.shown_again, hshow _ r hprev]
  · have hemits : u.emits db hist k = hist k := by
      unfold UpdateCall.emits
      rw [find?_eq_none.mpr fun f hf e => hk (List.mem_map.mpr ⟨f, hf, by simpa using e⟩), Option.elim_none]
    rw [hemits, ← hshow k r hr]
    rcases hcase with ⟨reason, _, hfin⟩ | ⟨_, _, hfin⟩
    · exact peakValue_of_core ((finish_core hfin).trans (core_suppress _ _ _))
    · have hpeak : r'.peakValue = r.incAbsent.peakValue := peakValue_of_core (finish_core hfin)
      exact hpeak

/-- A write that leaves a peak as it is, and its own row without one. -/
structure RowWrite.Peakless (w : RowWrite) : Prop where
  row : w.row.peakValue = none
  overwrite : ∀ r, (w.overwrite r).peakValue = r.peakValue

theorem peakValue_applyWrites (hws : ∀ w ∈ ws, w.Peakless) : ∀ {t : WarningState} {k : FindingId}
    {r : WarningRow}, (applyWrites t ws).get k = some r → r.peakValue = (t.get k).bind WarningRow.peakValue := by
  induction ws with
  | nil =>
    intro t k r h
    have hget : t.get k = some r := h
    rw [hget]
    rfl
  | cons w ws ih =>
    intro t k r h
    have hw := hws w (by simp)
    rw [ih (fun w' hw' => hws w' (mem_cons_of_mem _ hw')) h, RowWrite.apply, Table.get_upsert]
    split
    · rename_i hk
      cases hget : t.get k with
      | none => simp [hw.row]
      | some old => simp [hw.overwrite]
    · rfl

theorem writes_showsPeaks (hws : ∀ w ∈ ws, w.Peakless) (hshow : db.ShowsPeaks hist)
    (h : db'.warningState = applyWrites db.warningState ws) : db'.ShowsPeaks (db.emits hist) := by
  intro k r hr
  rw [h] at hr
  rw [peakValue_applyWrites hws hr]
  unfold Db.emits
  cases hget : db.warningState.get k with
  | none => rfl
  | some old => simp [hshow k old hget]

theorem ingestWrites_peakless (read : ManifestRead) (g : Int) (now : String) (cfg : IngestConfig) :
    ∀ w ∈ ingestWrites rfc3339 read g now cfg, w.Peakless := by
  intro w hw
  rcases mem_ingestWrites hw with ⟨p, x, rfl⟩ | ⟨m, f, rfl⟩ | ⟨m, d, rfl⟩
  · exact ⟨rfl, fun _ => rfl⟩
  · exact ⟨rfl, fun _ => rfl⟩
  · exact ⟨rfl, fun _ => rfl⟩

theorem showsPeaks_of_recounted {rfc3339 : String → Except String Int} (h : Recounted rfc3339 db hist) :
    db.ShowsPeaks hist := by
  induction h with
  | init h => intro k r hr; rw [h] at hr; cases hr
  | update u _ h ih => exact update_showsPeaks ih (run_updated h)
  | ingest read g now cfg _ ih =>
    exact writes_showsPeaks (ingestWrites_peakless rfc3339 read g now cfg) ih (ingest_warningState _ _ _ _ _)
  | coverage c _ h ih =>
    have hws : ∀ w ∈ [coverageWrite c], w.Peakless := by
      intro w hw
      rw [mem_singleton] at hw
      exact hw ▸ ⟨rfl, fun _ => rfl⟩
    exact writes_showsPeaks hws ih (recordCoverage_ok h).1
  | operator f hf _ h ih =>
    intro k r hr
    rw [h, Table.get_update, Option.map_eq_some_iff] at hr
    obtain ⟨r₀, hr₀, rfl⟩ := hr
    rw [hf r₀]
    exact ih k r₀ hr₀
  | elsewhere _ h ih =>
    intro k r hr
    rw [h] at hr
    exact ih k r hr

/-- In every run a row shows the greatest of the values it was emitted with, exactly when it was
    emitted once, always with a value, or with some value that is not negative. -/
theorem peak_iff {rfc3339 : String → Except String Int} {db : Db} {hist : FindingId → Emissions} {k : FindingId}
    {r : WarningRow} (h : Recounted rfc3339 db hist) (hr : db.warningState.get k = some r) :
    (hist k).Peaks r.peakValue ↔ (hist k).ReachZero := by
  rw [showsPeaks_of_recounted h k r hr]
  exact (hist k).peaks_shown_iff

/-! ## Two emissions of a finding -/

/-- The update of a generation that finds one thing, with this value. -/
def valuedCall (g : Int) (value : Option F64) : UpdateCall :=
  { generationId := g, findings := [{ strayFinding with value := value }] }

/-- A finding emitted twice: the database after each emission. -/
def twice (first second : Option F64) : Option (Db × Db) := do
  let db₁ ← ((valuedCall 1 first).run (Db.published 2)).toOption
  let db₂ ← ((valuedCall 2 second).run db₁).toOption
  return (db₁, db₂)

/-- The peak of its row, where both emissions have one. -/
def twicePeak (first second : Option F64) : Option (Option F64) :=
  (twice first second).bind fun dbs => (dbs.1.warningState.get strayFinding.id).bind fun _ =>
    (dbs.2.warningState.get strayFinding.id).map WarningRow.peakValue

theorem recounted_twice {first second peak : Option F64} (h : twicePeak first second = some peak) :
    ∃ db hist r, Recounted rfc3339 db hist ∧
      db.warningState.get strayFinding.id = some r ∧ r.peakValue = peak ∧
        hist strayFinding.id = ⟨some first, [second]⟩ := by
  obtain ⟨⟨db₁, db₂⟩, htwice, h⟩ := Option.bind_eq_some_iff.mp h
  obtain ⟨r₁, hr₁, h⟩ := Option.bind_eq_some_iff.mp h
  obtain ⟨r₂, hr₂, hpeak⟩ := Option.map_eq_some_iff.mp h
  unfold twice at htwice
  obtain ⟨db, h₁, htwice⟩ := Option.bind_eq_some_iff.mp htwice
  obtain ⟨db', h₂, htwice⟩ := Option.bind_eq_some_iff.mp htwice
  obtain ⟨rfl, rfl⟩ := Prod.mk.inj (Option.some.inj htwice)
  have hemitted : ∀ (g : Int) (value : Option F64) (db : Db),
    ((valuedCall g value).emitted db).find? (·.id = strayFinding.id) =
      some { strayFinding with value := value } := by
    intro g value db
    rw [emitted_eq_findings (by simp [valuedCall, strayFinding])]
    rfl
  have hstart : Recounted rfc3339 (Db.published 2) fun _ => ⟨none, []⟩ := .init rfl
  refine ⟨db', _, r₂, .update _ (.update _ hstart (Sql.toOption_eq_some.mp h₁))
    (Sql.toOption_eq_some.mp h₂), hr₂, hpeak, ?_⟩
  have hnone : ((Db.published 2).warningState.get strayFinding.id).isSome = false := rfl
  have hsome : (db.warningState.get strayFinding.id).isSome = true := Option.isSome_iff_exists.mpr ⟨r₁, hr₁⟩
  simp only [UpdateCall.emits, hemitted, Option.elim_some, hsome, hnone, if_true, Bool.false_eq_true, if_false]
  rfl

/-- A finding emitted twice without a value shows a peak of 0. -/
theorem peaks_at_zero_without_a_value : ∃ db hist r, Recounted (fun _ => .error "") db hist ∧
    db.warningState.get strayFinding.id = some r ∧ (hist strayFinding.id).values = [] ∧ r.peakValue = some 0 ∧
      ¬(hist strayFinding.id).Peaks r.peakValue := by
  obtain ⟨db, hist, r, hrun, hr, hpeak, hhist⟩ := recounted_twice (fun _ => .error "")
    (show twicePeak none none = some (some 0) by decide +kernel)
  refine ⟨db, hist, r, hrun, hr, by rw [hhist]; rfl, hpeak, ?_⟩
  rw [hpeak, hhist]
  rintro ⟨hmem, _⟩
  exact not_mem_nil hmem

/-- Emitted with -5 and then with -3, it shows -3. -/
theorem peaks_below_zero : ∃ db hist r, Recounted (fun _ => .error "") db hist ∧
    db.warningState.get strayFinding.id = some r ∧ (hist strayFinding.id).Peaks r.peakValue := by
  obtain ⟨db, hist, r, hrun, hr, hpeak, hhist⟩ := recounted_twice (fun _ => .error "")
    (show twicePeak (some (.fin (-5))) (some (.fin (-3))) = some (some (.fin (-3))) by decide +kernel)
  refine ⟨db, hist, r, hrun, hr, (peak_iff hrun hr).mpr ?_⟩
  rw [hhist]
  rintro _ (h | ⟨v, hv, h⟩)
  · cases h
  · rw [mem_singleton.mp hv] at h
    cases h

end Nq
