/-
  Nq.Lifecycle.Hysteresis — the recovery loop counts absences exactly (`publish.rs`,
  `update_warning_state_inner`, recovery hysteresis).

  A history keeps the updates of a run; imports, the coverage recorder, the operator and
  everything else may step in between (`Lives`). A row is an update's own where it was
  emitted and has stood since (`Stood`): an import may bring back a row that was cleared.

  - `settles`: what the loop does to a row that was not emitted.
  - `stood_absentGens`: `absent_gens` is the number of generations since the last emission
    that neither emitted nor masked the row.
  - `hysteresis_exact`: the loop deletes at the third such generation, and no other.
-/

import Nq.Lifecycle.Gaps

namespace Nq

open List
open Sql (Table)

/-! ## Histories -/

section

variable (rfc3339 : String → Except String Int)

/-- A step between two updates. -/
inductive Between : Db → Db → Prop
  | ingest {db : Db} (read : ManifestRead) (generation : Int) (now : String) (cfg : IngestConfig) :
      Between db (ingestFindingImport rfc3339 db read generation now cfg).1
  | coverage {db db' : Db} {key : String} (c : CoverageCall)
      (h : recordCoverageTestimonyAbsentFinding db c = .ok (db', key)) : Between db db'
  | operator {db db' : Db} (f : WarningRow → WarningRow) (hf : OperatorEdit f)
      (h : db'.warningState = db.warningState.update f hf.id) : Between db db'
  | elsewhere {db db' : Db} (h : db'.warningState = db.warningState) : Between db db'

/-- A run from an empty table, with its updates, newest first. -/
inductive Lives : List Generation → Db → Prop
  | start {db : Db} (h : db.warningState = .empty) : Lives [] db
  | update {hist : List Generation} {db db' : Db} (hprev : Lives hist db) (u : UpdateCall) (h : u.run db = .ok db') :
      Lives ((u, db) :: hist) db'
  | between {hist : List Generation} {db db' : Db} (hprev : Lives hist db) (h : Between rfc3339 db db') : Lives hist db'

end

/-- The update leaves a row of `k`. -/
def Generation.leaves (p : Generation) (k : FindingId) : Prop :=
  ∃ db', p.1.run p.2 = .ok db' ∧ (db'.warningState.get k).isSome = true

/-- `k` was emitted, and its row has stood since. -/
def Stood (k : FindingId) (hist : List Generation) : Prop :=
  ∃ p older, hist = gap k hist ++ p :: older ∧ p.emits k = true ∧ ∀ q ∈ p :: gap k hist, q.leaves k

/-- The generations since the last emission of `k` in which its row was unmasked. -/
def absences (k : FindingId) (hist : List Generation) : List Generation := (gap k hist).filter fun p => !p.masks k

/-! ## The loop -/

/-- The table after the recovery loop. -/
def UpdateCall.afterRecovery (u : UpdateCall) (db : Db) : WarningState :=
  recoverAbsent (u.emittedIds db) (buildMasking (u.atMasking db)) u.generationId (u.atMasking db)

/-- The loop deletes the row of `k`. -/
def UpdateCall.clears (u : UpdateCall) (db : Db) (k : FindingId) : Prop :=
  ((u.atMasking db).get k).isSome = true ∧ (u.afterRecovery db).get k = none

variable {db db' : Db} {u : UpdateCall} {k : FindingId} {r : WarningRow} {hist : List Generation}

theorem emission_atMasking (h : u.run db = .ok db') : Emission u db (u.atMasking db) := by
  obtain ⟨_, db₁, h₁, _⟩ := run_eq_ok.mp h
  unfold UpdateCall.atMasking
  rw [h₁]
  exact emission_of_recorded (recordFindings_recorded h₁)

/-- The loop deletes what is not emitted, not masked and was absent twice before. -/
theorem clears_iff (h : u.run db = .ok db') (hr : db.warningState.get k = some r) : u.clears db k ↔
      k ∉ u.emittedIds db ∧ u.masked db k.host k.kind = none ∧ recoveryWindow ≤ r.absentGens + 1 := by
  have hem := emission_atMasking h
  have hid : r.id = k := Table.key_of_get hr
  unfold UpdateCall.clears UpdateCall.afterRecovery
  rw [hem.get_recover]
  by_cases hk : k ∈ u.emittedIds db
  · simp only [hk, if_true]
    cases (u.atMasking db).get k <;> simp
  · rw [hem.absent k hk, hr]
    simp only [hk, if_false, Option.bind_some, Option.isSome_some, true_and, not_false_eq_true]
    rw [← hid]
    cases hm : u.masked db r.id.host r.id.kind with
    | some reason =>
      rw [settle_masked hm]
      simp
    | none =>
      rw [settle_unmasked hm]
      simp

/-! ## Between two updates -/

/-- The counters of a row that only updates advance. -/
def WarningRow.counters (r : WarningRow) : Int × Int := (r.absentGens, r.entityGoneGens)

/-- A write that starts a row's counters at zero, and leaves those of a row that is there. -/
def RowWrite.Uncounted (w : RowWrite) : Prop := w.row.counters = (0, 0) ∧ ∀ r, (w.overwrite r).counters = r.counters

theorem applyWrites_counters {ws : List RowWrite} (hws : ∀ w ∈ ws, w.Uncounted) : ∀ {t : WarningState} (k : FindingId),
    ((applyWrites t ws).get k).elim (0, 0) WarningRow.counters = (t.get k).elim (0, 0) WarningRow.counters ∧
      ((t.get k).isSome = true → ((applyWrites t ws).get k).isSome = true) := by
  induction ws with
  | nil => intro t k; exact ⟨rfl, id⟩
  | cons w ws ih =>
    intro t k
    have hw := hws w (by simp)
    have hstep : ((w.apply t).get k).elim (0, 0) WarningRow.counters = (t.get k).elim (0, 0) WarningRow.counters ∧
        ((t.get k).isSome = true → ((w.apply t).get k).isSome = true) := by
      rw [RowWrite.apply, Table.get_upsert]
      split
      · cases t.get k with
        | none => exact ⟨hw.1, fun h => by cases h⟩
        | some r => exact ⟨hw.2 r, fun _ => rfl⟩
      · exact ⟨rfl, id⟩
    have hrest := ih (fun w' hw' => hws w' (mem_cons_of_mem _ hw')) (t := w.apply t) k
    exact ⟨hrest.1.trans hstep.1, fun h => hrest.2 (hstep.2 h)⟩

theorem ingestWrites_uncounted {rfc3339 : String → Except String Int} (read : ManifestRead) (g : Int) (now : String)
    (cfg : IngestConfig) : ∀ w ∈ ingestWrites rfc3339 read g now cfg, w.Uncounted := by
  intro w hw
  rcases mem_ingestWrites hw with ⟨p, x, rfl⟩ | ⟨m, f, rfl⟩ | ⟨m, d, rfl⟩ <;> exact ⟨rfl, fun _ => rfl⟩

variable {rfc3339 : String → Except String Int}

/-- Nothing between two updates deletes a row or advances its counters. -/
theorem Between.counters (h : Between rfc3339 db db') (k : FindingId) :
    (db'.warningState.get k).elim (0, 0) WarningRow.counters = (db.warningState.get k).elim (0, 0) WarningRow.counters ∧
      ((db.warningState.get k).isSome = true → (db'.warningState.get k).isSome = true) := by
  cases h with
  | ingest read g now cfg =>
    rw [ingest_warningState]
    exact applyWrites_counters (ingestWrites_uncounted read g now cfg) k
  | coverage c h =>
    rw [(recordCoverage_ok h).1]
    refine @applyWrites_counters [coverageWrite c] ?_ _ k
    intro w hw
    rw [mem_singleton] at hw
    exact hw ▸ ⟨rfl, fun _ => rfl⟩
  | operator f hf h =>
    rw [h, Table.get_update]
    cases db.warningState.get k with
    | none => exact ⟨rfl, fun h => by cases h⟩
    | some r =>
      refine ⟨?_, fun _ => rfl⟩
      show (f r).counters = r.counters
      rw [hf r]
      rfl
  | elsewhere h => rw [h]; exact ⟨rfl, id⟩

theorem Between.absentGens (h : Between rfc3339 db db') (hr : db.warningState.get k = some r) :
    ∃ r', db'.warningState.get k = some r' ∧ r'.absentGens = r.absentGens := by
  obtain ⟨hcounters, hsome⟩ := h.counters k
  obtain ⟨r', hr'⟩ := Option.isSome_iff_exists.mp (hsome (by rw [hr]; rfl))
  rw [hr, hr'] at hcounters
  exact ⟨r', hr', congrArg Prod.fst hcounters⟩

theorem Between.step (h : Between rfc3339 db db') : Step rfc3339 db db' := by
  cases h with
  | ingest read g now cfg => exact .ingest read g now cfg
  | coverage c h => exact .coverage c h
  | operator f hf h => exact .operator f hf h
  | elsewhere h => exact .elsewhere h

theorem Lives.reach (h : Lives rfc3339 hist db) : Reach rfc3339 db := by
  induction h with
  | start h => exact .init h
  | update _ u h ih => exact .step ih (.update u h)
  | between _ h ih => exact .step ih h.step

/-! ## The count -/

theorem Stood.tail {p : Generation} (h : Stood k (p :: hist)) (hem : p.emits k = false) : Stood k hist := by
  obtain ⟨q, older, hsplit, hq, hleft⟩ := h
  rw [gap_cons_absent hem] at hsplit hleft
  refine ⟨q, older, ?_, hq, fun x hx => hleft x ?_⟩
  · exact (List.cons.inj hsplit).2
  · rcases mem_cons.mp hx with rfl | hx
    · exact mem_cons_self
    · exact mem_cons_of_mem _ (mem_cons_of_mem _ hx)

theorem Stood.head (h : Stood k ((u, db) :: hist)) (hrun : u.run db = .ok db') :
    ∃ r, db'.warningState.get k = some r := by
  obtain ⟨q, older, hsplit, hq, hleft⟩ := h
  have hleaves : Generation.leaves (u, db) k := by
    cases hem : Generation.emits (u, db) k with
    | true =>
      rw [gap_cons_emitted hem] at hsplit
      obtain ⟨rfl, -⟩ := List.cons.inj hsplit
      exact hleft _ mem_cons_self
    | false =>
      rw [gap_cons_absent hem] at hleft
      exact hleft _ (mem_cons_of_mem _ mem_cons_self)
  obtain ⟨db₁, h₁, hsome⟩ := hleaves
  obtain rfl := Except.ok.inj (hrun.symm.trans h₁)
  exact Option.isSome_iff_exists.mp hsome

/-- `absent_gens` counts the absences since the last emission. -/
theorem stood_absentGens (h : Lives rfc3339 hist db) : ∀ {k : FindingId}, Stood k hist →
    ∃ r, db.warningState.get k = some r ∧ r.absentGens = (absences k hist).length := by
  induction h with
  | start => intro k ⟨q, older, hsplit, _⟩; exact absurd hsplit (by simp [gap])
  | between _ hb ih =>
    intro k hstood
    obtain ⟨r, hr, habsent⟩ := ih hstood
    obtain ⟨r', hr', hsame⟩ := hb.absentGens hr
    exact ⟨r', hr', hsame.trans habsent⟩
  | @update hist db db' hprev u hrun ih =>
    intro k hstood
    obtain ⟨r', hr'⟩ := hstood.head hrun
    refine ⟨r', hr', ?_⟩
    rcases (run_updated hrun).row_cases hr' with ⟨f, hf, rfl, s, hfin⟩ | ⟨hk, r, hr, hcase⟩
    · have hem : Generation.emits (u, db) f.id = true := decide_eq_true (mem_map_of_mem hf)
      rw [absences, gap_cons_emitted hem]
      exact (congrArg (·.absentGens) (finish_core hfin)).trans (absentGens_emittedRow _ _ _)
    · have hem : Generation.emits (u, db) k = false := decide_eq_false hk
      obtain ⟨r₀, hr₀, habsent⟩ := ih (hstood.tail hem)
      obtain rfl := Option.some.inj (hr.symm.trans hr₀)
      unfold absences at habsent ⊢
      rw [gap_cons_absent hem]
      rcases hcase with ⟨reason, hm, hfin⟩ | ⟨hm, ha, hfin⟩
      · have hmask : Generation.masks (u, db) k = true := by simp [Generation.masks, hm]
        rw [filter_cons_of_neg (by simp [hmask]), ← habsent]
        exact congrArg (·.absentGens) (finish_core hfin)
      · have hmask : Generation.masks (u, db) k = false := by simp [Generation.masks, hm]
        rw [filter_cons_of_pos (by simp [hmask]), length_cons]
        have := congrArg (·.absentGens) (finish_core hfin)
        have hinc : r'.absentGens = r.absentGens + 1 := this
        push_cast
        omega

/-- At most two absences are counted; the recovery loop deletes the row of an update in the
    generation of its third absence since the last emission, and in no other. -/
theorem hysteresis_exact {hist : List Generation} {db : Db} (h : Lives rfc3339 hist db) :
    (∀ r ∈ db.warningState.rows, 0 ≤ r.absentGens ∧ r.absentGens ≤ 2) ∧
    ∀ (u : UpdateCall) (db' : Db), u.run db = .ok db' → ∀ k, Stood k hist →
      (u.clears db k ↔ Generation.emits (u, db) k = false ∧ Generation.masks (u, db) k = false ∧
        (absences k hist).length = 2) ∧ (u.clears db k → db'.warningState.get k = none) := by
  refine ⟨fun r hr => ?_, fun u db' hrun k hstood => ?_⟩
  · have habsent := (reach_rowInv h.reach r.id r (Table.get_of_mem hr)).absent
    have hwindow : recoveryWindow = 3 := rfl
    omega
  · obtain ⟨r, hr, habsent⟩ := stood_absentGens h hstood
    have hinv := (reach_rowInv h.reach k r hr).absent
    have hwindow : recoveryWindow = 3 := rfl
    rw [clears_iff hrun hr]
    refine ⟨?_, fun ⟨hk, hm, ha⟩ => (run_updated hrun).cleared hk hm hr ha⟩
    unfold Generation.emits Generation.masks
    rw [decide_eq_false_iff_not, Option.isSome_eq_false_iff, Option.isNone_iff_eq_none]
    refine and_congr_right fun _ => and_congr_right fun _ => ?_
    omega

/-- Found once, then not emitted again and never masked: cleared in the third generation. -/
theorem the_third_absence_clears : ∃ hist db db', Lives (fun _ => .error "") hist db ∧
    (quietCall 4).run db = .ok db' ∧ Stood strayFinding.id hist ∧ (quietCall 4).clears db strayFinding.id ∧
    db'.warningState.get strayFinding.id = none := by
  have h : (((strayCall 1).run (Db.published 4)).toOption.bind fun db₁ =>
      ((quietCall 2).run db₁).toOption.bind fun db₂ => ((quietCall 3).run db₂).toOption.bind fun db₃ =>
        ((quietCall 4).run db₃).toOption.map fun _ =>
        ([Generation.emits (strayCall 1, Db.published 4) strayFinding.id,
          Generation.emits (quietCall 2, db₁) strayFinding.id,
            Generation.emits (quietCall 3, db₂) strayFinding.id, Generation.emits (quietCall 4, db₃) strayFinding.id],
          [Generation.masks (quietCall 2, db₁) strayFinding.id, Generation.masks (quietCall 3, db₂) strayFinding.id,
            Generation.masks (quietCall 4, db₃) strayFinding.id],
          [(db₁.warningState.get strayFinding.id).isSome, (db₂.warningState.get strayFinding.id).isSome,
            (db₃.warningState.get strayFinding.id).isSome])) =
      some ([true, false, false, false], [false, false, false], [true, true, true]) := by decide +kernel
  obtain ⟨db₁, h₁, h⟩ := Option.bind_eq_some_iff.mp h
  obtain ⟨db₂, h₂, h⟩ := Option.bind_eq_some_iff.mp h
  obtain ⟨db₃, h₃, h⟩ := Option.bind_eq_some_iff.mp h
  obtain ⟨db₄, h₄, hread⟩ := Sql.ok_of_toOption h
  simp only [Prod.mk.injEq, List.cons.injEq, and_true] at hread
  obtain ⟨⟨hem₁, hem₂, hem₃, hem₄⟩, ⟨hm₂, hm₃, hm₄⟩, hs₁, hs₂, hs₃⟩ := hread
  have hrun₁ := Sql.toOption_eq_some.mp h₁
  have hrun₂ := Sql.toOption_eq_some.mp h₂
  have hrun₃ := Sql.toOption_eq_some.mp h₃
  have hlives : Lives (fun _ => .error "") [(quietCall 3, db₂),
      (quietCall 2, db₁), (strayCall 1, Db.published 4)] db₃ :=
    .update (.update (.update (.start rfl) _ hrun₁) _ hrun₂) _ hrun₃
  have hgap : gap strayFinding.id [(quietCall 3, db₂), (quietCall 2, db₁), (strayCall 1, Db.published 4)] =
      [(quietCall 3, db₂), (quietCall 2, db₁)] := by
    rw [gap_cons_absent hem₃, gap_cons_absent hem₂, gap_cons_emitted hem₁]
  have hstood : Stood strayFinding.id [(quietCall 3, db₂), (quietCall 2, db₁), (strayCall 1, Db.published 4)] := by
    refine ⟨(strayCall 1, Db.published 4), [], by rw [hgap]; rfl, hem₁, ?_⟩
    rw [hgap]
    simp only [forall_mem_cons]
    exact ⟨⟨db₁, hrun₁, hs₁⟩, ⟨db₃, hrun₃, hs₃⟩, ⟨db₂, hrun₂, hs₂⟩, fun q hq => absurd hq not_mem_nil⟩
  have habsences : (absences strayFinding.id [(quietCall 3, db₂),
      (quietCall 2, db₁), (strayCall 1, Db.published 4)]).length = 2 := by
    rw [absences, hgap]
    simp [hm₂, hm₃]
  obtain ⟨hclears, hgone⟩ := (hysteresis_exact hlives).2 (quietCall 4) db₄ h₄ strayFinding.id hstood
  have hcleared := hclears.mpr ⟨hem₄, hm₄, habsences⟩
  exact ⟨_, db₃, db₄, hlives, h₄, hstood, hcleared, hgone hcleared⟩

end Nq
