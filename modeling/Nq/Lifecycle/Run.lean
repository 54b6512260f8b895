/-
  Nq.Lifecycle.Run — runs of the finding lifecycle.

  `warning_state` starts empty. Its writers are the lifecycle update, finding imports, the
  coverage recorder, the operator (finding actions and source retirement, which touch only
  the work-state, owner, note and basis columns) and the notifier's mark; everything else (publishing, retention, a
  rolled-back transaction) leaves it alone and may change every other table (`Step`).

  - `Updated.row_cases`: all a lifecycle update can leave under a key;
  - `reach_rowInv`: what holds of every row of every reachable database.
-/

import Nq.Lifecycle.Rows
import Nq.Testimony.Coverage

namespace Nq

open Sql (Table)

/-! ## Steps -/

/-- An operator's edit of a row: work state, canon, notification mark and basis only. -/
def OperatorEdit (f : WarningRow → WarningRow) : Prop :=
  ∀ r, f r = { r with
    workState := (f r).workState
    workStateAt := (f r).workStateAt
    acknowledged := (f r).acknowledged
    acknowledgedAt := (f r).acknowledgedAt
    ackExpiresAt := (f r).ackExpiresAt
    owner := (f r).owner
    note := (f r).note
    notifiedSeverity := (f r).notifiedSeverity
    basisState := (f r).basisState
    basisStateAt := (f r).basisStateAt }

theorem OperatorEdit.id {f : WarningRow → WarningRow} (h : OperatorEdit f) (r : WarningRow) : (f r).id = r.id := by
  rw [h r]; rfl

variable (rfc3339 : String → Except String Int)

inductive Step : Db → Db → Prop
  | update {db db' : Db} (u : UpdateCall) (h : u.run db = .ok db') : Step db db'
  | ingest {db : Db} (read : ManifestRead) (generation : Int) (now : String) (cfg : IngestConfig) :
      Step db (ingestFindingImport rfc3339 db read generation now cfg).1
  | coverage {db db' : Db} {key : String} (c : CoverageCall)
      (h : recordCoverageTestimonyAbsentFinding db c = .ok (db', key)) : Step db db'
  | operator {db db' : Db} (f : WarningRow → WarningRow) (hf : OperatorEdit f)
      (h : db'.warningState = db.warningState.update f hf.id) : Step db db'
  | elsewhere {db db' : Db} (h : db'.warningState = db.warningState) : Step db db'

inductive Reach : Db → Prop
  | init {db : Db} (h : db.warningState = .empty) : Reach db
  | step {db db' : Db} (hr : Reach db) (h : Step rfc3339 db db') : Reach db'

/-! ## What an update leaves under a key -/

variable {db db' : Db} {k : FindingId} {r r' : WarningRow} {u : UpdateCall} {ws : List RowWrite}

/-- An emitted identity holds the upserted row; any other row was masked, or is in its
    first or second absence; either way it then went through the later passes. -/
theorem Updated.row_cases (h : Updated u db db') (hr : db'.warningState.get k = some r') :
    (∃ f ∈ u.emitted db, f.id = k ∧ ∃ s,
      u.finish db ((emittedRow (u.cycle db) (db.warningState.get k) f).setStability s) = some r') ∨
    (k ∉ u.emittedIds db ∧ ∃ r, db.warningState.get k = some r ∧
      ((∃ reason, u.masked db k.host k.kind = some reason ∧ u.finish db (r.suppress reason u.generationId) = some r') ∨
       (u.masked db k.host k.kind = none ∧ r.absentGens + 1 < recoveryWindow ∧
         u.finish db r.incAbsent = some r'))) := by
  by_cases hk : k ∈ u.emittedIds db
  · obtain ⟨f, hf, rfl⟩ := List.mem_map.mp hk
    obtain ⟨s, hs⟩ := h.emitted f hf
    exact .inl ⟨f, hf, rfl, s, hs.symm.trans hr⟩
  · refine .inr ⟨hk, ?_⟩
    rw [h.absent k hk] at hr
    cases hget : db.warningState.get k with
    | none => rw [hget] at hr; cases hr
    | some r =>
      have hid : r.id = k := Table.key_of_get hget
      subst hid
      rw [hget, Option.bind_some] at hr
      refine ⟨r, rfl, ?_⟩
      cases hm : u.masked db r.id.host r.id.kind with
      | some reason =>
        rw [settle_masked hm] at hr
        exact .inl ⟨reason, rfl, hr⟩
      | none =>
        rw [settle_unmasked hm] at hr
        by_cases ha : r.absentGens + 1 ≥ recoveryWindow
        · simp [ha] at hr
        · simp only [ha, if_false, Option.bind_some] at hr
          exact .inr ⟨rfl, by omega, hr⟩

/-- A visibly absent row in its first or second absence, if the collector leaves it. -/
theorem Updated.aged {u : UpdateCall} {db db' : Db} (h : Updated u db db') {k : FindingId} {r : WarningRow}
    (hk : k ∉ u.emittedIds db) (hm : u.masked db k.host k.kind = none) (hr : db.warningState.get k = some r)
    (ha : r.absentGens + 1 < recoveryWindow) (hg : db.goneAfter r.incAbsent ≤ entityGcThreshold) :
    ∃ r', db'.warningState.get k = some r' ∧ u.finish db r.incAbsent = some r' := by
  obtain ⟨r', hfin⟩ := Option.isSome_iff_exists.mp (finish_isSome.mpr hg)
  have hid : r.id = k := Table.key_of_get hr
  subst hid
  have hsettle : u.settle db r = some r.incAbsent := by rw [settle_unmasked hm, if_neg (by omega)]
  exact ⟨r', by rw [h.absent r.id hk, hr, Option.bind_some, hsettle, Option.bind_some, hfin], hfin⟩

/-- A visibly absent row in its third absence is gone. -/
theorem Updated.cleared (h : Updated u db db') (hk : k ∉ u.emittedIds db) (hm : u.masked db k.host k.kind = none)
    (hr : db.warningState.get k = some r) (ha : r.absentGens + 1 ≥ recoveryWindow) : db'.warningState.get k = none := by
  have hid : r.id = k := Table.key_of_get hr
  subst hid
  have hsettle : u.settle db r = none := by rw [settle_unmasked hm, if_pos ha]
  rw [h.absent r.id hk, hr, Option.bind_some, hsettle, Option.bind_none]

/-! ## Every row of every reachable database -/

structure RowInv (r : WarningRow) : Prop where
  gone : r.entityGoneGens ≤ entityGcThreshold
  streak : 1 ≤ r.consecutiveGens
  absent : 0 ≤ r.absentGens ∧ r.absentGens + 1 ≤ recoveryWindow
  declared : r.suppressionKind = some .operatorDeclaration → r.suppressionDeclarationId.isSome = true

def Db.RowsInv (db : Db) : Prop := ∀ k r, db.warningState.get k = some r → RowInv r

theorem finish_rowInv (h : u.finish db r = some r') (hs : 1 ≤ r.consecutiveGens)
    (ha : 0 ≤ r.absentGens ∧ r.absentGens + 1 ≤ recoveryWindow)
    (hd : r.suppressionKind = some .operatorDeclaration → r.suppressionDeclarationId.isSome = true) : RowInv r' := by
  have hcore := finish_core h
  have hstreak : r'.consecutiveGens = r.consecutiveGens := congrArg (·.consecutiveGens) hcore
  have habsent : r'.absentGens = r.absentGens := congrArg (·.absentGens) hcore
  refine ⟨?_, hstreak ▸ hs, habsent ▸ ha, ?_⟩
  · rw [finish_gone h]
    exact (finish_eq_some h).1
  · intro hk
    rcases finish_marks h with ⟨d, _, _, hm⟩ | ⟨_, hm⟩
    · have : r'.suppressionDeclarationId = some d.declarationId := congrArg Marks.declarationId hm
      rw [this]; rfl
    · have hkind : r'.suppressionKind = _ := congrArg Marks.kind hm
      have hid : r'.suppressionDeclarationId = _ := congrArg Marks.declarationId hm
      rw [hkind] at hk
      rw [hid]
      simp only [WarningRow.revoke, WarningRow.marks] at hk ⊢
      split at hk
      · cases hk
      · rename_i ho
        simp only [ho] at hk ⊢
        exact hd hk

theorem one_le_caseConsecutive (h : 1 ≤ r.consecutiveGens) (g : Int) (hash : Option String) :
    1 ≤ caseConsecutive r g hash := by
  unfold caseConsecutive
  split
  · omega
  · split
    · omega
    · split <;> omega

theorem update_rowsInv (hinv : db.RowsInv) (h : Updated u db db') : db'.RowsInv := by
  intro k r' hr'
  rcases h.row_cases hr' with ⟨f, _, _, s, hfin⟩ | ⟨_, r, hr, ⟨reason, _, hfin⟩ | ⟨_, ha, hfin⟩⟩
  · have habsent := absentGens_emittedRow (u.cycle db) (db.warningState.get k) f
    have hstreak := consecutiveGens_emittedRow (u.cycle db) (db.warningState.get k) f
    have hmarks := marks_emittedRow (u.cycle db) (db.warningState.get k) f
    generalize emittedRow (u.cycle db) (db.warningState.get k) f = e at hfin habsent hstreak hmarks
    refine finish_rowInv hfin ?_ ?_ ?_
    · show 1 ≤ e.consecutiveGens
      rw [hstreak]
      cases hprev : db.warningState.get k with
      | none => exact le_refl _
      | some r => exact one_le_caseConsecutive (hinv k r hprev).streak _ _
    · show 0 ≤ e.absentGens ∧ e.absentGens + 1 ≤ recoveryWindow
      rw [habsent]
      decide
    · have hkind : e.suppressionKind = _ := congrArg Marks.kind hmarks
      have hid : e.suppressionDeclarationId = _ := congrArg Marks.declarationId hmarks
      show e.suppressionKind = _ → e.suppressionDeclarationId.isSome = true
      rw [hkind, hid]
      cases hprev : db.warningState.get k with
      | none => exact fun hk => nomatch hk
      | some r => exact (hinv k r hprev).declared
  · have hi := hinv k r hr
    exact finish_rowInv hfin hi.streak hi.absent fun hk => nomatch hk
  · have hi := hinv k r hr
    have := hi.absent
    exact finish_rowInv hfin hi.streak
      ⟨by simp only [WarningRow.incAbsent]; omega, by simp only [WarningRow.incAbsent]; omega⟩ hi.declared

/-- A write that keeps the row invariant, whether it inserts or updates. -/
structure RowWrite.Keeps (w : RowWrite) : Prop where
  row : RowInv w.row
  overwrite : ∀ r, RowInv r → RowInv (w.overwrite r)

/-- What holds of the rows the writes insert, and of those they overwrite, holds of all rows. -/
theorem applyWrites_all {P : WarningRow → Prop} (hrow : ∀ w ∈ ws, P w.row)
    (hover : ∀ w ∈ ws, ∀ r, P r → P (w.overwrite r)) : ∀ {t : WarningState},
    (∀ k r, t.get k = some r → P r) → ∀ k r, (applyWrites t ws).get k = some r → P r := by
  induction ws with
  | nil => intro t h; exact h
  | cons w ws ih =>
    intro t h
    refine ih (fun w' hw' => hrow w' (List.mem_cons_of_mem _ hw')) (fun w' hw' =>
      hover w' (List.mem_cons_of_mem _ hw')) ?_
    intro k r hr
    rw [RowWrite.apply, Table.get_upsert] at hr
    split at hr
    · cases hget : t.get k with
      | none => rw [hget] at hr; cases hr; exact hrow w (by simp)
      | some old => rw [hget] at hr; cases hr; exact hover w (by simp) old (h k old hget)
    · exact h k r hr

theorem applyWrites_inv (hws : ∀ w ∈ ws, w.Keeps) {t : WarningState} (h : ∀ k r, t.get k = some r → RowInv r) :
    ∀ k r, (applyWrites t ws).get k = some r → RowInv r :=
  applyWrites_all (fun w hw => (hws w hw).row) (fun w hw => (hws w hw).overwrite) h

theorem rowInv_fresh (hg : r.entityGoneGens = 0) (hs : r.consecutiveGens = 1) (ha : r.absentGens = 0)
    (hk : r.suppressionKind = none) : RowInv r := by
  refine ⟨?_, ?_, ?_, ?_⟩
  · rw [hg]; decide
  · rw [hs]
  · rw [ha]; decide
  · intro h; rw [hk] at h; cases h

theorem rowInv_reassert (h : RowInv r) (g : Int) (at_ : String) : RowInv (r.reassert g at_) :=
  ⟨h.gone, by have := h.streak; simp only [WarningRow.reassert]; omega, h.absent, h.declared⟩

theorem ingestWrites_keeps (read : ManifestRead) (g : Int) (now : String) (cfg : IngestConfig) :
    ∀ w ∈ ingestWrites rfc3339 read g now cfg, w.Keeps := by
  intro w hw
  rcases mem_ingestWrites hw with ⟨p, x, rfl⟩ | ⟨m, f, rfl⟩ | ⟨m, d, rfl⟩
  · exact ⟨rowInv_fresh rfl rfl rfl rfl, fun r hr => rowInv_reassert hr g now⟩
  · refine ⟨rowInv_fresh rfl rfl rfl rfl, fun r hr => ?_⟩
    have h := rowInv_reassert hr g now
    exact ⟨h.gone, h.streak, h.absent, h.declared⟩
  · refine ⟨rowInv_fresh rfl rfl rfl rfl, fun r hr => ?_⟩
    have h := rowInv_reassert hr g now
    exact ⟨h.gone, h.streak, h.absent, h.declared⟩

theorem coverageWrite_keeps (c : CoverageCall) : (coverageWrite c).Keeps :=
  ⟨rowInv_fresh rfl rfl rfl rfl, fun _ hr => rowInv_reassert hr c.generationId c.observedAt⟩

variable {rfc3339}

theorem ingest_warningState (db : Db) (read : ManifestRead) (g : Int) (now : String) (cfg : IngestConfig) :
    (ingestFindingImport rfc3339 db read g now cfg).1.warningState =
      applyWrites db.warningState (ingestWrites rfc3339 read g now cfg) := by
  unfold ingestFindingImport
  cases read with
  | unparsable => rfl
  | parsed m => simp only; split <;> rfl

theorem step_rowsInv (hinv : db.RowsInv) (h : Step rfc3339 db db') : db'.RowsInv := by
  cases h with
  | update u h => exact update_rowsInv hinv (run_updated h)
  | ingest read g now cfg =>
    intro k r hr
    rw [ingest_warningState] at hr
    exact applyWrites_inv (ingestWrites_keeps rfc3339 read g now cfg) hinv k r hr
  | coverage c h =>
    intro k r hr
    rw [(recordCoverage_ok h).1] at hr
    have hws : ∀ w ∈ [coverageWrite c], w.Keeps := by
      intro w hw
      rw [List.mem_singleton] at hw
      exact hw ▸ coverageWrite_keeps c
    exact applyWrites_inv hws hinv k r hr
  | operator f hf h =>
    intro k r hr
    rw [h, Table.get_update, Option.map_eq_some_iff] at hr
    obtain ⟨r₀, hr₀, rfl⟩ := hr
    have h₀ := hinv k r₀ hr₀
    rw [hf r₀]
    exact ⟨h₀.gone, h₀.streak, h₀.absent, h₀.declared⟩
  | elsewhere h =>
    intro k r hr
    rw [h] at hr
    exact hinv k r hr

theorem reach_rowInv (h : Reach rfc3339 db) : db.RowsInv := by
  induction h with
  | init h => intro k r hr; rw [h] at hr; cases hr
  | step _ h ih => exact step_rowsInv ih h

/-! ## Traces -/

/-- The updates of a trace, one after the other. -/
def replay (db : Db) (us : List UpdateCall) : Except DbError Db := us.foldlM (fun db u => u.run db) db

theorem reach_replay {us : List UpdateCall} : ∀ {db db' : Db}, Reach rfc3339 db → replay db us = .ok db' →
    Reach rfc3339 db' := by
  induction us with
  | nil => intro db db' hr h; cases h; exact hr
  | cons u us ih =>
    intro db db' hr h
    unfold replay at h
    rw [List.foldlM_cons] at h
    obtain ⟨db₁, h₁, h₂⟩ := Sql.bind_ok.mp h
    exact ih (.step hr (.update u h₁)) h₂

/-- A database that has published generations 1 to `n` and found nothing yet. -/
def Db.published (n : Nat) : Db :=
  { Db.init with
    generations := ⟨(List.range n).map fun i : Nat => ⟨(i : Int) + 1, "", "", .complete, 0, 0, 0, 0, 0, 0⟩, by
      rw [List.map_map]
      exact List.nodup_range.map fun i j h => by simpa using h⟩ }

/-- A finding on a host the four tables do not know. -/
def strayFinding : Finding :=
  { host := "db-1", domain := "Δg", kind := "wal_bloat", subject := "/data/app.db", stateKind := .degradation }

def strayCall (g : Int) : UpdateCall := { generationId := g, findings := [strayFinding] }

/-- The same host found stale. -/
def staleFinding : Finding :=
  { host := "db-1", domain := "Δo", kind := "stale_host", subject := "", stateKind := .incident }

def staleCall (g : Int) : UpdateCall := { generationId := g, findings := [staleFinding] }

def quietCall (g : Int) : UpdateCall := { generationId := g, findings := [] }

def Db.withHost (db : Db) (host : String) : Db :=
  { db with hostsCurrent := db.hostsCurrent.replace ⟨host, {}, 1, ""⟩ }

end Nq
