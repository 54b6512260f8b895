/-
  Nq.Lifecycle.Work — the work state across a lifecycle update.

  Only expiry touches a row's work-state columns in an update: a new row starts with their
  defaults, and every other row keeps them or, past its lifetime, is set back to `new` with
  one transition in the audit table. The transition is written before the collector runs, so
  a row may leave one and be deleted in the same update.

  - `finish_work`: the passes after the recovery loop expire the work state and leave it alone;
  - `run_work`: the transitions a committed update writes and the work state it leaves (`Worked`).
-/

import Nq.Lifecycle.Run

namespace Nq

open Sql (Table)

/-- The work-state columns; a new row's are the defaults. -/
structure Work where
  state : WorkState := .new
  stateAt : Option String := none
  acknowledged : Bool := false
  acknowledgedAt : Option String := none
  expiresAt : Option String := none
  deriving DecidableEq, Repr

def WarningRow.work (r : WarningRow) : Work :=
  ⟨r.workState, r.workStateAt, r.acknowledged, r.acknowledgedAt, r.ackExpiresAt⟩

/-- A lifetime is only held by a state that can expire. -/
def Work.Timed (w : Work) : Prop := w.expiresAt.isSome = true → w.state ∈ [.acknowledged, .quiesced, .suppressed]

@[simp] theorem work_countGone (known : List String) (r : WarningRow) : (r.countGone known).work = r.work := by
  unfold WarningRow.countGone; split <;> rfl
@[simp] theorem work_resetGone (present : List String) (r : WarningRow) : (r.resetGone present).work = r.work := by
  unfold WarningRow.resetGone; split <;> rfl
@[simp] theorem work_revoke (ids : List String) (r : WarningRow) : (r.revoke ids).work = r.work := by
  unfold WarningRow.revoke; split <;> rfl
variable {r' : WarningRow} {db : Db} {u : UpdateCall} {t : WarningState} (g : Int)

@[simp] theorem work_withdraw (d : Declaration) (r : WarningRow) : (r.withdraw g d).work = r.work := by
  unfold WarningRow.withdraw; split <;> rfl
@[simp] theorem work_maintain (decls : List MaintenanceDeclaration) (now : String) (r : WarningRow) :
    (r.maintain decls now).work = r.work := by
  unfold WarningRow.maintain
  split
  · rfl
  · split
    · rfl
    · split <;> rfl

theorem work_overlaid (active : List Declaration) (r : WarningRow) : (overlaid g active r).work = r.work := by
  have hloop : ∀ (ds : List Declaration) (r : WarningRow), (ds.foldl (WarningRow.declared g) r).work = r.work := by
    intro ds
    induction ds with
    | nil => intro r; rfl
    | cons d ds ih =>
      intro r
      rw [List.foldl_cons, ih]
      unfold WarningRow.declared
      split <;> simp
  exact (hloop active _).trans (work_revoke _ r)

theorem work_emittedRow (c : Cycle) (prev : Option WarningRow) (f : Finding) :
    (emittedRow c prev f).work = prev.elim {} WarningRow.work := by
  cases prev <;> rfl

theorem work_expireWork_congr {r : WarningRow} (now : String) (h : r'.work = r.work) :
    r'.workExpired now = r.workExpired now ∧ (r'.expireWork now).work = (r.expireWork now).work := by
  have hstate : r'.workState = r.workState := congrArg Work.state h
  have hack : r'.acknowledged = r.acknowledged := congrArg Work.acknowledged h
  have hackAt : r'.acknowledgedAt = r.acknowledgedAt := congrArg Work.acknowledgedAt h
  have hexpires : r'.ackExpiresAt = r.ackExpiresAt := congrArg Work.expiresAt h
  have hexp : r'.workExpired now = r.workExpired now := by
    unfold WarningRow.workExpired
    rw [hstate, hexpires]
  refine ⟨hexp, ?_⟩
  unfold WarningRow.expireWork
  rw [hexp]
  split
  · simp only [WarningRow.work, hstate, hack, hackAt]
  · exact h

theorem finish_work {r : WarningRow} (h : u.finish db r = some r') :
    r'.work = (r.expireWork u.clock.lifecycle).work := by
  obtain ⟨_, rfl⟩ := finish_eq_some h
  rw [work_maintain, work_overlaid, work_resetGone, work_countGone]

/-! ## The transitions of an update -/

/-- The transitions a statement appends for the rows its WHERE clause selects, those of one finding. -/
theorem filter_entries {p : WarningRow → Bool} {entry : WarningRow → TransitionRow} (hid : ∀ r, (entry r).id = r.id)
    (k : FindingId) : ((t.rows.filter p).map entry).filter (·.id = k) = (((t.get k).filter p).map entry).toList := by
  have hsel : (t.rows.filter p).filter ((·.id = k) ∘ entry) = ((t.get k).filter p).toList := by
    rw [← Table.filter_where_key]
    refine List.filter_congr fun r _ => ?_
    simp [hid]
  rw [List.filter_map, hsel]
  cases (t.get k).filter p <;> rfl

def expiryEntry (now : String) (r : WarningRow) : TransitionRow :=
  ⟨r.id, r.workState.asStr, "new", some "nq-lifecycle", some "work-state TTL expired", now⟩

/-- What a committed update does to the work state of each finding: `new` are the
    transitions it appends. -/
structure Worked (u : UpdateCall) (db db' : Db) (new : List TransitionRow) : Prop where
  transitions : db'.findingTransitions = db.findingTransitions ++ new
  expiries : ∀ e ∈ new, ∃ w : WorkState, e.fromState = w.asStr ∧ e.toState = "new"
  born : ∀ k, db.warningState.get k = none →
    new.filter (·.id = k) = [] ∧ ∀ r', db'.warningState.get k = some r' → r'.work = {}
  lived : ∀ k r r', db.warningState.get k = some r → db'.warningState.get k = some r' →
    r'.work = (r.expireWork u.clock.lifecycle).work ∧
    new.filter (·.id = k) = if r.workExpired u.clock.lifecycle then [expiryEntry u.clock.lifecycle r] else []

theorem settle_work {r : WarningRow} (h : u.settle db r = some r') : r'.work = r.work := by
  unfold UpdateCall.settle at h
  split at h
  · cases h; rfl
  · split at h
    · cases h
    · cases h; rfl

/-- The row that reaches expiry under a key has the work state of the row before the call. -/
theorem Emission.work (h : Emission u db t) {k : FindingId} {r : WarningRow}
    (hr : (t.get k).bind (fun r => if k ∈ u.emittedIds db then some r else u.settle db r) = some r) :
    r.work = (db.warningState.get k).elim {} WarningRow.work := by
  obtain ⟨r₂, hr₂, hr⟩ := Option.bind_eq_some_iff.mp hr
  by_cases hk : k ∈ u.emittedIds db
  · obtain ⟨f, hf, rfl⟩ := List.mem_map.mp hk
    obtain ⟨s, hs⟩ := h.emitted f hf
    rw [if_pos hk] at hr
    rw [hs] at hr₂
    cases hr
    cases hr₂
    exact work_emittedRow (u.cycle db) (db.warningState.get f.id) f
  · rw [if_neg hk] at hr
    rw [settle_work hr, ← h.absent k hk, hr₂]
    rfl

theorem not_workExpired {r : WarningRow} (h : r.work = {}) (now : String) : r.workExpired now = false := by
  have hexpires : r.ackExpiresAt = none := congrArg Work.expiresAt h
  simp [WarningRow.workExpired, hexpires]

theorem run_work {db' : Db} (h : u.run db = .ok db') : ∃ new, Worked u db db' new := by
  obtain ⟨_, db₁, h₁, rfl⟩ := run_eq_ok.mp h
  have hrec := recordFindings_recorded h₁
  have hem := emission_of_recorded hrec
  have hafter := get_afterRecording hrec
  have hframe : (setStabilities (u.cycle db) db₁ (u.emitted db)).findingTransitions = db.findingTransitions := by
    rw [frame_of_recorded hrec]
  let t := (setStabilities (u.cycle db) db₁ (u.emitted db)).warningState
  let t₃ := recoverAbsent (u.emittedIds db) (buildMasking t) u.generationId t
  let now := u.clock.lifecycle
  -- the row under a key when the expiry statements run
  have hat : ∀ k r, t₃.get k = some r → r.work = (db.warningState.get k).elim {} WarningRow.work := by
    intro k r hr
    exact hem.work ((hem.get_recover k).symm.trans hr)
  have hstays : ∀ k r', (afterRecording u db db₁).warningState.get k = some r' →
      ∃ r, t₃.get k = some r ∧ u.finish db r = some r' := by
    intro k r' hr'
    rw [hafter k] at hr'
    obtain ⟨r₂, hr₂, hr'⟩ := Option.bind_eq_some_iff.mp hr'
    obtain ⟨r, hr, hfin⟩ := Option.bind_eq_some_iff.mp hr'
    exact ⟨r, (hem.get_recover k).trans (Option.bind_eq_some_iff.mpr ⟨r₂, hr₂, hr⟩), hfin⟩
  have hfilter : ∀ k, (((t₃.rows.filter (·.workExpired now)).map (expiryEntry now)).filter (·.id = k)) =
      (((t₃.get k).filter (·.workExpired now)).map (expiryEntry now)).toList := fun k => filter_entries (fun _ => rfl) k
  refine ⟨(t₃.rows.filter (·.workExpired now)).map (expiryEntry now), ?_, ?_, ?_, ?_⟩
  · exact congrArg (· ++ _) hframe
  · intro e he
    obtain ⟨r, _, rfl⟩ := List.mem_map.mp he
    exact ⟨r.workState, rfl, rfl⟩
  · intro k hk
    have hnew : ∀ r, t₃.get k = some r → r.work = {} := by
      intro r hr
      have := hat k r hr
      rwa [hk] at this
    refine ⟨?_, ?_⟩
    · rw [hfilter]
      cases hr : t₃.get k with
      | none => rfl
      | some r => simp [Option.filter, not_workExpired (hnew r hr) now]
    · intro r' hr'
      obtain ⟨r, hr, hfin⟩ := hstays k r' hr'
      rw [finish_work hfin]
      unfold WarningRow.expireWork
      rw [not_workExpired (hnew r hr)]
      exact hnew r hr
  · intro k r r' hr hr'
    obtain ⟨r₃, hr₃, hfin⟩ := hstays k r' hr'
    have hw : r₃.work = r.work := by
      have := hat k r₃ hr₃
      rwa [hr] at this
    obtain ⟨hexp, hexpire⟩ := work_expireWork_congr now hw
    refine ⟨(finish_work hfin).trans hexpire, ?_⟩
    have hentry : expiryEntry now r₃ = expiryEntry now r := by
      have hid : r₃.id = r.id := (Table.key_of_get hr₃).trans (Table.key_of_get hr).symm
      have hstate : r₃.workState = r.workState := congrArg Work.state hw
      simp only [expiryEntry, hid, hstate]
    rw [hfilter, hr₃]
    by_cases he : r.workExpired now = true
    · have he₃ : r₃.workExpired now = true := hexp.trans he
      simp only [Option.filter, he₃, if_true, Option.map_some, Option.toList_some, hentry]
      rw [if_pos he]
    · have he₃ : r₃.workExpired now = false := hexp.trans (Bool.eq_false_iff.mpr he)
      rw [if_neg he]
      simp [Option.filter, he₃]

end Nq
