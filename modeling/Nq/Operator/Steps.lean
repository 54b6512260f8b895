/-
  Nq.Operator.Steps — everything that writes the findings, their transitions or the
  retired sources, and what one step makes of a finding.

  The writers are the lifecycle update, finding imports, the coverage recorder, the
  operator's actions, source retirement and its reverse, and the notifier's mark on a row;
  each is one transaction, so any interleaving of clients and cycles is a sequence of them
  (`FindingStep`). A transaction that fails is no step. Everything else leaves these tables
  alone and may change every other (`elsewhere`).

  - `step_basis`: the basis a step leaves a finding with, and why it can be `live`;
  - `step_work`: the work state a step leaves a finding with, and the transitions it appends.
-/

import Nq.Notify.Pending
import Nq.Operator.Actions
import Nq.Operator.Retirement

namespace Nq

open List
open Sql (Table)

section

variable (rfc3339 : String → Except String Int) (time : TimeLib)

inductive FindingStep : Db → Db → Prop
  | update {db db' : Db} (u : UpdateCall) (h : u.run db = .ok db') : FindingStep db db'
  | ingest {db : Db} (read : ManifestRead) (generation : Int) (now : String) (cfg : IngestConfig) :
      FindingStep db (ingestFindingImport rfc3339 db read generation now cfg).1
  | coverage {db db' : Db} {key : String} (c : CoverageCall)
      (h : recordCoverageTestimonyAbsentFinding db c = .ok (db', key)) : FindingStep db db'
  | action {db db' : Db} {receipt : FindingActionReceipt} (q : FindingActionRequest) (now : Int)
      (h : transitionFindingAction time db q now = .ok (db', receipt)) : FindingStep db db'
  | retire {db : Db} (source reason actor now : String) : FindingStep db (retireSource db source reason actor now).1
  | unretire {db : Db} (source actor now : String) : FindingStep db (unretireSource db source actor now).1
  | notified {db : Db} (history : NotificationHistory) (id : FindingId) (severity now : String) :
      FindingStep db (markNotified db history id severity now).1
  | elsewhere {db db' : Db} (hw : db'.warningState = db.warningState)
      (ht : db'.findingTransitions = db.findingTransitions)
      (hr : db'.sourcesRetired = db.sourcesRetired) : FindingStep db db'

/-- Any number of steps. -/
inductive FindingSteps : Db → Db → Prop
  | refl {db : Db} : FindingSteps db db
  | step {db db₁ db₂ : Db} (hs : FindingSteps db db₁) (h : FindingStep rfc3339 time db₁ db₂) : FindingSteps db db₂

/-- The databases reached from one without findings. -/
inductive FindingReach : Db → Prop
  | init {db : Db} (h : db.warningState = .empty) : FindingReach db
  | step {db db' : Db} (hr : FindingReach db) (h : FindingStep rfc3339 time db db') : FindingReach db'

end

/-! ## The steps are steps of the lifecycle -/

/-! ## Imports and recorded absences -/

/-- The basis columns the lifecycle and the operator decide by. -/
def WarningRow.basis (r : WarningRow) : BasisState × Option String := (r.basisState, r.basisSourceId)

/-- A write that starts a finding without basis and work, and keeps both of an existing one. -/
structure RowWrite.Plain (w : RowWrite) : Prop where
  fresh : w.row.work = {} ∧ w.row.basis = (.unknown, none)
  keeps : ∀ r, (w.overwrite r).work = r.work ∧ (w.overwrite r).basis = r.basis

theorem ingestWrites_plain (rfc3339 : String → Except String Int) (read : ManifestRead) (g : Int) (now : String)
    (cfg : IngestConfig) : ∀ w ∈ ingestWrites rfc3339 read g now cfg, w.Plain := by
  intro w hw
  rcases mem_ingestWrites hw with ⟨p, x, rfl⟩ | ⟨m, f, rfl⟩ | ⟨m, d, rfl⟩ <;> exact ⟨⟨rfl, rfl⟩, fun _ => ⟨rfl, rfl⟩⟩

theorem coverageWrite_plain (c : CoverageCall) : (coverageWrite c).Plain := ⟨⟨rfl, rfl⟩, fun _ => ⟨rfl, rfl⟩⟩

/-- What plain writes leave under a key: the old work and basis, or a finding that starts. -/
theorem applyWrites_plain {ws : List RowWrite} (hws : ∀ w ∈ ws, w.Plain) {k : FindingId} : ∀ {t : WarningState},
    ∀ {r' : WarningRow}, (applyWrites t ws).get k = some r' →
      (∃ r, t.get k = some r ∧ r'.work = r.work ∧ r'.basis = r.basis) ∨
      (t.get k = none ∧ r'.work = {} ∧ r'.basis = (.unknown, none)) := by
  induction ws with
  | nil => intro t r' h; exact .inl ⟨r', h, rfl, rfl⟩
  | cons w ws ih =>
    intro t r' h
    have hw := hws w mem_cons_self
    have hafter : ∀ r, (w.apply t).get k = some r →
        (∃ r₀, t.get k = some r₀ ∧ r.work = r₀.work ∧ r.basis = r₀.basis) ∨
        (t.get k = none ∧ r.work = {} ∧ r.basis = (.unknown, none)) := by
      intro r hr
      rw [RowWrite.apply, Table.get_upsert] at hr
      split at hr
      · cases hget : t.get k with
        | none => rw [hget] at hr; cases hr; exact .inr ⟨rfl, hw.fresh⟩
        | some r₀ => rw [hget] at hr; cases hr; exact .inl ⟨r₀, rfl, hw.keeps r₀⟩
      · exact .inl ⟨r, hr, rfl, rfl⟩
    rcases ih (fun w' hw' => hws w' (mem_cons_of_mem _ hw')) h with ⟨r, hr, hwork, hbasis⟩ | ⟨hnone, hfresh⟩
    · rcases hafter r hr with ⟨r₀, hr₀, hwork₀, hbasis₀⟩ | ⟨hnone, hwork₀, hbasis₀⟩
      · exact .inl ⟨r₀, hr₀, hwork.trans hwork₀, hbasis.trans hbasis₀⟩
      · exact .inr ⟨hnone, hwork.trans hwork₀, hbasis.trans hbasis₀⟩
    · refine .inr ⟨?_, hfresh⟩
      cases hget : t.get k with
      | none => rfl
      | some r₀ =>
        have hkept : (w.apply t).get k ≠ none := by
          rw [RowWrite.apply, Table.get_upsert]
          split <;> simp [hget]
        exact absurd hnone hkept

theorem coverage_plain {t : WarningState} {c : CoverageCall} {k : FindingId} {r' : WarningRow}
    (h : ((coverageWrite c).apply t).get k = some r') :
    (∃ r, t.get k = some r ∧ r'.work = r.work ∧ r'.basis = r.basis) ∨
    (t.get k = none ∧ r'.work = {} ∧ r'.basis = (.unknown, none)) := by
  have hws : ∀ w ∈ [coverageWrite c], w.Plain := by
    intro w hw
    rw [mem_singleton] at hw
    exact hw ▸ coverageWrite_plain c
  exact applyWrites_plain hws (show (applyWrites t [coverageWrite c]).get k = some r' from h)

theorem ingest_frame (rfc3339 : String → Except String Int) (db : Db) (read : ManifestRead) (g : Int) (now : String)
    (cfg : IngestConfig) : (ingestFindingImport rfc3339 db read g now cfg).1.findingTransitions =
      db.findingTransitions ∧ (ingestFindingImport rfc3339 db read g now cfg).1.sourcesRetired = db.sourcesRetired := by
  unfold ingestFindingImport
  cases read with
  | unparsable => exact ⟨rfl, rfl⟩
  | parsed m => simp only; split <;> exact ⟨rfl, rfl⟩

/-! ## The basis a step leaves a finding with -/

variable {rfc3339 : String → Except String Int} {time : TimeLib} {db db' : Db} {k : FindingId} {r r' : WarningRow}

theorem basis_emittedRow (c : Cycle) (prev : Option WarningRow) (f : Finding) :
    (emittedRow c prev f).basis = ((basisOf c f).1, f.basisSourceId) := by
  cases prev <;> rfl

theorem basis_setStability (r : WarningRow) (s : Stability) : (r.setStability s).basis = r.basis := rfl
theorem basis_suppress (reason : SuppressionReason) (g : Int)
    (r : WarningRow) : (r.suppress reason g).basis = r.basis := rfl
theorem basis_incAbsent (r : WarningRow) : r.incAbsent.basis = r.basis := rfl

variable {u : UpdateCall} {ts : List TransitionRow} (w : WorkState) (source now : String)

theorem finish_basis (h : u.finish db r = some r') : r'.basis = r.basis := by
  have hcore : r'.core.basis = r.core.basis := congrArg WarningRow.basis (finish_core h)
  exact hcore

theorem update_retired (h : u.run db = .ok db') : db'.sourcesRetired = db.sourcesRetired := by
  rw [(run_updated h).frame]

/-- Where the basis of a finding comes from, after any step. -/
inductive BasisCause (db db' : Db) (k : FindingId) (r' : WarningRow) : Prop
  | kept (r : WarningRow) (hr : db.warningState.get k = some r) (hb : r'.basis = r.basis)
      (hs : db'.sourcesRetired = db.sourcesRetired)
  | begun (hb : r'.basis = (.unknown, none))
  | emitted (u : UpdateCall) (f : Finding) (hu : u.run db = .ok db') (hf : f ∈ u.emitted db) (hid : f.id = k)
      (hb : r'.basis = ((basisOf (u.cycle db) f).1, f.basisSourceId))
  | retired (r : WarningRow) (source reason actor now : String) (hr : db.warningState.get k = some r)
      (hdb : db' = (retireSource db source reason actor now).1) (hr' : r' = r.retire source now)
  | unretired (r : WarningRow) (source actor now : String) (hr : db.warningState.get k = some r)
      (hdb : db' = (unretireSource db source actor now).1) (hr' : r' = r.unretire source now)

theorem step_basis (h : FindingStep rfc3339 time db db') (hr' : db'.warningState.get k = some r') :
    BasisCause db db' k r' := by
  cases h with
  | update u h =>
    rcases (run_updated h).row_cases hr' with ⟨f, hf, hid, s, hfin⟩ | ⟨_, r, hr, ⟨_, _, hfin⟩ | ⟨_, _, hfin⟩⟩
    · have hb := finish_basis hfin
      rw [basis_setStability, basis_emittedRow] at hb
      exact .emitted u f h hf hid hb
    · exact .kept r hr ((finish_basis hfin).trans (basis_suppress _ _ r)) (update_retired h)
    · exact .kept r hr ((finish_basis hfin).trans (basis_incAbsent r)) (update_retired h)
  | ingest read g now cfg =>
    have hs := (ingest_frame rfc3339 db read g now cfg).2
    rw [ingest_warningState] at hr'
    rcases applyWrites_plain (ingestWrites_plain rfc3339 read g now cfg) hr' with ⟨r, hr, _, hb⟩ | ⟨_, _, hb⟩
    · exact .kept r hr hb hs
    · exact .begun hb
  | coverage c h =>
    obtain ⟨hstate, _, hframe⟩ := recordCoverage_ok h
    have hs : db'.sourcesRetired = db.sourcesRetired := by rw [hframe]
    rw [hstate] at hr'
    rcases coverage_plain hr' with ⟨r, hr, _, hb⟩ | ⟨_, _, hb⟩
    · exact .kept r hr hb hs
    · exact .begun hb
  | action q now h =>
    obtain ⟨r, hacted⟩ := transition_ok h
    have hs : db'.sourcesRetired = db.sourcesRetired := by rw [hacted.frame]
    rw [hacted.after] at hr'
    split at hr'
    · rename_i hk
      cases hr'
      exact .kept r (hk ▸ hacted.before) rfl hs
    · exact .kept r' hr' rfl hs
  | retire source reason actor now =>
    rw [get_retireSource] at hr'
    obtain ⟨r, hr, rfl⟩ := Option.map_eq_some_iff.mp hr'
    exact .retired r source reason actor now hr rfl rfl
  | unretire source actor now =>
    rw [get_unretireSource] at hr'
    obtain ⟨r, hr, rfl⟩ := Option.map_eq_some_iff.mp hr'
    exact .unretired r source actor now hr rfl rfl
  | notified history id severity now =>
    simp only [markNotified, Table.get_updateKey] at hr'
    split at hr'
    · obtain ⟨r, hr, rfl⟩ := Option.map_eq_some_iff.mp hr'
      exact .kept r hr rfl rfl
    · exact .kept r' hr' rfl rfl
  | elsewhere hw ht hs =>
    rw [hw] at hr'
    exact .kept r' hr' rfl hs

/-! ## The transitions a step appends -/

def workWords : List String := ["new", "acknowledged", "watching", "quiesced", "closed", "suppressed"]

/-- The transitions of a finding between work states, as opposed to those of its basis. -/
def workEntries (k : FindingId) (ts : List TransitionRow) : List TransitionRow :=
  ts.filter fun e => e.id = k && (e.fromState ∈ workWords && e.toState ∈ workWords)

/-- What retirement and its reverse wrote for a finding. -/
def basisEntries (k : FindingId) (ts : List TransitionRow) : List String :=
  (ts.filter fun e => e.id = k && e.toState ∈ ["retired", "unknown"]).map TransitionRow.toState

theorem workWords_asStr : w.asStr ∈ workWords := by cases w <;> decide

theorem asStr_workWords (b : BasisState) : b.asStr ∉ workWords := by cases b <;> decide

theorem not_basis_asStr : w.asStr ∉ ["retired", "unknown"] := by cases w <;> decide

theorem workEntries_append (ts ts' : List TransitionRow) :
    workEntries k (ts ++ ts') = workEntries k ts ++ workEntries k ts' := filter_append ..

theorem basisEntries_append (ts ts' : List TransitionRow) :
    basisEntries k (ts ++ ts') = basisEntries k ts ++ basisEntries k ts' := by
  unfold basisEntries
  rw [filter_append, map_append]

/-- Transitions between work states: the entries of a finding are all of them its own. -/
theorem workEntries_of_work (h : ∀ e ∈ ts, ∃ w w' : WorkState, e.fromState = w.asStr ∧ e.toState = w'.asStr) :
    workEntries k ts = ts.filter (·.id = k) ∧ basisEntries k ts = [] := by
  constructor
  · refine filter_congr fun e he => ?_
    obtain ⟨w, w', hw, hw'⟩ := h e he
    simp [hw, hw', workWords_asStr]
  · refine map_eq_nil_iff.mpr (filter_eq_nil_iff.mpr fun e he hb => ?_)
    obtain ⟨w, w', hw, hw'⟩ := h e he
    have := not_basis_asStr w'
    simp only [Bool.and_eq_true, decide_eq_true_eq, hw'] at hb
    exact this hb.2

/-- Transitions of the basis. -/
theorem basisEntries_of_basis (h : ∀ e ∈ ts, e.fromState ∉ workWords ∧ e.toState ∈ ["retired", "unknown"]) :
    workEntries k ts = [] ∧ basisEntries k ts = (ts.filter (·.id = k)).map TransitionRow.toState := by
  constructor
  · refine filter_eq_nil_iff.mpr fun e he hw => ?_
    simp only [Bool.and_eq_true, decide_eq_true_eq] at hw
    exact (h e he).1 hw.2.1
  · refine congrArg (List.map TransitionRow.toState) (filter_congr fun e he => ?_)
    simp only [(h e he).2, decide_true, Bool.and_true]

/-- What a step does to the work state of a finding that stays, and the transition it leaves. -/
inductive WorkCause (new : List TransitionRow) (k : FindingId) (r r' : WarningRow) : Prop
  | kept (he : workEntries k new = []) (hw : r'.work = r.work)
  | moved (e : TransitionRow) (he : workEntries k new = [e]) (hf : e.fromState = r.workState.asStr)
      (ht : e.toState = r'.workState.asStr) (htimed : r'.work.Timed)

/-- What a step writes about the basis of a finding that stays. -/
inductive RetireCause (db db' : Db) (new : List TransitionRow) (k : FindingId) (r r' : WarningRow) : Prop
  | none (he : basisEntries k new = []) (hs : r' = r ∨ db'.sourcesRetired = db.sourcesRetired)
  | retired (he : basisEntries k new = ["retired"]) (hr : r.basisState ≠ .retired) (hr' : r'.basisState = .retired)
  | unknown (he : basisEntries k new = ["unknown"]) (hr : r.basisState = .retired) (hr' : r'.basisState ≠ .retired)

/-- The transitions a step appends. -/
structure Transitioned (db db' : Db) (new : List TransitionRow) : Prop where
  transitions : db'.findingTransitions = db.findingTransitions ++ new
  born : ∀ k, db.warningState.get k = none →
    workEntries k new = [] ∧ ∀ r', db'.warningState.get k = some r' → r'.work = {}
  work : ∀ k r r', db.warningState.get k = some r → db'.warningState.get k = some r' → WorkCause new k r r'
  basis : ∀ k r r', db.warningState.get k = some r → db'.warningState.get k = some r' → RetireCause db db' new k r r'

/-- A step that appends no transition keeps the work state of every finding. -/
theorem transitioned_nil (ht : db'.findingTransitions = db.findingTransitions)
    (hs : db'.sourcesRetired = db.sourcesRetired)
    (hrows : ∀ k r', db'.warningState.get k = some r' →
      (∃ r, db.warningState.get k = some r ∧ r'.work = r.work) ∨ (db.warningState.get k = none ∧ r'.work = {})) :
    Transitioned db db' [] := by
  refine ⟨by rw [ht, append_nil], ?_, ?_, ?_⟩
  · intro k hk
    refine ⟨rfl, fun r' hr' => ?_⟩
    rcases hrows k r' hr' with ⟨r, hr, _⟩ | ⟨_, hw⟩
    · rw [hk] at hr; cases hr
    · exact hw
  · intro k r r' hr hr'
    rcases hrows k r' hr' with ⟨r₀, hr₀, hw⟩ | ⟨hnone, _⟩
    · rw [hr] at hr₀
      cases hr₀
      exact .kept rfl hw
    · rw [hr] at hnone; cases hnone
  · exact fun k r r' _ _ => .none rfl (.inr hs)

theorem update_transitioned (h : u.run db = .ok db') : ∃ new, Transitioned db db' new := by
  obtain ⟨new, hw⟩ := run_work h
  have hexpiries : ∀ e ∈ new, ∃ w w' : WorkState, e.fromState = w.asStr ∧ e.toState = w'.asStr := by
    intro e he
    obtain ⟨w, hf, ht⟩ := hw.expiries e he
    exact ⟨w, .new, hf, ht⟩
  refine ⟨new, hw.transitions, ?_, ?_, ?_⟩
  · intro k hk
    rw [(workEntries_of_work hexpiries).1]
    exact hw.born k hk
  · intro k r r' hr hr'
    obtain ⟨hwork, hfilter⟩ := hw.lived k r r' hr hr'
    have hentries := (workEntries_of_work (k := k) hexpiries).1
    unfold WarningRow.expireWork at hwork
    by_cases he : r.workExpired u.clock.lifecycle = true
    · rw [if_pos he] at hwork hfilter
      have hstate : r'.workState = .new := congrArg Work.state hwork
      have hexpires : r'.ackExpiresAt = none := congrArg Work.expiresAt hwork
      refine .moved _ (hentries.trans hfilter) rfl ?_ ?_
      · rw [hstate]
        rfl
      · intro hsome
        simp [WarningRow.work, hexpires] at hsome
    · rw [if_neg he] at hwork hfilter
      exact .kept (hentries.trans hfilter) hwork
  · exact fun k r r' _ _ => .none (workEntries_of_work hexpiries).2 (.inr (update_retired h))

theorem action_transitioned {q : FindingActionRequest} {now : Int} {receipt : FindingActionReceipt}
    (h : transitionFindingAction time db q now = .ok (db', receipt)) : ∃ new, Transitioned db db' new := by
  obtain ⟨r₀, hacted⟩ := transition_ok h
  have hwork : ∀ e ∈ [(⟨r₀.id, q.expectedWorkState.asStr, q.action.targetWorkState.asStr, q.actor, q.note,
      receipt.appliedAt⟩ : TransitionRow)], ∃ w w' : WorkState, e.fromState = w.asStr ∧ e.toState = w'.asStr := by
    intro e he
    rw [mem_singleton] at he
    subst he
    exact ⟨_, _, rfl, rfl⟩
  refine ⟨_, hacted.transitions, ?_, ?_, ?_⟩
  · intro k hk
    have hne : k ≠ r₀.id := by
      intro e
      rw [e, hacted.before] at hk
      cases hk
    rw [(workEntries_of_work hwork).1, hacted.after, if_neg hne, hk]
    refine ⟨by simp [Ne.symm hne], fun r' hr' => ?_⟩
    cases hr'
  · intro k r r' hr hr'
    rw [hacted.after] at hr'
    by_cases e : k = r₀.id
    · subst e
      rw [hacted.before] at hr
      rw [if_pos rfl] at hr'
      cases hr
      cases hr'
      have hself : workEntries r₀.id _ = _ := (workEntries_of_work hwork).1.trans (filter_cons_of_pos (by simp))
      refine .moved _ hself (by rw [hacted.reviewed.workState]) rfl ?_
      intro hsome
      have hexp := expires_of_expiry hacted.valid hacted.expiry hsome
      show q.action.targetWorkState ∈ _
      revert hexp
      cases q.action <;> decide
    · rw [if_neg e, hr] at hr'
      cases hr'
      exact .kept ((workEntries_of_work hwork).1.trans (by simp [Ne.symm e])) rfl
  · exact fun k r r' _ _ => .none (workEntries_of_work hwork).2 (.inr (by rw [hacted.frame]))

theorem work_retire (r : WarningRow) : (r.retire source now).work = r.work := by
  unfold WarningRow.retire; split <;> rfl

theorem work_unretire (r : WarningRow) : (r.unretire source now).work = r.work := by
  unfold WarningRow.unretire; split <;> rfl

theorem retire_transitioned (db : Db) (source reason actor now : String) :
    ∃ new, Transitioned db (retireSource db source reason actor now).1 new := by
  have hentries : ∀ e ∈ (db.warningState.rows.filter (·.doomed source)).map (retireEntry reason actor now),
      e.fromState ∉ workWords ∧ e.toState ∈ ["retired", "unknown"] := by
    intro e he
    obtain ⟨r, _, rfl⟩ := List.mem_map.mp he
    exact ⟨asStr_workWords r.basisState, mem_cons_self⟩
  refine ⟨_, rfl, ?_, ?_, ?_⟩
  · intro k hk
    refine ⟨(basisEntries_of_basis hentries).1, fun r' hr' => ?_⟩
    rw [get_retireSource, hk] at hr'
    cases hr'
  · intro k r r' hr hr'
    rw [get_retireSource, hr] at hr'
    cases hr'
    exact .kept (basisEntries_of_basis hentries).1 (work_retire source now r)
  · intro k r r' hr hr'
    rw [get_retireSource, hr] at hr'
    cases hr'
    have hbasis := (basisEntries_of_basis (k := k) hentries).2
    rw [filter_entries (fun _ => rfl), hr] at hbasis
    by_cases hd : r.doomed source = true
    · have hnot : r.basisState ≠ .retired := by
        simp only [WarningRow.doomed, Bool.and_eq_true, decide_eq_true_eq] at hd
        exact hd.2
      exact .retired (by rw [hbasis]; simp [Option.filter, hd, retireEntry]) hnot (by simp [WarningRow.retire, hd])
    · exact .none (by rw [hbasis]; simp [Option.filter, hd]) (.inl (by simp [WarningRow.retire, hd]))

theorem unretire_transitioned (db : Db) (source actor now : String) :
    ∃ new, Transitioned db (unretireSource db source actor now).1 new := by
  have hentries : ∀ e ∈ (db.warningState.rows.filter (·.revived source)).map (unretireEntry actor now),
      e.fromState ∉ workWords ∧ e.toState ∈ ["retired", "unknown"] := by
    intro e he
    obtain ⟨r, _, rfl⟩ := List.mem_map.mp he
    exact ⟨asStr_workWords .retired, mem_cons_of_mem _ mem_cons_self⟩
  refine ⟨_, rfl, ?_, ?_, ?_⟩
  · intro k hk
    refine ⟨(basisEntries_of_basis hentries).1, fun r' hr' => ?_⟩
    rw [get_unretireSource, hk] at hr'
    cases hr'
  · intro k r r' hr hr'
    rw [get_unretireSource, hr] at hr'
    cases hr'
    exact .kept (basisEntries_of_basis hentries).1 (work_unretire source now r)
  · intro k r r' hr hr'
    rw [get_unretireSource, hr] at hr'
    cases hr'
    have hbasis := (basisEntries_of_basis (k := k) hentries).2
    rw [filter_entries (fun _ => rfl), hr] at hbasis
    by_cases hd : r.revived source = true
    · have hwas : r.basisState = .retired := by
        simp only [WarningRow.revived, Bool.and_eq_true, decide_eq_true_eq] at hd
        exact hd.2
      exact .unknown (by rw [hbasis]; simp [Option.filter, hd, unretireEntry]) hwas (by simp [WarningRow.unretire, hd])
    · exact .none (by rw [hbasis]; simp [Option.filter, hd]) (.inl (by simp [WarningRow.unretire, hd]))

theorem step_transitioned (h : FindingStep rfc3339 time db db') : ∃ new, Transitioned db db' new := by
  cases h with
  | update u h => exact update_transitioned h
  | ingest read g now cfg =>
    have hframe := ingest_frame rfc3339 db read g now cfg
    refine ⟨[], transitioned_nil hframe.1 hframe.2 ?_⟩
    intro k r' hr'
    rw [ingest_warningState] at hr'
    rcases applyWrites_plain (ingestWrites_plain rfc3339 read g now cfg) hr' with ⟨r, hr, hw, _⟩ | ⟨hnone, hw, _⟩
    · exact .inl ⟨r, hr, hw⟩
    · exact .inr ⟨hnone, hw⟩
  | coverage c h =>
    obtain ⟨hstate, _, hframe⟩ := recordCoverage_ok h
    refine ⟨[], transitioned_nil (by rw [hframe]) (by rw [hframe]) ?_⟩
    intro k r' hr'
    rw [hstate] at hr'
    rcases coverage_plain hr' with ⟨r, hr, hw, _⟩ | ⟨hnone, hw, _⟩
    · exact .inl ⟨r, hr, hw⟩
    · exact .inr ⟨hnone, hw⟩
  | action q now h => exact action_transitioned h
  | retire source reason actor now => exact retire_transitioned db source reason actor now
  | unretire source actor now => exact unretire_transitioned db source actor now
  | notified history id severity now =>
    refine ⟨[], transitioned_nil rfl rfl ?_⟩
    intro k r' hr'
    simp only [markNotified, Table.get_updateKey] at hr'
    split at hr'
    · obtain ⟨r, hr, rfl⟩ := Option.map_eq_some_iff.mp hr'
      exact .inl ⟨r, hr, rfl⟩
    · exact .inl ⟨r', hr', rfl⟩
  | elsewhere hw ht hs =>
    refine ⟨[], transitioned_nil ht hs ?_⟩
    intro k r' hr'
    rw [hw] at hr'
    exact .inl ⟨r', hr', rfl⟩

end Nq
