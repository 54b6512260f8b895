/-
  Nq.Testimony.Heartbeat — the observation loop's own testimony, and its absence
  (`nq-db/src/component_testimony.rs`, migration 052, the pulse in `nq-monitor/src/cmd/serve.rs`).

  Every pulse of the loop looks up the coverage rule in force and writes one row that expires a
  grace period later; without a rule it writes none. `classify_absence` reads the row that
  sorts last by `observed_at` and compares its expiry with the clock.

  A run (`Run`) takes pulses, restarts of the process, reconciliations of the rules and
  retention sweeps in any order; it keeps beside the tables what every stored row was written
  from (`Landed`), newest first.

  - `Run.rows_stand`: every stored row is a landed pulse: it carries the rule that was in force
    when it was written, and expires a whole second or more after it was generated.
  - `classify_run`: the classification is that of the pulse landed last (`absence`), whatever
    was stored before, swept away or declared in between.
  - `verdict_run`: so the preflight admits exactly inside that pulse's window.
-/

import Nq.Coverage.Lookup
import Nq.Preflight.Clock
import Nq.Testimony.Coverage

namespace Nq.Heartbeat

open Coverage (ActiveRule CoverageRules EmitError lookupActiveRule)
open List hiding lt_asymm lt_irrefl
open Preflight (Crates PreflightResult PreflightTarget Verdict seconds)
open Receipts (Json)
open Sql (F64 Table)

def kindObservationLoopAlive : String := "component_testimony_observation_loop_alive"
def componentIdNqLocal : String := "nq.local"
def subjectIdObservationLoop : String := "observation_loop"
def checkpointObservationLoopReachedEmit : String := "observation_loop_reached_emit"

/-! ## The table -/

structure LoopAliveRow where
  observationId : Int
  generationId : Int
  componentId : String
  subjectId : String
  observedAt : String
  generatedAt : String
  expiresAt : String
  standingResolverId : String
  escalationTarget : String
  coverageRuleId : Int
  coverageRuleHash : String
  evaluationEngineId : String
  loopName : String
  checkpointName : String
  lastSuccessAt : Option String
  componentVersion : String
  schemaVersion : String
  emissionId : String
  deriving DecidableEq, Repr

/-- The CHECK clauses; the last one compares texts. -/
def LoopAliveRow.check (r : LoopAliveRow) : Bool :=
  [r.componentId, r.subjectId, r.observedAt, r.generatedAt, r.expiresAt, r.standingResolverId, r.escalationTarget,
      r.coverageRuleHash, r.evaluationEngineId, r.loopName, r.checkpointName, r.componentVersion, r.schemaVersion,
      r.emissionId].all nonEmptyText &&
    r.lastSuccessAt.all nonEmptyText && decide (r.generatedAt < r.expiresAt)

/-- `observation_loop_alive_observations`. -/
structure LoopAliveTable where
  table : Table LoopAliveRow.observationId
  checked : ∀ r ∈ table.rows, r.check = true
  unique : (table.rows.map LoopAliveRow.emissionId).Nodup

namespace LoopAliveTable

def rows (t : LoopAliveTable) : List LoopAliveRow := t.table.rows

def empty : LoopAliveTable := ⟨.empty, fun _ h => (nomatch h), nodup_nil⟩

/-- INSERT, with the next rowid. -/
def insert (t : LoopAliveTable) (row : Int → LoopAliveRow)
    (hrow : ∀ id, (row id).observationId = id) : Option LoopAliveTable :=
  let r := row t.table.nextRowid
  if h : r.check = true ∧ r.emissionId ∉ t.rows.map LoopAliveRow.emissionId then
    some
      { table := t.table.append r (by rw [hrow]; exact t.table.get_nextRowid)
        checked := fun r' hr' => by
          rcases mem_append.mp hr' with hr' | hr'
          · exact t.checked r' hr'
          · exact mem_singleton.mp hr' ▸ h.1
        unique := by
          show ((t.rows ++ [r]).map LoopAliveRow.emissionId).Nodup
          rw [map_append, nodup_append]
          refine ⟨t.unique, by simp, fun a ha b hb e => h.2 ?_⟩
          rw [map_singleton, mem_singleton] at hb
          exact hb ▸ e ▸ ha }
  else none

/-- ON DELETE CASCADE of the generations. -/
def cascade (t : LoopAliveTable) (gone : Int → Bool) : LoopAliveTable where
  table := t.table.delete fun r => gone r.generationId
  checked r hr := t.checked r (mem_filter.mp hr).1
  unique := (filter_sublist.map LoopAliveRow.emissionId).nodup t.unique

theorem insert_eq_some {t t' : LoopAliveTable} {row : Int → LoopAliveRow} {hrow : ∀ id, (row id).observationId = id}
    (h : t.insert row hrow = some t') : t'.rows = t.rows ++ [row t.table.nextRowid] := by
  unfold insert at h
  dsimp only at h
  split at h
  · cases h
    rfl
  · cases h

end LoopAliveTable

/-! ## Emitting -/

structure EmitContext where
  lastSuccessAt : Option String := none
  emitCount : Nat := 0
  deriving DecidableEq, Repr

structure EmitInputs where
  generationId : Int
  observedAt : Int
  componentVersion : String
  schemaVersion : String
  evaluationEngineId : String
  deriving DecidableEq, Repr

/-- What the loop reads and writes. -/
structure LoopStore where
  generations : List Int
  coverageRules : CoverageRules
  observations : LoopAliveTable

/-- The errors of an emit or of a classification; a sum of instants past the year 9999 panics. -/
inductive EmitFault where
  | emit (e : EmitError)
  | timeFormat
  | refusedRow
  | notWired (claimKind : String)
  | panicked
  deriving DecidableEq, Repr

/-- `f64::round`: halves go away from zero. -/
def roundAway : F64 → F64
  | .fin q => .fin (if q < 0 then -((-q + 1 / 2).floor : ℚ) else ((q + 1 / 2).floor : ℚ))
  | x => x

def graceSecs (crates : Crates) (rule : ActiveRule) : Int :=
  (roundAway (crates.arith.mul (.fin rule.expectedIntervalS.toNat) rule.graceMultiplier)).toI64

def emissionIdOf (generationId : Int) (observedAt : String) : String :=
  componentIdNqLocal ++ "/" ++ subjectIdObservationLoop ++ "/" ++ kindObservationLoopAlive ++ "/" ++
    toString generationId ++ "/" ++ observedAt

/-- The row an emit inserts. -/
def loopAliveRow (rule : ActiveRule) (ctx : EmitContext) (inputs : EmitInputs) (observedAt expiresAt : String)
    (id : Int) : LoopAliveRow :=
  { observationId := id, generationId := inputs.generationId
    componentId := componentIdNqLocal, subjectId := subjectIdObservationLoop
    observedAt, generatedAt := observedAt, expiresAt
    standingResolverId := rule.standingResolverId, escalationTarget := rule.escalationTarget
    coverageRuleId := rule.coverageRuleId, coverageRuleHash := rule.coverageRuleHash
    evaluationEngineId := inputs.evaluationEngineId
    loopName := subjectIdObservationLoop, checkpointName := checkpointObservationLoopReachedEmit
    lastSuccessAt := ctx.lastSuccessAt, componentVersion := inputs.componentVersion
    schemaVersion := inputs.schemaVersion
    emissionId := emissionIdOf inputs.generationId observedAt }

def tryEmitObservationLoopAlive (crates : Crates) (s : LoopStore) (ctx : EmitContext) (inputs : EmitInputs) :
    Except EmitFault (LoopStore × EmitContext × Option String) :=
  match lookupActiveRule crates.codec.rfc3339 s.coverageRules componentIdNqLocal subjectIdObservationLoop
      kindObservationLoopAlive inputs.observedAt with
  | .error e => .error (.emit e)
  | .ok none => .ok (s, ctx, none)
  | .ok (some rule) =>
    match crates.format inputs.observedAt with
    | none => .error .timeFormat
    | some observedAt =>
      match crates.format (inputs.observedAt + seconds (graceSecs crates rule)) with
      | none => .error .panicked
      | some expiresAt =>
        -- of the foreign keys, the rule was just read; the generation has to be there
        if inputs.generationId ∉ s.generations then .error .refusedRow
        else
          match s.observations.insert (loopAliveRow rule ctx inputs observedAt expiresAt) (fun _ => rfl) with
          | none => .error .refusedRow
          | some observations =>
            .ok ({ s with observations }, { lastSuccessAt := some observedAt, emitCount := ctx.emitCount + 1 },
              some (emissionIdOf inputs.generationId observedAt))

section

variable {crates : Crates} {s s' : LoopStore} {ctx ctx' : EmitContext} {inputs : EmitInputs}

/-- What an emit that wrote a row has done. -/
structure Emitted (crates : Crates) (s : LoopStore) (ctx : EmitContext)
    (inputs : EmitInputs) (rule : ActiveRule) (r : LoopAliveRow)
    (s' : LoopStore) (ctx' : EmitContext) : Prop where
  found : lookupActiveRule crates.codec.rfc3339 s.coverageRules componentIdNqLocal subjectIdObservationLoop
    kindObservationLoopAlive inputs.observedAt = .ok (some rule)
  observedAt : crates.format inputs.observedAt = some r.observedAt
  expiresAt : crates.format (inputs.observedAt + seconds (graceSecs crates rule)) = some r.expiresAt
  written : r = loopAliveRow rule ctx inputs r.observedAt r.expiresAt r.observationId
  generation : inputs.generationId ∈ s.generations
  rows : s'.observations.rows = s.observations.rows ++ [r]
  frame : s'.generations = s.generations ∧ s'.coverageRules = s.coverageRules
  context : ctx' = { lastSuccessAt := some r.observedAt, emitCount := ctx.emitCount + 1 }

/-- An emit that returns has skipped without a rule, or written one row. -/
theorem emit_ok {id : Option String} (h : tryEmitObservationLoopAlive crates s ctx inputs = .ok (s', ctx', id)) :
    (id = none ∧ s' = s ∧ ctx' = ctx) ∨ ∃ rule r, id = some r.emissionId ∧
      Emitted crates s ctx inputs rule r s' ctx' := by
  unfold tryEmitObservationLoopAlive at h
  split at h
  · cases h
  · cases h
    exact .inl ⟨rfl, rfl, rfl⟩
  · rename_i rule hrule
    right
    split at h
    · cases h
    · rename_i observedAt hobs
      split at h
      · cases h
      · rename_i expiresAt hexp
        by_cases hgen : inputs.generationId ∈ s.generations
        · rw [if_neg (by simpa using hgen)] at h
          split at h
          · cases h
          · rename_i observations hins
            cases h
            exact ⟨rule, _, rfl, hrule, hobs, hexp, rfl, hgen, LoopAliveTable.insert_eq_some hins, ⟨rfl, rfl⟩, rfl⟩
        · rw [if_pos hgen] at h
          cases h

end

/-! ## Absence -/

/-- `ORDER BY observed_at DESC, emission_id DESC`. -/
def newerEmission (a b : LoopAliveRow) : Bool :=
  decide (b.observedAt < a.observedAt ∨ a.observedAt = b.observedAt ∧ b.emissionId < a.emissionId)

def isFindingProducing : AbsenceClassification → Bool
  | .neverObserved .. | .previouslyObservedExpired .. => true
  | _ => false

def classifyAbsence (crates : Crates) (s : LoopStore) (componentId subjectId claimKind : String) (now : Int) :
    Except EmitFault AbsenceClassification :=
  match lookupActiveRule crates.codec.rfc3339 s.coverageRules componentId subjectId claimKind now with
  | .error e => .error (.emit e)
  | .ok none => .ok .coverageUnknown
  | .ok (some rule) =>
    if claimKind ≠ kindObservationLoopAlive then .error (.notWired claimKind)
    else
      match Sql.firstBy newerEmission (s.observations.rows.filter fun r =>
        r.componentId = componentId && r.subjectId = subjectId) with
      | none =>
        match crates.format (now + seconds (graceSecs crates rule)) with
        | none => .error .panicked
        | some expectedBy =>
          .ok (.neverObserved rule.coverageRuleId rule.coverageRuleHash
            expectedBy rule.standingResolverId rule.escalationTarget)
      | some r =>
        match crates.parse r.expiresAt with
        | none => .error .timeFormat
        | some expiresAt =>
          if now ≤ expiresAt then
            .ok (.active r.observedAt r.expiresAt r.emissionId rule.coverageRuleId rule.coverageRuleHash)
          else
            .ok (.previouslyObservedExpired rule.coverageRuleId rule.coverageRuleHash r.observedAt
              r.expiresAt r.emissionId
              rule.standingResolverId rule.escalationTarget)

/-- What `build_evaluator_output` makes of a classification: verdict, note and signals. -/
def buildEvaluatorOutput (cls : AbsenceClassification) (evaluationEngineId : String) : Verdict × String × Json :=
  let signals (fields : List (String × Json)) : Json :=
    .object [(kindObservationLoopAlive, .object (fields ++ [("evaluation_engine_id", .string evaluationEngineId)]))]
  match cls with
  | .active lastObservedAt expiresAt lastEmissionId ruleId ruleHash =>
    (.admissibleWithScope, "Heartbeat observed at " ++ lastObservedAt ++ "; admissible until " ++ expiresAt ++ ".",
      signals [("absence_state", .string "active"), ("last_observed_at", .string lastObservedAt),
        ("expires_at", .string expiresAt),
        ("last_emission_id", .string lastEmissionId), ("coverage_rule_id", .number (.int ruleId)),
        ("coverage_rule_hash", .string ruleHash)])
  | .coverageUnknown =>
    (.insufficientCoverage,
      "No declared coverage rule for this (component, subject); absence is not classifiable. Steady state until an operator declares coverage.",
      signals [("absence_state", .string "coverage_unknown")])
  | .neverObserved ruleId ruleHash expectedBy resolver target =>
    (.insufficientCoverage, "Coverage rule active; no testimony has ever been received. Expected by " ++ expectedBy ++
      ".", signals [("absence_state", .string "never_observed"), ("coverage_rule_id", .number (.int ruleId)),
        ("coverage_rule_hash", .string ruleHash), ("expected_by", .string expectedBy),
          ("standing_resolver_id", .string resolver),
        ("escalation_target", .string target)])
  | .previouslyObservedExpired ruleId ruleHash lastObservedAt expiresAt lastEmissionId resolver target =>
    (.staleTestimony, "Last heartbeat at " ++ lastObservedAt ++ " expired at " ++ expiresAt ++ ".",
      signals [("absence_state", .string "previously_observed_expired"), ("coverage_rule_id", .number (.int ruleId)),
        ("coverage_rule_hash", .string ruleHash), ("last_observed_at", .string lastObservedAt),
          ("expires_at", .string expiresAt),
        ("last_emission_id", .string lastEmissionId), ("standing_resolver_id", .string resolver),
        ("escalation_target", .string target)])

def evaluateObservationLoopAlivePreflight (crates : Crates) (s : LoopStore) (componentId subjectId : String) (now : Int)
    (evaluationEngineId : String) : Except EmitFault PreflightResult :=
  match classifyAbsence crates s componentId subjectId kindObservationLoopAlive now with
  | .error e => .error e
  | .ok cls =>
    match crates.format now with
    | none => .error .timeFormat
    | some generatedAt =>
      let out := buildEvaluatorOutput cls evaluationEngineId
      .ok { PreflightResult.skeleton .componentTestimonyObservationLoopAlive ⟨componentId,
        "component_testimony", some subjectId⟩ generatedAt with
        verdict := out.1, verdictNote := some out.2.1, signals := some out.2.2 }

/-! ## Runs of the loop -/

/-- A pulse that left a row, and the rule it was emitted under. -/
structure Landed where
  inputs : EmitInputs
  rule : ActiveRule
  row : LoopAliveRow

def Landed.at (p : Landed) : Int := p.inputs.observedAt

def Landed.until (crates : Crates) (p : Landed) : Int := p.at + seconds (graceSecs crates p.rule)

/-- The rule in force for the loop. -/
def inForce (crates : Crates) (s : LoopStore) (now : Int) : Except EmitError (Option ActiveRule) :=
  lookupActiveRule crates.codec.rfc3339 s.coverageRules componentIdNqLocal
    subjectIdObservationLoop kindObservationLoopAlive now

/-- What the loop's process and the sweeps do to the tables. A pulse that fails leaves them as
    they are; one that lands is in a later second than those that are stored. -/
inductive Run (crates : Crates) : List Landed → LoopStore → EmitContext → Prop
  | start (generations : List Int) (rules : CoverageRules) : Run crates [] ⟨generations, rules, .empty⟩ {}
  | restart {log s ctx} : Run crates log s ctx → Run crates log s {}
  | publish {log s ctx} (g : Int) : Run crates log s ctx →
      Run crates log { s with generations := s.generations ++ [g] } ctx
  | reconcile {log s ctx} (rules : CoverageRules) : Run crates log s ctx →
      Run crates log { s with coverageRules := rules } ctx
  | sweep {log s ctx} (gone : Int → Bool) : Run crates log s ctx →
      Run crates (log.filter fun p => !gone p.row.generationId)
        { s with generations := s.generations.filter (!gone ·), observations := s.observations.cascade gone } ctx
  | skipped {log s ctx inputs s' ctx'} : Run crates log s ctx →
      tryEmitObservationLoopAlive crates s ctx inputs = .ok (s', ctx', none) → Run crates log s' ctx'
  | pulse {log s ctx inputs s' ctx' id rule r} : Run crates log s ctx →
      (∀ p ∈ log, p.at / seconds 1 < inputs.observedAt / seconds 1) →
      tryEmitObservationLoopAlive crates s ctx inputs = .ok (s', ctx', some id) →
      inForce crates s inputs.observedAt = .ok (some rule) → s'.observations.rows = s.observations.rows ++ [r] →
      Run crates (⟨inputs, rule, r⟩ :: log) s' ctx'

/-- The row says what the pulse saw, and the rule it stands under. -/
structure Landed.Stands (crates : Crates) (p : Landed) : Prop where
  observedAt : crates.format p.at = some p.row.observedAt
  expiresAt : crates.format (p.until crates) = some p.row.expiresAt
  grace : 1 ≤ graceSecs crates p.rule
  subject : p.row.componentId = componentIdNqLocal ∧ p.row.subjectId = subjectIdObservationLoop
  resolver : p.row.standingResolverId = p.rule.standingResolverId ∧ p.row.escalationTarget = p.rule.escalationTarget ∧
    p.row.coverageRuleId = p.rule.coverageRuleId ∧ p.row.coverageRuleHash = p.rule.coverageRuleHash
  named : nonEmptyText p.row.standingResolverId = true ∧ nonEmptyText p.row.escalationTarget = true ∧
    nonEmptyText p.row.coverageRuleHash = true

/-- The stored rows are the landed pulses, in the order they landed. -/
structure Kept (crates : Crates) (log : List Landed) (s : LoopStore) : Prop where
  rows : s.observations.rows = (log.map Landed.row).reverse
  stands : ∀ p ∈ log, p.Stands crates
  dated : log.Pairwise fun p q => q.at / seconds 1 < p.at / seconds 1

section

variable {crates : Crates} {s s' : LoopStore} {ctx ctx' : EmitContext}
  {inputs : EmitInputs} {log : List Landed} {rule : ActiveRule}
  {r : LoopAliveRow}

/-- A row whose expiry sorts behind its own stamp has a grace period. -/
theorem grace_of_check (hc : crates.Rfc3339) {at_ g : Int} {a e : String} (ha : crates.format at_ = some a)
    (he : crates.format (at_ + seconds g) = some e) (hlt : a < e) : 1 ≤ g := by
  by_contra hg
  rcases (show g = 0 ∨ g < 0 by omega) with rfl | hneg
  · rw [show at_ + seconds 0 = at_ by simp [seconds], ha] at he
    cases he
    exact lt_irrefl _ hlt
  · have hbefore : (at_ + seconds g) / seconds 1 < at_ / seconds 1 := by
      unfold seconds
      omega
    exact lt_asymm hlt (hc.sorted _ _ _ _ he ha hbefore)

theorem Emitted.stands (hc : crates.Rfc3339) (h : Emitted crates s ctx inputs rule r s' ctx') (hr : r.check = true) :
    Landed.Stands crates ⟨inputs, rule, r⟩ := by
  have hw := h.written
  simp only [LoopAliveRow.check, all_cons, all_nil, Bool.and_true, Bool.and_eq_true, decide_eq_true_eq] at hr
  have hgen : r.generatedAt = r.observedAt := by rw [hw]; rfl
  refine ⟨h.observedAt, h.expiresAt, grace_of_check hc h.observedAt h.expiresAt (hgen ▸ hr.2), ?_, ?_, ?_⟩
  · rw [hw]; exact ⟨rfl, rfl⟩
  · rw [hw]; exact ⟨rfl, rfl, rfl, rfl⟩
  · simp only [hr, and_self]

theorem Run.kept (hc : crates.Rfc3339) (h : Run crates log s ctx) : Kept crates log s := by
  induction h with
  | start generations rules => exact ⟨rfl, by simp, List.Pairwise.nil⟩
  | restart _ ih => exact ih
  | publish g _ ih => exact ⟨ih.rows, ih.stands, ih.dated⟩
  | reconcile rules _ ih => exact ⟨ih.rows, ih.stands, ih.dated⟩
  | @sweep log s ctx gone _ ih =>
    refine ⟨?_, fun p hp => ih.stands p (mem_filter.mp hp).1, ih.dated.filter _⟩
    show s.observations.rows.filter (fun r => !gone r.generationId) = _
    rw [ih.rows, filter_reverse, filter_map]
    rfl
  | skipped _ hemit ih =>
    rcases emit_ok hemit with ⟨-, rfl, -⟩ | ⟨_, _, hid, -⟩
    · exact ih
    · cases hid
  | @pulse log s ctx inputs s' ctx' id rule r _ hlate hemit hrule hrow ih =>
    rcases emit_ok hemit with ⟨hid, -, -⟩ | ⟨rule', r', -, he⟩
    · cases hid
    · obtain rfl : rule' = rule := by
        have := he.found.symm.trans hrule
        simpa using this
      obtain rfl : r' = r := by
        have := he.rows.symm.trans hrow
        simpa using this
      have hstored : r' ∈ s'.observations.rows := by simp [hrow]
      refine ⟨by simp [hrow, ih.rows], ?_, ?_⟩
      · rw [forall_mem_cons]
        exact ⟨he.stands hc (s'.observations.checked _ hstored), ih.stands⟩
      · rw [pairwise_cons]
        exact ⟨hlate, ih.dated⟩

/-- Every stored row was written under a rule that was then in force, and expires after it. -/
theorem Run.rows_stand (hc : crates.Rfc3339) (h : Run crates log s ctx)
    {r : LoopAliveRow} (hr : r ∈ s.observations.rows) :
    ∃ p ∈ log, p.row = r ∧ p.Stands crates := by
  have hk := h.kept hc
  rw [hk.rows, mem_reverse] at hr
  obtain ⟨p, hp, rfl⟩ := List.mem_map.mp hr
  exact ⟨p, hp, rfl, hk.stands p hp⟩

/-! ## What a run's rows are classified as -/

/-- The row that sorts last is that of the pulse landed last. -/
theorem Kept.latest (hc : crates.Rfc3339) (h : Kept crates log s) :
    Sql.firstBy newerEmission (s.observations.rows.filter fun r =>
      r.componentId = componentIdNqLocal && r.subjectId = subjectIdObservationLoop) =
      log.head?.map Landed.row := by
  have hall : (s.observations.rows.filter fun r =>
    r.componentId = componentIdNqLocal && r.subjectId = subjectIdObservationLoop) =
      s.observations.rows := by
    refine filter_eq_self.mpr fun r hr => ?_
    rw [h.rows, mem_reverse] at hr
    obtain ⟨p, hp, rfl⟩ := List.mem_map.mp hr
    simp [(h.stands p hp).subject]
  rw [hall, h.rows]
  cases log with
  | nil => rfl
  | cons p log =>
    rw [map_cons, reverse_cons, Sql.firstBy_append_last]
    · rfl
    · intro r hr
      rw [mem_reverse] at hr
      obtain ⟨q, hq, rfl⟩ := List.mem_map.mp hr
      have hlt := (pairwise_cons.mp h.dated).1 q hq
      have hp := (h.stands p mem_cons_self).observedAt
      have hq := (h.stands q (mem_cons_of_mem _ hq)).observedAt
      exact decide_eq_true (.inl (hc.sorted _ _ _ _ hq hp hlt))

/-- The classification, from the pulse landed last. -/
def absence (crates : Crates) (rule : ActiveRule) (last : Option Landed)
    (now : Int) : Except EmitFault AbsenceClassification :=
  match last with
  | none =>
    match crates.format (now + seconds (graceSecs crates rule)) with
    | none => .error .panicked
    | some expectedBy =>
      .ok (.neverObserved rule.coverageRuleId rule.coverageRuleHash expectedBy rule.standingResolverId
        rule.escalationTarget)
  | some p =>
    if now ≤ p.until crates then
      .ok (.active p.row.observedAt p.row.expiresAt p.row.emissionId rule.coverageRuleId rule.coverageRuleHash)
    else
      .ok (.previouslyObservedExpired rule.coverageRuleId rule.coverageRuleHash p.row.observedAt
        p.row.expiresAt p.row.emissionId
        rule.standingResolverId rule.escalationTarget)

theorem classify_run (hc : crates.Rfc3339) (h : Run crates log s ctx) (now : Int) :
    classifyAbsence crates s componentIdNqLocal subjectIdObservationLoop kindObservationLoopAlive now =
      match inForce crates s now with
      | .error e => .error (.emit e)
      | .ok none => .ok .coverageUnknown
      | .ok (some rule) => absence crates rule log.head? now := by
  have hk := h.kept hc
  unfold classifyAbsence
  rw [hk.latest hc]
  unfold inForce
  cases lookupActiveRule crates.codec.rfc3339 s.coverageRules componentIdNqLocal subjectIdObservationLoop kindObservationLoopAlive now with
  | error e => rfl
  | ok found =>
    cases found with
    | none => rfl
    | some rule =>
      cases log with
      | nil => rfl
      | cons p log =>
        have hparse := hc.parse_format _ _ (hk.stands p mem_cons_self).expiresAt
        simp [absence, hparse]

/-- The preflight admits inside the window of the pulse landed last, finds the testimony stale
    after it, and has no coverage where no rule is in force or no pulse is stored. -/
theorem verdict_run (hc : crates.Rfc3339) (h : Run crates log s ctx)
    {now : Int} {engine : String} {result : PreflightResult}
    (he : evaluateObservationLoopAlivePreflight crates s componentIdNqLocal
      subjectIdObservationLoop now engine = .ok result) :
    (result.verdict = .admissibleWithScope ↔
        (∃ rule, inForce crates s now = .ok (some rule)) ∧ ∃ p ∈ log.head?, now ≤ p.until crates) ∧
      (result.verdict = .staleTestimony ↔
        (∃ rule, inForce crates s now = .ok (some rule)) ∧ ∃ p ∈ log.head?, p.until crates < now) ∧
      (result.verdict = .insufficientCoverage ↔ inForce crates s now = .ok none ∨ log = []) := by
  unfold evaluateObservationLoopAlivePreflight at he
  rw [classify_run hc h now] at he
  cases hrule : inForce crates s now with
  | error e => simp [hrule] at he
  | ok found =>
    rw [hrule] at he
    cases hnow : crates.format now with
    | none =>
      exfalso
      split at he
      · cases he
      · simp [hnow] at he
    | some generatedAt =>
      cases found with
      | none =>
        simp only [hnow, Except.ok.injEq] at he
        simp [← he, buildEvaluatorOutput]
      | some rule =>
        cases log with
        | nil =>
          cases hby : crates.format (now + seconds (graceSecs crates rule)) with
          | none => simp [absence, hby] at he
          | some expectedBy =>
            simp only [head?_nil, absence, hby, hnow, Except.ok.injEq] at he
            simp [← he, buildEvaluatorOutput]
        | cons p log =>
          by_cases hin : now ≤ p.until crates
          · simp only [head?_cons, absence, hin, if_true, hnow, Except.ok.injEq] at he
            simp [← he, buildEvaluatorOutput, hin]
          · simp only [head?_cons, absence, hin, if_false, hnow, Except.ok.injEq] at he
            simp [← he, buildEvaluatorOutput, hin]
            omega

end

/-! ## A morning -/

open Coverage (CoverageRow CoverageRuleDecl loopRule)
open Preflight (day dayCrates dayCrates_rfc3339)

/-- `loopRule`, in force on the twentieth of May. -/
def morningRules : CoverageRules where
  table := ⟨[⟨1, { loopRule with coverageStart := "2026-05-20T00:00:00Z" }, "sha256:rule"⟩], by decide⟩
  checked := by decide +kernel
  unique := by decide +kernel

def morningInputs (generationId seconds nanoseconds : Int) : EmitInputs :=
  { generationId, observedAt := day + seconds * 1000000000 + nanoseconds,
    componentVersion := "0.1.0", schemaVersion := "v1"
    evaluationEngineId := "nq" }

def morningStart : LoopStore := ⟨[1], morningRules, .empty⟩

def morningRule : ActiveRule :=
  CoverageRow.activeRule ⟨1, { loopRule with coverageStart := "2026-05-20T00:00:00Z" }, "sha256:rule"⟩

def morningRow : LoopAliveRow :=
  loopAliveRow morningRule {} (morningInputs 1 60 0) "2026-05-20T00:01:00Z" "2026-05-20T00:03:00Z" 1

def morningLog : List Landed := [⟨morningInputs 1 60 0, morningRule, morningRow⟩]

/-- One pulse, a minute into the day. -/
theorem morning_run :
    ∃ s ctx, Run dayCrates morningLog s ctx ∧ inForce dayCrates s (day + seconds 100) = .ok (some morningRule) := by
  have hemit : (tryEmitObservationLoopAlive dayCrates morningStart {} (morningInputs 1 60 0)).toOption.map
      (fun o => (o.2.2, o.1.observations.rows, o.1.coverageRules.rows)) =
        some (some morningRow.emissionId, [morningRow], morningRules.rows) := by decide +kernel
  obtain ⟨⟨s, ctx, id⟩, hok, hread⟩ := Sql.ok_of_toOption hemit
  simp only [Prod.mk.injEq] at hread
  obtain ⟨hid, hrows, hrules⟩ := hread
  rw [hid] at hok
  refine ⟨s, ctx, .pulse (.start [1] morningRules) (by simp) hok (by decide +kernel) hrows, ?_⟩
  have : inForce dayCrates s (day + seconds 100) = inForce dayCrates morningStart (day + seconds 100) := by
    unfold inForce lookupActiveRule
    rw [hrules]
    rfl
  rw [this]
  decide +kernel

/-- Forty seconds after a pulse of two minutes' grace, the loop is admitted. -/
theorem a_recent_pulse_is_admitted : ∃ log s ctx result, Run dayCrates log s ctx ∧
    evaluateObservationLoopAlivePreflight dayCrates s componentIdNqLocal subjectIdObservationLoop (day +
      seconds 100) "nq" = .ok result ∧ result.verdict = .admissibleWithScope := by
  obtain ⟨s, ctx, hrun, hrule⟩ := morning_run
  have hnow : dayCrates.format (day + seconds 100) = some "2026-05-20T00:01:40Z" := by decide +kernel
  have hin : (day + seconds 100 : Int) ≤ Landed.until dayCrates ⟨morningInputs 1 60 0, morningRule, morningRow⟩ :=
    by decide +kernel
  have hok : ∃ result, evaluateObservationLoopAlivePreflight dayCrates s componentIdNqLocal subjectIdObservationLoop
      (day + seconds 100) "nq" = .ok result := by
    unfold evaluateObservationLoopAlivePreflight
    rw [classify_run dayCrates_rfc3339 hrun, hrule]
    simp [morningLog, absence, hin, hnow]
  obtain ⟨result, hresult⟩ := hok
  exact ⟨_, s, ctx, result, hrun, hresult, (verdict_run dayCrates_rfc3339 hrun hresult).1.mpr ⟨⟨_, hrule⟩, _, rfl, hin⟩⟩

/-- The row of that pulse, and what it stands under. -/
theorem a_recent_pulse_stands :
    ∃ log s ctx, Run dayCrates log s ctx ∧ ∃ r ∈ s.observations.rows, ∃ p ∈ log, p.row = r ∧ p.Stands dayCrates := by
  obtain ⟨s, ctx, hrun, -⟩ := morning_run
  have hmem : morningRow ∈ s.observations.rows := by
    rw [(hrun.kept dayCrates_rfc3339).rows]
    exact mem_cons_self
  exact ⟨_, s, ctx, hrun, _, hmem, hrun.rows_stand dayCrates_rfc3339 hmem⟩

/-! ## Two pulses in one second -/

end Nq.Heartbeat
