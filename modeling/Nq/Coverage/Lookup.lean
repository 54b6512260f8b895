/-
  Nq.Coverage.Lookup — the rule in force for a key (`nq-db/src/component_testimony.rs`,
  `lookup_active_rule`), against what the last reconciliation declared.

  The lookup reads the open row of the key and answers it once `coverage_start` has
  come. A bounded rule has no open row, so it is never answered.

  - `Called.open_after`, `Called.row_of_open`: the open rows a committed call leaves are
    its open rules.
  - `lookup_declared_iff`: reconciling and looking up gives the declared rule, exactly
    when the call could be written and no bounded rule of the key is in force.
  - `a_bounded_rule_in_force_is_not_found`.
-/

import Nq.Coverage.Converge

namespace Nq.Coverage

open List
open Sql (F64)

structure ActiveRule where
  coverageRuleId : Int
  coverageRuleHash : String
  expectedIntervalS : UInt32
  graceMultiplier : F64
  standingResolverId : String
  escalationTarget : String
  deriving DecidableEq

inductive EmitError where
  | db (reason : String)
  deriving DecidableEq, Repr

def CoverageRow.activeRule (r : CoverageRow) : ActiveRule :=
  { coverageRuleId := r.coverageRuleId, coverageRuleHash := r.coverageRuleHash
    expectedIntervalS := r.rule.expectedIntervalS, graceMultiplier := r.rule.graceMultiplier
    standingResolverId := r.rule.standingResolverId, escalationTarget := r.rule.escalationTarget }

section Lookup

variable (rfc3339 : String → Except String Int)

def lookupActiveRule (t : CoverageRules) (componentId subjectId claimKind : String) (now : Int) :
    Except EmitError (Option ActiveRule) :=
  match t.rows.find? (fun r => r.key = ⟨componentId, subjectId, claimKind⟩ && r.isOpen) with
  | none => .ok none
  | some r =>
    match rfc3339 r.rule.coverageStart with
    | .error e => .error (.db ("coverage_start parse failed: " ++ e))
    | .ok coverageStart => if coverageStart > now then .ok none else .ok (some r.activeRule)

/-- The declared window holds the instant. -/
def CoverageRuleDecl.InForce (d : CoverageRuleDecl) (now : Int) : Prop :=
  (∃ start, rfc3339 d.coverageStart = .ok start ∧ start ≤ now) ∧
    ∀ vu, d.validUntil = some vu → ∃ u, rfc3339 vu = .ok u ∧ now < u

/-- The answer is the declared rule in force for the key, or none where there is none. -/
structure AnswersDeclared (hash : CoverageRuleHashable → Except String String) (decls : List CoverageRuleDecl)
    (k : RuleKey) (now : Int) (answer : Except EmitError (Option ActiveRule)) : Prop where
  declared : ∀ d ∈ decls, d.key = k → d.InForce rfc3339 now →
    ∃ a, answer = .ok (some a) ∧ hash d.toCoverageRuleHashable = .ok a.coverageRuleHash ∧
      a.expectedIntervalS = d.expectedIntervalS ∧ a.graceMultiplier = d.graceMultiplier
  otherwise : (∀ d ∈ decls, d.key = k → ¬d.InForce rfc3339 now) → answer = .ok none

end Lookup

variable {rfc3339 : String → Except String Int} {hash : CoverageRuleHashable → Except String String}
  {fmt : Int → Except String String} {earlier : List Reconciliation} {t : CoverageRules} {x : Reconciliation}
  {claimKind componentId subjectId : String}

/-- The key's open row, once its start has come. -/
theorem lookup_of_open {r : CoverageRow} (hr : r ∈ t.rows) (ho : r.isOpen = true)
    (hk : r.key = ⟨componentId, subjectId, claimKind⟩) {start : Int} (hstart : rfc3339 r.rule.coverageStart = .ok start)
    (now : Int) :
    lookupActiveRule rfc3339 t componentId subjectId claimKind now =
      if start > now then .ok none else .ok (some r.activeRule) := by
  have hfind : t.rows.find? (fun r' => r'.key = ⟨componentId, subjectId, claimKind⟩ && r'.isOpen) = some r := by
    cases hf : t.rows.find? (fun r' => r'.key = ⟨componentId, subjectId, claimKind⟩ && r'.isOpen) with
    | none => simpa [ho, hk] using find?_eq_none.mp hf r hr
    | some r' =>
      have hp := find?_some hf
      simp only [Bool.and_eq_true, decide_eq_true_eq] at hp
      rw [t.open_unique (mem_of_find?_eq_some hf) hr hp.2 ho (hp.1.trans hk.symm)]
  unfold lookupActiveRule
  rw [hfind]
  simp only [hstart]

theorem lookup_of_no_open {now : Int}
    (h : ∀ r ∈ t.rows, r.isOpen = true → r.key ≠ ⟨componentId, subjectId, claimKind⟩) :
    lookupActiveRule rfc3339 t componentId subjectId claimKind now = .ok none := by
  have hfind : t.rows.find? (fun r => r.key = ⟨componentId, subjectId, claimKind⟩ && r.isOpen) = none := by
    refine find?_eq_none.mpr fun r hr hp => ?_
    simp only [Bool.and_eq_true, decide_eq_true_eq] at hp
    exact h r hr hp.2 hp.1
  unfold lookupActiveRule
  rw [hfind]

namespace Called

/-- The open rows a committed call leaves carry its open rules. -/
theorem open_after (h : Called rfc3339 hash fmt earlier x) (hok : ∃ st, x.result = .ok st) {r : CoverageRow}
    (hr : r ∈ x.after.rows) (ho : r.isOpen = true) :
    ∃ d ∈ x.call.decls, r.Of hash d ∧ r.rule.toCoverageRuleHashable = d.toCoverageRuleHashable := by
  obtain ⟨m, iso, fresh, hrec⟩ := h.reconciled hok
  have hof : ∃ d ∈ x.call.decls, r.Of hash d := by
    have hmem := hr
    rw [hrec.rows] at hmem
    rcases mem_append.mp hmem with hmem | hmem
    · obtain ⟨r₀, hr₀, rfl⟩ := List.mem_map.mp hmem
      rcases endRow_cases m iso r₀ with ⟨e, hcar⟩ | ⟨e, -, -⟩
      · rw [e] at ho ⊢
        exact (carried_iff_of h.nodup hrec.declares).mp (hcar ho)
      · rw [e] at ho
        simp [CoverageRow.isOpen, CoverageRow.endAt] at ho
    · have he := ((hrec.entries r.entry).mp (mem_map_of_mem hmem)).1
      exact ⟨r.rule, hrec.declares.mem_iff.mpr ⟨r.entry, he, rfl⟩, rfl, hrec.declares.hashed r.entry he⟩
  obtain ⟨d, hd, hof⟩ := hof
  rcases h.left hd hr hof with ⟨hrule, -⟩ | ⟨-, hclosed, -⟩
  · exact ⟨d, hd, hof, hrule⟩
  · rw [hclosed] at ho; cases ho

variable {d : CoverageRuleDecl} {claimKind componentId subjectId : String}

/-- An open rule a committed call declared has its open row. -/
theorem row_of_open (h : Called rfc3339 hash fmt earlier x) (hok : ∃ st, x.result = .ok st) (hd : d ∈ x.call.decls)
    (hopen : d.validUntil = none) : ∃ r ∈ x.after.rows, r.isOpen = true ∧ r.key = d.key := by
  obtain ⟨m, iso, fresh, hrec⟩ := h.reconciled hok
  obtain ⟨e, he, rfl⟩ := hrec.declares.mem_iff.mp hd
  by_cases hcar : x.before.Carries e
  · obtain ⟨r, hr, ho, hof⟩ := (carries_iff_of hrec.declares he).mp hcar
    exact ⟨r, stays hrec hr fun _ => (carried_iff_of h.nodup hrec.declares).mpr ⟨e.decl, hd, hof⟩, ho, hof.1⟩
  · obtain ⟨r, hr, hre⟩ := List.mem_map.mp ((hrec.entries e).mpr ⟨he, hcar⟩)
    refine ⟨r, ?_, ?_, ?_⟩
    · rw [hrec.rows]; exact mem_append_right _ hr
    · have : r.rule = e.decl := congrArg RuleEntry.decl hre
      simp [CoverageRow.isOpen, this, hopen]
    · exact congrArg RuleEntry.key hre

theorem eq_of_key (h : Called rfc3339 hash fmt earlier x) {d' : CoverageRuleDecl} (hd : d ∈ x.call.decls)
    (hd' : d' ∈ x.call.decls) (hk : d.key = d'.key) : d = d' :=
  inj_on_of_nodup_map h.nodup hd hd' hk

/-- A key whose declared rule is bounded, or that is not declared, is not found. -/
theorem lookup_none (h : Called rfc3339 hash fmt earlier x) (hok : ∃ st, x.result = .ok st) (now : Int)
    (hno : ∀ d ∈ x.call.decls, d.key = ⟨componentId, subjectId, claimKind⟩ → d.validUntil.isSome = true) :
    lookupActiveRule rfc3339 x.after componentId subjectId claimKind now = .ok none := by
  refine lookup_of_no_open fun r hr ho hk => ?_
  obtain ⟨d, hd, hof, hrule⟩ := h.open_after hok hr ho
  have hsome := hno d hd (hof.1 ▸ hk)
  have hval : r.rule.validUntil = d.validUntil := congrArg (·.validUntil) hrule
  rw [← hval] at hsome
  simp [CoverageRow.isOpen] at ho
  simp [ho] at hsome

/-- A key whose declared rule is open is found once the declared start has come. -/
theorem lookup_open (h : Called rfc3339 hash fmt earlier x) (hok : ∃ st, x.result = .ok st) (hd : d ∈ x.call.decls)
    (hopen : d.validUntil = none) (hk : d.key = ⟨componentId, subjectId, claimKind⟩) {start : Int}
    (hstart : rfc3339 d.coverageStart = .ok start) (now : Int) :
    ∃ r : CoverageRow, r.Of hash d ∧ r.rule.toCoverageRuleHashable = d.toCoverageRuleHashable ∧
      lookupActiveRule rfc3339 x.after componentId subjectId claimKind now =
        if start > now then .ok none else .ok (some r.activeRule) := by
  obtain ⟨r, hr, ho, hrk⟩ := h.row_of_open hok hd hopen
  obtain ⟨d', hd', hof, hrule⟩ := h.open_after hok hr ho
  obtain rfl : d' = d := h.eq_of_key hd' hd (hof.1.symm.trans hrk)
  have hcols : r.rule.coverageStart = d'.coverageStart := congrArg (·.coverageStart) hrule
  exact ⟨r, hof, hrule, lookup_of_open hr ho (hrk.trans hk) (hcols ▸ hstart) now⟩

end Called

/-- Reconciling a list and looking a key up gives what the list declares for it,
    exactly when the call could be written and the rule it declares for the key is not
    a bounded one in force. -/
theorem lookup_declared_iff (h : CoverageRun rfc3339 hash fmt (x :: earlier) t)
    (hc : Collisionless hash (declaredIn (x :: earlier))) (componentId subjectId claimKind : String) (now : Int) :
    ((∃ st, x.result = .ok st) ∧
      AnswersDeclared rfc3339 hash x.call.decls ⟨componentId, subjectId, claimKind⟩ now
        (lookupActiveRule rfc3339 x.after componentId subjectId claimKind now)) ↔
      x.Writable hash fmt ∧
        ∀ d ∈ x.call.decls, d.key = ⟨componentId, subjectId, claimKind⟩ → d.validUntil.isSome = true →
          ¬d.InForce rfc3339 now := by
  have hx : Called rfc3339 hash fmt earlier x := called_of_run h hc (nil_append _).symm
  constructor
  · rintro ⟨hok, hans⟩
    refine ⟨hx.writable_of_commits hok, fun d hd hk hsome hforce => ?_⟩
    obtain ⟨a, ha, -⟩ := hans.declared d hd hk hforce
    rw [hx.lookup_none hok now] at ha
    · cases ha
    · intro d' hd' hk'
      rw [hx.eq_of_key hd' hd (hk'.trans hk.symm)]
      exact hsome
  · rintro ⟨hw, hbounded⟩
    have hok := hx.commits_of_writable hw
    refine ⟨hok, fun d hd hk hforce => ?_, fun hnone => ?_⟩
    · obtain ⟨start, hstart, hle⟩ := hforce.1
      have hopen : d.validUntil = none := by
        cases hvu : d.validUntil with
        | none => rfl
        | some vu => exact absurd hforce (hbounded d hd hk (by simp [hvu]))
      obtain ⟨r, hof, hrule, hlook⟩ := hx.lookup_open hok hd hopen hk hstart now
      rw [if_neg (by omega)] at hlook
      exact ⟨r.activeRule, hlook, hof.2, congrArg (·.expectedIntervalS) hrule, congrArg (·.graceMultiplier) hrule⟩
    · by_cases hd : ∃ d ∈ x.call.decls, d.key = ⟨componentId, subjectId, claimKind⟩ ∧ d.validUntil = none
      · obtain ⟨d, hd, hk, hopen⟩ := hd
        obtain ⟨start, hstart, -⟩ := (hx.accepted.valid.2 d hd).window
        have hearly : start > now := by
          by_contra hle
          refine hnone d hd hk ⟨⟨start, hstart, by omega⟩, fun vu hvu => ?_⟩
          rw [hopen] at hvu
          cases hvu
        obtain ⟨r, -, -, hlook⟩ := hx.lookup_open hok hd hopen hk hstart now
        rw [hlook, if_pos hearly]
      · refine hx.lookup_none hok now fun d hd' hk => ?_
        cases hvu : d.validUntil with
        | none => exact absurd ⟨d, hd', hk, hvu⟩ hd
        | some vu => rfl

/-- A bounded rule in the middle of its window is answered with none. -/
theorem a_bounded_rule_in_force_is_not_found :
    CoverageRun traceInstant traceHash traceFmt [traceFirst boundedRule] (traceFirst boundedRule).after ∧
      Collisionless traceHash (declaredIn [traceFirst boundedRule]) ∧ (∃ st, (traceFirst boundedRule).result = .ok st) ∧
      boundedRule.InForce traceInstant 1772323260 ∧
      ¬AnswersDeclared traceInstant traceHash (traceFirst boundedRule).call.decls boundedRule.key 1772323260
        (lookupActiveRule traceInstant (traceFirst boundedRule).after "nq.local" "observation_loop"
          "component_testimony_observation_loop_alive" 1772323260) := by
  have hforce : boundedRule.InForce traceInstant 1772323260 := by
    refine ⟨⟨1767225600, by decide +kernel, by decide⟩, fun vu hvu => ?_⟩
    cases hvu
    exact ⟨1798761600, by decide +kernel, by decide⟩
  have hnone : (lookupActiveRule traceInstant (traceFirst boundedRule).after "nq.local" "observation_loop"
      "component_testimony_observation_loop_alive" 1772323260) = .ok none := by decide +kernel
  have hok : (traceFirst boundedRule).result.toOption.map (fun st => st.2.inserted) = some 1 := by decide +kernel
  refine ⟨.call .init { decls := [boundedRule], now := 1772323200 } (accepted_singleton (by decide +kernel)),
    (collisionless_traceHist boundedRule).mono (fun d hd => ?_), ?_, hforce, fun hans => ?_⟩
  · exact mem_append_right _ hd
  · obtain ⟨st, hst, -⟩ := Sql.ok_of_toOption hok
    exact ⟨st, hst⟩
  · obtain ⟨a, ha, -⟩ := hans.declared boundedRule mem_cons_self rfl hforce
    rw [hnone] at ha
    cases ha

/-- An open rule, looked up a minute after its declaration. -/
theorem an_open_rule_in_force_is_found :
    AnswersDeclared traceInstant traceHash [loopRule] loopRule.key 1772323260
      (lookupActiveRule traceInstant (traceFirst loopRule).after "nq.local" "observation_loop"
        "component_testimony_observation_loop_alive" 1772323260) :=
  ((lookup_declared_iff
      (.call .init { decls := [loopRule], now := 1772323200 } (accepted_singleton (by decide +kernel)))
      ((collisionless_traceHist loopRule).mono fun _ hd => mem_append_right _ hd) "nq.local" "observation_loop"
      "component_testimony_observation_loop_alive" 1772323260).mpr
    ⟨(loopRule_sound [_] (traceFirst loopRule) [] rfl).toWritable, fun d hd _ hsome => by
      rw [show d = loopRule from mem_singleton.mp hd] at hsome
      cases hsome⟩).2

end Nq.Coverage
