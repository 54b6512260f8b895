/-
  Nq.Dashboard.Dominance — the dominant finding of each host (`nq-db/src/views.rs`,
  `host_states`; `v_host_state` of migration 044).

  A host with an observed finding has one row, on the least of its observed findings by five
  keys, whose action bias compound regimes may elevate (`elevate_rank`). Ties are left to the
  order of storage; two of the counts the elevation reads include suppressed findings; and a
  finding that is added may dominate with a weaker bias. So the projection is canonical exactly
  where none of this shows (`projection_iff`).

  - `two_equal_findings_take_turns`, `a_suppressed_finding_elevates`, `a_worse_finding_demotes`.
-/

import Nq.Db.Schema
import Std.Data.String.ToNat
import Mathlib.Data.List.Dedup
import Mathlib.Data.List.Lex
import Mathlib.Data.List.Sort

namespace Nq.Dominance

open List hiding le_antisymm le_refl le_trans lt_irrefl lt_of_le_of_lt not_lt

/-! ## The view -/

def serviceImpactRank : Option ServiceImpact → Int
  | some .immediateRisk => 0
  | some .degraded => 1
  | some .noneCurrent => 2
  | none => 3

/-- `action_bias_rank`, of a bias that may be missing. -/
def actionBiasRank : Option ActionBias → Int
  | some .interveneNow => 0
  | some .interveneSoon => 1
  | some .investigateNow => 2
  | some .investigateBusinessHours => 3
  | some .watch => 4
  | none => 5

def severityRank (severity : String) : Int :=
  if severity = "critical" then 0 else if severity = "warning" then 1 else if severity = "info" then 2 else 3

def stabilityRank : Option Stability → Int
  | some .new => 0
  | some .flickering => 1
  | some .stable => 2
  | some .recovering => 3
  | none => 4

section

variable (r : WarningRow)

def impact : Option ServiceImpact := r.diagnosis.map FindingDiagnosis.serviceImpact
def bias : Option ActionBias := r.diagnosis.map FindingDiagnosis.actionBias
def failureClass : Option FailureClass := r.diagnosis.map FindingDiagnosis.failureClass

/-- The ORDER BY of the window. -/
def dominanceKey : List Int :=
  [serviceImpactRank (impact r), actionBiasRank (bias r), severityRank r.severity,
    stabilityRank r.stability, -r.consecutiveGens]

def observed : Bool := r.visibilityState = .observed

end

structure HostState where
  host : String
  dominantKind : String
  dominantSubject : String
  dominantSeverity : String
  dominantFailureClass : Option FailureClass
  dominantServiceImpact : Option ServiceImpact
  dominantActionBias : Option ActionBias
  dominantStability : Option Stability
  elevatedActionBias : Option ActionBias := none
  elevationReason : Option String := none
  totalFindings : Nat
  observedFindings : Nat
  suppressedFindings : Nat
  subordinateCount : Nat
  immediateRiskCount : Nat
  degradedCount : Nat
  flickeringCount : Nat
  pressureDegradedCount : Nat
  accumulationCount : Nat
  deriving DecidableEq

section

variable (rows : List WarningRow) (host : String)

/-- The findings of a host, as they are stored. -/
def onHost : List WarningRow := rows.filter (·.host = host)

def candidates : List WarningRow := (onHost rows host).filter observed

/-- `dominance_rank = 1`: the first in the order of storage of the least. -/
def dominant : Option WarningRow := Sql.firstBy (fun a b => dominanceKey a < dominanceKey b) (candidates rows host)

def immediateRiskCount : Nat := (onHost rows host).countP (impact · = some .immediateRisk)

def degradedCount : Nat := (onHost rows host).countP (impact · = some .degraded)

def pressureDegradedCount : Nat :=
  (onHost rows host).countP fun r =>
    failureClass r = some .pressure && (impact r = some .degraded || impact r = some .immediateRisk) && observed r

def accumulationCount : Nat := (onHost rows host).countP fun r => failureClass r = some .accumulation && observed r

/-- A row of `v_host_state`. -/
def viewRow (r : WarningRow) : HostState where
  host := r.host
  dominantKind := r.kind
  dominantSubject := r.subject
  dominantSeverity := r.severity
  dominantFailureClass := failureClass r
  dominantServiceImpact := impact r
  dominantActionBias := bias r
  dominantStability := r.stability
  totalFindings := (onHost rows host).length
  observedFindings := (candidates rows host).length
  suppressedFindings := (onHost rows host).countP (·.visibilityState = .suppressed)
  subordinateCount := (candidates rows host).length - 1
  immediateRiskCount := immediateRiskCount rows host
  degradedCount := degradedCount rows host
  flickeringCount := (onHost rows host).countP (·.stability = some .flickering)
  pressureDegradedCount := pressureDegradedCount rows host
  accumulationCount := accumulationCount rows host

end

/-! ## Elevation -/

/-- `apply_action_bias_elevation`, of one row. -/
def HostState.elevate (s : HostState) : HostState :=
  let baseline := s.dominantActionBias.getD .watch
  let start : ActionBias × Option String := (baseline, none)
  let rule₁ :=
    if s.immediateRiskCount > 0 ∧ actionBiasRank (some baseline) > actionBiasRank (some .investigateNow) then
      (ActionBias.investigateNow, some "co-located immediate risk finding")
    else start
  let rule₂ :=
    if s.degradedCount ≥ 2 ∧ actionBiasRank (some rule₁.1) > actionBiasRank (some .investigateNow) then
      (ActionBias.investigateNow, some (toString s.degradedCount ++ " co-located degraded findings"))
    else rule₁
  let rule₃ :=
    if s.pressureDegradedCount > 0 ∧ s.accumulationCount > 0 ∧
      actionBiasRank (some rule₂.1) > actionBiasRank (some .investigateNow) then
      (ActionBias.investigateNow, some "co-located pressure (degraded) + accumulation findings")
    else rule₂
  if rule₃.1 ≠ baseline then { s with elevatedActionBias := some rule₃.1, elevationReason := rule₃.2 } else s

/-- The bias a reader acts on. -/
def HostState.effectiveBias (s : HostState) : Option ActionBias := s.elevatedActionBias.or s.dominantActionBias

def hostStates (rows : List WarningRow) : List HostState :=
  let hosts := ((rows.filter fun r => observed r && r.host ≠ "").map WarningRow.host).dedup
  let states := hosts.filterMap fun host => (dominant rows host).map (viewRow rows host)
  (states.insertionSort fun a b =>
    [min (serviceImpactRank a.dominantServiceImpact) 2, min (severityRank a.dominantSeverity) 2] <
        [min (serviceImpactRank b.dominantServiceImpact) 2, min (severityRank b.dominantSeverity) 2] ∨
      [min (serviceImpactRank a.dominantServiceImpact) 2, min (severityRank a.dominantSeverity) 2] =
          [min (serviceImpactRank b.dominantServiceImpact) 2, min (severityRank b.dominantSeverity) 2] ∧
            a.host ≤ b.host).map
    HostState.elevate

/-- The rows returned for a host. -/
def returned (rows : List WarningRow) (host : String) : List HostState := (hostStates rows).filter (·.host = host)

/-! ## What the rules come to -/

/-- The reason of the first rule that applies to the counts. -/
def regimeReason (immediateRisk degraded pressureDegraded accumulation : Nat) : Option String :=
  if 0 < immediateRisk then some "co-located immediate risk finding"
  else if 2 ≤ degraded then some (toString degraded ++ " co-located degraded findings")
  else if 0 < pressureDegraded ∧ 0 < accumulation then some "co-located pressure (degraded) + accumulation findings"
  else none

def HostState.regime (s : HostState) : Option String :=
  regimeReason s.immediateRiskCount s.degradedCount s.pressureDegradedCount s.accumulationCount

/-- The rules raise a bias weaker than `investigate_now` to it. -/
theorem elevate_eq (s : HostState) : s.elevate =
    if actionBiasRank s.dominantActionBias ≤ 2 then s
    else s.regime.elim s fun reason =>
      { s with elevatedActionBias := some .investigateNow, elevationReason := some reason } := by
  unfold HostState.elevate HostState.regime regimeReason
  have hstrong : ∀ b : ActionBias, actionBiasRank (some b) ≤ 2 →
      ¬actionBiasRank (some b) > actionBiasRank (some .investigateNow) := by
    intro b hb
    have htwo : actionBiasRank (some .investigateNow) = 2 := rfl
    omega
  by_cases hbias : actionBiasRank s.dominantActionBias ≤ 2
  · have hbaseline : actionBiasRank (some (s.dominantActionBias.getD .watch)) ≤ 2 := by
      cases hb : s.dominantActionBias with
      | none => rw [hb] at hbias; exact absurd hbias (by decide)
      | some b => rw [hb] at hbias; exact hbias
    simp [hbias, hstrong _ hbaseline]
  · have hbaseline : actionBiasRank (some (s.dominantActionBias.getD .watch)) > actionBiasRank (some .investigateNow) ∧
        ActionBias.investigateNow ≠ s.dominantActionBias.getD .watch := by
      cases hb : s.dominantActionBias with
      | none => decide
      | some b =>
        rw [hb] at hbias
        cases b <;> first | exact absurd (by decide) hbias | decide
    by_cases himm : 0 < s.immediateRiskCount
    · simp [hbias, hbaseline, himm]
    · by_cases hdeg : 2 ≤ s.degradedCount
      · simp [hbias, hbaseline, himm, hdeg]
      · by_cases hpress : 0 < s.pressureDegradedCount ∧ 0 < s.accumulationCount
        · simp [hbias, hbaseline, himm, hdeg, hpress]
        · have hnot : ¬(s.pressureDegradedCount > 0 ∧ s.accumulationCount > 0 ∧
              actionBiasRank (some (s.dominantActionBias.getD .watch)) > actionBiasRank (some .investigateNow)) :=
            fun h => hpress ⟨h.1, h.2.1⟩
          simp [hbias, himm, hdeg, hpress, hnot]

/-! ## The row of a host -/

section

variable {rows : List WarningRow} {host : String} {r : WarningRow}

theorem mem_candidates : r ∈ candidates rows host ↔ r ∈ rows ∧ r.host = host ∧ r.visibilityState = .observed := by
  unfold candidates onHost observed
  rw [mem_filter, mem_filter, decide_eq_true_iff, decide_eq_true_iff, and_assoc]

theorem dominant_least (h : dominant rows host = some r) :
    r ∈ candidates rows host ∧ ∀ r' ∈ candidates rows host, dominanceKey r ≤ dominanceKey r' := by
  have hbefore : ∀ a b : WarningRow, decide (dominanceKey a < dominanceKey b) = true ↔
      OrderDual.toDual (dominanceKey b) < OrderDual.toDual (dominanceKey a) := fun a b => decide_eq_true_iff
  exact @Sql.firstBy_greatest (List Int)ᵒᵈ WarningRow _ _ _ hbefore _ _ h

theorem dominant_eq_none : dominant rows host = none ↔ candidates rows host = [] := by
  constructor
  · exact Sql.firstBy_eq_none
  · intro h
    unfold dominant
    rw [h]
    rfl

variable {r' : WarningRow} {rows' : List WarningRow} (s : HostState)

theorem host_elevate : s.elevate.host = s.host := by
  rw [elevate_eq]
  split
  · rfl
  · cases s.regime <;> rfl

theorem dominantActionBias_elevate : s.elevate.dominantActionBias = s.dominantActionBias := by
  rw [elevate_eq]
  split
  · rfl
  · cases s.regime <;> rfl

/-- Of one value for each key, those of a key. -/
theorem filter_filterMap_key {α κ : Type} [DecidableEq κ] {g : κ → Option α}
    {key : α → κ} (hkey : ∀ k a, g k = some a → key a = k) {k : κ} :
    ∀ {ks : List κ}, ks.Nodup → (ks.filterMap g).filter (key · = k) = if k ∈ ks then (g k).toList else [] := by
  intro ks
  induction ks with
  | nil => intro _; rfl
  | cons k' ks ih =>
    intro hnodup
    obtain ⟨hfresh, hnodup⟩ := nodup_cons.mp hnodup
    have hrest := ih hnodup
    by_cases hk : k = k'
    · subst hk
      rw [if_neg hfresh] at hrest
      rw [if_pos mem_cons_self]
      cases hg : g k with
      | none => rw [filterMap_cons_none hg, hrest]; rfl
      | some a => rw [filterMap_cons_some hg, filter_cons_of_pos (by simp [hkey k a hg]), hrest]; rfl
    · have hmem : k ∈ k' :: ks ↔ k ∈ ks := by simp [hk]
      rw [if_congr hmem rfl rfl, ← hrest]
      cases hg : g k' with
      | none => rw [filterMap_cons_none hg]
      | some a => rw [filterMap_cons_some hg, filter_cons_of_neg (by simp [hkey k' a hg, Ne.symm hk])]

/-- The row of a host, if it has an observed finding. -/
def stateOf (rows : List WarningRow) (host : String) : Option HostState :=
  (dominant rows host).map fun r => (viewRow rows host r).elevate

theorem returned_eq : returned rows host = if host = "" then [] else (stateOf rows host).toList := by
  have hkey : ∀ k s, (dominant rows k).map (viewRow rows k) = some s → s.host = k := by
    intro k s hs
    obtain ⟨r, hr, rfl⟩ := Option.map_eq_some_iff.mp hs
    exact (mem_candidates.mp (dominant_least hr).1).2.1
  have hmem : host ∈ ((rows.filter fun r => observed r && r.host ≠ "").map WarningRow.host).dedup ↔
      host ≠ "" ∧ candidates rows host ≠ [] := by
    rw [mem_dedup, List.mem_map]
    constructor
    · rintro ⟨r, hr, rfl⟩
      obtain ⟨hrow, hcond⟩ := mem_filter.mp hr
      rw [Bool.and_eq_true, decide_eq_true_iff] at hcond
      have hcand : r ∈ candidates rows r.host := mem_candidates.mpr ⟨hrow, rfl, of_decide_eq_true hcond.1⟩
      exact ⟨hcond.2, ne_nil_of_mem hcand⟩
    · rintro ⟨hhost, hne⟩
      obtain ⟨r, hr⟩ := exists_mem_of_ne_nil _ hne
      obtain ⟨hrow, rfl, hvisible⟩ := mem_candidates.mp hr
      exact ⟨r, mem_filter.mpr ⟨hrow, by simp [observed, hvisible, hhost]⟩, rfl⟩
  have hfilter : ∀ l : List HostState, (l.map HostState.elevate).filter (·.host = host) =
      (l.filter (·.host = host)).map HostState.elevate := by
    intro l
    rw [filter_map]
    refine congrArg (List.map _) (filter_congr fun s _ => ?_)
    simp [host_elevate]
  unfold returned hostStates
  dsimp only
  rw [hfilter]
  have hperm := (perm_insertionSort (fun a b : HostState =>
    [min (serviceImpactRank a.dominantServiceImpact) 2, min (severityRank a.dominantSeverity) 2] <
        [min (serviceImpactRank b.dominantServiceImpact) 2, min (severityRank b.dominantSeverity) 2] ∨
      [min (serviceImpactRank a.dominantServiceImpact) 2, min (severityRank a.dominantSeverity) 2] =
          [min (serviceImpactRank b.dominantServiceImpact) 2,
            min (severityRank b.dominantSeverity) 2] ∧ a.host ≤ b.host)
    (((rows.filter fun r => observed r && r.host ≠ "").map WarningRow.host).dedup.filterMap fun host =>
      (dominant rows host).map (viewRow rows host))).filter (·.host = host)
  rw [filter_filterMap_key hkey (nodup_dedup _), if_congr hmem rfl rfl] at hperm
  unfold stateOf
  by_cases hhost : host = ""
  · rw [if_neg (fun h => h.1 hhost)] at hperm
    rw [hperm.eq_nil, if_pos hhost]
    rfl
  · rw [if_neg hhost]
    by_cases hcand : candidates rows host = []
    · rw [if_neg (fun h => h.2 hcand)] at hperm
      rw [hperm.eq_nil, dominant_eq_none.mpr hcand]
      rfl
    · rw [if_pos ⟨hhost, hcand⟩] at hperm
      cases hdom : dominant rows host with
      | none => exact absurd (dominant_eq_none.mp hdom) hcand
      | some r =>
        rw [hdom] at hperm
        rw [perm_singleton.mp hperm]
        rfl

/-! ## The least finding -/

/-- An observed finding of the host that none is before. -/
def Least (rows : List WarningRow) (host : String) (r : WarningRow) : Prop :=
  r ∈ candidates rows host ∧ ∀ r' ∈ candidates rows host, dominanceKey r ≤ dominanceKey r'

theorem Least.key_eq (h : Least rows host r) (h' : Least rows host r') : dominanceKey r = dominanceKey r' :=
  le_antisymm (h.2 r' h'.1) (h'.2 r h.1)

theorem bias_of_key (h : dominanceKey r = dominanceKey r') : actionBiasRank (bias r) = actionBiasRank (bias r') := by
  unfold dominanceKey at h
  simp only [List.cons.injEq] at h
  exact h.2.1

/-- A least finding that is stored first dominates. -/
theorem dominant_cons (h : Least (r :: rows) host r) : dominant (r :: rows) host = some r := by
  have hcand : candidates (r :: rows) host = r :: candidates rows host := by
    obtain ⟨_, hhost, hvisible⟩ := mem_candidates.mp h.1
    unfold candidates onHost
    rw [filter_cons_of_pos (by simpa using hhost), filter_cons_of_pos (by simpa [observed] using hvisible)]
  have hleast := h.2
  unfold dominant
  rw [hcand] at hleast ⊢
  unfold Sql.firstBy
  cases hrest : Sql.firstBy (fun a b => dominanceKey a < dominanceKey b) (candidates rows host) with
  | none => rfl
  | some r' =>
    have hle := hleast r' (mem_cons_of_mem _ (Sql.firstBy_mem hrest))
    dsimp only
    rw [if_neg (by simpa using hle)]

theorem onHost_perm (h : rows'.Perm rows) : (onHost rows' host).Perm (onHost rows host) := h.filter _

theorem candidates_perm (h : rows'.Perm rows) : (candidates rows' host).Perm (candidates rows host) :=
  (onHost_perm h).filter _

theorem Least.perm (h : Least rows host r) (hperm : rows'.Perm rows) : Least rows' host r :=
  ⟨(candidates_perm hperm).mem_iff.mpr h.1, fun r' hr' => h.2 r' ((candidates_perm hperm).mem_iff.mp hr')⟩

theorem viewRow_perm (h : rows'.Perm rows) : viewRow rows' host r = viewRow rows host r := by
  have hhost : (onHost rows' host).Perm (onHost rows host) := onHost_perm h
  unfold viewRow immediateRiskCount degradedCount pressureDegradedCount accumulationCount
  rw [hhost.length_eq, (candidates_perm h).length_eq, hhost.countP_eq, hhost.countP_eq, hhost.countP_eq,
    hhost.countP_eq, hhost.countP_eq, hhost.countP_eq]

/-! ## The row returned -/

/-- The regime of a host, by its counts. -/
def hostRegime (rows : List WarningRow) (host : String) : Option String :=
  regimeReason (immediateRiskCount rows host) (degradedCount rows host)
    (pressureDegradedCount rows host) (accumulationCount rows host)

/-- The rank of the bias a reader acts on. -/
def HostState.effectiveRank (s : HostState) : Int := actionBiasRank s.effectiveBias

/-- What a row shows of the finding it is on, and of what it makes of the others. -/
def HostState.shown (s : HostState) : String × String × Option ActionBias × Option String :=
  (s.dominantKind, s.dominantSubject, s.effectiveBias, s.elevationReason)

theorem returned_of_dominant (hhost : host ≠ "")
    (h : dominant rows host = some r) : returned rows host = [(viewRow rows host r).elevate] := by
  rw [returned_eq, if_neg hhost, stateOf, h]
  rfl

theorem returned_of_quiet (h : candidates rows host = []) : returned rows host = [] := by
  rw [returned_eq, stateOf, dominant_eq_none.mpr h]
  exact ite_self _

theorem exists_dominant (h : candidates rows host ≠ []) : ∃ r, dominant rows host = some r ∧ Least rows host r := by
  cases hdom : dominant rows host with
  | none => exact absurd (dominant_eq_none.mp hdom) h
  | some r => exact ⟨r, rfl, dominant_least hdom⟩

theorem shown_elevate : (viewRow rows host r).elevate.shown =
    (r.kind, r.subject,
      if actionBiasRank (bias r) ≤ 2 then (bias r, none)
      else (hostRegime rows host).elim (bias r, none) fun reason => (some .investigateNow, some reason)) := by
  rw [elevate_eq]
  show HostState.shown (if actionBiasRank (bias r) ≤ 2 then viewRow rows host r
    else (hostRegime rows host).elim _ _) = _
  split
  · rfl
  · cases hostRegime rows host <;> rfl

theorem effectiveRank_elevate : (viewRow rows host r).elevate.effectiveRank =
    if (hostRegime rows host).isSome then min (actionBiasRank (bias r)) 2 else actionBiasRank (bias r) := by
  have hshown : (viewRow rows host r).elevate.effectiveBias = _ :=
    congrArg (fun shown => shown.2.2.1) (@shown_elevate rows host r)
  unfold HostState.effectiveRank
  rw [hshown]
  dsimp only
  by_cases hbias : actionBiasRank (bias r) ≤ 2
  · rw [if_pos hbias, min_eq_left hbias, ite_self]
  · rw [if_neg hbias]
    cases hostRegime rows host with
    | none => rfl
    | some reason =>
      rw [Option.isSome_some, if_pos rfl, min_eq_right (by omega)]
      rfl

end

/-! ## A canonical projection -/

section

variable (t : WarningState)

/-- The projection is canonical, and does not demote. -/
structure Canonical : Prop where
  one : ∀ host ≠ "", candidates t.rows host ≠ [] → (returned t.rows host).length = 1
  noOther : ∀ host, host = "" ∨ candidates t.rows host = [] → returned t.rows host = []
  least : ∀ host, ∀ s ∈ returned t.rows host, ∃ r, Least t.rows host r ∧
    s.dominantKind = r.kind ∧ s.dominantSubject = r.subject
  stored : ∀ rows, rows.Perm t.rows → ∀ host, returned rows host = returned t.rows host
  urgent : ∀ host, ∀ s ∈ returned t.rows host, s.effectiveRank ≤ actionBiasRank s.dominantActionBias
  grows : ∀ f, f.visibilityState = .observed → t.get f.id = none →
    ∀ s ∈ returned t.rows f.host, ∀ s' ∈ returned (t.rows ++ [f]) f.host, s'.effectiveRank ≤ s.effectiveRank
  suppressed : ∀ host, (returned t.rows host).map HostState.shown =
    (returned (t.rows.filter observed) host).map HostState.shown

/-- Where it is: no two findings of a host tie on the five keys; a finding that would dominate is at least as urgent,
    or leaves the host elevated; and suppressed findings do not decide a rule for a bias it applies to. -/
structure Settled : Prop where
  untied : ∀ host ≠ "", ∀ r r', Least t.rows host r → Least t.rows host r' → r = r'
  grows : ∀ f, f.visibilityState = .observed → t.get f.id = none → f.host ≠ "" → ∀ r, Least t.rows f.host r →
    dominanceKey f < dominanceKey r → actionBiasRank (bias f) ≤ actionBiasRank (bias r) ∨
      2 ≤ actionBiasRank (bias r) ∧ (hostRegime (t.rows ++ [f]) f.host).isSome = true
  suppressed : ∀ host ≠ "", ∀ r, Least t.rows host r → actionBiasRank (bias r) ≤ 2 ∨
    0 < immediateRiskCount (t.rows.filter observed) host ∨
      immediateRiskCount t.rows host = 0 ∧
        (degradedCount t.rows host = degradedCount (t.rows.filter observed) host ∨ degradedCount t.rows host < 2)

end

section

variable {t : WarningState} {host : String}

theorem stored_iff : (∀ rows, rows.Perm t.rows → ∀ host, returned rows host = returned t.rows host) ↔
    ∀ host ≠ "", ∀ r r', Least t.rows host r → Least t.rows host r' → r = r' := by
  constructor
  · intro h host hhost r r' hr hr'
    have hfirst : ∀ r, Least t.rows host r → returned t.rows host = [(viewRow t.rows host r).elevate] := by
      intro r hr
      have hperm : (r :: t.rows.erase r).Perm t.rows := (perm_cons_erase (mem_candidates.mp hr.1).1).symm
      rw [← h _ hperm, returned_of_dominant hhost (dominant_cons (hr.perm hperm)), viewRow_perm hperm]
    have hshown := congrArg (List.map HostState.shown) ((hfirst r hr).symm.trans (hfirst r' hr'))
    simp only [map_cons, map_nil, List.cons.injEq, and_true, shown_elevate, Prod.mk.injEq] at hshown
    obtain ⟨hmem, hhost, _⟩ := mem_candidates.mp hr.1
    obtain ⟨hmem', hhost', _⟩ := mem_candidates.mp hr'.1
    refine inj_on_of_nodup_map t.nodup hmem hmem' ?_
    unfold WarningRow.id
    rw [hhost, hhost', hshown.1, hshown.2.1]
  · intro h rows hperm host
    rw [returned_eq, returned_eq]
    by_cases hhost : host = ""
    · rw [if_pos hhost, if_pos hhost]
    · rw [if_neg hhost, if_neg hhost]
      by_cases hcand : candidates t.rows host = []
      · have hcand' : candidates rows host = [] := perm_nil.mp (hcand ▸ candidates_perm hperm)
        rw [stateOf, stateOf, dominant_eq_none.mpr hcand, dominant_eq_none.mpr hcand']
        rfl
      · have hcand' : candidates rows host ≠ [] := fun hnil => hcand (nil_perm.mp (hnil ▸ candidates_perm hperm))
        obtain ⟨r, hr, hleast⟩ := exists_dominant hcand
        obtain ⟨r', hr', hleast'⟩ := exists_dominant hcand'
        have hsame : r' = r := h host hhost r' r (hleast'.perm hperm.symm) hleast
        rw [stateOf, stateOf, hr, hr', hsame, Option.map_some, Option.map_some, viewRow_perm hperm]

/-! ## A finding more -/

section

variable {rows : List WarningRow} {f r : WarningRow}

theorem candidates_append (hf : f.visibilityState = .observed) :
    candidates (rows ++ [f]) f.host = candidates rows f.host ++ [f] := by
  unfold candidates onHost
  rw [filter_append, filter_append, filter_cons_of_pos (by simp), filter_nil,
    filter_cons_of_pos (by simpa [observed] using hf), filter_nil]

theorem regimeReason_isSome {imm deg press acc : Nat} :
    (regimeReason imm deg press acc).isSome = true ↔ 0 < imm ∨ 2 ≤ deg ∨ 0 < press ∧ 0 < acc := by
  unfold regimeReason
  split
  · simp [*]
  · split
    · simp [*]
    · split <;> simp [*]

/-- A regime stays when a finding is added. -/
theorem hostRegime_append (h : (hostRegime rows f.host).isSome = true) :
    (hostRegime (rows ++ [f]) f.host).isSome = true := by
  have hgrow : ∀ p : WarningRow → Bool, (onHost rows f.host).countP p ≤ (onHost (rows ++ [f]) f.host).countP p := by
    intro p
    unfold onHost
    rw [filter_append, countP_append]
    omega
  have himm := hgrow (impact · = some .immediateRisk)
  have hdeg := hgrow (impact · = some .degraded)
  have hpress := hgrow fun r => failureClass r = some .pressure &&
    (impact r = some .degraded || impact r = some .immediateRisk) && observed r
  have hacc := hgrow fun r => failureClass r = some .accumulation && observed r
  unfold hostRegime immediateRiskCount degradedCount pressureDegradedCount accumulationCount at h ⊢
  rw [regimeReason_isSome] at h ⊢
  omega

/-- The finding that is added dominates exactly where it is before all others. -/
theorem dominant_append (hf : f.visibilityState = .observed) (hr : Least rows f.host r) {r' : WarningRow}
    (hr' : dominant (rows ++ [f]) f.host = some r') :
    if dominanceKey f < dominanceKey r then r' = f else dominanceKey r' = dominanceKey r := by
  obtain ⟨hmem, hleast⟩ := dominant_least hr'
  rw [candidates_append hf] at hmem hleast
  have hle_f := hleast f (mem_append_right _ (mem_singleton_self f))
  have hle_r := hleast r (mem_append_left _ hr.1)
  rcases mem_append.mp hmem with hold | hnew
  · have hge := hr.2 r' hold
    split
    · rename_i hlt
      exact absurd (lt_of_le_of_lt (le_trans hge hle_f) hlt) (lt_irrefl _)
    · exact le_antisymm hle_r hge
  · have hsame : r' = f := mem_singleton.mp hnew
    split
    · exact hsame
    · rename_i hnot
      rw [hsame] at hle_r ⊢
      exact le_antisymm hle_r (not_lt.mp hnot)

/-- The bias acted on is no less urgent with the finding exactly where it does not dominate, is as urgent itself, or
    is raised. -/
theorem grows_iff (hf : f.visibilityState = .observed) (hhost : f.host ≠ "") :
    (∀ s ∈ returned rows f.host, ∀ s' ∈ returned (rows ++ [f]) f.host, s'.effectiveRank ≤ s.effectiveRank) ↔
      ∀ r, Least rows f.host r → dominanceKey f < dominanceKey r → actionBiasRank (bias f) ≤ actionBiasRank (bias r) ∨
        2 ≤ actionBiasRank (bias r) ∧ (hostRegime (rows ++ [f]) f.host).isSome = true := by
  by_cases hcand : candidates rows f.host = []
  · rw [returned_of_quiet hcand]
    refine ⟨fun _ r hr => ?_, fun _ s hs => nomatch hs⟩
    have hmem := hr.1
    rw [hcand] at hmem
    cases hmem
  · obtain ⟨r, hdom, hr⟩ := exists_dominant hcand
    have hcand' : candidates (rows ++ [f]) f.host ≠ [] := by
      rw [candidates_append hf]
      simp
    obtain ⟨r', hdom', _⟩ := exists_dominant hcand'
    have hdominates := dominant_append hf hr hdom'
    have hregime := @hostRegime_append rows f
    have hall : (∀ r, Least rows f.host r → dominanceKey f < dominanceKey r → actionBiasRank (bias f) ≤
      actionBiasRank (bias r) ∨ 2 ≤ actionBiasRank (bias r) ∧ (hostRegime (rows ++ [f]) f.host).isSome = true) ↔
        (dominanceKey f < dominanceKey r → actionBiasRank (bias f) ≤ actionBiasRank (bias r) ∨
          2 ≤ actionBiasRank (bias r) ∧ (hostRegime (rows ++ [f]) f.host).isSome = true) := by
      constructor
      · exact fun h => h r hr
      · intro h r₁ hr₁ hlt
        have hkey := hr₁.key_eq hr
        rw [bias_of_key hkey]
        exact h (hkey ▸ hlt)
    rw [hall, returned_of_dominant hhost hdom, returned_of_dominant hhost hdom']
    simp only [mem_singleton, forall_eq, effectiveRank_elevate]
    by_cases hlt : dominanceKey f < dominanceKey r
    · rw [if_pos hlt] at hdominates
      rw [hdominates]
      simp only [hlt, true_implies]
      by_cases hbefore : (hostRegime rows f.host).isSome = true
      · rw [if_pos hbefore, if_pos (hregime hbefore), hregime hbefore]
        simp only [and_true]
        omega
      · by_cases hafter : (hostRegime (rows ++ [f]) f.host).isSome = true
        · rw [if_neg hbefore, if_pos hafter, hafter]
          simp only [and_true]
          omega
        · rw [if_neg hbefore, if_neg hafter]
          simp [hafter]
    · rw [if_neg hlt] at hdominates
      rw [bias_of_key hdominates]
      simp only [hlt, false_implies, iff_true]
      by_cases hbefore : (hostRegime rows f.host).isSome = true
      · rw [if_pos hbefore, if_pos (hregime hbefore)]
      · rw [if_neg hbefore]
        split <;> omega

end

/-! ## Suppressed findings -/

section

variable {rows : List WarningRow}

theorem degraded_reason_ne {n : Nat} {reason : String}
    (h : ¬(" co-located degraded findings".toList <:+ reason.toList)) :
    toString n ++ " co-located degraded findings" ≠ reason := by
  rintro rfl
  exact h ⟨(toString n).toList, by rw [String.toList_append]⟩

/-- Counts that are not less name the same rule exactly where none but those of the first rule matter, or those of the
    second agree where it applies. -/
theorem regimeReason_eq_iff {imm imm' deg deg' press acc : Nat} (himm : imm' ≤ imm) (hdeg : deg' ≤ deg) :
    regimeReason imm deg press acc = regimeReason imm' deg' press acc ↔
      0 < imm' ∨ imm = 0 ∧ (deg = deg' ∨ deg < 2) := by
  have hfirst : ∀ n : Nat, toString n ++ " co-located degraded findings" ≠ "co-located immediate risk finding" :=
    fun n => degraded_reason_ne (by decide)
  have hthird : ∀ n : Nat, toString n ++ " co-located degraded findings" ≠
      "co-located pressure (degraded) + accumulation findings" :=
    fun n => degraded_reason_ne (by decide)
  have hinj : ∀ n m : Nat, toString n ++ " co-located degraded findings" = toString m ++
      " co-located degraded findings" → n = m := by
    intro n m h
    have hlist := congrArg String.toList h
    rw [String.toList_append, String.toList_append] at hlist
    exact Nat.repr_injective (String.toList_inj.mp (append_cancel_right hlist))
  unfold regimeReason
  by_cases himm' : 0 < imm'
  · rw [if_pos (by omega), if_pos himm']
    exact iff_of_true rfl (.inl himm')
  · rw [if_neg himm']
    by_cases himm₀ : 0 < imm
    · rw [if_pos himm₀]
      refine iff_of_false (fun h => ?_) (by omega)
      split at h
      · exact hfirst deg' (Option.some.inj h).symm
      · split at h
        · exact absurd (Option.some.inj h) (by decide)
        · cases h
    · rw [if_neg himm₀]
      by_cases hdeg₂ : 2 ≤ deg
      · rw [if_pos hdeg₂]
        by_cases hdeg' : 2 ≤ deg'
        · rw [if_pos hdeg', Option.some.injEq]
          refine ⟨fun h => .inr ⟨by omega, .inl (hinj _ _ h)⟩, fun h => ?_⟩
          rw [show deg = deg' by omega]
        · rw [if_neg hdeg']
          refine iff_of_false (fun h => ?_) (by omega)
          split at h
          · exact hthird deg (Option.some.inj h)
          · cases h
      · rw [if_neg hdeg₂, if_neg (show ¬2 ≤ deg' by omega)]
        exact iff_of_true rfl (.inr ⟨by omega, .inr (by omega)⟩)

theorem candidates_observed (host : String) : candidates (rows.filter observed) host = candidates rows host := by
  unfold candidates onHost
  rw [filter_filter, filter_filter, filter_filter]
  refine filter_congr fun r _ => ?_
  cases observed r <;> simp

theorem countP_observed (host : String) (p : WarningRow → Bool) :
    (onHost (rows.filter observed) host).countP (fun r => p r && observed r) = (onHost rows host).countP fun r =>
      p r && observed r := by
  unfold onHost
  rw [filter_filter, countP_filter, countP_filter]
  refine countP_congr fun r _ => ?_
  cases observed r <;> simp

theorem countP_observed_le (host : String) (p : WarningRow → Bool) :
    (onHost (rows.filter observed) host).countP p ≤ (onHost rows host).countP p :=
  (filter_sublist.filter _).countP_le

/-- A host shows the same without its suppressed findings exactly where they decide no rule for a bias it applies to. -/
theorem suppressed_iff {host : String} (hhost : host ≠ "") :
    (returned rows host).map HostState.shown = (returned (rows.filter observed) host).map HostState.shown ↔
      ∀ r, Least rows host r → actionBiasRank (bias r) ≤ 2 ∨ 0 < immediateRiskCount (rows.filter observed) host ∨
        immediateRiskCount rows host = 0 ∧
          (degradedCount rows host = degradedCount (rows.filter observed) host ∨ degradedCount rows host < 2) := by
  by_cases hcand : candidates rows host = []
  · rw [returned_of_quiet hcand, returned_of_quiet ((candidates_observed host).trans hcand)]
    refine iff_of_true rfl fun r hr => ?_
    have hmem := hr.1
    rw [hcand] at hmem
    cases hmem
  · obtain ⟨r, hdom, hr⟩ := exists_dominant hcand
    have hdom' : dominant (rows.filter observed) host = some r := by
      unfold dominant
      rw [candidates_observed]
      exact hdom
    have hpress : pressureDegradedCount (rows.filter observed) host = pressureDegradedCount rows host :=
      countP_observed host _
    have hacc : accumulationCount (rows.filter observed) host = accumulationCount rows host := countP_observed host _
    have hregime : hostRegime rows host = hostRegime (rows.filter observed) host ↔
        0 < immediateRiskCount (rows.filter observed) host ∨ immediateRiskCount rows host = 0 ∧
          (degradedCount rows host = degradedCount (rows.filter observed) host ∨ degradedCount rows host < 2) := by
      unfold hostRegime
      rw [hpress, hacc]
      exact regimeReason_eq_iff (countP_observed_le host _) (countP_observed_le host _)
    have hall : (∀ r, Least rows host r → actionBiasRank (bias r) ≤ 2 ∨
      hostRegime rows host = hostRegime (rows.filter observed) host) ↔
        (actionBiasRank (bias r) ≤ 2 ∨ hostRegime rows host = hostRegime (rows.filter observed) host) :=
      ⟨fun h => h r hr, fun h r₁ hr₁ => bias_of_key (hr₁.key_eq hr) ▸ h⟩
    rw [← hregime, hall, returned_of_dominant hhost hdom, returned_of_dominant hhost hdom']
    simp only [map_cons, map_nil, List.cons.injEq, and_true, shown_elevate, Prod.mk.injEq, true_and]
    by_cases hbias : actionBiasRank (bias r) ≤ 2
    · simp [hbias]
    · simp only [hbias, if_false, false_or]
      constructor
      · intro h
        cases hleft : hostRegime rows host <;> cases hright : hostRegime (rows.filter observed) host <;> simp_all
      · intro h
        rw [h]

end

/-! ## The projection -/

/-- The projection is canonical exactly on the tables where no two findings of a host tie, no finding that would
    dominate lowers the bias acted on, and suppressed findings decide no rule. -/
theorem projection_iff (t : WarningState) : Canonical t ↔ Settled t := by
  have hreturned : ∀ host, ∀ s ∈ returned t.rows host, ∃ r, host ≠ "" ∧
      Least t.rows host r ∧ s = (viewRow t.rows host r).elevate := by
    intro host s hs
    by_cases hhost : host = ""
    · rw [returned_eq, if_pos hhost] at hs
      cases hs
    · by_cases hcand : candidates t.rows host = []
      · rw [returned_of_quiet hcand] at hs
        cases hs
      · obtain ⟨r, hdom, hr⟩ := exists_dominant hcand
        rw [returned_of_dominant hhost hdom] at hs
        exact ⟨r, hhost, hr, mem_singleton.mp hs⟩
  constructor
  · intro h
    refine ⟨stored_iff.mp h.stored, fun f hf hnew hhost => (grows_iff hf hhost).mp (h.grows f hf hnew),
      fun host hhost => ?_⟩
    exact (suppressed_iff hhost).mp (h.suppressed host)
  · intro h
    refine ⟨fun host hhost hcand => ?_, fun host hnone => ?_, fun host s hs => ?_, stored_iff.mpr h.untied,
      fun host s hs => ?_, fun f hf hnew => ?_, fun host => ?_⟩
    · obtain ⟨r, hdom, _⟩ := exists_dominant hcand
      rw [returned_of_dominant hhost hdom]
      rfl
    · rcases hnone with hhost | hcand
      · rw [returned_eq, if_pos hhost]
      · exact returned_of_quiet hcand
    · obtain ⟨r, _, hr, rfl⟩ := hreturned host s hs
      have hshown := @shown_elevate t.rows host r
      exact ⟨r, hr, congrArg (fun shown => shown.1) hshown, congrArg (fun shown => shown.2.1) hshown⟩
    · obtain ⟨r, _, _, rfl⟩ := hreturned host s hs
      rw [effectiveRank_elevate, dominantActionBias_elevate]
      show _ ≤ actionBiasRank (bias r)
      split
      · exact min_le_left _ _
      · exact le_refl _
    · by_cases hhost : f.host = ""
      · intro s hs
        rw [returned_eq, if_pos hhost] at hs
        cases hs
      · exact (grows_iff hf hhost).mpr (h.grows f hf hnew hhost)
    · by_cases hhost : host = ""
      · rw [returned_eq, if_pos hhost, returned_eq, if_pos hhost]
      · exact (suppressed_iff hhost).mpr (h.suppressed host hhost)

end

/-! ## Findings on one host -/

/-- A finding on the host. -/
def found (kind : String) (impact : ServiceImpact) (bias : ActionBias) (visibility : Visibility) : WarningRow :=
  { host := "db-1", kind, subject := "", firstSeenGen := 1, firstSeenAt := "", lastSeenGen := 1, lastSeenAt := ""
    visibilityState := visibility, diagnosis := some ⟨.unspecified, impact, bias⟩ }

/-- An observed finding to be watched, and a suppressed one at immediate risk. -/
def riskSuppressed : WarningState :=
  ⟨[found "wal_bloat" .noneCurrent .watch .observed,
    found "disk_pressure" .immediateRisk .interveneNow .suppressed], by decide⟩

/-- The host is to be investigated now, for a finding that is suppressed. -/
theorem a_suppressed_finding_elevates :
    (returned riskSuppressed.rows "db-1").map HostState.shown =
        [("wal_bloat", "", some .investigateNow, some "co-located immediate risk finding")] ∧
      (returned (riskSuppressed.rows.filter observed) "db-1").map HostState.shown =
        [("wal_bloat", "", some .watch, none)] ∧ ¬Canonical riskSuppressed := by
  have hwith : (returned riskSuppressed.rows "db-1").map HostState.shown =
      [("wal_bloat", "", some .investigateNow, some "co-located immediate risk finding")] := by decide +kernel
  have hwithout : (returned (riskSuppressed.rows.filter observed) "db-1").map HostState.shown =
      [("wal_bloat", "", some .watch, none)] := by
    decide +kernel
  refine ⟨hwith, hwithout, fun h => ?_⟩
  have hsame := h.suppressed "db-1"
  rw [hwith, hwithout] at hsame
  exact absurd hsame (by decide)

/-- Of two findings that tie the first in the order of storage is returned. -/
example : (returned [found "wal_bloat" .degraded .watch .observed,
  found "disk_pressure" .degraded .watch .observed] "db-1").map
    HostState.dominantKind = ["wal_bloat"] := by decide +kernel

/-- A finding at risk that is to be watched takes a host that was to be acted on now to one to be investigated. -/
example : (returned [found "wal_bloat" .degraded .interveneNow .observed] "db-1").map HostState.effectiveRank = [0] ∧
    (returned [found "wal_bloat" .degraded .interveneNow .observed,
      found "disk_pressure" .immediateRisk .watch .observed] "db-1").map
      HostState.effectiveRank = [2] := by decide +kernel

end Nq.Dominance
