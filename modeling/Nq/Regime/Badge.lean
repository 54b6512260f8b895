/-
  Nq.Regime.Badge — the badge of a finding, and the rows it is read from (`regime.rs`,
  `derive_regime_badge`, `compute_regime_annotation`).

  A badge is derived from the newest row of each feature, of whatever generation it is. So
  after the pass for a generation it describes that generation exactly where a row left over
  from an older one adds nothing to it (`annotation_iff`).

  - `a_metric_back_at_its_peak_is_resolving`: it has no row of its own generation.
-/

import Nq.Regime.Features
import Nq.Detect.Checks
import Nq.Lifecycle.Run

namespace Nq.Regime

open List
open Sql (F64 Table)

inductive RegimeBadge where
  | none_ | stable | resolving | worsening
  deriving DecidableEq, Repr

/-! ## The badge -/

section

variable (persistence : Option PersistencePayload) (recovery : Option RecoveryPayload)
  (hostResolutions : List ResolutionPayload)

def deriveRegimeBadge : RegimeBadge :=
  if recovery.any (·.recoveryLagClass = .pathological) then .worsening
  else if hostResolutions.any (·.recoveryPhase = .acute) then .worsening
  else if hostResolutions.any fun r => r.recoveryPhase = .improving ∨ r.recoveryPhase = .settling then .resolving
  else if persistence.any (·.persistenceClass = .entrenched) &&
      recovery.any fun r => r.recoveryLagClass = .normal ∨ r.recoveryLagClass = .slow then .stable
  else .none_

def badgeExplanation (badge : RegimeBadge) : Option String :=
  match badge with
  | .none_ => none
  | .worsening =>
    if recovery.any (·.recoveryLagClass = .pathological) then
      some "recovery lag is pathological against its own baseline"
    else
      match hostResolutions.find? (·.recoveryPhase = .acute) with
      | some r => some ("host " ++ r.metric ++ " under acute pressure")
      | none => some "host regime is worsening"
  | .resolving =>
    match hostResolutions.find? (·.recoveryPhase = .settling) with
    | some r => some ("host " ++ r.metric ++ " settling after prior pressure")
    | none =>
      match hostResolutions.find? (·.recoveryPhase = .improving) with
      | some r => some ("host " ++ r.metric ++ " improving")
      | none => some "host regime is resolving"
  | .stable =>
    let streak := persistence.elim 0 PersistencePayload.streakLengthGenerations
    some ("entrenched finding, recovery within baseline (" ++ toString streak ++ " gens)")

end

/-! ## Reading the rows -/

/-- `serde_json::from_str` of what was written: a number that is not finite is written as `null`, and is not read. -/
def PersistencePayload.fromJson (p : PersistencePayload) : Option PersistencePayload :=
  if p.presentRatioWindow.isFinite then some p else none

def ResolutionPayload.fromJson (p : ResolutionPayload) : Option ResolutionPayload :=
  if p.peakValue.isFinite && p.currentValue.isFinite then some p else none

def FeaturePayload.persistence? : FeaturePayload → Option PersistencePayload
  | .persistence p => p.fromJson
  | _ => none

def FeaturePayload.recovery? : FeaturePayload → Option RecoveryPayload
  | .recovery p => some p
  | _ => none

def FeaturePayload.resolution? : FeaturePayload → Option ResolutionPayload
  | .resolution p => p.fromJson
  | _ => none

def FeatureRow.about (r : FeatureRow) (subjectKind subjectId featureType : String) : Bool :=
  r.subjectKind = subjectKind && r.subjectId = subjectId && r.featureType = featureType

/-- `ORDER BY generation_id DESC LIMIT 1`. -/
def latestRow (t : FeatureTable) (subjectKind subjectId featureType : String) : Option FeatureRow :=
  Sql.firstBy (fun a b => b.generationId < a.generationId) (t.rows.filter (·.about subjectKind subjectId featureType))

/-- The row of a generation. -/
def rowOf (t : FeatureTable) (generationId : Int) (subjectKind subjectId featureType : String) : Option FeatureRow :=
  t.get (generationId, subjectKind, subjectId, featureType)

/-- What the badge of a finding is derived from, where rows are picked so. -/
structure Inputs where
  persistence : Option PersistencePayload
  recovery : Option RecoveryPayload
  hostResolutions : List ResolutionPayload

def Inputs.badge (i : Inputs) : RegimeBadge := deriveRegimeBadge i.persistence i.recovery i.hostResolutions

def inputs (pick : String → String → String → Option FeatureRow) (host kind subject : String) : Inputs where
  persistence := (pick "finding" (computeFindingKey "local" host kind subject) "persistence").bind fun r =>
    r.payload.persistence?
  recovery := (pick "finding" (computeFindingKey "local" host kind subject) "recovery").bind fun r =>
    r.payload.recovery?
  hostResolutions := ["disk_used_pct", "mem_pressure_pct", "cpu_load_1m"].filterMap fun metric =>
    (pick "host_metric" (hostMetricSubject host metric) "resolution").bind fun r => r.payload.resolution?

def computeRegimeAnnotation (t : FeatureTable) (host kind subject : String) : Option (RegimeBadge × String) :=
  let i := inputs (latestRow t) host kind subject
  match i.badge, badgeExplanation i.persistence i.recovery i.hostResolutions i.badge with
  | .none_, _ => none
  | _, none => none
  | b, some s => some (b, s)

/-- The badge shown, `none` where there is no annotation. -/
def annotatedBadge (t : FeatureTable) (host kind subject : String) : RegimeBadge :=
  match computeRegimeAnnotation t host kind subject with
  | none => .none_
  | some shown => shown.1

/-! ## Rows left over -/

/-- The newest row, where it is of another generation. -/
def leftover (t : FeatureTable) (generationId : Int) (subjectKind subjectId featureType : String) : Option FeatureRow :=
  (latestRow t subjectKind subjectId featureType).filter (·.generationId ≠ generationId)

namespace Inputs

variable (i : Inputs)

def worsens : Bool :=
  i.recovery.any (·.recoveryLagClass = .pathological) || i.hostResolutions.any (·.recoveryPhase = .acute)

def resolves : Bool := i.hostResolutions.any fun r => r.recoveryPhase = .improving ∨ r.recoveryPhase = .settling

def isStable : Bool :=
  i.persistence.any (·.persistenceClass = .entrenched) &&
    i.recovery.any fun r => r.recoveryLagClass = .normal ∨ r.recoveryLagClass = .slow

theorem badge_eq : i.badge = if i.worsens then .worsening else if i.resolves then .resolving
    else if i.isStable then .stable else .none_ := by
  unfold badge deriveRegimeBadge worsens resolves isStable
  by_cases hrecovery : i.recovery.any (·.recoveryLagClass = .pathological) = true
  · rw [if_pos hrecovery, hrecovery, Bool.true_or, if_pos rfl]
  · rw [if_neg hrecovery, eq_false_of_ne_true hrecovery, Bool.false_or]

end Inputs

/-- A leftover row adds nothing to the badge of the generation: that is worsening; or no leftover row worsens, and the
    badge is resolving; or no leftover row resolves, and with them the finding is not stable, or is so without them. -/
def Undisturbed (t : FeatureTable) (generationId : Int) (host kind subject : String) : Prop :=
  let fresh := inputs (rowOf t generationId) host kind subject
  let old := inputs (leftover t generationId) host kind subject
  fresh.worsens = true ∨ old.worsens = false ∧
    (fresh.resolves = true ∨ old.resolves = false ∧
      (fresh.isStable = true ∨ (inputs (latestRow t) host kind subject).isStable = false))

/-! ## The newest rows -/

section

variable {t : FeatureTable} {g : Int} {host kind subject : String}

theorem about_iff {r : FeatureRow} {subjectKind subjectId featureType : String} :
    r.about subjectKind subjectId featureType = true ↔
      r.subjectKind = subjectKind ∧ r.subjectId = subjectId ∧ r.featureType = featureType := by
  unfold FeatureRow.about
  rw [Bool.and_eq_true, Bool.and_eq_true, decide_eq_true_iff, decide_eq_true_iff, decide_eq_true_iff, and_assoc]

/-- The newest row is that of the generation, or there is none of that generation and it is left over. -/
theorem pick_cases (hg : ∀ r ∈ t.rows, r.generationId ≤ g) (k id f : String) :
    latestRow t k id f = rowOf t g k id f ∧ leftover t g k id f = none ∨
      rowOf t g k id f = none ∧ leftover t g k id f = latestRow t k id f := by
  unfold leftover
  cases hrow : rowOf t g k id f with
  | some r =>
    obtain ⟨hmem, hpk⟩ := Table.get_eq_some.mp hrow
    simp only [FeatureRow.pk, Prod.mk.injEq] at hpk
    have hselected : r ∈ t.rows.filter (·.about k id f) := mem_filter.mpr ⟨hmem, about_iff.mpr hpk.2⟩
    cases hlatest : latestRow t k id f with
    | none =>
      rw [Sql.firstBy_eq_none hlatest] at hselected
      cases hselected
    | some r' =>
      obtain ⟨hmem', hgreatest⟩ := Sql.firstBy_desc hlatest
      obtain ⟨hmem', habout'⟩ := mem_filter.mp hmem'
      have hle := hgreatest r hselected
      have hge := hg r' hmem'
      have hgen : r'.generationId = g := by omega
      have hsame : r' = r := by
        refine inj_on_of_nodup_map t.nodup hmem' hmem ?_
        obtain ⟨hkind, hid, htype⟩ := about_iff.mp habout'
        simp only [FeatureRow.pk, hkind, hid, htype, hgen, hpk.1, hpk.2.1, hpk.2.2.1, hpk.2.2.2]
      refine .inl ⟨by rw [hsame], ?_⟩
      simp [Option.filter, hgen]
  | none =>
    refine .inr ⟨rfl, ?_⟩
    cases hlatest : latestRow t k id f with
    | none => rfl
    | some r' =>
      obtain ⟨hmem', habout'⟩ := mem_filter.mp (Sql.firstBy_desc hlatest).1
      have hother : r'.generationId ≠ g := by
        intro hgen
        obtain ⟨hkind, hid, htype⟩ := about_iff.mp habout'
        have hget := Table.get_of_mem hmem'
        rw [FeatureRow.pk, hkind, hid, htype, hgen] at hget
        unfold rowOf at hrow
        rw [hrow] at hget
        cases hget
      simp [Option.filter, hother]

/-- What is read of the newest row is read of that of the generation or of the one left over. -/
theorem any_latest (hg : ∀ r ∈ t.rows, r.generationId ≤ g) {α : Type}
    (read : FeatureRow → Option α) (p : α → Bool) (k id f : String) :
    ((latestRow t k id f).bind read).any p =
      (((rowOf t g k id f).bind read).any p || ((leftover t g k id f).bind read).any p) := by
  rcases pick_cases hg k id f with ⟨hlatest, hnone⟩ | ⟨hnone, hlatest⟩
  · rw [hlatest, hnone]
    simp
  · rw [hlatest, hnone]
    simp

theorem any_resolutions (pick : String → String → String → Option FeatureRow) (p : ResolutionPayload → Bool) :
    (inputs pick host kind subject).hostResolutions.any p = ["disk_used_pct",
      "mem_pressure_pct", "cpu_load_1m"].any fun metric =>
      ((pick "host_metric" (hostMetricSubject host metric) "resolution").bind fun r =>
        r.payload.resolution?).any p := by
  unfold inputs
  dsimp only
  generalize ["disk_used_pct", "mem_pressure_pct", "cpu_load_1m"] = metrics
  induction metrics with
  | nil => rfl
  | cons m metrics ih =>
    rw [filterMap_cons]
    cases hpick : (pick "host_metric" (hostMetricSubject host m) "resolution").bind fun r => r.payload.resolution? with
    | none =>
      rw [any_cons, hpick, Option.any_none, Bool.false_or]
      exact ih
    | some q =>
      rw [any_cons, any_cons, hpick, ih]
      rfl

theorem any_resolutions_latest (hg : ∀ r ∈ t.rows, r.generationId ≤ g) (p : ResolutionPayload → Bool) :
    (inputs (latestRow t) host kind subject).hostResolutions.any p =
      ((inputs (rowOf t g) host kind subject).hostResolutions.any p ||
        (inputs (leftover t g) host kind subject).hostResolutions.any p) := by
  rw [any_resolutions, any_resolutions, any_resolutions]
  generalize ["disk_used_pct", "mem_pressure_pct", "cpu_load_1m"] = metrics
  induction metrics with
  | nil => rfl
  | cons m metrics ih =>
    rw [any_cons, any_cons, any_cons, ih, any_latest hg]
    simp only [Bool.or_assoc, Bool.or_left_comm]

theorem worsens_latest (hg : ∀ r ∈ t.rows, r.generationId ≤ g) : (inputs (latestRow t) host kind subject).worsens =
    ((inputs (rowOf t g) host kind subject).worsens || (inputs (leftover t g) host kind subject).worsens) := by
  unfold Inputs.worsens
  rw [any_resolutions_latest hg]
  show (Option.any _ (Option.bind _ _) || _) =
    (Option.any _ (Option.bind _ _) || _ || (Option.any _ (Option.bind _ _) || _))
  rw [any_latest hg]
  simp only [Bool.or_assoc, Bool.or_left_comm]

theorem resolves_latest (hg : ∀ r ∈ t.rows, r.generationId ≤ g) : (inputs (latestRow t) host kind subject).resolves =
    ((inputs (rowOf t g) host kind subject).resolves || (inputs (leftover t g) host kind subject).resolves) :=
  any_resolutions_latest hg _

theorem isStable_latest (hg : ∀ r ∈ t.rows, r.generationId ≤ g)
    (h : (inputs (rowOf t g) host kind subject).isStable = true) :
    (inputs (latestRow t) host kind subject).isStable = true := by
  unfold Inputs.isStable at h ⊢
  rw [Bool.and_eq_true] at h ⊢
  constructor
  · show Option.any _ (Option.bind _ _) = true
    rw [any_latest hg]
    exact Bool.or_eq_true_iff.mpr (.inl h.1)
  · show Option.any _ (Option.bind _ _) = true
    rw [any_latest hg]
    exact Bool.or_eq_true_iff.mpr (.inl h.2)

/-- Every badge but the absent one has an explanation. -/
theorem badgeExplanation_isSome (persistence : Option PersistencePayload) (recovery : Option RecoveryPayload)
    (hostResolutions : List ResolutionPayload) {b : RegimeBadge} (hb : b ≠ .none_) :
    ∃ s, badgeExplanation persistence recovery hostResolutions b = some s := by
  apply Option.isSome_iff_exists.mp
  unfold badgeExplanation
  cases b with
  | none_ => exact absurd rfl hb
  | stable => rfl
  | resolving =>
    dsimp only
    split
    · rfl
    · split <;> rfl
  | worsening =>
    dsimp only
    split
    · rfl
    · split <;> rfl

theorem annotatedBadge_eq : annotatedBadge t host kind subject = (inputs (latestRow t) host kind subject).badge := by
  unfold annotatedBadge computeRegimeAnnotation
  dsimp only
  generalize inputs (latestRow t) host kind subject = i
  by_cases hnone : i.badge = .none_
  · rw [hnone]
  · obtain ⟨s, hs⟩ := badgeExplanation_isSome i.persistence i.recovery i.hostResolutions hnone
    rw [hs]
    cases hbadge : i.badge with
    | none_ => exact absurd hbadge hnone
    | stable => rfl
    | resolving => rfl
    | worsening => rfl

/-- On a table without newer rows, the badge shown is that of the generation exactly where no leftover row disturbs
    it. -/
theorem annotatedBadge_iff (hg : ∀ r ∈ t.rows, r.generationId ≤ g) :
    annotatedBadge t host kind subject = (inputs (rowOf t g) host kind subject).badge ↔
      Undisturbed t g host kind subject := by
  have hworsens : (inputs (latestRow t) host kind subject).worsens =
      ((inputs (rowOf t g) host kind subject).worsens || (inputs (leftover t g) host kind subject).worsens) :=
        worsens_latest hg
  have hresolves : (inputs (latestRow t) host kind subject).resolves =
      ((inputs (rowOf t g) host kind subject).resolves || (inputs (leftover t g) host kind subject).resolves) :=
        resolves_latest hg
  have hstable : (inputs (rowOf t g) host kind subject).isStable = true →
      (inputs (latestRow t) host kind subject).isStable = true :=
    isStable_latest hg
  rw [annotatedBadge_eq, Inputs.badge_eq, Inputs.badge_eq]
  unfold Undisturbed
  dsimp only
  rw [hworsens, hresolves]
  generalize (inputs (rowOf t g) host kind subject) = fresh at *
  generalize (inputs (leftover t g) host kind subject) = old at *
  generalize (inputs (latestRow t) host kind subject) = latest at *
  cases fresh.worsens <;> cases old.worsens <;> cases fresh.resolves <;>
    cases old.resolves <;> cases hf : fresh.isStable <;>
    cases hl : latest.isStable <;> simp_all

end

/-! ## Runs of passes -/

/-- A pass over the tables of a generation, and the features it leaves. -/
structure FeaturePass where
  generationId : Int
  db : Db
  after : FeatureTable

/-- Passes for newer and newer generations, over whatever tables; retention removes rows between them. -/
inductive FeatureRun (floats : Floats) : List FeaturePass → FeatureTable → Prop where
  | start : FeatureRun floats [] .empty
  | pass {hist : List FeaturePass} {t : FeatureTable} (g : Int) (db : Db) : FeatureRun floats hist t →
      (∀ p ∈ hist, p.generationId < g) →
      FeatureRun floats (⟨g, db, computeFeatures floats db g t⟩ :: hist) (computeFeatures floats db g t)
  | prune {hist : List FeaturePass} {t : FeatureTable} (doomed : FeatureRow → Bool) : FeatureRun floats hist t →
      FeatureRun floats hist (t.delete doomed)

section

variable {floats : Floats} {db : Db} {g : Int} {hist : List FeaturePass} {t : FeatureTable}

theorem get_upsertFeature (r : FeatureRow) (k : Int × String × String × String) :
    (upsertFeature t r).get k = if k = r.pk then some r else t.get k := by
  unfold upsertFeature
  rw [Table.get_upsert]
  by_cases hk : k = r.pk
  · rw [if_pos hk, if_pos hk]
    cases hget : t.get k with
    | none => rfl
    | some old =>
      obtain ⟨-, hpk⟩ := Table.get_eq_some.mp hget
      rw [hk] at hpk
      simp only [FeatureRow.pk, Prod.mk.injEq] at hpk
      obtain ⟨hgeneration, hkind, hid, htype⟩ := hpk
      simp only [Option.elim_some, Option.some.injEq]
      cases old
      cases r
      simp_all
  · rw [if_neg hk, if_neg hk]

variable {r : FeatureRow}

/-- A row is as the rows written left it, or was there. -/
theorem get_foldl_upsertFeature : ∀ {rs : List FeatureRow} {t : FeatureTable},
    (rs.foldl upsertFeature t).get r.pk = some r → r ∈ rs ∨ t.get r.pk = some r
  | [], _, h => .inr h
  | r' :: rs, t, h => by
    have h : (rs.foldl upsertFeature (upsertFeature t r')).get r.pk = some r := h
    rcases get_foldl_upsertFeature h with hmem | hget
    · exact .inl (mem_cons_of_mem _ hmem)
    · rw [get_upsertFeature] at hget
      by_cases hk : r.pk = r'.pk
      · rw [if_pos hk] at hget
        cases hget
        exact .inl mem_cons_self
      · rw [if_neg hk] at hget
        exact .inr hget

theorem mem_computeFeatures (hr : r ∈ (computeFeatures floats db g t).rows) :
    r ∈ featuresOf floats db g ∨ r ∈ t.rows := by
  rcases get_foldl_upsertFeature (Table.get_of_mem hr) with hwritten | hold
  · exact .inl hwritten
  · exact .inr (Table.get_eq_some.mp hold).1

/-- A pass writes rows of its generation. -/
theorem generation_featuresOf (hr : r ∈ featuresOf floats db g) : r.generationId = g := by
  unfold featuresOf at hr
  rcases mem_append.mp hr with hr | hresolution
  · rcases mem_append.mp hr with hpersistence | hrecovery
    · obtain ⟨-, -, rfl⟩ := List.mem_map.mp hpersistence
      rfl
    · obtain ⟨-, -, rfl⟩ := List.mem_map.mp hrecovery
      rfl
  · obtain ⟨host, -, hr⟩ := mem_flatMap.mp hresolution
    obtain ⟨m, -, hr⟩ := mem_filterMap.mp hr
    obtain ⟨p, -, rfl⟩ := Option.map_eq_some_iff.mp hr
    rfl

/-- Every row is of a generation that was passed. -/
theorem generation_of_run (h : FeatureRun floats hist t) :
    ∀ r ∈ t.rows, ∃ p ∈ hist, r.generationId = p.generationId := by
  induction h with
  | start =>
    intro r hr
    cases hr
  | pass g db _ _ ih =>
    intro r hr
    rcases mem_computeFeatures hr with hwritten | hold
    · exact ⟨_, mem_cons_self, generation_featuresOf hwritten⟩
    · obtain ⟨p, hp, hgeneration⟩ := ih r hold
      exact ⟨p, mem_cons_of_mem _ hp, hgeneration⟩
  | prune doomed _ ih => exact fun r hr => ih r (mem_filter.mp hr).1

/-- A pass leaves no newer row, and of its own generation what it writes. -/
theorem pass_of_run (h : FeatureRun floats hist t) : ∀ p ∈ hist, ∀ r ∈ p.after.rows,
    r.generationId ≤ p.generationId ∧ (r.generationId = p.generationId →
      r ∈ featuresOf floats p.db p.generationId) := by
  induction h with
  | start =>
    intro p hp
    cases hp
  | pass g db hrun hfresh ih =>
    intro p hp r hr
    rcases mem_cons.mp hp with rfl | hp
    · rcases mem_computeFeatures hr with hwritten | hold
      · exact ⟨(generation_featuresOf hwritten).le, fun _ => hwritten⟩
      · obtain ⟨q, hq, hgeneration⟩ := generation_of_run hrun r hold
        have hlt := hfresh q hq
        dsimp only at hlt ⊢
        omega
    · exact ih p hp r hr
  | prune _ _ ih => exact ih

/-- The badge shown after a pass is the one of its generation, exactly where no row left over from an older one
    disturbs it. -/
theorem annotation_iff {p : FeaturePass} (h : FeatureRun floats hist t) (hp : p ∈ hist) (host kind subject : String) :
    annotatedBadge p.after host kind subject = (inputs (rowOf p.after p.generationId) host kind subject).badge ↔
      Undisturbed p.after p.generationId host kind subject :=
  annotatedBadge_iff fun r hr => (pass_of_run h p hp r hr).1

end

/-! ## A disk that empties, and fills up again -/

/-- Arithmetic without rounding; no square root is taken where a slope is steep. -/
def exactFloats : Floats where
  toArith := exactArith
  sub
    | .fin a, .fin b => .fin (a - b)
    | _, _ => .nan
  sqrt x := x

/-- A disk that fills up to `used` after emptying from 20 to 11 percent. -/
def refilled (used : F64) : List (History HostRow) :=
  [(1, 20), (2, 19), (3, 18), (4, 17), (5, 16), (6, 15), (7, 14),
    (8, 13), (9, 12), (10, 11), (11, used)].map fun s : Int × F64 =>
    ⟨s.1, "web", { diskUsedPct := some s.2 }⟩

def emptying : Db := { Db.init with hostsHistory := ⟨(refilled 30).take 10, by decide⟩ }

def refilling : Db := { Db.init with hostsHistory := ⟨refilled 30, by decide⟩ }

def emptied : FeaturePass := ⟨10, emptying, computeFeatures exactFloats emptying 10 .empty⟩

def full : FeaturePass := ⟨11, refilling, computeFeatures exactFloats refilling 11 emptied.after⟩

theorem run_full : FeatureRun exactFloats [full, emptied] full.after :=
  .pass 11 refilling (.pass 10 emptying .start nofun) fun p hp => by
    rw [mem_singleton.mp hp]
    decide

theorem badges_full : annotatedBadge full.after "web" "disk_pressure" "" = .resolving ∧
    (inputs (rowOf full.after 11) "web" "disk_pressure" "").badge = .none_ := by
  decide +kernel

/-- A metric that was improving when it was last under less pressure is at its peak again; it has no row of its own
    generation, and the badge of the host's findings is read from the older one. -/
theorem a_metric_back_at_its_peak_is_resolving :
    ∃ floats hist t p host kind subject, FeatureRun floats hist t ∧ p ∈ hist ∧
    annotatedBadge p.after host kind subject = .resolving ∧
      (inputs (rowOf p.after p.generationId) host kind subject).badge = .none_ :=
  ⟨exactFloats, [full, emptied], full.after, full, "web", "disk_pressure", "", run_full, mem_cons_self, badges_full⟩

/-- While the disk empties, the badge is that of its generation. -/
theorem an_emptying_disk_is_resolving : ∃ floats hist t p host kind subject, FeatureRun floats hist t ∧ p ∈ hist ∧
    annotatedBadge p.after host kind subject = (inputs (rowOf p.after p.generationId) host kind subject).badge := by
  have hrun : FeatureRun exactFloats [emptied] emptied.after := .pass 10 emptying .start nofun
  refine ⟨exactFloats, [emptied], emptied.after, emptied, "web", "disk_pressure", "", hrun, mem_cons_self, ?_⟩
  exact (annotation_iff hrun mem_cons_self "web" "disk_pressure" "").mpr (.inr (by decide +kernel))

end Nq.Regime
