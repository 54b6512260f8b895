/-
  Nq.Lifecycle.Lineage — the lineage counters of a generation (`publish.rs`,
  `update_warning_state_inner`).

  The counters are written behind the collector, and the declaration overlay then still hides
  rows and brings others back. The two counters of what was recorded are right after every
  commit; that of the hidden rows is exactly when the overlay hides as many rows as it brings
  back (`lineage_iff`), both of them read off the state before the call (`gained`, `lost`).

  - `a_withdrawn_host_is_not_counted`.
-/

import Mathlib.Data.Finset.Card
import Nq.Lifecycle.Collector
import Nq.Lifecycle.Suppression

namespace Nq

open List
open Sql (Table)

/-! ## What the counters say -/

/-- The observations a call has added. -/
def addedObservations (db db' : Db) : List ObservationRow :=
  db'.findingObservations.rows.filter (· ∉ db.findingObservations.rows)

def WarningState.suppressedRows (t : WarningState) : List WarningRow := t.rows.filter (·.visibilityState = .suppressed)

/-- The counters of a generation describe what the call has left. -/
structure GenerationRow.Describes (g : GenerationRow) (db db' : Db) : Prop where
  suppressed : g.findingsSuppressed = db'.warningState.suppressedRows.length
  observed : g.findingsObserved = (addedObservations db db').length
  detectors : g.detectorsRun = ((addedObservations db db').map ObservationRow.detectorId).dedup.length

/-! ## What the overlay changes -/

/-- The row of `k` is observed after the recovery loop. -/
def UpdateCall.shows (u : UpdateCall) (db : Db) (k : FindingId) : Bool :=
  k ∈ u.emittedIds db || ((u.masked db k.host k.kind).isNone && (db.warningState.get k).any fun r =>
    r.visibilityState = .observed ∧ r.absentGens + 1 < recoveryWindow)

/-- The row of `k` is still hidden after the recovery loop, by a declaration that is no longer active. -/
def UpdateCall.lapses (u : UpdateCall) (db : Db) (k : FindingId) : Bool :=
  k ∉ u.emittedIds db && (u.masked db k.host k.kind).isNone && (db.warningState.get k).any fun r =>
    r.visibilityState = .suppressed ∧ r.absentGens + 1 < recoveryWindow ∧ r.isOrphan u.activeIds

/-- The generations the entity of `k` has been gone for once the collector has counted. -/
def Db.goneCount (db : Db) (k : FindingId) (v : Visibility) : Int :=
  let gone := (db.warningState.get k).elim 0 WarningRow.entityGoneGens
  if k.host ≠ "" ∧ k.host ∈ db.presentHosts then 0
  else if k.host ≠ "" ∧ v = .observed ∧ k.host ∉ db.knownHosts then gone + 1
  else gone

/-- The identities a row may stand under. -/
def UpdateCall.identities (u : UpdateCall) (db : Db) : Finset FindingId :=
  (u.emittedIds db ++ db.warningState.rows.map WarningRow.id).toFinset

/-- The observed rows the overlay hides. -/
def UpdateCall.gained (u : UpdateCall) (db : Db) : Finset FindingId :=
  (u.identities db).filter fun k =>
    u.withdrawn k.host = true ∧ u.shows db k = true ∧ db.goneCount k .observed ≤ entityGcThreshold

/-- The hidden rows the overlay brings back. -/
def UpdateCall.lost (u : UpdateCall) (db : Db) : Finset FindingId :=
  (u.identities db).filter fun k =>
    u.withdrawn k.host = false ∧ u.lapses db k = true ∧ db.goneCount k .suppressed ≤ entityGcThreshold

/-! ## Rows behind the recovery loop -/

section

variable {u : UpdateCall} {db db' : Db} {k : FindingId} {r r' : WarningRow}

theorem get_run_finish (h : u.run db = .ok db') (k : FindingId) :
    db'.warningState.get k = ((u.afterRecovery db).get k).bind (u.finish db) := by
  obtain ⟨_, db₁, h₁, rfl⟩ := run_eq_ok.mp h
  have hmask : (setStabilities (u.cycle db) db₁ (u.emitted db)).warningState = u.atMasking db := by
    unfold UpdateCall.atMasking
    rw [h₁]
  have hmet : (u.afterRecovery db).get k =
      ((u.atMasking db).get k).bind fun r => if k ∈ u.emittedIds db then some r else u.settle db r :=
    (emission_atMasking h).get_recover k
  rw [get_afterRecording (recordFindings_recorded h₁), hmask, hmet, Option.bind_assoc]

theorem goneAfter_afterRecovery (h : u.run db = .ok db') (hr : (u.afterRecovery db).get k = some r) :
    db.goneAfter r = db.goneCount k r.visibilityState := by
  have hhost : r.host = k.host := congrArg FindingId.host (Table.key_of_get hr)
  unfold Db.goneAfter Db.goneCount
  rw [hhost, gone_afterRecovery h hr]

theorem emitted_afterRecovery (h : u.run db = .ok db') (hk : k ∈ u.emittedIds db) :
    ∃ r, (u.afterRecovery db).get k = some r ∧ r.visibilityState = .observed := by
  have hem := emission_atMasking h
  obtain ⟨f, hf, rfl⟩ := List.mem_map.mp hk
  obtain ⟨s, hs⟩ := hem.emitted f hf
  refine ⟨(emittedRow (u.cycle db) (db.warningState.get f.id) f).setStability s, ?_, visibilityState_emittedRow _ _ _⟩
  unfold UpdateCall.afterRecovery
  rw [hem.get_recover, hs, Option.bind_some, if_pos hk]

theorem absent_afterRecovery (h : u.run db = .ok db') (hk : k ∉ u.emittedIds db) :
    (u.afterRecovery db).get k = (db.warningState.get k).bind (u.settle db) := by
  have hem := emission_atMasking h
  unfold UpdateCall.afterRecovery
  rw [hem.get_recover, hem.absent k hk]
  refine congrArg _ (funext fun r => ?_)
  rw [if_neg hk]

/-- What the recovery loop leaves of a row that was not emitted. -/
theorem settle_cases (hr : db.warningState.get k = some r) :
    (∃ reason, u.masked db k.host k.kind = some reason ∧ u.settle db r = some (r.suppress reason u.generationId)) ∨
    (u.masked db k.host k.kind = none ∧ r.absentGens + 1 < recoveryWindow ∧ u.settle db r = some r.incAbsent) ∨
    (u.masked db k.host k.kind = none ∧ ¬ r.absentGens + 1 < recoveryWindow ∧ u.settle db r = none) := by
  have hid : r.id = k := Table.key_of_get hr
  subst hid
  have hreason : u.masked db r.id.host r.id.kind = u.masked db r.host r.kind := rfl
  unfold UpdateCall.settle
  rw [hreason]
  cases hm : u.masked db r.host r.kind with
  | some reason => exact .inl ⟨reason, rfl, rfl⟩
  | none =>
    by_cases ha : r.absentGens + 1 < recoveryWindow
    · exact .inr (.inl ⟨rfl, ha, if_neg (by omega)⟩)
    · exact .inr (.inr ⟨rfl, ha, if_pos (by omega)⟩)

theorem shows_iff (h : u.run db = .ok db') :
    (∃ r, (u.afterRecovery db).get k = some r ∧ r.visibilityState = .observed) ↔ u.shows db k = true := by
  unfold UpdateCall.shows
  by_cases hk : k ∈ u.emittedIds db
  · simp only [emitted_afterRecovery h hk, hk, decide_true, Bool.true_or]
  · rw [absent_afterRecovery h hk]
    cases hget : db.warningState.get k with
    | none => simp [hk]
    | some r =>
      rw [Option.bind_some]
      rcases settle_cases (u := u) hget with ⟨reason, hm, hs⟩ | ⟨hm, ha, hs⟩ | ⟨hm, ha, hs⟩
      · simp [hk, hm, hs, WarningRow.suppress]
      · simp [hk, hm, hs, ha, WarningRow.incAbsent]
      · simp [hk, hm, hs, ha]

theorem lapses_iff (h : u.run db = .ok db') :
    (∃ r, (u.afterRecovery db).get k = some r ∧ r.visibilityState = .suppressed ∧ r.isOrphan u.activeIds = true) ↔
      u.lapses db k = true := by
  unfold UpdateCall.lapses
  by_cases hk : k ∈ u.emittedIds db
  · obtain ⟨r, hr, hv⟩ := emitted_afterRecovery h hk
    simp [hr, hv, hk]
  · rw [absent_afterRecovery h hk]
    cases hget : db.warningState.get k with
    | none => simp
    | some r =>
      rw [Option.bind_some]
      rcases settle_cases (u := u) hget with ⟨reason, hm, hs⟩ | ⟨hm, ha, hs⟩ | ⟨hm, ha, hs⟩
      · simp [hm, hs, WarningRow.suppress, WarningRow.isOrphan]
      · simp [hk, hm, hs, ha, WarningRow.incAbsent, WarningRow.isOrphan]
      · simp [hm, hs, ha]

/-- The overlay hides the rows of a withdrawn host, and brings back the orphans of the others. -/
theorem finish_suppressed (h : u.finish db r = some r') : r'.visibilityState = .suppressed ↔
    u.withdrawn r.host = true ∨ r.visibilityState = .suppressed ∧ r.isOrphan u.activeIds = false := by
  rcases finish_marks h with ⟨d, hd, hw, hm⟩ | ⟨hnone, hm⟩
  · have hv : r'.visibilityState = .suppressed := congrArg Marks.visibility hm
    exact iff_of_true hv (.inl (any_eq_true.mpr ⟨d, hd, hw⟩))
  · have hv : r'.visibilityState = (r.revoke u.activeIds).visibilityState := congrArg Marks.visibility hm
    rw [hv, withdrawn_false hnone]
    unfold WarningRow.revoke
    by_cases ho : r.isOrphan u.activeIds = true
    · simp [ho, WarningRow.clearSuppression]
    · simp [ho]

theorem identities_of_afterRecovery (h : u.run db = .ok db') (hr : (u.afterRecovery db).get k = some r) :
    k ∈ u.identities db := by
  unfold UpdateCall.identities
  rw [mem_toFinset, mem_append]
  by_cases hk : k ∈ u.emittedIds db
  · exact .inl hk
  · rw [absent_afterRecovery h hk] at hr
    obtain ⟨r₀, hr₀, _⟩ := Option.bind_eq_some_iff.mp hr
    exact .inr (List.mem_map.mpr ⟨r₀, Table.mem_of_get hr₀, Table.key_of_get hr₀⟩)

end

/-! ## The count of hidden rows -/

def WarningState.suppressedIds (t : WarningState) : Finset FindingId := (t.suppressedRows.map WarningRow.id).toFinset

theorem WarningState.card_suppressedIds (t : WarningState) : t.suppressedIds.card = t.suppressedRows.length := by
  unfold WarningState.suppressedIds WarningState.suppressedRows
  rw [toFinset_card_of_nodup ((filter_sublist.map _).nodup t.nodup), length_map]

theorem WarningState.mem_suppressedIds {t : WarningState} {k : FindingId} :
    k ∈ t.suppressedIds ↔ ∃ r, t.get k = some r ∧ r.visibilityState = .suppressed := by
  unfold WarningState.suppressedIds WarningState.suppressedRows
  simp only [mem_toFinset, List.mem_map, mem_filter, decide_eq_true_eq, Table.get_eq_some]
  constructor
  · rintro ⟨r, ⟨hr, hv⟩, hid⟩
    exact ⟨r, ⟨hr, hid⟩, hv⟩
  · rintro ⟨r, ⟨hr, hid⟩, hv⟩
    exact ⟨r, ⟨hr, hv⟩, hid⟩

section

variable {u : UpdateCall} {db db' : Db}

theorem marks_collected {known present : List String} {r r' : WarningRow} (h : collected known present r = some r') :
    r'.marks = r.marks := by
  unfold collected at h
  simp only at h
  split at h
  · cases h
  · cases h
    rw [marks_resetGone, marks_countGone]

/-- The rows the counter sees. -/
theorem mem_counted (k : FindingId) : k ∈ WarningState.suppressedIds (u.afterCollection db) ↔
    ∃ r, (u.afterRecovery db).get k = some r ∧ db.goneAfter r ≤ entityGcThreshold ∧
      r.visibilityState = .suppressed := by
  rw [WarningState.mem_suppressedIds, get_afterCollection]
  have hvisible : ∀ {r r' : WarningRow}, collected db.knownHosts db.presentHosts (r.expireWork u.clock.lifecycle) =
    some r' → r'.visibilityState = r.visibilityState := by
    intro r r' h
    have hmarks : r'.marks = r.marks := (marks_collected h).trans (marks_expireWork _ r)
    exact congrArg Marks.visibility hmarks
  constructor
  · rintro ⟨r', hr', hv⟩
    obtain ⟨e, he, hc⟩ := Option.bind_eq_some_iff.mp hr'
    obtain ⟨r, hr, rfl⟩ := Option.map_eq_some_iff.mp he
    exact ⟨r, hr, (collected_eq hc).2, (hvisible hc).symm.trans hv⟩
  · rintro ⟨r, hr, hg, hv⟩
    cases hc : collected db.knownHosts db.presentHosts (r.expireWork u.clock.lifecycle) with
    | none => exact absurd (collected_eq_none.mp hc) (by omega)
    | some r' => exact ⟨r', by rw [hr]; exact hc, (hvisible hc).trans hv⟩

/-- The rows the call leaves. -/
theorem mem_left (h : u.run db = .ok db') (k : FindingId) : k ∈ WarningState.suppressedIds db'.warningState ↔
    ∃ r, (u.afterRecovery db).get k = some r ∧ db.goneAfter r ≤ entityGcThreshold ∧
      (u.withdrawn k.host = true ∨ r.visibilityState = .suppressed ∧ r.isOrphan u.activeIds = false) := by
  rw [WarningState.mem_suppressedIds, get_run_finish h]
  constructor
  · rintro ⟨r', hr', hv⟩
    obtain ⟨r, hr, hfin⟩ := Option.bind_eq_some_iff.mp hr'
    have hhost : r.host = k.host := congrArg FindingId.host (Table.key_of_get hr)
    exact ⟨r, hr, (finish_eq_some hfin).1, hhost ▸ (finish_suppressed hfin).mp hv⟩
  · rintro ⟨r, hr, hg, hv⟩
    obtain ⟨r', hfin⟩ := Option.isSome_iff_exists.mp (finish_isSome.mpr hg)
    have hhost : r.host = k.host := congrArg FindingId.host (Table.key_of_get hr)
    exact ⟨r', by rw [hr]; exact hfin, (finish_suppressed hfin).mpr (hhost ▸ hv)⟩

theorem gained_eq (h : u.run db = .ok db') :
    WarningState.suppressedIds db'.warningState \ WarningState.suppressedIds (u.afterCollection db) = u.gained db := by
  ext k
  rw [Finset.mem_sdiff, mem_left h, mem_counted]
  unfold UpdateCall.gained
  rw [Finset.mem_filter]
  constructor
  · rintro ⟨⟨r, hr, hg, hv⟩, hnot⟩
    have hobserved : r.visibilityState = .observed := by
      cases hvis : r.visibilityState with
      | observed => rfl
      | suppressed => exact absurd ⟨r, hr, hg, hvis⟩ hnot
    rw [goneAfter_afterRecovery h hr, hobserved] at hg
    refine ⟨identities_of_afterRecovery h hr, ?_, (shows_iff h).mp ⟨r, hr, hobserved⟩, hg⟩
    rcases hv with hv | ⟨hv, _⟩
    · exact hv
    · rw [hv] at hobserved
      cases hobserved
  · rintro ⟨_, hw, hshows, hg⟩
    obtain ⟨r, hr, hv⟩ := (shows_iff h).mpr hshows
    refine ⟨⟨r, hr, by rw [goneAfter_afterRecovery h hr, hv]; exact hg, .inl hw⟩, ?_⟩
    rintro ⟨r', hr', _, hv'⟩
    cases hr.symm.trans hr'
    rw [hv] at hv'
    cases hv'

theorem lost_eq (h : u.run db = .ok db') :
    WarningState.suppressedIds (u.afterCollection db) \ WarningState.suppressedIds db'.warningState = u.lost db := by
  ext k
  rw [Finset.mem_sdiff, mem_left h, mem_counted]
  unfold UpdateCall.lost
  rw [Finset.mem_filter]
  constructor
  · rintro ⟨⟨r, hr, hg, hv⟩, hnot⟩
    have hw : u.withdrawn k.host = false := Bool.eq_false_iff.mpr fun hw => hnot ⟨r, hr, hg, .inl hw⟩
    have ho : r.isOrphan u.activeIds = true := by
      by_contra ho
      exact hnot ⟨r, hr, hg, .inr ⟨hv, by simpa using ho⟩⟩
    rw [goneAfter_afterRecovery h hr, hv] at hg
    exact ⟨identities_of_afterRecovery h hr, hw, (lapses_iff h).mp ⟨r, hr, hv, ho⟩, hg⟩
  · rintro ⟨_, hw, hlapses, hg⟩
    obtain ⟨r, hr, hv, ho⟩ := (lapses_iff h).mpr hlapses
    refine ⟨⟨r, hr, by rw [goneAfter_afterRecovery h hr, hv]; exact hg, hv⟩, ?_⟩
    rintro ⟨r', hr', _, hv'⟩
    cases hr.symm.trans hr'
    rcases hv' with hv' | ⟨_, hv'⟩
    · rw [hw] at hv'
      cases hv'
    · rw [ho] at hv'
      cases hv'

/-- The counter is right where the overlay hides as many rows as it brings back. -/
theorem counted_iff (h : u.run db = .ok db') :
    (WarningState.suppressedRows (u.afterCollection db)).length =
      (WarningState.suppressedRows db'.warningState).length ↔
      (u.gained db).card = (u.lost db).card := by
  rw [← WarningState.card_suppressedIds, ← WarningState.card_suppressedIds, ← gained_eq h, ← lost_eq h]
  generalize WarningState.suppressedIds (u.afterCollection db) = counted
  generalize WarningState.suppressedIds db'.warningState = left
  have hc := Finset.card_sdiff_add_card_inter counted left
  have hl := Finset.card_sdiff_add_card_inter left counted
  rw [Finset.inter_comm] at hl
  omega

end

/-! ## The two counters of what was recorded -/

section

variable {u : UpdateCall} {db db' : Db}

theorem mem_addedObservations (h : Updated u db db') {o : ObservationRow} : o ∈ addedObservations db db' ↔
    ∃ f ∈ u.emitted db, o = observationOf (u.cycle db) f (severityOf (u.cycle db) (db.warningState.get f.id) f) := by
  have hadded : o ∈ addedObservations db db' ↔
      db'.findingObservations.get o.pk = some o ∧ ¬ db.findingObservations.get o.pk = some o := by
    unfold addedObservations
    rw [mem_filter, decide_eq_true_eq, Table.get_eq_some, Table.get_eq_some]
    simp
  rw [hadded, h.observations]
  cases hfind : (u.emitted db).find? fun f => (u.generationId, f.key) = o.pk with
  | none =>
    refine iff_of_false (fun h => h.2 h.1) ?_
    rintro ⟨f, hf, rfl⟩
    have hne : ¬ (u.generationId, f.key) = (u.generationId, f.key) := by
      simpa [observationOf, ObservationRow.pk, UpdateCall.cycle] using find?_eq_none.mp hfind f hf
    exact hne rfl
  | some f =>
    have hf := mem_of_find?_eq_some hfind
    have hkey : (u.generationId, f.key) = o.pk := by simpa using find?_some hfind
    rw [Option.elim_some, Option.some.injEq, ← hkey, h.unrecorded f hf]
    constructor
    · rintro ⟨ho, _⟩
      exact ⟨f, hf, ho.symm⟩
    · rintro ⟨f', hf', rfl⟩
      have hsame : f.key = f'.key := (Prod.mk.inj hkey).2
      rw [inj_on_of_nodup_map h.nodup hf hf' (Finding.key_eq_iff.mp hsame)]
      exact ⟨rfl, fun e => by cases e⟩

/-- One observation is added for each finding. -/
theorem added_perm (h : Updated u db db') : (addedObservations db db').Perm ((u.emitted db).map fun f =>
    observationOf (u.cycle db) f (severityOf (u.cycle db) (db.warningState.get f.id) f)) := by
  have hadded : (addedObservations db db').Nodup :=
    filter_sublist.nodup (List.Nodup.of_map ObservationRow.pk db'.findingObservations.nodup)
  have hemitted : ((u.emitted db).map fun f =>
      observationOf (u.cycle db) f (severityOf (u.cycle db) (db.warningState.get f.id) f)).Nodup := by
    refine (List.Nodup.of_map Finding.id h.nodup).map_on ?_
    intro f hf f' hf' e
    have hkey : f.key = f'.key := congrArg ObservationRow.findingKey e
    exact inj_on_of_nodup_map h.nodup hf hf' (Finding.key_eq_iff.mp hkey)
  refine (perm_ext_iff_of_nodup hadded hemitted).mpr fun o => ?_
  rw [mem_addedObservations h, List.mem_map]
  exact ⟨fun ⟨f, hf, ho⟩ => ⟨f, hf, ho.symm⟩, fun ⟨f, hf, ho⟩ => ⟨f, hf, ho.symm⟩⟩

theorem lineage_of_run (h : u.run db = .ok db') {g : GenerationRow} (hg : db'.generations.get u.generationId = some g) :
    g.findingsObserved = (u.emitted db).length ∧ g.detectorsRun = ((u.emitted db).map Finding.kind).dedup.length ∧
      g.findingsSuppressed = (WarningState.suppressedRows (u.afterCollection db)).length := by
  obtain ⟨_, db₁, h₁, rfl⟩ := run_eq_ok.mp h
  have hmask : (setStabilities (u.cycle db) db₁ (u.emitted db)).warningState = u.atMasking db := by
    unfold UpdateCall.atMasking
    rw [h₁]
  have hframe := frame_of_recorded (recordFindings_recorded h₁)
  unfold afterRecording at hg
  simp only [recordLineage, Table.get_updateKey, if_true] at hg
  obtain ⟨g₀, _, rfl⟩ := Option.map_eq_some_iff.mp hg
  refine ⟨rfl, rfl, ?_⟩
  show Int.ofNat _ = Int.ofNat _
  refine congrArg (fun t : WarningState => Int.ofNat t.suppressedRows.length) ?_
  unfold UpdateCall.afterCollection UpdateCall.afterRecovery
  rw [← hmask]
  generalize setStabilities (u.cycle db) db₁ (u.emitted db) = db₂ at hframe ⊢
  rw [hframe]
  rfl

end

/-- After a commit the counters of its generation describe what it has left, exactly when the overlay hides as many
    observed rows as it brings back. -/
theorem lineage_iff {u : UpdateCall} {db db' : Db} {g : GenerationRow} (h : u.run db = .ok db')
    (hg : db'.generations.get u.generationId = some g) : g.Describes db db' ↔
      (u.gained db).card = (u.lost db).card := by
  obtain ⟨hobserved, hdetectors, hsuppressed⟩ := lineage_of_run h hg
  have hperm := added_perm (run_updated h)
  rw [← counted_iff h]
  constructor
  · intro hd
    exact Int.ofNat_inj.mp (hsuppressed.symm.trans hd.suppressed)
  · intro hc
    refine ⟨hsuppressed.trans (congrArg Int.ofNat hc), ?_, ?_⟩
    · rw [hobserved, hperm.length_eq, length_map]
    · have hkinds : ((addedObservations db db').map ObservationRow.detectorId).Perm
          ((u.emitted db).map Finding.kind) := by
        refine (hperm.map ObservationRow.detectorId).trans ?_
        rw [map_map]
        rfl
      rw [hdetectors, hkinds.dedup.length_eq]

/-! ## A withdrawn host -/

/-- The first finding on a withdrawn host: the generation counts no hidden row, and leaves one. -/
theorem a_withdrawn_host_is_not_counted : ∃ db db' g, Reach (fun _ => .error "") db ∧ withdrawnCall.run db = .ok db' ∧
    db'.generations.get withdrawnCall.generationId = some g ∧ g.findingsSuppressed = 0 ∧
      db'.warningState.suppressedRows.length = 1 ∧ ¬ g.Describes db db' := by
  have h : (withdrawnCall.run (Db.published 1)).toOption.map (fun db' =>
      (db'.generations.get withdrawnCall.generationId).map fun g =>
        (g.findingsSuppressed, db'.warningState.suppressedRows.length)) = some (some (0, 1)) := by decide +kernel
  obtain ⟨db', hrun, hread⟩ := Sql.ok_of_toOption h
  obtain ⟨g, hg, hcounts⟩ := Option.map_eq_some_iff.mp hread
  obtain ⟨hzero, hone⟩ := Prod.mk.inj hcounts
  refine ⟨_, db', g, .init rfl, hrun, hg, hzero, hone, fun hd => ?_⟩
  have hsuppressed := hd.suppressed
  rw [hzero, hone] at hsuppressed
  cases hsuppressed

/-- Without declarations nothing is hidden or brought back. -/
theorem a_stray_finding_is_counted : ∃ db' g, (strayCall 1).run (Db.published 1) = .ok db' ∧
    db'.generations.get (strayCall 1).generationId = some g ∧ g.Describes (Db.published 1) db' := by
  have h : ((strayCall 1).run (Db.published 1)).toOption.map (fun db' =>
      (db'.generations.get (strayCall 1).generationId).isSome) = some true := by decide +kernel
  obtain ⟨db', hrun, hread⟩ := Sql.ok_of_toOption h
  obtain ⟨g, hg⟩ := Option.isSome_iff_exists.mp hread
  exact ⟨db', g, hrun, hg, (lineage_iff hrun hg).mpr (by decide +kernel)⟩

end Nq
