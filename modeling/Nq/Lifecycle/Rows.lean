/-
  Nq.Lifecycle.Rows — what the passes of a lifecycle update do to the columns of a row.

  After the recovery loop a row's columns fall into groups, each written by one pass: the
  work state (expiry), `entity_gone_gens` (the collector), the suppression marks (the
  declaration overlay) and the maintenance annotation. Everything else is the row's core
  and is kept (`finish_core`).
  - `finish_isSome`, `finish_gone`: the collector decides whether the row stays;
  - `finish_marks`: a withdrawn host's rows carry the declaration, other rows keep their
    marks unless the pre-pass clears them.
-/

import Nq.Lifecycle.Spec

namespace Nq

open List

/-! ## The core -/

/-- The columns no pass after the recovery loop writes; the others are blanked. -/
def WarningRow.core (r : WarningRow) : WarningRow :=
  { r with
    entityGoneGens := 0
    visibilityState := .observed, suppressionKind := none, suppressionReason := none
    suppressionDeclarationId := none, suppressedSinceGen := none
    workState := .new, workStateAt := none, acknowledged := false, acknowledgedAt := none, ackExpiresAt := none
    maintenanceState := .none_, maintenanceId := none }

/-- The five suppression columns. -/
structure Marks where
  visibility : Visibility
  kind : Option SuppressionKind
  reason : Option SuppressionReason
  declarationId : Option String
  since : Option Int
  deriving DecidableEq, Repr

def WarningRow.marks (r : WarningRow) : Marks :=
  ⟨r.visibilityState, r.suppressionKind, r.suppressionReason, r.suppressionDeclarationId, r.suppressedSinceGen⟩

variable (now : String) (known present ids : List String) (g : Int) (decls : List MaintenanceDeclaration) (c : Cycle)
  (prev : Option WarningRow) (f : Finding) (ds : List Declaration)

@[simp] theorem core_expireWork (r : WarningRow) : (r.expireWork now).core = r.core := by
  unfold WarningRow.expireWork; split <;> rfl
@[simp] theorem core_countGone (r : WarningRow) : (r.countGone known).core = r.core := by
  unfold WarningRow.countGone; split <;> rfl
@[simp] theorem core_resetGone (r : WarningRow) : (r.resetGone present).core = r.core := by
  unfold WarningRow.resetGone; split <;> rfl
@[simp] theorem core_revoke (r : WarningRow) : (r.revoke ids).core = r.core := by
  unfold WarningRow.revoke; split <;> rfl
@[simp] theorem core_withdraw (d : Declaration) (r : WarningRow) : (r.withdraw g d).core = r.core := by
  unfold WarningRow.withdraw; split <;> rfl
@[simp] theorem core_maintain (now : String) (r : WarningRow) : (r.maintain decls now).core = r.core := by
  unfold WarningRow.maintain
  split
  · rfl
  · split
    · rfl
    · split <;> rfl

@[simp] theorem marks_expireWork (r : WarningRow) : (r.expireWork now).marks = r.marks := by
  unfold WarningRow.expireWork; split <;> rfl
@[simp] theorem marks_countGone (r : WarningRow) : (r.countGone known).marks = r.marks := by
  unfold WarningRow.countGone; split <;> rfl
@[simp] theorem marks_resetGone (r : WarningRow) : (r.resetGone present).marks = r.marks := by
  unfold WarningRow.resetGone; split <;> rfl
@[simp] theorem marks_maintain (now : String) (r : WarningRow) : (r.maintain decls now).marks = r.marks := by
  unfold WarningRow.maintain
  split
  · rfl
  · split
    · rfl
    · split <;> rfl

theorem core_suppress (reason : SuppressionReason) (g : Int)
    (r : WarningRow) : (r.suppress reason g).core = r.core := rfl

theorem host_of_core {r r' : WarningRow} (h : r'.core = r.core) : r'.host = r.host := congrArg (·.host) h

/-! ## The upserted row -/

theorem lastSeenGen_emittedRow : (emittedRow c prev f).lastSeenGen = c.generationId := by
  cases prev <;> rfl

theorem absentGens_emittedRow : (emittedRow c prev f).absentGens = 0 := by
  cases prev <;> rfl

theorem consecutiveGens_emittedRow :
    (emittedRow c prev f).consecutiveGens = prev.elim 1 (caseConsecutive · c.generationId f.ruleHash) := by
  cases prev <;> rfl

theorem ruleHash_emittedRow : (emittedRow c prev f).ruleHash = f.ruleHash := by
  cases prev <;> rfl

theorem entityGoneGens_emittedRow : (emittedRow c prev f).entityGoneGens = prev.elim 0 WarningRow.entityGoneGens := by
  cases prev <;> rfl

/-- Revival clears the visibility, the reason and the generation, and leaves the kind and
    the declaration as they were. -/
theorem marks_emittedRow :
    (emittedRow c prev f).marks =
      ⟨.observed, prev.bind WarningRow.suppressionKind, none, prev.bind WarningRow.suppressionDeclarationId, none⟩ := by
  cases prev <;> rfl

/-! ## The declaration overlay -/

/-- One turn of the apply loop. -/
def WarningRow.declared (g : Int) (r : WarningRow) (d : Declaration) : WarningRow :=
  if d.withdraws r.host then r.withdraw g d else r

theorem core_declared (r : WarningRow) (d : Declaration) : (r.declared g d).core = r.core := by
  unfold WarningRow.declared; split <;> simp

theorem core_foldl_declared :
    ∀ r : WarningRow, (ds.foldl (WarningRow.declared g) r).core = r.core := by
  induction ds with
  | nil => intro r; rfl
  | cons d ds ih => intro r; rw [foldl_cons, ih, core_declared]

theorem entityGoneGens_foldl_declared :
    ∀ r : WarningRow, (ds.foldl (WarningRow.declared g) r).entityGoneGens = r.entityGoneGens := by
  induction ds with
  | nil => intro r; rfl
  | cons d ds ih =>
    intro r
    rw [foldl_cons, ih]
    unfold WarningRow.declared WarningRow.withdraw
    split
    · split <;> rfl
    · rfl

theorem core_overlaid (active : List Declaration) (r : WarningRow) : (overlaid g active r).core = r.core :=
  (core_foldl_declared g active _).trans (core_revoke _ r)

theorem foldl_declared_of_not :
    ∀ r : WarningRow, (∀ d ∈ ds, d.withdraws r.host = false) → ds.foldl (WarningRow.declared g) r = r := by
  induction ds with
  | nil => intro r _; rfl
  | cons d ds ih =>
    intro r h
    have hd : r.declared g d = r := by simp [WarningRow.declared, h d (by simp)]
    rw [foldl_cons, hd]
    exact ih r fun d' hd' => h d' (mem_cons_of_mem _ hd')

/-- A row of a withdrawn host carries the last declaration that withdraws it; the
    generation it was first suppressed in is kept. -/
theorem foldl_declared_of_mem : ∀ r : WarningRow,
    (∃ d ∈ ds, d.withdraws r.host = true) → ∃ d ∈ ds, d.withdraws r.host = true ∧
      (ds.foldl (WarningRow.declared g) r).marks =
        ⟨.suppressed, some .operatorDeclaration, none, some d.declarationId, some (r.suppressedSinceGen.getD g)⟩ := by
  induction ds with
  | nil => rintro r ⟨d, hd, _⟩; cases hd
  | cons d ds ih =>
    intro r h
    have hhost : (r.declared g d).host = r.host := host_of_core (core_declared g r d)
    by_cases hrest : ∃ d' ∈ ds, d'.withdraws r.host = true
    · obtain ⟨d', hd', hw, hm⟩ := ih (r.declared g d) (hhost ▸ hrest)
      refine ⟨d', mem_cons_of_mem _ hd', hhost ▸ hw, ?_⟩
      have hsince : (r.declared g d).suppressedSinceGen.getD g = r.suppressedSinceGen.getD g := by
        unfold WarningRow.declared
        split
        · unfold WarningRow.withdraw; split <;> rfl
        · rfl
      rw [foldl_cons, hm, hsince]
    · have hd : d.withdraws r.host = true := by
        obtain ⟨d', hd', hw⟩ := h
        rcases mem_cons.mp hd' with rfl | hd'
        · exact hw
        · exact absurd ⟨d', hd', hw⟩ hrest
      have hsubject : r.host = d.subjectId := by
        simp only [Declaration.withdraws, Bool.and_eq_true, decide_eq_true_eq] at hd
        exact hd.2.symm
      refine ⟨d, by simp, hd, ?_⟩
      rw [foldl_cons, foldl_declared_of_not g ds _ ?_]
      · rw [WarningRow.declared, if_pos hd, WarningRow.withdraw, if_pos hsubject]
        rfl
      · intro d' hd'
        rw [hhost]
        exact Bool.eq_false_iff.mpr fun hw => hrest ⟨d', hd', hw⟩

theorem marks_revoke_congr {r r' : WarningRow} (h : r'.marks = r.marks) :
    (r'.revoke ids).marks = (r.revoke ids).marks := by
  have hk : r'.suppressionKind = r.suppressionKind := congrArg Marks.kind h
  have hd : r'.suppressionDeclarationId = r.suppressionDeclarationId := congrArg Marks.declarationId h
  unfold WarningRow.revoke WarningRow.isOrphan
  rw [hk, hd]
  split
  · rfl
  · exact h

/-! ## The collector -/

/-- `entity_gone_gens` after the collector's two updates. -/
def Db.goneAfter (db : Db) (r : WarningRow) : Int :=
  if r.host ≠ "" ∧ r.host ∈ db.presentHosts then 0
  else if r.host ≠ "" ∧ r.visibilityState = .observed ∧ r.host ∉ db.knownHosts then r.entityGoneGens + 1
  else r.entityGoneGens

theorem entityGoneGens_collected (db : Db) (r : WarningRow) :
    ((r.countGone db.knownHosts).resetGone db.presentHosts).entityGoneGens = db.goneAfter r := by
  have hhost : (r.countGone db.knownHosts).host = r.host := host_of_core (core_countGone _ r)
  unfold WarningRow.resetGone Db.goneAfter
  rw [hhost]
  split
  · rfl
  · unfold WarningRow.countGone; split <;> rfl

theorem goneAfter_congr {r r' : WarningRow} (db : Db) (hh : r'.host = r.host)
    (hv : r'.visibilityState = r.visibilityState)
    (hg : r'.entityGoneGens = r.entityGoneGens) : db.goneAfter r' = db.goneAfter r := by
  unfold Db.goneAfter
  rw [hh, hv, hg]

theorem goneAfter_expireWork (db : Db) (now : String) (r : WarningRow) :
    db.goneAfter (r.expireWork now) = db.goneAfter r := by
  unfold WarningRow.expireWork
  split
  · exact goneAfter_congr db rfl rfl rfl
  · rfl

theorem goneAfter_of_marks {db : Db} {r : WarningRow} (h : r.visibilityState = .suppressed) :
    db.goneAfter r = r.entityGoneGens ∨ db.goneAfter r = 0 := by
  unfold Db.goneAfter
  split
  · exact .inr rfl
  · simp [h]

/-! ## All passes -/

section

variable {u : UpdateCall} {db : Db} {r r' : WarningRow}

theorem finish_eq_some (h : u.finish db r = some r') : db.goneAfter r ≤ entityGcThreshold ∧
    r' = (overlaid u.generationId u.active
      (((r.expireWork u.clock.lifecycle).countGone db.knownHosts).resetGone db.presentHosts)).maintain
        db.maintenanceDeclarations.rows u.clock.maintenance := by
  unfold UpdateCall.finish collected at h
  simp only [entityGoneGens_collected, goneAfter_expireWork] at h
  split at h
  · cases h
  · rename_i hg
    simp only [Option.map_some, Option.some.injEq] at h
    exact ⟨by omega, h.symm⟩

theorem finish_isSome : (u.finish db r).isSome = true ↔ db.goneAfter r ≤ entityGcThreshold := by
  unfold UpdateCall.finish collected
  simp only [entityGoneGens_collected, goneAfter_expireWork]
  split
  · simp; omega
  · simp; omega

theorem finish_core (h : u.finish db r = some r') : r'.core = r.core := by
  obtain ⟨_, rfl⟩ := finish_eq_some h
  rw [core_maintain, core_overlaid, core_resetGone, core_countGone, core_expireWork]

theorem finish_gone (h : u.finish db r = some r') : r'.entityGoneGens = db.goneAfter r := by
  obtain ⟨_, rfl⟩ := finish_eq_some h
  have hmaintain : ∀ r : WarningRow, (r.maintain db.maintenanceDeclarations.rows u.clock.maintenance).entityGoneGens =
      r.entityGoneGens := by
    intro r
    unfold WarningRow.maintain
    split
    · rfl
    · split
      · rfl
      · split <;> rfl
  have hrevoke : ∀ (ids : List String) (r : WarningRow), (r.revoke ids).entityGoneGens = r.entityGoneGens := by
    intro ids r
    unfold WarningRow.revoke; split <;> rfl
  rw [hmaintain, ← goneAfter_expireWork db u.clock.lifecycle r, ← entityGoneGens_collected]
  exact (entityGoneGens_foldl_declared _ _ _).trans (hrevoke _ _)

theorem finish_marks (h : u.finish db r = some r') :
    (∃ d ∈ u.active, d.withdraws r.host = true ∧ r'.marks =
      ⟨.suppressed, some .operatorDeclaration, none, some d.declarationId,
        some ((r.revoke u.activeIds).suppressedSinceGen.getD u.generationId)⟩) ∨
    ((∀ d ∈ u.active, d.withdraws r.host = false) ∧
      r'.marks = (r.revoke u.activeIds).marks) := by
  obtain ⟨_, rfl⟩ := finish_eq_some h
  rw [marks_maintain]
  generalize hr₁ : ((r.expireWork u.clock.lifecycle).countGone db.knownHosts).resetGone db.presentHosts = r₁
  have hm : r₁.marks = r.marks := by rw [← hr₁, marks_resetGone, marks_countGone, marks_expireWork]
  have hh : r₁.host = r.host := by
    rw [← hr₁]
    exact host_of_core (by rw [core_resetGone, core_countGone, core_expireWork])
  have hrev := marks_revoke_congr u.activeIds hm
  have hhost : (r₁.revoke u.activeIds).host = r.host :=
    (host_of_core (core_revoke _ r₁)).trans hh
  have hsince : (r₁.revoke u.activeIds).suppressedSinceGen =
      (r.revoke u.activeIds).suppressedSinceGen := congrArg Marks.since hrev
  by_cases hd : ∃ d ∈ u.active, d.withdraws r.host = true
  · obtain ⟨d, hmem, hw, hmarks⟩ := foldl_declared_of_mem u.generationId u.active _ (hhost.symm ▸ hd)
    exact .inl ⟨d, hmem, hhost ▸ hw, hmarks.trans (by rw [hsince])⟩
  · have hnone : ∀ d ∈ u.active, d.withdraws r.host = false :=
      fun d hmem => Bool.eq_false_iff.mpr fun hw => hd ⟨d, hmem, hw⟩
    refine .inr ⟨hnone, ?_⟩
    have : overlaid u.generationId u.active r₁ = r₁.revoke u.activeIds :=
      foldl_declared_of_not u.generationId u.active _ (hhost.symm ▸ hnone)
    rw [this, hrev]

end

end Nq
