/-
  Nq.Lifecycle.Suppression — what the suppression columns of a row say.

  Five statements write them: the revival arm of the upsert, the masking pass, the two
  shapes of the overlay's pre-pass, and its apply pass. Each writes its own subset.

  - Coherence (`marks_stay_coherent`): the columns agree in every run that never emits a
    row still carrying a suppression kind, and never masks a row still carrying a
    declaration, unless the overlay then clears or rewrites it (`KeepsMarks`). Both
    happen (`revival_leaves_the_suppression_kind`): revival does not clear the kind or the
    declaration, and masking does not clear the declaration.
  - Exactness (`overlay_exact_iff`): a row is suppressed by a declaration exactly when a
    declaration in the list withdraws its host, unless the row was left alone while its
    declaration's id is still in the list with another subject or mode
    (`Orphanless`). Then it stays suppressed
    (`a_quiesced_declaration_keeps_suppressing`).
-/

import Nq.Lifecycle.Outage
import Nq.Lifecycle.Persistence

namespace Nq

open List
open Sql (Table)

/-- A declaration of the list withdraws the host. -/
def UpdateCall.withdrawn (u : UpdateCall) (host : String) : Bool := u.active.any (·.withdraws host)

variable {u : UpdateCall} {db db' : Db} {r r' : WarningRow}

theorem withdrawn_false {host : String} (h : ∀ d ∈ u.active, d.withdraws host = false) : u.withdrawn host = false := by
  simpa [UpdateCall.withdrawn] using h

/-! ## Coherence -/

structure Marks.Coherent (m : Marks) : Prop where
  observed : m.visibility = .observed → m.kind = none ∧ m.reason = none ∧ m.declarationId = none ∧ m.since = none
  suppressed : m.visibility = .suppressed → m.kind ≠ none
  declared : m.declarationId ≠ none ↔ m.kind = some .operatorDeclaration
  reasonless : m.kind = some .operatorDeclaration → m.reason = none

theorem coherent_clean : (⟨.observed, none, none, none, none⟩ : Marks).Coherent := by
  constructor <;> simp

theorem coherent_held (reason : SuppressionReason) (since : Option Int) :
    (⟨.suppressed, some .ancestorLoss, some reason, none, since⟩ : Marks).Coherent := by
  constructor <;> simp

theorem coherent_declared (id : String) (since : Option Int) :
    (⟨.suppressed, some .operatorDeclaration, none, some id, since⟩ : Marks).Coherent := by
  constructor <;> simp

/-- The overlay leaves a row's columns coherent if it found them so, or if it writes them all. -/
theorem finish_coherent (h : u.finish db r = some r')
    (hr : u.withdrawn r.host = true ∨ r.isOrphan u.activeIds = true ∨ r.marks.Coherent) : r'.marks.Coherent := by
  rcases finish_marks h with ⟨d, _, _, hm⟩ | ⟨hnone, hm⟩
  · rw [hm]; exact coherent_declared _ _
  · rw [hm]
    rcases hr with hw | ho | hc
    · rw [withdrawn_false hnone] at hw
      cases hw
    · have : r.revoke u.activeIds = r.clearSuppression := by
        unfold WarningRow.revoke
        exact if_pos ho
      rw [this]
      exact coherent_clean
    · unfold WarningRow.revoke
      split
      · exact coherent_clean
      · exact hc

/-- An emitted row that carries a suppression kind and stays, and a masked one that carries
    a declaration, are cleared or rewritten by the overlay. -/
def KeepsMarks (u : UpdateCall) (db : Db) : Prop :=
  ∀ r ∈ db.warningState.rows,
    if r.id ∈ u.emittedIds db then
      db.Spares r.id → r.suppressionKind ≠ none → u.withdrawn r.host = true ∨ r.isOrphan u.activeIds = true
    else
      (u.masked db r.host r.kind).isSome = true → r.suppressionKind = some .operatorDeclaration →
        u.withdrawn r.host = true

instance (u : UpdateCall) (db : Db) : Decidable (KeepsMarks u db) := inferInstanceAs (Decidable (∀ _ ∈ _, _))

def Db.MarksCoherent (db : Db) : Prop := ∀ k r, db.warningState.get k = some r → r.marks.Coherent

theorem update_coherent (hrows : db.RowsInv) (hinv : db.MarksCoherent) (hP : KeepsMarks u db) (h : Updated u db db') :
    db'.MarksCoherent := by
  intro k r' hr'
  rcases h.row_cases hr' with ⟨f, hf, rfl, s, hfin⟩ | ⟨hk, r, hr, hcase⟩
  · have hspared : db.Spares f.id := (spares_iff hrows f s).mp (by rw [hfin]; rfl)
    refine finish_coherent hfin ?_
    have hmarks := marks_emittedRow (u.cycle db) (db.warningState.get f.id) f
    have hid : (emittedRow (u.cycle db) (db.warningState.get f.id) f).id = f.id := id_emittedRow
    cases hprev : db.warningState.get f.id with
    | none =>
      rw [hprev] at hmarks
      refine .inr (.inr ?_)
      show (emittedRow (u.cycle db) none f).marks.Coherent
      rw [hmarks]
      exact coherent_clean
    | some r =>
      rw [hprev] at hmarks hid
      have hrid : r.id = f.id := Table.key_of_get hprev
      have hhost : (emittedRow (u.cycle db) (some r) f).host = r.host := congrArg FindingId.host (hid.trans hrid.symm)
      have hcond := hP r (Table.mem_of_get hprev)
      rw [if_pos (hrid ▸ mem_map_of_mem hf)] at hcond
      by_cases hkind : r.suppressionKind = none
      · have hdecl : r.suppressionDeclarationId = none := by
          by_contra hne
          have := (hinv f.id r hprev).declared.mp hne
          rw [show r.marks.kind = r.suppressionKind from rfl, hkind] at this
          cases this
        refine .inr (.inr ?_)
        show (emittedRow (u.cycle db) (some r) f).marks.Coherent
        rw [hmarks]
        simp only [Option.bind_some, hkind, hdecl]
        exact coherent_clean
      · rcases hcond (hrid ▸ hspared) hkind with hw | ho
        · left
          show u.withdrawn (emittedRow (u.cycle db) (some r) f).host = true
          rw [hhost]
          exact hw
        · right; left
          show (emittedRow (u.cycle db) (some r) f).isOrphan u.activeIds = true
          exact ho
  · have hid : r.id = k := Table.key_of_get hr
    have hcoh := hinv k r hr
    rcases hcase with ⟨reason, hm, hfin⟩ | ⟨_, _, hfin⟩
    · refine finish_coherent hfin ?_
      have hcond := hP r (Table.mem_of_get hr)
      rw [if_neg (hid ▸ hk)] at hcond
      have hmask : (u.masked db r.host r.kind).isSome = true := by
        subst hid
        have hm' : u.masked db r.host r.kind = some reason := hm
        rw [hm']; rfl
      by_cases hkind : r.suppressionKind = some .operatorDeclaration
      · exact .inl (hcond hmask hkind)
      · have hdecl : r.suppressionDeclarationId = none := by
          by_contra hne
          exact hkind (hcoh.declared.mp hne)
        refine .inr (.inr ?_)
        simp only [WarningRow.marks, WarningRow.suppress, hdecl]
        exact coherent_held _ _
    · exact finish_coherent hfin (.inr (.inr hcoh))

section

variable (P : UpdateCall → Db → Prop)

/-- Runs of `update_warning_state_with_declarations` from an empty table, each call
    meeting `P`; between two calls everything but `warning_state` may change. -/
inductive Updates : Db → Prop
  | start {db : Db} (h : db.warningState = .empty) : Updates db
  | next {db db₁ db₂ : Db} {u : UpdateCall} (hprev : Updates db) (hsame : db₁.warningState = db.warningState)
      (hP : P u db₁) (h : u.run db₁ = .ok db₂) : Updates db₂

end

theorem Updates.reach {P : UpdateCall → Db → Prop} (rfc3339 : String → Except String Int) (h : Updates P db) :
    Reach rfc3339 db := by
  induction h with
  | start h => exact .init h
  | next _ hsame _ h ih => exact .step (.step ih (.elsewhere hsame)) (.update _ h)

theorem updates_coherent (h : Updates KeepsMarks db) : db.MarksCoherent := by
  induction h with
  | start h => intro k r hr; rw [h] at hr; cases hr
  | next hprev hsame hP h ih =>
    have hreach : Reach (fun _ => .error "") _ := .step (hprev.reach _) (.elsewhere hsame)
    refine update_coherent (reach_rowInv hreach) ?_ hP (run_updated h)
    intro k r hr
    exact ih k r (hsame ▸ hr)

theorem updates_of_replay {us : List UpdateCall} : ∀ {db db' : Db}, Updates (fun _ _ => True) db →
    replay db us = .ok db' → Updates (fun _ _ => True) db' := by
  induction us with
  | nil => intro db db' hr h; cases h; exact hr
  | cons u us ih =>
    intro db db' hr h
    unfold replay at h
    rw [foldlM_cons] at h
    obtain ⟨db₁, h₁, h₂⟩ := Sql.bind_ok.mp h
    exact ih (.next hr rfl trivial h₁) h₂

/-- A call that leaves coherent columns has met the condition. -/
theorem keepsMarks_of_coherent (hrows : db.RowsInv) (hinv : db.MarksCoherent) (h : Updated u db db')
    (hcoh : db'.MarksCoherent) : KeepsMarks u db := by
  intro r hr
  have hget : db.warningState.get r.id = some r := Table.get_of_mem hr
  split
  · rename_i hem
    intro hspares hkind
    obtain ⟨f, hf, hid⟩ := List.mem_map.mp hem
    obtain ⟨s, hs⟩ := h.emitted f hf
    obtain ⟨r', hr'⟩ := Option.isSome_iff_exists.mp ((spares_iff hrows f s).mpr (hid ▸ hspares))
    have hmarks' := hcoh f.id r' (hs.trans hr')
    rw [hid, hget] at hr'
    rcases finish_marks hr' with ⟨d, hd, hw, _⟩ | ⟨_, hm⟩
    · left
      exact any_eq_true.mpr ⟨d, hd, hw⟩
    · right
      by_contra ho
      have ho' : ¬ ((emittedRow (u.cycle db) (some r) f).setStability s).isOrphan u.activeIds = true := ho
      rw [WarningRow.revoke, if_neg ho'] at hm
      have hmarks := marks_emittedRow (u.cycle db) (some r) f
      have hobs : r'.marks.visibility = .observed := by rw [hm]; exact congrArg Marks.visibility hmarks
      have hnone := (hmarks'.observed hobs).1
      rw [hm] at hnone
      exact hkind ((congrArg Marks.kind hmarks).symm.trans hnone)
  · rename_i hem
    intro hmask hkind
    obtain ⟨reason, hreason⟩ := Option.isSome_iff_exists.mp hmask
    obtain ⟨r', hr', hfin⟩ := masked_row_stays h hem hreason hget (hrows r.id r hget).gone
    rcases finish_marks hfin with ⟨d, hd, hw, _⟩ | ⟨_, hm⟩
    · exact any_eq_true.mpr ⟨d, hd, hw⟩
    · rw [revoke_suppress] at hm
      have hcoh' := hcoh r.id r' hr'
      rw [hm] at hcoh'
      cases hcoh'.declared.mp ((hinv r.id r hget).declared.mpr hkind)

/-- The suppression columns of every row agree in every state of such a run; and the next
    call keeps them so exactly when it meets the condition. -/
theorem marks_stay_coherent {db : Db} (h : Updates KeepsMarks db) :
    (∀ k r, db.warningState.get k = some r → r.marks.Coherent) ∧
    ∀ {u : UpdateCall} {db₁ db₂ : Db}, db₁.warningState = db.warningState → u.run db₁ = .ok db₂ →
      (db₂.MarksCoherent ↔ KeepsMarks u db₁) := by
  have hcoh := updates_coherent h
  refine ⟨hcoh, ?_⟩
  intro u db₁ db₂ hsame hrun
  have hreach : Reach (fun _ => .error "") db₁ := .step (h.reach _) (.elsewhere hsame)
  have hrows := reach_rowInv hreach
  have hcoh₁ : db₁.MarksCoherent := fun k r hr => hcoh k r (hsame ▸ hr)
  exact ⟨keepsMarks_of_coherent hrows hcoh₁ (run_updated hrun),
    fun hP => update_coherent hrows hcoh₁ hP (run_updated hrun)⟩

theorem revival_leaves_the_suppression_kind :
    ∃ db r, Updates (fun _ _ => True) db ∧ db.warningState.get strayFinding.id = some r ∧ ¬ r.marks.Coherent := by
  have h : (replay (Db.published 3) [strayCall 1, staleCall 2, strayCall 3]).toOption.map
      (fun db => (db.warningState.get strayFinding.id).map WarningRow.marks) =
        some (some ⟨.observed, some .ancestorLoss, none, none, none⟩) := by decide +kernel
  obtain ⟨db, hrun, hread⟩ := Sql.ok_of_toOption h
  obtain ⟨r, hr, hm⟩ := Option.map_eq_some_iff.mp hread
  refine ⟨db, r, updates_of_replay (.start rfl) hrun, hr, ?_⟩
  intro hcoh
  rw [hm] at hcoh
  cases (hcoh.observed rfl).1

/-- Found, then masked: the columns agree. Found again: they do not. -/
theorem a_masked_row_is_coherent : ∃ db db' r, Updates KeepsMarks db ∧ db.warningState.get strayFinding.id = some r ∧
    r.marks.Coherent ∧ (strayCall 3).run db = .ok db' ∧ ¬ db'.MarksCoherent := by
  have h : (((strayCall 1).run (Db.published 3)).toOption.bind fun db₁ =>
      ((staleCall 2).run db₁).toOption.bind fun db₂ => ((strayCall 3).run db₂).toOption.map fun _ =>
        (decide (KeepsMarks (strayCall 1) (Db.published 3) ∧ KeepsMarks (staleCall 2) db₁),
          decide (KeepsMarks (strayCall 3) db₂), (db₂.warningState.get strayFinding.id).isSome)) =
      some (true, false, true) := by decide +kernel
  obtain ⟨db₁, h₁, h⟩ := Option.bind_eq_some_iff.mp h
  obtain ⟨db₂, h₂, h⟩ := Option.bind_eq_some_iff.mp h
  obtain ⟨db₃, h₃, hread⟩ := Sql.ok_of_toOption h
  simp only [Prod.mk.injEq, decide_eq_true_eq, decide_eq_false_iff_not] at hread
  obtain ⟨⟨hk₁, hk₂⟩, hk₃, hsome⟩ := hread
  obtain ⟨r, hr⟩ := Option.isSome_iff_exists.mp hsome
  have hup : Updates KeepsMarks db₂ :=
    .next (.next (.start rfl) rfl hk₁ (Sql.toOption_eq_some.mp h₁)) rfl hk₂ (Sql.toOption_eq_some.mp h₂)
  obtain ⟨hcoh, hnext⟩ := marks_stay_coherent hup
  exact ⟨db₂, db₃, r, hup, hr, hcoh _ r hr, h₃, fun hc => hk₃ ((hnext rfl h₃).mp hc)⟩

/-! ## Exactness of the overlay -/

def WarningRow.declaredAway (r : WarningRow) : Prop :=
  r.visibilityState = .suppressed ∧ r.suppressionKind = some .operatorDeclaration

instance (r : WarningRow) : Decidable r.declaredAway := inferInstanceAs (Decidable (_ ∧ _))

/-- A row is suppressed by a declaration exactly when one of the list withdraws its host,
    and then names such a declaration. -/
def OverlayExact (u : UpdateCall) (db' : Db) : Prop :=
  ∀ k r, db'.warningState.get k = some r →
    (r.declaredAway ↔ ∃ d ∈ u.active, d.withdraws k.host = true) ∧
    (r.declaredAway → ∃ d ∈ u.active, d.withdraws k.host = true ∧ r.suppressionDeclarationId = some d.declarationId)

/-- No row that the call neither emits, masks nor deletes is suppressed by a declaration
    whose id is in the list while nothing in the list withdraws its host. -/
def Orphanless (u : UpdateCall) (db : Db) : Prop :=
  ∀ r ∈ db.warningState.rows, r.id ∉ u.emittedIds db → u.masked db r.host r.kind = none →
    r.absentGens + 1 < recoveryWindow → r.declaredAway → r.suppressionDeclarationId.any (· ∈ u.activeIds) = true →
      u.withdrawn r.host = true

instance (u : UpdateCall) (db : Db) : Decidable (Orphanless u db) := inferInstanceAs (Decidable (∀ _ ∈ _, _))

/-- The overlay on a row is exact, unless the row carries a declaration that the pre-pass
    takes for active and the apply pass does not apply. -/
theorem finish_exact (h : u.finish db r = some r')
    (hr : r.declaredAway → r.isOrphan u.activeIds = true ∨ u.withdrawn r.host = true) :
    (r'.declaredAway ↔ ∃ d ∈ u.active, d.withdraws r.host = true) ∧
    (r'.declaredAway → ∃ d ∈ u.active, d.withdraws r.host = true ∧
      r'.suppressionDeclarationId = some d.declarationId) := by
  rcases finish_marks h with ⟨d, hd, hw, hm⟩ | ⟨hnone, hm⟩
  · have hdecl : r'.declaredAway := ⟨congrArg Marks.visibility hm, congrArg Marks.kind hm⟩
    have hid : r'.suppressionDeclarationId = some d.declarationId := congrArg Marks.declarationId hm
    exact ⟨⟨fun _ => ⟨d, hd, hw⟩, fun _ => hdecl⟩, fun _ => ⟨d, hd, hw, hid⟩⟩
  · have hnot : ¬ r'.declaredAway := by
      rintro ⟨hv, hk⟩
      have hv' : r'.visibilityState = (r.revoke u.activeIds).visibilityState := congrArg Marks.visibility hm
      have hk' : r'.suppressionKind = (r.revoke u.activeIds).suppressionKind := congrArg Marks.kind hm
      rw [hv'] at hv
      rw [hk'] at hk
      unfold WarningRow.revoke at hv hk
      split at hv
      · cases hv
      · rename_i ho
        rw [if_neg ho] at hk
        rcases hr ⟨hv, hk⟩ with ho' | hw
        · exact ho ho'
        · rw [withdrawn_false hnone] at hw
          cases hw
    refine ⟨⟨fun hd => absurd hd hnot, ?_⟩, fun hd => absurd hd hnot⟩
    rintro ⟨d, hd, hw⟩
    rw [hnone d hd] at hw
    cases hw

/-- The overlay is exact on every row that is not left under a declaration so. -/
theorem row_exact (hrows : db.RowsInv) (h : Updated u db db') {k : FindingId} (hr' : db'.warningState.get k = some r')
    (hP : ∀ r, db.warningState.get k = some r → k ∉ u.emittedIds db → u.masked db k.host k.kind = none →
      r.absentGens + 1 < recoveryWindow → r.declaredAway → r.suppressionDeclarationId.any (· ∈ u.activeIds) = true →
        u.withdrawn k.host = true) :
    (r'.declaredAway ↔ ∃ d ∈ u.active, d.withdraws k.host = true) ∧
    (r'.declaredAway → ∃ d ∈ u.active, d.withdraws k.host = true ∧
      r'.suppressionDeclarationId = some d.declarationId) := by
  rcases h.row_cases hr' with ⟨f, hf, rfl, s, hfin⟩ | ⟨hk, r, hr, hcase⟩
  · have hid : (emittedRow (u.cycle db) (db.warningState.get f.id) f).id = f.id := id_emittedRow
    have hvis := visibilityState_emittedRow (u.cycle db) (db.warningState.get f.id) f
    generalize emittedRow (u.cycle db) (db.warningState.get f.id) f = e at hid hvis hfin
    have hhost : (e.setStability s).host = f.id.host := congrArg FindingId.host hid
    rw [← hhost]
    refine finish_exact hfin fun hd => ?_
    have hsup : e.visibilityState = .suppressed := hd.1
    rw [hvis] at hsup
    cases hsup
  · have hid : r.id = k := Table.key_of_get hr
    subst hid
    rcases hcase with ⟨reason, _, hfin⟩ | ⟨hm, ha, hfin⟩
    · have hhost : (r.suppress reason u.generationId).host = r.id.host := rfl
      rw [← hhost]
      refine finish_exact hfin fun hd => ?_
      have hkind : some SuppressionKind.ancestorLoss = some .operatorDeclaration := hd.2
      cases hkind
    · have hhost : r.incAbsent.host = r.id.host := rfl
      rw [← hhost]
      refine finish_exact hfin fun hd => ?_
      by_cases ho : r.isOrphan u.activeIds = true
      · exact .inl ho
      · have hd' : r.declaredAway := hd
        have hsome := (hrows r.id r hr).declared hd'.2
        obtain ⟨id, hid⟩ := Option.isSome_iff_exists.mp hsome
        refine .inr (hP r hr hk hm ha hd' ?_)
        simp only [WarningRow.isOrphan, hd'.2, hid, Option.any_some, decide_true, Bool.true_and, Bool.or_eq_true,
          decide_eq_true_eq, not_or, not_not] at ho
        rw [hid]
        exact decide_eq_true ho.2

theorem exact_of_orphanless (hrows : db.RowsInv) (h : Updated u db db') (hP : Orphanless u db) :
    OverlayExact u db' := by
  intro k r' hr'
  refine row_exact hrows h hr' fun r hr => ?_
  have hid : r.id = k := Table.key_of_get hr
  subst hid
  exact hP r (Table.mem_of_get hr)

theorem orphanless_of_exact (hrows : db.RowsInv) (h : Updated u db db') (hex : OverlayExact u db') :
    Orphanless u db := by
  intro r hr hk hm ha hd hid
  have hget : db.warningState.get r.id = some r := Table.get_of_mem hr
  have hgone : db.goneAfter r.incAbsent ≤ entityGcThreshold := by
    have hsup : r.incAbsent.visibilityState = .suppressed := hd.1
    rcases goneAfter_of_marks hsup with hg | hg
    · rw [hg]; exact (hrows r.id r hget).gone
    · rw [hg]; decide
  obtain ⟨r', hr', hfin⟩ := h.aged hk hm hget ha hgone
  rcases finish_marks hfin with ⟨d, hmem, hw, _⟩ | ⟨_, hmarks⟩
  · exact any_eq_true.mpr ⟨d, hmem, hw⟩
  · have hkept : ¬ r.incAbsent.isOrphan u.activeIds = true := by
      show ¬ r.isOrphan u.activeIds = true
      cases hdecl : r.suppressionDeclarationId with
      | none => rw [hdecl] at hid; cases hid
      | some id =>
        rw [hdecl, Option.any_some, decide_eq_true_eq] at hid
        have hne : u.activeIds.isEmpty = false := by
          cases hids : u.activeIds with
          | nil => rw [hids] at hid; cases hid
          | cons _ _ => rfl
        simp [WarningRow.isOrphan, hdecl, hne, hid]
    rw [WarningRow.revoke, if_neg hkept] at hmarks
    have haway : r'.declaredAway :=
      ⟨(congrArg Marks.visibility hmarks).trans hd.1, (congrArg Marks.kind hmarks).trans hd.2⟩
    obtain ⟨d, hmem, hw⟩ := (hex r.id r' hr').1.mp haway
    exact any_eq_true.mpr ⟨d, hmem, hw⟩

/-- After an update the rows suppressed by declarations are exactly those of withdrawn
    hosts, if and only if the call met the condition. -/
theorem overlay_exact_iff {rfc3339 : String → Except String Int} {u : UpdateCall} {db db' : Db}
    (hreach : Reach rfc3339 db) (h : u.run db = .ok db') : OverlayExact u db' ↔ Orphanless u db := by
  have hrows := reach_rowInv hreach
  exact ⟨orphanless_of_exact hrows (run_updated h), exact_of_orphanless hrows (run_updated h)⟩

def declarationFor (mode : Mode) : Declaration :=
  { declarationId := "d-1", subjectKind := .host, subjectId := "db-1", mode := mode, durability := .persistent
    reasonClass := "decommission", declaredBy := "operator", declaredAt := "2026-01-01T00:00:00Z"
    evidenceRefs := ["change-1"] }

def withdrawnCall : UpdateCall :=
  { generationId := 1, findings := [strayFinding], active := [declarationFor .withdrawn] }
def quiescedCall : UpdateCall := { generationId := 2, findings := [], active := [declarationFor .quiesced] }

theorem a_withdrawn_host_is_declared_away : ∃ db', withdrawnCall.run (Db.published 1) = .ok db' ∧
    OverlayExact withdrawnCall db' ∧ Orphanless withdrawnCall (Db.published 1) := by
  have h : ((withdrawnCall.run (Db.published 1)).toOption.map fun _ => ()) = some () := by decide +kernel
  obtain ⟨db', hrun, _⟩ := Sql.ok_of_toOption h
  have hP : Orphanless withdrawnCall (Db.published 1) := by decide
  have hreach : Reach (fun _ => .error "") (Db.published 1) := .init rfl
  exact ⟨db', hrun, (overlay_exact_iff hreach hrun).mpr hP, hP⟩

/-- A declaration turned from withdrawn to quiesced under the same id: quiescence suppresses
    nothing, but the row stays suppressed by it. -/
theorem a_quiesced_declaration_keeps_suppressing : ∃ db db' r, Reach (fun _ => .error "") db ∧
    quiescedCall.run db = .ok db' ∧ db'.warningState.get strayFinding.id = some r ∧ r.declaredAway ∧
    ∀ d ∈ quiescedCall.active, d.withdraws strayFinding.id.host = false := by
  have h : ((withdrawnCall.run (Db.published 2) >>= quiescedCall.run).toOption.map fun db =>
      (db.warningState.get strayFinding.id).map fun r => decide r.declaredAway) = some (some true) := by
    decide +kernel
  obtain ⟨db', hrun, hread⟩ := Sql.ok_of_toOption h
  obtain ⟨db, h₁, h₂⟩ := Sql.bind_ok.mp hrun
  obtain ⟨r, hr, haway⟩ := Option.map_eq_some_iff.mp hread
  exact ⟨db, db', r, .step (.init rfl) (.update _ h₁), h₂, hr, of_decide_eq_true haway, by decide⟩

end Nq
