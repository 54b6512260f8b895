/-
  Nq.Lifecycle.Spec — what one committed lifecycle update does to each row.

  A call (`UpdateCall`) commits exactly when its origin mode is known, its generation
  exists, its identities are distinct and none is recorded in that generation yet
  (`run_ok`). Then every identity is decided by itself (`Updated`): an emitted one holds
  the upserted row, any other row is suppressed or aged (`settle`), and both go through
  the passes that follow (`finish`). Whether a row is masked is read off the state before
  the call (`hasParent`, `masked`), since a parent emitted by the call is observed and a
  parent that was not emitted is as it was.
-/

import Nq.Lifecycle.Update

namespace Nq

open List
open Sql (Table)

structure UpdateCall where
  generationId : Int
  findings : List Finding
  escalation : EscalationConfig := {}
  active : List Declaration := []
  originMode : String := "observed"
  clock : Clock := ⟨"", ""⟩

namespace UpdateCall

def run (u : UpdateCall) (db : Db) : Except DbError Db :=
  updateWarningStateWithOriginMode u.clock db u.generationId u.findings u.escalation u.active u.originMode

/-- The findings of the call with the hygiene findings it adds. -/
def emitted (u : UpdateCall) (db : Db) : List Finding :=
  u.findings ++ validateCoverageComposition db.warningState u.findings

def activeIds (u : UpdateCall) : List String := u.active.map Declaration.declarationId

def emittedIds (u : UpdateCall) (db : Db) : List FindingId := (u.emitted db).map Finding.id

def cycle (u : UpdateCall) (db : Db) : Cycle :=
  ⟨u.generationId, u.clock.lifecycle, u.escalation, (parseOriginMode u.originMode).getD .observed, db.sourcesRetired⟩

/-- An observed row of the rule's parent kind is on the host when the masking map is built. -/
def hasParent (u : UpdateCall) (db : Db) (host : String) (rule : MaskingRule) : Bool :=
  (u.emitted db).any (fun f => f.host = host ∧ f.kind = rule.parentKind) ||
    db.warningState.rows.any fun r => r.id ∉ u.emittedIds db ∧ r.host = host ∧ r.isParent rule

def masked (u : UpdateCall) (db : Db) (host kind : String) : Option SuppressionReason :=
  if host ≠ "" ∧ ¬ isParentKind kind then
    (maskingRules.find? fun rule => rule.covers kind && u.hasParent db host rule).map MaskingRule.suppressionReason
  else none

/-- The recovery loop on a row that was not emitted. -/
def settle (u : UpdateCall) (db : Db) (r : WarningRow) : Option WarningRow :=
  match u.masked db r.host r.kind with
  | some reason => some (r.suppress reason u.generationId)
  | none => if r.absentGens + 1 ≥ recoveryWindow then none else some r.incAbsent

/-- The passes after the recovery loop. -/
def finish (u : UpdateCall) (db : Db) (r : WarningRow) : Option WarningRow :=
  (collected db.knownHosts db.presentHosts (r.expireWork u.clock.lifecycle)).map fun r =>
    (overlaid u.generationId u.active r).maintain db.maintenanceDeclarations.rows u.clock.maintenance

end UpdateCall

/-- A committed call, identity by identity. -/
structure Updated (u : UpdateCall) (db db' : Db) : Prop where
  mode : (parseOriginMode u.originMode).isSome = true
  generation : ∀ f ∈ u.emitted db, (db.generations.get u.generationId).isSome = true
  nodup : (u.emittedIds db).Nodup
  unrecorded : ∀ f ∈ u.emitted db, db.findingObservations.get (u.generationId, f.key) = none
  emitted : ∀ f ∈ u.emitted db, ∃ s, db'.warningState.get f.id =
    u.finish db ((emittedRow (u.cycle db) (db.warningState.get f.id) f).setStability s)
  absent : ∀ k, k ∉ u.emittedIds db → db'.warningState.get k =
    (db.warningState.get k).bind fun r => (u.settle db r).bind (u.finish db)
  observations : ∀ p, db'.findingObservations.get p =
    ((u.emitted db).find? fun f => (u.generationId, f.key) = p).elim (db.findingObservations.get p)
      (fun f => some (observationOf (u.cycle db) f (severityOf (u.cycle db) (db.warningState.get f.id) f)))
  generations : ∀ g, (db'.generations.get g).isSome = (db.generations.get g).isSome
  frame : db' = { db with
    warningState := db'.warningState
    findingObservations := db'.findingObservations
    findingTransitions := db'.findingTransitions
    generations := db'.generations }

variable {u : UpdateCall} {f : Finding} {t : WarningState} {db db' db₁ : Db} {r : WarningRow}

/-- Without derived findings nothing is added to what a call emits. -/
theorem emitted_eq_findings (h : ∀ f ∈ u.findings, f.kind ≠ "health_claim_misleading") (db : Db) :
    u.emitted db = u.findings := by
  have hnone : ∀ (p : Finding → String → Option (String × String)),
      u.findings.filterMap (fun f => (misleadingRef f).bind (p f)) = [] := by
    intro p
    refine filterMap_eq_nil_iff.mpr fun f hf => ?_
    simp [misleadingRef, h f hf]
  simp [UpdateCall.emitted, validateCoverageComposition, hnone, dedup_nil]

/-! ## Masking is decided by the state before the call -/

/-- The table the masking map is built from: the upserted rows, with their stability. -/
structure Emission (u : UpdateCall) (db : Db) (t : WarningState) : Prop where
  emitted : ∀ f ∈ u.emitted db, ∃ s,
    t.get f.id = some ((emittedRow (u.cycle db) (db.warningState.get f.id) f).setStability s)
  absent : ∀ k, k ∉ u.emittedIds db → t.get k = db.warningState.get k

theorem id_emittedRow {c : Cycle} : (emittedRow c (t.get f.id) f).id = f.id := by
  cases h : t.get f.id with
  | none => rfl
  | some r =>
    have hid : r.id = f.id := Table.key_of_get h
    exact hid

theorem visibilityState_emittedRow (c : Cycle) (prev : Option WarningRow) (f : Finding) :
    (emittedRow c prev f).visibilityState = .observed := by
  cases prev <;> rfl

theorem Emission.hasParent (h : Emission u db t) (host : String) (rule : MaskingRule) :
    t.hasParent host rule = u.hasParent db host rule := by
  rw [Bool.eq_iff_iff]
  simp only [WarningState.hasParent, UpdateCall.hasParent, any_eq_true, Bool.or_eq_true, decide_eq_true_eq]
  constructor
  · rintro ⟨r, hr, hhost, hparent⟩
    by_cases he : r.id ∈ u.emittedIds db
    · obtain ⟨f, hf, hid⟩ := List.mem_map.mp he
      have hh : f.host = r.host := congrArg FindingId.host hid
      have hk : f.kind = r.kind := congrArg FindingId.kind hid
      simp only [WarningRow.isParent, decide_eq_true_eq] at hparent
      exact .inl ⟨f, hf, hh.trans hhost, hk.trans hparent.1⟩
    · have hget := (h.absent _ he).symm.trans (Table.get_of_mem hr)
      exact .inr ⟨r, Table.mem_of_get hget, he, hhost, hparent⟩
  · rintro (⟨f, hf, hhost, hkind⟩ | ⟨r, hr, he, hhost, hparent⟩)
    · obtain ⟨s, hget⟩ := h.emitted f hf
      have hid := Table.key_of_get hget
      refine ⟨_, Table.mem_of_get hget, (congrArg FindingId.host hid).trans hhost, ?_⟩
      simp only [WarningRow.isParent, decide_eq_true_eq]
      exact ⟨(congrArg FindingId.kind hid).trans hkind, visibilityState_emittedRow _ _ _⟩
    · exact ⟨r, Table.mem_of_get ((h.absent _ he).trans (Table.get_of_mem hr)), hhost, hparent⟩

theorem Emission.maskingReason (h : Emission u db t) (host kind : String) :
    maskingReason (buildMasking t) host kind = u.masked db host kind := by
  rw [maskingReason_buildMasking, UpdateCall.masked]
  simp only [h.hasParent]

theorem settle_masked {reason : SuppressionReason} (h : u.masked db r.id.host r.id.kind = some reason) :
    u.settle db r = some (r.suppress reason u.generationId) := by
  have hmasked : u.masked db r.host r.kind = some reason := h
  unfold UpdateCall.settle
  rw [hmasked]

theorem settle_unmasked (h : u.masked db r.id.host r.id.kind = none) :
    u.settle db r = if r.absentGens + 1 ≥ recoveryWindow then none else some r.incAbsent := by
  have hunmasked : u.masked db r.host r.kind = none := h
  unfold UpdateCall.settle
  rw [hunmasked]

/-- The recovery loop, row by row. -/
theorem Emission.get_recover (h : Emission u db t) (k : FindingId) :
    (recoverAbsent (u.emittedIds db) (buildMasking t) u.generationId t).get k =
      (t.get k).bind fun r => if k ∈ u.emittedIds db then some r else u.settle db r := by
  rw [get_recoverAbsent]
  cases hget : t.get k with
  | none => rfl
  | some r =>
    have hid : r.id = k := Table.key_of_get hget
    have hreason := h.maskingReason r.host r.kind
    unfold recovered UpdateCall.settle
    cases hm : u.masked db r.host r.kind with
    | none => simp [hid, hreason, hm]
    | some reason => simp [hid, hreason, hm]

theorem find_id {fs : List Finding} (hn : (fs.map Finding.id).Nodup) (hf : f ∈ fs) :
    fs.find? (·.id = f.id) = some f := by
  have hsome : (fs.find? (·.id = f.id)).isSome = true := find?_isSome.mpr ⟨f, hf, by simp⟩
  obtain ⟨f', hf'⟩ := Option.isSome_iff_exists.mp hsome
  have hid : f'.id = f.id := by simpa using find?_some hf'
  rw [hf', inj_on_of_nodup_map hn (mem_of_find?_eq_some hf') hf hid]

/-- What the upsert loop and the stability pass leave. -/
theorem emission_of_recorded (h : Recorded (u.cycle db) db (u.emitted db) db₁) :
    Emission u db (setStabilities (u.cycle db) db₁ (u.emitted db)).warningState := by
  constructor
  · intro f hf
    have hfind := find_id h.nodup hf
    let r := emittedRow (u.cycle db) (db.warningState.get f.id) f
    refine ⟨stabilityOf db₁.findingObservations (u.cycle db).generationId r.id.key r.consecutiveGens, ?_⟩
    rw [get_setStabilities, h.rows, hfind]
    simp only [Option.elim_some, Option.map_some, mem_map_of_mem hf, if_true]
    rfl
  · intro k hk
    have hfind : (u.emitted db).find? (·.id = k) = none := by
      refine find?_eq_none.mpr fun f hf e => hk ?_
      have : f.id = k := by simpa using e
      exact this ▸ mem_map_of_mem hf
    have hk' : k ∉ (u.emitted db).map Finding.id := hk
    rw [get_setStabilities, h.rows, hfind]
    simp [hk']

/-- The table as it stands when the masking map is built. -/
def UpdateCall.atMasking (u : UpdateCall) (db : Db) : WarningState :=
  match recordFindings (u.cycle db) db (u.emitted db) with
  | .ok db₁ => (setStabilities (u.cycle db) db₁ (u.emitted db)).warningState
  | .error _ => db.warningState

/-! ## The whole call -/

theorem get_expireWorkStates (now : String) (db : Db) (k : FindingId) :
    (expireWorkStates now db).warningState.get k = (db.warningState.get k).map (·.expireWork now) :=
  Table.get_update db.warningState _ (id_expireWork now) k

/-- The passes after the upsert loop, on the database it leaves. -/
def afterRecording (u : UpdateCall) (db db₁ : Db) : Db :=
  let db₂ := setStabilities (u.cycle db) db₁ (u.emitted db)
  let db₃ := { db₂ with
    warningState := recoverAbsent (u.emittedIds db) (buildMasking db₂.warningState) u.generationId db₂.warningState }
  let db₄ := recordLineage u.generationId (u.emitted db) (collectEntities (expireWorkStates u.clock.lifecycle db₃))
  let db₅ := { db₄ with warningState := applyDeclarationOverlay u.generationId u.active db₄.warningState }
  { db₅ with
    warningState := applyMaintenanceOverlay db₅.maintenanceDeclarations.rows u.clock.maintenance db₅.warningState }

theorem run_eq_ok : u.run db = .ok db' ↔
    (parseOriginMode u.originMode).isSome = true ∧
      ∃ db₁, recordFindings (u.cycle db) db (u.emitted db) = .ok db₁ ∧ afterRecording u db db₁ = db' := by
  unfold UpdateCall.run updateWarningStateWithOriginMode
  cases hm : parseOriginMode u.originMode with
  | none => simp
  | some mode =>
    have hc : u.cycle db = ⟨u.generationId, u.clock.lifecycle, u.escalation, mode, db.sourcesRetired⟩ := by
      simp [UpdateCall.cycle, hm]
    simp only [Option.isSome_some, true_and, updateWarningStateInner, ← hc]
    constructor
    · intro h
      obtain ⟨db₄, h₄, h⟩ := Sql.bind_ok.mp h
      obtain ⟨db₁, h₁, h₄⟩ := Sql.bind_ok.mp h₄
      cases h₄
      cases h
      exact ⟨db₁, h₁, rfl⟩
    · rintro ⟨db₁, h₁, rfl⟩
      exact Sql.bind_ok.mpr ⟨_, Sql.bind_ok.mpr ⟨db₁, h₁, rfl⟩, rfl⟩

theorem frame_of_recorded (h : Recorded (u.cycle db) db (u.emitted db) db₁) :
    setStabilities (u.cycle db) db₁ (u.emitted db) =
      { db with
        warningState := (setStabilities (u.cycle db) db₁ (u.emitted db)).warningState
        findingObservations := db₁.findingObservations } := by
  rw [setStabilities_frame, h.frame]

/-- The row under a key after the passes, from the one under it when the masking map is built. -/
theorem get_afterRecording (h : Recorded (u.cycle db) db (u.emitted db) db₁) (k : FindingId) :
    (afterRecording u db db₁).warningState.get k =
      ((setStabilities (u.cycle db) db₁ (u.emitted db)).warningState.get k).bind fun r =>
        (if k ∈ u.emittedIds db then some r else u.settle db r).bind (u.finish db) := by
  have hem := emission_of_recorded h
  have hframe := frame_of_recorded h
  simp only [afterRecording]
  generalize setStabilities (u.cycle db) db₁ (u.emitted db) = db₂ at hem hframe ⊢
  have hhosts : db₂.knownHosts = db.knownHosts ∧ db₂.presentHosts = db.presentHosts := by rw [hframe]; exact ⟨rfl, rfl⟩
  have hmaint : db₂.maintenanceDeclarations = db.maintenanceDeclarations := by rw [hframe]
  rw [get_applyMaintenanceOverlay, get_applyDeclarationOverlay]
  simp only [recordLineage, get_collectEntities, get_expireWorkStates, hem.get_recover]
  cases db₂.warningState.get k with
  | none => rfl
  | some r =>
    simp only [Option.bind_some]
    cases (if k ∈ u.emittedIds db then some r else u.settle db r) with
    | none => rfl
    | some r' =>
      simp only [Option.map_some, Option.bind_some, UpdateCall.finish, Option.map_map, ← hhosts.1, ← hhosts.2, ← hmaint]
      rfl

/-- Every committed call, identity by identity. -/
theorem run_updated (h : u.run db = .ok db') : Updated u db db' := by
  obtain ⟨hm, db₁, h₁, rfl⟩ := run_eq_ok.mp h
  have hr := recordFindings_recorded h₁
  have hem := emission_of_recorded hr
  have hframe := frame_of_recorded hr
  refine ⟨hm, hr.generation, hr.nodup, hr.unrecorded, ?_, ?_, ?_, ?_, ?_⟩
  · intro f hf
    obtain ⟨s, hs⟩ := hem.emitted f hf
    have hmem : f.id ∈ u.emittedIds db := mem_map_of_mem hf
    refine ⟨s, ?_⟩
    rw [get_afterRecording hr, hs]
    simp [hmem]
  · intro k hk
    rw [get_afterRecording hr, hem.absent k hk]
    simp [hk]
  · intro p
    refine Eq.trans ?_ (hr.observations p)
    rw [afterRecording, hframe]
    rfl
  · intro g
    rw [afterRecording, hframe]
    simp only [recordLineage, Table.get_updateKey]
    split
    · exact Option.isSome_map
    · rfl
  · rw [afterRecording, hframe]
    rfl

theorem hasParent_atMasking (h : u.run db = .ok db') (host : String) (rule : MaskingRule) :
    (u.atMasking db).hasParent host rule = u.hasParent db host rule := by
  obtain ⟨_, db₁, h₁, _⟩ := run_eq_ok.mp h
  have hem := emission_of_recorded (recordFindings_recorded h₁)
  unfold UpdateCall.atMasking
  rw [h₁]
  exact hem.hasParent host rule

/-- When a call commits. -/
theorem run_ok : (∃ db', u.run db = .ok db') ↔
    (parseOriginMode u.originMode).isSome = true ∧
    (∀ f ∈ u.emitted db, (db.generations.get u.generationId).isSome = true) ∧ (u.emittedIds db).Nodup ∧
    ∀ f ∈ u.emitted db, db.findingObservations.get (u.generationId, f.key) = none := by
  constructor
  · rintro ⟨db', h⟩
    have hu := run_updated h
    exact ⟨hu.mode, hu.generation, hu.nodup, hu.unrecorded⟩
  · rintro ⟨hm, hg, hn, hu⟩
    have hrec : ∃ db₁, recordFindings (u.cycle db) db (u.emitted db) = .ok db₁ := recordFindings_ok.mpr ⟨hg, hn, hu⟩
    obtain ⟨db₁, h₁⟩ := hrec
    exact ⟨_, run_eq_ok.mpr ⟨hm, db₁, h₁, rfl⟩⟩

end Nq
