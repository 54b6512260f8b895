/-
  Nq.Lifecycle.Upsert — recording the emitted findings (`publish.rs`,
  `update_warning_state_inner`, the upsert loop and the stability pass).

  For each emitted finding the loop appends an evidence row to `finding_observations`
  and upserts the finding's row of `warning_state`. The streak is computed twice: in
  Rust for the severity (`newGens`) and in the upsert's CASE for the stored counter
  (`caseConsecutive`). A statement that is refused aborts the loop, and with it the
  transaction.

  - `recordFindings_ok`: the loop runs through exactly when the generation exists, the
    identities are distinct and none has been recorded in this generation;
  - `recordFindings_recorded`: each emitted identity then holds the row its own turn
    wrote, every other row is as it was (`Recorded`);
  - `get_setStabilities`: the stability pass only sets the stability of emitted rows.
-/

import Nq.Db.Schema

namespace Nq

open List
open Sql (F64 Table)

/-! ## Severity -/

structure EscalationConfig where
  warnAfterGens : Int := 30
  criticalAfterGens : Int := 180
  deriving DecidableEq, Repr

def computeSeverity (kind : String) (stateKind : StateKind) (consecutiveGens : Int) (esc : EscalationConfig) :
    String :=
  let base :=
    if consecutiveGens > esc.criticalAfterGens then "critical"
    else if consecutiveGens > esc.warnAfterGens then "warning"
    else "info"
  -- a service observed down is a fact now: floored at warning
  if base = "info" ∧ kind = "service_status" ∧ stateKind = .incident then "warning" else base

/-! ## The streak -/

/-- Two rule hashes that are both known and differ. -/
def hashChanged : Option String → Option String → Bool
  | some new, some old => new != old
  | _, _ => false

/-- The streak Rust computes for the severity; `prev` is the row its two SELECTs read. -/
def newGens (prev : Option WarningRow) (generationId : Int) (f : Finding) : Int :=
  let (prevGens, prevHash, prevVisibility) :=
    (prev.map fun r => (r.consecutiveGens, r.ruleHash, r.visibilityState)).getD (0, none, .observed)
  if hashChanged f.ruleHash prevHash then 1
  else if prevVisibility = .suppressed then prevGens + 1
  else
    let wasLastGen := (prev.map fun r => decide (r.lastSeenGen = generationId - 1)).getD false
    if wasLastGen then prevGens + 1 else 1

/-- SQL `a != b`: NULL as soon as one side is. -/
def sqlNe (a b : Option String) : Option Bool :=
  match a, b with
  | some a, some b => some (a != b)
  | _, _ => none

/-- The upsert's `consecutive_gens = CASE …`; a WHEN that is NULL is not taken. -/
def caseConsecutive (r : WarningRow) (generationId : Int) (ruleHash : Option String) : Int :=
  if ruleHash ≠ none ∧ r.ruleHash ≠ none ∧ sqlNe r.ruleHash ruleHash = some true then 1
  else if r.visibilityState = .suppressed then r.consecutiveGens + 1
  else if r.lastSeenGen = generationId - 1 then r.consecutiveGens + 1
  else 1

/-! ## The written row -/

/-- What one call of the lifecycle update works with throughout. -/
structure Cycle where
  generationId : Int
  now : String
  escalation : EscalationConfig
  originMode : OriginMode
  retired : Table RetiredSource.sourceId

/-- (`basis_state`, `last_basis_generation`, `basis_state_at`): a retired source stays retired. -/
def basisOf (c : Cycle) (f : Finding) : BasisState × Option Int × Option String :=
  match f.basisSourceId with
  | some sid =>
    match c.retired.get sid with
    | some s => (.retired, none, some s.retiredAt)
    | none => (.live, some c.generationId, some c.now)
  | none => (.unknown, none, none)

variable {c : Cycle} {f : Finding} {sid : String} {db db' : Db} {fs : List Finding}

theorem basisOf_retiredSource {s : RetiredSource} (hsource : f.basisSourceId = some sid)
    (hretired : c.retired.get sid = some s) : basisOf c f = (.retired, none, some s.retiredAt) := by
  unfold basisOf
  rw [hsource]
  dsimp only
  rw [hretired]

theorem basisOf_standing (hsource : f.basisSourceId = some sid) (hstanding : c.retired.get sid = none) :
    basisOf c f = (.live, some c.generationId, some c.now) := by
  unfold basisOf
  rw [hsource]
  dsimp only
  rw [hstanding]

/-- The silence contract, derived for the two witness-silence kinds only. -/
def silenceOf (f : Finding) : Silence :=
  if f.kind = "smart_witness_silent" ∨ f.kind = "zfs_witness_silent" then
    ⟨some "witness", some "age_threshold", f.value.map F64.toI64, some "none"⟩
  else {}

/-- The columns both arms of the upsert take from the finding. -/
def WarningRow.write (c : Cycle) (f : Finding) (severity : String) (r : WarningRow) : WarningRow :=
  { r with
    domain := f.domain
    severity := severity
    lastSeenGen := c.generationId
    lastSeenAt := c.now
    findingClass := f.findingClass
    ruleHash := f.ruleHash
    absentGens := 0
    diagnosis := f.diagnosis
    basisState := (basisOf c f).1
    basisSourceId := f.basisSourceId
    basisWitnessId := f.basisWitnessId
    lastBasisGeneration := (basisOf c f).2.1
    basisStateAt := (basisOf c f).2.2
    stateKind := f.stateKind
    coverageEnvelope := f.coverageEnvelope
    nodeUnobservable := f.nodeUnobservableEnvelope
    silence := silenceOf f
    originMode := c.originMode }

/-- The INSERT arm. -/
def freshRow (c : Cycle) (f : Finding) (severity : String) : WarningRow :=
  WarningRow.write c f severity
    { host := f.host, kind := f.kind, subject := f.subject
      firstSeenGen := c.generationId, firstSeenAt := c.now
      lastSeenGen := c.generationId, lastSeenAt := c.now
      consecutiveGens := 1
      peakValue := f.value.bind F64.bind }

/-- The ON CONFLICT arm. -/
def revivedRow (c : Cycle) (f : Finding) (severity : String) (r : WarningRow) : WarningRow :=
  { r.write c f severity with
    consecutiveGens := caseConsecutive r c.generationId f.ruleHash
    peakValue := some (F64.max (r.peakValue.getD 0) ((f.value.bind F64.bind).getD 0))
    visibilityState := .observed
    suppressionReason := none
    suppressedSinceGen := none }

@[simp] theorem id_freshRow (c : Cycle) (f : Finding) (s : String) : (freshRow c f s).id = f.id := rfl
@[simp] theorem id_revivedRow (c : Cycle) (f : Finding) (s : String) (r : WarningRow) :
    (revivedRow c f s r).id = r.id := rfl

def severityOf (c : Cycle) (prev : Option WarningRow) (f : Finding) : String :=
  computeSeverity f.kind f.stateKind (newGens prev c.generationId f) c.escalation

/-- The row the upsert leaves under a finding's identity, `prev` being the row before. -/
def emittedRow (c : Cycle) (prev : Option WarningRow) (f : Finding) : WarningRow :=
  prev.elim (freshRow c f (severityOf c prev f)) (revivedRow c f (severityOf c prev f))

/-! ## The loop -/

def observationOf (c : Cycle) (f : Finding) (severity : String) : ObservationRow :=
  { generationId := c.generationId, findingKey := f.key, detectorId := f.kind, host := f.host, subject := f.subject
    domain := f.domain, severity := severity, value := f.value.bind F64.bind, findingClass := f.findingClass
    ruleHash := f.ruleHash, observedAt := c.now }

/-- INSERT INTO finding_observations: unique per generation and key, and the generation exists. -/
def insertObservation (db : Db) (o : ObservationRow) : Except DbError Db :=
  match db.findingObservations.insert? o with
  | none => .error .uniqueViolation
  | some obs =>
    if (db.generations.get o.generationId).isSome then .ok { db with findingObservations := obs }
    else .error .foreignKeyViolation

/-- One turn: the evidence row first, then the upsert. -/
def recordFinding (c : Cycle) (db : Db) (f : Finding) : Except DbError Db := do
  let severity := severityOf c (db.warningState.get f.id) f
  let db ← insertObservation db (observationOf c f severity)
  return { db with
    warningState := db.warningState.upsert (freshRow c f severity)
      (revivedRow c f severity) (id_revivedRow c f severity) }

def recordFindings (c : Cycle) (db : Db) (findings : List Finding) : Except DbError Db :=
  findings.foldlM (recordFinding c) db

theorem insertObservation_ok {o : ObservationRow} :
    insertObservation db o = .ok db' ↔ (db.generations.get o.generationId).isSome = true ∧
      ∃ obs, db.findingObservations.insert? o = some obs ∧ db' = { db with findingObservations := obs } := by
  unfold insertObservation
  cases db.findingObservations.insert? o with
  | none => simp
  | some obs => by_cases hg : (db.generations.get o.generationId).isSome = true <;> simp [hg, eq_comm]

/-- What the loop leaves: every emitted identity holds the row its own turn wrote, in
    both tables; nothing else has changed. -/
structure Recorded (c : Cycle) (db : Db) (findings : List Finding) (db' : Db) : Prop where
  generation : ∀ f ∈ findings, (db.generations.get c.generationId).isSome = true
  nodup : (findings.map Finding.id).Nodup
  unrecorded : ∀ f ∈ findings, db.findingObservations.get (c.generationId, f.key) = none
  rows : ∀ k, db'.warningState.get k =
    (findings.find? (·.id = k)).elim (db.warningState.get k) (fun f => some (emittedRow c (db.warningState.get k) f))
  observations : ∀ p, db'.findingObservations.get p =
    (findings.find? fun f => (c.generationId, f.key) = p).elim (db.findingObservations.get p)
      (fun f => some (observationOf c f (severityOf c (db.warningState.get f.id) f)))
  frame : db' = { db with warningState := db'.warningState, findingObservations := db'.findingObservations }

/-- One turn, as the first of a loop's. -/
theorem recordFinding_ok (h : recordFinding c db f = .ok db') : Recorded c db [f] db' := by
  unfold recordFinding at h
  obtain ⟨db₁, h₁, h⟩ := Sql.bind_ok.mp h
  obtain ⟨hg, obs, hobs, rfl⟩ := insertObservation_ok.mp h₁
  obtain ⟨hnone, hget⟩ := Table.insert?_eq_some hobs
  cases h
  clear h h₁
  refine ⟨?_, ?_, ?_, ?_, ?_, rfl⟩
  · intro f' _; exact hg
  · simp
  · intro f' hf'
    rw [mem_singleton] at hf'
    subst hf'
    exact hnone
  · intro k
    rw [Table.get_upsert]
    by_cases e : f.id = k
    · subst e; simp [emittedRow]
    · simp [e, Ne.symm e]
  · intro p
    rw [hget]
    by_cases e : (c.generationId, f.key) = p
    · subst e; simp [ObservationRow.pk, observationOf]
    · simp [e, ObservationRow.pk, observationOf, Ne.symm e]

theorem Recorded.nil (c : Cycle) (db : Db) : Recorded c db [] db :=
  ⟨by simp, by simp, by simp, by simp, by simp, rfl⟩

theorem Recorded.cons {db₁ db₂ : Db} (h : Recorded c db [f] db₁) (hs : Recorded c db₁ fs db₂) :
    Recorded c db (f :: fs) db₂ := by
  have hobs : ∀ f' ∈ fs, f'.key ≠ f.key ∧ db.findingObservations.get (c.generationId, f'.key) = none := by
    intro f' hf'
    have hn := hs.unrecorded f' hf'
    rw [h.observations] at hn
    by_cases e : f.key = f'.key
    · simp [e] at hn
    · exact ⟨fun h => e h.symm, by simpa [e] using hn⟩
  have hid : ∀ f' ∈ fs, f'.id ≠ f.id := fun f' hf' e => (hobs f' hf').1 (Finding.key_eq_iff.mpr e)
  have hrow : ∀ f' ∈ fs, db₁.warningState.get f'.id = db.warningState.get f'.id := by
    intro f' hf'
    rw [h.rows]
    simp [(hid f' hf').symm]
  refine ⟨fun _ _ => h.generation f (by simp), ?_, ?_, ?_, ?_, ?_⟩
  · rw [map_cons, nodup_cons]
    refine ⟨?_, hs.nodup⟩
    intro hmem
    obtain ⟨f', hf', e⟩ := List.mem_map.mp hmem
    exact hid f' hf' e
  · intro f' hf'
    rcases mem_cons.mp hf' with rfl | hf'
    · exact h.unrecorded _ (by simp)
    · exact (hobs f' hf').2
  · intro k
    rw [hs.rows, h.rows]
    by_cases e : f.id = k
    · subst e
      have hnone : fs.find? (·.id = f.id) = none := by
        refine find?_eq_none.mpr fun f' hf' => ?_
        simpa using hid f' hf'
      simp [hnone]
    · simp [e]
  · intro p
    rw [hs.observations, h.observations]
    by_cases e : (c.generationId, f.key) = p
    · subst e
      have hnone : fs.find? (fun f' => decide (f'.key = f.key)) = none := by
        refine find?_eq_none.mpr fun f' hf' => ?_
        simpa using (hobs f' hf').1
      simp [hnone]
    · cases hfind : fs.find? (fun f' => (c.generationId, f'.key) = p) with
      | none => simp [e, hfind]
      | some f' => simp [e, hfind, hrow f' (mem_of_find?_eq_some hfind)]
  · rw [hs.frame, h.frame]

theorem recordFindings_recorded : ∀ {db db' : Db}, recordFindings c db fs = .ok db' → Recorded c db fs db' := by
  induction fs with
  | nil =>
    intro db db' h
    cases h
    exact Recorded.nil c db
  | cons f fs ih =>
    intro db db' h
    unfold recordFindings at h
    rw [foldlM_cons] at h
    obtain ⟨db₁, h₁, h₂⟩ := Sql.bind_ok.mp h
    exact (recordFinding_ok h₁).cons (ih h₂)

theorem recordFinding_isOk (hg : (db.generations.get c.generationId).isSome = true)
    (hn : db.findingObservations.get (c.generationId, f.key) = none) : ∃ db', recordFinding c db f = .ok db' := by
  have hi : (db.findingObservations.insert? (observationOf c f (severityOf c (db.warningState.get f.id) f))).isSome :=
    Table.insert?_isSome.mpr hn
  obtain ⟨obs, hobs⟩ := Option.isSome_iff_exists.mp hi
  exact ⟨_, Sql.bind_ok.mpr ⟨_, insertObservation_ok.mpr ⟨hg, obs, hobs, rfl⟩, rfl⟩⟩

/-- The loop runs through exactly when the generation exists, the identities are distinct
    and none of them has been recorded in this generation. -/
theorem recordFindings_ok : ∀ {db : Db},
    (∃ db', recordFindings c db fs = .ok db') ↔
      (∀ f ∈ fs, (db.generations.get c.generationId).isSome = true) ∧ (fs.map Finding.id).Nodup ∧
      ∀ f ∈ fs, db.findingObservations.get (c.generationId, f.key) = none := by
  intro db
  constructor
  · rintro ⟨db', h⟩
    have hr := recordFindings_recorded h
    exact ⟨hr.generation, hr.nodup, hr.unrecorded⟩
  · induction fs generalizing db with
    | nil => intro _; exact ⟨db, rfl⟩
    | cons f fs ih =>
      rintro ⟨hg, hn, hu⟩
      obtain ⟨db₁, h₁⟩ := recordFinding_isOk (hg f (by simp)) (hu f (by simp))
      have hr := recordFinding_ok h₁
      rw [map_cons, nodup_cons] at hn
      have hrest : ∃ db', recordFindings c db₁ fs = .ok db' := by
        refine ih ⟨?_, hn.2, ?_⟩
        · intro f' hf'
          rw [hr.frame]
          exact hg f (by simp)
        · intro f' hf'
          have e : f.key ≠ f'.key :=
            fun e => hn.1 (Finding.key_eq_iff.mp e ▸ mem_map_of_mem hf')
          rw [hr.observations]
          simp [e, hu f' (mem_cons_of_mem _ hf')]
      obtain ⟨db', h'⟩ := hrest
      exact ⟨db', Sql.bind_ok.mpr ⟨db₁, h₁, h'⟩⟩

/-! ## Stability -/

def stabilityWindow : Int := 10
def observationWindow : Int := 24

/-- COUNT(DISTINCT generation_id) of a key's observations after `windowStart`. -/
def observedInWindow (obs : Table ObservationRow.pk) (findingKey : String) (windowStart : Int) : Nat :=
  (((obs.rows.filter fun o => o.findingKey = findingKey ∧ o.generationId > windowStart).map
    ObservationRow.generationId).dedup).length

def stabilityOf (obs : Table ObservationRow.pk) (generationId : Int) (findingKey : String) (gens : Int) : Stability :=
  if gens < stabilityWindow then .new
  else
    let windowGens := min observationWindow generationId
    let gaps := windowGens - observedInWindow obs findingKey (generationId - observationWindow)
    if gaps ≥ 2 then .flickering else .stable

def WarningRow.setStability (s : Stability) (r : WarningRow) : WarningRow := { r with stability := some s }

theorem id_setStability (s : Stability) (r : WarningRow) : (r.setStability s).id = r.id := rfl

def setStability (c : Cycle) (db : Db) (f : Finding) : Db :=
  let gens := ((db.warningState.get f.id).map WarningRow.consecutiveGens).getD 0
  let stability := stabilityOf db.findingObservations c.generationId f.key gens
  { db with
    warningState := db.warningState.updateKey f.id (·.setStability stability) (id_setStability stability) }

def setStabilities (c : Cycle) (db : Db) (findings : List Finding) : Db := findings.foldl (setStability c) db

/-- What the pass makes of one row. -/
def stabilized (c : Cycle) (obs : Table ObservationRow.pk) (r : WarningRow) : WarningRow :=
  r.setStability (stabilityOf obs c.generationId r.id.key r.consecutiveGens)

theorem get_setStability (c : Cycle) (db : Db) (f : Finding) (k : FindingId) :
    (setStability c db f).warningState.get k =
      (db.warningState.get k).map fun r => if k = f.id then stabilized c db.findingObservations r else r := by
  simp only [setStability, Table.get_updateKey]
  by_cases e : k = f.id
  · subst e
    cases h : db.warningState.get f.id with
    | none => simp
    | some r =>
      have hr : r.id = f.id := Table.key_of_get h
      simp only [if_true, Option.map_some, Option.getD_some, stabilized, hr]
      rfl
  · simp [e]

theorem get_setStabilities (c : Cycle) (fs : List Finding) (k : FindingId) : ∀ db : Db,
    (setStabilities c db fs).warningState.get k = (db.warningState.get k).map fun r =>
      if k ∈ fs.map Finding.id then stabilized c db.findingObservations r else r := by
  induction fs with
  | nil => intro db; simp [setStabilities]
  | cons f fs ih =>
    intro db
    have hobs : (setStability c db f).findingObservations = db.findingObservations := rfl
    have := ih (setStability c db f)
    rw [get_setStability, hobs, Option.map_map] at this
    refine this.trans (congrArg (Option.map · _) (funext fun r => ?_))
    rw [map_cons]
    by_cases e : k = f.id
    · have : ∀ r, stabilized c db.findingObservations (stabilized c db.findingObservations r) =
          stabilized c db.findingObservations r := fun _ => rfl
      simp [e, this]
    · simp [e]

theorem setStabilities_frame (c : Cycle) (fs : List Finding) :
    ∀ db : Db, setStabilities c db fs = { db with warningState := (setStabilities c db fs).warningState } := by
  induction fs with
  | nil => intro db; rfl
  | cons f fs ih => intro db; exact ih (setStability c db f)

end Nq
