/-
  Nq.Operator.Actions — the operator's work-state actions (`nq-db/src/finding_actions.rs`).

  A request names a finding by its opaque canonical key and says which work state and which
  generation the operator reviewed. One immediate transaction checks the preconditions
  again, updates the row and appends the transition. What the code takes from the `time`
  crate is a parameter (`TimeLib`); instants are nanoseconds. The explanatory texts of an
  action's contract are left out.

  - `resolve_ok`: the row a key resolves to, and that it is the only one;
  - `transition_ok`: what a committed request saw and what it leaves (`Acted`).
-/

import Nq.Detect.Views
import Nq.Lifecycle.Work
import Nq.Text.Words

namespace Nq

open Sql (Table)

def minTtlHours : Int := 1
def maxTtlHours : Int := 720
def findingActionMaxAgeSeconds : Int := 300

inductive FindingAction where
  | acknowledge | watch | quiesce | close | suppress | reset
  deriving DecidableEq, Repr

def FindingAction.targetWorkState : FindingAction → WorkState
  | .acknowledge => .acknowledged
  | .watch => .watching
  | .quiesce => .quiesced
  | .close => .closed
  | .suppress => .suppressed
  | .reset => .new

inductive NotificationEffect where
  | continue_ | pause | resumeEligibility
  deriving DecidableEq, Repr

inductive TtlPolicy where
  | unsupported
  | optionalBounded (minHours maxHours : Int)
  deriving DecidableEq, Repr

structure FindingActionContract where
  action : FindingAction
  label : String
  targetWorkState : WorkState
  notificationEffect : NotificationEffect
  ttlPolicy : TtlPolicy
  reversible : Bool
  deriving DecidableEq, Repr

def FindingAction.contract (a : FindingAction) : FindingActionContract :=
  let bounded := TtlPolicy.optionalBounded minTtlHours maxTtlHours
  match a with
  | .acknowledge => ⟨a, "Acknowledge", a.targetWorkState, .continue_, bounded, true⟩
  | .watch => ⟨a, "Watch", a.targetWorkState, .continue_, .unsupported, true⟩
  | .quiesce => ⟨a, "Quiesce", a.targetWorkState, .pause, bounded, true⟩
  | .close => ⟨a, "Close", a.targetWorkState, .pause, .unsupported, true⟩
  | .suppress => ⟨a, "Suppress", a.targetWorkState, .pause, bounded, true⟩
  | .reset => ⟨a, "Reset", a.targetWorkState, .resumeEligibility, .unsupported, true⟩

structure FindingActionRequest where
  findingKey : String
  action : FindingAction
  expectedWorkState : WorkState
  expectedLastSeenGen : Int
  note : Option String := none
  owner : Option String := none
  actor : Option String := none
  ttlHours : Option Int := none
  deriving DecidableEq, Repr

structure FindingActionTarget where
  findingKey : String
  host : String
  detectorId : String
  subject : String
  workState : WorkState
  lastSeenGen : Int
  lastSeenAt : String
  basisState : BasisState
  deriving DecidableEq, Repr

structure FindingActionReceipt where
  target : FindingActionTarget
  contract : FindingActionContract
  fromWorkState : WorkState
  toWorkState : WorkState
  appliedAt : String
  expiresAt : Option String
  transitionId : Int
  deriving DecidableEq, Repr

inductive FindingStaleReason where
  | visibilityNotObserved (visibilityState : Visibility)
  | findingRecovering (absentGens : Int)
  | behindLatestGeneration (lastSeenGen latestGeneration : Int)
  | noPublishedGeneration
  | latestGenerationNotComplete (status : GenerationStatus)
  | generationTimestampUnavailable (completedAt : String)
  | latestGenerationTooOld (completedAt : String) (ageSeconds maxAgeSeconds : Int)
  | latestGenerationFromFuture (completedAt : String) (futureSeconds : Int)
  | findingTimestampUnavailable (lastSeenAt : String)
  | findingObservationTooOld (lastSeenAt : String) (ageSeconds maxAgeSeconds : Int)
  | findingObservationFromFuture (lastSeenAt : String) (futureSeconds : Int)
  | findingObservationGenerationMismatch (observationGeneration lifecycleGeneration : Int)
  | basisNotCurrent (basisState : BasisState)
  deriving DecidableEq, Repr

inductive FindingActionError where
  | notFound (findingKey : String)
  | stale (findingKey : String) (reason : FindingStaleReason)
  | conflict (findingKey field expected actual : String)
  | invalid (field detail : String)
  deriving DecidableEq, Repr

structure ResolvedTarget where
  host : String
  kind : String
  subject : String
  workState : WorkState
  lastSeenGen : Int
  lastSeenAt : String
  observationGeneration : Option Int
  observationAt : Option String
  visibilityState : Visibility
  absentGens : Int
  basisState : BasisState
  deriving DecidableEq, Repr

def ResolvedTarget.id (t : ResolvedTarget) : FindingId := ⟨t.host, t.kind, t.subject⟩

def ResolvedTarget.target (t : ResolvedTarget) (findingKey : String) : FindingActionTarget :=
  ⟨findingKey, t.host, t.kind, t.subject, t.workState, t.lastSeenGen, t.observationAt.getD t.lastSeenAt, t.basisState⟩

/-! ## The request -/

def isBlank (s : String) : Bool := (Text.trim s.toList).isEmpty

def FindingAction.expires (a : FindingAction) : Bool := a ∈ [.acknowledge, .quiesce, .suppress]

def validateRequest (q : FindingActionRequest) : Except FindingActionError Unit :=
  if isBlank q.findingKey then .error (.invalid "finding_key" "must not be empty")
  else if q.expectedLastSeenGen < 1 then
    .error (.invalid "expected_last_seen_gen" "must be a positive generation identifier")
  else if q.actor.all isBlank then .error (.invalid "actor" "is required for durable transition history")
  else if q.owner.any isBlank then .error (.invalid "owner" "must be omitted rather than blank")
  else match q.ttlHours with
    | none => .ok ()
    | some ttl =>
      if !q.action.expires then
        .error (.invalid "ttl_hours"
          (q.action.contract.label ++ " does not support expiry; only acknowledge, quiesce, and suppress do"))
      else if ¬(minTtlHours ≤ ttl ∧ ttl ≤ maxTtlHours) then
        .error (.invalid "ttl_hours"
          ("must be between " ++ toString minTtlHours ++ " and " ++ toString maxTtlHours ++ " hours"))
      else .ok ()

/-- Parsing and formatting RFC3339, and addition within the supported range. -/
structure TimeLib where
  parse : String → Except String Int
  format : Int → Except String String
  checkedAdd : Int → Int → Option Int

section

variable (time : TimeLib)

def formatTimestamp (value : Int) : Except FindingActionError String :=
  match time.format value with
  | .ok s => .ok s
  | .error e => .error (.invalid "now" ("cannot format injected timestamp: " ++ e))

def expirationAt (q : FindingActionRequest) (now : Int) : Except FindingActionError (Option String) :=
  match q.ttlHours with
  | none => .ok none
  | some ttl =>
    match time.checkedAdd now (ttl * 3600000000000) with
    | none => .error (.invalid "now" "timestamp plus TTL is outside the supported range")
    | some expires => do return some (← formatTimestamp time expires)

/-! ## Resolving and validating the target -/

def resolveByCanonicalKey (db : Db) (findingKey : String) : Except FindingActionError (Option ResolvedTarget) :=
  match db.warningState.rows.filter (·.id.key = findingKey) with
  | [] => .ok none
  | [r] =>
    let latest := Sql.firstBy (fun o o' : ObservationRow => o'.generationId < o.generationId)
      (db.findingObservations.rows.filter (·.findingKey = findingKey))
    .ok (some ⟨r.host, r.kind, r.subject, r.workState, r.lastSeenGen, r.lastSeenAt,
      latest.map (·.generationId), latest.map (·.observedAt), r.visibilityState, r.absentGens, r.basisState⟩)
  | _ :: _ :: _ => .error (.invalid "finding_key" "canonical key resolved to more than one current row")

def validateActionTimestamp (q : FindingActionRequest) (now : Int) (timestamp : String)
    (unavailable : String → FindingStaleReason) (tooOld fromFuture : String → Int → FindingStaleReason) :
    Except FindingActionError Unit :=
  match time.parse timestamp with
  | .error _ => .error (.stale q.findingKey (unavailable timestamp))
  | .ok observedAt =>
    let ageSeconds := (now - observedAt).tdiv 1000000000
    if ageSeconds < 0 then .error (.stale q.findingKey (fromFuture timestamp (-ageSeconds)))
    else if ageSeconds > findingActionMaxAgeSeconds then .error (.stale q.findingKey (tooOld timestamp ageSeconds))
    else .ok ()

def resolveAndValidate (db : Db) (q : FindingActionRequest) (now : Int) : Except FindingActionError ResolvedTarget := do
  match ← resolveByCanonicalKey db q.findingKey with
  | none => .error (.notFound q.findingKey)
  | some t =>
    if t.workState ≠ q.expectedWorkState then
      .error (.conflict q.findingKey "work_state" q.expectedWorkState.asStr t.workState.asStr)
    else if t.lastSeenGen ≠ q.expectedLastSeenGen then
      .error (.conflict q.findingKey "last_seen_gen" (toString q.expectedLastSeenGen) (toString t.lastSeenGen))
    else if t.observationGeneration.any (· ≠ t.lastSeenGen) then
      .error (.stale q.findingKey
        (.findingObservationGenerationMismatch (t.observationGeneration.getD 0) t.lastSeenGen))
    else if t.visibilityState ≠ .observed then
      .error (.stale q.findingKey (.visibilityNotObserved t.visibilityState))
    else if t.absentGens ≠ 0 then .error (.stale q.findingKey (.findingRecovering t.absentGens))
    else if t.basisState ≠ .live then .error (.stale q.findingKey (.basisNotCurrent t.basisState))
    else
      match db.latestGeneration with
      | none => .error (.stale q.findingKey .noPublishedGeneration)
      | some g =>
        if g.status ≠ .complete then .error (.stale q.findingKey (.latestGenerationNotComplete g.status))
        else if t.lastSeenGen ≠ g.generationId then
          .error (.stale q.findingKey (.behindLatestGeneration t.lastSeenGen g.generationId))
        else do
          validateActionTimestamp time q now g.completedAt .generationTimestampUnavailable
            (fun at_ age => .latestGenerationTooOld at_ age findingActionMaxAgeSeconds) .latestGenerationFromFuture
          validateActionTimestamp time q now (t.observationAt.getD t.lastSeenAt) .findingTimestampUnavailable
            (fun at_ age => .findingObservationTooOld at_ age findingActionMaxAgeSeconds) .findingObservationFromFuture
          return t

/-! ## The transition -/

/-- The UPDATE's SET clause; `Reset` keeps the owner and the note. -/
def WarningRow.act (q : FindingActionRequest) (expiresAt : Option String) (appliedAt : String) (r : WarningRow) :
    WarningRow :=
  { r with
    workState := q.action.targetWorkState
    workStateAt := some appliedAt
    owner := if q.action = .reset then r.owner else q.owner.or r.owner
    note := if q.action = .reset then r.note else q.note.or r.note
    ackExpiresAt := expiresAt
    acknowledged := match q.action with
      | .acknowledge => true
      | .reset => false
      | _ => r.acknowledged
    acknowledgedAt := match q.action with
      | .acknowledge => some appliedAt
      | .reset => none
      | _ => r.acknowledgedAt }

/-- The UPDATE's WHERE clause. -/
def FindingActionRequest.guards (q : FindingActionRequest) (t : ResolvedTarget) (r : WarningRow) : Bool :=
  r.id = t.id && r.workState = q.expectedWorkState && r.lastSeenGen = q.expectedLastSeenGen &&
    r.visibilityState = .observed && r.absentGens = 0

def FindingActionRequest.update (q : FindingActionRequest) (t : ResolvedTarget) (expiresAt : Option String)
    (appliedAt : String) (r : WarningRow) : WarningRow :=
  if q.guards t r then r.act q expiresAt appliedAt else r

theorem id_actionUpdate (q : FindingActionRequest) (t : ResolvedTarget) (expiresAt : Option String) (appliedAt : String)
    (r : WarningRow) : (q.update t expiresAt appliedAt r).id = r.id := by
  unfold FindingActionRequest.update; split <;> rfl

def FindingActionRequest.entry (q : FindingActionRequest) (t : ResolvedTarget) (appliedAt : String) : TransitionRow :=
  ⟨t.id, t.workState.asStr, q.action.targetWorkState.asStr, q.actor, q.note, appliedAt⟩

def transitionFindingAction (db : Db) (q : FindingActionRequest) (now : Int) :
    Except FindingActionError (Db × FindingActionReceipt) := do
  validateRequest q
  let expiresAt ← expirationAt time q now
  let appliedAt ← formatTimestamp time now
  let t ← resolveAndValidate time db q now
  if (db.warningState.rows.filter (q.guards t)).length ≠ 1 then
    .error (.conflict q.findingKey "target"
      ("work_state=" ++ q.expectedWorkState.asStr ++ ", last_seen_gen=" ++ toString q.expectedLastSeenGen ++
        ", observed and present") "target changed while applying action")
  else
    -- transitions are never deleted, so the rowids are 1, 2, …
    let transitionId : Int := db.findingTransitions.length + 1
    return ({ db with
        warningState := db.warningState.update (q.update t expiresAt appliedAt)
          (id_actionUpdate q t expiresAt appliedAt)
        findingTransitions := db.findingTransitions ++ [q.entry t appliedAt] },
      ⟨t.target q.findingKey, q.action.contract, t.workState, q.action.targetWorkState, appliedAt, expiresAt,
        transitionId⟩)

end

/-! ## What a commit saw and what it leaves -/

theorem FindingId.key_inj {k k' : FindingId} (h : k.key = k'.key) : k = k' := by
  obtain ⟨hh, hk, hs⟩ := computeFindingKey_inj h
  cases k
  cases k'
  simp_all

variable {t : ResolvedTarget}

theorem resolve_ok {db : Db} {findingKey : String} (h : resolveByCanonicalKey db findingKey = .ok (some t)) :
    ∃ r, db.warningState.get t.id = some r ∧ t.id.key = findingKey ∧ t.workState = r.workState ∧
      t.lastSeenGen = r.lastSeenGen ∧ t.visibilityState = r.visibilityState ∧ t.absentGens = r.absentGens ∧
      t.basisState = r.basisState := by
  unfold resolveByCanonicalKey at h
  split at h
  · cases h
  · rename_i r hr
    have hmem : r ∈ db.warningState.rows.filter (·.id.key = findingKey) := by rw [hr]; exact List.mem_singleton.mpr rfl
    obtain ⟨hmem, hkey⟩ := List.mem_filter.mp hmem
    cases h
    exact ⟨r, Table.get_of_mem hmem, of_decide_eq_true hkey, rfl, rfl, rfl, rfl, rfl⟩
  · cases h

variable {time : TimeLib} {db db' : Db} {q : FindingActionRequest} {now : Int}

/-- What `resolve_and_validate` has checked of the row and of the latest generation. -/
structure Reviewed (db : Db) (q : FindingActionRequest) (r : WarningRow) : Prop where
  workState : r.workState = q.expectedWorkState
  lastSeenGen : r.lastSeenGen = q.expectedLastSeenGen
  visibility : r.visibilityState = .observed
  absent : r.absentGens = 0
  basis : r.basisState = .live
  latest : ∃ g, db.latestGeneration = some g ∧ g.status = .complete ∧ g.generationId = r.lastSeenGen

theorem resolveAndValidate_ok (h : resolveAndValidate time db q now = .ok t) :
    ∃ r, db.warningState.get t.id = some r ∧ t.id.key = q.findingKey ∧ t.workState = r.workState ∧ Reviewed db q r := by
  unfold resolveAndValidate at h
  obtain ⟨found, hfound, h⟩ := Sql.bind_ok.mp h
  cases found with
  | none => cases h
  | some t' =>
    simp only [Sql.ite_error_ok, not_not] at h
    obtain ⟨hwork, hgen, _, hvis, habs, hbasis, h⟩ := h
    cases hlatest : db.latestGeneration with
    | none => rw [hlatest] at h; cases h
    | some g =>
      rw [hlatest] at h
      simp only [Sql.ite_error_ok, ne_eq, not_not] at h
      obtain ⟨hcomplete, hlast, h⟩ := h
      obtain ⟨_, _, h⟩ := Sql.bind_ok.mp h
      obtain ⟨_, _, h⟩ := Sql.bind_ok.mp h
      cases h
      obtain ⟨r, hr, hkey, hw, hg, hv, ha, hb⟩ := resolve_ok hfound
      exact ⟨r, hr, hkey, hw, hw ▸ hwork, hg ▸ hgen, hv ▸ hvis, ha ▸ habs, hb ▸ hbasis, g, hlatest, hcomplete,
        hlast.symm.trans hg⟩

/-- A committed request: the row it saw, and what it leaves. -/
structure Acted (time : TimeLib) (db : Db) (q : FindingActionRequest) (now : Int) (db' : Db)
    (receipt : FindingActionReceipt) (r : WarningRow) : Prop where
  key : r.id.key = q.findingKey
  before : db.warningState.get r.id = some r
  reviewed : Reviewed db q r
  valid : validateRequest q = .ok ()
  expiry : expirationAt time q now = .ok receipt.expiresAt
  appliedAt : formatTimestamp time now = .ok receipt.appliedAt
  after : ∀ k, db'.warningState.get k =
    if k = r.id then some (r.act q receipt.expiresAt receipt.appliedAt) else db.warningState.get k
  transitions : db'.findingTransitions = db.findingTransitions ++
    [⟨r.id, q.expectedWorkState.asStr, q.action.targetWorkState.asStr, q.actor, q.note, receipt.appliedAt⟩]
  frame : db' = { db with warningState := db'.warningState, findingTransitions := db'.findingTransitions }

theorem guards_iff {r : WarningRow} (hr : db.warningState.get t.id = some r) (h : Reviewed db q r) {r' : WarningRow}
    (hr' : r' ∈ db.warningState.rows) : q.guards t r' = true ↔ r' = r := by
  constructor
  · intro hg
    simp only [FindingActionRequest.guards, Bool.and_eq_true, decide_eq_true_eq] at hg
    have hget := Table.get_of_mem hr'
    rw [hg.1.1.1.1, hr] at hget
    exact (Option.some.inj hget).symm
  · rintro rfl
    simp [FindingActionRequest.guards, Table.key_of_get hr, h.workState, h.lastSeenGen, h.visibility, h.absent]

theorem transition_ok {receipt : FindingActionReceipt}
    (h : transitionFindingAction time db q now = .ok (db', receipt)) :
    ∃ r, Acted time db q now db' receipt r := by
  unfold transitionFindingAction at h
  obtain ⟨_, hvalid, h⟩ := Sql.bind_ok.mp h
  obtain ⟨expiresAt, hexp, h⟩ := Sql.bind_ok.mp h
  obtain ⟨appliedAt, happ, h⟩ := Sql.bind_ok.mp h
  obtain ⟨t, ht, h⟩ := Sql.bind_ok.mp h
  obtain ⟨_, h⟩ := Sql.ite_error_ok.mp h
  cases h
  obtain ⟨r, hr, hkey, hwork, hrev⟩ := resolveAndValidate_ok ht
  have hid : r.id = t.id := Table.key_of_get hr
  have hentry : q.entry t appliedAt =
      ⟨r.id, q.expectedWorkState.asStr, q.action.targetWorkState.asStr, q.actor, q.note, appliedAt⟩ := by
    rw [FindingActionRequest.entry, hwork, hrev.workState, hid]
  refine ⟨r, hid ▸ hkey, hid ▸ hr, hrev, hvalid, hexp, happ, ?_, congrArg (db.findingTransitions ++ [·]) hentry, rfl⟩
  intro k
  refine (Table.get_update db.warningState _ (id_actionUpdate q t expiresAt appliedAt) k).trans ?_
  cases hget : db.warningState.get k with
  | none =>
    have hne : k ≠ r.id := by
      intro e
      rw [e, hid, hr] at hget
      cases hget
    simp [hne]
  | some r' =>
    have hguard := guards_iff hr hrev (Table.mem_of_get hget)
    have hk : r'.id = k := Table.key_of_get hget
    by_cases e : k = r.id
    · have hrr : r' = r := by
        rw [e, hid, hr] at hget
        exact (Option.some.inj hget).symm
      subst hrr
      simp [e, FindingActionRequest.update, hguard.mpr rfl]
    · have hne : ¬ q.guards t r' = true := fun hg => e (hk ▸ congrArg WarningRow.id (hguard.mp hg))
      simp [e, FindingActionRequest.update, hne]

/-- A committed request sets a lifetime only on a state that can expire. -/
theorem expires_of_expiry (hvalid : validateRequest q = .ok ()) {expiresAt : Option String}
    (h : expirationAt time q now = .ok expiresAt) (hsome : expiresAt.isSome = true) : q.action.expires = true := by
  unfold expirationAt at h
  unfold validateRequest at hvalid
  simp only [Sql.ite_error_ok] at hvalid
  obtain ⟨_, _, _, _, hvalid⟩ := hvalid
  cases httl : q.ttlHours with
  | none =>
    rw [httl] at h
    cases h
    cases hsome
  | some ttl =>
    rw [httl] at hvalid
    simp only [Sql.ite_error_ok] at hvalid
    simpa using hvalid.1

end Nq
