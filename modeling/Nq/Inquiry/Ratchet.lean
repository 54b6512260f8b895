/-
  Nq.Inquiry.Ratchet — grants, and how the position under one moves (`nq-core/src/inquiry.rs`).

  A position is admitted under a grant that contains it (`admitInitialPosition_ok`). A
  transition is authorized when it narrows its position and makes progress
  (`authorizeSameGrantTransition_ok`): twelve refusals in a row come to one order, `Narrows`,
  which is transitive. What holds of one authorized step therefore holds between any two
  positions of a run (`ratchet_run`), and since a step leaves less to narrow or to spend
  (`Authorized.measure_lt`), runs end.
-/

import Nq.Inquiry.Profile

namespace Nq.Inquiry

open Collections
open List

section

variable (env : Env)

/-! ## Validation -/

def validateRatchetScope (field : String) (scope : BTreeSet TlsTarget) : Except String Unit :=
  checkDistinct (TlsTarget.validate (field ++ "[]")) TlsTarget.targetId
    (fun t => "duplicate " ++ field ++ " target_id " ++ debug env t.targetId) [] scope.toList

def Grant.validate (g : Grant) : Except String Unit := do
  rejectIf (g.schema ≠ grantSchema)
    ("unsupported inquiry grant schema " ++ debug env g.schema ++ "; expected " ++ debug env grantSchema)
  validateRatchetScope env "grant.admitted_scope" g.admittedScope

def Grant.grantDigest (g : Grant) : Except String String := do
  g.validate env
  digestJcs env (.grant g)

def Position.validate (p : Position) : Except String Unit := do
  rejectIf (p.schema ≠ positionSchema)
    ("unsupported inquiry position schema " ++ debug env p.schema ++ "; expected " ++ debug env positionSchema)
  validateRatchetScope env "position.scope" p.scope

def firstSpendDimensionOverLimit (candidate limit : AcquisitionSpend) : Option String :=
  if candidate.dnsAttempts > limit.dnsAttempts then some "dns_attempts"
  else if candidate.connectionAttempts > limit.connectionAttempts then some "connection_attempts"
  else if candidate.handshakesAttempted > limit.handshakesAttempted then some "handshakes_attempted"
  else if candidate.handshakesCompleted > limit.handshakesCompleted then some "handshakes_completed"
  else if candidate.boundChecks > limit.boundChecks then some "bound_checks"
  else if candidate.wallMs > limit.wallMs then some "wall_ms"
  else if candidate.workUnits > limit.workUnits then some "work_units"
  else none

def spendIsPointwiseAtMost (candidate limit : AcquisitionSpend) : Bool :=
  (firstSpendDimensionOverLimit candidate limit).isNone

/-- Containment under a grant. -/
def admitInitialPosition (grant : Grant) (position : Position) : Except String Unit := do
  grant.validate env
  position.validate env
  rejectIf (!decide (position.scope ⊆ grant.admittedScope)) "initial inquiry position scope is outside the grant"
  rejectIf (position.depth > grant.maxDepth) "initial inquiry position depth exceeds grant.max_depth"
  match firstSpendDimensionOverLimit position.remainingAcquisitionEnvelope grant.totalAcquisitionEnvelope with
  | some dimension => .error ("initial inquiry position remaining acquisition " ++ dimension ++
      " exceeds the grant envelope")
  | none => .ok ()

/-! ## Transitions -/

inductive TransitionRefusalKind where
  | invalidGrant | invalidCurrentPosition | invalidRequestedPosition | currentPositionOutsideGrant
  | requestedScopeOutsideGrant | depthExceedsGrant | requestedAcquisitionEnvelopeExceedsGrant | scopeWidening
  | depthRegression | acquisitionSpendReplenished | depthIncreaseRequiresStrictScopeNarrowing | noProgress
  deriving DecidableEq, Repr

inductive TransitionAdmissionResult where
  | authorized
  deriving DecidableEq, Repr

structure AuthorizedTransition where
  schema : String
  version : Version
  grantDigest : String
  beforePositionDigest : String
  requestedPositionDigest : String
  result : TransitionAdmissionResult
  deriving DecidableEq, Repr

structure TransitionRefusal where
  schema : String
  version : Version
  grantDigest : String
  beforePositionDigest : String
  requestedPositionDigest : String
  kind : TransitionRefusalKind
  deriving DecidableEq, Repr

/-- The digest of an artifact whose fields JCS can always represent. -/
def ratchetArtifactDigest (a : Artifact) (h : a.plain = true) : String :=
  match hd : digestJcs env a with
  | .ok d => d
  | .error _ => absurd (digestJcs_plain env h) fun hok => by
      obtain ⟨d, e⟩ := hok
      rw [hd] at e
      cases e

def authorizeSameGrantTransition (grant : Grant) (current requested : Position) :
    Except TransitionRefusal AuthorizedTransition :=
  let grantDigest := ratchetArtifactDigest env (.grant grant) rfl
  let beforePositionDigest := ratchetArtifactDigest env (.position current) rfl
  let requestedPositionDigest := ratchetArtifactDigest env (.position requested) rfl
  let refuse (kind : TransitionRefusalKind) : Except TransitionRefusal AuthorizedTransition := .error
    ⟨transitionRefusalSchema, .v0, grantDigest, beforePositionDigest, requestedPositionDigest, kind⟩
  let scopeStrictlyNarrowed := requested.scope ≠ current.scope
  let depthIncreased := requested.depth > current.depth
  let spendDecreased := requested.remainingAcquisitionEnvelope ≠ current.remainingAcquisitionEnvelope
  if !(grant.validate env).isOk then refuse .invalidGrant
  else if !(current.validate env).isOk then refuse .invalidCurrentPosition
  else if !(requested.validate env).isOk then refuse .invalidRequestedPosition
  else if !(admitInitialPosition env grant current).isOk then refuse .currentPositionOutsideGrant
  else if ¬requested.scope ⊆ grant.admittedScope then refuse .requestedScopeOutsideGrant
  else if requested.depth > grant.maxDepth then refuse .depthExceedsGrant
  else if !spendIsPointwiseAtMost requested.remainingAcquisitionEnvelope grant.totalAcquisitionEnvelope then
    refuse .requestedAcquisitionEnvelopeExceedsGrant
  else if ¬requested.scope ⊆ current.scope then refuse .scopeWidening
  else if requested.depth < current.depth then refuse .depthRegression
  else if !spendIsPointwiseAtMost requested.remainingAcquisitionEnvelope current.remainingAcquisitionEnvelope then
    refuse .acquisitionSpendReplenished
  else if depthIncreased ∧ ¬scopeStrictlyNarrowed then refuse .depthIncreaseRequiresStrictScopeNarrowing
  else if ¬scopeStrictlyNarrowed ∧ ¬depthIncreased ∧ ¬spendDecreased then refuse .noProgress
  else .ok ⟨authorizedTransitionSchema, .v0, grantDigest, beforePositionDigest, requestedPositionDigest, .authorized⟩

end

/-! ## Containment -/

/-- Counter by counter. -/
structure AcquisitionSpend.AtMost (a b : AcquisitionSpend) : Prop where
  dnsAttempts : a.dnsAttempts ≤ b.dnsAttempts
  connectionAttempts : a.connectionAttempts ≤ b.connectionAttempts
  handshakesAttempted : a.handshakesAttempted ≤ b.handshakesAttempted
  handshakesCompleted : a.handshakesCompleted ≤ b.handshakesCompleted
  boundChecks : a.boundChecks ≤ b.boundChecks
  wallMs : a.wallMs ≤ b.wallMs
  workUnits : a.workUnits ≤ b.workUnits

theorem AcquisitionSpend.AtMost.refl (a : AcquisitionSpend) : a.AtMost a :=
  ⟨le_rfl, le_rfl, le_rfl, le_rfl, le_rfl, le_rfl, le_rfl⟩

variable {a b : AcquisitionSpend}

theorem AcquisitionSpend.AtMost.trans {c : AcquisitionSpend} (h : a.AtMost b) (h' : b.AtMost c) : a.AtMost c :=
  ⟨h.1.trans h'.1, h.2.trans h'.2, h.3.trans h'.3, h.4.trans h'.4, h.5.trans h'.5, h.6.trans h'.6, h.7.trans h'.7⟩

theorem firstSpendDimensionOverLimit_eq_none : firstSpendDimensionOverLimit a b = none ↔ a.AtMost b := by
  unfold firstSpendDimensionOverLimit
  simp only [ite_eq_right_iff, reduceCtorEq, imp_false, Nat.not_lt, gt_iff_lt, ite_eq_iff, and_false, false_or]
  constructor
  · intro h
    obtain ⟨h₁, h₂, h₃, h₄, h₅, h₆, h₇⟩ := h
    exact ⟨h₁, h₂, h₃, h₄, h₅, h₆, h₇⟩
  · intro h
    exact ⟨h.1, h.2, h.3, h.4, h.5, h.6, h.7⟩

theorem spendIsPointwiseAtMost_iff : spendIsPointwiseAtMost a b = true ↔ a.AtMost b := by
  unfold spendIsPointwiseAtMost
  rw [Option.isNone_iff_eq_none, firstSpendDimensionOverLimit_eq_none]

/-- Contained in a grant. -/
structure Position.Within (p : Position) (g : Grant) : Prop where
  scope : p.scope ⊆ g.admittedScope
  depth : p.depth ≤ g.maxDepth
  remaining : p.remainingAcquisitionEnvelope.AtMost g.totalAcquisitionEnvelope

section

variable {env : Env} {grant : Grant} {position current requested : Position}
  {u : Unit} {positions : List Position}

theorem validateRatchetScope_ok {field : String} {scope : BTreeSet TlsTarget} :
    validateRatchetScope env field scope = .ok u ↔ ValidTargets scope.toList := checkTargets_ok

theorem Grant.validate_ok :
    grant.validate env = .ok u ↔ grant.schema = grantSchema ∧ ValidTargets grant.admittedScope.toList := by
  unfold Grant.validate
  simp only [Sql.bind_ok, exists_const, rejectIf_ok, validateRatchetScope_ok, decide_eq_false_iff_not, ne_eq, not_not]

theorem Position.validate_ok :
    position.validate env = .ok u ↔ position.schema = positionSchema ∧ ValidTargets position.scope.toList := by
  unfold Position.validate
  simp only [Sql.bind_ok, exists_const, rejectIf_ok, validateRatchetScope_ok, decide_eq_false_iff_not, ne_eq, not_not]

theorem admitInitialPosition_ok : admitInitialPosition env grant position = .ok u ↔
    grant.validate env = .ok u ∧ position.validate env = .ok u ∧ position.Within grant := by
  unfold admitInitialPosition
  simp only [check_ok, rejectIf_ok, Bool.not_eq_false', decide_eq_true_eq, decide_eq_false_iff_not,
    Nat.not_lt, gt_iff_lt]
  have hspend := firstSpendDimensionOverLimit_eq_none (a := position.remainingAcquisitionEnvelope)
    (b := grant.totalAcquisitionEnvelope)
  cases hfirst : firstSpendDimensionOverLimit position.remainingAcquisitionEnvelope grant.totalAcquisitionEnvelope with
  | some dimension =>
    constructor
    · intro h
      cases h.2.2.2.2
    · intro h
      rw [hspend.mpr h.2.2.remaining] at hfirst
      cases hfirst
  | none =>
    constructor
    · intro h
      exact ⟨h.1, h.2.1, h.2.2.1, h.2.2.2.1, hspend.mp hfirst⟩
    · intro h
      exact ⟨h.1, h.2.1, h.2.2.scope, h.2.2.depth, rfl⟩

/-! ## One transition -/

/-- What a transition may do to a position. -/
structure Narrows (current requested : Position) : Prop where
  scope : requested.scope ⊆ current.scope
  depth : current.depth ≤ requested.depth
  remaining : requested.remainingAcquisitionEnvelope.AtMost current.remainingAcquisitionEnvelope
  deeper : current.depth < requested.depth → requested.scope ⊂ current.scope

def Authorized (env : Env) (grant : Grant) (current requested : Position) : Prop :=
  ∃ receipt, authorizeSameGrantTransition env grant current requested = .ok receipt

theorem ite_error_ok {ε α : Type} {c : Prop} [Decidable c] {e : ε} {x : Except ε α} {a : α} :
    (if c then .error e else x) = .ok a ↔ ¬c ∧ x = .ok a := by
  by_cases h : c
  · simp [h]
  · simp [h]

theorem isOk_iff {x : Except String Unit} : x.isOk = true ↔ x = .ok () := by
  cases x with
  | error e => exact ⟨fun h => (nomatch h), fun h => (nomatch h)⟩
  | ok u => exact ⟨fun _ => rfl, fun _ => rfl⟩

/-- The twelve refusals together. -/
theorem authorizeSameGrantTransition_ok : Authorized env grant current requested ↔
    grant.validate env = .ok () ∧ current.validate env = .ok () ∧ requested.validate env = .ok () ∧
      current.Within grant ∧ requested.Within grant ∧ Narrows current requested ∧
      (requested.scope ≠ current.scope ∨
        requested.remainingAcquisitionEnvelope ≠ current.remainingAcquisitionEnvelope) := by
  unfold Authorized authorizeSameGrantTransition
  dsimp only
  simp only [ite_error_ok, exists_and_left]
  simp only [Bool.not_eq_true', Bool.not_eq_false, not_not, isOk_iff, admitInitialPosition_ok,
    spendIsPointwiseAtMost_iff, Nat.not_lt, gt_iff_lt, ne_eq]
  constructor
  · intro h
    obtain ⟨hg, hc, hr, ⟨_, _, hwithin⟩, hscope, hdepth, hspend, hsub, hdeep, hless, hdeeper, hprogress, _⟩ := h
    refine ⟨hg, hc, hr, hwithin, ⟨hscope, hdepth, hspend⟩,
      ⟨hsub, hdeep, hless, fun hlt => ⟨hsub, fun e => hdeeper ⟨hlt, e⟩⟩⟩, ?_⟩
    by_cases he : requested.scope = current.scope
    · refine Or.inr fun hsame => hprogress ⟨he, ?_, hsame⟩
      exact Nat.le_of_not_lt fun hlt => hdeeper ⟨hlt, he⟩
    · exact Or.inl he
  · intro h
    obtain ⟨hg, hc, hr, hwithin, hinside, hnarrows, hprogress⟩ := h
    refine ⟨hg, hc, hr, ⟨hg, hc, hwithin⟩, hinside.scope, hinside.depth, hinside.remaining, hnarrows.scope,
      hnarrows.depth, hnarrows.remaining, fun hd => (hnarrows.deeper hd.1).2 hd.2, fun hn => ?_, _, rfl⟩
    rcases hprogress with hp | hp
    · exact hp hn.1
    · exact hp hn.2.2

/-! ## Runs -/

theorem Narrows.trans {p q r : Position} (h : Narrows p q) (h' : Narrows q r) : Narrows p r := by
  refine ⟨BTreeSet.subset_trans h'.scope h.scope, h.depth.trans h'.depth, h'.remaining.trans h.remaining, fun hlt => ?_⟩
  by_cases hpq : p.depth < q.depth
  · exact BTreeSet.ssubset_of_subset_of_ssubset h'.scope (h.deeper hpq)
  · exact BTreeSet.ssubset_of_ssubset_of_subset (h'.deeper (by omega)) h.scope

/-- What there is to narrow and to spend. -/
def Position.measure (p : Position) : Nat :=
  let r := p.remainingAcquisitionEnvelope
  p.scope.card + (r.dnsAttempts + r.connectionAttempts + r.handshakesAttempted + r.handshakesCompleted + r.boundChecks +
    r.wallMs + r.workUnits)

theorem Authorized.measure_lt (h : Authorized env grant current requested) : requested.measure < current.measure := by
  obtain ⟨_, _, _, _, _, hnarrows, hprogress⟩ := authorizeSameGrantTransition_ok.mp h
  have hcard := BTreeSet.card_le hnarrows.scope
  obtain ⟨h₁, h₂, h₃, h₄, h₅, h₆, h₇⟩ := hnarrows.remaining
  unfold Position.measure
  dsimp only
  rcases hprogress with hscope | hspend
  · have hlt := BTreeSet.card_lt ⟨hnarrows.scope, hscope⟩
    omega
  · -- counters that do not grow and keep their sum are the same counters
    by_contra hge
    refine hspend ?_
    generalize requested.remainingAcquisitionEnvelope = a at *
    generalize current.remainingAcquisitionEnvelope = b at *
    obtain ⟨a₁, a₂, a₃, a₄, a₅, a₆, a₇⟩ := a
    obtain ⟨b₁, b₂, b₃, b₄, b₅, b₆, b₇⟩ := b
    dsimp only at *
    simp only [AcquisitionSpend.mk.injEq]
    omega

/-- Authorized steps, one after another. -/
def Run (env : Env) (grant : Grant) (positions : List Position) : Prop := positions.IsChain (Authorized env grant)

/-- Between any two positions of a run. -/
theorem ratchet_run (h : Run env grant positions) :
    positions.Pairwise fun p q => Narrows p q ∧ q.measure < p.measure := by
  have : IsTrans Position fun p q => Narrows p q ∧ q.measure < p.measure :=
    ⟨fun _ _ _ h h' => ⟨h.1.trans h'.1, h'.2.trans h.2⟩⟩
  refine isChain_iff_pairwise.mp (h.imp fun p q hpq => ?_)
  exact ⟨(authorizeSameGrantTransition_ok.mp hpq).2.2.2.2.2.1, hpq.measure_lt⟩

theorem Run.within : ∀ {p : Position}, p.Within grant → Run env grant (p :: positions) →
    ∀ q ∈ p :: positions, q.Within grant := by
  induction positions with
  | nil =>
    intro p hp _ q hq
    exact mem_singleton.mp hq ▸ hp
  | cons r positions ih =>
    intro p hp h q hq
    obtain ⟨hstep, hrest⟩ := isChain_cons_cons.mp h
    obtain ⟨_, _, _, _, hr, _⟩ := authorizeSameGrantTransition_ok.mp hstep
    rcases mem_cons.mp hq with e | hq
    · exact e ▸ hp
    · exact ih hr hrest q hq

/-- The steps of a run that go deeper. -/
def deepenings : List Position → Nat
  | p :: q :: rest => (if p.depth < q.depth then 1 else 0) + deepenings (q :: rest)
  | _ => 0

/-- Each step that goes deeper takes a target out of the scope. -/
theorem Run.deepenings_le : ∀ {p : Position}, Run env grant (p :: positions) →
    deepenings (p :: positions) ≤ p.scope.card := by
  induction positions with
  | nil =>
    intro p _
    exact Nat.zero_le _
  | cons q positions ih =>
    intro p h
    obtain ⟨hstep, hrest⟩ := isChain_cons_cons.mp h
    obtain ⟨_, _, _, _, _, hnarrows, _⟩ := authorizeSameGrantTransition_ok.mp hstep
    have hle := ih hrest
    have hcard := BTreeSet.card_le hnarrows.scope
    unfold deepenings
    by_cases hlt : p.depth < q.depth
    · have hcard := BTreeSet.card_lt (hnarrows.deeper hlt)
      rw [if_pos hlt]
      omega
    · rw [if_neg hlt]
      omega

theorem no_endless_run (f : Nat → Position) : ¬∀ i, Authorized env grant (f i) (f (i + 1)) := by
  intro h
  have hbound : ∀ i, (f i).measure + i ≤ (f 0).measure := by
    intro i
    induction i with
    | zero => exact Nat.le_refl _
    | succ i ih =>
      have hlt := (h i).measure_lt
      omega
  have hlast := hbound ((f 0).measure + 1)
  omega

/-- A transition is authorized exactly when it narrows a contained position and makes
    progress; so along every run from an admitted position nothing widens, resurfaces, is
    replenished or repeats, and every run ends. -/
theorem same_grant_ratchet (env : Env) (grant : Grant) :
    (∀ current requested, (∃ receipt, authorizeSameGrantTransition env grant current requested = .ok receipt) ↔
      grant.validate env = .ok () ∧ current.validate env = .ok () ∧ requested.validate env = .ok () ∧
      current.Within grant ∧ requested.Within grant ∧ Narrows current requested ∧
      (requested.scope ≠ current.scope ∨
        requested.remainingAcquisitionEnvelope ≠ current.remainingAcquisitionEnvelope)) ∧
    (∀ first rest, admitInitialPosition env grant first = .ok () → Run env grant (first :: rest) →
      (∀ p ∈ first :: rest, p.Within grant) ∧ (first :: rest).Pairwise Narrows ∧ (first :: rest).Nodup ∧
      deepenings (first :: rest) ≤ first.scope.card) ∧
    ∀ f : Nat → Position, ¬∀ i, Authorized env grant (f i) (f (i + 1)) := by
  refine ⟨fun _ _ => authorizeSameGrantTransition_ok, ?_, no_endless_run⟩
  intro first rest hfirst hrun
  have hpairs := ratchet_run hrun
  refine ⟨hrun.within (admitInitialPosition_ok.mp hfirst).2.2, hpairs.imp And.left, hpairs.imp ?_, hrun.deepenings_le⟩
  intro p q h e
  exact Nat.lt_irrefl _ (e ▸ h.2)

/-! ## A run under a grant -/

def mirror : TlsTarget := ⟨"mirror", "127.0.0.2", 443, "tls-lab.test"⟩

def twoTargetGrant : Grant where
  admittedScope := BTreeSet.ofList [loopback, mirror]
  maxDepth := 1
  totalAcquisitionEnvelope := ⟨2, 2, 2, 2, 2, 1000, 8⟩
  permittedWitnessClasses := BTreeSet.ofList [.tlsCertProbe]
  schema := grantSchema
  version := .v0

def positionOf (scope : List TlsTarget) (depth : Nat) (remaining : AcquisitionSpend) : Position :=
  ⟨positionSchema, .v0, BTreeSet.ofList scope, depth, remaining⟩

def wholeGrant : Position := positionOf [mirror, loopback] 0 ⟨2, 2, 2, 2, 2, 1000, 8⟩
def deeper : Position := positionOf [loopback] 1 ⟨2, 2, 2, 2, 2, 1000, 8⟩
def spent : Position := positionOf [loopback] 1 ⟨1, 1, 1, 1, 1, 500, 4⟩

theorem loopback_and_mirror_valid : ValidTargets [loopback, mirror] :=
  ⟨fun t ht => by
    rcases mem_cons.mp ht with e | ht
    · exact e ▸ loopback_valid
    · rw [mem_singleton.mp ht]
      exact ⟨by decide +kernel, by decide +kernel, by decide, by decide +kernel⟩, by decide⟩

/-- The second step drops a target to go deeper, the third spends. -/
theorem a_run_narrows_and_spends : (∀ p ∈ [wholeGrant, deeper, spent], p.Within twoTargetGrant) ∧
    [wholeGrant, deeper, spent].Pairwise Narrows ∧ [wholeGrant, deeper, spent].Nodup ∧
    deepenings [wholeGrant, deeper, spent] ≤ 2 := by
  have hgrant : twoTargetGrant.validate canonicalEnv = .ok () := Grant.validate_ok.mpr ⟨rfl, loopback_and_mirror_valid⟩
  have hwhole : wholeGrant.validate canonicalEnv = .ok () := Position.validate_ok.mpr ⟨rfl, loopback_and_mirror_valid⟩
  have hone : ValidTargets [loopback] := ⟨fun t ht => mem_singleton.mp ht ▸ loopback_valid, nodup_singleton _⟩
  have hdeeper : deeper.validate canonicalEnv = .ok () := Position.validate_ok.mpr ⟨rfl, hone⟩
  have hspent : spent.validate canonicalEnv = .ok () := Position.validate_ok.mpr ⟨rfl, hone⟩
  have hfirst : wholeGrant.Within twoTargetGrant := ⟨by decide, by decide, .refl _⟩
  have hwithin : ∀ p ∈ [deeper, spent], p.Within twoTargetGrant := by
    intro p hp
    simp only [mem_cons, not_mem_nil, or_false] at hp
    rcases hp with e | e <;> subst e
    · exact ⟨by decide, by decide, .refl _⟩
    · exact ⟨by decide, by decide, ⟨by decide, by decide, by decide, by decide, by decide, by decide, by decide⟩⟩
  have hstep : Authorized canonicalEnv twoTargetGrant wholeGrant deeper :=
    ((same_grant_ratchet canonicalEnv twoTargetGrant).1 _ _).mpr ⟨hgrant, hwhole, hdeeper, hfirst, hwithin _ (by simp),
      ⟨by decide, by decide, .refl _, fun _ => ⟨by decide, by decide⟩⟩, Or.inl (by decide)⟩
  have hspend : Authorized canonicalEnv twoTargetGrant deeper spent :=
    ((same_grant_ratchet canonicalEnv twoTargetGrant).1 _ _).mpr ⟨hgrant,
      hdeeper, hspent, hwithin _ (by simp), hwithin _ (by simp),
      ⟨by decide, by decide, ⟨by decide, by decide, by decide, by decide, by decide, by decide, by decide⟩,
        fun h => absurd h (by decide)⟩, Or.inr (by decide)⟩
  exact (same_grant_ratchet canonicalEnv twoTargetGrant).2.1 wholeGrant [deeper, spent]
    (admitInitialPosition_ok.mpr ⟨hgrant, hwhole, hfirst⟩)
    (isChain_cons_cons.mpr ⟨hstep, isChain_cons_cons.mpr ⟨hspend, isChain_singleton _⟩⟩)

end

end Nq.Inquiry
