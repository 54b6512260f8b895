/-
  Nq.Preflight.Result — what a preflight answers (`nq-core/src/preflight.rs`), and what the
  evaluators share of projecting stored rows into witness packets
  (`witness_projection_support.rs`).

  A row becomes testimony only as a packet of custody `legacy_projection` that validates
  (`legacyPacket`, `validated`); a row that does not is refused, and listed as excluded. An
  instant is a number of nanoseconds; `time`'s parser and formatter of RFC 3339, JCS and
  SHA-256, and the arithmetic of doubles are parameters (`Crates`). The refusals that every
  result of a kind carries (`cannot_testify`), and its schema, are not modelled: no function
  reads them.
-/

import Mathlib.Data.Prod.Lex
import Nq.Detect.Views
import Nq.Receipts.Witness

namespace Nq.Preflight

open List
open Receipts (Codec Json WitnessPacket WitnessPosition)

structure Crates where
  codec : Codec
  /-- `OffsetDateTime::format(&Rfc3339)`, in UTC. -/
  format : Int → Option String
  arith : Arith

/-- `OffsetDateTime::parse(s, &Rfc3339).ok()`. -/
def Crates.parse (crates : Crates) (s : String) : Option Int := (crates.codec.rfc3339 s).toOption

def seconds (n : Int) : Int := n * 1000000000

/-- `Duration::whole_seconds`, toward zero. -/
def wholeSeconds (ns : Int) : Int := ns.tdiv 1000000000

def wholeMilliseconds (ns : Int) : Int := ns.tdiv 1000000

/-- `str::trim`. -/
def trimmed (s : String) : String := String.ofList (Text.trim s.toList)

/-! ## Results -/

inductive ClaimKind where
  | diskState
  | ingestState
  | dnsState
  | sqliteWalState
  | componentTestimonyObservationLoopAlive
  | nqBinaryMtimeState
  | nqEvaluatorState
  | nqSqlContractState
  | serviceState
  deriving DecidableEq, Repr

inductive Verdict where
  | admissible
  | admissibleWithScope
  | unsupportedAsStated
  | claimExceedsTestimony
  | insufficientCoverage
  | staleTestimony
  | contradictoryTestimony
  | cannotTestify
  deriving DecidableEq, Repr

structure PreflightTarget where
  host : String
  scope : String
  id : Option String
  deriving DecidableEq, Repr

/-- The identity of the packet behind a support. -/
structure SupportingWitnessPacket where
  witnessType : String
  digest : String
  observedAt : String
  custodyBasis : Option String
  position : Option WitnessPosition
  deriving DecidableEq, Repr

structure PreflightSupport where
  claim : String
  findingKind : String
  subject : String
  observedAt : Option String
  freshness : Option String := none
  admissibilityState : Option String
  witnessPacket : Option SupportingWitnessPacket := none
  deriving DecidableEq, Repr

structure PreflightExclusion where
  findingKind : String
  subject : String
  reason : String
  detail : Option String := none
  deriving DecidableEq, Repr

structure PreflightCoverage where
  witness : String
  standing : String
  note : Option String := none
  deriving DecidableEq, Repr

inductive TimeBasisStatus where
  | unknown | suspect
  deriving DecidableEq, Repr

structure TimeBasisAnnotation where
  status : TimeBasisStatus
  suspicionKinds : List String
  maxObservationDeltaMs : Option Int
  thresholdMs : Int
  deriving DecidableEq, Repr

structure PreflightResult where
  claimKind : ClaimKind
  target : PreflightTarget
  generatedAt : String
  verdict : Verdict := .insufficientCoverage
  verdictNote : Option String := none
  supports : List PreflightSupport := []
  excludes : List PreflightExclusion := []
  coverage : List PreflightCoverage := []
  observedAtMin : Option String := none
  observedAtMax : Option String := none
  freshnessHorizon : Option String := none
  timeBasis : Option TimeBasisAnnotation := none
  signals : Option Json := none

def PreflightResult.skeleton (claimKind : ClaimKind) (target : PreflightTarget)
    (generatedAt : String) : PreflightResult :=
  { claimKind, target, generatedAt }

/-- The oldest and the newest stamp of the supports, as texts. -/
def PreflightResult.discloseWindow (result : PreflightResult) : PreflightResult :=
  let stamps := result.supports.filterMap PreflightSupport.observedAt
  { result with observedAtMin := stamps.min?, observedAtMax := stamps.max? }

def timeBasisDriftThresholdMs : Int := 300000

/-- `compute_time_basis`: a support from well after the result is suspect. -/
def PreflightResult.computeTimeBasis (crates : Crates) (result : PreflightResult) : PreflightResult :=
  match crates.parse result.generatedAt with
  | none => { result with timeBasis := none }
  | some now =>
    let observed := result.supports.filterMap fun s => s.observedAt.bind crates.parse
    let maxFutureDeltaMs := observed.foldl (fun delta obs => max delta (wholeMilliseconds (obs - now))) 0
    let suspect : Bool := maxFutureDeltaMs > timeBasisDriftThresholdMs
    { result with
      timeBasis := some
        { status := if suspect then .suspect else .unknown
          suspicionKinds := if suspect then ["observed_at_future_of_evaluator"] else []
          maxObservationDeltaMs := if observed.isEmpty then none else some maxFutureDeltaMs
          thresholdMs := timeBasisDriftThresholdMs } }

def freshnessHorizonFrom (crates : Crates) (observedAtMax : Option String)
    (thresholdSeconds : Int) : Option String := do
  let dt ← crates.parse (← observedAtMax)
  crates.format (dt + seconds thresholdSeconds)

section

variable (crates : Crates) (result : PreflightResult)

@[simp] theorem verdict_computeTimeBasis : (result.computeTimeBasis crates).verdict = result.verdict := by
  unfold PreflightResult.computeTimeBasis
  split <;> rfl

@[simp] theorem supports_computeTimeBasis : (result.computeTimeBasis crates).supports = result.supports := by
  unfold PreflightResult.computeTimeBasis
  split <;> rfl

@[simp] theorem coverage_computeTimeBasis : (result.computeTimeBasis crates).coverage = result.coverage := by
  unfold PreflightResult.computeTimeBasis
  split <;> rfl

@[simp] theorem observedAtMax_computeTimeBasis :
    (result.computeTimeBasis crates).observedAtMax = result.observedAtMax := by
  unfold PreflightResult.computeTimeBasis
  split <;> rfl

end

/-! ## Age -/

/-- `now - t` in whole seconds, where the stamp parses. -/
def Crates.ageSeconds (crates : Crates) (stamp : String) (now : Int) : Option Int :=
  (crates.parse stamp).map fun t => wholeSeconds (now - t)

/-- `matches!(age_seconds, Some(age) if age > threshold)`: without an age, nothing is stale. -/
def isStale (thresholdSeconds : Int) (ageSeconds : Option Int) : Bool := ageSeconds.elim false (thresholdSeconds < ·)

/-- A stamp that is an instant, and not older than the threshold. -/
def FreshStamp (crates : Crates) (thresholdSeconds now : Int) (stamp : String) : Prop :=
  ∃ age ∈ crates.ageSeconds stamp now, age ≤ thresholdSeconds

variable {now thresholdSeconds : Int} {codec : Codec} {p packet : WitnessPacket} {s sourceRef : String}
  {projected : Except String WitnessPacket}

/-- What is not stale and an instant is fresh. -/
theorem freshStamp_iff {crates : Crates} {stamp : String} :
    FreshStamp crates thresholdSeconds now stamp ↔
      (crates.parse stamp).isSome ∧ isStale thresholdSeconds (crates.ageSeconds stamp now) = false := by
  unfold FreshStamp isStale Crates.ageSeconds
  cases crates.parse stamp <;> simp

theorem isStale_of_unread {crates : Crates} {stamp : String} (h : ¬ (crates.parse stamp).isSome) :
    isStale thresholdSeconds (crates.ageSeconds stamp now) = false := by
  unfold Crates.ageSeconds
  rw [Option.not_isSome_iff_eq_none.mp h]
  rfl

/-! ## Projection -/

structure ProjectionRefusal where
  reason : String
  sourceRef : String
  deriving DecidableEq, Repr

/-- A row as it is loaded: it has its id. -/
structure Stored (α : Type) where
  observationId : Int
  obs : α
  deriving DecidableEq

/-- `ORDER BY observed_at DESC, observation_id DESC`. -/
def Stored.newer {α : Type} (stamp : α → String) (a b : Stored α) : Bool :=
  stamp b.obs < stamp a.obs ∨ stamp b.obs = stamp a.obs ∧ b.observationId < a.observationId

/-- `… LIMIT 1`. -/
def Stored.latest {α : Type} (stamp : α → String) (rows : List (Stored α)) : Option (Stored α) :=
  Sql.firstBy (newer stamp) rows

theorem Stored.newer_iff {α : Type} {stamp : α → String} (a b : Stored α) :
    newer stamp a b = true ↔ toLex (stamp b.obs, b.observationId) < toLex (stamp a.obs, a.observationId) := by
  rw [newer, decide_eq_true_iff, Prod.Lex.toLex_lt_toLex]

theorem Stored.latest_mem {α : Type} {stamp : α → String} {rows : List (Stored α)} {r : Stored α}
    (h : latest stamp rows = some r) :
    r ∈ rows := (Sql.firstBy_greatest newer_iff h).1

/-- The latest row is the latest of the rows that are left with it. -/
theorem Stored.latest_filter {α : Type} {stamp : α → String} {rows : List (Stored α)}
    (hrows : (rows.map observationId).Nodup) {r : Stored α} (h : latest stamp rows = some r)
    {p : Stored α → Bool} (hp : p r = true) :
    latest stamp (rows.filter p) = some r := by
  refine Sql.firstBy_filter newer_iff (fun a ha b hb e => ?_) h hp
  exact inj_on_of_nodup_map hrows ha hb (congrArg Prod.snd e)

def packetIdentity (codec : Codec) (packet : WitnessPacket) : Option SupportingWitnessPacket :=
  (packet.digest codec).toOption.map fun digest =>
    { witnessType := packet.witnessType, digest, observedAt := packet.observedAt, custodyBasis := packet.custodyBasis
      position := packet.position }

def makeProjectionRefusalExclusion (findingKind subject : String) (refusal : ProjectionRefusal) : PreflightExclusion :=
  { findingKind, subject, reason := "Witness packet projection refused: " ++ refusal.reason }

def Json.ofString (s : Option String) : Json := s.elim .null .string
def Json.ofInt (n : Option Int) : Json := n.elim .null fun n => .number (.int n)
def Json.ofBool (b : Option Bool) : Json := b.elim .null .bool

/-- The envelope the projectors fill in. -/
def legacyPacket (witnessType subject accessPath observedAt generatedAt : String) (observation : Json)
    (coverageLimits : List String) (sourceRef : String) (limits : List String)
    (position : WitnessPosition) : WitnessPacket :=
  { schema := Receipts.witnessSchema, witnessType, subject, accessPath, observedAt, generatedAt
    observations := [observation], coverageLimits, dependencies := []
    custodyBasis := some Receipts.custodyBasisLegacyProjection, sourceFindingRef := some sourceRef
    projectionLimits := Receipts.projectionLimitNativeWitnessCustody :: limits, position := some position }

/-- `packet.validate().map_err(…)`. -/
def validated (codec : Codec) (packet : WitnessPacket) : Except String WitnessPacket :=
  match packet.validate codec with
  | .ok _ => .ok packet
  | .error e => .error ("projected packet failed wire validation: " ++ e)

theorem validated_ok : validated codec packet = .ok p ↔ packet.validate codec = .ok () ∧ packet = p := by
  unfold validated
  cases packet.validate codec with
  | ok u =>
    cases u
    simp
  | error e => simp

/-- Whatever the projection gives is valid. -/
def Validates (codec : Codec) (projected : Except String WitnessPacket) : Prop :=
  ∀ packet, projected = .ok packet → packet.validate codec = .ok ()

theorem validates_validated : Validates codec (validated codec packet) := by
  intro p h
  obtain ⟨hvalid, rfl⟩ := validated_ok.mp h
  exact hvalid

/-- Checks before the last do not matter. -/
theorem validates_bind {β : Type} {x : Except String β} {f : β → Except String WitnessPacket}
    (h : ∀ b, Validates codec (f b)) : Validates codec (x >>= f) := by
  intro p hp
  obtain ⟨b, _, hb⟩ := Sql.bind_ok.mp hp
  exact h b p hb

/-- A text that is more than white space. -/
def Nonblank (s : String) : Prop := ∃ c ∈ s.toList, Text.isWhitespace c = false

theorem trim_ne_nil (h : Nonblank s) : Text.trim s.toList ≠ [] := by
  obtain ⟨c, hc, hspace⟩ := h
  exact ne_nil_of_mem ((Text.mem_trim_iff hspace).mpr hc)

theorem Nonblank.append_right (h : Nonblank s) (r : String) : Nonblank (s ++ r) := by
  obtain ⟨c, hc, hspace⟩ := h
  exact ⟨c, by rw [String.toList_append]; exact mem_append_left _ hc, hspace⟩

theorem eachIndexed_ok {α : Type} {check : Nat → α → Except String Unit} : ∀ {rows : List α} {index : Nat},
    (∀ i, ∀ a ∈ rows, check i a = .ok ()) → Receipts.eachIndexed check index rows = .ok ()
  | [], _, _ => rfl
  | a :: rest, index, h => by
    rw [Receipts.eachIndexed, h index a mem_cons_self]
    exact eachIndexed_ok fun i b hb => h i b (mem_cons_of_mem a hb)

/-- A projector's packet is valid where both its stamps are: what else it checks, the
    envelope fills in. -/
theorem validate_legacyPacket {witnessType subject accessPath observedAt generatedAt : String}
    {fields : List (String × Json)} {coverageLimits limits : List String} {position : WitnessPosition}
    (hnonblank : ∀ s ∈ [witnessType, subject, accessPath, observedAt, generatedAt, sourceRef] ++ limits, Nonblank s)
    (hobserved : ∃ t, codec.rfc3339 observedAt = .ok t) (hgenerated : ∃ t, codec.rfc3339 generatedAt = .ok t)
    (hclaim : Json.field fields "claim" = none) (hsupports : Json.field fields "supports" = none) :
    (legacyPacket witnessType subject accessPath observedAt generatedAt
      (.object fields) coverageLimits sourceRef limits position).validate
      codec = .ok () := by
  have hfilled : ∀ field, ∀ s ∈ [witnessType, subject, accessPath, observedAt, generatedAt, sourceRef] ++ limits,
      Receipts.requireNonempty field s = .ok () := by
    intro field s hs
    exact Collections.rejectIf_ok.mpr (decide_eq_false (trim_ne_nil (hnonblank s hs)))
  have hstamped : ∀ field s, (∃ t, codec.rfc3339 s = .ok t) → Receipts.parseRfc3339 codec s field = .ok () := by
    rintro field s ⟨t, ht⟩
    unfold Receipts.parseRfc3339
    rw [ht]
  have hobservation : ∀ i, ∀ o ∈ [Json.object fields], Receipts.checkObservation codec i o = .ok () := by
    intro i o ho
    rw [mem_singleton.mp ho]
    show (_ >>= fun _ => _) = _
    rw [Collections.check_ok]
    exact ⟨Collections.rejectIf_ok.mpr (by rw [hclaim]; rfl), Collections.rejectIf_ok.mpr (by rw [hsupports]; rfl)⟩
  have hlimits : ∀ (i : Nat), ∀ limit ∈ Receipts.projectionLimitNativeWitnessCustody :: limits,
      Collections.rejectIf (decide (Text.trim limit.toList = [])) ("projection_limits[" ++
        toString i ++ "] is empty") = .ok () := by
    intro i limit hlimit
    refine Collections.rejectIf_ok.mpr (decide_eq_false (trim_ne_nil ?_))
    rcases mem_cons.mp hlimit with rfl | hlimit
    · exact ⟨'n', by simp [Receipts.projectionLimitNativeWitnessCustody], by decide⟩
    · exact hnonblank limit (mem_append_right _ hlimit)
  have hcustody : (legacyPacket witnessType subject accessPath observedAt generatedAt (.object fields)
    coverageLimits sourceRef limits
      position).validateCustody codec = .ok () := by
    show WitnessPacket.validateProjection codec _ _ = _
    unfold WitnessPacket.validateProjection
    simp only [Collections.check_ok]
    have hsource : Nonblank sourceRef := hnonblank sourceRef (by simp)
    refine ⟨Collections.rejectIf_ok.mpr (decide_eq_false (trim_ne_nil hsource)), rfl, eachIndexed_ok hlimits, ?_⟩
    exact Collections.rejectIf_ok.mpr (by simp [legacyPacket])
  unfold WitnessPacket.validate
  simp only [Collections.check_ok]
  exact ⟨rfl, hfilled _ _ (by simp [legacyPacket]), hfilled _ _ (by simp [legacyPacket]),
    hfilled _ _ (by simp [legacyPacket]),
    hfilled _ _ (by simp [legacyPacket]), hfilled _ _ (by simp [legacyPacket]),
      hstamped _ _ hobserved, hstamped _ _ hgenerated,
    eachIndexed_ok hobservation, hcustody⟩

/-- A stamp without the space around it, where that is RFC 3339. -/
def recoverStamp (crates : Crates) (empty notRfc3339 : String) (stamp : String) : Except String String :=
  if trimmed stamp = "" then .error empty
  else match crates.parse (trimmed stamp) with
    | none => .error notRfc3339
    | some _ => .ok (trimmed stamp)

theorem recoverStamp_ok {crates : Crates} {empty notRfc3339 stamp : String} :
    recoverStamp crates empty notRfc3339 stamp = .ok s ↔
      trimmed stamp ≠ "" ∧ (crates.parse (trimmed stamp)).isSome ∧ trimmed stamp = s := by
  unfold recoverStamp
  by_cases hempty : trimmed stamp = ""
  · rw [if_pos hempty]
    simp [hempty]
  · rw [if_neg hempty]
    cases crates.parse (trimmed stamp) <;> simp [hempty]

/-- Every refusal of a projector names the row. -/
def refusedAs (sourceRef : String) (projected : Except String WitnessPacket) : Except ProjectionRefusal WitnessPacket :=
  projected.mapError (⟨·, sourceRef⟩)

@[simp] theorem refusedAs_ok : refusedAs sourceRef projected = .ok p ↔ projected = .ok p := by
  cases projected <;> simp [refusedAs, Except.mapError]

theorem validates_refusedAs (hprojected : Validates codec projected) (h : refusedAs sourceRef projected = .ok packet) :
    packet.validate codec = .ok () :=
  hprojected packet (refusedAs_ok.mp h)

def projects {α : Type} (project : α → Except ProjectionRefusal WitnessPacket) (r : α) : Bool :=
  (project r).toOption.isSome

section

variable {α : Type} (project : α → Except ProjectionRefusal WitnessPacket) (support : α →
  WitnessPacket → PreflightSupport)
  (exclusion : α → ProjectionRefusal → PreflightExclusion)

def supportAdmitted (rows : List α) : List PreflightSupport :=
  rows.filterMap fun r => match project r with
    | .ok packet => some (support r packet)
    | .error _ => none

def excludeRefused (rows : List α) : List PreflightExclusion :=
  rows.filterMap fun r => match project r with
    | .ok _ => none
    | .error refusal => some (exclusion r refusal)

/-- The loop over rows that are projected each by itself: an admitted row is a support, a
    refused one an exclusion. -/
def admitRows (rows : List α) : List PreflightSupport × List PreflightExclusion :=
  (supportAdmitted project support rows, excludeRefused project exclusion rows)

variable {project support exclusion}

theorem projects_iff {r : α} : projects project r = true ↔ ∃ packet, project r = .ok packet := by
  unfold projects
  cases project r <;> simp [Except.toOption]

theorem mem_supportAdmitted {rows : List α} {s : PreflightSupport} : s ∈ supportAdmitted project support rows ↔
    ∃ r ∈ rows, ∃ packet, project r = .ok packet ∧ support r packet = s := by
  unfold supportAdmitted
  rw [mem_filterMap]
  constructor
  · rintro ⟨r, hr, h⟩
    cases hp : project r with
    | ok packet =>
      rw [hp] at h
      exact ⟨r, hr, packet, hp, Option.some.inj h⟩
    | error refusal =>
      rw [hp] at h
      cases h
  · rintro ⟨r, hr, packet, hp, h⟩
    refine ⟨r, hr, ?_⟩
    rw [hp, ← h]

/-- What supports report, read off the rows that project. -/
theorem filterMap_supportAdmitted {β : Type} {read : PreflightSupport → Option β} {column : α → β}
    (hread : ∀ r packet, read (support r packet) = some (column r)) (rows : List α) :
    (supportAdmitted project support rows).filterMap read = (rows.filter (projects project)).map column := by
  unfold supportAdmitted projects
  induction rows with
  | nil => rfl
  | cons r rows ih => cases hp : project r <;> simp [hp, hread, Except.toOption, ih]

end

end Nq.Preflight
