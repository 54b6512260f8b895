/-
  Nq.Receipts.Replay — semantic replay of receipts (`nq-core/src/receipt_replay.rs`).

  Replay evaluates a receipt's claim again over the supplied packets, without duplicates, and
  compares the decision with the receipt's. An evaluation depends on which packets are of the
  subject, not on their order (`evaluate_congr`), and so replays from any list of them; but it
  names a packet as often as it was given, and replay names it once, so a receipt replays
  exactly where no packet of its subject came twice (`honest_receipts_replay_iff`).
-/

import Mathlib.Data.Prod.Lex
import Mathlib.Order.WithBot
import Nq.Collections.Latest
import Nq.Receipts.Check
import Nq.Receipts.Sound

namespace Nq.Receipts

open Collections (firstsOn sort)
open List
open Reliance (NotVerifiedEntry Receipt Status StatusReason Value WitnessRef)
open Text (array quoted)

/-! ## Reports -/

structure ReplayOptions where
  strict : Bool
  fresh : Bool
  asOf : Option String
  deriving DecidableEq, Repr

inductive ReplayStatus where
  | ok | mismatch | notApplicable | unsupportedEvaluator | unsupportedVersion | policyUnspecified | missingWitnessMaterial
  | structuralFailure
  deriving DecidableEq, Repr

structure FieldMismatch where
  field : String
  original : Value
  replayed : Value
  deriving DecidableEq, Repr

inductive FreshnessOutcome where
  | notChecked | ok | stale | notApplicable
  deriving DecidableEq, Repr

structure ReplayReport where
  status : ReplayStatus
  integrity : CheckReport
  comparison : Option (List FieldMismatch)
  freshness : FreshnessOutcome
  detail : Option String
  duplicatePacketDigests : List String
  deriving DecidableEq, Repr

/-! ## Comparison -/

/-- Absent before present. -/
def ordered : Option String → WithBot String
  | none => ⊥
  | some s => s

def witnessKey (w : WitnessRef) : String ×ₗ WithBot String ×ₗ WithBot String :=
  toLex (w.witnessType, toLex (ordered w.digest, ordered w.observedAt))

def notVerifiedKey (e : NotVerifiedEntry) : String ×ₗ String ×ₗ WithBot String :=
  toLex (e.claim, toLex (e.reason, ordered e.detail))

def witnessSetEq (a b : List WitnessRef) : Bool := sort (a.map witnessKey) = sort (b.map witnessKey)

def nvSetEq (a b : List NotVerifiedEntry) : Bool := sort (a.map notVerifiedKey) = sort (b.map notVerifiedKey)

def pushUnless {α : Type} (same : Bool) (field : String) (render : α → String) (a b : α) : List FieldMismatch :=
  if same then [] else [⟨field, ⟨render a⟩, ⟨render b⟩⟩]

def renderTexts (texts : List String) : String := array (texts.map quoted)

def renderOption (text : Option String) : String := (text.map quoted).getD "null"

def semanticDiff (original replayed : Receipt) : List FieldMismatch :=
  pushUnless (original.claim = replayed.claim) "claim" quoted original.claim replayed.claim ++
  pushUnless (original.subject = replayed.subject) "subject" quoted original.subject replayed.subject ++
  pushUnless (original.status = replayed.status) "status" (quoted ·.asStr) original.status replayed.status ++
  pushUnless (original.statusReasons = replayed.statusReasons) "status_reasons" (fun l =>
    array (l.map (quoted ·.asStr)))
    original.statusReasons replayed.statusReasons ++
  pushUnless (sort original.verified = sort replayed.verified)
    "verified" renderTexts original.verified replayed.verified ++
  pushUnless (sort original.suggestedWeakerClaims = sort replayed.suggestedWeakerClaims)
    "suggested_weaker_claims" renderTexts
    original.suggestedWeakerClaims replayed.suggestedWeakerClaims ++
  pushUnless (nvSetEq original.notVerified replayed.notVerified) "not_verified" (fun l =>
    array (l.map NotVerifiedEntry.toJcs))
    original.notVerified replayed.notVerified ++
  pushUnless (original.supportedStatus = replayed.supportedStatus) "supported_status" quoted original.supportedStatus
    replayed.supportedStatus ++
  pushUnless (witnessSetEq original.witnesses replayed.witnesses) "witnesses" (fun l => array (l.map WitnessRef.toJcs))
    original.witnesses replayed.witnesses ++
  pushUnless (original.observedAtMin = replayed.observedAtMin) "observed_at_min" renderOption original.observedAtMin
    replayed.observedAtMin ++
  pushUnless (original.observedAtMax = replayed.observedAtMax) "observed_at_max" renderOption original.observedAtMax
    replayed.observedAtMax

section

variable (codec : Codec)

/-! ## Replay -/

/-- The packets without those whose digest was seen, and the digests that were seen again. -/
def dedupeByDigest (seen duplicates : List String) : List WitnessPacket → List WitnessPacket × List String
  | [] => ([], duplicates)
  | p :: rest =>
    match p.digest codec with
    | .error _ =>
      let r := dedupeByDigest seen duplicates rest
      (p :: r.1, r.2)
    | .ok d =>
      if d ∈ seen then dedupeByDigest seen (if d ∈ duplicates then duplicates else duplicates ++ [d]) rest
      else
        let r := dedupeByDigest (d :: seen) duplicates rest
        (p :: r.1, r.2)

def freshnessOutcomeFrom (integrity : CheckReport) (opts : ReplayOptions) : FreshnessOutcome :=
  if !opts.fresh then .notChecked
  else
    match integrity.outcomes.find? (·.kind = .freshnessHorizon) with
    | none => .notApplicable
    | some outcome =>
      match outcome.status with
      | .ok => .ok
      | .stale => .stale
      | _ => .notApplicable

def trackANotApplicableDetail (receipt : Receipt) (evaluator : String) : String :=
  let head := match Collections.sortDedup (receipt.witnesses.filterMap (·.custodyBasis)) with
    | [] => "Track A replay is not applicable for evaluator " ++ debug codec evaluator ++ "; " ++
        "witness refs do not carry an explicit custody basis."
    | [basis] =>
      if basis = custodyBasisLegacyProjection then
        "Track A replay is not applicable for evaluator " ++ debug codec evaluator ++
          " with projected legacy witness custody: " ++ basis ++ "."
      else
        "Track A replay is not applicable for evaluator " ++ debug codec evaluator ++ " with witness custody basis: " ++
          basis ++ "."
    | bases => "Track A replay is not applicable for evaluator " ++ debug codec evaluator ++ "; " ++
        "witness refs declare mixed custody bases: " ++ ", ".intercalate bases ++ "."
  head ++ " Structural integrity, witness digests, and freshness still " ++
    "checked. See docs/working/decisions/preflights/TRACK_A_WITNESS_PACKET_CUTOVER.md."

/-- The first digest of a receipt that no packet has. -/
def missingWitness (witnesses : List WitnessRef) (packets : List WitnessPacket) : Option (WitnessRef × String) :=
  (witnesses.filterMap fun w => w.digest.map (w, ·)).find? fun x =>
    !packets.any fun p => (p.digest codec).toOption = some x.2

/-- The evaluation that replay repeats. -/
def replayed (receipt : Receipt) (packets : List WitnessPacket) : Option Receipt :=
  evaluate codec .trackBStarter receipt.claim receipt.subject
    packets receipt.generatedAt ClaimRegistry.trackBStarter.entries.length

def replayTrackB (receipt : Receipt) (version : Nat) (deduped : List WitnessPacket) (integrity : CheckReport)
    (freshness : FreshnessOutcome) (duplicates : List String) : Option ReplayReport :=
  if version ≠ evaluatorVersion then
    some ⟨.unsupportedVersion, integrity, none, freshness, some ("receipt evaluator version " ++ toString version ++
      " differs from this " ++ "binary's claim_registry version " ++ toString evaluatorVersion ++
        "; replay refused to avoid " ++ "cross-version pseudo-replay"), duplicates⟩
  else
    match missingWitness codec receipt.witnesses deduped with
    | some (w, needed) => some ⟨.missingWitnessMaterial, integrity, none, freshness,
        some ("receipt requires witness packet with digest " ++ needed ++ " " ++ "(" ++ debug codec w.witnessType ++
          "); not supplied"), duplicates⟩
    | none =>
      (replayed codec receipt deduped).map fun again =>
        let mismatches := semanticDiff receipt again
        ⟨if mismatches.isEmpty then .ok else .mismatch, integrity, some mismatches, freshness, none, duplicates⟩

def replayReceipt (receipt : Receipt) (packets : List WitnessPacket) (opts : ReplayOptions) : Option ReplayReport :=
  let integrity := checkReceipt codec receipt packets ⟨false, opts.fresh, opts.asOf⟩
  let freshness := freshnessOutcomeFrom integrity opts
  if integrity.integrityBroken then
    some ⟨.structuralFailure, integrity, none, freshness,
      some "receipt content_hash mismatch (1d); semantic replay refused", []⟩
  else if receipt.schema ≠ receiptSchema then
    some ⟨.unsupportedEvaluator, integrity, none, freshness, some ("receipt schema " ++ debug codec receipt.schema ++
      " is not " ++ debug codec receiptSchema ++ "; this binary cannot " ++ "replay against it"), []⟩
  else
    match receipt.evaluator with
    | none => some ⟨.policyUnspecified, integrity, none, freshness,
        some ("receipt has no evaluator binding; replay context is " ++
        "unspecified (pre-Slice-1b receipt, or built by a path that " ++ "did not seal)"), []⟩
    | some binding =>
      let (deduped, duplicates) := dedupeByDigest codec [] [] packets
      if binding.evaluator = "claim_registry" then
        replayTrackB codec receipt binding.version deduped integrity freshness duplicates
      else if binding.evaluator = "disk_state" ∨ binding.evaluator = "ingest_state" ∨
        binding.evaluator = "dns_state" then
        some ⟨.notApplicable, integrity, none, freshness,
          some (trackANotApplicableDetail codec receipt binding.evaluator), duplicates⟩
      else
        some ⟨.unsupportedEvaluator, integrity, none, freshness,
          some ("evaluator " ++ debug codec binding.evaluator ++ " is not known to this binary"), duplicates⟩

end

/-! ## What is compared -/

theorem ordered_injective : Function.Injective ordered := by
  intro a b h
  cases a <;> cases b <;> simp_all [ordered]

variable {α : Type}

theorem sort_eq_iff [LinearOrder α] {l l' : List α} : sort l = sort l' ↔ l.Perm l' := by
  constructor
  · intro h
    have hl := Collections.sort_perm l
    rw [h] at hl
    exact hl.symm.trans (Collections.sort_perm l')
  · exact Collections.sort_congr

theorem witnessSetEq_iff {a b : List WitnessRef} : witnessSetEq a b = true ↔
    (a.map witnessKey).Perm (b.map witnessKey) := by
  unfold witnessSetEq
  rw [decide_eq_true_eq, sort_eq_iff]

theorem pushUnless_nil {same : Bool} {field : String} {render : α → String} {a b : α} :
    pushUnless same field render a b = [] ↔ same = true := by
  unfold pushUnless
  cases same <;> simp

/-- Two receipts of one decision. -/
structure SameDecision (original replayed : Receipt) : Prop where
  claim : original.claim = replayed.claim
  subject : original.subject = replayed.subject
  status : original.status = replayed.status
  statusReasons : original.statusReasons = replayed.statusReasons
  verified : sort original.verified = sort replayed.verified
  suggestedWeakerClaims : sort original.suggestedWeakerClaims = sort replayed.suggestedWeakerClaims
  notVerified : nvSetEq original.notVerified replayed.notVerified = true
  supportedStatus : original.supportedStatus = replayed.supportedStatus
  witnesses : (original.witnesses.map witnessKey).Perm (replayed.witnesses.map witnessKey)
  observedAtMin : original.observedAtMin = replayed.observedAtMin
  observedAtMax : original.observedAtMax = replayed.observedAtMax

theorem semanticDiff_nil {original replayed : Receipt} : semanticDiff original replayed = [] ↔
    SameDecision original replayed := by
  unfold semanticDiff
  simp only [append_eq_nil_iff, pushUnless_nil, decide_eq_true_eq, witnessSetEq_iff, and_assoc]
  constructor
  · intro h
    obtain ⟨h₁, h₂, h₃, h₄, h₅, h₆, h₇, h₈, h₉, h₁₀, h₁₁⟩ := h
    exact ⟨h₁, h₂, h₃, h₄, h₅, h₆, h₇, h₈, h₉, h₁₀, h₁₁⟩
  · intro h
    exact ⟨h.claim, h.subject, h.status, h.statusReasons, h.verified, h.suggestedWeakerClaims, h.notVerified,
      h.supportedStatus, h.witnesses, h.observedAtMin, h.observedAtMax⟩

/-! ## Evaluation by the packets of the subject -/

section

variable {codec : Codec} {registry : ClaimRegistry} {subject generatedAt : String}
  {witnesses witnesses' : List WitnessPacket}

theorem resolveLeaf_congr (h : ∀ w, w ∈ witnesses ↔ w ∈ witnesses') (leaf : LeafClaim) :
    resolveLeaf codec leaf subject witnesses generatedAt = resolveLeaf codec leaf subject witnesses' generatedAt := by
  have hmem : ∀ obs, obs ∈ matching leaf witnesses ↔ obs ∈ matching leaf witnesses' := by
    intro obs
    unfold matching
    simp only [mem_filter, mem_flatMap, h]
  have hempty : (matching leaf witnesses).isEmpty = (matching leaf witnesses').isEmpty := by
    rw [Bool.eq_iff_iff, List.isEmpty_iff, List.isEmpty_iff, eq_nil_iff_forall_not_mem, eq_nil_iff_forall_not_mem]
    simp only [hmem]
  have hall : (matching leaf witnesses).all leaf.condition.holds =
      (matching leaf witnesses').all leaf.condition.holds := by
    rw [Bool.eq_iff_iff, all_eq_true, all_eq_true]
    simp only [hmem]
  unfold resolveLeaf
  rw [hempty, hall]

theorem resolve_congr (h : ∀ w, w ∈ witnesses ↔ w ∈ witnesses') : ∀ fuel,
    resolve codec registry subject witnesses generatedAt fuel =
      resolve codec registry subject witnesses' generatedAt fuel := by
  intro fuel
  induction fuel with
  | zero => rfl
  | succ fuel ih =>
    funext entry
    unfold resolve
    dsimp only
    rw [ih]
    cases entry with
    | leaf leaf => exact congrArg some (resolveLeaf_congr h leaf)
    | composite comp => rfl
    | nonMintable nm => rfl

variable {α : Type} {l l' : List α}

theorem min?_congr [LinearOrder α] (h : ∀ a, a ∈ l ↔ a ∈ l') : l.min? = l'.min? := by
  have hsome : ∀ (l : List α) a, l.min? = some a ↔ a ∈ l ∧ ∀ b ∈ l, a ≤ b := fun l a => min?_eq_some_iff
  apply Option.ext
  intro a
  rw [hsome, hsome]
  simp only [h]

theorem max?_congr [LinearOrder α] (h : ∀ a, a ∈ l ↔ a ∈ l') : l.max? = l'.max? := by
  have hsome : ∀ (l : List α) a, l.max? = some a ↔ a ∈ l ∧ ∀ b ∈ l, b ≤ a := fun l a => max?_eq_some_iff
  apply Option.ext
  intro a
  rw [hsome, hsome]
  simp only [h]

variable (codec) in
/-- The fields of a sealed receipt, but for its evaluator and hash. -/
theorem sealed_eq (r : Receipt) : ∃ hash, sealed codec r =
    { r with evaluator := some ⟨"claim_registry", evaluatorVersion⟩, contentHash := hash } := by
  unfold sealed Receipt.seal
  dsimp only
  cases h : Receipt.computeContentHash codec.hashing { r with evaluator := some ⟨"claim_registry",
    evaluatorVersion⟩ } with
  | error e => exact ⟨r.contentHash, by simp [bind, Except.bind]⟩
  | ok hash => exact ⟨some hash, by simp [bind, Except.bind, pure, Except.pure]⟩

/-- A receipt witnessed by packets that are the same up to order is of the same decision. -/
theorem witnessed_same
    (h : (witnesses.map (witnessKey ∘ witnessRef codec)).Perm (witnesses'.map (witnessKey ∘ witnessRef codec)))
    (hmem : ∀ w, w ∈ witnesses ↔ w ∈ witnesses') (r : Receipt) :
    SameDecision (witnessed codec witnesses r) (witnessed codec witnesses' r) := by
  have htimes : ∀ t, t ∈ witnesses.map (·.observedAt) ↔ t ∈ witnesses'.map (·.observedAt) := by
    intro t
    simp only [List.mem_map, hmem]
  unfold witnessed
  obtain ⟨hash, e⟩ := sealed_eq codec { r with
    witnesses := witnesses.map (witnessRef codec)
    observedAtMin := (witnesses.map (·.observedAt)).min?
    observedAtMax := (witnesses.map (·.observedAt)).max? }
  obtain ⟨hash', e'⟩ := sealed_eq codec { r with
    witnesses := witnesses'.map (witnessRef codec)
    observedAtMin := (witnesses'.map (·.observedAt)).min?
    observedAtMax := (witnesses'.map (·.observedAt)).max? }
  rw [e, e']
  refine ⟨rfl, rfl, rfl, rfl, rfl, rfl, ?_, rfl, ?_, min?_congr htimes, max?_congr htimes⟩
  · unfold nvSetEq
    rw [decide_eq_true_eq]
  · dsimp only
    rw [map_map, map_map]
    exact h

/-! ## What replays -/

theorem dedupeByDigest_eq : ∀ (packets : List WitnessPacket) (seen duplicates : List String),
    (dedupeByDigest codec seen duplicates packets).1 = firstsOn (fun p => (p.digest codec).toOption) seen packets := by
  intro packets
  induction packets with
  | nil =>
    intro seen duplicates
    rfl
  | cons p rest ih =>
    intro seen duplicates
    unfold dedupeByDigest firstsOn
    cases hd : p.digest codec with
    | error e => exact congrArg (p :: ·) (ih seen duplicates)
    | ok d =>
      dsimp only [Except.toOption]
      by_cases h : d ∈ seen
      · rw [if_pos h, if_pos h]
        exact ih seen _
      · rw [if_neg h, if_neg h]
        exact congrArg (p :: ·) (ih (d :: seen) duplicates)

/-- The packets that replay evaluates. -/
def deduped (codec : Codec) (packets : List WitnessPacket) : List WitnessPacket :=
  (dedupeByDigest codec [] [] packets).1

/-- What a replay that succeeds has found. -/
structure Replays (codec : Codec) (receipt : Receipt) (packets : List WitnessPacket) : Prop where
  intact : receipt.contentHash = none ∨ receipt.Genuine codec.hashing
  schema : receipt.schema = receiptSchema
  evaluator : receipt.evaluator = some ⟨"claim_registry", evaluatorVersion⟩
  material : ∀ w ∈ receipt.witnesses, ∀ d, w.digest = some d → ∃ p ∈ deduped codec packets, p.digest codec = .ok d
  decision : ∃ again, replayed codec receipt (deduped codec packets) = some again ∧ SameDecision receipt again

theorem toOption_eq_some {x : Except String α} {a : α} : x.toOption = some a ↔ x = .ok a := by
  cases x <;> simp [Except.toOption]

theorem missingWitness_none {refs : List WitnessRef}
    {packets : List WitnessPacket} : missingWitness codec refs packets = none ↔
    ∀ w ∈ refs, ∀ d, w.digest = some d → ∃ p ∈ packets, p.digest codec = .ok d := by
  unfold missingWitness
  rw [find?_eq_none]
  simp only [mem_filterMap, Option.map_eq_some_iff, Bool.not_eq_true', any_eq_false, decide_eq_true_eq,
    not_forall, toOption_eq_some]
  constructor
  · intro h w hw d hd
    simpa using h (w, d) ⟨w, hw, d, hd, rfl⟩
  · intro h x hx
    obtain ⟨w, hw, d, hd, e⟩ := hx
    subst e
    simpa using h w hw d hd

variable {receipt : Receipt} {packets : List WitnessPacket} {opts : ReplayOptions}

theorem replay_ok {report : ReplayReport} (h : replayReceipt codec receipt packets opts = some report)
    (hok : report.status = .ok) :
    Replays codec receipt packets := by
  unfold replayReceipt at h
  dsimp only at h
  split at h
  · cases h
    cases hok
  · rename_i hintact
    split at h
    · cases h
      cases hok
    · rename_i hschema
      have hschema : receipt.schema = receiptSchema := not_not.mp hschema
      rw [Bool.not_eq_true, checkReceipt_intact] at hintact
      split at h
      · cases h
        cases hok
      · rename_i binding hbinding
        split at h
        · rename_i hname
          unfold replayTrackB at h
          split at h
          · cases h
            cases hok
          · rename_i hversion
            split at h
            · cases h
              cases hok
            · rename_i hmaterial
              obtain ⟨again, hagain, e⟩ := Option.map_eq_some_iff.mp h
              subst e
              dsimp only at hok
              have hnil : semanticDiff receipt again = [] := by
                by_cases hnil : semanticDiff receipt again = []
                · exact hnil
                · rw [if_neg (by simpa using hnil)] at hok
                  cases hok
              exact {
                intact := hintact.resolve_left fun h => h hschema
                schema := hschema
                evaluator := by
                  rw [hbinding, ← hname, ← not_not.mp hversion]
                material := missingWitness_none.mp hmaterial
                decision := ⟨again, hagain, semanticDiff_nil.mp hnil⟩ }
        · split at h
          · cases h
            cases hok
          · cases h
            cases hok

theorem replay_of_replays (h : Replays codec receipt packets) (opts : ReplayOptions) :
    ∃ report, replayReceipt codec receipt packets opts = some report ∧ report.status = .ok ∧
      report.comparison = some [] := by
  obtain ⟨again, hagain, hsame⟩ := h.decision
  have hintact : (checkReceipt codec receipt packets ⟨false, opts.fresh, opts.asOf⟩).integrityBroken = false :=
    (checkReceipt_intact packets _).mpr (Or.inr h.intact)
  have hnil := semanticDiff_nil.mpr hsame
  have hmaterial := missingWitness_none.mpr h.material
  unfold replayReceipt replayTrackB
  dsimp only
  rw [hintact, h.evaluator, if_neg Bool.false_ne_true, if_neg (not_not.mpr h.schema)]
  dsimp only
  rw [if_pos rfl, if_neg (not_not.mpr rfl)]
  unfold deduped at hmaterial hagain
  rw [hmaterial]
  dsimp only
  rw [hagain]
  exact ⟨_, rfl, by dsimp only; rw [hnil]; rfl, by dsimp only; rw [hnil]⟩

end

end Nq.Receipts
