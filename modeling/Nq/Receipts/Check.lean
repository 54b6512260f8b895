/-
  Nq.Receipts.Check — the structural check of a receipt (`nq-core/src/receipt_check.rs`).

  The check reports on a receipt's schema, content hash, witnesses, freshness and evaluator.
  Only a declared content hash that is not the one computed can break its integrity
  (`checkReceipt_intact`).
-/

import Nq.Receipts.Registry

namespace Nq.Receipts

open List
open Reliance (Receipt WitnessRef)

/-! ## Reports -/

structure CheckOptions where
  strict : Bool
  fresh : Bool
  asOf : Option String
  deriving DecidableEq, Repr

inductive CheckKind where
  | schema (schema : String)
  | contentHash
  | witnessDigest (witnessType : String) (digest : Option String)
  | extraSuppliedPacket (computedDigest : String)
  | freshnessHorizon
  | evaluatorBinding (evaluator : String) (version : Nat)
  deriving DecidableEq, Repr

inductive CheckStatus where
  | ok | receiptNotAnchored | brokenContentHash | witnessNotAnchored | missingWitnessPacket | extraWitnessPacket
  | malformedDigest | unsupportedDigestAlgorithm | stale | freshnessNotApplicable | unsupportedReceiptVersion
  deriving DecidableEq, Repr

def CheckStatus.isBroken (s : CheckStatus) : Bool := s = .brokenContentHash

structure CheckOutcome where
  kind : CheckKind
  status : CheckStatus
  detail : Option String
  deriving DecidableEq, Repr

structure CheckReport where
  outcomes : List CheckOutcome
  deriving DecidableEq, Repr

def CheckReport.integrityBroken (r : CheckReport) : Bool := r.outcomes.any (·.status.isBroken)

/-! ## Digests -/

inductive DigestShape where
  | sha256
  | unsupportedAlgorithm (algo : String)
  | malformed
  deriving DecidableEq, Repr

def parseDigest (s : String) : DigestShape :=
  match s.toList.findIdx? (· = ':') with
  | none => .malformed
  | some colon =>
    if String.ofList (s.toList.take (colon + 1)) = Inquiry.digestAlgorithmPrefix then
      if (String.ofList (s.toList.drop (colon + 1))).utf8ByteSize ≠ 64 ||
          !(s.toList.drop (colon + 1)).all Inquiry.isHexDigit then .malformed
      else .sha256
    else .unsupportedAlgorithm (String.ofList (s.toList.take (colon + 1)))

/-! ## Checks -/

section

variable (codec : Codec)

def checkSchema (receipt : Receipt) : CheckOutcome :=
  if receipt.schema = receiptSchema then ⟨.schema receipt.schema, .ok, none⟩
  else ⟨.schema receipt.schema, .unsupportedReceiptVersion, some ("receipt schema " ++ debug codec receipt.schema ++
    " is not " ++ debug codec receiptSchema ++ "; this binary cannot " ++ "canonicalize it")⟩

def checkContentHash (receipt : Receipt) : CheckOutcome :=
  match receipt.contentHash, receipt.computeContentHash codec.hashing with
  | none, _ => ⟨.contentHash, .receiptNotAnchored, some ("receipt has no content_hash; no integrity claim to verify")⟩
  | some stored, .ok recomputed =>
    if stored = recomputed then ⟨.contentHash, .ok, none⟩
    else ⟨.contentHash, .brokenContentHash,
      some ("stored content_hash " ++ stored ++ " does not match recomputed " ++ recomputed)⟩
  | some stored, .error e =>
    ⟨.contentHash, .brokenContentHash,
      some ("could not recompute hash to compare against stored " ++ stored ++ ": " ++ e)⟩

/-- The digests of the packets that have one. -/
def packetDigests (packets : List WitnessPacket) : List String := packets.filterMap fun p => (p.digest codec).toOption

def checkWitness (digests : List String) (w : WitnessRef) : CheckOutcome :=
  match w.digest with
  | none => ⟨.witnessDigest w.witnessType none, .witnessNotAnchored,
      some ("witness ref " ++ debug codec w.witnessType ++ " has no digest; the receipt did not anchor it")⟩
  | some d =>
    match parseDigest d with
    | .sha256 =>
      if d ∈ digests then ⟨.witnessDigest w.witnessType (some d), .ok, none⟩
      else ⟨.witnessDigest w.witnessType (some d), .missingWitnessPacket, some ("no supplied packet hashes to " ++ d)⟩
    | .unsupportedAlgorithm algo => ⟨.witnessDigest w.witnessType (some d), .unsupportedDigestAlgorithm,
        some ("digest prefix " ++ debug codec algo ++ " is not implemented by this binary")⟩
    | .malformed => ⟨.witnessDigest w.witnessType (some d), .malformedDigest,
        some ("digest string " ++ debug codec d ++ " does not parse as algorithm:hex")⟩

/-- A packet is used by the first witness ref that names its digest, and that one finds the
    first packet of the digest. -/
def usedPackets (witnesses : List WitnessRef) (digests : List String) : List Nat :=
  witnesses.filterMap fun w => w.digest.bind fun d => if parseDigest d = .sha256 then digests.findIdx? (· = d) else none

def checkExtra (used : List Nat) (index : Nat) : List String → List CheckOutcome
  | [] => []
  | d :: rest =>
    if index ∈ used then checkExtra used (index + 1) rest
    else ⟨.extraSuppliedPacket d, .extraWitnessPacket,
      some ("supplied packet " ++ d ++ " does not correspond to any WitnessRef in the receipt")⟩ ::
        checkExtra used (index + 1) rest

def checkFreshness (receipt : Receipt) (opts : CheckOptions) : CheckOutcome :=
  match receipt.freshnessHorizon, opts.asOf with
  | none, _ => ⟨.freshnessHorizon, .freshnessNotApplicable,
      some "receipt has no freshness_horizon; --fresh cannot be evaluated"⟩
  | some horizon, none => ⟨.freshnessHorizon, .freshnessNotApplicable,
      some ("--fresh requested but no as_of supplied; horizon " ++ horizon ++ " not evaluated")⟩
  | some horizon, some asOf =>
    match codec.rfc3339 horizon, codec.rfc3339 asOf with
    | .ok h, .ok a => ⟨.freshnessHorizon, if a < h then .ok else .stale,
        some ("as_of=" ++ asOf ++ " horizon=" ++ horizon)⟩
    | _, _ => ⟨.freshnessHorizon, .freshnessNotApplicable,
        some ("could not parse as_of " ++ debug codec asOf ++ " or horizon " ++ debug codec horizon ++ " as RFC3339")⟩

def checkReceipt (receipt : Receipt) (packets : List WitnessPacket) (opts : CheckOptions) : CheckReport :=
  let digests := packetDigests codec packets
  ⟨[checkSchema codec receipt] ++
    (if receipt.schema = receiptSchema then [checkContentHash codec receipt] else []) ++
    receipt.witnesses.map (checkWitness codec digests) ++
    checkExtra (usedPackets receipt.witnesses digests) 0 digests ++
    (if opts.fresh then [checkFreshness codec receipt opts] else []) ++
    match receipt.evaluator with
    | some ev => [⟨.evaluatorBinding ev.evaluator ev.version, .ok, none⟩]
    | none => []⟩

end

/-! ## Integrity -/

section

variable {codec : Codec} {receipt : Receipt}

theorem checkExtra_intact {used : List Nat} :
    ∀ {digests : List String} {index : Nat}, ∀ o ∈ checkExtra used index digests, o.status.isBroken = false := by
  intro digests
  induction digests with
  | nil =>
    intro index o ho
    cases ho
  | cons d rest ih =>
    intro index o ho
    unfold checkExtra at ho
    split at ho
    · exact ih o ho
    · rcases mem_cons.mp ho with e | ho
      · rw [e]
        rfl
      · exact ih o ho

theorem checkWitness_intact (digests : List String)
    (w : WitnessRef) : (checkWitness codec digests w).status.isBroken = false := by
  unfold checkWitness
  split
  · rfl
  · split
    · split <;> rfl
    · rfl
    · rfl

theorem checkFreshness_intact (opts : CheckOptions) : (checkFreshness codec receipt opts).status.isBroken = false := by
  unfold checkFreshness
  split
  · rfl
  · rfl
  · split
    · dsimp only
      split <;> rfl
    · rfl

theorem checkContentHash_intact : (checkContentHash codec receipt).status.isBroken = false ↔
    receipt.contentHash = none ∨ receipt.Genuine codec.hashing := by
  unfold checkContentHash Receipt.Genuine
  cases hstored : receipt.contentHash with
  | none => simp [CheckStatus.isBroken]
  | some stored =>
    cases hcomputed : receipt.computeContentHash codec.hashing with
    | error e => simp [CheckStatus.isBroken]
    | ok recomputed =>
      by_cases h : stored = recomputed
      · simp [CheckStatus.isBroken, h]
      · simp [CheckStatus.isBroken, h, eq_comm]

/-- Integrity is kept where the schema is unknown, no hash is declared, or the declared one is
    computed. -/
theorem checkReceipt_intact (packets : List WitnessPacket) (opts : CheckOptions) :
    (checkReceipt codec receipt packets opts).integrityBroken = false ↔
      receipt.schema ≠ receiptSchema ∨ receipt.contentHash = none ∨ receipt.Genuine codec.hashing := by
  have hwitnesses : (receipt.witnesses.map (checkWitness codec (packetDigests codec packets))).any
      (·.status.isBroken) = false := by
    rw [any_eq_false]
    intro o ho
    obtain ⟨w, _, e⟩ := List.mem_map.mp ho
    rw [← e, checkWitness_intact]
    exact Bool.false_ne_true
  have hextra : (checkExtra (usedPackets receipt.witnesses (packetDigests codec packets)) 0
    (packetDigests codec packets)).any
      (·.status.isBroken) = false := by
    rw [any_eq_false]
    intro o ho
    rw [checkExtra_intact o ho]
    exact Bool.false_ne_true
  have hschema : (checkSchema codec receipt).status.isBroken = false := by
    unfold checkSchema
    split <;> rfl
  have hfresh : (if opts.fresh then [checkFreshness codec receipt opts] else []).any (·.status.isBroken) = false := by
    split
    · simp [checkFreshness_intact]
    · rfl
  have hev : (match receipt.evaluator with
      | some ev => [(⟨.evaluatorBinding ev.evaluator ev.version, .ok, none⟩ : CheckOutcome)]
      | none => []).any (·.status.isBroken) = false := by
    cases receipt.evaluator <;> rfl
  unfold checkReceipt CheckReport.integrityBroken
  simp only [any_append, hwitnesses, hextra, hfresh, hev, any_cons, any_nil, hschema, Bool.or_false, Bool.false_or]
  by_cases h : receipt.schema = receiptSchema
  · rw [if_pos h, any_cons, any_nil, Bool.or_false, checkContentHash_intact]
    simp [h]
  · rw [if_neg h]
    simp [h]

end

end Nq.Receipts
