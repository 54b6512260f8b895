/-
  Nq.Receipts.Anchored — what the check says of the packets it is given (`nq-core/src/receipt_check.rs`).

  A witness ref claims the first packet of its digest, so of two packets of one digest the second
  is reported as extra though a ref carries it. A list of packets is reported as it is, and its
  exit code is that of any list of the same packets, exactly where no digest that a ref carries is
  there twice; and a minted receipt passes the strict check with its own packets exactly when their
  digests are distinct (`check_receipt_iff`).

  - `a_packet_given_twice_is_extra`.
-/

import Mathlib.Data.List.NodupEquivFin
import Mathlib.Data.List.Duplicate
import Nq.Receipts.Check
import Nq.Receipts.Honest

namespace Nq.Receipts

open List
open Reliance (Receipt WitnessRef)

/-! ## Exit codes -/

def CheckStatus.exitCode (strict : Bool) : CheckStatus → Nat
  | .ok => 0
  | .receiptNotAnchored | .witnessNotAnchored | .missingWitnessPacket | .extraWitnessPacket | .freshnessNotApplicable =>
    if strict then 1 else 0
  | .stale | .malformedDigest | .unsupportedDigestAlgorithm | .unsupportedReceiptVersion => 1
  | .brokenContentHash => 2

def worstOf (strict : Bool) (outcomes : List CheckOutcome) : Nat :=
  outcomes.foldl (fun worst o => if o.status.exitCode strict > worst then o.status.exitCode strict else worst) 0

def exitCodeFor (report : CheckReport) (strict : Bool) : Nat :=
  if report.integrityBroken then 2 else worstOf strict report.outcomes

theorem exitCode_le (strict : Bool) (s : CheckStatus) : s.exitCode strict ≤ 2 := by
  cases strict <;> cases s <;> decide

variable {strict : Bool} {n : Nat}

theorem exitCode_of_broken {s : CheckStatus} (h : s.isBroken = true) : s.exitCode strict = 2 := by
  cases s <;> first | rfl | cases h

theorem foldl_worst_le : ∀ {outcomes : List CheckOutcome} {worst : Nat},
    outcomes.foldl (fun worst o => if o.status.exitCode strict > worst then o.status.exitCode strict
      else worst) worst ≤ n ↔
      worst ≤ n ∧ ∀ o ∈ outcomes, o.status.exitCode strict ≤ n := by
  intro outcomes
  induction outcomes with
  | nil => simp
  | cons o rest ih =>
    intro worst
    have hstep : (if o.status.exitCode strict > worst then o.status.exitCode strict else worst) ≤ n ↔
        worst ≤ n ∧ o.status.exitCode strict ≤ n := by
      split <;> omega
    rw [foldl_cons, ih, hstep, and_assoc, forall_mem_cons]

/-- An exit code is the worst of the outcomes, whatever their order and number. -/
theorem exitCodeFor_le {report : CheckReport} :
    exitCodeFor report strict ≤ n ↔ ∀ o ∈ report.outcomes, o.status.exitCode strict ≤ n := by
  unfold exitCodeFor
  by_cases h : report.integrityBroken = true
  · rw [if_pos h]
    obtain ⟨o, ho, hb⟩ := any_eq_true.mp h
    constructor
    · intro hn o _
      exact (exitCode_le strict o.status).trans hn
    · intro hall
      have hcode : o.status.exitCode strict = 2 := exitCode_of_broken hb
      exact hcode ▸ hall o ho
  · rw [if_neg h]
    unfold worstOf
    rw [foldl_worst_le]
    simp

/-! ## Digests of packets -/

theorem utf8ByteSize_ascii : ∀ {l : List Char}, (∀ c ∈ l, c.utf8Size = 1) →
    (String.ofList l).utf8ByteSize = l.length := by
  intro l
  induction l with
  | nil => intro _; rfl
  | cons c l ih =>
    intro h
    have hcons : String.ofList (c :: l) = String.singleton c ++ String.ofList l := String.toList_injective (by simp)
    rw [hcons, String.utf8ByteSize_append, String.utf8ByteSize_singleton, h c (by simp), ih fun d hd =>
      h d (mem_cons_of_mem _ hd), length_cons]
    omega

theorem isHexDigit_ascii {c : Char} (h : Inquiry.isHexDigit c = true) : c.utf8Size = 1 := by
  rw [Char.utf8Size_eq_one_iff]
  unfold Inquiry.isHexDigit at h
  simp only [Bool.or_eq_true, Bool.and_eq_true, decide_eq_true_eq] at h
  rcases h with ⟨_, h⟩ | ⟨_, h⟩
  · exact UInt32.le_trans (Char.le_def.mp h) (by decide)
  · exact UInt32.le_trans (Char.le_def.mp h) (by decide)

/-- The digest of a packet is one the check reads. -/
theorem parseDigest_digestText (hash) : parseDigest (Inquiry.digestText hash) = .sha256 := by
  have hlist : (Inquiry.digestText hash).toList = "sha256".toList ++ ':' :: Inquiry.hexEncode hash.toList := by
    unfold Inquiry.digestText
    rw [String.toList_ofList]
    rfl
  have hhex : ∀ c ∈ Inquiry.hexEncode hash.toList, Inquiry.isHexDigit c = true :=
    fun c hc => Inquiry.isHexDigit_hexEncode hc
  have hlength : (Inquiry.hexEncode hash.toList).length = 64 := by rw [Inquiry.length_hexEncode, Vector.length_toList]
  have hcolon : (Inquiry.digestText hash).toList.findIdx? (· = ':') = some 6 := by
    rw [hlist]
    rfl
  have hsize := utf8ByteSize_ascii fun c hc => isHexDigit_ascii (hhex c hc)
  unfold parseDigest
  rw [hcolon]
  have htake : String.ofList ((Inquiry.digestText hash).toList.take (6 + 1)) = Inquiry.digestAlgorithmPrefix := by
    rw [hlist]
    rfl
  have hdrop : (Inquiry.digestText hash).toList.drop (6 + 1) = Inquiry.hexEncode hash.toList := by
    rw [hlist]
    rfl
  simp only [htake, hdrop, if_true, hsize, hlength]
  simp only [ne_eq, not_true_eq_false, decide_false, Bool.false_or,
    all_eq_true.mpr hhex, Bool.not_true, Bool.false_eq_true, if_false]

/-! ## What the report says -/

section

variable (codec : Codec)

/-- A ref of the receipt carries the digest. -/
def Carries (receipt : Receipt) (d : String) : Prop := ∃ w ∈ receipt.witnesses, w.digest = some d

/-- No digest that a ref carries is that of two packets. -/
def UnrepeatedFor (receipt : Receipt) (packets : List WitnessPacket) : Prop :=
  ∀ d, Carries receipt d → (packetDigests codec packets).count d ≤ 1

/-- Under `--fresh` both timestamps are instants, the first of them before the horizon. -/
def FreshAsOf (receipt : Receipt) (opts : CheckOptions) : Prop :=
  ∃ horizon asOf h a, receipt.freshnessHorizon = some horizon ∧ opts.asOf = some asOf ∧ codec.rfc3339 horizon = .ok h ∧
    codec.rfc3339 asOf = .ok a ∧ a < h

/-- What the strict check asks for. -/
structure Passing (receipt : Receipt) (packets : List WitnessPacket) (opts : CheckOptions) : Prop where
  genuine : receipt.Genuine codec.hashing
  anchored : ∀ w ∈ receipt.witnesses, ∃ p ∈ packets, ∃ d, p.digest codec = .ok d ∧ w.digest = some d
  claimed : ∀ p ∈ packets, ∀ d, p.digest codec = .ok d → Carries receipt d
  fresh : opts.fresh = true → FreshAsOf codec receipt opts

/-- The report and the exit code are those of the packets, not of how often they come. -/
structure ChecksExactly (receipt : Receipt) (packets packets' : List WitnessPacket) (opts : CheckOptions) : Prop where
  extra : ∀ p ∈ packets, ∀ d, p.digest codec = .ok d →
    ((∃ o ∈ (checkReceipt codec receipt packets opts).outcomes,
      o.kind = .extraSuppliedPacket d ∧ o.status = .extraWitnessPacket) ↔
      ¬Carries receipt d)
  anchored : ∀ w ∈ receipt.witnesses,
    ((∃ o ∈ (checkReceipt codec receipt packets opts).outcomes,
      o.kind = .witnessDigest w.witnessType w.digest ∧ o.status = .ok) ↔
      ∃ p ∈ packets, ∃ d, p.digest codec = .ok d ∧ w.digest = some d)
  same : exitCodeFor (checkReceipt codec receipt packets opts) opts.strict =
    exitCodeFor (checkReceipt codec receipt packets' opts) opts.strict
  strict : opts.strict = true →
    (exitCodeFor (checkReceipt codec receipt packets opts) true = 0 ↔ Passing codec receipt packets opts)

end

section

variable {codec : Codec} {receipt : Receipt} {packets packets' : List WitnessPacket} {opts : CheckOptions}
  {digests : List String} {d : String}

theorem mem_packetDigests : d ∈ packetDigests codec packets ↔ ∃ p ∈ packets, p.digest codec = .ok d := by
  unfold packetDigests
  rw [mem_filterMap]
  simp only [toOption_eq_some]

variable {w : WitnessRef} {o : CheckOutcome}

theorem anchored_iff : (∃ d ∈ packetDigests codec packets, w.digest = some d) ↔
    ∃ p ∈ packets, ∃ d, p.digest codec = .ok d ∧ w.digest = some d := by
  constructor
  · rintro ⟨d, hd, hw⟩
    obtain ⟨p, hp, hpd⟩ := mem_packetDigests.mp hd
    exact ⟨p, hp, d, hpd, hw⟩
  · rintro ⟨p, hp, d, hpd, hw⟩
    exact ⟨d, mem_packetDigests.mpr ⟨p, hp, hpd⟩, hw⟩

theorem parseDigest_packet (h : d ∈ packetDigests codec packets) : parseDigest d = .sha256 := by
  obtain ⟨p, _, hd⟩ := mem_packetDigests.mp h
  unfold WitnessPacket.digest at hd
  split at hd
  · cases hd
  · cases hd
    exact parseDigest_digestText _

theorem checkWitness_ok (hparse : ∀ d ∈ digests, parseDigest d = .sha256) :
    (checkWitness codec digests w).status = .ok ↔ ∃ d ∈ digests, w.digest = some d := by
  unfold checkWitness
  cases hd : w.digest with
  | none => simp
  | some d =>
    by_cases hmem : d ∈ digests
    · simp [hparse d hmem, hmem]
    · have hne : ¬∃ d' ∈ digests, some d = some d' := by
        rintro ⟨d', hd', e⟩
        exact hmem (Option.some.inj e ▸ hd')
      refine iff_of_false ?_ hne
      dsimp only
      cases parseDigest d <;> simp [hmem]

theorem checkWitness_kind (w : WitnessRef) :
    (checkWitness codec digests w).kind = .witnessDigest w.witnessType w.digest := by
  unfold checkWitness
  cases hd : w.digest with
  | none => rfl
  | some d =>
    dsimp only
    split
    · split <;> rfl
    · rfl
    · rfl

/-! ## Extra packets -/

def extraOutcome (d : String) : CheckOutcome :=
  ⟨.extraSuppliedPacket d, .extraWitnessPacket,
    some ("supplied packet " ++ d ++ " does not correspond to any WitnessRef in the receipt")⟩

theorem mem_checkExtra {used : List Nat} : ∀ {digests : List String} {index : Nat},
    o ∈ checkExtra used index digests ↔ ∃ i d, digests[i]? = some d ∧ index + i ∉ used ∧ o = extraOutcome d := by
  intro digests
  induction digests with
  | nil => simp [checkExtra]
  | cons d rest ih =>
    intro index
    have hrest : (∃ i d', (d :: rest)[i]? = some d' ∧ index + i ∉ used ∧ o = extraOutcome d') ↔
        (index ∉ used ∧ o = extraOutcome d) ∨ ∃ i d', rest[i]? = some d' ∧
          index + 1 + i ∉ used ∧ o = extraOutcome d' := by
      constructor
      · rintro ⟨i, d', hi, hused, ho⟩
        cases i with
        | zero =>
          cases hi
          exact .inl ⟨hused, ho⟩
        | succ i => exact .inr ⟨i, d', hi, by rwa [show index + 1 + i = index + (i + 1) by omega], ho⟩
      · rintro (⟨hused, ho⟩ | ⟨i, d', hi, hused, ho⟩)
        · exact ⟨0, d, rfl, hused, ho⟩
        · exact ⟨i + 1, d', hi, by rwa [show index + (i + 1) = index + 1 + i by omega], ho⟩
    rw [hrest, checkExtra]
    by_cases hused : index ∈ used
    · simp [hused, ih]
    · rw [if_neg hused, mem_cons, ih]
      simp [hused, extraOutcome]

theorem mem_usedPackets {witnesses : List WitnessRef} {i : Nat} (hparse : ∀ d ∈ digests, parseDigest d = .sha256) :
    i ∈ usedPackets witnesses digests ↔ ∃ d, (∃ w ∈ witnesses, w.digest = some d) ∧
      digests.findIdx? (· = d) = some i := by
  unfold usedPackets
  simp only [mem_filterMap, Option.bind_eq_some_iff]
  constructor
  · rintro ⟨w, hw, d, hd, h⟩
    split at h
    · exact ⟨d, ⟨w, hw, hd⟩, h⟩
    · cases h
  · rintro ⟨d, ⟨w, hw, hd⟩, h⟩
    have hmem : d ∈ digests := by
      obtain ⟨hi, hp, _⟩ := findIdx?_eq_some_iff_getElem.mp h
      exact of_decide_eq_true hp ▸ getElem_mem hi
    exact ⟨w, hw, d, hd, by rw [if_pos (hparse d hmem)]; exact h⟩

/-- A digest is reported as extra where no ref carries it, and where it comes twice. -/
theorem extra_iff (hparse : ∀ d ∈ digests, parseDigest d = .sha256) (hd : d ∈ digests) :
    extraOutcome d ∈ checkExtra (usedPackets receipt.witnesses digests) 0 digests ↔
      Carries receipt d → 2 ≤ digests.count d := by
  have hout : extraOutcome d ∈ checkExtra (usedPackets receipt.witnesses digests) 0 digests ↔
      ∃ i, digests[i]? = some d ∧ i ∉ usedPackets receipt.witnesses digests := by
    rw [mem_checkExtra]
    constructor
    · rintro ⟨i, d', hi, hused, ho⟩
      have e : d = d' := by simpa [extraOutcome] using ho
      exact ⟨i, e ▸ hi, by simpa using hused⟩
    · rintro ⟨i, hi, hused⟩
      exact ⟨i, d, hi, by simpa using hused, rfl⟩
  obtain ⟨j, hj⟩ : ∃ j, digests.findIdx? (· = d) = some j := by
    cases hfind : digests.findIdx? (· = d) with
    | none => exact absurd (findIdx?_eq_none_iff.mp hfind d hd) (by simp)
    | some j => exact ⟨j, rfl⟩
  obtain ⟨hlt, hat, hfirst⟩ := findIdx?_eq_some_iff_getElem.mp hj
  have hat : digests[j] = d := of_decide_eq_true hat
  -- the place of `d` that a ref may use is the first one
  have hused : ∀ i, digests[i]? = some d → (i ∈ usedPackets receipt.witnesses digests ↔ Carries receipt d ∧ i = j) := by
    intro i hi
    rw [mem_usedPackets hparse]
    constructor
    · rintro ⟨d', hcarries, hfind⟩
      obtain ⟨hlt', hat', _⟩ := findIdx?_eq_some_iff_getElem.mp hfind
      have e : d' = d := by
        rw [getElem?_eq_getElem hlt'] at hi
        exact (of_decide_eq_true hat').symm.trans (Option.some.inj hi)
      subst e
      exact ⟨hcarries, Option.some.inj (hfind.symm.trans hj)⟩
    · rintro ⟨hcarries, rfl⟩
      exact ⟨d, hcarries, hj⟩
  rw [hout, ← duplicate_iff_two_le_count, duplicate_iff_exists_distinct_get]
  constructor
  · rintro ⟨i, hi, hnot⟩ hcarries
    rw [hused i hi] at hnot
    have hne : i ≠ j := fun e => hnot ⟨hcarries, e⟩
    obtain ⟨hlti, hati⟩ := List.getElem?_eq_some_iff.mp hi
    have hlt' : j < i := by
      rcases Nat.lt_or_gt_of_ne hne with h | h
      · exact absurd (hfirst i h) (by simp [hati])
      · exact h
    exact ⟨⟨j, hlt⟩, ⟨i, hlti⟩, hlt', hat.symm, hati.symm⟩
  · intro htwice
    by_cases hcarries : Carries receipt d
    · obtain ⟨m, n, hmn, hm, hn⟩ := htwice hcarries
      have hat' : digests[n.1]? = some d := by rw [getElem?_eq_getElem n.2]; exact congrArg some hn.symm
      refine ⟨n, hat', fun hmem => ?_⟩
      obtain ⟨_, e⟩ := (hused n hat').mp hmem
      have hm' : ¬(m : Nat) < j := fun h => absurd (hfirst m h) (by simpa using hm.symm)
      have hlt' : (m : Nat) < n := hmn
      omega
    · have hat' : digests[j]? = some d := by rw [getElem?_eq_getElem hlt, hat]
      exact ⟨j, hat', fun hmem => hcarries ((hused j hat').mp hmem).1⟩

/-! ## The other outcomes -/

variable (codec receipt digests opts) in
/-- The outcomes that are not of an extra packet. -/
def otherOutcomes : List CheckOutcome :=
  [checkSchema codec receipt] ++ (if receipt.schema = receiptSchema then [checkContentHash codec receipt] else []) ++
    receipt.witnesses.map (checkWitness codec digests) ++ (if opts.fresh then [checkFreshness codec receipt opts]
      else []) ++ match receipt.evaluator with
    | some ev => [⟨.evaluatorBinding ev.evaluator ev.version, .ok, none⟩]
    | none => []

variable (codec receipt digests) in
def extraOutcomes : List CheckOutcome := checkExtra (usedPackets receipt.witnesses digests) 0 digests

theorem mem_outcomes : o ∈ (checkReceipt codec receipt packets opts).outcomes ↔
    o ∈ otherOutcomes codec receipt opts (packetDigests codec packets) ∨
      o ∈ extraOutcomes receipt (packetDigests codec packets) := by
  unfold checkReceipt otherOutcomes extraOutcomes
  simp only [mem_append]
  tauto

/-- Such an outcome is of a ref, or of no digest at all. -/
theorem other_cases (h : o ∈ otherOutcomes codec receipt opts digests) :
    (∃ w ∈ receipt.witnesses, o = checkWitness codec digests w) ∨
      ∀ t e d, o.kind ≠ .witnessDigest t e ∧ o.kind ≠ .extraSuppliedPacket d := by
  have hschema : (checkSchema codec receipt).kind = .schema receipt.schema := by
    unfold checkSchema
    split <;> rfl
  have hhash : (checkContentHash codec receipt).kind = .contentHash := by
    unfold checkContentHash
    split
    · rfl
    · split <;> rfl
    · rfl
  have hfresh : (checkFreshness codec receipt opts).kind = .freshnessHorizon := by
    unfold checkFreshness
    split
    · rfl
    · rfl
    · split <;> rfl
  unfold otherOutcomes at h
  simp only [mem_append, mem_singleton, List.mem_map] at h
  rcases h with (((e | h) | ⟨w, hw, e⟩) | h) | h
  · refine .inr fun _ _ _ => ?_
    rw [e, hschema]
    exact ⟨fun e => (by cases e), fun e => (by cases e)⟩
  · refine .inr fun _ _ _ => ?_
    split at h
    · rw [mem_singleton.mp h, hhash]
      exact ⟨fun e => (by cases e), fun e => (by cases e)⟩
    · cases h
  · exact .inl ⟨w, hw, e.symm⟩
  · refine .inr fun _ _ _ => ?_
    split at h
    · rw [mem_singleton.mp h, hfresh]
      exact ⟨fun e => (by cases e), fun e => (by cases e)⟩
    · cases h
  · refine .inr fun _ _ _ => ?_
    split at h
    · rw [mem_singleton.mp h]
      exact ⟨fun e => (by cases e), fun e => (by cases e)⟩
    · cases h

theorem other_status (hschema : receipt.schema = receiptSchema) (hparse : ∀ d ∈ digests, parseDigest d = .sha256) :
    (∀ o ∈ otherOutcomes codec receipt opts digests, o.status = .ok) ↔ receipt.Genuine codec.hashing ∧
      (∀ w ∈ receipt.witnesses, ∃ d ∈ digests, w.digest = some d) ∧
        (opts.fresh = true → FreshAsOf codec receipt opts) := by
  have hsupported : (checkSchema codec receipt).status = .ok := by
    unfold checkSchema
    rw [if_pos hschema]
  have hhash : (checkContentHash codec receipt).status = .ok ↔ receipt.Genuine codec.hashing := by
    unfold checkContentHash Receipt.Genuine
    cases receipt.contentHash with
    | none => simp
    | some stored =>
      cases receipt.computeContentHash codec.hashing with
      | error e => simp
      | ok recomputed => by_cases h : stored = recomputed <;> simp [h, eq_comm]
  have hfresh : (checkFreshness codec receipt opts).status = .ok ↔ FreshAsOf codec receipt opts := by
    unfold checkFreshness FreshAsOf
    cases receipt.freshnessHorizon with
    | none => simp
    | some horizon =>
      cases opts.asOf with
      | none => simp
      | some asOf =>
        dsimp only
        cases hh : codec.rfc3339 horizon with
        | error e => simp [hh]
        | ok h =>
          cases ha : codec.rfc3339 asOf with
          | error e => simp [ha]
          | ok a => by_cases hlt : a < h <;> simp [hh, ha, hlt]
  have hev : ∀ o ∈ (match receipt.evaluator with
      | some ev => [(⟨.evaluatorBinding ev.evaluator ev.version, .ok, none⟩ : CheckOutcome)]
      | none => []), o.status = .ok := by
    intro o ho
    split at ho
    · rw [mem_singleton.mp ho]
    · cases ho
  unfold otherOutcomes
  rw [if_pos hschema]
  simp only [mem_append, or_imp, forall_and, mem_singleton, forall_eq, forall_mem_map, checkWitness_ok hparse,
    hsupported, hhash, true_and]
  constructor
  · rintro ⟨⟨⟨hg, hw⟩, hf⟩, _⟩
    refine ⟨hg, hw, fun h => hfresh.mp (hf _ ?_)⟩
    rw [if_pos h]
    exact mem_singleton_self _
  · rintro ⟨hg, hw, hf⟩
    refine ⟨⟨⟨hg, hw⟩, fun o ho => ?_⟩, hev⟩
    split at ho
    · rename_i h
      rw [mem_singleton.mp ho]
      exact hfresh.mpr (hf h)
    · cases ho

theorem checkWitness_congr {digests' : List String} (h : ∀ d, d ∈ digests' ↔ d ∈ digests) (w : WitnessRef) :
    checkWitness codec digests' w = checkWitness codec digests w := by
  unfold checkWitness
  cases w.digest with
  | none => rfl
  | some d => simp only [h d]

/-! ## The exit code -/

theorem exit_le {strict : Bool} {n : Nat} : exitCodeFor (checkReceipt codec receipt packets opts) strict ≤ n ↔
    (∀ o ∈ otherOutcomes codec receipt opts (packetDigests codec packets), o.status.exitCode strict ≤ n) ∧
      (extraOutcomes receipt (packetDigests codec packets) ≠ [] → (if strict then 1 else 0) ≤ n) := by
  have hextra : (∀ o ∈ extraOutcomes receipt (packetDigests codec packets), o.status.exitCode strict ≤ n) ↔
      (extraOutcomes receipt (packetDigests codec packets) ≠ [] → (if strict then 1 else 0) ≤ n) := by
    have hcode : ∀ o ∈ extraOutcomes receipt (packetDigests codec packets),
        o.status.exitCode strict = if strict then 1 else 0 := by
      intro o ho
      obtain ⟨_, d, _, _, rfl⟩ := mem_checkExtra.mp ho
      rfl
    constructor
    · intro h hne
      obtain ⟨o, ho⟩ := exists_mem_of_ne_nil _ hne
      exact hcode o ho ▸ h o ho
    · intro h o ho
      rw [hcode o ho]
      exact h (ne_nil_of_mem ho)
  rw [exitCodeFor_le, ← hextra]
  simp only [mem_outcomes, or_imp, forall_and]

theorem extra_nonempty : extraOutcomes receipt (packetDigests codec packets) ≠ [] ↔
    ∃ d ∈ packetDigests codec packets, Carries receipt d → 2 ≤ (packetDigests codec packets).count d := by
  constructor
  · intro hne
    obtain ⟨o, ho⟩ := exists_mem_of_ne_nil _ hne
    obtain ⟨i, d, hi, _, rfl⟩ := mem_checkExtra.mp ho
    have hd := mem_of_getElem? hi
    exact ⟨d, hd, (extra_iff (fun _ => parseDigest_packet) hd).mp ho⟩
  · rintro ⟨d, hd, h⟩
    exact ne_nil_of_mem ((extra_iff (fun _ => parseDigest_packet) hd).mpr h)

/-- Where every packet is claimed, some are extra exactly when a claimed digest comes twice. -/
theorem extra_of_claimed (h : ∀ p ∈ packets, ∀ d, p.digest codec = .ok d → Carries receipt d) :
    extraOutcomes receipt (packetDigests codec packets) = [] ↔ UnrepeatedFor codec receipt packets := by
  rw [← not_iff_not, ← ne_eq, extra_nonempty]
  unfold UnrepeatedFor
  push Not
  constructor
  · rintro ⟨d, hd, htwice⟩
    obtain ⟨p, hp, hpd⟩ := mem_packetDigests.mp hd
    exact ⟨d, h p hp d hpd, htwice (h p hp d hpd)⟩
  · rintro ⟨d, _, htwice⟩
    exact ⟨d, count_pos_iff.mp (by omega), fun _ => htwice⟩

theorem exitCode_zero {s : CheckStatus} : s.exitCode true ≤ 0 ↔ s = .ok := by
  cases s <;> decide

/-- The strict check passes where its terms are met and no claimed digest comes twice. -/
theorem strict_passes_iff (hschema : receipt.schema = receiptSchema) :
    exitCodeFor (checkReceipt codec receipt packets opts) true = 0 ↔
      Passing codec receipt packets opts ∧ UnrepeatedFor codec receipt packets := by
  rw [← Nat.le_zero, exit_le]
  simp only [exitCode_zero, other_status hschema fun _ => parseDigest_packet]
  simp only [anchored_iff]
  constructor
  · rintro ⟨⟨hg, hw, hf⟩, hextra⟩
    have hnil : extraOutcomes receipt (packetDigests codec packets) = [] := by
      by_contra hne
      exact absurd (hextra hne) (by decide)
    have hclaimed : ∀ p ∈ packets, ∀ d, p.digest codec = .ok d → Carries receipt d := by
      intro p hp d hd
      by_contra hnot
      exact extra_nonempty.mpr ⟨d, mem_packetDigests.mpr ⟨p, hp, hd⟩, fun h => absurd h hnot⟩ hnil
    exact ⟨⟨hg, hw, hclaimed, hf⟩, (extra_of_claimed hclaimed).mp hnil⟩
  · rintro ⟨hp, hu⟩
    exact ⟨⟨hp.genuine, hp.anchored, hp.fresh⟩, fun hne => absurd ((extra_of_claimed hp.claimed).mpr hu) hne⟩

/-- Lists of the same packets have one exit code, unless the terms of the strict check are met and a claimed digest
    comes twice in one of them alone. -/
theorem same_code_iff (hschema : receipt.schema = receiptSchema) (hsame : ∀ p, p ∈ packets' ↔ p ∈ packets)
    (hu : UnrepeatedFor codec receipt packets) :
    exitCodeFor (checkReceipt codec receipt packets opts) opts.strict =
        exitCodeFor (checkReceipt codec receipt packets' opts) opts.strict ↔
      (opts.strict = true → Passing codec receipt packets opts → UnrepeatedFor codec receipt packets') := by
  have hdigests : ∀ d, d ∈ packetDigests codec packets' ↔ d ∈ packetDigests codec packets := fun d => by
    simp only [mem_packetDigests, hsame]
  have hothers : otherOutcomes codec receipt opts (packetDigests codec packets') =
      otherOutcomes codec receipt opts (packetDigests codec packets) := by
    unfold otherOutcomes
    rw [map_congr_left fun w _ => checkWitness_congr hdigests w]
  have hpassing : Passing codec receipt packets' opts ↔ Passing codec receipt packets opts := by
    constructor
    · rintro ⟨hg, ha, hc, hf⟩
      exact ⟨hg, by simpa only [hsame] using ha, by simpa only [hsame] using hc, hf⟩
    · rintro ⟨hg, ha, hc, hf⟩
      exact ⟨hg, by simpa only [hsame] using ha, by simpa only [hsame] using hc, hf⟩
  cases hstrict : opts.strict with
  | false =>
    refine iff_of_true (eq_of_forall_ge_iff fun n => ?_) fun h => (nomatch h)
    rw [exit_le, exit_le, hothers]
    simp
  | true =>
    have hzero : exitCodeFor (checkReceipt codec receipt packets' opts) true = 0 ↔
        Passing codec receipt packets opts ∧ UnrepeatedFor codec receipt packets' := by
      rw [strict_passes_iff hschema, hpassing]
    by_cases hpass : Passing codec receipt packets opts
    · rw [(strict_passes_iff hschema).mpr ⟨hpass, hu⟩, eq_comm, hzero]
      simp [hpass]
    · refine iff_of_true (eq_of_forall_ge_iff fun n => ?_) fun _ h => absurd h hpass
      cases n with
      | zero =>
        rw [Nat.le_zero, Nat.le_zero, strict_passes_iff hschema, hzero]
        simp [hpass]
      | succ n =>
        rw [exit_le, exit_le, hothers]
        simp

theorem reported_extra : (∃ o ∈ (checkReceipt codec receipt packets opts).outcomes,
      o.kind = .extraSuppliedPacket d ∧ o.status = .extraWitnessPacket) ↔
    extraOutcome d ∈ extraOutcomes receipt (packetDigests codec packets) := by
  constructor
  · rintro ⟨o, ho, hkind, _⟩
    rcases mem_outcomes.mp ho with ho | ho
    · rcases other_cases ho with ⟨w, _, rfl⟩ | hother
      · rw [checkWitness_kind] at hkind
        cases hkind
      · exact absurd hkind (hother "" none d).2
    · obtain ⟨_, d', _, _, rfl⟩ := mem_checkExtra.mp ho
      cases hkind
      exact ho
  · intro ho
    exact ⟨_, mem_outcomes.mpr (.inr ho), rfl, rfl⟩

theorem reported_anchor (hw : w ∈ receipt.witnesses) :
    (∃ o ∈ (checkReceipt codec receipt packets opts).outcomes,
      o.kind = .witnessDigest w.witnessType w.digest ∧ o.status = .ok) ↔
      ∃ p ∈ packets, ∃ d, p.digest codec = .ok d ∧ w.digest = some d := by
  have hok : (∃ p ∈ packets, ∃ d, p.digest codec = .ok d ∧ w.digest = some d) ↔
      (checkWitness codec (packetDigests codec packets) w).status = .ok := by
    rw [checkWitness_ok fun _ => parseDigest_packet, anchored_iff]
  rw [hok]
  constructor
  · rintro ⟨o, ho, hkind, hstatus⟩
    rcases mem_outcomes.mp ho with ho | ho
    · rcases other_cases ho with ⟨w', _, rfl⟩ | hother
      · rw [checkWitness_kind] at hkind
        obtain ⟨_, e⟩ := CheckKind.witnessDigest.inj hkind
        rw [checkWitness_ok fun _ => parseDigest_packet] at hstatus ⊢
        exact e ▸ hstatus
      · exact absurd hkind (hother _ _ "").1
    · obtain ⟨_, _, _, _, rfl⟩ := mem_checkExtra.mp ho
      cases hkind
  · intro hstatus
    refine ⟨_, mem_outcomes.mpr (.inl ?_), checkWitness_kind w, hstatus⟩
    unfold otherOutcomes
    simp only [mem_append, List.mem_map]
    exact .inl (.inl (.inr ⟨w, hw, rfl⟩))

theorem checksExactly_iff (hschema : receipt.schema = receiptSchema) (hsame : ∀ p, p ∈ packets' ↔ p ∈ packets) :
    ChecksExactly codec receipt packets packets' opts ↔ UnrepeatedFor codec receipt packets ∧
      (opts.strict = true → Passing codec receipt packets opts → UnrepeatedFor codec receipt packets') := by
  constructor
  · intro h
    have hu : UnrepeatedFor codec receipt packets := by
      intro d hcarries
      by_contra htwice
      have hmem : d ∈ packetDigests codec packets := count_pos_iff.mp (by omega)
      obtain ⟨p, hp, hd⟩ := mem_packetDigests.mp hmem
      have htwo : Carries receipt d → 2 ≤ (packetDigests codec packets).count d := fun _ => by omega
      have hextra := (extra_iff (fun _ => parseDigest_packet) hmem).mpr htwo
      exact (h.extra p hp d hd).mp (reported_extra.mpr hextra) hcarries
    exact ⟨hu, (same_code_iff hschema hsame hu).mp h.same⟩
  · rintro ⟨hu, hu'⟩
    refine ⟨fun p hp d hd => ?_, fun w hw => reported_anchor hw, (same_code_iff hschema hsame hu).mpr hu', fun _ => ?_⟩
    · have hmem := mem_packetDigests.mpr ⟨p, hp, hd⟩
      rw [reported_extra, extraOutcomes, extra_iff (fun _ => parseDigest_packet) hmem]
      constructor
      · intro htwice hcarries
        have := hu d hcarries
        have := htwice hcarries
        omega
      · intro hnot hcarries
        exact absurd hcarries hnot
    · rw [strict_passes_iff hschema]
      exact and_iff_left hu

end

/-! ## Minted receipts -/

section

variable {codec : Codec} {registry : ClaimRegistry} {claim subject generatedAt : String} {packets : List WitnessPacket}
  {fuel : Nat} {r : Receipt}

/-- A sealed receipt is the resolved one with a ref for each packet of its subject. -/
theorem exists_witnessed (h : evaluate codec registry claim subject packets generatedAt fuel = some r)
    (hsealed : r.contentHash ≠ none)
    (hsubject : ∀ p ∈ packets, p.subject = subject) :
    ∃ base, About base claim subject generatedAt ∧ r = witnessed codec packets base := by
  unfold evaluate at h
  cases hinvalid : firstInvalid codec 0 packets with
  | some failed =>
    rw [hinvalid] at h
    cases h
    exact absurd rfl hsealed
  | none =>
    rw [hinvalid] at h
    have hall : applicable subject packets = packets := filter_eq_self.mpr fun p hp => decide_eq_true (hsubject p hp)
    dsimp only at h
    rw [hall] at h
    obtain ⟨base, hbase, rfl⟩ := Option.map_eq_some_iff.mp h
    exact ⟨base, resolveClaim_about hbase, rfl⟩

theorem carries_witnessed (base : Receipt) (d : String) :
    Carries (witnessed codec packets base) d ↔ d ∈ packetDigests codec packets := by
  unfold Carries
  rw [(witnessed_refs base).1, mem_packetDigests]
  constructor
  · rintro ⟨w, hw, hd⟩
    obtain ⟨p, hp, rfl⟩ := List.mem_map.mp hw
    exact ⟨p, hp, toOption_eq_some.mp hd⟩
  · rintro ⟨p, hp, hd⟩
    exact ⟨_, mem_map_of_mem hp, toOption_eq_some.mpr hd⟩

/-- A minted receipt passes the strict check with its own packets where their digests are distinct. -/
theorem minted_passes_iff (hcodec : codec.Canonicalizes)
    (h : evaluate codec registry claim subject packets generatedAt fuel = some r)
    (hsealed : r.contentHash ≠ none) (hsubject : ∀ p ∈ packets, p.subject = subject) (asOf : Option String) :
    exitCodeFor (checkReceipt codec r packets ⟨true, false, asOf⟩) true = 0 ↔ (packetDigests codec packets).Nodup := by
  obtain ⟨base, habout, rfl⟩ := exists_witnessed h hsealed hsubject
  have hpassing : Passing codec (witnessed codec packets base) packets ⟨true, false, asOf⟩ := by
    refine ⟨witnessed_genuine hcodec base, fun w hw => ?_, fun p hp d hd => ?_, fun h => (nomatch h)⟩
    · rw [(witnessed_refs base).1] at hw
      obtain ⟨p, hp, rfl⟩ := List.mem_map.mp hw
      obtain ⟨d, hd⟩ := exists_digest hcodec p
      exact ⟨p, hp, d, hd, toOption_eq_some.mpr hd⟩
    · exact (carries_witnessed base d).mpr (mem_packetDigests.mpr ⟨p, hp, hd⟩)
  rw [strict_passes_iff (witnessed_about codec packets habout).schema, nodup_iff_count_le_one]
  unfold UnrepeatedFor
  simp only [carries_witnessed, hpassing, true_and]
  constructor
  · intro h d
    by_cases hd : d ∈ packetDigests codec packets
    · exact h d hd
    · rw [count_eq_zero.mpr hd]
      exact Nat.zero_le 1
  · intro h d _
    exact h d

end

/-- The check is exact on lists in which no digest that a ref carries comes twice, and on no others; and a minted
    receipt passes the strict check with its own packets exactly when their digests are distinct. -/
theorem check_receipt_iff (codec : Codec) (hcodec : codec.Canonicalizes) :
    (∀ (receipt : Receipt) (packets packets' : List WitnessPacket) (opts : CheckOptions), receipt.schema =
      receiptSchema → (∀ p, p ∈ packets' ↔ p ∈ packets) →
        (ChecksExactly codec receipt packets packets' opts ↔ UnrepeatedFor codec receipt packets ∧
          (opts.strict = true → Passing codec receipt packets opts → UnrepeatedFor codec receipt packets'))) ∧
    ∀ (registry : ClaimRegistry) (claim subject generatedAt : String)
      (packets : List WitnessPacket) (fuel : Nat) (r : Receipt)
      (asOf : Option String), evaluate codec registry claim subject packets generatedAt fuel = some r → r.contentHash ≠
        none → (∀ p ∈ packets, p.subject = subject) →
          (exitCodeFor (checkReceipt codec r packets ⟨true, false, asOf⟩) true = 0 ↔
            (packetDigests codec packets).Nodup) :=
  ⟨fun _ _ _ _ hschema hsame => checksExactly_iff hschema hsame,
    fun _ _ _ _ _ _ _ asOf h hsealed hsubject => minted_passes_iff hcodec h hsealed hsubject asOf⟩

/-! ## A packet given twice -/

/-- The receipt of a test run, of one or more copies of its packet. -/
theorem exists_sealed_run (packets : List WitnessPacket) (h : ∀ p ∈ packets, p = pytestPacket 0) : ∃ r,
    evaluate sampleCodec .trackBStarter "tests_passed" "repo:." packets "2026-05-15T14:00:00Z"
      ClaimRegistry.trackBStarter.entries.length = some r ∧ r.contentHash ≠ none ∧
        ∀ p ∈ packets, p.subject = "repo:." := by
  have hvalid : ∀ p ∈ packets, p.validate sampleCodec = .ok () := fun p hp => h p hp ▸ pytestPacket_valid
  obtain ⟨base, _, hr⟩ := exists_minted "repo:." "tests_passed" "2026-05-15T14:00:00Z" hvalid
  have hgenuine : (witnessed sampleCodec (applicable "repo:." packets) base).Genuine sampleCodec.hashing :=
    witnessed_genuine sampleCodec_canonicalizes base
  obtain ⟨hash, hhash, _⟩ := hgenuine
  refine ⟨_, hr, by rw [hhash]; nofun, fun p hp => ?_⟩
  rw [h p hp]
  rfl

/-- Minted from a packet that is given twice, a receipt fails the strict check with the two. -/
theorem a_packet_given_twice_is_extra : ∃ r,
    evaluate sampleCodec .trackBStarter "tests_passed" "repo:." [pytestPacket 0, pytestPacket 0] "2026-05-15T14:00:00Z"
      ClaimRegistry.trackBStarter.entries.length = some r ∧ r.contentHash ≠ none ∧
    exitCodeFor (checkReceipt sampleCodec r [pytestPacket 0, pytestPacket 0] ⟨true, false, none⟩) true ≠ 0 := by
  obtain ⟨r, hr, hsealed, hsubject⟩ := exists_sealed_run [pytestPacket 0, pytestPacket 0] fun p hp => by simpa using hp
  refine ⟨r, hr, hsealed, fun hpass => ?_⟩
  have hnodup := (minted_passes_iff sampleCodec_canonicalizes hr hsealed hsubject none).mp hpass
  obtain ⟨d, hd⟩ := exists_digest sampleCodec_canonicalizes (pytestPacket 0)
  simp [packetDigests, toOption_eq_some.mpr hd] at hnodup

/-- Minted from a packet that is given once, it passes. -/
theorem a_packet_given_once_passes : ∃ r,
    evaluate sampleCodec .trackBStarter "tests_passed" "repo:." [pytestPacket 0] "2026-05-15T14:00:00Z"
      ClaimRegistry.trackBStarter.entries.length = some r ∧
    exitCodeFor (checkReceipt sampleCodec r [pytestPacket 0] ⟨true, false, none⟩) true = 0 := by
  obtain ⟨r, hr, hsealed, hsubject⟩ := exists_sealed_run [pytestPacket 0] fun p hp => mem_singleton.mp hp
  obtain ⟨_, hmint⟩ := check_receipt_iff sampleCodec sampleCodec_canonicalizes
  refine ⟨r, hr, (hmint _ _ _ _ _ _ _ none hr hsealed hsubject).mpr ?_⟩
  obtain ⟨d, hd⟩ := exists_digest sampleCodec_canonicalizes (pytestPacket 0)
  simp [packetDigests, toOption_eq_some.mpr hd]

end Nq.Receipts
