/-
  Nq.Receipts.Window — the observation window of a receipt (`nq-core/src/claim_registry.rs`,
  `nq-core/src/receipt.rs`).

  A receipt discloses the oldest and the newest `observed_at` of its packets, or of the
  supports of the preflight result it is converted from. Both are taken of the texts, and
  RFC3339 spells an instant in many ways: with any offset, and with any number of decimals.
  So the window is chronological exactly where one packet is least as a text and earliest as
  an instant, and one greatest and latest, as they are where all are spelled alike
  (`chronological_iff`).
-/

import Nq.Preflight.Result
import Nq.Receipts.Sound
import Nq.Text.Rfc3339

namespace Nq.Receipts

open List
open Preflight (ClaimKind PreflightResult PreflightSupport PreflightTarget Verdict)
open Reliance (ClaimRefusal EvaluatorBinding NotVerifiedEntry Receipt Status StatusReason WitnessRef)
open Text (Spelling)

/-! ## From a preflight result -/

/-- A preflight result with the fields that only its receipt reads. -/
structure AnsweredPreflight extends PreflightResult where
  contractVersion : Nat
  cannotTestify : List ClaimRefusal

def asStr : ClaimKind → String
  | .diskState => "disk_state"
  | .ingestState => "ingest_state"
  | .dnsState => "dns_state"
  | .sqliteWalState => "sqlite_wal_state"
  | .componentTestimonyObservationLoopAlive => "component_testimony_observation_loop_alive"
  | .nqBinaryMtimeState => "nq_binary_mtime_state"
  | .nqEvaluatorState => "nq_evaluator_state"
  | .nqSqlContractState => "nq_sql_contract_state"
  | .serviceState => "service_state"

def mapVerdict : Verdict → Status × List StatusReason
  | .admissible => (.verified, [.allRequirementsVerified])
  | .admissibleWithScope => (.verified, [.allRequirementsVerified])
  | .unsupportedAsStated => (.notVerified, [.missingRequiredClaim])
  | .claimExceedsTestimony => (.partiallyVerified, [.partialComposite, .suggestedWeakerClaimAvailable])
  | .insufficientCoverage => (.needsMoreEvidence, [.missingRequiredClaim])
  | .staleTestimony => (.needsMoreEvidence, [.staleObservation])
  | .contradictoryTestimony => (.notVerified, [.contradictoryObservation])
  | .cannotTestify => (.notVerified, [.nonMintable])

def renderSubject (t : PreflightTarget) : String :=
  if t.scope = "host" then "host:" ++ t.host
  else match t.id with
    | none => "host:" ++ t.host
    | some id => "host:" ++ t.host ++ "/" ++ t.scope ++ ":" ++ id

def renderSupportedStatus (target : PreflightTarget) (status : Status) (supports : List PreflightSupport)
    (verdictNote : Option String) : String :=
  let subject := renderSubject target
  let claims := "; ".intercalate (supports.map (·.claim))
  if verdictNote.any (· ≠ "") then verdictNote.getD ""
  else match status with
    | .verified =>
      if supports.isEmpty then "Disk-state substrate is observable on " ++ subject ++
        " with no admissible adverse findings."
      else "Disk-state substrate on " ++ subject ++ " is observable. Supported scoped findings: " ++ claims ++ "."
    | .partiallyVerified => "Disk-state substrate on " ++ subject ++ " testifies to: " ++ claims ++
        ". The submitted claim is broader than the available testimony."
    | .needsMoreEvidence => "Disk-state substrate on " ++ subject ++
        " is not currently observable; required testimony is missing."
    | .notVerified => "Disk-state substrate on " ++ subject ++ " cannot support the submitted claim."
    | .invalidEvidence => "Submitted evidence failed validation."

/-- The packets behind the supports, or else the families that testified. -/
def preflightWitnesses (pr : AnsweredPreflight) : List WitnessRef :=
  if pr.supports.any (·.witnessPacket.isSome) then
    pr.supports.filterMap fun s => s.witnessPacket.map fun wp =>
      ⟨wp.witnessType, some wp.digest, some wp.observedAt, wp.custodyBasis⟩
  else pr.coverage.map fun c => ⟨c.witness, none, none, none⟩

/-- `observed_at` of the supports that have one. -/
def supportStamps (pr : AnsweredPreflight) : List String := pr.supports.filterMap (·.observedAt)

section

variable (codec : Codec)

/-- `seal`, of which a failure leaves the binding. -/
def sealedAs (binding : EvaluatorBinding) (r : Receipt) : Receipt :=
  match r.seal codec.hashing binding with
  | .ok s => s
  | .error _ => { r with evaluator := some binding }

/-- `From<PreflightResult> for Receipt`. -/
def ofPreflightResult (pr : AnsweredPreflight) : Receipt :=
  let (status, reasons) := mapVerdict pr.verdict
  let claims := pr.supports.map (·.claim)
  let suggested := if pr.verdict = .claimExceedsTestimony ∨ pr.verdict = .admissibleWithScope then claims else []
  let reasons :=
    if suggested ≠ [] ∧ .suggestedWeakerClaimAvailable ∉ reasons ∧ pr.verdict = .claimExceedsTestimony then
      reasons ++ [.suggestedWeakerClaimAvailable]
    else reasons
  sealedAs codec ⟨asStr pr.claimKind, pr.contractVersion⟩
    { schema := receiptSchema
      claim := asStr pr.claimKind
      subject := renderSubject pr.target
      target := some ⟨pr.target.host, pr.target.scope, pr.target.id⟩
      status
      statusReasons := reasons
      verified := if status = .verified ∨ status = .partiallyVerified then claims else []
      notVerified := pr.excludes.map fun e => ⟨e.findingKind, e.reason, e.detail⟩
      suggestedWeakerClaims := suggested
      supportedStatus := renderSupportedStatus pr.target status pr.supports pr.verdictNote
      cannotTestify := pr.cannotTestify
      witnesses := preflightWitnesses pr
      observedAtMin := (supportStamps pr).min?
      observedAtMax := (supportStamps pr).max?
      generatedAt := pr.generatedAt
      evaluator := none
      freshnessHorizon := pr.freshnessHorizon
      signals := pr.signals.map fun v => ⟨v.toJcs⟩
      contentHash := none }

end

/-! ## Windows -/

section

variable {codec : Codec} {stamps : List String} {r : Receipt}

/-- A text reads as an instant that relates to every instant of the stamps. -/
def Bounds (codec : Codec) (rel : Int → Int → Prop) (stamps : List String) (s : String) : Prop :=
  ∃ i, codec.rfc3339 s = .ok i ∧ ∀ s' ∈ stamps, ∀ j, codec.rfc3339 s' = .ok j → rel i j

/-- The window holds every instant of the stamps. -/
structure Chronological (codec : Codec) (stamps : List String) (r : Receipt) : Prop where
  oldest : ∃ s, r.observedAtMin = some s ∧ Bounds codec (· ≤ ·) stamps s
  newest : ∃ s, r.observedAtMax = some s ∧ Bounds codec (· ≥ ·) stamps s

/-- One stamp is least as a text and earliest as an instant, and one greatest and latest. -/
structure SortsAsTime (codec : Codec) (stamps : List String) : Prop where
  oldest : ∃ s ∈ stamps, (∀ s' ∈ stamps, s ≤ s') ∧ Bounds codec (· ≤ ·) stamps s
  newest : ∃ s ∈ stamps, (∀ s' ∈ stamps, s' ≤ s) ∧ Bounds codec (· ≥ ·) stamps s

variable {a : String}

theorem min?_eq_some : stamps.min? = some a ↔ a ∈ stamps ∧ ∀ b ∈ stamps, a ≤ b := min?_eq_some_iff

theorem max?_eq_some : stamps.max? = some a ↔ a ∈ stamps ∧ ∀ b ∈ stamps, b ≤ a := max?_eq_some_iff

/-- A window taken of the texts. -/
theorem chronological_of_texts (hmin : r.observedAtMin = stamps.min?) (hmax : r.observedAtMax = stamps.max?) :
    Chronological codec stamps r ↔ SortsAsTime codec stamps := by
  constructor
  · intro h
    obtain ⟨s, hs, hbounds⟩ := h.oldest
    obtain ⟨t, ht, hbounds'⟩ := h.newest
    rw [hmin, min?_eq_some] at hs
    rw [hmax, max?_eq_some] at ht
    exact ⟨⟨s, hs.1, hs.2, hbounds⟩, ⟨t, ht.1, ht.2, hbounds'⟩⟩
  · intro h
    obtain ⟨s, hs, hleast, hbounds⟩ := h.oldest
    obtain ⟨t, ht, hgreatest, hbounds'⟩ := h.newest
    exact ⟨⟨s, hmin.trans (min?_eq_some.mpr ⟨hs, hleast⟩), hbounds⟩,
      ⟨t, hmax.trans (max?_eq_some.mpr ⟨ht, hgreatest⟩), hbounds'⟩⟩

/-- Spelled with one offset and one number of decimals, stamps sort as time. -/
theorem sortsAsTime_of_alike {spellings : List Spelling} (hne : spellings ≠ [])
    (hreads : ∀ t ∈ spellings, codec.rfc3339 t.text = .ok t.instant)
    (halike : ∀ t ∈ spellings, ∀ u ∈ spellings, t.offset = u.offset ∧ t.places = u.places) :
    SortsAsTime codec (spellings.map Spelling.text) := by
  have hne' : spellings.map Spelling.text ≠ [] := fun h => hne (map_eq_nil_iff.mp h)
  have hsome : ∀ o : Option String, (o = none ↔ spellings.map Spelling.text = []) → ∃ s, o = some s := by
    intro o ho
    cases o with
    | none => exact absurd (ho.mp rfl) hne'
    | some s => exact ⟨s, rfl⟩
  obtain ⟨least, hleast⟩ := hsome _ min?_eq_none_iff
  obtain ⟨greatest, hgreatest⟩ := hsome _ max?_eq_none_iff
  obtain ⟨hmem, hle⟩ := min?_eq_some.mp hleast
  obtain ⟨hmem', hge⟩ := max?_eq_some.mp hgreatest
  obtain ⟨t, ht, rfl⟩ := List.mem_map.mp hmem
  obtain ⟨u, hu, rfl⟩ := List.mem_map.mp hmem'
  refine ⟨⟨t.text, hmem, hle, t.instant, hreads t ht, ?_⟩, ⟨u.text, hmem', hge, u.instant, hreads u hu, ?_⟩⟩
  · intro s hs j hj
    obtain ⟨v, hv, rfl⟩ := List.mem_map.mp hs
    cases (hreads v hv).symm.trans hj
    exact Spelling.instant_le_of_text_le (halike t ht v hv).1 (halike t ht v hv).2 (hle _ hs)
  · intro s hs j hj
    obtain ⟨v, hv, rfl⟩ := List.mem_map.mp hs
    cases (hreads v hv).symm.trans hj
    exact Spelling.instant_le_of_text_le (halike v hv u hu).1 (halike v hv u hu).2 (hge _ hs)

variable (codec) in
theorem sealedAs_window (binding : EvaluatorBinding) (r : Receipt) :
    (sealedAs codec binding r).observedAtMin = r.observedAtMin ∧
      (sealedAs codec binding r).observedAtMax = r.observedAtMax := by
  unfold sealedAs Receipt.seal
  dsimp only
  cases h : Receipt.computeContentHash codec.hashing { r with evaluator := some binding } with
  | error e => simp [bind, Except.bind]
  | ok hash => simp [bind, Except.bind, pure, Except.pure]

variable (codec) in
theorem witnessed_window (packets : List WitnessPacket) (r : Receipt) :
    (witnessed codec packets r).observedAtMin = (packets.map (·.observedAt)).min? ∧
    (witnessed codec packets r).observedAtMax = (packets.map (·.observedAt)).max? :=
  sealedAs_window codec ⟨"claim_registry", evaluatorVersion⟩ _

end

/-- Every applicable packet being valid, the window of an evaluation is chronological exactly
where the packets' texts sort as time at both ends; and so is that of a converted preflight
result. Stamps spelled alike do. -/
theorem chronological_iff (codec : Codec) :
    (∀ (registry : ClaimRegistry) (claim subject generatedAt : String) (packets : List WitnessPacket) (fuel : Nat)
      (r : Receipt), (∀ p ∈ packets, p.validate codec = .ok ()) → (∃ p ∈ packets, p.subject = subject) →
      evaluate codec registry claim subject packets generatedAt fuel = some r →
      (Chronological codec ((applicable subject packets).map (·.observedAt)) r ↔
        SortsAsTime codec ((applicable subject packets).map (·.observedAt)))) ∧
    (∀ pr : AnsweredPreflight,
      Chronological codec (supportStamps pr) (ofPreflightResult codec pr) ↔ SortsAsTime codec (supportStamps pr)) ∧
    ∀ spellings : List Spelling, spellings ≠ [] → (∀ t ∈ spellings, codec.rfc3339 t.text = .ok t.instant) →
      (∀ t ∈ spellings, ∀ u ∈ spellings, t.offset = u.offset ∧ t.places = u.places) →
      SortsAsTime codec (spellings.map Spelling.text) := by
  refine ⟨?_, ?_, fun spellings hne hreads halike => sortsAsTime_of_alike hne hreads halike⟩
  · intro registry claim subject generatedAt packets fuel r hvalid _ hr
    rw [evaluate_valid hvalid] at hr
    obtain ⟨resolved, _, rfl⟩ := Option.map_eq_some_iff.mp hr
    obtain ⟨hmin, hmax⟩ := witnessed_window codec (applicable subject packets) resolved
    exact chronological_of_texts hmin hmax
  · intro pr
    obtain ⟨hmin, hmax⟩ := sealedAs_window codec ⟨asStr pr.claimKind, pr.contractVersion⟩ _
    exact chronological_of_texts hmin hmax

/-! ## An afternoon in two offsets -/

/-- A codec that reads the spellings it knows. -/
def knowing (known : List Spelling) : Codec :=
  { sampleCodec with
    rfc3339 := fun s =>
      match known.find? (·.text = s) with
      | some t => .ok t.instant
      | none => .error "the 'year' component could not be parsed" }

/-- An hour of the fifteenth of May. -/
def hourOfMay (hour : Fin 24) (offset : Text.Offset) : Spelling :=
  .ofFields 2026 5 15 hour 0 0 0 0 offset ⟨by decide, by decide, by decide, hour.isLt, by decide, by decide, by decide⟩

def stampedPacket (t : Spelling) : WitnessPacket := { pytestPacket 0 with observedAt := t.text, generatedAt := t.text }

/-- One o'clock in UTC, and two o'clock two hours east of it. -/
def oneOClock : Spelling := hourOfMay 13 .z
def twoOClockEast : Spelling := hourOfMay 14 (.numeric false 2 0)

theorem an_earlier_packet_is_outside_the_window : ∃ r,
    (∀ p ∈ [stampedPacket oneOClock, stampedPacket twoOClockEast], p.validate (knowing [oneOClock, twoOClockEast]) =
      .ok ()) ∧ evaluate (knowing [oneOClock, twoOClockEast]) .trackBStarter "tests_passed" "repo:."
      [stampedPacket oneOClock, stampedPacket twoOClockEast] "" 7 = some r ∧
    ¬Chronological (knowing [oneOClock, twoOClockEast]) [oneOClock.text, twoOClockEast.text] r := by
  have hvalid : ∀ p ∈ [stampedPacket oneOClock, stampedPacket twoOClockEast],
      p.validate (knowing [oneOClock, twoOClockEast]) = .ok () := by
    intro p hp
    simp only [mem_cons, not_mem_nil, or_false] at hp
    rcases hp with rfl | rfl <;> decide +kernel
  obtain ⟨r, hr, _⟩ := evaluate_verifies (knowing [oneOClock, twoOClockEast]) starter_acyclic "repo:." hvalid ""
    (show ClaimRegistry.trackBStarter.entries.length ≤ 7 by decide) "tests_passed"
  refine ⟨r, hvalid, hr, fun h => ?_⟩
  rw [evaluate_valid hvalid] at hr
  obtain ⟨resolved, _, rfl⟩ := Option.map_eq_some_iff.mp hr
  obtain ⟨s, hs, i, hi, hbound⟩ := h.oldest
  rw [(witnessed_window _ _ resolved).1] at hs
  have hmin : ((applicable "repo:." [stampedPacket oneOClock, stampedPacket twoOClockEast]).map (·.observedAt)).min? =
      some oneOClock.text := by decide +kernel
  have hleast : oneOClock.text = s := Option.some.inj (hmin.symm.trans hs)
  have hone : (knowing [oneOClock, twoOClockEast]).rfc3339 oneOClock.text = .ok oneOClock.instant := by decide +kernel
  have htwo : (knowing [oneOClock, twoOClockEast]).rfc3339 twoOClockEast.text = .ok twoOClockEast.instant :=
    by decide +kernel
  rw [← hleast, hone] at hi
  rw [← Except.ok.inj hi] at hbound
  exact absurd (hbound _ (by simp) _ htwo) (by decide +kernel)

/-- In one offset, two packets are inside the window. -/
theorem packets_of_one_offset_are_inside_the_window : ∃ r,
    evaluate (knowing [oneOClock, hourOfMay 14 .z]) .trackBStarter "tests_passed" "repo:."
      [stampedPacket oneOClock, stampedPacket (hourOfMay 14 .z)] "" 7 = some r ∧
    Chronological (knowing [oneOClock, hourOfMay 14 .z]) [oneOClock.text, (hourOfMay 14 .z).text] r := by
  have hvalid : ∀ p ∈ [stampedPacket oneOClock, stampedPacket (hourOfMay 14 .z)],
      p.validate (knowing [oneOClock, hourOfMay 14 .z]) = .ok () := by
    intro p hp
    simp only [mem_cons, not_mem_nil, or_false] at hp
    rcases hp with rfl | rfl <;> decide +kernel
  obtain ⟨r, hr, _⟩ := evaluate_verifies (knowing [oneOClock, hourOfMay 14 .z]) starter_acyclic "repo:." hvalid ""
    (show ClaimRegistry.trackBStarter.entries.length ≤ 7 by decide) "tests_passed"
  obtain ⟨hevaluate, _, halike⟩ := chronological_iff (knowing [oneOClock, hourOfMay 14 .z])
  refine ⟨r, hr, (hevaluate _ _ _ _ _ _ r hvalid ⟨_, mem_cons_self, rfl⟩ hr).mpr ?_⟩
  refine halike [oneOClock, hourOfMay 14 .z] (by simp) (fun t ht => ?_) (fun t ht u hu => ?_)
  · simp only [mem_cons, not_mem_nil, or_false] at ht
    rcases ht with rfl | rfl <;> decide +kernel
  · simp only [mem_cons, not_mem_nil, or_false] at ht hu
    rcases ht with rfl | rfl <;> rcases hu with rfl | rfl <;> exact ⟨rfl, rfl⟩

end Nq.Receipts
