/-
  Nq.Inquiry.Rendered — report receipts as canonical JSON, and the profile of the repository's
  report fixture (`nq-core/tests/fixtures/resolver_pending_aged_tail.profile_catalog.v0.json`).

  `reportEnv` renders receipts with a snapshot and evidence, unless they hold a number that is no
  integer; its RFC3339 is right on the instants it lists.
-/

import Nq.Inquiry.Canonical
import Nq.Inquiry.Request

namespace Nq.Inquiry

open List
open Text (object array quoted)

/-! ## Serde forms -/

def GenerationStatus.asStr : GenerationStatus → String
  | .complete => "complete"
  | .partial_ => "partial"
  | .failed => "failed"

/-- A snapshot without coverage. -/
def SourceSnapshot.toJcs (s : SourceSnapshot) : String :=
  object [("generation_id", some (toString s.generationId)), ("started_at", some (quoted s.startedAt)),
    ("completed_at", some (quoted s.completedAt)), ("status", some (quoted s.status.asStr)),
    ("sources_expected", some (toString s.sourcesExpected)), ("sources_ok", some (toString s.sourcesOk)),
    ("sources_failed", some (toString s.sourcesFailed)), ("duration_ms", some (toString s.durationMs)),
    ("summary_hash", orNull quoted s.summaryHash), ("findings_observed", some (toString s.findingsObserved)),
    ("detectors_run", some (toString s.detectorsRun)), ("findings_suppressed", some (toString s.findingsSuppressed)),
    ("coverage_json", some "null")]

/-- An observation without a value. -/
def EvidenceReceipt.toJcs (e : EvidenceReceipt) : String :=
  object [("observation_id", some (toString e.observationId)), ("generation_id", some (toString e.generationId)),
    ("finding_key", some (quoted e.findingKey)), ("scope", some (quoted e.scope)),
      ("detector_id", some (quoted e.detectorId)),
    ("host", some (quoted e.host)), ("subject", some (quoted e.subject)), ("domain", some (quoted e.domain)),
    ("severity", orNull quoted e.severity), ("value", some "null"), ("message", orNull quoted e.message),
    ("finding_class", some (quoted e.findingClass)), ("rule_hash", orNull quoted e.ruleHash),
    ("observed_at", some (quoted e.observedAt)), ("basis_source_id", orNull quoted e.basisSourceId),
    ("basis_witness_id", orNull quoted e.basisWitnessId)]

/-- The receipt of a report. -/
def Receipt.reportToJcs (r : Receipt) : String :=
  object [("schema", some (quoted r.schema)), ("version", some r.version.toJcs), ("status", some r.status.toJcs),
    ("disposition", some r.disposition.toJcs), ("request", some r.request.toJcs),
    ("source_snapshot", orNull SourceSnapshot.toJcs r.sourceSnapshot),
      ("finding_state", orNull FindingState.toJcs r.findingState),
    ("evidence_receipts", some (array (r.evidenceReceipts.map EvidenceReceipt.toJcs))),
    ("evidence_coverage", some r.evidenceCoverage.toJcs), ("coverage", some (array (r.coverage.map quoted))),
    ("cannot_testify", some (array (r.cannotTestify.map Refusal.toJcs))),
    ("acquisition_spend", some (toString r.acquisitionSpend)), ("receipt_digest", r.receiptDigest.map quoted)]

/-- A report without a number that is no integer. -/
def Receipt.integral (r : Receipt) : Bool :=
  r.sourceSnapshot.all (·.coverageJson.isNone) && r.evidenceReceipts.all (·.value.isNone) && r.witnessPlan.isNone &&
    r.tlsObservations.isEmpty && r.acquisition.isNone && r.grantDigest.isNone

def reportVec (a : Artifact) : Except String (List UInt8) :=
  match a with
  | .receipt r =>
    if (Artifact.receipt r).plain then canonicalVec (.receipt r)
    -- other numbers are not rendered here
    else if r.integral then .ok (Text.bytes r.reportToJcs) else .ok []
  | a => canonicalVec a

/-! ## Clocks -/

/-- Instants around noon, and how RFC3339 writes them. -/
def reportInstants : List (Int × String) :=
  [(1783770899500000000, "2026-07-11T11:54:59.5Z"), (1783771140000000000, "2026-07-11T11:59:00Z"),
    (1783771140250000000, "2026-07-11T11:59:00.25Z"), (1783771141000000000, "2026-07-11T11:59:01Z")]

/-- `readInstant` within the years of the parser, and the instants around noon. -/
def readReportInstant (s : String) : Except String Int :=
  match reportInstants.find? (·.2 = s) with
  | some x => .ok x.1
  | none => (readInstant s).bind fun t =>
    if -400000000000000000000 ≤ t ∧ t ≤ 400000000000000000000 then .ok t else .error "not an instant"

theorem head?_unlisted (ns : Int) : (unlisted ns).toList.head? = some (if 0 ≤ ns then '+' else '-') := by
  unfold unlisted
  rw [String.toList_ofList]
  rfl

/-- What is written is none of the instants around noon. -/
theorem reportInstants_fresh (t : DateTime) : reportInstants.find? (·.2 = writeInstant t) = none := by
  rw [find?_eq_none]
  intro x hx
  simp only [decide_eq_true_eq]
  intro e
  unfold writeInstant at e
  cases h : instants.find? (·.1 = t.ns) with
  | none =>
    rw [h] at e
    have hhead := congrArg (fun s => s.toList.head?) e
    have hlisted : ∀ x ∈ reportInstants, x.2.toList.head? = some '2' := by decide
    dsimp only [Option.map_none, Option.getD_none] at hhead
    rw [hlisted x hx, head?_unlisted] at hhead
    split at hhead <;> cases hhead
  | some y =>
    rw [h] at e
    have hapart : ∀ x ∈ reportInstants, ∀ y ∈ instants, x.2 ≠ y.2 := by decide +kernel
    exact hapart x hx y (mem_of_find?_eq_some h) e

theorem readReportInstant_writeInstant (t : DateTime) : readReportInstant (writeInstant t) = .ok t.ns := by
  unfold readReportInstant
  rw [reportInstants_fresh, readInstant_writeInstant]
  have hprintable := t.printable
  exact if_pos ⟨by omega, by omega⟩

variable {t : Int} {asOf : String}

theorem readReportInstant_range {value : String} (h : readReportInstant value = .ok t) :
    -400000000000000000000 ≤ t ∧ t ≤ 400000000000000000000 := by
  unfold readReportInstant at h
  split at h
  · rename_i x hx
    cases h
    have hall : ∀ x ∈ reportInstants, -400000000000000000000 ≤ x.1 ∧ x.1 ≤ 400000000000000000000 := by decide
    exact hall x (mem_of_find?_eq_some hx)
  · cases hread : readInstant value with
    | error e => rw [hread] at h; cases h
    | ok t' =>
      rw [hread] at h
      dsimp only [Except.bind] at h
      split at h
      · rename_i hrange
        cases h
        exact hrange
      · cases h

theorem reportVec_plain (a : Artifact) (h : a.plain = true) : reportVec a = .ok (Text.bytes a.toJcs) := by
  unfold reportVec
  split
  · rw [if_pos h]
    exact if_pos h
  · exact if_pos h

def reportEnv : Env where
  escapeWide := fun c => [c]
  rfc3339 := readReportInstant
  formatRfc3339 := writeInstant
  toVec := reportVec
  sha256 := Text.sha256
  rfc3339_format := readReportInstant_writeInstant
  toVec_plain := fun a h => ⟨_, reportVec_plain a h⟩

/-! ## The report fixture -/

def resolverTail : FindingSelector := ⟨"resolver", "pending_aged_tail", ""⟩

def resolverPendingAgedTail : Profile where
  schema := profileSchema
  version := .v0
  profileId := "resolver_pending_aged_tail"
  aliases := ["resolver-pending-aged-tail", "resolver-tail-active"]
  questionKind := .findingOperationalActivity
  question := "is the resolver pending-aged tail still operationally active, and what can current evidence not testify about?"
  selector := some resolverTail
  maxSnapshotAgeSeconds := some 300
  evidenceLimit := some 32
  tlsCert := none
  coverage := [
    "Exact-match NQ finding lifecycle state for (resolver, pending_aged_tail, empty subject) at the carried source generation.",
    "Existing admitted finding-observation receipts for that exact identity, bounded to the newest 32 rows."]
  cannotTestify := [
    ⟨.consequenceAuthority,
      "This inquiry does not authorize restart, failover, paging, closure, or any other operational consequence."⟩,
    ⟨.futureState, "The carried snapshot cannot testify that the finding remains active after the frozen as_of time."⟩,
    ⟨.rootCause, "Finding lifecycle and observation receipts do not establish the root cause of the pending-aged tail."⟩]

theorem resolverPendingAgedTail_valid : resolverPendingAgedTail.Valid where
  schema := rfl
  profileId := by decide +kernel
  question := by decide +kernel
  kind := ⟨⟨_, rfl, by decide +kernel, by decide +kernel⟩, ⟨_, rfl, by decide⟩, ⟨_, rfl, by decide, by decide⟩, rfl⟩
  covered := cons_ne_nil _ _
  refuses := cons_ne_nil _ _
  aliases := by decide +kernel
  coverage := by decide +kernel
  cannotTestify := by decide +kernel

def resolverPlan (asOf : String) : CandidatePlan := ⟨planSchema, .v0, "resolver-tail-active", asOf, []⟩

theorem resolverPlan_valid (h : readReportInstant asOf = .ok t) : (resolverPlan asOf).Valid reportEnv where
  schema := rfl
  profile := (by decide +kernel : Nonblank "resolver-tail-active")
  asOf := ⟨t, h⟩
  targets := ⟨fun _ h => (nomatch h), nodup_nil⟩

theorem resolverPlan_admitted (h : readReportInstant asOf = .ok t) :
    ∃ resolved request, admitPlan reportEnv (resolverPlan asOf) resolved = .ok request ∧
      resolved.profile = resolverPendingAgedTail.sorted := by
  obtain ⟨resolved, hr⟩ := Profile.exists_resolved reportEnv resolverPendingAgedTail_valid
  obtain ⟨_, d, hd, e⟩ := Profile.resolved_ok.mp hr
  have hprofile : resolved.profile = resolverPendingAgedTail.sorted := by rw [e]
  have hvalid : resolverPendingAgedTail.sorted.Valid :=
    resolverPendingAgedTail.rearranged_sorted.valid resolverPendingAgedTail_valid
  obtain ⟨request, hadmitted, _, _⟩ := exists_admitted resolved (resolverPlan_valid h) (hprofile ▸ hvalid)
    (by rw [hprofile]; exact (by decide +kernel : resolverPendingAgedTail.sorted.named "resolver-tail-active" = true))
    (by rw [e]; exact hd)
    ((admitTargets_report (by rw [hprofile]; rfl)).mpr ⟨rfl, rfl⟩)
  exact ⟨resolved, request, admitPlan_ok.mpr hadmitted, hprofile⟩

end Nq.Inquiry
