/-
  Nq.Inquiry.Report — executing a report inquiry (`nq-db/src/inquiry.rs`).

  A report reads one snapshot of the store: the newest generation, the row of one finding and the
  tail of its observations. A cascade of checks then refuses the lift, each with its own refusal;
  the checks come to one conjunction (`classifyDisposition_ok`), and the tail is the newest of the
  observations in order (`loadEvidenceTail_spec`).

  - `lifted`: what a receipt that reports activity rests on, and that every other receipt is
    refused. Ages are held against their bound in whole seconds;
  - `a_snapshot_half_a_second_past_its_bound_is_lifted`: a bound of five minutes.
-/

import Nq.Inquiry.Execute
import Nq.Inquiry.Rendered
import Nq.Sql.Table

namespace Nq.Inquiry

open Collections
open List hiding not_lt
open Sql (Table)

/-! ## The store -/

/-- A row of `generations`. -/
structure GenerationEntry where
  generationId : Int
  startedAt : String
  completedAt : String
  status : String
  sourcesExpected : Int
  sourcesOk : Int
  sourcesFailed : Int
  durationMs : Int
  summaryHash : Option String
  findingsObserved : Int
  detectorsRun : Int
  findingsSuppressed : Int
  coverageJson : Option String

/-- A row of `warning_state`, as far as a report reads it. -/
structure WarningEntry where
  host : String
  kind : String
  subject : String
  domain : String
  severity : String
  message : String
  firstSeenGen : Int
  firstSeenAt : String
  lastSeenGen : Int
  lastSeenAt : String
  consecutiveGens : Int
  absentGens : Int
  visibilityState : String
  suppressionKind : Option String
  suppressionReason : Option String
  suppressionDeclarationId : Option String
  basisState : String
  basisSourceId : Option String
  basisWitnessId : Option String
  lastBasisGeneration : Option Int
  basisStateAt : Option String
  originSource : String
  originProducerId : Option String
  originExtractionRunId : Option String
  originProducerExtractionTime : Option String
  originImportContractVersion : Option Int
  originMode : String

def WarningEntry.selector (r : WarningEntry) : FindingSelector := ⟨r.host, r.kind, r.subject⟩

/-- `finding_observations` has the columns of the receipts read from it. -/
structure Store where
  generations : Table GenerationEntry.generationId
  warningState : Table WarningEntry.selector
  findingObservations : Table EvidenceReceipt.observationId

structure Connection where
  readOnly : Bool
  store : Store

/-- `v_admissibility.admissibility`; a WHEN that is NULL is not taken. -/
def WarningEntry.admissibility (r : WarningEntry) : String :=
  if r.visibilityState = "suppressed" ∧ r.suppressionKind = some "operator_declaration" then "suppressed_by_declaration"
  else if r.visibilityState = "suppressed" then "suppressed_by_ancestor"
  else "observable"

def WarningEntry.state (r : WarningEntry) : FindingState :=
  { r with
    admissibility := r.admissibility
    ancestorReason := r.suppressionReason }

/-! ## Reading the snapshot -/

section

variable (env : Env) (fromStr : String → Except String Json)

def parseGenerationStatus (value : String) : Except String GenerationStatus :=
  if value = "complete" then .ok .complete
  else if value = "partial" then .ok .partial_
  else if value = "failed" then .ok .failed
  else .error ("unsupported generations.status " ++ debug env value)

def parseCoverage : Option String → Except String (Option Json)
  | none => .ok none
  | some raw => (context "parsing generations.coverage_json as JSON" (fromStr raw)).map some

def GenerationEntry.snapshot (g : GenerationEntry) : Except String SourceSnapshot := do
  let status ← parseGenerationStatus env g.status
  let coverageJson ← parseCoverage fromStr g.coverageJson
  pure { g with status, coverageJson }

/-- ORDER BY generation_id DESC LIMIT 1. -/
def Store.latestGeneration (store : Store) : Option GenerationEntry :=
  (store.generations.rows.insertionSort fun a b => b.generationId ≤ a.generationId).head?

def loadLatestSnapshot (store : Store) : Except String (Option SourceSnapshot) :=
  match store.latestGeneration with
  | none => .ok none
  | some g => (g.snapshot env fromStr).map some

def loadFindingState (store : Store) (selector : FindingSelector) : Option FindingState :=
  (store.warningState.get selector).map WarningEntry.state

def EvidenceReceipt.Matches (selector : FindingSelector) (generation : Int) (e : EvidenceReceipt) : Prop :=
  e.scope = "local" ∧ e.host = selector.host ∧ e.detectorId = selector.kind ∧ e.subject = selector.subject ∧
    e.generationId ≤ generation

instance (selector : FindingSelector) (generation : Int) :
    DecidablePred (EvidenceReceipt.Matches selector generation) :=
  fun e => inferInstanceAs (Decidable (e.scope = "local" ∧ e.host = selector.host ∧ e.detectorId = selector.kind ∧
    e.subject = selector.subject ∧ e.generationId ≤ generation))

/-- The finding's observations up to a generation. -/
def Store.observations (store : Store) (selector : FindingSelector) (generation : Int) : List EvidenceReceipt :=
  store.findingObservations.rows.filter fun e => decide (e.Matches selector generation)

/-- ORDER BY generation_id DESC, observation_id DESC: `a` is not behind `b`. -/
def EvidenceReceipt.NotBehind (a b : EvidenceReceipt) : Prop :=
  b.generationId < a.generationId ∨ (b.generationId = a.generationId ∧ b.observationId ≤ a.observationId)

instance : DecidableRel EvidenceReceipt.NotBehind := fun a b =>
  inferInstanceAs (Decidable (b.generationId < a.generationId ∨
    (b.generationId = a.generationId ∧ b.observationId ≤ a.observationId)))

/-- The tail asks for one row more than it carries. -/
def loadEvidenceTail (store : Store) (selector : FindingSelector) (snapshotGeneration : Int) (limit : Nat) :
    List EvidenceReceipt × Bool :=
  let receipts := ((store.observations selector snapshotGeneration).insertionSort
    EvidenceReceipt.NotBehind).take (limit + 1)
  let truncated := decide (limit < receipts.length)
  (if truncated then receipts.take limit else receipts, truncated)

/-! ## The cascade -/

/-- Why a classification ends early. -/
inductive Halt where
  | error (text : String)
  | refuse (refusal : Refusal)

def refuseIf (bad : Bool) (kind : RefusalKind) (statement : String) : Except Halt Unit :=
  if bad then .error (.refuse ⟨kind, statement⟩) else .ok ()

def presentOr {α : Type} (o : Option α) (kind : RefusalKind) (statement : String) : Except Halt α :=
  match o with
  | some a => .ok a
  | none => .error (.refuse ⟨kind, statement⟩)

def parseTime (field value : String) : Except String Int :=
  context ("parsing " ++ field ++ "=" ++ debug env value ++ " as RFC3339") (env.rfc3339 value)

/-- `parse_time` within the cascade: its error ends the inquiry. -/
def timeOf (field value : String) : Except Halt Int := (parseTime env field value).mapError Halt.error

/-- `whole_seconds() as u64`. -/
def ageSeconds (asOf time : Int) : Nat := (((asOf - time).tdiv 1000000000) % 2 ^ 64).toNat

/-- `{:?}` of an `Option<i64>`. -/
def debugOption : Option Int → String
  | none => "None"
  | some i => "Some(" ++ toString i ++ ")"

def SourceSnapshot.inconsistent (s : SourceSnapshot) : Bool :=
  s.sourcesExpected < 0 || s.sourcesOk < 0 || s.sourcesFailed < 0 || s.sourcesFailed ≠ 0 ||
    s.sourcesOk ≠ s.sourcesExpected || s.findingsObserved < 0 || s.detectorsRun < 0 || s.findingsSuppressed < 0

def classifySnapshot (snapshot : SourceSnapshot) (asOf : Int) (maxSnapshotAgeSeconds : Nat) : Except Halt Unit := do
  refuseIf snapshot.summaryHash.isNone .snapshotUnsealed
    "The latest NQ generation has no summary_hash and may be between publish, lifecycle, and seal transactions."
  refuseIf (snapshot.status ≠ .complete) .snapshotIncomplete
    "The latest NQ generation is not complete; partial or failed generation state cannot support this current-activity lift."
  refuseIf snapshot.inconsistent .snapshotIncomplete
    ("The latest NQ generation has inconsistent coverage counters (sources expected/ok/failed=" ++
      toString snapshot.sourcesExpected ++ "/" ++ toString snapshot.sourcesOk ++ "/" ++
        toString snapshot.sourcesFailed ++
      ", findings observed/detectors/suppressed=" ++ toString snapshot.findingsObserved ++ "/" ++
      toString snapshot.detectorsRun ++ "/" ++ toString snapshot.findingsSuppressed ++ ").")
  let completedAt ← timeOf env "generations.completed_at" snapshot.completedAt
  refuseIf (completedAt > asOf) .snapshotAfterAsOf
    "The source generation completed after the request's frozen as_of time; current tables cannot reconstruct the earlier state."
  refuseIf (ageSeconds asOf completedAt > maxSnapshotAgeSeconds) .snapshotTooOld
    ("The source generation is " ++ toString (ageSeconds asOf completedAt) ++
      "s old at as_of, beyond the profile horizon of " ++ toString maxSnapshotAgeSeconds ++ "s.")

/-- The envelope of an imported finding. -/
def classifyImport (finding : FindingState) (asOf : Int) (maxSnapshotAgeSeconds : Nat) : Except Halt Unit :=
  match finding.originProducerId, finding.originExtractionRunId, finding.originProducerExtractionTime,
      finding.originImportContractVersion with
  | some producerId, some extractionRunId, some extractionTime, some _ => do
    refuseIf (producerId.isEmpty || extractionRunId.isEmpty) .evidenceNotCurrent
      "The imported finding carries an empty producer or extraction-run identity."
    let extractionTime ← timeOf env "warning_state.origin_producer_extraction_time" extractionTime
    refuseIf (extractionTime > asOf) .snapshotAfterAsOf
      "The imported producer extraction time is after the request's frozen as_of time."
    refuseIf (ageSeconds asOf extractionTime > maxSnapshotAgeSeconds) .snapshotTooOld
      ("The imported producer evidence is " ++ toString (ageSeconds asOf extractionTime) ++
        "s old at as_of, beyond the profile horizon of " ++ toString maxSnapshotAgeSeconds ++ "s.")
  | _, _, _, _ => .error (.refuse ⟨.evidenceNotCurrent,
      "The imported finding lacks its complete two-clock producer provenance envelope."⟩)

def classifyOrigin (finding : FindingState) (asOf : Int) (maxSnapshotAgeSeconds : Nat) : Except Halt Unit :=
  if finding.originSource = "nq" then .ok ()
  else if finding.originSource = "import" then classifyImport env finding asOf maxSnapshotAgeSeconds
  else .error (.refuse ⟨.evidenceNotAuthenticallyObserved,
    "The exact finding carries unsupported origin_source=" ++ finding.originSource ++ "."⟩)

/-- The row's own checks; answers when it was last seen. -/
def classifyFinding (finding : FindingState) (generation asOf : Int)
    (maxSnapshotAgeSeconds : Nat) : Except Halt Int := do
  let lastSeenAt ← timeOf env "warning_state.last_seen_at" finding.lastSeenAt
  refuseIf (lastSeenAt > asOf) .snapshotAfterAsOf
    "The selected finding state contains evidence after the request's frozen as_of time."
  refuseIf (finding.visibilityState ≠ "observed" || finding.admissibility ≠ "observable") .evidenceSuppressed
    ("The exact finding is visibility=" ++ finding.visibilityState ++ " and admissibility=" ++ finding.admissibility ++
      "; held last-known state is not current operational testimony.")
  refuseIf (finding.originMode ≠ "observed") .evidenceNotAuthenticallyObserved
    ("The exact finding carries origin_mode=" ++ finding.originMode ++
      "; drill, replay, and synthetic findings cannot establish authentic operational activity.")
  classifyOrigin env finding asOf maxSnapshotAgeSeconds
  refuseIf (finding.basisState ≠ "live" || finding.basisSourceId.isNone ||
    finding.lastBasisGeneration ≠ some generation)
    .evidenceNotCurrent
    ("The exact finding carries basis_state=" ++ finding.basisState ++ " and last_basis_generation=" ++
      debugOption finding.lastBasisGeneration ++ "; current standing at generation " ++ toString generation ++
      " is not established.")
  let basisStateAt ← presentOr finding.basisStateAt .evidenceNotCurrent
    "The selected finding claims a live basis without a basis_state_at timestamp."
  let basisStateAt ← timeOf env "warning_state.basis_state_at" basisStateAt
  refuseIf (basisStateAt > asOf) .snapshotAfterAsOf
    "The selected finding basis-state timestamp is after the request's frozen as_of time."
  refuseIf (finding.lastSeenGen ≠ generation || finding.absentGens ≠ 0 ||
    finding.consecutiveGens < 1) .evidenceNotCurrent
    ("The lifecycle row is not a current firing at generation " ++ toString generation ++ " (last_seen_gen=" ++
      toString finding.lastSeenGen ++ ", absent_gens=" ++ toString finding.absentGens ++ ", consecutive_gens=" ++
      toString finding.consecutiveGens ++ "). Absence alone is not negative coverage.")
  pure lastSeenAt

/-- The observations behind the newest one. -/
def classifyCarried (asOf : Int) : List EvidenceReceipt → Except Halt Unit
  | [] => .ok ()
  | receipt :: rest => do
    let observedAt ← timeOf env "finding_observations.observed_at" receipt.observedAt
    refuseIf (observedAt > asOf) .snapshotAfterAsOf
      ("Carried finding receipt " ++ toString receipt.observationId ++
        " has observed_at after the request's frozen as_of time.")
    classifyCarried asOf rest

def classifyEvidence (finding : FindingState) (evidence : List EvidenceReceipt) (generation lastSeenAt asOf : Int) :
    Except Halt Unit := do
  let latestEvidence ← presentOr evidence.head? .evidenceAbsent
    "The lifecycle row has no matching admitted finding-observation receipt."
  let observedAt ← timeOf env "finding_observations.observed_at" latestEvidence.observedAt
  refuseIf (latestEvidence.generationId ≠ generation) .evidenceNotCurrent
    ("The newest admitted finding receipt is generation " ++ toString latestEvidence.generationId ++
      " while the source snapshot is generation " ++ toString generation ++ ".")
  refuseIf (observedAt > asOf) .snapshotAfterAsOf
    ("The newest admitted finding receipt " ++ toString latestEvidence.observationId ++
      " was observed after the request's frozen as_of time.")
  refuseIf (latestEvidence.basisSourceId ≠ finding.basisSourceId || latestEvidence.basisWitnessId ≠
    finding.basisWitnessId || observedAt ≠ lastSeenAt) .evidenceNotCurrent
    "The newest finding receipt does not agree with the lifecycle row's basis identity or last-seen time."
  classifyCarried env asOf evidence.tail

/-- The lift is refused, fails, or holds. -/
def classify (snapshot : Option SourceSnapshot) (finding : Option FindingState)
    (evidence : List EvidenceReceipt) (asOf : Int)
    (maxSnapshotAgeSeconds : Nat) : Except Halt Unit := do
  let snapshot ← presentOr snapshot .snapshotUnavailable
    "No NQ generation exists in the source database; no receipt snapshot can be identified."
  classifySnapshot env snapshot asOf maxSnapshotAgeSeconds
  let finding ← presentOr finding .evidenceAbsent
    "No exact current finding row exists. NQ receipt absence does not prove operational inactivity or detector coverage."
  let lastSeenAt ← classifyFinding env finding snapshot.generationId asOf maxSnapshotAgeSeconds
  classifyEvidence env finding evidence snapshot.generationId lastSeenAt asOf

/-- The disposition, and the refusal it pushes onto `cannot_testify`. -/
def classifyDisposition (snapshot : Option SourceSnapshot) (finding : Option FindingState)
    (evidence : List EvidenceReceipt)
    (asOf : Int) (maxSnapshotAgeSeconds : Nat) : Except String (Disposition × List Refusal) :=
  match classify env snapshot finding evidence asOf maxSnapshotAgeSeconds with
  | .ok () => .ok (.operationallyActive, [])
  | .error (.refuse refusal) => .ok (.cannotTestify, [refusal])
  | .error (.error text) => .error text

/-! ## The executor -/

def validateReportExecutor (connection : Connection) (resolved : ResolvedProfile) : Except String Unit := do
  rejectIf (!connection.readOnly) "governed inquiry requires a read-only SQLite connection"
  rejectIf (resolved.profile.questionKind ≠ .findingOperationalActivity)
    "nq-db only executes the passive report inquiry"

/-- The tail behind a snapshot. -/
def snapshotTail (store : Store) (selector : FindingSelector)
    (limit : Nat) : Option SourceSnapshot → List EvidenceReceipt × Bool
  | some snapshot => loadEvidenceTail store selector snapshot.generationId limit
  | none => ([], false)

def evidenceCoverage (findingState : Option FindingState) (receipts : List EvidenceReceipt) (limit : Nat)
    (truncated : Bool) :
    EvidenceCoverage where
  matchedCurrentRows := if findingState.isSome then 1 else 0
  matchedReceiptRows := receipts.length
  receiptLimit := limit
  receiptTailTruncated := truncated
  newestReceiptGeneration := receipts.head?.map EvidenceReceipt.generationId
  oldestReceiptGeneration := receipts.getLast?.map EvidenceReceipt.generationId

def reportReceipt (resolved : ResolvedProfile) (request : AdmittedRequest) (snapshot : Option SourceSnapshot)
    (findingState : Option FindingState) (tail : List EvidenceReceipt × Bool) (limit : Nat)
    (lift : Disposition × List Refusal) : Receipt where
  schema := receiptSchema
  version := .v0
  status := if lift.1 = .cannotTestify then .refused else .answered
  disposition := lift.1
  request := request
  sourceSnapshot := snapshot
  findingState := findingState
  evidenceReceipts := tail.1
  evidenceCoverage := evidenceCoverage findingState tail.1 limit tail.2
  witnessPlan := none
  tlsObservations := []
  acquisition := none
  grantDigest := none
  authorizedAcquisitionEnvelope := none
  observedAcquisitionSpend := none
  coverage := resolved.profile.coverage
  cannotTestify := resolved.profile.cannotTestify ++ lift.2
  acquisitionSpend := 0
  receiptDigest := none

def executeReportInquiryInSnapshot (store : Store) (resolved : ResolvedProfile) (request : AdmittedRequest) (asOf : Int)
    (snapshot : Option SourceSnapshot) : Except String Receipt := do
  let selector ← okOr resolved.profile.selector "validated report profile is missing its selector"
  let evidenceLimit ← okOr resolved.profile.evidenceLimit "validated report profile is missing its evidence limit"
  let maxSnapshotAgeSeconds ← okOr resolved.profile.maxSnapshotAgeSeconds
    "validated report profile is missing its snapshot age bound"
  let findingState := loadFindingState store selector
  let tail := snapshotTail store selector evidenceLimit snapshot
  let lift ← classifyDisposition env snapshot findingState tail.1 asOf maxSnapshotAgeSeconds
  context "sealing governed inquiry receipt"
    ((reportReceipt resolved request snapshot findingState tail evidenceLimit lift).seal env)

def executeReportInquiry (connection : Connection) (resolved : ResolvedProfile) (plan : CandidatePlan) :
    Except String Receipt := do
  validateReportExecutor connection resolved
  let request ← context "admitting governed inquiry request" (admitPlan env plan resolved)
  let asOf ← parseTime env "plan.as_of" request.asOf
  let snapshot ← loadLatestSnapshot env fromStr connection.store
  executeReportInquiryInSnapshot env connection.store resolved request asOf snapshot

/-- Runs at the completion of the newest generation. -/
def executeLatestReportInquiry (connection : Connection) (resolved : ResolvedProfile)
    (resolvePlan : SourceSnapshot → Except String CandidatePlan) : Except String Receipt := do
  validateReportExecutor connection resolved
  let snapshot ← loadLatestSnapshot env fromStr connection.store
  let source ← okOr snapshot "cannot resolve latest inquiry: the source database has no generations"
  let plan ← context "resolving latest into a concrete inquiry plan" (resolvePlan source)
  rejectIf (plan.asOf ≠ source.completedAt) ("latest inquiry resolved as_of " ++ debug env plan.asOf ++
    ", expected newest generation completed_at " ++ debug env source.completedAt)
  let request ← context "admitting latest-resolved governed inquiry request" (admitPlan env plan resolved)
  let asOf ← parseTime env "plan.as_of" request.asOf
  executeReportInquiryInSnapshot env connection.store resolved request asOf snapshot

end

/-! ## What passes the cascade -/

section

variable {env : Env} {fromStr : String → Except String Json}
  {kind : RefusalKind} {field statement value : String} {u : Unit} {asOf generation lastSeen t : Int}
  {limit maxAge : Nat} {s : SourceSnapshot} {f : FindingState} {evidence : List EvidenceReceipt}
  {finding : Option FindingState} {snapshot : Option SourceSnapshot} {lift : Disposition × List Refusal}
  {g : GenerationEntry} {store : Store} {r receipt : Receipt} {plan : CandidatePlan} {request : AdmittedRequest}
  {resolved : ResolvedProfile} {connection : Connection} {bytes : List UInt8} {selector : FindingSelector}

@[simp] theorem refuseIf_ok {bad : Bool} : refuseIf bad kind statement = .ok u ↔ bad = false := by
  unfold refuseIf
  cases bad <;> simp

@[simp] theorem presentOr_ok {α : Type} {o : Option α} {a : α} : presentOr o kind statement = .ok a ↔ o = some a := by
  unfold presentOr
  cases o <;> simp

theorem parseTime_ok : parseTime env field value = .ok t ↔ env.rfc3339 value = .ok t := context_ok

@[simp] theorem timeOf_ok : timeOf env field value = .ok t ↔ env.rfc3339 value = .ok t := by
  unfold timeOf
  rw [Sql.mapError_ok, parseTime_ok]

/-- A time of the store, not after `asOf`. -/
def Env.By (env : Env) (asOf : Int) (value : String) : Prop := ∃ t, env.rfc3339 value = .ok t ∧ t ≤ asOf

/-- A time of the store, not after `asOf` and at most `maxAge` seconds before it, counted in whole seconds. -/
def Env.Within (env : Env) (asOf : Int) (maxAge : Nat) (value : String) : Prop :=
  ∃ t, env.rfc3339 value = .ok t ∧ t ≤ asOf ∧ ageSeconds asOf t ≤ maxAge

/-- A complete and sealed generation that counted all of its sources. -/
structure SourceSnapshot.Whole (s : SourceSnapshot) : Prop where
  sealed : s.summaryHash ≠ none
  complete : s.status = .complete
  sources : s.sourcesOk = s.sourcesExpected ∧ s.sourcesFailed = 0 ∧ 0 ≤ s.sourcesExpected
  counted : 0 ≤ s.findingsObserved ∧ 0 ≤ s.detectorsRun ∧ 0 ≤ s.findingsSuppressed

theorem classifySnapshot_ok :
    classifySnapshot env s asOf maxAge = .ok u ↔ s.Whole ∧ env.Within asOf maxAge s.completedAt := by
  unfold classifySnapshot Env.Within SourceSnapshot.inconsistent
  simp only [Sql.bind_ok, exists_const, refuseIf_ok, timeOf_ok, Bool.or_eq_false_iff, decide_eq_false_iff_not, not_not,
    Option.isNone_eq_false_iff, Option.isSome_iff_ne_none, ne_eq, not_lt, gt_iff_lt]
  constructor
  · intro h
    obtain ⟨hsealed, hcomplete, ⟨⟨⟨⟨⟨⟨⟨h₁, _⟩, _⟩, h₂⟩, h₃⟩, h₄⟩, h₅⟩, h₆⟩, t, ht, hby, hage⟩ := h
    exact ⟨⟨hsealed, hcomplete, ⟨h₃, h₂, h₁⟩, h₄, h₅, h₆⟩, t, ht, hby, hage⟩
  · intro h
    obtain ⟨hwhole, t, ht, hby, hage⟩ := h
    obtain ⟨hok, hfailed, hexpected⟩ := hwhole.sources
    obtain ⟨hobserved, hrun, hsuppressed⟩ := hwhole.counted
    exact ⟨hwhole.sealed, hwhole.complete, ⟨⟨⟨⟨⟨⟨⟨hexpected, by omega⟩, by omega⟩, hfailed⟩, hok⟩, hobserved⟩, hrun⟩,
      hsuppressed⟩, t, ht, hby, hage⟩

/-- The producer's envelope of an imported finding. -/
def FindingState.Produced (env : Env) (f : FindingState) (asOf : Int) (maxAge : Nat) : Prop :=
  ∃ producerId runId time version, f.originProducerId = some producerId ∧ f.originExtractionRunId = some runId ∧
    f.originProducerExtractionTime = some time ∧ f.originImportContractVersion = some version ∧ producerId.isEmpty =
      false ∧ runId.isEmpty = false ∧ env.Within asOf maxAge time

theorem classifyImport_ok : classifyImport env f asOf maxAge = .ok u ↔ f.Produced env asOf maxAge := by
  unfold classifyImport FindingState.Produced Env.Within
  cases f.originProducerId with
  | none => simp
  | some producerId =>
    cases f.originExtractionRunId with
    | none => simp
    | some runId =>
      cases f.originProducerExtractionTime with
      | none => simp
      | some time =>
        cases f.originImportContractVersion with
        | none => simp
        | some version =>
          simp only [Sql.bind_ok, exists_const, refuseIf_ok, timeOf_ok, Bool.or_eq_false_iff, decide_eq_false_iff_not,
            not_lt, gt_iff_lt]
          constructor
          · intro h
            obtain ⟨⟨hproducer, hrun⟩, t, ht, hby, hage⟩ := h
            exact ⟨producerId, runId, time, version, rfl, rfl, rfl, rfl, hproducer, hrun, t, ht, hby, hage⟩
          · intro h
            obtain ⟨_, _, _, _, e₁, e₂, e₃, e₄, hproducer, hrun, t, ht, hby, hage⟩ := h
            cases e₁
            cases e₂
            cases e₃
            exact ⟨⟨hproducer, hrun⟩, t, ht, hby, hage⟩

/-- Minted by the monitor itself, or imported with its envelope. -/
def FindingState.Originated (env : Env) (f : FindingState) (asOf : Int) (maxAge : Nat) : Prop :=
  f.originSource = "nq" ∨ (f.originSource = "import" ∧ f.Produced env asOf maxAge)

theorem classifyOrigin_ok : classifyOrigin env f asOf maxAge = .ok u ↔ f.Originated env asOf maxAge := by
  unfold classifyOrigin FindingState.Originated
  by_cases hnq : f.originSource = "nq"
  · simp [hnq]
  · by_cases himport : f.originSource = "import"
    · rw [if_neg hnq, if_pos himport, classifyImport_ok]
      simp [himport]
    · rw [if_neg hnq, if_neg himport]
      simp [hnq, himport]

/-- The row of a finding that fires at a generation, by `asOf`. -/
structure FindingState.Fires (env : Env) (f : FindingState) (generation asOf : Int)
    (maxAge : Nat) (lastSeen : Int) : Prop where
  lastSeenAt : env.rfc3339 f.lastSeenAt = .ok lastSeen ∧ lastSeen ≤ asOf
  observed : f.visibilityState = "observed" ∧ f.admissibility = "observable"
  minted : f.originMode = "observed"
  originated : f.Originated env asOf maxAge
  live : f.basisState = "live" ∧ f.basisSourceId ≠ none ∧ f.lastBasisGeneration = some generation
  basisStateAt : ∃ time, f.basisStateAt = some time ∧ env.By asOf time
  current : f.lastSeenGen = generation ∧ f.absentGens = 0 ∧ 1 ≤ f.consecutiveGens

theorem classifyFinding_ok :
    classifyFinding env f generation asOf maxAge = .ok lastSeen ↔ f.Fires env generation asOf maxAge lastSeen := by
  unfold classifyFinding
  simp only [Sql.bind_ok, exists_const, refuseIf_ok, timeOf_ok, presentOr_ok, classifyOrigin_ok, Bool.or_eq_false_iff,
    decide_eq_false_iff_not, not_not, Option.isNone_eq_false_iff,
      Option.isSome_iff_ne_none, ne_eq, not_lt, gt_iff_lt, pure,
    Except.pure, Except.ok.injEq]
  constructor
  · intro h
    obtain ⟨t, ht, hby, hobserved, hminted, horigin, ⟨⟨hlive, hsource⟩, hbasis⟩, time, htime, b, hb, hbBy,
      ⟨⟨hgen, habsent⟩, hcons⟩, e⟩ := h
    subst e
    exact ⟨⟨ht, hby⟩, hobserved, hminted, horigin, ⟨hlive, hsource, hbasis⟩,
      ⟨time, htime, b, hb, hbBy⟩, hgen, habsent, hcons⟩
  · intro h
    obtain ⟨time, htime, b, hb, hbBy⟩ := h.basisStateAt
    exact ⟨lastSeen, h.lastSeenAt.1, h.lastSeenAt.2, h.observed, h.minted,
      h.originated, ⟨⟨h.live.1, h.live.2.1⟩, h.live.2.2⟩,
      time, htime, b, hb, hbBy, ⟨⟨h.current.1, h.current.2.1⟩, h.current.2.2⟩, rfl⟩

theorem classifyCarried_ok {receipts : List EvidenceReceipt} :
    classifyCarried env asOf receipts = .ok u ↔ ∀ e ∈ receipts, env.By asOf e.observedAt := by
  induction receipts with
  | nil => simp [classifyCarried]
  | cons e rest ih =>
    unfold classifyCarried
    simp only [Sql.bind_ok, exists_const, refuseIf_ok, timeOf_ok, ih, forall_mem_cons, decide_eq_false_iff_not, not_lt,
      gt_iff_lt]
    constructor
    · intro h
      obtain ⟨t, ht, hby, hrest⟩ := h
      exact ⟨⟨t, ht, hby⟩, hrest⟩
    · intro h
      obtain ⟨⟨t, ht, hby⟩, hrest⟩ := h
      exact ⟨t, ht, hby, hrest⟩

/-- The newest observation is of the generation and agrees with the row; none is after `asOf`. -/
structure Witnessed (env : Env) (f : FindingState) (evidence : List EvidenceReceipt) (latest : EvidenceReceipt)
    (generation lastSeen asOf : Int) : Prop where
  newest : evidence.head? = some latest
  generation : latest.generationId = generation
  basis : latest.basisSourceId = f.basisSourceId ∧ latest.basisWitnessId = f.basisWitnessId
  time : env.rfc3339 latest.observedAt = .ok lastSeen
  carried : ∀ e ∈ evidence, env.By asOf e.observedAt

theorem classifyEvidence_ok :
    classifyEvidence env f evidence generation lastSeen asOf = .ok u ↔
      ∃ latest, Witnessed env f evidence latest generation lastSeen asOf := by
  unfold classifyEvidence
  simp only [Sql.bind_ok, exists_const, refuseIf_ok, timeOf_ok, presentOr_ok, classifyCarried_ok, Bool.or_eq_false_iff,
    decide_eq_false_iff_not, not_not, ne_eq, not_lt, gt_iff_lt]
  constructor
  · intro h
    obtain ⟨latest, hlatest, t, ht, hgen, hby, ⟨⟨hsource, hwitness⟩, e⟩, hrest⟩ := h
    subst e
    refine ⟨latest, hlatest, hgen, ⟨hsource, hwitness⟩, ht, fun x hx => ?_⟩
    rw [← cons_head?_tail (Option.mem_def.mpr hlatest)] at hx
    rcases mem_cons.mp hx with e | hx
    · exact e ▸ ⟨t, ht, hby⟩
    · exact hrest x hx
  · intro h
    obtain ⟨latest, hlatest, hgen, ⟨hsource, hwitness⟩, ht, hcarried⟩ := h
    obtain ⟨t, ht', hby⟩ := hcarried latest (mem_of_mem_head? (Option.mem_def.mpr hlatest))
    have e : t = lastSeen := Except.ok.inj (ht'.symm.trans ht)
    exact ⟨latest, hlatest, t, ht', hgen, hby, ⟨⟨hsource, hwitness⟩, e⟩, fun x hx => hcarried x (mem_of_mem_tail hx)⟩

/-- What activity is lifted from. -/
structure Supported (env : Env) (snapshot : SourceSnapshot) (f : FindingState) (evidence : List EvidenceReceipt)
    (latest : EvidenceReceipt) (lastSeen asOf : Int) (maxAge : Nat) : Prop where
  whole : snapshot.Whole
  completed : env.Within asOf maxAge snapshot.completedAt
  fires : f.Fires env snapshot.generationId asOf maxAge lastSeen
  witnessed : Witnessed env f evidence latest snapshot.generationId lastSeen asOf

theorem classify_ok : classify env snapshot finding evidence asOf maxAge = .ok u ↔
      ∃ s f latest lastSeen, snapshot = some s ∧ finding = some f ∧
        Supported env s f evidence latest lastSeen asOf maxAge := by
  unfold classify
  simp only [Sql.bind_ok, exists_const, presentOr_ok, classifySnapshot_ok, classifyFinding_ok, classifyEvidence_ok]
  constructor
  · intro h
    obtain ⟨s, hs, ⟨hwhole, hcompleted⟩, f, hf, lastSeen, hfires, latest, hwitnessed⟩ := h
    exact ⟨s, f, latest, lastSeen, hs, hf, hwhole, hcompleted, hfires, hwitnessed⟩
  · intro h
    obtain ⟨s, f, latest, lastSeen, hs, hf, h⟩ := h
    exact ⟨s, hs, ⟨h.whole, h.completed⟩, f, hf, lastSeen, h.fires, latest, h.witnessed⟩

theorem classifyDisposition_ok (h : classifyDisposition env snapshot finding evidence asOf maxAge = .ok lift) :
    (lift = (.operationallyActive, []) ∧ classify env snapshot finding evidence asOf maxAge = .ok ()) ∨
      ∃ refusal, lift = (.cannotTestify, [refusal]) := by
  unfold classifyDisposition at h
  split at h
  · rename_i hc
    cases h
    exact Or.inl ⟨rfl, hc⟩
  · cases h
    exact Or.inr ⟨_, rfl⟩
  · cases h

/-! ## What the queries read -/

theorem latestGeneration_some (h : store.latestGeneration = some g) :
    g ∈ store.generations.rows ∧ ∀ r ∈ store.generations.rows, r.generationId ≤ g.generationId := by
  unfold Store.latestGeneration at h
  have hperm := perm_insertionSort (fun a b : GenerationEntry => b.generationId ≤ a.generationId) store.generations.rows
  have hle := pairwise_insertionSort (fun a b : GenerationEntry =>
    b.generationId ≤ a.generationId) store.generations.rows
  obtain ⟨rest, hsorted⟩ := head?_eq_some_iff.mp h
  rw [hsorted] at hperm hle
  refine ⟨hperm.mem_iff.mp mem_cons_self, fun r hr => ?_⟩
  rcases mem_cons.mp (hperm.mem_iff.mpr hr) with e | hr
  · rw [e]
  · exact rel_of_pairwise_cons hle hr

theorem latestGeneration_eq (hmem : g ∈ store.generations.rows)
    (hmax : ∀ r ∈ store.generations.rows, r.generationId ≤ g.generationId) : store.latestGeneration = some g := by
  cases h : store.latestGeneration with
  | none =>
    have hperm := perm_insertionSort (fun a b : GenerationEntry =>
      b.generationId ≤ a.generationId) store.generations.rows
    have hnil := head?_eq_none_iff.mp h
    rw [hnil] at hperm
    exact absurd (hperm.mem_iff.mpr hmem) not_mem_nil
  | some g' =>
    obtain ⟨hmem', hmax'⟩ := latestGeneration_some h
    have hid : g'.generationId = g.generationId := Int.le_antisymm (hmax g' hmem') (hmax' g hmem)
    rw [inj_on_of_nodup_map store.generations.nodup hmem' hmem hid]

theorem loadLatestSnapshot_some (h : loadLatestSnapshot env fromStr store = .ok (some s)) :
    ∃ g ∈ store.generations.rows, g.snapshot env fromStr = .ok s ∧
      ∀ r ∈ store.generations.rows, r.generationId ≤ g.generationId := by
  unfold loadLatestSnapshot at h
  cases hg : store.latestGeneration with
  | none => rw [hg] at h; cases h
  | some g =>
    rw [hg] at h
    obtain ⟨hmem, hle⟩ := latestGeneration_some hg
    refine ⟨g, hmem, ?_, hle⟩
    dsimp only at h
    cases hs : g.snapshot env fromStr with
    | error e => rw [hs] at h; cases h
    | ok s' => rw [hs] at h; cases h; rfl

theorem generationId_snapshot (h : g.snapshot env fromStr = .ok s) :
    s.generationId = g.generationId ∧ s.completedAt = g.completedAt := by
  unfold GenerationEntry.snapshot at h
  simp only [Sql.bind_ok, pure, Except.pure, Except.ok.injEq] at h
  obtain ⟨status, _, coverageJson, _, e⟩ := h
  subst e
  exact ⟨rfl, rfl⟩

/-- ORDER BY generation_id DESC, observation_id DESC: `a` comes before `b`. -/
def EvidenceReceipt.Newer (a b : EvidenceReceipt) : Prop :=
  b.generationId < a.generationId ∨ (b.generationId = a.generationId ∧ b.observationId < a.observationId)

instance : Std.Total EvidenceReceipt.NotBehind where
  total a b := by unfold EvidenceReceipt.NotBehind; omega

instance : IsTrans EvidenceReceipt EvidenceReceipt.NotBehind where
  trans a b c hab hbc := by unfold EvidenceReceipt.NotBehind at *; omega

theorem EvidenceReceipt.NotBehind.newer {a b : EvidenceReceipt}
    (h : a.NotBehind b) (hne : a.observationId ≠ b.observationId) :
    a.Newer b := by
  unfold EvidenceReceipt.NotBehind at h
  unfold EvidenceReceipt.Newer
  omega

/-- The tail is cut from all of the finding's observations, the newest first. -/
theorem loadEvidenceTail_spec (store : Store) (selector : FindingSelector) (generation : Int) (limit : Nat) :
    ∃ all : List EvidenceReceipt, all.Perm (store.observations selector generation) ∧
      all.Pairwise EvidenceReceipt.Newer ∧
      loadEvidenceTail store selector generation limit = (all.take limit, decide (limit < all.length)) := by
  have hperm := perm_insertionSort EvidenceReceipt.NotBehind (store.observations selector generation)
  have hsorted := pairwise_insertionSort EvidenceReceipt.NotBehind (store.observations selector generation)
  refine ⟨_, hperm, ?_, ?_⟩
  · have hids : ((store.observations selector generation).map EvidenceReceipt.observationId).Nodup :=
      (filter_sublist.map _).nodup store.findingObservations.nodup
    have hnodup := pairwise_map.mp ((hperm.map EvidenceReceipt.observationId).nodup_iff.mpr hids)
    exact (hsorted.and hnodup).imp fun h => h.1.newer h.2
  · unfold loadEvidenceTail
    simp only [length_take, lt_min_iff, Nat.lt_succ_self, true_and, take_take]
    by_cases h : limit < ((store.observations selector generation).insertionSort EvidenceReceipt.NotBehind).length
    · simp only [h, decide_true, if_true]
      rw [Nat.min_eq_left (Nat.le_succ limit)]
    · simp only [h, decide_false, Bool.false_eq_true, if_false]
      rw [take_of_length_le (by omega), take_of_length_le (by omega)]

/-! ## The executor's answer -/

theorem verifyEnvelope_report (h : r.request.questionKind = .findingOperationalActivity) :
    r.verifyEnvelope env = r.verifyReportEnvelope := by
  unfold Receipt.verifyEnvelope
  rw [h]

/-- Sealing leaves what was found and decided. -/
structure Reported (r s : Receipt) : Prop where
  status : s.status = r.status
  disposition : s.disposition = r.disposition
  sourceSnapshot : s.sourceSnapshot = r.sourceSnapshot
  findingState : s.findingState = r.findingState
  evidenceReceipts : s.evidenceReceipts = r.evidenceReceipts
  evidenceCoverage : s.evidenceCoverage = r.evidenceCoverage

theorem seal_reported {s : Receipt} (h : r.seal env = .ok s) : Reported r s := by
  obtain ⟨_, _, _, d, _, e⟩ := seal_ok.mp h
  subst e
  exact ⟨rfl, rfl, rfl, rfl, rfl, rfl⟩

/-- How a report ends that ends in a receipt. -/
structure Executed (env : Env) (fromStr : String → Except String Json)
    (connection : Connection) (resolved : ResolvedProfile)
    (plan : CandidatePlan) (receipt : Receipt) (request : AdmittedRequest) (selector : FindingSelector)
    (limit maxAge : Nat)
    (asOf : Int) (snapshot : Option SourceSnapshot) (lift : Disposition × List Refusal) : Prop where
  readOnly : connection.readOnly = true
  report : resolved.profile.questionKind = .findingOperationalActivity
  admitted : admitPlan env plan resolved = .ok request
  selects : resolved.profile.selector = some selector
  limited : resolved.profile.evidenceLimit = some limit
  bounded : resolved.profile.maxSnapshotAgeSeconds = some maxAge
  asks : env.rfc3339 plan.asOf = .ok asOf
  loaded : loadLatestSnapshot env fromStr connection.store = .ok snapshot
  classified : classifyDisposition env snapshot (loadFindingState connection.store selector)
    (snapshotTail connection.store selector limit snapshot).1 asOf maxAge = .ok lift
  sealed : (reportReceipt resolved request snapshot (loadFindingState connection.store selector)
    (snapshotTail connection.store selector limit snapshot) limit lift).seal env = .ok receipt

theorem asOf_admitted (h : admitPlan env plan resolved = .ok request) : request.asOf = plan.asOf := by
  rw [(admitPlan_ok.mp h).material]
  rfl

theorem executeInSnapshot_ok :
    executeReportInquiryInSnapshot env store resolved request asOf snapshot = .ok receipt ↔
      ∃ selector limit maxAge lift,
      resolved.profile.selector = some selector ∧ resolved.profile.evidenceLimit = some limit ∧
      resolved.profile.maxSnapshotAgeSeconds = some maxAge ∧
      classifyDisposition env snapshot (loadFindingState store selector)
        (snapshotTail store selector limit snapshot).1 asOf maxAge =
        .ok lift ∧
      (reportReceipt resolved request snapshot (loadFindingState store selector)
        (snapshotTail store selector limit snapshot) limit
        lift).seal env = .ok receipt := by
  unfold executeReportInquiryInSnapshot
  simp only [Sql.bind_ok, okOr_ok, context_ok]
  constructor
  · intro h
    obtain ⟨selector, hs, limit, hl, maxAge, ha, lift, hlift, hseal⟩ := h
    exact ⟨selector, limit, maxAge, lift, hs, hl, ha, hlift, hseal⟩
  · intro h
    obtain ⟨selector, limit, maxAge, lift, hs, hl, ha, hlift, hseal⟩ := h
    exact ⟨selector, hs, limit, hl, maxAge, ha, lift, hlift, hseal⟩

theorem validateReportExecutor_ok :
    validateReportExecutor connection resolved = .ok u ↔
      connection.readOnly = true ∧ resolved.profile.questionKind = .findingOperationalActivity := by
  unfold validateReportExecutor
  simp only [Sql.bind_ok, exists_const, rejectIf_ok, Bool.not_eq_false', decide_eq_false_iff_not, ne_eq, not_not]

theorem executeReportInquiry_ok :
    executeReportInquiry env fromStr connection resolved plan = .ok receipt ↔
      ∃ request selector limit maxAge asOf snapshot lift,
        Executed env fromStr connection resolved plan receipt request selector
        limit maxAge asOf snapshot lift := by
  unfold executeReportInquiry
  simp only [Sql.bind_ok, exists_const, validateReportExecutor_ok, context_ok, parseTime_ok, executeInSnapshot_ok]
  constructor
  · intro h
    obtain ⟨⟨hread, hkind⟩, request, ha, asOf, hasOf, snapshot, hsnapshot, selector,
        limit, maxAge, lift, hs, hl, hm, hlift, hseal⟩ := h
    exact ⟨request, selector, limit, maxAge, asOf, snapshot, lift, hread, hkind, ha, hs, hl, hm,
      asOf_admitted ha ▸ hasOf, hsnapshot, hlift, hseal⟩
  · intro h
    obtain ⟨request, selector, limit, maxAge, asOf, snapshot, lift, h⟩ := h
    exact ⟨⟨h.readOnly, h.report⟩, request, h.admitted, asOf, (asOf_admitted h.admitted).symm ▸ h.asks, snapshot,
      h.loaded, selector, limit, maxAge, lift, h.selects, h.limited, h.bounded, h.classified, h.sealed⟩

/-! ## What a lift rests on -/

/-- The parser answers the instants of its years, of at most four digits and a sign. -/
structure Env.Dated (env : Env) : Prop where
  range : ∀ value t, env.rfc3339 value = .ok t → -400000000000000000000 ≤ t ∧ t ≤ 400000000000000000000

/-- Within the years of the parser no cast wraps. -/
theorem ageSeconds_le (hdated : env.Dated) {value' : String} (hasOf : env.rfc3339 value = .ok asOf)
    (ht : env.rfc3339 value' = .ok t) (hby : t ≤ asOf) :
    ageSeconds asOf t ≤ maxAge ↔ asOf - t < ((maxAge : Int) + 1) * 1000000000 := by
  obtain ⟨_, hhigh⟩ := hdated.range value asOf hasOf
  obtain ⟨hlow, _⟩ := hdated.range value' t ht
  unfold ageSeconds
  rw [Int.tdiv_eq_ediv_of_nonneg (by omega), Int.emod_eq_of_lt (by omega) (by omega)]
  omega

/-- The evidence a receipt carries: the newest of all the observations of the finding, up to a generation. -/
structure Carries (store : Store) (selector : FindingSelector) (limit : Nat) (generation : Int) (receipt : Receipt)
    (all : List EvidenceReceipt) : Prop where
  every : all.Perm (store.observations selector generation)
  descending : all.Pairwise EvidenceReceipt.Newer
  carried : receipt.evidenceReceipts = all.take limit
  truncated : receipt.evidenceCoverage.receiptTailTruncated = true ↔ limit < all.length

/-- A receipt that reports activity, and what of the store it rests on. -/
structure Lifted (env : Env) (fromStr : String → Except String Json) (store : Store) (resolved : ResolvedProfile)
    (plan : CandidatePlan) (receipt : Receipt) (selector : FindingSelector)
    (limit maxAge : Nat) (asOf completed lastSeen : Int)
    (snapshot : SourceSnapshot) (row : WarningEntry) (all : List EvidenceReceipt)
    (latest : EvidenceReceipt) : Prop where
  profile : resolved.profile.selector = some selector ∧ resolved.profile.evidenceLimit = some limit ∧
    resolved.profile.maxSnapshotAgeSeconds = some maxAge
  asks : env.rfc3339 plan.asOf = .ok asOf
  status : receipt.status = .answered
  found : receipt.sourceSnapshot = some snapshot ∧ receipt.findingState = some row.state
  newest : ∃ g ∈ store.generations.rows, g.snapshot env fromStr = .ok snapshot ∧
    ∀ r ∈ store.generations.rows, r.generationId ≤ snapshot.generationId
  whole : snapshot.Whole
  completedAt : env.rfc3339 snapshot.completedAt = .ok completed ∧ completed ≤ asOf ∧
    asOf - completed < ((maxAge : Int) + 1) * 1000000000
  exact : store.warningState.get selector = some row
  fires : row.state.Fires env snapshot.generationId asOf maxAge lastSeen
  carries : Carries store selector limit snapshot.generationId receipt all
  newestOf : all.head? = some latest
  agrees : latest.generationId = snapshot.generationId ∧ latest.basisSourceId = row.basisSourceId ∧
    latest.basisWitnessId = row.basisWitnessId ∧ env.rfc3339 latest.observedAt = .ok lastSeen
  before : ∀ e ∈ receipt.evidenceReceipts, env.By asOf e.observedAt

/-- A report lifts activity from a whole snapshot within its bound in whole seconds, and is refused otherwise. -/
theorem lifted (env : Env) (hdated : env.Dated) (fromStr : String → Except String Json) (connection : Connection)
    (resolved : ResolvedProfile) (plan : CandidatePlan) (receipt : Receipt)
    (h : executeReportInquiry env fromStr connection resolved plan = .ok receipt) :
    (receipt.disposition = .operationallyActive ∧
      ∃ selector limit maxAge asOf completed lastSeen snapshot row all latest,
      Lifted env fromStr connection.store resolved plan receipt
        selector limit maxAge asOf completed lastSeen snapshot row all latest) ∨
    (receipt.disposition = .cannotTestify ∧ receipt.status = .refused) := by
  obtain ⟨request, selector, limit, maxAge, asOf, snapshot, lift, h⟩ := executeReportInquiry_ok.mp h
  have hr := seal_reported h.sealed
  rcases classifyDisposition_ok h.classified with hactive | hrefused
  · obtain ⟨elift, hactive⟩ := hactive
    obtain ⟨s, f, latest, lastSeen, es, ef, hs⟩ := classify_ok.mp hactive
    subst elift
    subst es
    obtain ⟨all, hperm, hdesc, htail⟩ := loadEvidenceTail_spec connection.store selector s.generationId limit
    have htail : snapshotTail connection.store selector limit (some s) =
        (all.take limit, decide (limit < all.length)) := htail
    rw [htail] at hs hr
    obtain ⟨row, hrow, e⟩ := Option.map_eq_some_iff.mp ef
    subst e
    obtain ⟨g, hg, hsnapshot, hnewest⟩ := loadLatestSnapshot_some h.loaded
    obtain ⟨completed, hcompleted, hby, hage⟩ := hs.completed
    refine Or.inl ⟨hr.disposition, selector, limit, maxAge, asOf, completed, lastSeen, s, row, all, latest, {
      profile := ⟨h.selects, h.limited, h.bounded⟩
      asks := h.asks
      status := hr.status
      found := ⟨hr.sourceSnapshot, hr.findingState.trans ef⟩
      newest := ⟨g, hg, hsnapshot, fun r hr => (generationId_snapshot hsnapshot).1 ▸ hnewest r hr⟩
      whole := hs.whole
      completedAt := ⟨hcompleted, hby, (ageSeconds_le hdated h.asks hcompleted hby).mp hage⟩
      exact := hrow
      fires := hs.fires
      carries := ⟨hperm, hdesc, hr.evidenceReceipts, by rw [hr.evidenceCoverage]; exact decide_eq_true_iff⟩
      newestOf := ?_
      agrees := ⟨hs.witnessed.generation, hs.witnessed.basis.1, hs.witnessed.basis.2, hs.witnessed.time⟩
      before := ?_ }⟩
    · have hhead := hs.witnessed.newest
      rw [head?_take] at hhead
      split at hhead
      · cases hhead
      · exact hhead
    · rw [hr.evidenceReceipts]
      exact hs.witnessed.carried
  · obtain ⟨refusal, e⟩ := hrefused
    subst e
    exact Or.inr ⟨hr.disposition, hr.status⟩

/-! ## Sealing a report -/

/-- What is sealed of a report. -/
def sealedReport (resolved : ResolvedProfile) (request : AdmittedRequest) (snapshot : Option SourceSnapshot)
    (findingState : Option FindingState) (tail : List EvidenceReceipt × Bool) (limit : Nat)
    (lift : Disposition × List Refusal) :
    Receipt :=
  { (reportReceipt resolved request snapshot findingState tail limit lift).sorted with receiptDigest := none }

/-- A report seals where it can be rendered. -/
theorem report_seals (ha : admitPlan env plan resolved = .ok request)
    (hk : resolved.profile.questionKind = .findingOperationalActivity) (hs : resolved.profile.selector = some selector)
    {findingState : Option FindingState} {tail : List EvidenceReceipt × Bool} (hlift : lift.1 ≠ .perTargetOutcomes)
    (hbytes : env.toVec (.receipt (sealedReport resolved request snapshot findingState tail limit lift)) = .ok bytes) :
    ∃ receipt, (reportReceipt resolved request snapshot findingState tail limit lift).seal env = .ok receipt := by
  have h := admitPlan_ok.mp ha
  obtain ⟨_, htargets⟩ := (admitTargets_report hk).mp h.targets
  obtain ⟨eselector, eadmitted⟩ := Prod.mk.inj htargets
  have hkind : request.questionKind = .findingOperationalActivity := by rw [h.material]; exact hk
  have hrequested : request.requestedTargets = [] := by rw [h.material]; exact eadmitted
  refine ⟨_, seal_ok.mpr ⟨rfl, h.requestSealed, ?_, digestText (env.sha256 bytes), ?_, rfl⟩⟩
  · have hverify : (reportReceipt resolved request snapshot findingState tail limit lift).sorted.verifyEnvelope env =
        (reportReceipt resolved request snapshot findingState tail limit lift).sorted.verifyReportEnvelope :=
      verifyEnvelope_report hkind
    rw [hverify]
    unfold Receipt.verifyReportEnvelope Receipt.sorted reportReceipt
    simp only [hrequested, eadmitted, eselector, hs]
    simp [rejectIf, hlift, bind, Except.bind]
  · unfold sealedReport at hbytes
    unfold digestJcs
    rw [hbytes]

/-- A supported lift is reported. -/
theorem executes {latest : EvidenceReceipt} (hread : connection.readOnly = true)
    (hk : resolved.profile.questionKind = .findingOperationalActivity) (ha : admitPlan env plan resolved = .ok request)
    (hs : resolved.profile.selector = some selector) (hl : resolved.profile.evidenceLimit = some limit)
    (hm : resolved.profile.maxSnapshotAgeSeconds = some maxAge) (hasOf : env.rfc3339 plan.asOf = .ok asOf)
    (hsnapshot : loadLatestSnapshot env fromStr connection.store = .ok (some s))
    (hf : loadFindingState connection.store selector = some f)
    (hsupported : Supported env s f (loadEvidenceTail connection.store selector s.generationId limit).1
      latest lastSeen asOf maxAge)
    (hbytes : env.toVec (.receipt (sealedReport resolved request (some s) (some f)
      (loadEvidenceTail connection.store selector s.generationId limit) limit (.operationallyActive,
        []))) = .ok bytes) :
    ∃ receipt, executeReportInquiry env fromStr connection resolved plan = .ok receipt ∧
      receipt.disposition = .operationallyActive ∧ receipt.sourceSnapshot = some s := by
  obtain ⟨receipt, hseal⟩ := report_seals ha hk hs (by decide) hbytes
  have hclassify : classify env (some s) (some f)
    (loadEvidenceTail connection.store selector s.generationId limit).1 asOf maxAge =
      .ok () := classify_ok.mpr ⟨s, f, latest, lastSeen, rfl, rfl, hsupported⟩
  refine ⟨receipt, executeReportInquiry_ok.mpr ⟨request, selector,
    limit, maxAge, asOf, some s, (.operationallyActive, []), {
    readOnly := hread
    report := hk
    admitted := ha
    selects := hs
    limited := hl
    bounded := hm
    asks := hasOf
    loaded := hsnapshot
    classified := ?_
    sealed := hf.symm ▸ hseal }⟩, (seal_reported hseal).disposition, (seal_reported hseal).sourceSnapshot⟩
  rw [hf]
  unfold classifyDisposition snapshotTail
  rw [hclassify]

end

/-! ## A store with one finding -/

/-- A generation that completed at a time. -/
def tailGeneration (completedAt : String) : GenerationEntry where
  generationId := 3
  startedAt := completedAt
  completedAt := completedAt
  status := "complete"
  sourcesExpected := 1
  sourcesOk := 1
  sourcesFailed := 0
  durationMs := 10
  summaryHash := some "sealed-3"
  findingsObserved := 1
  detectorsRun := 1
  findingsSuppressed := 0
  coverageJson := none

/-- The finding the fixture selects, seen at a time. -/
def tailRow (seenAt : String) : WarningEntry where
  host := "resolver"
  kind := "pending_aged_tail"
  subject := ""
  domain := "Δh"
  severity := "warning"
  message := "pending-aged tail persists"
  firstSeenGen := 3
  firstSeenAt := seenAt
  lastSeenGen := 3
  lastSeenAt := seenAt
  consecutiveGens := 1
  absentGens := 0
  visibilityState := "observed"
  suppressionKind := none
  suppressionReason := none
  suppressionDeclarationId := none
  basisState := "live"
  basisSourceId := some "resolver-source"
  basisWitnessId := some "resolver-witness"
  lastBasisGeneration := some 3
  basisStateAt := some seenAt
  originSource := "nq"
  originProducerId := none
  originExtractionRunId := none
  originProducerExtractionTime := none
  originImportContractVersion := none
  originMode := "observed"

def tailObservation (seenAt : String) : EvidenceReceipt where
  observationId := 1
  generationId := 3
  findingKey := "local/resolver/pending_aged_tail/"
  scope := "local"
  detectorId := "pending_aged_tail"
  host := "resolver"
  subject := ""
  domain := "Δh"
  severity := some "warning"
  value := none
  message := some "receipt-3"
  findingClass := "signal"
  ruleHash := some "rule:v0"
  observedAt := seenAt
  basisSourceId := some "resolver-source"
  basisWitnessId := some "resolver-witness"

/-- One generation, in which the finding was seen. -/
def tailConnection (completedAt : String) : Connection where
  readOnly := true
  store := ⟨⟨[tailGeneration completedAt], nodup_singleton _⟩, ⟨[tailRow completedAt], nodup_singleton _⟩,
    ⟨[tailObservation completedAt], nodup_singleton _⟩⟩

/-- No generation of the store carries coverage. -/
def noCoverage : String → Except String Json := fun _ => .error "not read here"

theorem reportEnv_dated : reportEnv.Dated := ⟨fun _ _ h => readReportInstant_range h⟩

def tailSnapshot (completedAt : String) : SourceSnapshot :=
  { tailGeneration completedAt with
    status := .complete
    coverageJson := none }

theorem tail_carried (completedAt : String) :
    loadEvidenceTail (tailConnection completedAt).store resolverTail 3 32 = ([tailObservation completedAt], false) := by
  have hmatches : (tailObservation completedAt).Matches resolverTail 3 := ⟨rfl, rfl, rfl, rfl, Int.le_refl 3⟩
  unfold loadEvidenceTail Store.observations tailConnection
  simp [hmatches]

variable {completedAt : String} {t : Int}

theorem tail_supported {asOf : Int} {maxAge : Nat} (ht : readReportInstant completedAt = .ok t) (hby : t ≤ asOf)
    (hage : ageSeconds asOf t ≤ maxAge) :
    Supported reportEnv (tailSnapshot completedAt) (tailRow completedAt).state [tailObservation completedAt]
      (tailObservation completedAt) t asOf maxAge := by
  have htimes : reportEnv.By asOf completedAt := ⟨t, ht, hby⟩
  have hadmissible : (tailRow completedAt).admissibility = "observable" := by
    simp [tailRow, WarningEntry.admissibility]
  have hcounters : (0 : Int) ≤ 1 ∧ (0 : Int) ≤ 1 ∧ (0 : Int) ≤ 0 := by decide
  exact {
    whole := ⟨nofun, rfl, ⟨rfl, rfl, hcounters.1⟩, hcounters⟩
    completed := ⟨t, ht, hby, hage⟩
    fires := ⟨⟨ht, hby⟩, ⟨rfl, hadmissible⟩, rfl, Or.inl rfl,
      ⟨rfl, nofun, rfl⟩, ⟨completedAt, rfl, htimes⟩, rfl, rfl, Int.le_refl 1⟩
    witnessed := ⟨rfl, rfl, ⟨rfl, rfl⟩, ht, fun e he => mem_singleton.mp he ▸ htimes⟩ }

theorem tail_executes (ht : readReportInstant completedAt = .ok t) (hby : t ≤ 1783771200000000000)
    (hage : ageSeconds 1783771200000000000 t ≤ 300) :
    ∃ resolved receipt, executeReportInquiry reportEnv noCoverage (tailConnection completedAt) resolved
        (resolverPlan "2026-07-11T12:00:00Z") = .ok receipt ∧ receipt.disposition = .operationallyActive ∧
      resolved.profile.maxSnapshotAgeSeconds = some 300 ∧ receipt.sourceSnapshot = some (tailSnapshot completedAt) := by
  have hasOf : readReportInstant "2026-07-11T12:00:00Z" = .ok 1783771200000000000 := by decide +kernel
  obtain ⟨resolved, request, ha, hprofile⟩ := resolverPlan_admitted hasOf
  have htail : loadEvidenceTail (tailConnection completedAt).store
    resolverTail (tailSnapshot completedAt).generationId 32 =
      ([tailObservation completedAt], false) := tail_carried completedAt
  have hselector : resolved.profile.selector = some resolverTail := by rw [hprofile]; rfl
  have hlimit : resolved.profile.evidenceLimit = some 32 := by rw [hprofile]; rfl
  have hmax : resolved.profile.maxSnapshotAgeSeconds = some 300 := by rw [hprofile]; rfl
  have hloaded : loadLatestSnapshot reportEnv noCoverage (tailConnection completedAt).store =
      .ok (some (tailSnapshot completedAt)) := rfl
  have hfound : loadFindingState (tailConnection completedAt).store resolverTail =
      some (tailRow completedAt).state := rfl
  have hsupported : Supported reportEnv (tailSnapshot completedAt) (tailRow completedAt).state
      (loadEvidenceTail (tailConnection completedAt).store resolverTail (tailSnapshot completedAt).generationId 32).1
      (tailObservation completedAt) t 1783771200000000000 300 := by
    rw [htail]
    exact tail_supported ht hby hage
  obtain ⟨receipt, hr, hd, hsnapshot⟩ :=
    executes rfl (by rw [hprofile]; rfl) ha hselector hlimit hmax hasOf hloaded hfound
    hsupported (by rw [htail]; rfl)
  exact ⟨resolved, receipt, hr, hd, hmax, hsnapshot⟩

theorem a_snapshot_a_minute_old_is_lifted : ∃ resolved receipt, executeReportInquiry reportEnv noCoverage
      (tailConnection "2026-07-11T11:59:00Z") resolved (resolverPlan "2026-07-11T12:00:00Z") = .ok receipt ∧
    ((receipt.disposition = .operationallyActive ∧
      ∃ selector limit maxAge asOf completed lastSeen snapshot row all latest,
        Lifted reportEnv noCoverage (tailConnection "2026-07-11T11:59:00Z").store
          resolved (resolverPlan "2026-07-11T12:00:00Z")
          receipt selector limit maxAge asOf completed lastSeen snapshot row all latest) ∨
      (receipt.disposition = .cannotTestify ∧ receipt.status = .refused)) := by
  have hcompleted : readReportInstant "2026-07-11T11:59:00Z" = .ok 1783771140000000000 := by decide +kernel
  obtain ⟨resolved, receipt, hr, _⟩ := tail_executes hcompleted (by decide) (by decide)
  exact ⟨resolved, receipt, hr, lifted reportEnv reportEnv_dated noCoverage _ resolved _ receipt hr⟩

/-- Five minutes and half a second are five minutes in whole seconds. -/
theorem a_snapshot_half_a_second_past_its_bound_is_lifted : ∃ resolved receipt completed asOf,
    executeReportInquiry reportEnv noCoverage (tailConnection "2026-07-11T11:54:59.5Z") resolved
      (resolverPlan "2026-07-11T12:00:00Z") = .ok receipt ∧ receipt.disposition = .operationallyActive ∧
    resolved.profile.maxSnapshotAgeSeconds = some 300 ∧
    receipt.sourceSnapshot = some (tailSnapshot "2026-07-11T11:54:59.5Z") ∧
    reportEnv.rfc3339 (tailSnapshot "2026-07-11T11:54:59.5Z").completedAt = .ok completed ∧
    reportEnv.rfc3339 (resolverPlan "2026-07-11T12:00:00Z").asOf = .ok asOf ∧ 300 * 1000000000 < asOf - completed := by
  have hcompleted : readReportInstant "2026-07-11T11:54:59.5Z" = .ok 1783770899500000000 := by decide +kernel
  have hasOf : readReportInstant "2026-07-11T12:00:00Z" = .ok 1783771200000000000 := by decide +kernel
  obtain ⟨resolved, receipt, hr, hd, hmax, hsnapshot⟩ := tail_executes hcompleted (by decide) (by decide)
  exact ⟨resolved, receipt, _, _, hr, hd, hmax, hsnapshot, hcompleted, hasOf, by decide⟩

end Nq.Inquiry
