/-
  Nq.Dashboard.Findings — the dashboard's reading of the findings (`nq-db/src/dashboard.rs`).

  A page is read in one transaction. Its basis is the newest generation, whatever its
  status. A finding is a row of `warning_state` with the newest observation of its key, if
  that is of the generation the row was last seen in, and with the evidence its detector
  left, if that is of the same generation. Where they are of different generations, or the
  row was not last seen in the newest one, the page says so (`coherenceIssues`), and the
  standing of the finding is unknown, whatever its columns say.

  The evidence of an error shift sums two columns over the detector's window, and the page
  of every finding fails where one of the sums is no `i64` (`loadCurrentFindings_answers`).

  The columns a finding copies from its row are its `row`. Of the evidence its time, its
  generation and those sums are kept; the inventory of the overview reads other tables and is
  left out.
-/

import Nq.Collections.Checks
import Nq.Detect.Trend
import Nq.Operator.Actions

namespace Nq.Dashboard

open List
open Sql (Table)

def dashboardStaleAfterSeconds : Int := 300
def observationHistoryLimit : Nat := 200
def transitionHistoryLimit : Nat := 200

structure DashboardBasis where
  generationId : Option Int
  completedAt : Option String
  status : Option GenerationStatus
  ageSeconds : Option Int
  loadedAt : String
  deriving DecidableEq

inductive DashboardScope where
  | monitoredSystem | nqSelfHealth
  deriving DecidableEq, Repr

inductive DashboardFindingStatus where
  | ongoing | recovering | stale | suppressed | retired | unknown
  deriving DecidableEq, Repr

structure DashboardObservation where
  generationId : Int
  observedAt : String
  value : Option Sql.F64
  deriving DecidableEq

structure DashboardCoherenceIssue where
  code : String
  summary : String
  lifecycleGeneration : Int
  conflictingGeneration : Option Int
  deriving DecidableEq, Repr

inductive DashboardEvidence where
  | statisticalShift (sourceObservedAt : String) (currentGeneration baselineErrors baselineMessages : Int)
  | sourceConflict (observedAt : String) (generationId : Int)
  deriving DecidableEq, Repr

structure DashboardFinding where
  findingKey : String
  scope : DashboardScope
  status : DashboardFindingStatus
  row : WarningRow
  currentObservation : Option DashboardObservation
  evidence : Option DashboardEvidence
  coherenceIssues : List DashboardCoherenceIssue
  observationAgeSeconds : Option Int
  displayStale : Bool
  deriving DecidableEq

structure DashboardOverview where
  basis : DashboardBasis
  monitoredFindings : List DashboardFinding
  nqSelfHealth : List DashboardFinding
  deriving DecidableEq

structure DashboardFindingIdentity where
  findingKey : String
  host : String
  kind : String
  subject : String
  domain : Option String
  findingClass : Option String
  deriving DecidableEq, Repr

structure DashboardObservationHistory where
  entries : List DashboardObservation
  totalCount : Nat
  truncated : Bool
  deriving DecidableEq

structure DashboardTransitionHistory where
  entries : List TransitionRow
  totalCount : Nat
  truncated : Bool
  deriving DecidableEq

inductive DashboardFindingDetail where
  | current (basis : DashboardBasis) (finding : DashboardFinding) (observations : DashboardObservationHistory)
      (transitions : DashboardTransitionHistory)
  | historical (basis : DashboardBasis) (identity : DashboardFindingIdentity)
      (latestObservation : Option DashboardObservation)
      (observations : DashboardObservationHistory) (transitions : DashboardTransitionHistory)
  | missing (basis : DashboardBasis) (requestedFindingKey : String)
  deriving DecidableEq

def classifyDashboardScope (kind findingClass domain : String) : DashboardScope :=
  if findingClass = "meta" || domain = "component_testimony" ||
      kind ∈ ["check_error", "coverage_testimony_absent", "node_unobservable", "source_error"] ||
      "_witness_silent".toList.isSuffixOf kind.toList then .nqSelfHealth
  else .monitoredSystem

/-! ## The standing of a finding -/

def classifyFindingStatus (basisState : BasisState) (visibilityState : Visibility) (absentGenerations : Int)
    (stability : Option Stability) (displayStale : Bool) : DashboardFindingStatus :=
  if basisState = .retired then .retired
  else if visibilityState = .suppressed then .suppressed
  else if basisState = .unknown ∨ basisState = .invalidated then .unknown
  else if basisState = .stale ∨ displayStale = true then .stale
  else if 0 < absentGenerations ∨ stability = some .recovering then .recovering
  else .ongoing

def observationIsStale (ageSeconds : Option Int) : Bool :=
  !ageSeconds.any fun age => 0 ≤ age ∧ age ≤ dashboardStaleAfterSeconds

/-- `ORDER BY generation_id DESC LIMIT 1`; a generation observes a key once. -/
def loadLatestObservation (db : Db) (findingKey : String) : Option DashboardObservation :=
  (Sql.firstBy (fun o o' : ObservationRow => o'.generationId < o.generationId)
    (db.findingObservations.rows.filter (·.findingKey = findingKey))).map fun o =>
      ⟨o.generationId, o.observedAt, o.value⟩

/-- A count over the baseline of a source, the newest generation first, as its index reads them. -/
def baselineCounts (db : Db) (generation : Int) (c : Current LogObsRow) (count : LogObsRow → Int) : List Int :=
  ((logBaseline db.logObservationsHistory.rows generation c).insertionSort fun h h' =>
    h'.generationId ≤ h.generationId).map
    fun h => count h.row

def loadErrorShiftEvidence (db : Db) (host sourceId : String) (expectedGeneration : Int) :
    Except String (Option DashboardEvidence) :=
  match (db.logObservationsCurrent.get (host, sourceId)).filter (·.asOfGeneration = expectedGeneration) with
  | none => .ok none
  | some c => do
    let baselineErrors ← Sql.sumI64 (baselineCounts db expectedGeneration c LogObsRow.linesError)
    let baselineMessages ← Sql.sumI64 (baselineCounts db expectedGeneration c LogObsRow.linesTotal)
    return some (.statisticalShift c.collectedAt c.asOfGeneration baselineErrors baselineMessages)

def loadSmartSourceConflictEvidence (db : Db) (host subject : String)
    (expectedGeneration : Int) : Option DashboardEvidence :=
  ((db.smartDevicesCurrent.get (host, subject)).filter (·.asOfGeneration = expectedGeneration)).map fun c =>
    .sourceConflict c.collectedAt c.asOfGeneration

def loadFindingEvidence (db : Db) (kind host subject : String) (expectedGeneration : Int) :
    Except String (Option DashboardEvidence) :=
  if kind = "error_shift" then loadErrorShiftEvidence db host subject expectedGeneration
  else if kind = "smart_status_lies" then .ok (loadSmartSourceConflictEvidence db host subject expectedGeneration)
  else .ok none

def observationIssue (r : WarningRow) (observation : DashboardObservation) : DashboardCoherenceIssue :=
  ⟨"observation_generation_mismatch",
    "The retained observation belongs to a different snapshot than the current finding lifecycle row; " ++
      "NQ did not combine their values.",
    r.lastSeenGen, some observation.generationId⟩

def pageIssue (r : WarningRow) (pageGeneration : Option Int) : DashboardCoherenceIssue :=
  ⟨"finding_page_generation_mismatch",
    "The finding lifecycle row does not belong to the page's latest complete snapshot; " ++
      "it cannot be presented as a current issue.",
    r.lastSeenGen, pageGeneration⟩

def evidenceIssue (r : WarningRow) (summary : String) (conflictingGeneration : Option Int) : DashboardCoherenceIssue :=
  ⟨"detector_evidence_basis_unavailable", summary, r.lastSeenGen, conflictingGeneration⟩

def coherenceIssues (db : Db) (r : WarningRow) (pageGeneration : Option Int) (evidence : Option DashboardEvidence) :
    List DashboardCoherenceIssue :=
  ((loadLatestObservation db r.id.key).filter (·.generationId ≠ r.lastSeenGen)).toList.map (observationIssue r) ++
    (if pageGeneration.any (· ≠ r.lastSeenGen) then [pageIssue r pageGeneration] else []) ++
    (if r.kind = "error_shift" ∧ evidence = none then
      [evidenceIssue r
        ("Error-rate source evidence for the finding's lifecycle snapshot is unavailable; " ++
          "NQ did not attach a value from another snapshot.")
        ((db.logObservationsCurrent.get (r.host, r.subject)).map (·.asOfGeneration))]
    else []) ++
    (if r.kind = "smart_status_lies" ∧ evidence = none then
      [evidenceIssue r
        ("SMART source evidence for the finding's lifecycle snapshot is unavailable; " ++
          "NQ did not attach device values from another snapshot.")
        ((db.smartDevicesCurrent.get (r.host, r.subject)).map (·.asOfGeneration))]
    else [])

/-- The newest observation, where it is of the generation the row was last seen in. -/
def currentObservation (db : Db) (r : WarningRow) : Option DashboardObservation :=
  (loadLatestObservation db r.id.key).filter (·.generationId = r.lastSeenGen)

section

variable (time : TimeLib)

def timestampAgeSeconds (now : Int) (timestamp : String) : Option Int :=
  (time.parse timestamp).toOption.map fun observedAt => (now - observedAt).tdiv 1000000000

/-- The time a finding's age is taken from. -/
def observationTime (db : Db) (r : WarningRow) : String :=
  ((currentObservation db r).map (·.observedAt)).getD r.lastSeenAt

def dashboardFinding (db : Db) (r : WarningRow) (now : Int) (pageGeneration : Option Int)
    (evidence : Option DashboardEvidence) : DashboardFinding :=
  let observationAgeSeconds := timestampAgeSeconds time now (observationTime db r)
  let displayStale := observationIsStale observationAgeSeconds
  let issues := coherenceIssues db r pageGeneration evidence
  { findingKey := r.id.key
    scope := classifyDashboardScope r.kind r.findingClass r.domain
    status :=
      if issues ≠ [] then .unknown
      else classifyFindingStatus r.basisState r.visibilityState r.absentGens r.stability displayStale
    row := r
    currentObservation := currentObservation db r
    evidence := evidence
    coherenceIssues := issues
    observationAgeSeconds := observationAgeSeconds
    displayStale := displayStale }

def dashboardFindingFromRaw (db : Db) (r : WarningRow) (now : Int) (pageGeneration : Option Int) :
    Except String DashboardFinding := do
  let evidence ← loadFindingEvidence db r.kind r.host r.subject r.lastSeenGen
  return dashboardFinding time db r now pageGeneration evidence

/-! ## The loaders -/

def loadBasis (db : Db) (now : Int) : Except String DashboardBasis := do
  let loadedAt ← time.format now
  return match db.latestGeneration with
    | some g => ⟨some g.generationId, some g.completedAt, some g.status,
        timestampAgeSeconds time now g.completedAt, loadedAt⟩
    | none => ⟨none, none, none, none, loadedAt⟩

def biasRank (r : WarningRow) : Nat :=
  match r.diagnosis.map FindingDiagnosis.actionBias with
  | some .interveneNow => 0
  | some .interveneSoon => 1
  | some .investigateNow => 2
  | some .investigateBusinessHours => 3
  | some .watch => 4
  | none => 5

def severityRank (r : WarningRow) : Nat :=
  if r.severity = "critical" then 0 else if r.severity = "warning" then 1 else if r.severity = "info" then 2 else 3

/-- `ORDER BY CASE action_bias …, CASE severity …, kind, host, subject`. -/
def byUrgency (a b : WarningRow) : Prop :=
  biasRank a < biasRank b ∨ biasRank a = biasRank b ∧ (severityRank a < severityRank b ∨ severityRank a =
    severityRank b ∧ (a.kind < b.kind ∨ a.kind = b.kind ∧ (a.host < b.host ∨ a.host = b.host ∧ a.subject ≤ b.subject)))

instance : DecidableRel byUrgency := fun _ _ => inferInstanceAs (Decidable (_ ∨ _ ∧ (_ ∨ _ ∧ (_ ∨ _ ∧ (_ ∨ _ ∧ _)))))

def loadCurrentFindings (db : Db) (now : Int) (pageGeneration : Option Int) : Except String (List DashboardFinding) :=
  (db.warningState.rows.insertionSort byUrgency).mapM fun r => dashboardFindingFromRaw time db r now pageGeneration

def loadDashboardOverview (db : Db) (now : Int) : Except String DashboardOverview := do
  let basis ← loadBasis time db now
  let findings ← loadCurrentFindings time db now basis.generationId
  return ⟨basis, findings.filter (·.scope = .monitoredSystem), findings.filter (·.scope = .nqSelfHealth)⟩

/-- By the observations of the key, or else the row, or else the transitions it names. -/
def resolveFindingIdentity (db : Db) (findingKey : String) : Option DashboardFindingIdentity :=
  ((Sql.firstBy (fun o o' : ObservationRow => o'.generationId < o.generationId)
      (db.findingObservations.rows.filter (·.findingKey = findingKey))).map fun o =>
    ⟨findingKey, o.host, o.detectorId, o.subject, some o.domain, some o.findingClass⟩).or <|
  ((db.warningState.rows.find? (·.id.key = findingKey)).map fun r =>
    ⟨findingKey, r.host, r.kind, r.subject, some r.domain, some r.findingClass⟩).or <|
  (db.findingTransitions.find? (·.id.key = findingKey)).map fun t =>
    ⟨findingKey, t.id.host, t.id.kind, t.id.subject, none, none⟩

def loadObservationHistory (db : Db) (findingKey : String) : DashboardObservationHistory :=
  let rows := db.findingObservations.rows.filter (·.findingKey = findingKey)
  let entries := (rows.insertionSort fun o o' => o'.generationId ≤ o.generationId).take observationHistoryLimit
  ⟨entries.map fun o => ⟨o.generationId, o.observedAt, o.value⟩, rows.length, entries.length < rows.length⟩

/-- `ORDER BY created_at DESC, transition_id DESC`; the ids follow the order of the list. -/
def loadTransitionHistory (db : Db) (identity : DashboardFindingIdentity) : DashboardTransitionHistory :=
  let rows := db.findingTransitions.filter (·.id = ⟨identity.host, identity.kind, identity.subject⟩)
  let entries := (rows.reverse.insertionSort fun t t' => t'.createdAt ≤ t.createdAt).take transitionHistoryLimit
  ⟨entries, rows.length, entries.length < rows.length⟩

def loadDashboardFinding (db : Db) (findingKey : String) (now : Int) : Except String DashboardFindingDetail := do
  let basis ← loadBasis time db now
  match resolveFindingIdentity db findingKey with
  | none => return .missing basis findingKey
  | some identity =>
    let observations := loadObservationHistory db findingKey
    let transitions := loadTransitionHistory db identity
    let findings ← loadCurrentFindings time db now basis.generationId
    return match findings.find? (·.findingKey = findingKey) with
      | some finding => .current basis finding observations transitions
      | none => .historical basis identity observations.entries.head? observations transitions

end

/-! ## What the page joins -/

/-- Evidence of the row's generation is there, where the kind has any. -/
def Evidenced (db : Db) (r : WarningRow) : Prop :=
  r.kind = "error_shift" ∨ r.kind = "smart_status_lies" →
    loadFindingEvidence db r.kind r.host r.subject r.lastSeenGen ≠ .ok none

/-- The newest observation, the page and the evidence are of the generation the row was last seen in. -/
structure Joined (db : Db) (r : WarningRow) (pageGeneration : Option Int) : Prop where
  observation : ∀ o, loadLatestObservation db r.id.key = some o → o.generationId = r.lastSeenGen
  page : ∀ g, pageGeneration = some g → g = r.lastSeenGen
  evidence : Evidenced db r

theorem coherent_iff {db : Db} {r : WarningRow} {pageGeneration : Option Int} {evidence : Option DashboardEvidence}
    (hload : loadFindingEvidence db r.kind r.host r.subject r.lastSeenGen = .ok evidence) :
    coherenceIssues db r pageGeneration evidence = [] ↔ Joined db r pageGeneration := by
  have hobs : ((loadLatestObservation db r.id.key).filter (·.generationId ≠ r.lastSeenGen)).toList.map
    (observationIssue r) = [] ↔
      ∀ o, loadLatestObservation db r.id.key = some o → o.generationId = r.lastSeenGen := by
    cases loadLatestObservation db r.id.key with
    | none => simp
    | some o => by_cases ho : o.generationId = r.lastSeenGen <;> simp [ho]
  have hpage : (if pageGeneration.any (· ≠ r.lastSeenGen) then [pageIssue r pageGeneration] else []) = [] ↔
      ∀ g, pageGeneration = some g → g = r.lastSeenGen := by
    cases pageGeneration with
    | none => simp
    | some g => by_cases hg : g = r.lastSeenGen <;> simp [hg]
  unfold coherenceIssues
  simp only [append_eq_nil_iff]
  rw [hobs, hpage]
  constructor
  · rintro ⟨⟨⟨ho, hp⟩, hshift⟩, hsmart⟩
    refine ⟨ho, hp, ?_⟩
    rintro (hkind | hkind) hnone
    · rw [if_pos ⟨hkind, Except.ok.inj (hload.symm.trans hnone)⟩] at hshift
      cases hshift
    · rw [if_pos ⟨hkind, Except.ok.inj (hload.symm.trans hnone)⟩] at hsmart
      cases hsmart
  · rintro ⟨ho, hp, hev⟩
    refine ⟨⟨⟨ho, hp⟩, if_neg ?_⟩, if_neg ?_⟩
    · rintro ⟨hkind, hnone⟩
      exact hev (.inl hkind) (hnone ▸ hload)
    · rintro ⟨hkind, hnone⟩
      exact hev (.inr hkind) (hnone ▸ hload)

/-- Of an age from 0 to 300 whole seconds. -/
def Recent (time : TimeLib) (now : Int) (timestamp : String) : Prop :=
  ∃ age, timestampAgeSeconds time now timestamp = some age ∧ 0 ≤ age ∧ age ≤ dashboardStaleAfterSeconds

section

variable {time : TimeLib} {db : Db} {now : Int}

theorem observationIsStale_eq_false {timestamp : String} :
    observationIsStale (timestampAgeSeconds time now timestamp) = false ↔ Recent time now timestamp := by
  unfold observationIsStale Recent
  cases timestampAgeSeconds time now timestamp with
  | none => simp
  | some age => simp

theorem dashboardFindingFromRaw_ok {r : WarningRow} {pageGeneration : Option Int} {f : DashboardFinding} :
    dashboardFindingFromRaw time db r now pageGeneration = .ok f ↔
      ∃ evidence, loadFindingEvidence db r.kind r.host r.subject r.lastSeenGen = .ok evidence ∧
        f = dashboardFinding time db r now pageGeneration evidence := by
  unfold dashboardFindingFromRaw
  rw [Sql.bind_ok]
  exact exists_congr fun evidence => and_congr_right fun _ =>
    ⟨fun h => (Except.ok.inj h).symm, fun h => congrArg _ h.symm⟩

section

variable {r : WarningRow} {pageGeneration : Option Int} {f : DashboardFinding}
  (hf : dashboardFindingFromRaw time db r now pageGeneration = .ok f)
include hf

theorem row_of_raw : f.findingKey = r.id.key ∧ f.row = r := by
  obtain ⟨evidence, -, rfl⟩ := dashboardFindingFromRaw_ok.mp hf
  exact ⟨rfl, rfl⟩

theorem displayStale_of_raw :
    f.displayStale = observationIsStale (timestampAgeSeconds time now (observationTime db r)) := by
  obtain ⟨evidence, -, rfl⟩ := dashboardFindingFromRaw_ok.mp hf
  rfl

theorem status_of_joined (h : Joined db r pageGeneration) :
    f.status = classifyFindingStatus r.basisState r.visibilityState
    r.absentGens r.stability (observationIsStale (timestampAgeSeconds time now (observationTime db r))) := by
  obtain ⟨evidence, hload, rfl⟩ := dashboardFindingFromRaw_ok.mp hf
  exact if_neg (not_not_intro ((coherent_iff hload).mpr h))

theorem status_of_not_joined (h : ¬Joined db r pageGeneration) : f.status = .unknown := by
  obtain ⟨evidence, hload, rfl⟩ := dashboardFindingFromRaw_ok.mp hf
  exact if_pos fun hnil => h ((coherent_iff hload).mp hnil)

end

theorem ongoing_iff {r : WarningRow} {displayStale : Bool} :
    classifyFindingStatus r.basisState r.visibilityState r.absentGens r.stability displayStale = .ongoing ↔
      r.basisState = .live ∧ r.visibilityState = .observed ∧ displayStale = false ∧ r.absentGens ≤ 0 ∧
        r.stability ≠ some .recovering := by
  unfold classifyFindingStatus
  cases r.basisState <;> cases r.visibilityState <;> cases displayStale <;> simp

/-- A finding is ongoing where all its records are of the page's generation, and it is
    observed, present, on a live basis and recent. -/
theorem shown_ongoing_iff {r : WarningRow} {pageGeneration : Option Int} {f : DashboardFinding}
    (hf : dashboardFindingFromRaw time db r now pageGeneration = .ok f) :
    f.status = .ongoing ↔ Joined db r pageGeneration ∧ r.basisState = .live ∧ r.visibilityState = .observed ∧
      Recent time now (observationTime db r) ∧ r.absentGens ≤ 0 ∧ r.stability ≠ some .recovering := by
  by_cases h : Joined db r pageGeneration
  · rw [status_of_joined hf h, ongoing_iff, observationIsStale_eq_false]
    exact ⟨fun hs => ⟨h, hs⟩, fun hs => hs.2⟩
  · rw [status_of_not_joined hf h]
    exact ⟨fun hs => (nomatch hs), fun hs => absurd hs.1 h⟩

theorem loadBasis_ok {basis : DashboardBasis} (h : loadBasis time db now = .ok basis) :
    basis.generationId = db.maxGeneration := by
  unfold loadBasis at h
  obtain ⟨loadedAt, -, h⟩ := Sql.bind_ok.mp h
  unfold Db.maxGeneration
  cases hlatest : db.latestGeneration with
  | none => rw [hlatest] at h; cases h; rfl
  | some g => rw [hlatest] at h; cases h; rfl

variable {fs : List DashboardFinding}

theorem mem_loadCurrentFindings {pageGeneration : Option Int}
    (h : loadCurrentFindings time db now pageGeneration = .ok fs) {f : DashboardFinding} :
    f ∈ fs ↔ ∃ r ∈ db.warningState.rows, dashboardFindingFromRaw time db r now pageGeneration = .ok f := by
  rw [Collections.mem_of_mapM h]
  exact exists_congr fun r => and_congr_left fun _ => (perm_insertionSort _ _).mem_iff

/-- The overview shows every row, under one of its two headings. -/
theorem mem_overview {overview : DashboardOverview} (h : loadDashboardOverview time db now = .ok overview)
    {f : DashboardFinding} : f ∈ overview.monitoredFindings ∨ f ∈ overview.nqSelfHealth ↔
      ∃ r ∈ db.warningState.rows, dashboardFindingFromRaw time db r now db.maxGeneration = .ok f := by
  unfold loadDashboardOverview at h
  obtain ⟨basis, hbasis, h⟩ := Sql.bind_ok.mp h
  obtain ⟨findings, hfindings, h⟩ := Sql.bind_ok.mp h
  cases h
  rw [← loadBasis_ok hbasis, ← mem_loadCurrentFindings hfindings, mem_filter, mem_filter, ← and_or_left]
  refine ⟨fun h => h.1, fun h => ⟨h, ?_⟩⟩
  cases f.scope <;> simp

/-- A row is found by its key, which no other row has. -/
theorem find_current {pageGeneration : Option Int} (h : loadCurrentFindings time db now pageGeneration = .ok fs)
    {r : WarningRow} (hr : r ∈ db.warningState.rows) :
    ∃ f, dashboardFindingFromRaw time db r now pageGeneration = .ok f ∧
      fs.find? (·.findingKey = r.id.key) = some f := by
  obtain ⟨f, hf⟩ := Collections.mapM_answers.mp ⟨fs, h⟩ r ((perm_insertionSort _ _).mem_iff.mpr hr)
  refine ⟨f, hf, ?_⟩
  cases hfind : fs.find? (·.findingKey = r.id.key) with
  | none =>
    have hother := find?_eq_none.mp hfind f ((mem_loadCurrentFindings h).mpr ⟨r, hr, hf⟩)
    exact absurd (decide_eq_true (row_of_raw hf).1) hother
  | some f' =>
    obtain ⟨r', hr', hf'⟩ := (mem_loadCurrentFindings h).mp (mem_of_find?_eq_some hfind)
    have hfound := find?_some hfind
    have hkey : r'.id.key = r.id.key := (row_of_raw hf').1.symm.trans (of_decide_eq_true hfound)
    have hget := Table.get_of_mem hr'
    rw [FindingId.key_inj hkey, Table.get_of_mem hr] at hget
    cases Option.some.inj hget
    rw [hf] at hf'
    rw [Except.ok.inj hf']

/-! ## When the findings load -/

/-- Both counts of the row's log source sum up, from the newest generation of its window on, to
    64-bit integers. -/
def BaselineFits (db : Db) (r : WarningRow) : Prop :=
  ∀ c, db.logObservationsCurrent.get (r.host, r.subject) = some c → c.asOfGeneration = r.lastSeenGen →
    ∀ count ∈ [LogObsRow.linesError, LogObsRow.linesTotal], ∀ counts, counts <+:
      baselineCounts db r.lastSeenGen c count → Sql.FitsI64 counts.sum

theorem loadErrorShiftEvidence_answers {r : WarningRow} :
    (∃ evidence, loadErrorShiftEvidence db r.host r.subject r.lastSeenGen = .ok evidence) ↔ BaselineFits db r := by
  unfold loadErrorShiftEvidence BaselineFits
  cases hget : db.logObservationsCurrent.get (r.host, r.subject) with
  | none => simp
  | some c =>
    by_cases hgen : c.asOfGeneration = r.lastSeenGen
    · rw [Option.filter_some, if_pos (decide_eq_true hgen)]
      simp only [Option.some.injEq, forall_eq', hgen, forall_const, forall_mem_cons, not_mem_nil, false_implies,
        and_true, ← Sql.sumI64_ok_iff]
      constructor
      · rintro ⟨evidence, h⟩
        obtain ⟨errors, herrors, h⟩ := Sql.bind_ok.mp h
        obtain ⟨messages, hmessages, -⟩ := Sql.bind_ok.mp h
        exact ⟨⟨errors, herrors⟩, messages, hmessages⟩
      · rintro ⟨⟨errors, herrors⟩, messages, hmessages⟩
        exact ⟨_, Sql.bind_ok.mpr ⟨errors, herrors, Sql.bind_ok.mpr ⟨messages, hmessages, rfl⟩⟩⟩
    · rw [Option.filter_some, if_neg (by simp [hgen])]
      simp [hgen]

/-- The findings load when the baselines of all error shifts do. -/
theorem loadCurrentFindings_answers {pageGeneration : Option Int} :
    (∃ fs, loadCurrentFindings time db now pageGeneration = .ok fs) ↔
      ∀ r ∈ db.warningState.rows, r.kind = "error_shift" → BaselineFits db r := by
  have hraw : ∀ r, (∃ f, dashboardFindingFromRaw time db r now pageGeneration = .ok f) ↔
      (r.kind = "error_shift" → BaselineFits db r) := by
    intro r
    have hevidence : (∃ f, dashboardFindingFromRaw time db r now pageGeneration = .ok f) ↔
        ∃ evidence, loadFindingEvidence db r.kind r.host r.subject r.lastSeenGen = .ok evidence := by
      constructor
      · rintro ⟨f, hf⟩
        obtain ⟨evidence, h, -⟩ := dashboardFindingFromRaw_ok.mp hf
        exact ⟨evidence, h⟩
      · rintro ⟨evidence, h⟩
        exact ⟨_, dashboardFindingFromRaw_ok.mpr ⟨evidence, h, rfl⟩⟩
    rw [hevidence, loadFindingEvidence]
    by_cases hshift : r.kind = "error_shift"
    · rw [if_pos hshift, loadErrorShiftEvidence_answers]
      exact ⟨fun h _ => h, fun h => h hshift⟩
    · rw [if_neg hshift]
      refine ⟨fun _ h => absurd h hshift, fun _ => ?_⟩
      by_cases hsmart : r.kind = "smart_status_lies"
      · rw [if_pos hsmart]
        exact ⟨_, rfl⟩
      · rw [if_neg hsmart]
        exact ⟨_, rfl⟩
  rw [loadCurrentFindings, Collections.mapM_answers]
  constructor
  · intro h r hr
    exact (hraw r).mp (h r ((perm_insertionSort _ _).mem_iff.mpr hr))
  · intro h r hr
    exact (hraw r).mpr (h r ((perm_insertionSort _ _).mem_iff.mp hr))

end

end Nq.Dashboard
