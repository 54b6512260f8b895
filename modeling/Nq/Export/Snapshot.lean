/-
  Nq.Export.Snapshot — the finding export (`nq-db/src/export.rs`).

  An export reads the newest generation first and the rows of `warning_state` after it,
  each in a statement of its own: `generationContext`, then `exportRows`. The filter by
  `finding_key` is in Nq.Export.Key. The regime, observation and coverage payloads of a
  snapshot, which none of the filters reads, are left out.
-/

import Nq.Detect.Views
import Nq.Preflight.DiskState

namespace Nq.Export

/-! ## The filter -/

structure ExportFilter where
  changedSinceGeneration : Option Int := none
  detector : Option String := none
  host : Option String := none
  includeCleared : Bool := false
  includeSuppressed : Bool := false

/-- The WHERE clause. -/
def ExportFilter.selects (filter : ExportFilter) (r : WarningRow) : Bool :=
  filter.host.all (r.host = ·) && filter.detector.all (r.kind = ·) &&
    filter.changedSinceGeneration.all (· < r.lastSeenGen) &&
    (filter.includeSuppressed || r.visibilityState ≠ .suppressed) && (filter.includeCleared || 1 ≤ r.consecutiveGens)

/-! ## Snapshots -/

inductive ConditionState where
  | suppressed | open_ | clear
  deriving DecidableEq, Repr

def deriveConditionState (r : WarningRow) : ConditionState :=
  if r.visibilityState = .suppressed then .suppressed
  else if r.consecutiveGens ≥ 1 ∧ r.absentGens = 0 then .open_
  else if r.consecutiveGens = 0 ∧ r.absentGens ≥ 1 then .clear
  else .open_

inductive AdmissibilityReason where
  | testimonyDependency | operationalDeclaration | lifecycle | none_
  deriving DecidableEq, Repr

structure AdmissibilityExport where
  state : Preflight.AdmissibilityState
  reason : AdmissibilityReason
  ancestorFindingKey : Option String
  declarationId : Option String
  deriving DecidableEq

/-- The state and the ancestor are those of the preflight's reading of the export. -/
def buildAdmissibility (ws : WarningState) (r : WarningRow) : AdmissibilityExport :=
  let a := Preflight.buildAdmissibility ws r
  { state := a.state
    reason := match a.state with
      | .observable => .none_
      | .suppressedByDeclaration => .operationalDeclaration
      | .suppressedByAncestor => if r.suppressionReason.isSome then .testimonyDependency else .lifecycle
    ancestorFindingKey := a.ancestorFindingKey
    declarationId := match a.state with
      | .suppressedByDeclaration => r.suppressionDeclarationId
      | _ => none }

/-- The newest generation and its row; `generation_id` is 0 before the first. -/
structure GenerationContext where
  generationId : Int
  row : Option GenerationRow
  deriving DecidableEq

def generationContext (db : Db) : GenerationContext :=
  ⟨db.maxGeneration.getD 0, db.latestGeneration⟩

structure FindingSnapshot where
  findingKey : String
  identity : FindingId
  ruleHash : Option String
  severity : String
  firstSeenGen : Int
  firstSeenAt : String
  lastSeenGen : Int
  lastSeenAt : String
  consecutiveGens : Int
  absentGens : Int
  visibilityState : Visibility
  conditionState : ConditionState
  findingClass : String
  stability : Option Stability
  peakValue : Option Sql.F64
  generation : GenerationContext
  changedSince : Option Int
  admissibility : AdmissibilityExport
  maintenance : Option (MaintenanceState × String)
  originMode : OriginMode
  deriving DecidableEq

def snapshot (ws : WarningState) (ctx : GenerationContext) (filter : ExportFilter)
    (r : WarningRow) : FindingSnapshot where
  findingKey := r.id.key
  identity := r.id
  ruleHash := r.ruleHash
  severity := r.severity
  firstSeenGen := r.firstSeenGen
  firstSeenAt := r.firstSeenAt
  lastSeenGen := r.lastSeenGen
  lastSeenAt := r.lastSeenAt
  consecutiveGens := r.consecutiveGens
  absentGens := r.absentGens
  visibilityState := r.visibilityState
  conditionState := deriveConditionState r
  findingClass := r.findingClass
  stability := r.stability
  peakValue := r.peakValue
  generation := ctx
  changedSince := filter.changedSinceGeneration
  admissibility := buildAdmissibility ws r
  maintenance := if r.maintenanceState ≠ .none_ then r.maintenanceId.map (r.maintenanceState, ·) else none
  originMode := r.originMode

/-- `ORDER BY host, kind, subject`. -/
def byIdentity (a b : WarningRow) : Prop := a.host < b.host ∨ a.host = b.host ∧ Preflight.byKindSubject a b

instance : DecidableRel byIdentity := fun a b =>
  inferInstanceAs (Decidable (a.host < b.host ∨ a.host = b.host ∧ Preflight.byKindSubject a b))

/-- The rows, read after the generation `ctx`. -/
def exportRows (db : Db) (ctx : GenerationContext) (filter : ExportFilter) : List FindingSnapshot :=
  ((db.warningState.rows.filter filter.selects).insertionSort byIdentity).map (snapshot db.warningState ctx filter)

/-- `export_findings`, with nothing written between its statements. -/
def exportFindings (db : Db) (filter : ExportFilter) : List FindingSnapshot :=
  exportRows db (generationContext db) filter

theorem mem_exportRows {db : Db} {ctx : GenerationContext} {filter : ExportFilter} {s : FindingSnapshot} :
    s ∈ exportRows db ctx filter ↔
      ∃ r ∈ db.warningState.rows, filter.selects r = true ∧ snapshot db.warningState ctx filter r = s := by
  unfold exportRows
  rw [List.mem_map]
  constructor
  · rintro ⟨r, hr, hs⟩
    obtain ⟨hrow, hsel⟩ := List.mem_filter.mp ((List.perm_insertionSort _ _).mem_iff.mp hr)
    exact ⟨r, hrow, hsel, hs⟩
  · rintro ⟨r, hrow, hsel, hs⟩
    exact ⟨r, (List.perm_insertionSort _ _).mem_iff.mpr (List.mem_filter.mpr ⟨hrow, hsel⟩), hs⟩

end Nq.Export
