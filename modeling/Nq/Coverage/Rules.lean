/-
  Nq.Coverage.Rules — declared expectation of testimony
  (`nq-db/src/coverage_rules.rs`, migration 051): the declaration file, its validation,
  the table, and the reconciliation of one with the other.

  A rule whose hash an open row (`valid_until IS NULL`) carries is left alone; an open
  row whose rule changed or went away gets `valid_until` = now; what has no open row
  of its own is inserted. All in one transaction.

  Parameters: `rfc3339` (RFC3339 parsing), `fmt` (RFC3339 formatting of a clock
  reading) and `hash` (`compute_coverage_rule_hash`: JCS and SHA-256 over the defining
  fields). A `HashMap` iterates, and a SELECT without ORDER BY answers, in an order of
  its own (`ScanOrder`).
-/

import Nq.Db.Schema

namespace Nq.Coverage

open List
open Sql (F64 Table)

/-! ## Declarations -/

structure RuleKey where
  componentId : String
  subjectId : String
  claimKind : String
  deriving DecidableEq, Repr

/-- The defining fields of a rule: what the hash is taken over. -/
structure CoverageRuleHashable where
  componentId : String
  subjectId : String
  claimKind : String
  expectedIntervalS : UInt32
  graceMultiplier : F64
  coverageStart : String
  validUntil : Option String
  standingResolverId : String
  escalationTarget : String
  declaredBy : String
  declaredAt : String
  deriving DecidableEq

structure CoverageRuleDecl extends CoverageRuleHashable where
  notes : Option String := none
  deriving DecidableEq

def CoverageRuleHashable.key (d : CoverageRuleHashable) : RuleKey := ⟨d.componentId, d.subjectId, d.claimKind⟩

/-- What reading the configured path gave. -/
inductive FileRead where
  | notConfigured
  | notFound (path : String)
  | readFailed (path reason : String)
  | parseFailed (path reason : String)
  | parsed (coverageRules : List CoverageRuleDecl)

structure InvalidCoverageRule where
  identification : Option String
  reason : String
  deriving DecidableEq, Repr

inductive LoadOutcome where
  | disabled
  | missing (path : String)
  | unreadable (path reason : String)
  | loaded (valid : List CoverageRuleDecl) (invalid : List InvalidCoverageRule)

section Loader

variable (rfc3339 : String → Except String Int)

/-- The hard invariants of one rule, first failure wins. -/
def validate (d : CoverageRuleDecl) : Except String Unit := do
  if d.componentId = "" then throw "component_id is empty"
  if d.subjectId = "" then throw "subject_id is empty"
  if d.claimKind = "" then throw "claim_kind is empty"
  if d.expectedIntervalS = 0 then throw "expected_interval_s must be > 0"
  if !(d.graceMultiplier.isFinite && d.graceMultiplier.ge 1) then
    throw "grace_multiplier must be a finite real >= 1.0"
  if d.standingResolverId = "" then throw "standing_resolver_id is empty"
  if d.escalationTarget = "" then throw "escalation_target is empty"
  if d.declaredBy = "" then throw "declared_by is empty"
  let coverageStart ← (rfc3339 d.coverageStart).mapError ("coverage_start invalid RFC3339: " ++ ·)
  let _ ← (rfc3339 d.declaredAt).mapError ("declared_at invalid RFC3339: " ++ ·)
  match d.validUntil with
  | some vu =>
    let parsed ← (rfc3339 vu).mapError ("valid_until invalid RFC3339: " ++ ·)
    if parsed ≤ coverageStart then throw "valid_until must be after coverage_start"
  | none => pure ()

def RuleKey.identification (k : RuleKey) : String := k.componentId ++ "/" ++ k.subjectId ++ "/" ++ k.claimKind

/-- The loader's loop: a key seen before is a duplicate, whether or not its first
    entry was valid. -/
def sortRules : List RuleKey → List CoverageRuleDecl → List CoverageRuleDecl × List InvalidCoverageRule
  | _, [] => ([], [])
  | seen, d :: ds =>
    if d.key ∈ seen then
      let rest := sortRules seen ds
      (rest.1, ⟨some d.key.identification,
        "duplicate (component_id, subject_id, claim_kind) in declarations"⟩ :: rest.2)
    else
      let rest := sortRules (d.key :: seen) ds
      match validate rfc3339 d with
      | .ok () => (d :: rest.1, rest.2)
      | .error reason => (rest.1, ⟨some d.key.identification, reason⟩ :: rest.2)

def loadCoverageRules : FileRead → LoadOutcome
  | .notConfigured => .disabled
  | .notFound path => .missing path
  | .readFailed path reason => .unreadable path ("read failed: " ++ reason)
  | .parseFailed path reason => .unreadable path ("parse failed: " ++ reason)
  | .parsed ds => let r := sortRules rfc3339 [] ds; .loaded r.1 r.2

/-- A list of rules the loader can return as valid. -/
def Accepted (decls : List CoverageRuleDecl) : Prop :=
  ∃ ds invalid, loadCoverageRules rfc3339 (.parsed ds) = .loaded decls invalid

end Loader

/-! ## The table -/

/-- A row of `coverage_rules`: the declared columns (`valid_until` among them) and the hash. -/
structure CoverageRow where
  coverageRuleId : Int
  rule : CoverageRuleDecl
  coverageRuleHash : String
  deriving DecidableEq

def CoverageRow.key (r : CoverageRow) : RuleKey := r.rule.key

/-- `valid_until IS NULL`. -/
def CoverageRow.isOpen (r : CoverageRow) : Bool := r.rule.validUntil.isNone

def CoverageRow.endAt (iso : String) (r : CoverageRow) : CoverageRow :=
  { r with rule := { r.rule with validUntil := some iso } }

/-- The CHECK clauses; the last one compares texts. -/
def CoverageRuleDecl.check (d : CoverageRuleDecl) : Bool :=
  decide (0 < d.expectedIntervalS) && d.graceMultiplier.ge 1 && d.validUntil.all (d.coverageStart < ·)

/-- `coverage_rules` with its CHECK clauses and its partial unique index: no two open
    rows for one key. -/
structure CoverageRules where
  table : Table CoverageRow.coverageRuleId
  checked : ∀ r ∈ table.rows, r.rule.check = true
  unique : ((table.rows.filter CoverageRow.isOpen).map CoverageRow.key).Nodup

namespace CoverageRules

def rows (t : CoverageRules) : List CoverageRow := t.table.rows

def empty : CoverageRules := ⟨.empty, fun _ h => (nomatch h), nodup_nil⟩

end CoverageRules

def endKey (id : Int) (iso : String) (r : CoverageRow) : CoverageRow := if r.coverageRuleId = id then r.endAt iso else r

theorem endKey_id (id : Int) (iso : String) (r : CoverageRow) :
    (endKey id iso r).coverageRuleId = r.coverageRuleId := by
  unfold endKey; split <;> rfl

theorem endKey_key (id : Int) (iso : String) (r : CoverageRow) : (endKey id iso r).key = r.key := by
  unfold endKey; split <;> rfl

theorem isOpen_of_endKey {id : Int} {iso : String} {r : CoverageRow} (h : (endKey id iso r).isOpen = true) :
    r.isOpen = true := by
  unfold endKey at h
  split at h
  · simp [CoverageRow.endAt, CoverageRow.isOpen] at h
  · exact h

/-- Ending rows opens none, so the open keys stay distinct. -/
theorem unique_endKey (id : Int) (iso : String) {rows : List CoverageRow}
    (h : ((rows.filter CoverageRow.isOpen).map CoverageRow.key).Nodup) :
    (((rows.map (endKey id iso)).filter CoverageRow.isOpen).map CoverageRow.key).Nodup := by
  rw [filter_map, map_map]
  have hkey : CoverageRow.key ∘ endKey id iso = CoverageRow.key := funext (endKey_key id iso)
  rw [hkey]
  have hsub : List.Sublist (rows.filter (CoverageRow.isOpen ∘ endKey id iso)) (rows.filter CoverageRow.isOpen) := by
    have : rows.filter (CoverageRow.isOpen ∘ endKey id iso) =
        (rows.filter CoverageRow.isOpen).filter (CoverageRow.isOpen ∘ endKey id iso) := by
      rw [filter_filter]
      refine filter_congr fun r _ => ?_
      cases ho : (CoverageRow.isOpen ∘ endKey id iso) r with
      | false => rfl
      | true => simp [isOpen_of_endKey ho]
    rw [this]
    exact filter_sublist
  exact (hsub.map _).nodup h

/-- UPDATE coverage_rules SET valid_until = iso WHERE coverage_rule_id = id. -/
def setValidUntil (t : CoverageRules) (id : Int) (iso : String) : Except DbError CoverageRules :=
  if h : ∀ r ∈ t.rows.map (endKey id iso), r.rule.check = true then
    .ok { table := t.table.update (endKey id iso) (endKey_id id iso), checked := h
          unique := unique_endKey id iso t.unique }
  else .error .checkViolation

/-- A declared rule and its hash: an entry of the `declared` map. -/
structure RuleEntry where
  decl : CoverageRuleDecl
  hash : String
  deriving DecidableEq

def RuleEntry.key (e : RuleEntry) : RuleKey := e.decl.key

def RuleEntry.row (e : RuleEntry) (id : Int) : CoverageRow := ⟨id, e.decl, e.hash⟩

def insertRule (t : CoverageRules) (e : RuleEntry) : Except DbError CoverageRules :=
  if hc : e.decl.check = true then
    if hu : e.decl.validUntil = none → ∀ r ∈ t.rows, r.isOpen = true → r.key ≠ e.key then
      .ok
        { table := t.table.append (e.row t.table.nextRowid) t.table.get_nextRowid
          checked := by
            intro r hr
            rcases mem_append.mp hr with hr | hr
            · exact t.checked r hr
            · rw [mem_singleton.mp hr]; exact hc
          unique := by
            show (((t.rows ++ [e.row _]).filter CoverageRow.isOpen).map CoverageRow.key).Nodup
            rw [filter_append, map_append, nodup_append]
            refine ⟨t.unique, ?_, ?_⟩
            · cases ho : CoverageRow.isOpen (e.row t.table.nextRowid) <;> simp [ho]
            · intro a ha b hb hab
              obtain ⟨r, hr, rfl⟩ := List.mem_map.mp ha
              obtain ⟨n, hn, rfl⟩ := List.mem_map.mp hb
              obtain ⟨hr, hro⟩ := mem_filter.mp hr
              obtain ⟨hn, hno⟩ := mem_filter.mp hn
              rw [mem_singleton.mp hn] at hab hno
              exact hu (by simpa [CoverageRow.isOpen, RuleEntry.row] using hno) r hr hro hab }
    else .error .uniqueViolation
  else .error .checkViolation

/-! ## Reconciliation -/

/-- The order in which a container yields its elements. -/
structure ScanOrder (α : Type) where
  list : List α → List α
  perm : ∀ l, (list l).Perm l

def ScanOrder.asIs {α : Type} : ScanOrder α := ⟨id, fun l => List.Perm.refl l⟩

inductive ReconcileError where
  | hash (reason : String)
  | db (e : DbError)
  | format (reason : String)
  deriving DecidableEq, Repr

structure ReconcileSummary where
  inserted : Nat := 0
  retired : Nat := 0
  superseded : Nat := 0
  unchanged : Nat := 0
  deriving DecidableEq, Repr

structure ReconcileCall where
  decls : List CoverageRuleDecl
  now : Int
  activeOrder : ScanOrder CoverageRow := .asIs
  declaredOrder : ScanOrder RuleEntry := .asIs

section Reconcile

variable (hash : CoverageRuleHashable → Except String String) (fmt : Int → Except String String)

/-- `declared.insert`: a later rule for a key takes the entry over. -/
def declaredInsert (m : List RuleEntry) (d : CoverageRuleDecl) : Except ReconcileError (List RuleEntry) := do
  let h ← (hash d.toCoverageRuleHashable).mapError ReconcileError.hash
  return m.filter (·.key ≠ d.key) ++ [⟨d, h⟩]

/-- `declared.get`. -/
def declaredGet (m : List RuleEntry) (k : RuleKey) : Option RuleEntry := m.find? (·.key = k)

def reconcileRow (m : List RuleEntry) (iso : String) (st : CoverageRules × ReconcileSummary) (r : CoverageRow) :
    Except ReconcileError (CoverageRules × ReconcileSummary) :=
  match declaredGet m r.key with
  | some e =>
    if e.hash = r.coverageRuleHash then .ok (st.1, { st.2 with unchanged := st.2.unchanged + 1 })
    else do
      let t ← (setValidUntil st.1 r.coverageRuleId iso).mapError ReconcileError.db
      let t ← (insertRule t e).mapError ReconcileError.db
      return (t, { st.2 with superseded := st.2.superseded + 1, inserted := st.2.inserted + 1 })
  | none => do
    let t ← (setValidUntil st.1 r.coverageRuleId iso).mapError ReconcileError.db
    return (t, { st.2 with retired := st.2.retired + 1 })

def insertMissing (activeKeys : List RuleKey) (st : CoverageRules × ReconcileSummary) (e : RuleEntry) :
    Except ReconcileError (CoverageRules × ReconcileSummary) :=
  if e.key ∈ activeKeys then .ok st
  else do
    let t ← (insertRule st.1 e).mapError ReconcileError.db
    return (t, { st.2 with inserted := st.2.inserted + 1 })

def reconcileCoverageRules (t : CoverageRules) (c : ReconcileCall) :
    Except ReconcileError (CoverageRules × ReconcileSummary) := do
  let declared ← c.decls.foldlM (declaredInsert hash) []
  let active := c.activeOrder.list (t.rows.filter CoverageRow.isOpen)
  let iso ← (fmt c.now).mapError ReconcileError.format
  let st ← active.foldlM (reconcileRow declared iso) (t, {})
  (c.declaredOrder.list declared).foldlM (insertMissing (active.map CoverageRow.key)) st

end Reconcile

end Nq.Coverage
