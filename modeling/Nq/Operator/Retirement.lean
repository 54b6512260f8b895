/-
  Nq.Operator.Retirement — withdrawing a source of evidence (`nq-db/src/source_retirement.rs`).

  `retire_source` puts the source into `sources_retired`, moves every finding it backs to
  basis `retired` and leaves one audit row per finding; `unretire_source` takes the source
  out again and moves those findings to `unknown`, never to `live`. Each is one transaction
  of statements no constraint can refuse.

  - `get_retireSource`, `get_unretireSource`: what each leaves under a key;
  - `retired_retireSource`, `retired_unretireSource`: which sources are retired then.
-/

import Nq.Lifecycle.Work

namespace Nq

open Sql (Table)

def BasisState.asStr : BasisState → String
  | .live => "live"
  | .stale => "stale"
  | .retired => "retired"
  | .invalidated => "invalidated"
  | .unknown => "unknown"

structure RetireStats where
  sourceId : String
  findingsTransitioned : Nat
  newlyRetired : Bool
  deriving DecidableEq, Repr

structure UnretireStats where
  sourceId : String
  findingsTransitioned : Nat
  wasRetired : Bool
  deriving DecidableEq, Repr

/-- WHERE basis_source_id = ?1 AND basis_state <> 'retired'. -/
def WarningRow.doomed (source : String) (r : WarningRow) : Bool :=
  r.basisSourceId = some source && r.basisState ≠ .retired

/-- WHERE basis_source_id = ?1 AND basis_state = 'retired'. -/
def WarningRow.revived (source : String) (r : WarningRow) : Bool :=
  r.basisSourceId = some source && r.basisState = .retired

def WarningRow.retire (source now : String) (r : WarningRow) : WarningRow :=
  if r.doomed source then { r with basisState := .retired, basisStateAt := some now } else r

def WarningRow.unretire (source now : String) (r : WarningRow) : WarningRow :=
  if r.revived source then { r with basisState := .unknown, basisStateAt := some now } else r

theorem id_retire (source now : String) (r : WarningRow) : (r.retire source now).id = r.id := by
  unfold WarningRow.retire; split <;> rfl

theorem id_unretire (source now : String) (r : WarningRow) : (r.unretire source now).id = r.id := by
  unfold WarningRow.unretire; split <;> rfl

def retireEntry (reason actor now : String) (r : WarningRow) : TransitionRow :=
  ⟨r.id, r.basisState.asStr, "retired", some actor, some ("source retired: " ++ reason), now⟩

def unretireEntry (actor now : String) (r : WarningRow) : TransitionRow :=
  ⟨r.id, "retired", "unknown", some actor, some "source unretired", now⟩

/-- A source already retired keeps its receipt (ON CONFLICT DO NOTHING). -/
def retireSource (db : Db) (sourceId reason actor now : String) : Db × RetireStats :=
  let inserted := db.sourcesRetired.insert? ⟨sourceId, now, reason, actor⟩
  let doomed := db.warningState.rows.filter (·.doomed sourceId)
  ({ db with
      sourcesRetired := inserted.getD db.sourcesRetired
      findingTransitions := db.findingTransitions ++ doomed.map (retireEntry reason actor now)
      warningState := db.warningState.update (·.retire sourceId now) (id_retire sourceId now) },
    ⟨sourceId, doomed.length, inserted.isSome⟩)

def unretireSource (db : Db) (sourceId actor now : String) : Db × UnretireStats :=
  let revived := db.warningState.rows.filter (·.revived sourceId)
  ({ db with
      sourcesRetired := db.sourcesRetired.deleteKey sourceId
      findingTransitions := db.findingTransitions ++ revived.map (unretireEntry actor now)
      warningState := db.warningState.update (·.unretire sourceId now) (id_unretire sourceId now) },
    ⟨sourceId, revived.length, (db.sourcesRetired.get sourceId).isSome⟩)

/-! ## What they leave under a key -/

section

variable (db : Db) (source reason actor now : String) (k : FindingId) (s : String)

theorem get_retireSource : (retireSource db source reason actor now).1.warningState.get k =
    (db.warningState.get k).map (·.retire source now) :=
  Table.get_update db.warningState _ (id_retire source now) k

theorem get_unretireSource :
    (unretireSource db source actor now).1.warningState.get k = (db.warningState.get k).map (·.unretire source now) :=
  Table.get_update db.warningState _ (id_unretire source now) k

theorem retired_retireSource : ((retireSource db source reason actor now).1.sourcesRetired.get s).isSome =
    (decide (s = source) || (db.sourcesRetired.get s).isSome) := by
  simp only [retireSource]
  cases hi : db.sourcesRetired.insert? ⟨source, now, reason, actor⟩ with
  | some t =>
    rw [Option.getD_some, (Table.insert?_eq_some hi).2 s]
    by_cases e : s = source <;> simp [e]
  | none =>
    have hsome : (db.sourcesRetired.get source).isSome = true := by
      have := mt Table.insert?_isSome.mpr (by rw [hi]; simp)
      exact Option.isSome_iff_ne_none.mpr this
    rw [Option.getD_none]
    by_cases e : s = source <;> simp [e, hsome]

theorem retired_unretireSource : ((unretireSource db source actor now).1.sourcesRetired.get s).isSome =
    (decide (s ≠ source) && (db.sourcesRetired.get s).isSome) := by
  simp only [unretireSource, Table.get_deleteKey]
  by_cases e : s = source <;> simp [e]

end

end Nq
