/-
  Nq.Detect.Views — what the detectors read: the views over the current-state tables
  (`migrations/002_stable_views.sql`, `003_warning_lifecycle.sql`) and what they take from
  outside the database.

  REAL arithmetic, the date functions, and the execution of a saved query are SQLite's
  and Rust's, not this code's: they are parameters (`Arith`, `CheckRunner`). Of a saved check
  it is assumed that it only reads: `query` gives its rows and no new database, though the
  check runs on the write connection, where a `WITH … DELETE` would write. Nothing else is
  assumed of them.
-/

import Nq.Db.Schema
import Nq.Sql.Query

namespace Nq

open Sql (F64 Table firstBy)

/-! ## Parameters -/

/-- Doubles and dates. -/
structure Arith where
  ofInt : Int → F64
  add : F64 → F64 → F64
  mul : F64 → F64 → F64
  div : F64 → F64 → F64
  /-- `ROUND(x, n)`. -/
  round : F64 → Nat → F64
  /-- `AVG` over the values that are not NULL; NULL over none. -/
  avg : List F64 → Option F64
  /-- `CAST((julianday(a) - julianday(b)) * 86400 AS INTEGER)`. -/
  elapsedS : String → String → Option Int
  /-- `julianday(a) > julianday(b)`. -/
  later : String → String → Bool

/-- What running a saved check's text and reading its cells takes. -/
structure CheckRunner where
  /-- Preparing the text fails, or gives rows that may each fail to decode. -/
  query : Db → String → Except String (List (Except String (List String)))
  /-- `sql.trim().to_uppercase()`. -/
  normalize : String → String
  /-- `cell.parse::<f64>().ok()`. -/
  parseF64 : String → Option F64
  /-- `{:?}` of the threshold and of the column. -/
  debugThreshold : Option F64 → String
  debugColumn : Option String → String

/-- `julianday('now')` in each statement that reads it. -/
structure DetectClock where
  pinnedWal : String
  zfsScrub : String
  zfsWitness : String
  smartWitness : String

structure Env where
  arith : Arith
  checks : CheckRunner
  clock : DetectClock

structure DetectorConfig where
  walPctThreshold : F64 := 5
  walAbsFloorMb : F64 := 256
  walSmallDbMb : F64 := 5120
  freelistPctThreshold : F64 := 20
  freelistAbsFloorMb : F64 := 1024
  staleGenerations : Int := 2
  pinnedWalFloorMb : F64 := 256
  pinnedWalStallSeconds : Int := 21600

/-- A column of the row that is NULL where the detector reads a value. -/
inductive DetectError where
  | nullColumn (name : String)
  deriving DecidableEq, Repr

def column {α : Type} (name : String) : Option α → Except DetectError α
  | some x => .ok x
  | none => .error (.nullColumn name)

/-! ## Generations -/

/-- `ORDER BY generation_id DESC LIMIT 1`. -/
def Db.latestGeneration (db : Db) : Option GenerationRow :=
  firstBy (fun a b => b.generationId < a.generationId) db.generations.rows

/-- `MAX(generation_id)`. -/
def Db.maxGeneration (db : Db) : Option Int := db.latestGeneration.map GenerationRow.generationId

/-- `generation_id >= MAX(generation_id) - 12`. -/
def Db.inWindow (db : Db) (g : Int) : Bool := db.maxGeneration.any fun m => m - 12 ≤ g

/-- `COUNT(DISTINCT generation_id)` of a history table. -/
def generationCount {α : Type} (rows : List (History α)) : Nat := (Sql.groups History.generationId rows).length

/-! ## Views -/

/-- A current row beside the latest generation. -/
structure Viewed (α : Type) where
  row : Current α
  generationsBehind : Int
  ageS : Option Int
  isStale : Bool

def Db.viewed {α : Type} (db : Db) (arith : Arith) (rows : List (Current α)) : List (Viewed α) :=
  match db.latestGeneration with
  | none => []
  | some g => rows.map fun c =>
      { row := c
        generationsBehind := g.generationId - c.asOfGeneration
        ageS := arith.elapsedS g.completedAt c.collectedAt
        isStale := g.generationId - c.asOfGeneration > 2 }

def Db.vHosts (db : Db) (arith : Arith) : List (Viewed HostRow) := db.viewed arith db.hostsCurrent.rows

def Db.vServices (db : Db) (arith : Arith) : List (Viewed ServiceRow) := db.viewed arith db.servicesCurrent.rows

def Db.vSqliteDbs (db : Db) (arith : Arith) : List (Viewed SqliteDbRow) := db.viewed arith db.monitoredDbsCurrent.rows

namespace SqliteDbRow

def freelistReclaimableMb (arith : Arith) (d : SqliteDbRow) : Option F64 := do
  let pageSize ← d.pageSize
  let freelistCount ← d.freelistCount
  let bytes ← (arith.mul (arith.ofInt freelistCount) (arith.ofInt pageSize)).bind
  return arith.round (arith.div bytes 1048576) 1

def walPct (arith : Arith) (d : SqliteDbRow) : Option F64 := do
  let dbSizeMb ← d.dbSizeMb
  let walSizeMb ← d.walSizeMb
  if F64.lt 0 dbSizeMb then
    let ratio ← (arith.div (arith.mul walSizeMb 100) dbSizeMb).bind
    return arith.round ratio 2
  else none

def freelistPct (arith : Arith) (d : SqliteDbRow) : Option F64 := do
  let dbSizeMb ← d.dbSizeMb
  let pageSize ← d.pageSize
  let freelistCount ← d.freelistCount
  if F64.lt 0 dbSizeMb then
    let bytes ← (arith.mul (arith.ofInt freelistCount) (arith.ofInt pageSize)).bind
    let ratio ← (arith.div (arith.mul bytes 100) (arith.mul (arith.mul dbSizeMb 1024) 1024)).bind
    return arith.round ratio 2
  else none

end SqliteDbRow

/-- The last run of each source, if there is a generation at all. -/
def Db.vSources (db : Db) : List SourceRunRow :=
  match db.latestGeneration with
  | none => []
  | some _ => Sql.ranked SourceRunRow.source SourceRunRow.generationId 1 db.sourceRuns.rows

/-! ## Reading the views -/

variable {arith : Arith} {db : Db} {α : Type} {rows : List (Current α)}

theorem mem_viewed {v : Viewed α} (h : v ∈ db.viewed arith rows) : v.row ∈ rows := by
  unfold Db.viewed at h
  cases hg : db.latestGeneration with
  | none => rw [hg] at h; cases h
  | some g =>
    rw [hg] at h
    obtain ⟨c, hc, rfl⟩ := List.mem_map.mp h
    exact hc

theorem nodup_viewed {κ : Type} {key : Current α → κ} (h : (rows.map key).Nodup) :
    ((db.viewed arith rows).map fun v => key v.row).Nodup := by
  unfold Db.viewed
  cases db.latestGeneration with
  | none => exact List.nodup_nil
  | some g =>
    rw [List.map_map]
    exact h

theorem nodup_vSources (db : Db) : (db.vSources.map SourceRunRow.source).Nodup := by
  unfold Db.vSources
  cases db.latestGeneration with
  | none => exact List.nodup_nil
  | some _ => exact Sql.nodup_latest db.sourceRuns.nodup

end Nq
