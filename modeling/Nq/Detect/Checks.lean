/-
  Nq.Detect.Checks — saved queries promoted to checks (`detect.rs`, `run_saved_checks`), and
  the run of all detectors (`run_all`).

  A check that cannot run is a finding under its name; one that fails is a finding under
  its number. Running its text against the database is the parameter `CheckRunner`.
-/

import Nq.Detect.Current
import Nq.Detect.Trend
import Nq.Detect.Witness

namespace Nq

open Sql (F64)

/-! ## Running a check -/

/-- Rows read one by one, at most `n`; the first that fails ends it. -/
def readRows : Nat → List (Except String (List String)) → Except String (List (List String))
  | 0, _ => .ok []
  | _, [] => .ok []
  | n + 1, row :: rows => do
    let vals ← row
    let rest ← readRows n rows
    return vals :: rest

def runCheckQuery (checks : CheckRunner) (db : Db) (sql : String) : Except String (List (List String)) := do
  let trimmed := checks.normalize sql
  unless "SELECT".toList.isPrefixOf trimmed.toList || "WITH".toList.isPrefixOf trimmed.toList do
    throw "check queries must be SELECT or WITH statements"
  readRows 100 (← checks.query db sql)

/-- FNV-1a over the bytes of the text. -/
def fnv1a (s : String) : UInt64 :=
  s.toUTF8.toList.foldl (fun h b => (h ^^^ b.toUInt64) * 0x00000100000001B3) 0xcbf29ce484222325

/-- `{:016x}`. -/
def simpleHash (s : String) : String :=
  let digits := Nat.toDigits 16 (fnv1a s).toNat
  String.ofList (List.replicate (16 - digits.length) '0' ++ digits)

/-- `column.parse::<usize>().unwrap_or(0)`. -/
def parseUsize (s : String) : Nat :=
  let digits := match s.toList with
    | '+' :: ds => ds
    | ds => ds
  if digits ≠ [] ∧ digits.all (fun c => '0' ≤ c ∧ c ≤ '9') then
    let n := digits.foldl (fun n c => n * 10 + (c.toNat - '0'.toNat)) 0
    if n < 2 ^ 64 then n else 0
  else 0

def checkThresholdExceeded (checks : CheckRunner) (rows : List (List String))
    (column : String) (threshold : F64) : Bool :=
  rows.any fun row => (row[parseUsize column]?).any fun v => (checks.parseF64 v).any (F64.lt threshold)

def CheckMode.text : CheckMode → String
  | .none_ => "none"
  | .nonEmpty => "non_empty"
  | .empty => "empty"
  | .threshold => "threshold"

/-- Whether the rows a check returned make it fail. -/
def CheckMode.fails (checks : CheckRunner) (mode : CheckMode) (q : SavedQuery) (rows : List (List String)) : Bool :=
  match mode with
  | .nonEmpty => rows.length > 0
  | .empty => rows.length = 0
  | .threshold =>
    match q.checkThreshold, q.checkColumn with
    | some limit, some column => checkThresholdExceeded checks rows column limit
    | _, _ => false
  | .none_ => false

/-- The semantics of the check, hashed: its state starts over when they change. -/
def checkHash (checks : CheckRunner) (mode : CheckMode) (q : SavedQuery) : String :=
  simpleHash (q.sqlText ++ ":" ++ mode.text ++ ":" ++ checks.debugThreshold q.checkThreshold ++ ":" ++
    checks.debugColumn q.checkColumn)

def checkError (checks : CheckRunner) (mode : CheckMode) (q : SavedQuery) : Finding :=
  { host := "", domain := "Δs", kind := "check_error", subject := q.name, findingClass := "meta"
    ruleHash := some (checkHash checks mode q)
    stateKind := .informational, diagnosis := some ⟨.unspecified, .noneCurrent, .investigateBusinessHours⟩ }

def checkFailed (env : Env) (mode : CheckMode) (q : SavedQuery) (rowCount : Nat) : Finding :=
  { host := "", domain := "Δg", kind := "check_failed", subject := "#" ++ toString q.queryId
    value := some (env.arith.ofInt rowCount), findingClass := "meta", ruleHash := some (checkHash env.checks mode q)
    stateKind := .informational, diagnosis := some ⟨.unspecified, .noneCurrent, .watch⟩ }

def savedCheck (env : Env) (db : Db) (q : SavedQuery) : Option Finding :=
  match q.checkMode with
  | none | some .none_ => none
  | some mode =>
    match runCheckQuery env.checks db q.sqlText with
    | .error _ => some (checkError env.checks mode q)
    | .ok rows => if mode.fails env.checks q rows then some (checkFailed env mode q rows.length) else none

def runSavedChecks (env : Env) (db : Db) : List Finding := db.savedQueries.table.rows.filterMap (savedCheck env db)

/-! ## All detectors -/

/-- The detectors, in the order of `run_all`. -/
def detectors (env : Env) (config : DetectorConfig) (db : Db) : List (Except DetectError (List Finding)) :=
  [detectWalBloat env config db,
   .ok (detectPinnedWal env config db),
   .ok (detectFreelistBloat env config db),
   detectStaleHosts env config db,
   detectStaleServices env config db,
   .ok (detectServiceStatus env db),
   .ok (detectSourceErrors db),
   .ok (detectMetricNan db),
   detectDiskPressure env db,
   detectMemoryPressure env db,
   .ok (detectResourceDrift env db),
   .ok (detectServiceFlap env db),
   .ok (detectSignalDropout db),
   .ok (detectScrapeRegimeShift env db),
   .ok (detectLogSilence env db),
   .ok (detectErrorShift env db),
   .ok (detectZfsPoolDegraded env db),
   .ok (detectZfsPoolSuspended env db),
   .ok (detectZfsPoolCapacityPressure env db),
   .ok (detectZfsPoolHealthChanged env db),
   .ok (detectZfsSpareActivated db),
   .ok (detectZfsVdevFaulted env db),
   .ok (detectZfsErrorCountIncreased env db),
   .ok (detectZfsScrubOverdue env db),
   .ok (detectZfsWitnessSilent env db),
   .ok (detectSmartStatusLies env db),
   .ok (detectSmartUncorrectedErrorsNonzero env db),
   .ok (detectSmartWitnessSilent env db),
   .ok (detectSmartNvmePercentageUsed env db),
   .ok (detectSmartNvmeAvailableSpareLow env db),
   .ok (detectSmartNvmeCriticalWarningSet env db),
   .ok (detectSmartReallocatedSectorsRising env db),
   .ok (detectSmartTemperatureHigh env db),
   .ok (runSavedChecks env db)]

/-- Every detector in turn; the first error ends the run. -/
def runAll (env : Env) (config : DetectorConfig) (db : Db) : Except DetectError (List Finding) :=
  Sql.collect id (detectors env config db)

/-! ## Concrete runs -/

/-- Small numbers, on which no double rounds, at one instant. -/
def exactArith : Arith where
  ofInt n := .fin n
  add
    | .fin a, .fin b => .fin (a + b)
    | _, _ => .nan
  mul
    | .fin a, .fin b => .fin (a * b)
    | _, _ => .nan
  div
    | .fin a, .fin b => if b = 0 then .nan else .fin (a / b)
    | _, _ => .nan
  round x _ := x
  avg
    | [] => none
    | xs => some (.fin ((xs.map fun | .fin q => q | _ => 0).sum / xs.length))
  elapsedS _ _ := some 0
  later a b := b < a

/-- Exact arithmetic, and no saved query that can be prepared. -/
def exactEnv : Env where
  arith := exactArith
  checks :=
    { query := fun _ _ => .error "", normalize := String.toUpper, parseF64 := fun _ => none
      debugThreshold := fun _ => "None", debugColumn := fun _ => "None" }
  clock := ⟨"", "", "", ""⟩

end Nq
