/-
  Nq.Logs.Collect — the log collector (`nq-monitor-agent/src/collect/logs.rs`).

  A source is read through a program: `journalctl` for a unit, `tail` for a file. The lines
  it prints are reduced to counts by severity, up to five examples and the timestamp found
  in the last line. Instants are nanoseconds. The programs (`Commands`) and the RFC 3339
  reader are parameters.

  - `count_lines`: what the loop over the lines counts.
  - `collectSource_file`: the observation of a file, from what `tail` prints.
-/

import Mathlib.Algebra.GroupWithZero.Nat
import Mathlib.Data.List.Infix
import Nq.Text.Lines
import Nq.Store.Pull

namespace Nq.Logs

/-! ## Configuration and observations -/

/-- `silence_budget_secs` is kept for the stored shape and read by nothing. -/
structure LogSourceConfig where
  sourceId : String
  adapter : String
  target : String
  silenceBudgetSecs : Int := 120
  maxLines : UInt64 := 5000

inductive Platform where
  | linux | macOs | other
  deriving DecidableEq

structure LogExample where
  ts : Option Int
  severity : String
  message : List Char

structure LogObservation where
  sourceId : String
  windowStart : Int
  windowEnd : Int
  fetchStatus : String
  linesTotal : UInt64
  linesError : UInt64
  linesWarn : UInt64
  lastLogTs : Option Int
  transportLagMs : Option Int
  examples : List LogExample

/-- As it is sent: its instants formatted, its examples serialized. -/
def LogObservation.wire (format : Int → String) (json : List LogExample → String) (o : LogObservation) :
    Nq.LogObservation where
  sourceId := o.sourceId
  windowStart := format o.windowStart
  windowEnd := format o.windowEnd
  fetchStatus := o.fetchStatus
  linesTotal := o.linesTotal
  linesError := o.linesError
  linesWarn := o.linesWarn
  lastLogTs := o.lastLogTs.map format
  transportLagMs := o.transportLagMs
  examplesJson := json o.examples

/-- A finished program, its streams decoded. -/
structure Output where
  success : Bool
  stdout : List Char
  stderr : List Char

/-- The programs the collector starts. One that cannot be started gives its error. -/
structure Commands where
  /-- `tail -n max_lines path`. -/
  tail : Nat → String → Except String Output
  /-- `journalctl -u unit --since "window_secs seconds ago" --no-pager -o cat -n max_lines`. -/
  journalctl : String → Nat → Nat → Except String Output

/-! ## Severity -/

inductive Severity where
  | fatal | error | warn | info
  deriving DecidableEq, Repr

def Severity.asStr : Severity → String
  | .fatal => "fatal"
  | .error => "error"
  | .warn => "warn"
  | .info => "info"

/-- The words are ASCII, and no other letter's lower case brings one of them about. -/
def classifySeverity (line : List Char) : Severity :=
  let lower := line.map Char.toLower
  let has (word : String) : Bool := decide (word.toList <:+: lower)
  if has "fatal" || has "panic" || has "critical" then .fatal
  else if has "error" || has "exception" || has "fail" then .error
  else if has "warn" then .warn
  else .info

def Severity.isError (s : Severity) : Bool := s = .error || s = .fatal

/-! ## Timestamps and examples -/

def byteLength (s : List Char) : Nat := (s.map Char.utf8Size).sum

/-- The first `n` bytes, when they end between two characters. -/
def takeBytes : Nat → List Char → Option (List Char)
  | 0, _ => some []
  | _ + 1, [] => none
  | n + 1, c :: cs => if c.utf8Size ≤ n + 1 then (takeBytes (n + 1 - c.utf8Size) cs).map (c :: ·) else none

/-- As many whole characters as `n` bytes hold. -/
def fitting : Nat → List Char → List Char
  | _, [] => []
  | n, c :: cs => if c.utf8Size ≤ n then c :: fitting (n - c.utf8Size) cs else []

def truncate (s : List Char) (max : Nat) : List Char :=
  if byteLength s ≤ max then s else fitting max s ++ ['.', '.', '.']

section

variable (rfc3339 : String → Except String Int)

/-- The first twenty bytes that read as a timestamp, from the character at byte `start` on. -/
def timestampFrom (maxStart : Nat) : Nat → List Char → Option Int
  | _, [] => none
  | start, c :: cs =>
    if start ≤ maxStart then
      match (takeBytes 20 (c :: cs)).bind fun s => (rfc3339 (String.ofList s)).toOption with
      | some ts => some ts
      | none => timestampFrom maxStart (start + c.utf8Size) cs
    else none

def extractTimestamp (line : List Char) : Option Int :=
  if byteLength line < 20 then none else timestampFrom rfc3339 (min (byteLength line - 20) 40) 0 line

end

/-! ## The lines of a source -/

/-- The lines a program printed that are not empty, or why it failed. -/
def printedLines (program : String) (output : Except String Output) : Except String (List (List Char)) :=
  match output with
  | .error e => .error e
  | .ok o =>
    if o.success then .ok ((Text.lines o.stdout).filter (· ≠ []))
    else .error (program ++ " failed: " ++ String.ofList (Text.trim o.stderr))

def fetchJournald (commands : Commands) (unit : String)
    (windowSecs maxLines : Nat) : Except String (List (List Char)) :=
  printedLines "journalctl" (commands.journalctl unit windowSecs maxLines)

def fetchFileTail (commands : Commands) (path : String) (maxLines : Nat) : Except String (List (List Char)) :=
  printedLines "tail" (commands.tail maxLines path)

/-! ## The counts -/

structure Counts where
  total : Nat := 0
  errors : Nat := 0
  warns : Nat := 0
  errorExamples : List LogExample := []

def Counts.line (now : Int) (c : Counts) (line : List Char) : Counts :=
  let sev := classifySeverity line
  let c := { c with total := c.total + 1 }
  if sev.isError then
    { c with
      errors := c.errors + 1
      errorExamples :=
        if c.errorExamples.length < 5 then c.errorExamples ++
          [⟨some now, sev.asStr, truncate line 200⟩] else c.errorExamples }
  else if sev = .warn then { c with warns := c.warns + 1 }
  else c

variable (now : Int) (c : Counts) (l : List Char)

@[simp] theorem Counts.line_total : (c.line now l).total = c.total + 1 := by
  unfold Counts.line
  dsimp only
  split
  · rfl
  · split <;> rfl

@[simp] theorem Counts.line_errors :
    (c.line now l).errors = c.errors + if (classifySeverity l).isError then 1 else 0 := by
  unfold Counts.line
  dsimp only
  split
  · rfl
  · split <;> rfl

theorem count_lines (lines : List (List Char)) : ∀ c : Counts,
    (lines.foldl (Counts.line now) c).total = c.total + lines.length ∧
      (lines.foldl (Counts.line now) c).errors = c.errors + lines.countP fun l => (classifySeverity l).isError := by
  induction lines with
  | nil => exact fun c => ⟨rfl, rfl⟩
  | cons l lines ih =>
    intro c
    obtain ⟨htotal, herrors⟩ := ih (c.line now l)
    rw [List.foldl_cons, htotal, herrors, List.length_cons, List.countP_cons, Counts.line_total, Counts.line_errors]
    omega

/-! ## Collection -/

/-- One generation window, in seconds and in nanoseconds. -/
def windowSecs : Nat := 60
def window : Int := 60000000000

section

variable (rfc3339 : String → Except String Int) (commands : Commands)

def observe (sourceId : String) (now : Int) (lines : List (List Char)) : LogObservation :=
  let c := lines.foldl (Counts.line now) {}
  { sourceId
    windowStart := now - window
    windowEnd := now
    fetchStatus := if lines = [] ∧ c.total = 0 then "source_quiet" else "ok"
    linesTotal := .ofNat c.total
    linesError := .ofNat c.errors
    linesWarn := .ofNat c.warns
    lastLogTs := lines.getLast?.bind (extractTimestamp rfc3339)
    transportLagMs := none
    examples := c.errorExamples }

def collectSource (src : LogSourceConfig) (now : Int) : Except String LogObservation := do
  let lines ←
    if src.adapter = "journald" then fetchJournald commands src.target windowSecs src.maxLines.toNat
    else if src.adapter = "file" then fetchFileTail commands src.target src.maxLines.toNat
    else throw ("unknown adapter: " ++ src.adapter)
  return observe rfc3339 src.sourceId now lines

def notSupportedObservation (sourceId : String) (now : Int) : LogObservation where
  sourceId := sourceId
  windowStart := now - window
  windowEnd := now
  fetchStatus := "not_supported"
  linesTotal := 0
  linesError := 0
  linesWarn := 0
  lastLogTs := none
  transportLagMs := none
  examples := []

/-- The collector's payload, collected at `now`. -/
structure Payload where
  status : CollectorStatus
  errorMessage : Option String
  data : Option (List LogObservation)

/-- What one source adds to the observations or to the errors. -/
def collectEach (platform : Platform) (now : Int) (acc : List LogObservation × List String) (src : LogSourceConfig) :
    List LogObservation × List String :=
  if src.adapter = "journald" ∧ platform ≠ .linux then (acc.1 ++ [notSupportedObservation src.sourceId now], acc.2)
  else
    match collectSource rfc3339 commands src now with
    | .ok obs => (acc.1 ++ [obs], acc.2)
    | .error e => (acc.1, acc.2 ++ [src.sourceId ++ ": " ++ e])

def collectFor (logSources : List LogSourceConfig) (platform : Platform) (now : Int) : Payload :=
  if logSources = [] then ⟨.skipped, none, none⟩
  else
    let acc := logSources.foldl (collectEach rfc3339 commands platform now) ([], [])
    let message := if acc.2 = [] then none else some (String.intercalate "; " acc.2)
    if acc.1 = [] ∧ acc.2 ≠ [] then ⟨.error, message, none⟩ else ⟨.ok, message, some acc.1⟩

end

/-- A file's observation: the lines that `tail` prints of it. -/
theorem collectSource_file {rfc3339 : String → Except String Int} {commands : Commands} {src : LogSourceConfig}
    (hfile : src.adapter = "file") {stdout stderr : List Char}
    (htail : commands.tail src.maxLines.toNat src.target = .ok ⟨true, stdout, stderr⟩) (now : Int) :
    collectSource rfc3339 commands src now =
      .ok (observe rfc3339 src.sourceId now ((Text.lines stdout).filter (· ≠ []))) := by
  unfold collectSource fetchFileTail
  rw [hfile, if_neg (by decide), if_pos rfl, htail]
  rfl

/-- An observation's counts are of its lines, as long as they fit. -/
theorem observe_counts (rfc3339 : String → Except String Int) (sourceId : String) (now : Int) {lines : List (List Char)}
    (hfits : lines.length < 2 ^ 64) :
    (observe rfc3339 sourceId now lines).linesTotal.toNat = lines.length ∧
      (observe rfc3339 sourceId now lines).linesError.toNat = lines.countP fun l => (classifySeverity l).isError := by
  obtain ⟨htotal, herrors⟩ := count_lines now lines {}
  have hle := List.countP_le_length (p := fun l => (classifySeverity l).isError) (l := lines)
  refine ⟨?_, ?_⟩
  · show (UInt64.ofNat _).toNat = _
    rw [htotal, UInt64.toNat_ofNat', Nat.zero_add]
    exact Nat.mod_eq_of_lt hfits
  · show (UInt64.ofNat _).toNat = _
    rw [herrors, UInt64.toNat_ofNat', Nat.zero_add]
    exact Nat.mod_eq_of_lt (by omega)

theorem observe_fetchStatus (rfc3339 : String → Except String Int) (sourceId : String) (now : Int) :
    (observe rfc3339 sourceId now []).fetchStatus = "source_quiet" := rfl

end Nq.Logs
