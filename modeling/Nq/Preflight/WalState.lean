/-
  Nq.Preflight.WalState — the `sqlite_wal_state` preflight (`nq-db/src/sqlite_wal_state.rs`,
  `sqlite_wal_state_witness_projection.rs`).

  The probe stats a database file and its WAL every cycle. The evaluator reads the rows of
  the last twelve hours, oldest first, and classifies them as a whole (`classifyWindow`):
  severe and elevated pressure are states the whole window is in, over a time of their own.
-/

import Nq.Preflight.Result

namespace Nq.Preflight

open List hiding le_antisymm le_refl le_total not_le not_lt
open Receipts (Codec Json WitnessPacket)
open Sql (F64 Table)

/-! ## Observations -/

inductive ProcAccess where
  | observed | unavailable | permissionDenied | notAttempted
  deriving DecidableEq, Repr

def ProcAccess.asStr : ProcAccess → String
  | .observed => "observed"
  | .unavailable => "unavailable"
  | .permissionDenied => "permission_denied"
  | .notAttempted => "not_attempted"

inductive ObservationStatus where
  | observed | targetMissing | permissionDenied | statError
  deriving DecidableEq, Repr

def ObservationStatus.asStr : ObservationStatus → String
  | .observed => "observed"
  | .targetMissing => "target_missing"
  | .permissionDenied => "permission_denied"
  | .statError => "stat_error"

def ObservationStatus.isObserved (s : ObservationStatus) : Bool := s = .observed

structure WalObservation where
  generationId : Int
  host : String
  dbFilePath : String
  observationStatus : ObservationStatus
  walPresent : Option Bool
  walBytes : Option Int
  walMtime : Option String
  dbBytes : Option Int
  dbMtime : Option String
  procAccess : ProcAccess
  pinnedReaderPresent : Option Bool
  pinnedReaderPid : Option Int
  pinnedReaderCommand : Option String
  observedAt : String
  errorDetail : Option String
  deriving DecidableEq

/-- The CHECK constraints of the table. -/
structure WalObservation.Checked (o : WalObservation) : Prop where
  walBytes : ∀ n ∈ o.walBytes, 0 ≤ n
  dbBytes : ∀ n ∈ o.dbBytes, 0 ≤ n
  walAbsent : o.observationStatus = .observed → o.walPresent ≠ some true → o.walBytes = some 0 ∧ o.walMtime = none
  unread : o.procAccess ≠ .observed → o.pinnedReaderPresent = none ∧ o.pinnedReaderPid = none ∧
    o.pinnedReaderCommand = none
  read : o.procAccess = .observed → o.pinnedReaderPresent.isSome
  unpinned : o.pinnedReaderPresent = some false → o.pinnedReaderPid = none ∧ o.pinnedReaderCommand = none
  reader : o.pinnedReaderPid.isNone = o.pinnedReaderCommand.isNone
  observed : o.observationStatus = .observed →
    o.walPresent.isSome ∧ o.walBytes.isSome ∧ o.dbBytes.isSome ∧ o.dbMtime.isSome ∧ o.errorDetail = none
  unobserved : o.observationStatus ≠ .observed →
    o.walPresent = none ∧ o.walBytes = none ∧ o.walMtime = none ∧
      o.dbBytes = none ∧ o.dbMtime = none ∧ o.errorDetail.isSome

/-- `wal_observations`. -/
structure WalTable where
  table : Table (Stored.observationId : Stored WalObservation → Int)
  checked : ∀ r ∈ table.rows, r.obs.Checked

/-- The first rows of a table, as it numbers them. -/
theorem nodup_numbered {row : Nat → Stored WalObservation} (h : ∀ k, (row k).observationId = k + 1) (n : Nat) :
    (((List.range n).map row).map Stored.observationId).Nodup := by
  rw [map_map]
  refine List.Nodup.map (fun j k hjk => ?_) nodup_range
  rw [Function.comp_apply, Function.comp_apply, h, h] at hjk
  omega

structure SqliteWalTarget where
  host : String
  dbFilePath : String
  deriving DecidableEq, Repr

abbrev WalRow := Stored WalObservation

def WalRow.isOf (target : SqliteWalTarget) (r : WalRow) : Bool :=
  r.obs.host = target.host && r.obs.dbFilePath = target.dbFilePath

/-- `ORDER BY observed_at ASC, observation_id ASC`. -/
def WalRow.upTo (a b : WalRow) : Prop :=
  a.obs.observedAt < b.obs.observedAt ∨ a.obs.observedAt = b.obs.observedAt ∧ a.observationId ≤ b.observationId

instance : DecidableRel WalRow.upTo := fun a b =>
  inferInstanceAs (Decidable (a.obs.observedAt < b.obs.observedAt ∨
    a.obs.observedAt = b.obs.observedAt ∧ a.observationId ≤ b.observationId))

/-- The rows of the target. -/
def WalTable.history (t : WalTable) (target : SqliteWalTarget) : List WalRow := t.table.rows.filter (WalRow.isOf target)

def loadRecentWalObservations (t : WalTable) (target : SqliteWalTarget) (windowStart : String) : List WalRow :=
  ((t.history target).filter fun r => windowStart ≤ r.obs.observedAt).insertionSort WalRow.upTo

/-! ## Classification -/

def walStaleThresholdSeconds : Int := 600
def walWindowDurationSeconds : Int := 12 * 3600
def walElevatedDurationSeconds : Int := 6 * 3600
def walSevereDurationSeconds : Int := 12 * 3600
def walMinSamplesElevated : Nat := 100
def walMinSamplesSevere : Nat := 300
def walElevatedBytes : Int := 2000000000
def walSevereBytes : Int := 10000000000
def walSevereRatio : F64 := .fin (1 / 2)

inductive PinnedReaderSignal where
  | present | absent | unobserved
  deriving DecidableEq, Repr

def PinnedReaderSignal.asNoteText : PinnedReaderSignal → String
  | .present => "present"
  | .absent => "absent"
  | .unobserved => "unobserved"

structure WalSignals where
  mainDbMtimeStaleAcrossWindow : Bool
  pinnedReader : PinnedReaderSignal
  deriving DecidableEq, Repr

inductive WalClassification where
  | noRowsInWindow
  | latestRowStale (observedAt : String) (ageSeconds : Int)
  | inaccessibleDb (errorDetail : String)
  | contradictory (reason : String)
  | insufficientSamples (count needed : Nat)
  | boundedWal (windowDurationSeconds : Int) (signals : WalSignals)
  | elevatedSustained (windowDurationSeconds : Int) (signals : WalSignals)
  | severeSustained (windowDurationSeconds : Int) (signals : WalSignals)
  deriving DecidableEq, Repr

def firstInaccessibleDb (window : List WalRow) : Option String :=
  window.findSome? fun o =>
    if o.obs.observationStatus.isObserved then none
    else some (o.obs.observationStatus.asStr ++ ": " ++ o.obs.errorDetail.getD "(no detail)")

/-- What a row says that cannot be: a file changed after it was looked at. -/
def contradiction (crates : Crates) (o : WalRow) : Option String := do
  let observedAt ← crates.parse o.obs.observedAt
  let dbMtimeRaw ← o.obs.dbMtime
  let dbMtime ← crates.parse dbMtimeRaw
  let reason (column raw : String) : String :=
    "row observation_id=Some(" ++ toString o.observationId ++ ") reports " ++ column ++ " " ++ raw ++
      " after observed_at " ++
      o.obs.observedAt ++ " (file mtime in the future of observation is impossible substrate physics)"
  if observedAt < dbMtime then return reason "db_mtime" dbMtimeRaw
  else
    let raw ← o.obs.walMtime
    let walMtime ← crates.parse raw
    if observedAt < walMtime then return reason "wal_mtime" raw else none

/-- A file that moved no later than the row is no contradiction. -/
theorem contradiction_eq_none {crates : Crates} {r : WalRow} (h : ∀ x ∈ crates.parse r.obs.observedAt,
    ∀ raw, raw ∈ r.obs.dbMtime ∨ raw ∈ r.obs.walMtime →
      ∀ y ∈ crates.parse raw, y ≤ x) : contradiction crates r = none := by
  unfold contradiction
  cases hx : crates.parse r.obs.observedAt with
  | none => rfl
  | some x =>
    cases hdb : r.obs.dbMtime with
    | none => rfl
    | some db =>
      cases hy : crates.parse db with
      | none => simp [hy]
      | some y =>
        have hyx : ¬ x < y := not_lt.mpr (h x hx db (Or.inl hdb) y hy)
        simp only [Option.bind_eq_bind, Option.bind_some, hy, if_neg hyx]
        cases hwal : r.obs.walMtime with
        | none => rfl
        | some wal =>
          cases hz : crates.parse wal with
          | none => simp [hz]
          | some z =>
            have hzx : ¬ x < z := not_lt.mpr (h x hx wal (Or.inr hwal) z hz)
            simp only [Option.bind_some, hz, if_neg hzx]

def firstContradiction (crates : Crates) (window : List WalRow) : Option String :=
  window.findSome? (contradiction crates)

def WalRow.aboveElevated (o : WalRow) : Bool := walElevatedBytes < o.obs.walBytes.getD 0

def WalRow.aboveSevereBytes (o : WalRow) : Bool := walSevereBytes < o.obs.walBytes.getD 0

def WalRow.aboveSevereRatio (crates : Crates) (o : WalRow) : Bool :=
  0 < o.obs.dbBytes.getD 0 &&
    F64.lt walSevereRatio (crates.arith.div (crates.arith.ofInt (o.obs.walBytes.getD 0))
      (crates.arith.ofInt (o.obs.dbBytes.getD 0)))

def allElevated (window : List WalRow) : Bool := !window.isEmpty && window.all WalRow.aboveElevated

def allSevere (crates : Crates) (window : List WalRow) : Bool :=
  !window.isEmpty && (window.all WalRow.aboveSevereBytes || window.all (WalRow.aboveSevereRatio crates))

def computeWindowDurationSeconds (crates : Crates) (window : List WalRow) : Int :=
  if window.length < 2 then 0
  else match window.head?.bind fun o => crates.parse o.obs.observedAt, window.getLast?.bind fun o =>
    crates.parse o.obs.observedAt with
    | some a, some b => wholeSeconds (b - a)
    | _, _ => 0

def computeSignals (crates : Crates) (window : List WalRow) (windowDurationSeconds : Int) : WalSignals :=
  let observedRows := window.filter fun o => o.obs.procAccess = .observed
  { mainDbMtimeStaleAcrossWindow := !window.isEmpty && window.all fun o =>
      match crates.parse o.obs.observedAt, o.obs.dbMtime.bind crates.parse with
      | some obs, some mt => windowDurationSeconds ≤ wholeSeconds (obs - mt)
      | _, _ => false
    pinnedReader :=
      if observedRows.isEmpty then .unobserved
      else if observedRows.any fun o => o.obs.pinnedReaderPresent = some true then .present
      else .absent }

def classifyWindow (crates : Crates) (window : List WalRow) (now : Int) : WalClassification :=
  match firstInaccessibleDb window with
  | some detail => .inaccessibleDb detail
  | none =>
    match firstContradiction crates window with
    | some reason => .contradictory reason
    | none =>
      match window.getLast? with
      | none => .noRowsInWindow
      | some latest =>
        match crates.parse latest.obs.observedAt with
        | none => .noRowsInWindow
        | some latestObs =>
          let age := wholeSeconds (now - latestObs)
          if walStaleThresholdSeconds < age then .latestRowStale latest.obs.observedAt age
          else if window.length < walMinSamplesElevated then .insufficientSamples window.length walMinSamplesElevated
          else
            let windowDurationSeconds := computeWindowDurationSeconds crates window
            let signals := computeSignals crates window windowDurationSeconds
            -- severe over elevated over bounded
            if walMinSamplesSevere ≤ window.length ∧ walSevereDurationSeconds ≤ windowDurationSeconds ∧
              allSevere crates window = true
            then .severeSustained windowDurationSeconds signals
            else if walElevatedDurationSeconds ≤ windowDurationSeconds ∧ allElevated window = true then
              .elevatedSustained windowDurationSeconds signals
            else .boundedWal windowDurationSeconds signals

/-- The gates before the thresholds: nothing inaccessible or contradictory, a fresh latest
    row, and enough rows. -/
structure Classifiable (crates : Crates) (window : List WalRow) (now : Int) : Prop where
  accessible : firstInaccessibleDb window = none
  consistent : firstContradiction crates window = none
  fresh : ∃ latest ∈ window.getLast?, ∃ t ∈ crates.parse latest.obs.observedAt,
    wholeSeconds (now - t) ≤ walStaleThresholdSeconds
  many : walMinSamplesElevated ≤ window.length

/-- The severe condition on a window. -/
structure SevereCondition (crates : Crates) (window : List WalRow) : Prop where
  many : walMinSamplesSevere ≤ window.length
  long : walSevereDurationSeconds ≤ computeWindowDurationSeconds crates window
  all : allSevere crates window = true

/-- The elevated condition on a window. -/
structure ElevatedCondition (crates : Crates) (window : List WalRow) : Prop where
  long : walElevatedDurationSeconds ≤ computeWindowDurationSeconds crates window
  all : allElevated window = true

section

variable {crates : Crates} {window : List WalRow} {now : Int}

theorem severeCondition_iff : SevereCondition crates window ↔ walMinSamplesSevere ≤ window.length ∧
    walSevereDurationSeconds ≤ computeWindowDurationSeconds crates window ∧ allSevere crates window = true :=
  ⟨fun ⟨many, long, all⟩ => ⟨many, long, all⟩, fun ⟨many, long, all⟩ => ⟨many, long, all⟩⟩

theorem elevatedCondition_iff : ElevatedCondition crates window ↔
    walElevatedDurationSeconds ≤ computeWindowDurationSeconds crates window ∧ allElevated window = true :=
  ⟨fun ⟨long, all⟩ => ⟨long, all⟩, fun ⟨long, all⟩ => ⟨long, all⟩⟩

/-- A window is past the gates, and one of the three classes its thresholds say; or it is
    of none of the three. -/
theorem classifyWindow_cases (crates : Crates) (window : List WalRow) (now : Int) :
    (Classifiable crates window now ∧ ∃ duration signals,
      (SevereCondition crates window ∧ classifyWindow crates window now = .severeSustained duration signals) ∨
      (¬ SevereCondition crates window ∧ ElevatedCondition crates window ∧
        classifyWindow crates window now = .elevatedSustained duration signals) ∨
      (¬ SevereCondition crates window ∧ ¬ ElevatedCondition crates window ∧
        classifyWindow crates window now = .boundedWal duration signals)) ∨
    (¬ Classifiable crates window now ∧ ((∃ detail, classifyWindow crates window now = .inaccessibleDb detail) ∨
      (∃ reason, classifyWindow crates window now = .contradictory reason) ∨
      classifyWindow crates window now = .noRowsInWindow ∨
      (∃ observedAt age, classifyWindow crates window now = .latestRowStale observedAt age) ∨
      ∃ count needed, classifyWindow crates window now = .insufficientSamples count needed)) := by
  unfold classifyWindow
  cases haccess : firstInaccessibleDb window with
  | some detail => exact Or.inr ⟨fun h => (by rw [h.accessible] at haccess; cases haccess), Or.inl ⟨detail, rfl⟩⟩
  | none =>
    cases hconsistent : firstContradiction crates window with
    | some reason =>
      exact Or.inr ⟨fun h => (by rw [h.consistent] at hconsistent; cases hconsistent), Or.inr (Or.inl ⟨reason, rfl⟩)⟩
    | none =>
      cases hlast : window.getLast? with
      | none =>
        refine Or.inr ⟨fun h => ?_, Or.inr (Or.inr (Or.inl rfl))⟩
        obtain ⟨latest, hlatest, _⟩ := h.fresh
        rw [hlast] at hlatest
        cases hlatest
      | some latest =>
        have hfresh : ∀ h : Classifiable crates window now, ∃ t, crates.parse latest.obs.observedAt = some t ∧
            wholeSeconds (now - t) ≤ walStaleThresholdSeconds := by
          intro h
          obtain ⟨latest', hlatest', t, ht, hage⟩ := h.fresh
          rw [hlast] at hlatest'
          cases hlatest'
          exact ⟨t, ht, hage⟩
        dsimp only
        cases ht : crates.parse latest.obs.observedAt with
        | none =>
          refine Or.inr ⟨fun h => ?_, Or.inr (Or.inr (Or.inl rfl))⟩
          obtain ⟨t, ht', _⟩ := hfresh h
          rw [ht] at ht'
          cases ht'
        | some t =>
          dsimp only
          by_cases hstale : walStaleThresholdSeconds < wholeSeconds (now - t)
          · rw [if_pos hstale]
            refine Or.inr ⟨fun h => ?_, Or.inr (Or.inr (Or.inr (Or.inl ⟨_, _, rfl⟩)))⟩
            obtain ⟨t', ht', hage⟩ := hfresh h
            rw [ht] at ht'
            cases ht'
            omega
          · rw [if_neg hstale]
            by_cases hfew : window.length < walMinSamplesElevated
            · rw [if_pos hfew]
              refine Or.inr ⟨fun h => ?_, Or.inr (Or.inr (Or.inr (Or.inr ⟨_, _, rfl⟩)))⟩
              have hmany := h.many
              omega
            · rw [if_neg hfew]
              have hclassifiable : Classifiable crates window now :=
                ⟨haccess, hconsistent, ⟨latest, hlast, t, ht, by omega⟩, by omega⟩
              refine Or.inl ⟨hclassifiable, computeWindowDurationSeconds crates window,
                computeSignals crates window (computeWindowDurationSeconds crates window), ?_⟩
              by_cases hsevere : SevereCondition crates window
              · exact Or.inl ⟨hsevere, if_pos (severeCondition_iff.mp hsevere)⟩
              · rw [if_neg fun h => hsevere (severeCondition_iff.mpr h)]
                by_cases helevated : ElevatedCondition crates window
                · exact Or.inr (Or.inl ⟨hsevere, helevated, if_pos (elevatedCondition_iff.mp helevated)⟩)
                · exact Or.inr (Or.inr ⟨hsevere, helevated, if_neg fun h => helevated (elevatedCondition_iff.mpr h)⟩)

end

/-! ## Projection -/

def witnessTypeSqliteWal : String := "sqlite_wal_legacy_projection"

def projectionLimitSqliteWalObservationRecovery : String :=
  "filesystem observation recovered from wal_observations row, not first-person witness emission"

def projectWalObservation (crates : Crates) (r : WalRow)
    (generatedAt : String) : Except ProjectionRefusal WitnessPacket :=
  let sourceRef := "wal_observation:" ++ toString r.observationId
  let debug := Receipts.debug crates.codec
  let obs := r.obs
  let bypassed (column : String) : String :=
    "observation_status=observed but " ++ column ++ " is NULL; substrate CHECK constraint was bypassed"
  refusedAs sourceRef do
    Collections.rejectIf (r.observationId ≤ 0)
      "observation_id is missing or non-positive; projection cannot anchor source_finding_ref to a written row"
    Collections.rejectIf (¬ obs.observationStatus.isObserved) ("observation_status is " ++
      debug obs.observationStatus.asStr ++ "; projection would forge substrate fields the probe never observed")
    let host := trimmed obs.host
    let dbFilePath := trimmed obs.dbFilePath
    Collections.rejectIf (host = "") "host is empty; substrate identity is incomplete"
    Collections.rejectIf (dbFilePath = "") "db_file_path is empty; substrate identity is incomplete"
    let walPresent ← Collections.okOr obs.walPresent (bypassed "wal_present")
    let walBytes ← Collections.okOr obs.walBytes (bypassed "wal_bytes")
    let dbBytes ← Collections.okOr obs.dbBytes (bypassed "db_bytes")
    Collections.rejectIf (walBytes < 0) ("wal_bytes is negative (" ++ toString walBytes ++
      "); projection would record impossible substrate")
    Collections.rejectIf (dbBytes < 0) ("db_bytes is negative (" ++ toString dbBytes ++
      "); projection would record impossible substrate")
    let observedAt ← recoverStamp crates
      "wal_observations row has no substrate-time observed_at (empty); projection would have to fabricate it"
      ("wal_observations observed_at is not RFC3339: " ++ debug (trimmed obs.observedAt) ++
        "; projection would have to forge a parseable timestamp") obs.observedAt
    let dbMtimeRaw ← Collections.okOr obs.dbMtime (bypassed "db_mtime")
    let dbMtime ← recoverStamp crates
      "wal_observations row has no substrate-time db_mtime (empty); projection would have to fabricate it"
      ("wal_observations db_mtime is not RFC3339: " ++ debug (trimmed dbMtimeRaw) ++
        "; projection would have to forge a parseable timestamp") dbMtimeRaw
    match obs.walMtime with
    | none => pure ()
    | some raw => discard (recoverStamp crates
        ("wal_observations row has wal_mtime set to empty/whitespace; " ++
          "projection cannot distinguish that from honest absence")
        ("wal_observations wal_mtime is not RFC3339: " ++ debug (trimmed raw) ++
          "; projection would have to forge a parseable timestamp") raw)
    let mtimeDeltaSeconds := do
      let a ← crates.parse observedAt
      let b ← crates.parse dbMtime
      return wholeSeconds (a - b)
    let walDbRatio := if 0 <
      dbBytes then some (crates.arith.div (crates.arith.ofInt walBytes) (crates.arith.ofInt dbBytes)) else none
    let observation := Json.object [("type", .string "sqlite_wal_observation_projected"), ("host", .string host),
      ("db_file_path", .string dbFilePath), ("wal_present", .bool walPresent), ("wal_bytes", .number (.int walBytes)),
      ("db_bytes", .number (.int dbBytes)), ("wal_db_ratio", walDbRatio.elim .null fun x => .number (.float x)),
      ("wal_mtime", Json.ofString obs.walMtime), ("db_mtime", .string dbMtime),
        ("mtime_delta_seconds", Json.ofInt mtimeDeltaSeconds),
      ("proc_access", .string obs.procAccess.asStr), ("pinned_reader_present", Json.ofBool obs.pinnedReaderPresent),
      ("pinned_reader_pid", Json.ofInt obs.pinnedReaderPid),
        ("pinned_reader_command", Json.ofString obs.pinnedReaderCommand),
      ("error_detail", Json.ofString obs.errorDetail)]
    validated crates.codec (legacyPacket witnessTypeSqliteWal ("host:" ++ host ++ "/db:" ++ dbFilePath)
      "legacy_wal_observation_projection" observedAt generatedAt observation
      ["packet reconstructed from probe-written wal_observations row",
        "native witness packet emission not implemented for sqlite_wal_state"] sourceRef
      [projectionLimitSqliteWalObservationRecovery] .applicationInternal)

/-! ## The evaluator -/

def WalRow.subject (o : WalRow) : String := "host:" ++ o.obs.host ++ "/db:" ++ o.obs.dbFilePath

def WalRow.makeSupport (o : WalRow) : PreflightSupport :=
  { claim := "Probe observed WAL state for host " ++ o.obs.host ++ " db " ++ o.obs.dbFilePath ++ " at observed_at " ++
      o.obs.observedAt ++ " (wal_present=" ++ toString (o.obs.walPresent.getD false) ++ ", wal_bytes=" ++
      toString (o.obs.walBytes.getD 0) ++ ", db_bytes=" ++ toString (o.obs.dbBytes.getD 0) ++ ", proc_access=" ++
      o.obs.procAccess.asStr ++ ")"
    findingKind := "sqlite_wal_observation"
    subject := o.subject
    observedAt := some o.obs.observedAt
    admissibilityState := some "observable" }

/-- Every row of the window as excluded by the evaluator itself. -/
def excludeAll (reason : String) (window : List WalRow) : List PreflightExclusion :=
  window.map fun o => ⟨"sqlite_wal_observation", o.subject, reason, o.obs.errorDetail⟩

def emitSupportsAndPackets (crates : Crates) (window : List WalRow)
    (generatedAt : String) (classification : WalClassification) :
    List PreflightSupport × List PreflightExclusion :=
  match classification with
  | .noRowsInWindow => ([], [])
  | .inaccessibleDb _ => ([], excludeAll
      "Probe could not stat the main DB file; substrate inaccessible from the probe's vantage." window)
  | .contradictory _ => ([], excludeAll "Substrate physics violation: file mtime in the future of observed_at." window)
  | _ => admitRows (projectWalObservation crates · generatedAt)
      (fun o packet => { o.makeSupport with witnessPacket := packetIdentity crates.codec packet })
      (fun o refusal => makeProjectionRefusalExclusion "sqlite_wal_observation" o.subject refusal) window

def WalClassification.standing : WalClassification → String
  | .noRowsInWindow => "absent"
  | .latestRowStale .. => "stale"
  | _ => "observable"

def buildSignals (classification : WalClassification) : Json :=
  let unclassified (more : List (String × Json)) : List (String × Json) :=
    [("threshold_band", .string "unclassified"), ("window_seconds", .null),
      ("main_db_mtime_stale_across_window", .null), ("pinned_reader", .string "unobserved")] ++ more
  let classified (band : String) (windowDurationSeconds : Int) (signals : WalSignals) : List (String × Json) :=
    [("threshold_band", .string band), ("window_seconds", .number (.int windowDurationSeconds)),
      ("main_db_mtime_stale_across_window", .bool signals.mainDbMtimeStaleAcrossWindow),
      ("pinned_reader", .string signals.pinnedReader.asNoteText)]
  .object [("sqlite_wal_state", .object (match classification with
    | .noRowsInWindow => unclassified []
    | .latestRowStale _ ageSeconds => unclassified [("latest_observation_age_seconds", .number (.int ageSeconds))]
    | .insufficientSamples count needed =>
      unclassified [("samples", .number (.int count)), ("samples_required", .number (.int needed))]
    | .inaccessibleDb errorDetail => unclassified [("inaccessible_db_detail", .string errorDetail)]
    | .contradictory reason => unclassified [("contradiction_reason", .string reason)]
    | .boundedWal windowDurationSeconds signals => classified "bounded" windowDurationSeconds signals
    | .elevatedSustained windowDurationSeconds signals => classified "elevated" windowDurationSeconds signals
    | .severeSustained windowDurationSeconds signals => classified "severe" windowDurationSeconds signals))]

def mapClassificationToVerdict (c : WalClassification) (target : SqliteWalTarget) : Verdict × String :=
  let pair := "(host=" ++ target.host ++ ", db=" ++ target.dbFilePath ++ ")"
  let hours := toString (walWindowDurationSeconds / 3600)
  let decorations (signals : WalSignals) :=
    "Main DB mtime stale across window: " ++ toString signals.mainDbMtimeStaleAcrossWindow ++
    "; pinned-reader lock signal: " ++ signals.pinnedReader.asNoteText ++ "."
  match c with
  | .noRowsInWindow => (.insufficientCoverage, "No SQLite WAL probe has run for " ++ pair ++ " in the last " ++ hours ++
      "h; absence of observation is not affirmative testimony of WAL health.")
  | .latestRowStale observedAt ageSeconds =>
      (.staleTestimony, "Most recent SQLite WAL observation for " ++ pair ++ " is " ++
      toString ageSeconds ++ "s old (> " ++ toString walStaleThresholdSeconds ++ "s threshold) at observed_at " ++
        observedAt ++ "; WAL state evidence is stale.")
  | .insufficientSamples count needed => (.insufficientCoverage, "Probe has accumulated only " ++ toString count ++
      " samples for " ++ pair ++ " in the last " ++ hours ++ "h (need at least " ++ toString needed ++
      "); window-based testimony requires sustained coverage.")
  | .inaccessibleDb errorDetail => (.cannotTestify, "Probe could not stat (" ++ target.host ++ ", " ++
      target.dbFilePath ++ ") — substrate inaccessible from the probe's vantage (error_detail: " ++ errorDetail ++ ").")
  | .contradictory reason => (.contradictoryTestimony, "WAL observations for " ++ pair ++
      " record a substrate state combination that cannot describe a real filesystem; admitting either side is laundering. (" ++
      reason ++ ")")
  | .boundedWal windowDurationSeconds _ =>
      (.admissibleWithScope, "SQLite WAL pressure observed within bounded thresholds for " ++
      pair ++ " across " ++ toString windowDurationSeconds ++
        "s of observation. Scope: this testimony does not exclude " ++
      "transient bursts shorter than the probe interval.")
  | .elevatedSustained windowDurationSeconds signals => (.admissibleWithScope,
      "SQLite WAL has exceeded the elevated threshold sustained across " ++ toString windowDurationSeconds ++
        "s of observation for " ++
      pair ++ ". The substrate is bloated but does not meet the higher threshold. " ++ decorations signals)
  | .severeSustained windowDurationSeconds signals => (.admissibleWithScope,
      "SQLite WAL has exceeded the severe threshold sustained across " ++ toString windowDurationSeconds ++
        "s of observation for " ++ pair ++ ". " ++ decorations signals)

/-- The text the window starts at; `unwrap_or_default`. -/
def walWindowStart (crates : Crates) (now : Int) : String :=
  (crates.format (now - seconds walWindowDurationSeconds)).getD ""

/-- The rows a preflight at `now` looks at. -/
def walWindow (crates : Crates) (t : WalTable) (target : SqliteWalTarget) (now : Int) : List WalRow :=
  loadRecentWalObservations t target (walWindowStart crates now)

def evaluateSqliteWalStatePreflightAt (crates : Crates) (t : WalTable)
    (target : SqliteWalTarget) (now : Int) : PreflightResult :=
  let generatedAt := (crates.format now).getD ""
  let window := walWindow crates t target now
  let classification := classifyWindow crates window now
  let emitted := emitSupportsAndPackets crates window generatedAt classification
  let result := PreflightResult.discloseWindow
    { PreflightResult.skeleton .sqliteWalState ⟨target.host, "sqlite_wal", some target.dbFilePath⟩ generatedAt with
      supports := emitted.1
      excludes := emitted.2
      coverage := [⟨"sqlite_wal_probe", classification.standing, none⟩] }
  let verdict := mapClassificationToVerdict classification target
  PreflightResult.computeTimeBasis crates
    { result with
      freshnessHorizon := freshnessHorizonFrom crates result.observedAtMax walStaleThresholdSeconds
      verdict := verdict.1
      verdictNote := some verdict.2
      signals := some (buildSignals classification) }

/-! ## The window in order -/

/-- The rows of the history that the window is made of. -/
def recentRows (crates : Crates) (t : WalTable) (target : SqliteWalTarget) (now : Int) : List WalRow :=
  (t.history target).filter fun r => walWindowStart crates now ≤ r.obs.observedAt

instance : IsTrans WalRow WalRow.upTo := ⟨by
  rintro a b c (hab | ⟨hab, hid⟩) (hbc | ⟨hbc, hid'⟩)
  · exact Or.inl (hab.trans hbc)
  · exact Or.inl (hbc ▸ hab)
  · exact Or.inl (hab ▸ hbc)
  · exact Or.inr ⟨hab.trans hbc, hid.trans hid'⟩⟩

instance : Std.Total WalRow.upTo := ⟨by
  intro a b
  rcases lt_trichotomy a.obs.observedAt b.obs.observedAt with h | h | h
  · exact Or.inl (Or.inl h)
  · rcases le_total a.observationId b.observationId with hid | hid
    · exact Or.inl (Or.inr ⟨h, hid⟩)
    · exact Or.inr (Or.inr ⟨h.symm, hid⟩)
  · exact Or.inr (Or.inl h)⟩

theorem WalRow.upTo_refl (a : WalRow) : a.upTo a := Or.inr ⟨rfl, le_refl _⟩

variable {a b : WalRow}

theorem WalRow.upTo.le (h : a.upTo b) : a.obs.observedAt ≤ b.obs.observedAt := by
  rcases h with h | ⟨h, _⟩
  · exact h.le
  · exact h.le

theorem WalRow.upTo.id_eq (hab : a.upTo b) (hba : b.upTo a) : a.observationId = b.observationId := by
  rcases hab with h | ⟨_, h⟩
  · exact absurd hba.le (not_le.mpr h)
  · rcases hba with h' | ⟨e, h'⟩
    · exact absurd h' (by simp_all)
    · exact le_antisymm h h'

section

variable {crates : Crates} {t : WalTable} {target : SqliteWalTarget} {now : Int}

theorem mem_walWindow {r : WalRow} : r ∈ walWindow crates t target now ↔ r ∈ recentRows crates t target now :=
  (perm_insertionSort _ _).mem_iff

theorem length_walWindow : (walWindow crates t target now).length = (recentRows crates t target now).length :=
  (perm_insertionSort _ _).length_eq

theorem walWindow_pairwise : (walWindow crates t target now).Pairwise WalRow.upTo := pairwise_insertionSort _ _

end

section

variable {window : List WalRow} (hsorted : window.Pairwise WalRow.upTo)

include hsorted

theorem upTo_of_head {a : WalRow} (h : window.head? = some a) : ∀ r ∈ window, a.upTo r := by
  cases window with
  | nil => cases h
  | cons b rest =>
    cases h
    intro r hr
    rcases mem_cons.mp hr with rfl | hr
    · exact r.upTo_refl
    · exact rel_of_pairwise_cons hsorted hr

theorem upTo_of_getLast {b : WalRow} (h : window.getLast? = some b) : ∀ r ∈ window, r.upTo b := by
  obtain ⟨rest, rfl⟩ := getLast?_eq_some_iff.mp h
  intro r hr
  rcases mem_append.mp hr with hr | hr
  · exact (pairwise_append.mp hsorted).2.2 r hr b mem_cons_self
  · rw [mem_singleton.mp hr]
    exact b.upTo_refl

end

/-! ## What is admissible -/

def WalTable.delete (t : WalTable) (p : WalRow → Bool) : WalTable :=
  ⟨t.table.delete p, fun r hr => t.checked r (mem_of_mem_filter hr)⟩

section

variable {crates : Crates} {t : WalTable} {target : SqliteWalTarget} {now : Int}

/-- The window without the deleted rows, in the same order. -/
theorem walWindow_delete (p : WalRow → Bool) :
    walWindow crates (t.delete p) target now = (walWindow crates t target now).filter (!p ·) := by
  have hrows : recentRows crates (t.delete p) target now = (recentRows crates t target now).filter (!p ·) := by
    unfold recentRows WalTable.history WalTable.delete
    rw [Table.rows_delete, filter_filter, filter_filter, filter_filter, filter_filter]
    refine filter_congr fun r _ => ?_
    cases p r <;> simp
  have hperm : (walWindow crates (t.delete p) target now).Perm ((walWindow crates t target now).filter (!p ·)) := by
    have hwindow : (recentRows crates t target now).Perm (walWindow crates t target now) :=
      (perm_insertionSort _ _).symm
    have hdeleted : (walWindow crates (t.delete p) target now).Perm (recentRows crates (t.delete p) target now) :=
      perm_insertionSort _ _
    exact hdeleted.trans (hrows ▸ hwindow.filter _)
  refine hperm.eq_of_pairwise (fun a b ha hb hab hba => ?_) walWindow_pairwise (walWindow_pairwise.filter _)
  have hmem : ∀ {r : WalRow}, r ∈ walWindow crates t target now → r ∈ t.table.rows :=
    fun hr => mem_of_mem_filter (mem_of_mem_filter (mem_walWindow.mp hr))
  have ha' := mem_of_mem_filter (hperm.mem_iff.mp ha)
  exact inj_on_of_nodup_map t.table.nodup (hmem ha') (hmem (mem_of_mem_filter hb)) (hab.id_eq hba)

/-- The answer is admissible with scope exactly where the window is past the gates; then the
    rows that project are the supports. -/
theorem evaluateSqliteWal_admissible :
    (evaluateSqliteWalStatePreflightAt crates t target now).verdict = .admissibleWithScope ↔
    Classifiable crates (walWindow crates t target now) now := by
  unfold evaluateSqliteWalStatePreflightAt
  rw [verdict_computeTimeBasis]
  dsimp only
  rcases classifyWindow_cases crates (walWindow crates t target now) now with
    ⟨hc, duration, signals, ⟨_, e⟩ | ⟨_, _, e⟩ | ⟨_, _, e⟩⟩ | ⟨hc, ⟨_, e⟩ | ⟨_, e⟩ | e | ⟨_, _, e⟩ | ⟨_, _, e⟩⟩ <;>
      rw [e] <;>
    simp [mapClassificationToVerdict, hc]

theorem evaluateSqliteWal_supported (hc : Classifiable crates (walWindow crates t target now) now) :
    (evaluateSqliteWalStatePreflightAt crates t target now).supports =
        supportAdmitted (projectWalObservation crates · ((crates.format now).getD ""))
          (fun o packet => { o.makeSupport with witnessPacket := packetIdentity crates.codec packet })
          (walWindow crates t target now) ∧
      (evaluateSqliteWalStatePreflightAt crates t target now).observedAtMax =
        ((evaluateSqliteWalStatePreflightAt crates t target now).supports.filterMap
          PreflightSupport.observedAt).max? := by
  unfold evaluateSqliteWalStatePreflightAt
  rw [supports_computeTimeBasis, observedAtMax_computeTimeBasis]
  dsimp only
  rcases classifyWindow_cases crates (walWindow crates t target now) now with
    ⟨_, duration, signals, ⟨_, e⟩ | ⟨_, _, e⟩ | ⟨_, _, e⟩⟩ | ⟨hn, _⟩
  · rw [e]
    exact ⟨rfl, rfl⟩
  · rw [e]
    exact ⟨rfl, rfl⟩
  · rw [e]
    exact ⟨rfl, rfl⟩
  · exact absurd hc hn

theorem projectWalObservation_validates {r : WalRow} {generatedAt : String} {packet : WitnessPacket}
    (h : projectWalObservation crates r generatedAt = .ok packet) : packet.validate crates.codec = .ok () := by
  unfold projectWalObservation at h
  refine validates_refusedAs ?_ h
  repeat refine validates_bind fun _ => ?_
  cases r.obs.walMtime with
  | none => exact validates_validated
  | some raw => exact validates_bind fun _ => validates_validated

end

end Nq.Preflight
