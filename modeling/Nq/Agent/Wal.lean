/-
  Nq.Agent.Wal — the WAL probe of the monitor agent
  (`nq-monitor-agent/src/collect/sqlite_wal_probe.rs`).

  One row for each target and cycle, a failed `stat` among them. The probe never opens the
  database; whether somebody reads it is told by the file locks on the `-shm` sidecar.

  - `probeOne_check`: every row is one that the table takes.
  - `a_reader_signal_is_a_held_lock`: what a row tells of readers is whether the kernel lists a
    lock that is held on the sidecar, and nothing where the probe could not look.
-/

import Nq.Agent.Locks
import Nq.Store.Pull

namespace Nq.Agent

/-! ## The file system -/

inductive ErrorKind where
  | notFound | permissionDenied
  | other (debug : String)
  deriving DecidableEq, Repr

structure IoError where
  kind : ErrorKind
  display : String
  deriving DecidableEq, Repr

/-- `std::fs::Metadata`: a length is an `off_t`, an instant is in nanoseconds. -/
structure Metadata where
  len : UInt64
  modified : Except IoError Int
  major : UInt32
  minor : UInt32
  ino : UInt64
  len_off : len.toNat < 2 ^ 63

def Metadata.dev (m : Metadata) : UInt64 := makedev m.major m.minor

/-- A path with its links resolved: what `stat` says of it, and its text. -/
structure Canonical where
  metadata : Except IoError Metadata
  text : String

/-- What the file system answers while one target is probed. -/
structure Disk where
  canonicalize : String → Except IoError Canonical
  metadata : String → Except IoError Metadata
  readToString : String → Except IoError (List Char)

/-! ## The configuration -/

structure SqliteWalTargetConfig where
  dbFilePath : String
  deriving DecidableEq, Repr

/-- What of the agent's configuration its probes read. -/
structure PublisherConfig where
  sqliteWalTargets : List SqliteWalTargetConfig := []
  sqliteWalProcLocksEnabled : Bool := true
  nqBinaryPath : Option String := none

section

-- `OffsetDateTime::format`
variable (format : Int → Option String)

def formatRfc3339 (t : Int) : String := (format t).getD ""

/-! ## The locks on the sidecar -/

structure ProcOutcome where
  procAccess : String
  pinnedReaderPresent : Option Bool
  deriving DecidableEq, Repr

def ProcOutcome.notAttempted : ProcOutcome := ⟨"not_attempted", none⟩
def ProcOutcome.observed (present : Bool) : ProcOutcome := ⟨"observed", some present⟩
def ProcOutcome.permissionDenied : ProcOutcome := ⟨"permission_denied", none⟩
def ProcOutcome.unavailable : ProcOutcome := ⟨"unavailable", none⟩

def classifyShmStatError (err : IoError) : ProcOutcome :=
  match err.kind with
  | .notFound => .observed false
  | .permissionDenied => .permissionDenied
  | .other _ => .unavailable

def classifyProcLocksReadError (err : IoError) : ProcOutcome :=
  match err.kind with
  | .permissionDenied => .permissionDenied
  | _ => .unavailable

def checkProcLocks (disk : Disk) (shmPath procLocksPath : String) : ProcOutcome :=
  match disk.metadata shmPath with
  | .error err => classifyShmStatError err
  | .ok shm =>
    match disk.readToString procLocksPath with
    | .error err => classifyProcLocksReadError err
    | .ok body => .observed (0 < countInodeMatches body shm.dev shm.ino)

/-! ## Rows -/

def classifyError (err : IoError) : String × String :=
  match err.kind with
  | .notFound => ("target_missing", "main DB file does not exist at declared path")
  | .permissionDenied => ("permission_denied", "permission denied reading main DB metadata")
  | .other debug => ("stat_error", "stat failed: " ++ debug ++ ": " ++ err.display)

/-- The locks are not looked at. -/
def errorRow (dbFilePath observedAt : String) (err : IoError) : WalObservation where
  dbFilePath := dbFilePath
  observationStatus := (classifyError err).1
  procAccess := "not_attempted"
  observedAt := observedAt
  errorDetail := some (classifyError err).2

/-- What the sidecar adds: absence is no error. -/
def walSidecar (disk : Disk) (walPath : String) : Except IoError (Bool × Int × Option String) :=
  match disk.metadata walPath with
  | .ok m => .ok (true, m.len.toInt64.toInt, m.modified.toOption.map (formatRfc3339 format))
  | .error err => if err.kind = .notFound then .ok (false, 0, none) else .error err

/-- The length and the time of the main file, and what its WAL adds. -/
def statTarget (disk : Disk) (canonical : Canonical) : Except IoError (Int × Int × Bool × Int × Option String) := do
  let main ← canonical.metadata
  let modified ← main.modified
  let (walPresent, walBytes, walMtime) ← walSidecar format disk (canonical.text ++ "-wal")
  return (main.len.toInt64.toInt, modified, walPresent, walBytes, walMtime)

def probeOne (disk : Disk) (dbFilePath : String) (procLocksPath : Option String) (observedAt : Int) : WalObservation :=
  let observedAt := formatRfc3339 format observedAt
  match disk.canonicalize dbFilePath with
  | .error err => errorRow dbFilePath observedAt err
  | .ok canonical =>
    match statTarget format disk canonical with
    | .error err => errorRow dbFilePath observedAt err
    | .ok (dbBytes, modified, walPresent, walBytes, walMtime) =>
      let outcome := (procLocksPath.map (checkProcLocks disk (canonical.text ++ "-shm"))).getD .notAttempted
      { dbFilePath
        observationStatus := "observed"
        walPresent := some walPresent
        walBytes := some walBytes
        walMtime
        dbBytes := some dbBytes
        dbMtime := some (formatRfc3339 format modified)
        procAccess := outcome.procAccess
        pinnedReaderPresent := outcome.pinnedReaderPresent
        observedAt }

def procLocksPath : String := "/proc/locks"

/-- The targets are probed one after another, each on the file system as it is by then. -/
def collectWal (config : PublisherConfig) (disk : String → Disk)
    (now : Int) : CollectorPayload (List WalObservation) where
  status := .ok
  collectedAt := some (formatRfc3339 format now)
  data := some (config.sqliteWalTargets.map fun target =>
    probeOne format (disk target.dbFilePath) target.dbFilePath
      (if config.sqliteWalProcLocksEnabled then some procLocksPath else none) now)

end

/-- What is read of a payload is its data. -/
theorem data_of_reported {α : Type} {p : CollectorPayload α} {d : α} (h : d ∈ reported (some p)) : p.data = some d := by
  unfold reported at h
  by_cases hok : p.status = .ok
  · simpa [hok] using h
  · simp [hok] at h

/-! ## What the table takes -/

variable {format : Int → Option String} {disk : Disk} {dbFilePath : String} {locksPath : Option String} {now : Int}

theorem Metadata.bytes_nonneg (m : Metadata) : 0 ≤ m.len.toInt64.toInt := by
  have hbits : m.len.toInt64.toBitVec.toNat = m.len.toNat := rfl
  have hoff := m.len_off
  rw [Int64.toInt, BitVec.toInt_eq_toNat_cond, hbits]
  split <;> omega

/-- The reader is told of exactly where the locks were looked at. -/
structure ProcOutcome.Told (o : ProcOutcome) : Prop where
  known : o.procAccess ∈ ["observed", "unavailable", "permission_denied", "not_attempted"]
  looked : o.procAccess = "observed" ↔ o.pinnedReaderPresent.isSome = true

theorem checkProcLocks_told (disk : Disk) (shmPath locksPath : String) :
    (checkProcLocks disk shmPath locksPath).Told := by
  have hobserved : ∀ b, (ProcOutcome.observed b).Told :=
    fun b => ⟨by simp [ProcOutcome.observed], by simp [ProcOutcome.observed]⟩
  have hdenied : ProcOutcome.permissionDenied.Told := ⟨by decide, by decide⟩
  have hunavailable : ProcOutcome.unavailable.Told := ⟨by decide, by decide⟩
  unfold checkProcLocks
  rcases disk.metadata shmPath with err | shm
  · rcases hk : err.kind <;> simp [classifyShmStatError, hk, hobserved, hdenied, hunavailable]
  · rcases disk.readToString locksPath with err | body
    · rcases hk : err.kind <;> simp [classifyProcLocksReadError, hk, hdenied, hunavailable]
    · exact hobserved _

theorem errorRow_check (dbFilePath observedAt : String)
    (err : IoError) : (errorRow dbFilePath observedAt err).check = true := by
  rcases hk : err.kind <;> simp [errorRow, classifyError, hk, WalObservation.check]

theorem walSidecar_ok {walPath : String} {present : Bool} {bytes : Int} {mtime : Option String}
    (h : walSidecar format disk walPath = .ok (present, bytes, mtime)) : 0 ≤ bytes ∧
      (present = true ∨ bytes = 0 ∧ mtime = none) := by
  unfold walSidecar at h
  rcases hm : disk.metadata walPath with err | m
  · simp only [hm] at h
    split at h <;> cases h
    simp
  · simp only [hm, Except.ok.injEq, Prod.mk.injEq] at h
    obtain ⟨rfl, rfl, -⟩ := h
    exact ⟨m.bytes_nonneg, .inl rfl⟩

theorem statTarget_ok {canonical : Canonical} {dbBytes modified walBytes : Int}
    {walPresent : Bool} {walMtime : Option String}
    (h : statTarget format disk canonical = .ok (dbBytes, modified, walPresent, walBytes, walMtime)) :
    0 ≤ dbBytes ∧ 0 ≤ walBytes ∧ (walPresent = true ∨ walBytes = 0 ∧ walMtime = none) := by
  unfold statTarget at h
  obtain ⟨main, -, h⟩ := Sql.bind_ok.mp h
  obtain ⟨modified', -, h⟩ := Sql.bind_ok.mp h
  obtain ⟨⟨present, bytes, mtime⟩, hwal, h⟩ := Sql.bind_ok.mp h
  cases h
  exact ⟨main.bytes_nonneg, walSidecar_ok hwal⟩

/-- Every row: of the error at which the target was given up, or of what was found. -/
theorem probeOne_cases (format : Int → Option String) (disk : Disk)
    (dbFilePath : String) (locksPath : Option String) (now : Int) :
    (∃ err, probeOne format disk dbFilePath locksPath now = errorRow dbFilePath (formatRfc3339 format now) err ∧
      ∀ canonical stats, disk.canonicalize dbFilePath = .ok canonical → statTarget format disk canonical ≠ .ok stats) ∨
    ∃ canonical dbBytes modified walPresent walBytes walMtime outcome,
      disk.canonicalize dbFilePath = .ok canonical ∧
      statTarget format disk canonical = .ok (dbBytes, modified, walPresent, walBytes, walMtime) ∧
      outcome = (locksPath.map (checkProcLocks disk (canonical.text ++ "-shm"))).getD .notAttempted ∧
      probeOne format disk dbFilePath locksPath now =
        { dbFilePath
          observationStatus := "observed"
          walPresent := some walPresent
          walBytes := some walBytes
          walMtime
          dbBytes := some dbBytes
          dbMtime := some (formatRfc3339 format modified)
          procAccess := outcome.procAccess
          pinnedReaderPresent := outcome.pinnedReaderPresent
          observedAt := formatRfc3339 format now } := by
  unfold probeOne
  rcases hcanonical : disk.canonicalize dbFilePath with err | canonical
  · exact .inl ⟨err, rfl, fun _ _ hc => nomatch hc⟩
  · rcases hstat : statTarget format disk canonical with err | stats
    · refine .inl ⟨err, by simp only [hstat], ?_⟩
      intro _ _ hc
      cases hc
      simp [hstat]
    · exact .inr ⟨canonical, _, _, _, _, _, _, rfl, hstat, rfl, by simp only [hstat]⟩

theorem outcome_told (disk : Disk) (shmPath : String) (locksPath : Option String) :
    ((locksPath.map (checkProcLocks disk shmPath)).getD .notAttempted).Told := by
  cases locksPath with
  | none => exact show ProcOutcome.notAttempted.Told from ⟨by decide, by decide⟩
  | some path => exact checkProcLocks_told ..

/-- Every row is one that the table takes. -/
theorem probeOne_check (disk : Disk) (dbFilePath : String) (locksPath : Option String) (now : Int) :
    (probeOne format disk dbFilePath locksPath now).check = true := by
  rcases probeOne_cases format disk dbFilePath locksPath now with
    ⟨_, hrow, -⟩ | ⟨_, dbBytes, _, walPresent, walBytes, walMtime, outcome, -, hstat, houtcome, hrow⟩
  · rw [hrow, errorRow_check]
  · obtain ⟨hdb, hwal, habsent⟩ := statTarget_ok hstat
    obtain ⟨hknown, hlooked⟩ : outcome.Told := houtcome ▸ outcome_told ..
    rw [hrow]
    rcases hreader : outcome.pinnedReaderPresent with _ | present
    · have haccess : outcome.procAccess ≠ "observed" := by simpa [hreader] using hlooked
      simp [WalObservation.check, haccess, hdb, hwal, habsent]
      simpa [haccess] using hknown
    · have haccess : outcome.procAccess = "observed" := by simpa [hreader] using hlooked
      simp [WalObservation.check, haccess, hdb, hwal, habsent]

/-! ## What a row tells of readers -/

/-- The answer of the locks that are listed, if the sidecar and the list can be read. -/
def readerSignal (disk : Disk) (locks : List Lock) (shmPath : String) : Option Bool :=
  match disk.metadata shmPath, disk.readToString procLocksPath with
  | .error err, _ => if err.kind = .notFound then some false else none
  | .ok _, .error _ => none
  | .ok shm, .ok _ => some (locks.any (·.holds shm.major shm.minor shm.ino))

theorem checkProcLocks_signal {locks : List Lock}
    (hlists : ∀ body, disk.readToString procLocksPath = .ok body → Lists body locks)
    (shmPath : String) : (checkProcLocks disk shmPath procLocksPath).pinnedReaderPresent =
      readerSignal disk locks shmPath := by
  unfold checkProcLocks readerSignal
  rcases hshm : disk.metadata shmPath with err | shm
  · rcases hk : err.kind <;>
      simp [classifyShmStatError, hk, ProcOutcome.observed, ProcOutcome.permissionDenied, ProcOutcome.unavailable]
  · rcases hbody : disk.readToString procLocksPath with err | body
    · rcases hk : err.kind <;>
        simp [classifyProcLocksReadError, hk, ProcOutcome.permissionDenied, ProcOutcome.unavailable]
    · have hcount := countInodeMatches_lists (hlists body hbody) shm.major shm.minor shm.ino
      simp only [ProcOutcome.observed, Metadata.dev, hcount, Option.some.injEq]
      rw [Bool.eq_iff_iff]
      simp [List.length_pos_iff_exists_mem]

/-- A row of a target that can be read tells what the kernel's list says of the locks held on its
    sidecar; no other row tells anything. -/
theorem a_reader_signal_is_a_held_lock {locks : List Lock}
    (hlists : ∀ body, disk.readToString procLocksPath = .ok body → Lists body locks) (told : Bool) :
    (probeOne format disk dbFilePath (some procLocksPath) now).pinnedReaderPresent = some told ↔
      ∃ canonical stats, disk.canonicalize dbFilePath = .ok canonical ∧ statTarget format disk canonical = .ok stats ∧
        readerSignal disk locks (canonical.text ++ "-shm") = some told := by
  rcases probeOne_cases format disk dbFilePath (some procLocksPath) now with
    ⟨err, hrow, hstopped⟩ | ⟨canonical, _, _, _, _, _, outcome, hcanonical, hstat, houtcome, hrow⟩
  · rw [hrow]
    refine iff_of_false (by simp [errorRow]) ?_
    rintro ⟨canonical, stats, hcanonical, hstat, -⟩
    exact hstopped canonical stats hcanonical hstat
  · have hsignal : outcome.pinnedReaderPresent = readerSignal disk locks (canonical.text ++ "-shm") := by
      rw [houtcome]
      exact checkProcLocks_signal hlists _
    rw [hrow, hsignal]
    constructor
    · intro h
      exact ⟨canonical, _, hcanonical, hstat, h⟩
    · intro h
      obtain ⟨canonical', _, hsame, -, h⟩ := h
      obtain rfl := Except.ok.inj (hcanonical.symm.trans hsame)
      exact h

/-! ## A reader and a waiter -/

def sidecar : Metadata := ⟨32768, .ok 0, 253, 1, 9876543, by decide⟩

def readerLine : String := "1: POSIX  ADVISORY  WRITE 12345 fd:01:9876543 0 EOF"

def waiterLine : String := "1: -> POSIX  ADVISORY  WRITE 12346 fd:01:9876543 0 EOF"

def diskListing (lines : String) : Disk where
  canonicalize path := .ok ⟨.ok sidecar, path⟩
  metadata _ := .ok sidecar
  readToString _ := .ok lines.toList

def readerLock : Lock where
  ordinal := "1:".toList
  waits := false
  kind := "POSIX".toList
  mode := "ADVISORY".toList
  access := "WRITE".toList
  pid := "12345".toList
  major := 253
  minor := 1
  inode := 9876543
  extent := ["0".toList, "EOF".toList]
  pid_plain := by decide

def waiterLock : Lock := { readerLock with waits := true, pid := "12346".toList, pid_plain := by decide }

theorem lists_lines : Lists waiterLine.toList [waiterLock] ∧
    Lists (readerLine ++ "\n" ++ waiterLine).toList [readerLock, waiterLock] := by
  unfold Lists
  decide +kernel

/-- A lock that only waits is no reader; the one it waits for is. -/
theorem a_waiting_lock_is_no_reader :
    (probeOne (fun _ => none) (diskListing waiterLine) "/var/lib/nq.db"
      (some procLocksPath) 0).pinnedReaderPresent = some false ∧
      (probeOne (fun _ => none) (diskListing (readerLine ++ "\n" ++ waiterLine)) "/var/lib/nq.db" (some procLocksPath) 0
        ).pinnedReaderPresent = some true := by
  have hwaiter : ∀ body, (diskListing waiterLine).readToString procLocksPath = .ok body → Lists body [waiterLock] := by
    intro body hbody
    cases hbody
    exact lists_lines.1
  have hboth : ∀ body, (diskListing (readerLine ++ "\n" ++ waiterLine)).readToString procLocksPath = .ok body →
      Lists body [readerLock, waiterLock] := by
    intro body hbody
    cases hbody
    exact lists_lines.2
  exact ⟨(a_reader_signal_is_a_held_lock hwaiter false).mpr ⟨_, _, rfl, rfl, by decide +kernel⟩,
    (a_reader_signal_is_a_held_lock hboth true).mpr ⟨_, _, rfl, rfl, by decide +kernel⟩⟩

end Nq.Agent
