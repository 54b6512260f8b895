/-
  Nq.Agent.Provenance — where the rows of the WAL table come from (`nq-monitor/src/pull/mod.rs`
  over `nq-monitor-agent/src/collect/mod.rs`).

  A store is run on what its fleet answers, cycle after cycle, beside everything else that a
  monitor does to it. The log keeps which cycle became which generation.

  - `wal_rows_are_probes`: every row of the table is what a configured source's agent saw when it
    probed one of its targets, in the cycle of that generation.
  - `a_pinned_reader_was_a_held_lock`: so a preflight that tells of a pinned reader rests on a lock
    that the kernel of that host listed as held on the `-shm` sidecar of that database.
-/

import Nq.Agent.Wal
import Nq.Preflight.Clock
import Nq.Preflight.WalState

namespace Nq.Agent

open List

/-! ## Answers -/

/-- What a source does when it is asked: fail to answer, or run its collectors. What the others of
    them find is `rest`. -/
inductive Source where
  | silent (e : FetchError)
  | agent (config : PublisherConfig) (walDisk : String → Disk) (now : Int) (rest : PublisherState)

section

variable (format : Int → Option String)

/-- `collect_state`, as it arrives. -/
def Source.fetched : Source → Except FetchError PublisherState
  | .silent e => .error e
  | .agent config walDisk now rest =>
    .ok { rest with
      collectors := { rest.collectors with sqliteWalObservations := some (collectWal format config walDisk now) } }

/-! ## Runs -/

/-- How the sources answer in a cycle. -/
structure Cycle where
  startedAt : String
  completedAt : String
  fleet : String → Source

variable (labelsJson : List (String × String) → String) (sources : List String)

/-- What a cycle reports of the configured sources. -/
def Cycle.report (c : Cycle) : Report :=
  pullAll labelsJson c.startedAt c.completedAt (sources.map fun source => (source, (c.fleet source).fetched format))

variable (rfc3339 : String → Except String Int)

/-- The stores of a monitor that publishes nothing but its fleet's answers. -/
inductive Run : List (Int × Cycle) → Store → Prop
  | init (queries : SavedQueries) (policies : Sql.Table HistoryPolicy.pattern) :
      Run [] (.of { Db.init with savedQueries := queries, metricHistoryPolicy := policies })
  | publish {log : List (Int × Cycle)} {s s' : Store} {res : PublishResult} (c : Cycle) (hr : Run log s)
      (h : publishReport s (c.report format labelsJson sources) = .ok (s', res)) : Run ((res.generationId, c) :: log) s'
  | core {log : List (Int × Cycle)} {s : Store} {db : Db} (hr : Run log s) (h : CoreStep rfc3339 s.core db) : Run log
      { s with core := db }
  | observe {log : List (Int × Cycle)} {s : Store} (regime dns loop evaluator : List Int) (hr : Run log s)
      (hg : ∀ g ∈ regime ++ dns ++ loop ++ evaluator, g ∈ s.generationIds) :
      Run log { s with
        regimeFeatures := s.regimeFeatures ++ regime
        dnsObservations := s.dnsObservations ++ dns
        observationLoopAliveObservations := s.observationLoopAliveObservations ++ loop
        nqEvaluatorObservations := s.nqEvaluatorObservations ++ evaluator }
  | prune {log : List (Int × Cycle)} {s s' : Store} {stats : PruneStats} (maxGenerations : Nat) (now : String)
      (hr : Run log s)
      (h : prune s maxGenerations now = .ok (s', stats)) : Run log s'

end

section

variable {format : Int → Option String} {labelsJson : List (String × String) → String} {sources : List String}
  {rfc3339 : String → Except String Int} {log : List (Int × Cycle)} {s s' : Store}

/-! ## One report -/

theorem walObservations_publishReport {r : Report} {res : PublishResult} (h : publishReport s r = .ok (s', res)) :
    s'.walObservations = s.walObservations ++ historyRows res.generationId r.walObservationSets := by
  obtain ⟨core, s₁, s₂, s₃, -, h₁, h₂, h₃, h₄⟩ := publishReport_ok h
  have hzfs := Sql.foldlM_keeps (fun _ _ _ => witnessless_publishZfsReport) h₂
  have hsmart := Sql.foldlM_keeps (fun _ _ _ => witnessless_publishSmartReport) h₃
  have hgpu := Sql.foldlM_keeps (fun _ _ _ => witnessless_publishGpuWitness) h₄
  have hruns : s₁.walObservations = s.walObservations ++ historyRows res.generationId r.walObservationSets := by
    obtain ⟨_, -, h₁⟩ := Sql.bind_ok.mp h₁
    obtain ⟨_, -, h₁⟩ := Sql.bind_ok.mp h₁
    obtain ⟨_, -, h₁⟩ := Sql.bind_ok.mp h₁
    obtain ⟨wal, hwal, h₁⟩ := Sql.bind_ok.mp h₁
    obtain ⟨_, -, h₁⟩ := Sql.bind_ok.mp h₁
    cases h₁
    rw [(checked_ok.mp hwal).2]
  exact (congrArg Store.walObservations (hgpu.trans (hsmart.trans hzfs))).trans hruns

/-- The observation is what the agent of a source saw when it probed a target of its own. -/
structure Probed (format : Int → Option String) (sources : List String) (fleet : String → Source) (host : String)
    (row : WalObservation) : Prop where
  configured : host ∈ sources
  probe : ∃ config walDisk now rest, fleet host = .agent config walDisk now rest ∧
    ∃ target ∈ config.sqliteWalTargets, row = probeOne format (walDisk target.dbFilePath) target.dbFilePath
      (if config.sqliteWalProcLocksEnabled then some procLocksPath else none) now

/-- What an agent sends of its probes gets there as it is. -/
theorem fetched_wal {source : Source} {state : PublisherState} {rows : List WalObservation}
    (h : source.fetched format = .ok state) (hrows : rows ∈ reported state.collectors.sqliteWalObservations) :
    ∃ config walDisk now rest, source = .agent config walDisk now rest ∧
      rows = config.sqliteWalTargets.map fun target => probeOne format (walDisk target.dbFilePath) target.dbFilePath
        (if config.sqliteWalProcLocksEnabled then some procLocksPath else none) now := by
  rcases source with e | ⟨config, walDisk, now, rest⟩
  · cases h
  · obtain rfl := Except.ok.inj h
    exact ⟨config, walDisk, now, rest, rfl, (Option.some.inj (data_of_reported hrows)).symm⟩

theorem accepted_some {a : String × Except FetchError PublisherState}
    {x : String × PublisherState} (h : accepted a = some x) :
    x.1 = a.1 ∧ a.2 = .ok x.2 := by
  unfold accepted at h
  rcases hanswer : a.2 with e | state
  · simp [hanswer] at h
  · simp only [hanswer, Option.ite_none_right_eq_some, Option.some.injEq] at h
    obtain ⟨-, rfl⟩ := h
    exact ⟨rfl, rfl⟩

theorem walObservationSets_report (c : Cycle) {set : HostSet WalObservation}
    (hset : set ∈ (c.report format labelsJson sources).walObservationSets) {row : WalObservation}
    (hrow : row ∈ set.rows) :
    Probed format sources c.fleet set.host row := by
  rw [show (c.report format labelsJson sources).walObservationSets = _ from filterMap_oks Pulled.walObservationSet]
    at hset
  obtain ⟨x, hx, hentry⟩ := mem_filterMap.mp hset
  obtain ⟨a, ha, haccepted⟩ := mem_filterMap.mp hx
  obtain ⟨source, hsource, rfl⟩ := List.mem_map.mp ha
  obtain ⟨hname, hfetched⟩ := accepted_some haccepted
  obtain ⟨t, ht⟩ := payloadEntry_eq x.2.collectedAt (HostSet.mk x.1) x.2.collectors.sqliteWalObservations
  obtain ⟨rows, hrows, rfl⟩ := Option.map_eq_some_iff.mp (ht.symm.trans hentry)
  obtain ⟨config, walDisk, now, rest, hagent, rfl⟩ := fetched_wal hfetched hrows
  obtain ⟨target, htarget, rfl⟩ := List.mem_map.mp hrow
  rw [hname]
  exact ⟨hsource, config, walDisk, now, rest, hagent, target, htarget, rfl⟩

/-! ## Every row of the table -/

theorem walObservations_prune {maxGenerations : Nat} {now : String} {stats : PruneStats}
    (h : prune s maxGenerations now = .ok (s', stats)) :
    s'.walObservations ⊆ s.walObservations := by
  by_cases hmany : maxGenerations < s.generationIds.length
  · obtain ⟨low, high, -, -, -, rfl, -⟩ := (prune_ok hmany).mp h
    exact filter_subset_self _
  · unfold prune at h
    rw [if_pos (by omega)] at h
    cases h
    exact List.Subset.refl _

/-- A row of a cycle is recorded under its generation and stays what was probed. -/
theorem wal_rows_are_probes (h : Run format labelsJson sources rfc3339 log s) :
    ∀ r ∈ s.walObservations, ∃ c, (r.generationId, c) ∈ log ∧ Probed format sources c.fleet r.host r.row := by
  induction h with
  | init queries policies =>
    intro r hr
    cases hr
  | publish c hrun h ih =>
    intro r hr
    rw [walObservations_publishReport h] at hr
    rcases mem_append.mp hr with hr | hr
    · obtain ⟨c', hc', hprobed⟩ := ih r hr
      exact ⟨c', mem_cons_of_mem _ hc', hprobed⟩
    · obtain ⟨set, hset, hr⟩ := mem_flatMap.mp hr
      obtain ⟨row, hrow, rfl⟩ := List.mem_map.mp hr
      exact ⟨c, mem_cons_self .., walObservationSets_report c hset hrow⟩
  | core _ _ ih => exact ih
  | observe _ _ _ _ _ _ ih => exact ih
  | prune maxGenerations now hrun h ih => exact fun r hr => ih r (walObservations_prune h hr)

end

/-! ## A pinned reader -/

/-- A row of the preflight as the table stores it. -/
def columns (o : Preflight.WalObservation) : History WalObservation where
  generationId := o.generationId
  host := o.host
  row :=
    { dbFilePath := o.dbFilePath
      observationStatus := o.observationStatus.asStr
      walPresent := o.walPresent
      walBytes := o.walBytes
      walMtime := o.walMtime
      dbBytes := o.dbBytes
      dbMtime := o.dbMtime
      procAccess := o.procAccess.asStr
      pinnedReaderPresent := o.pinnedReaderPresent
      pinnedReaderPid := o.pinnedReaderPid
      pinnedReaderCommand := o.pinnedReaderCommand
      observedAt := o.observedAt
      errorDetail := o.errorDetail }

/-- The preflight reads the table of the store. -/
def ReadsFrom (t : Preflight.WalTable) (s : Store) : Prop :=
  (t.table.rows.map fun r => columns r.obs) = s.walObservations

/-- The kernel of the host listed a lock as held on the sidecar of the database. -/
structure HeldThere (sources : List String) (fleet : String → Source) (target : Preflight.SqliteWalTarget) : Prop where
  configured : target.host ∈ sources
  held : ∃ config walDisk now rest, fleet target.host = .agent config walDisk now rest ∧
    config.sqliteWalProcLocksEnabled = true ∧ ⟨target.dbFilePath⟩ ∈ config.sqliteWalTargets ∧
    ∃ canonical, (walDisk target.dbFilePath).canonicalize target.dbFilePath = .ok canonical ∧
      ∀ locks, (∀ body, (walDisk target.dbFilePath).readToString procLocksPath = .ok body → Lists body locks) →
        ∃ shm, (walDisk target.dbFilePath).metadata (canonical.text ++ "-shm") = .ok shm ∧
          ∃ lock ∈ locks, lock.holds shm.major shm.minor shm.ino = true

section

variable {format : Int → Option String} {disk : Disk} {dbFilePath : String} {locksPath : Option String} {now : Int}

theorem readerSignal_held {locks : List Lock} {shmPath : String} (h : readerSignal disk locks shmPath = some true) :
    ∃ shm, disk.metadata shmPath = .ok shm ∧ ∃ lock ∈ locks, lock.holds shm.major shm.minor shm.ino = true := by
  unfold readerSignal at h
  rcases hshm : disk.metadata shmPath with err | shm
  · simp [hshm] at h
  · rcases hbody : disk.readToString procLocksPath with err | body
    · simp [hshm, hbody] at h
    · simp only [hshm, hbody, Option.some.injEq, any_eq_true] at h
      exact ⟨shm, rfl, h⟩

theorem path_probeOne : (probeOne format disk dbFilePath locksPath now).dbFilePath = dbFilePath := by
  rcases probeOne_cases format disk dbFilePath locksPath now with
    ⟨_, hrow, -⟩ | ⟨_, _, _, _, _, _, _, -, -, -, hrow⟩
  · rw [hrow, errorRow]
  · rw [hrow]

/-- A row tells of a reader only where the locks were asked for and the database could be read. -/
theorem pinned_probeOne (h : (probeOne format disk dbFilePath locksPath now).pinnedReaderPresent = some true) :
    ∃ path canonical, locksPath = some path ∧ disk.canonicalize dbFilePath = .ok canonical ∧
      (checkProcLocks disk (canonical.text ++ "-shm") path).pinnedReaderPresent = some true := by
  rcases probeOne_cases format disk dbFilePath locksPath now with
    ⟨_, hrow, -⟩ | ⟨canonical, _, _, _, _, _, _, hcanonical, -, houtcome, hrow⟩
  · simp [hrow, errorRow] at h
  · rw [hrow, houtcome] at h
    rcases locksPath with _ | path
    · simp [ProcOutcome.notAttempted] at h
    · exact ⟨path, canonical, rfl, hcanonical, h⟩

end

section

variable {format : Int → Option String} {labelsJson : List (String × String) → String} {sources : List String}
  {rfc3339 : String → Except String Int} {log : List (Int × Cycle)} {s : Store}

theorem Probed.heldThere {fleet : String → Source} {host : String}
    {row : WalObservation} (h : Probed format sources fleet host row)
    (hreader : row.pinnedReaderPresent = some true) : HeldThere sources fleet ⟨host, row.dbFilePath⟩ := by
  obtain ⟨hsource, config, walDisk, now, rest, hagent, wal, hwal, rfl⟩ := h
  obtain ⟨path, canonical, hpath, hcanonical, hlocks⟩ := pinned_probeOne hreader
  rw [path_probeOne]
  by_cases hon : config.sqliteWalProcLocksEnabled = true
  · rw [if_pos hon] at hpath
    obtain rfl := Option.some.inj hpath
    refine ⟨hsource, config, walDisk, now, rest, hagent, hon, hwal, canonical, hcanonical, ?_⟩
    intro locks hlists
    exact readerSignal_held ((checkProcLocks_signal hlists _).symm.trans hlocks)
  · simp [hon] at hpath

/-- A signal is there only where a row of the window has it. -/
theorem pinnedReader_present {crates : Preflight.Crates} {window : List Preflight.WalRow} {duration : Int}
    (h : (Preflight.computeSignals crates window duration).pinnedReader = .present) :
    ∃ r ∈ window, r.obs.pinnedReaderPresent = some true := by
  unfold Preflight.computeSignals at h
  dsimp only at h
  split at h
  · cases h
  · split at h
    · obtain ⟨r, hr, hreader⟩ := any_eq_true.mp ‹_›
      exact ⟨r, (mem_filter.mp hr).1, of_decide_eq_true hreader⟩
    · cases h

/-- Where the window of a database, since whenever, tells of a pinned reader, an agent of its host was
    told by the kernel of a lock held on the database's sidecar, in a cycle that was recorded. -/
theorem a_pinned_reader_was_a_held_lock (hrun : Run format labelsJson sources rfc3339 log s) {t : Preflight.WalTable}
    (hreads : ReadsFrom t s) {crates : Preflight.Crates} {target : Preflight.SqliteWalTarget} {windowStart : String}
    {duration : Int}
    (hpresent : (Preflight.computeSignals crates (Preflight.loadRecentWalObservations t target windowStart)
      duration).pinnedReader =
      .present) : ∃ entry ∈ log, HeldThere sources entry.2.fleet target := by
  obtain ⟨r, hr, hreader⟩ := pinnedReader_present hpresent
  have hwindow : r ∈ (t.history target).filter fun r => windowStart ≤ r.obs.observedAt := (mem_insertionSort _).mp hr
  obtain ⟨hrow, htarget⟩ := mem_filter.mp (mem_filter.mp hwindow).1
  simp only [Preflight.WalRow.isOf, Bool.and_eq_true, decide_eq_true_eq] at htarget
  have hstored : columns r.obs ∈ s.walObservations := hreads ▸ mem_map_of_mem hrow
  obtain ⟨c, hc, hprobed⟩ := wal_rows_are_probes hrun (columns r.obs) hstored
  have hheld : HeldThere sources c.fleet ⟨r.obs.host, r.obs.dbFilePath⟩ := hprobed.heldThere hreader
  rw [htarget.1, htarget.2] at hheld
  exact ⟨_, hc, hheld⟩

end

/-! ## A reader of the monitor's own database -/

def newYear : Int → Option String := fun _ => some "1970-01-01T00:00:00Z"

def readerCycle : Cycle where
  startedAt := ""
  completedAt := ""
  fleet := fun _ => .agent { sqliteWalTargets := [⟨"/var/lib/nq.db"⟩] } (fun _ => diskListing readerLine) 0
    { schema := some publisherStateSchema, collectedAt := "1970-01-01T00:00:00Z", collectors := {} }

/-- The row that the preflight reads of that cycle. -/
def readerRow (generationId : Int) : Preflight.WalRow where
  observationId := 1
  obs :=
    { generationId
      host := "local-host"
      dbFilePath := "/var/lib/nq.db"
      observationStatus := .observed
      walPresent := some true
      walBytes := some 32768
      walMtime := some "1970-01-01T00:00:00Z"
      dbBytes := some 32768
      dbMtime := some "1970-01-01T00:00:00Z"
      procAccess := .observed
      pinnedReaderPresent := some true
      pinnedReaderPid := none
      pinnedReaderCommand := none
      observedAt := "1970-01-01T00:00:00Z"
      errorDetail := none }

def readerTable (generationId : Int) : Preflight.WalTable where
  table := ⟨[readerRow generationId], nodup_singleton _⟩
  checked := by
    intro r hr
    obtain rfl := mem_singleton.mp hr
    constructor <;> simp [readerRow]

def readerReport : Report := readerCycle.report newYear (fun _ => "\x7b\x7d") ["local-host"]

theorem readerReport_rows (g : Int) : historyRows g readerReport.walObservationSets = [columns (readerRow g).obs] := by
  have hprobed : probeOne newYear (diskListing readerLine) "/var/lib/nq.db" (some procLocksPath) 0 =
      (columns (readerRow g).obs).row :=
    show _ = (columns (readerRow 0).obs).row by decide +kernel
  have hsets : readerReport.walObservationSets = [⟨"local-host", "1970-01-01T00:00:00Z",
      [probeOne newYear (diskListing readerLine) "/var/lib/nq.db" (some procLocksPath) 0]⟩] := rfl
  rw [hsets, hprobed]
  rfl

theorem readerReport_recorded : ∃ s res, publishReport (.of Db.init) readerReport = .ok (s, res) := by
  have hrecorded : (publishReport (.of Db.init) readerReport).toOption.isSome = true := by decide +kernel
  obtain ⟨⟨s, res⟩, h⟩ := Option.isSome_iff_exists.mp hrecorded
  rcases hp : publishReport (.of Db.init) readerReport with e | p
  · rw [hp] at h
    cases h
  · exact ⟨p.1, p.2, rfl⟩

/-- A reader of the monitor's own database is told of after one cycle, and was there. -/
theorem the_reader_told_of_was_there : ∃ log s t, Run newYear (fun _ => "\x7b\x7d") ["local-host"] (fun _ =>
    .ok 0) log s ∧
    ReadsFrom t s ∧ ∃ entry ∈ log, HeldThere ["local-host"] entry.2.fleet ⟨"local-host", "/var/lib/nq.db"⟩ := by
  obtain ⟨s, res, h⟩ := readerReport_recorded
  have hfresh : Run newYear (fun _ => "\x7b\x7d") ["local-host"] (fun _ => .ok 0) [] (.of Db.init) :=
    .init ⟨.empty, nodup_nil⟩ .empty
  have hrun : Run newYear (fun _ => "\x7b\x7d") ["local-host"] (fun _ => .ok 0) [(res.generationId, readerCycle)] s :=
    .publish readerCycle hfresh h
  have hreads : ReadsFrom (readerTable res.generationId) s := by
    unfold ReadsFrom
    rw [walObservations_publishReport h, readerReport_rows]
    rfl
  have hwindow : (Preflight.computeSignals Preflight.dayCrates
    (Preflight.loadRecentWalObservations (readerTable res.generationId)
      ⟨"local-host", "/var/lib/nq.db"⟩ "") 0).pinnedReader = .present := by
    simp [Preflight.computeSignals, Preflight.loadRecentWalObservations, Preflight.WalTable.history, readerTable,
      Preflight.WalRow.isOf, readerRow]
  exact ⟨_, s, _, hrun, hreads, a_pinned_reader_was_a_held_lock hrun hreads hwindow⟩

end Nq.Agent
