/-
  Nq.Preflight.Latest — the latest generation, as three readers select it: the ingest
  preflight (`nq-db/src/preflight.rs`), the probes (`nq-monitor/src/probe.rs`) and the
  operator actions (`nq-db/src/finding_actions.rs`).

  Published reports and sweeps keep the generation committed last under the greatest id
  (`step_recorded`), and the operator actions select by it. The other two sort the texts of
  the completion stamps. So all three select the generation committed last exactly when its
  stamp sorts behind those of all other generations (`agree_iff`), and they do so through a
  whole run exactly when each report is published with such a stamp (`readers_agree_iff`).
  A clock set back breaks that, and so does one that runs on:
  `half_a_second_later_sorts_before`.
-/

import Nq.Preflight.IngestState
import Nq.Store.Pull
import Nq.Text.Instants

namespace Nq.Preflight

open List hiding le_of_lt lt_asymm lt_irrefl
open Sql (Table)
open Text (OffsetDateTime fmtTs)

/-! ## The readers -/

/-- `read_latest_generation_id`, along the same index as the preflight. -/
def readLatestGenerationId (generations : Table GenerationRow.generationId) : Except String Int :=
  match Sql.firstBy completedLater generations.rows with
  | some g => .ok g.generationId
  | none => .error ("no generations exist in this DB; the V0 probe writes observations within the latest aggregator generation. " ++
      "Start `nq-monitor serve` (or wait for one pull cycle) so a generation row exists, then re-run the probe.")

/-! ## Runs -/

/-- A committed publish, and the reading of the clock it was stamped with. -/
structure Committed where
  generationId : Int
  completedAt : OffsetDateTime
  deriving DecidableEq

/-- A store and what was ever committed to it, last first. -/
structure Ledger where
  store : Store
  log : List Committed

inductive Op where
  | publish (r : Report) (completedAt : OffsetDateTime)
  | prune (maxGenerations : Nat) (now : String)

def Report.completed (r : Report) (completedAt : OffsetDateTime) : Report :=
  { r with cycleCompletedAt := fmtTs completedAt }

/-- A transaction that fails is rolled back. -/
def step (l : Ledger) : Op → Ledger
  | .publish r completedAt =>
    match publishReport l.store (Report.completed r completedAt) with
    | .ok (s, res) => ⟨s, ⟨res.generationId, completedAt⟩ :: l.log⟩
    | .error _ => l
  | .prune maxGenerations now =>
    match prune l.store maxGenerations now with
    | .ok (s, _) => { l with store := s }
    | .error _ => l

def run (ops : List Op) (l : Ledger) : Ledger := ops.foldl step l

namespace Ledger

/-- The commits whose generations are kept. -/
def kept (l : Ledger) : List Committed := l.store.generationIds.filterMap fun g => l.log.find? (·.generationId = g)

/-- The generation committed last, of those that are kept. -/
def mostRecent (l : Ledger) : Option Committed := l.log.find? (·.generationId ∈ l.store.generationIds)

/-- Every reader selects the generation committed last. -/
structure Agree (l : Ledger) : Prop where
  ingest : ∀ runs, (loadLatestGeneration ⟨l.store.core.generations, runs⟩).map GenerationRow.generationId =
    l.mostRecent.map Committed.generationId
  probes : (readLatestGenerationId l.store.core.generations).toOption = l.mostRecent.map Committed.generationId
  actions : l.store.core.latestGeneration.map GenerationRow.generationId = l.mostRecent.map Committed.generationId

/-- The generation committed last is stamped behind all others. -/
def Dated (l : Ledger) : Prop :=
  ∀ last ∈ l.mostRecent, ∀ c ∈ l.kept, c.generationId ≠ last.generationId → c.completedAt.SortsBefore last.completedAt

/-- A report that is committed is stamped behind every generation there is. -/
def InTime (l : Ledger) : Op → Prop
  | .publish r completedAt => (publishReport l.store (Report.completed r completedAt)).isOk = true →
      ∀ c ∈ l.kept, c.completedAt.SortsBefore completedAt
  | .prune _ _ => True

/-- Every kept generation is in the log, and the one committed last has the greatest id. -/
structure Recorded (l : Ledger) : Prop where
  logged : ∀ row ∈ l.store.core.generations.rows, ∃ c, l.log.find? (·.generationId = row.generationId) = some c ∧
    row.completedAt = fmtTs c.completedAt
  last : l.store.generationIds ≠ [] → ∃ c, l.log.head? = some c ∧ c.generationId ∈ l.store.generationIds ∧
    ∀ g ∈ l.store.generationIds, g ≤ c.generationId

end Ledger

/-! ## What a step keeps -/

variable {s s' : Store}

/-- A sweep deletes generations, and keeps those above one it keeps. -/
theorem prune_generations {maxGenerations : Nat} {now : String} {stats : PruneStats}
    (h : prune s maxGenerations now = .ok (s', stats)) :
    (∀ row ∈ s'.core.generations.rows, row ∈ s.core.generations.rows) ∧ (∀ g ∈ s'.generationIds, g ∈ s.generationIds) ∧
      ∀ k ∈ s'.generationIds, ∀ g ∈ s.generationIds, k ≤ g → g ∈ s'.generationIds := by
  by_cases hfew : s.generationIds.length ≤ maxGenerations
  · unfold prune at h
    rw [if_pos hfew] at h
    cases h
    exact ⟨fun _ hrow => hrow, fun _ hg => hg, fun _ _ _ hg _ => hg⟩
  · obtain ⟨low, high, hlow, hhigh, _, rfl, _⟩ := (prune_ok (by omega)).mp h
    have hids : ((s.mint maxGenerations now low high).cascade
      (· ∈ s.generationIds.filter (inRange low high))).generationIds =
        s.generationIds.filter fun g => !decide (g ∈ s.generationIds.filter (inRange low high)) :=
          generationIds_cascade _ _
    refine ⟨fun row hrow => (mem_filter.mp hrow).1, fun g hg => ?_, fun k hk g hg hle => ?_⟩
    · rw [hids] at hg
      exact (mem_filter.mp hg).1
    · rw [hids, mem_filter, Bool.not_eq_true', decide_eq_false_iff_not, mem_range hlow hhigh,
        Sql.mem_smallest (nodup_generationIds s)] at hk
      rw [hids, mem_filter, Bool.not_eq_true', decide_eq_false_iff_not, mem_range hlow hhigh,
        Sql.mem_smallest (nodup_generationIds s)]
      refine ⟨hg, fun hfew => hk.2 ⟨hk.1, Nat.lt_of_le_of_lt (List.Sublist.length_le ?_) hfew.2⟩⟩
      refine monotone_filter_right _ fun y hy => ?_
      simp only [decide_eq_true_eq] at hy ⊢
      omega

/-- A committed report appends a generation with the greatest id. -/
theorem publishReport_generations {r : Report} {res : PublishResult} (h : publishReport s r = .ok (s', res)) :
    ∃ row : GenerationRow, s'.core.generations.rows = s.core.generations.rows ++ [row] ∧ row.generationId =
      res.generationId ∧ row.completedAt = r.cycleCompletedAt ∧ ∀ g ∈ s.generationIds, g < res.generationId := by
  obtain ⟨_, _, _, hb, _⟩ := publishReport_loops h
  have hp := publishBatch_published hb
  refine ⟨_, hp.generations, rfl, rfl, fun g hg => ?_⟩
  obtain ⟨row, hrow, rfl⟩ := List.mem_map.mp hg
  rw [hp.fresh]
  exact Table.lt_nextRowid hrow

section

variable {l : Ledger}

/-- What a step can do. -/
theorem step_cases (l : Ledger) (op : Op) :
    (∃ r completedAt s res, op = .publish r completedAt ∧ publishReport l.store (Report.completed r completedAt) =
      .ok (s, res) ∧ step l op = ⟨s, ⟨res.generationId, completedAt⟩ :: l.log⟩) ∨
    (∃ maxGenerations now s stats, op = .prune maxGenerations now ∧ prune l.store maxGenerations now = .ok (s, stats) ∧
      step l op = { l with store := s }) ∨
    step l op = l ∧ ∀ r completedAt, op = .publish r completedAt →
      (publishReport l.store (Report.completed r completedAt)).isOk = false := by
  cases op with
  | publish r completedAt =>
    unfold step
    cases hpublish : publishReport l.store (Report.completed r completedAt) with
    | error e =>
      refine .inr (.inr ⟨by simp only [hpublish], ?_⟩)
      rintro _ _ ⟨⟩
      rw [hpublish]
      rfl
    | ok out => exact .inl ⟨r, completedAt, out.1, out.2, rfl, hpublish, by simp only [hpublish]⟩
  | prune maxGenerations now =>
    unfold step
    cases hprune : prune l.store maxGenerations now with
    | error e => exact .inr (.inr ⟨by simp only [hprune], fun _ _ h => nomatch h⟩)
    | ok out => exact .inr (.inl ⟨maxGenerations, now, out.1, out.2, rfl, hprune, by simp only [hprune]⟩)

/-- Old generations are looked up behind the new commit. -/
theorem find?_committed {log : List Committed} {new : Committed} {g : Int} (hg : g < new.generationId) :
    (new :: log).find? (·.generationId = g) = log.find? (·.generationId = g) := by
  rw [find?_cons_of_neg]
  simp only [decide_eq_true_eq]
  omega

theorem step_recorded (h : l.Recorded) (op : Op) : (step l op).Recorded := by
  rcases step_cases l op with ⟨r, completedAt, s, res, rfl, hpublish, hstep⟩ |
    ⟨maxGenerations, now, s, stats, rfl, hprune, hstep⟩ | ⟨hstep, _⟩
  · obtain ⟨row, hrows, hid, hat, hless⟩ := publishReport_generations hpublish
    have hids : s.generationIds = l.store.generationIds ++ [res.generationId] := generationIds_publishReport hpublish
    rw [hstep]
    constructor
    · intro row' hrow'
      rcases mem_append.mp (hrows ▸ hrow') with hold | hnew
      · obtain ⟨c, hc, hstamp⟩ := h.logged row' hold
        exact ⟨c, (find?_committed (hless _ (mem_map_of_mem hold))).trans hc, hstamp⟩
      · rw [mem_singleton.mp hnew]
        refine ⟨⟨res.generationId, completedAt⟩, ?_, hat⟩
        rw [find?_cons_of_pos (by simp [hid])]
    · intro _
      refine ⟨⟨res.generationId, completedAt⟩, rfl, by simp [hids], fun g hg => ?_⟩
      rcases mem_append.mp (hids ▸ hg) with hold | hnew
      · exact le_of_lt (hless g hold)
      · exact le_of_eq (mem_singleton.mp hnew)
  · obtain ⟨hrows, hids, hupward⟩ := prune_generations hprune
    rw [hstep]
    constructor
    · exact fun row hrow => h.logged row (hrows row hrow)
    · intro hne
      obtain ⟨k, hk⟩ := exists_mem_of_ne_nil _ hne
      obtain ⟨c, hhead, hc, hmax⟩ := h.last (ne_nil_of_mem (hids k hk))
      exact ⟨c, hhead, hupward k hk _ hc (hmax k (hids k hk)), fun g hg => hmax g (hids g hg)⟩
  · rw [hstep]
    exact h

variable {s : Store}

theorem run_recorded (hs : s.generationIds = []) (ops : List Op) : (run ops ⟨s, []⟩).Recorded := by
  have hstart : Ledger.Recorded ⟨s, []⟩ := by
    refine ⟨fun row hrow => ?_, fun hne => absurd hs hne⟩
    have := mem_map_of_mem (f := GenerationRow.generationId) hrow
    rw [show s.core.generations.rows.map GenerationRow.generationId = [] from hs] at this
    cases this
  have hrun : ∀ (ops : List Op) {l : Ledger}, l.Recorded → (run ops l).Recorded := by
    intro ops
    induction ops with
    | nil => intro l hl; exact hl
    | cons op ops ih => intro l hl; exact ih (step_recorded hl op)
  exact hrun ops hstart

/-! ## One state -/

namespace Ledger.Recorded

theorem mostRecent_eq_none (hids : l.store.generationIds = []) : l.mostRecent = none := by
  simp [Ledger.mostRecent, hids]

/-- The generation committed last is the one with the greatest id. -/
theorem mostRecent (h : l.Recorded) (hids : l.store.generationIds ≠ []) : ∃ c, l.mostRecent = some c ∧ l.log.head? =
    some c ∧ c.generationId ∈ l.store.generationIds ∧ ∀ g ∈ l.store.generationIds, g ≤ c.generationId := by
  obtain ⟨c, hhead, hc, hmax⟩ := h.last hids
  obtain ⟨tail, hlog⟩ := head?_eq_some_iff.mp hhead
  refine ⟨c, ?_, hhead, hc, hmax⟩
  unfold Ledger.mostRecent
  rw [hlog, find?_cons_of_pos (by simpa using hc)]

theorem mem_kept (h : l.Recorded) {c : Committed} : c ∈ l.kept ↔ ∃ row ∈ l.store.core.generations.rows,
    l.log.find? (·.generationId = row.generationId) = some c ∧
      c.generationId = row.generationId ∧ row.completedAt = fmtTs c.completedAt := by
  constructor
  · intro hc
    obtain ⟨g, hg, hfind⟩ := mem_filterMap.mp hc
    obtain ⟨row, hrow, rfl⟩ := List.mem_map.mp hg
    obtain ⟨c', hc', hstamp⟩ := h.logged row hrow
    rw [hc', Option.some.injEq] at hfind
    subst hfind
    exact ⟨row, hrow, hc', by simpa using find?_some hc', hstamp⟩
  · rintro ⟨row, hrow, hfind, _⟩
    exact mem_filterMap.mpr ⟨row.generationId, mem_map_of_mem hrow, hfind⟩

theorem latestGeneration (h : l.Recorded) :
    l.store.core.latestGeneration.map GenerationRow.generationId = l.mostRecent.map Committed.generationId := by
  by_cases hids : l.store.generationIds = []
  · rw [mostRecent_eq_none hids]
    have hrows : l.store.core.generations.rows = [] := map_eq_nil_iff.mp hids
    simp [Db.latestGeneration, hrows, Sql.firstBy]
  · obtain ⟨c, hc, _, hmem, hmax⟩ := h.mostRecent hids
    rw [hc]
    cases hfirst : l.store.core.latestGeneration with
    | none => exact absurd (congrArg (List.map _) (Sql.firstBy_eq_none hfirst)) hids
    | some g =>
      obtain ⟨hg, hgreatest⟩ := Sql.firstBy_desc hfirst
      obtain ⟨row, hrow, hid⟩ := List.mem_map.mp hmem
      have hle := hgreatest row hrow
      have hge := hmax g.generationId (mem_map_of_mem hg)
      simp only [Option.map_some, Option.some.injEq]
      omega

/-- The first generation of an order by stamps is the one committed last, exactly when that
    is stamped behind all others. -/
theorem completedLater_iff (h : l.Recorded) :
    (Sql.firstBy completedLater l.store.core.generations.rows).map GenerationRow.generationId =
    l.mostRecent.map Committed.generationId ↔ l.Dated := by
  by_cases hids : l.store.generationIds = []
  · have hrows : l.store.core.generations.rows = [] := map_eq_nil_iff.mp hids
    rw [Ledger.Dated, mostRecent_eq_none hids, hrows]
    simp [Sql.firstBy]
  · obtain ⟨last, hlast, hhead, hmem, hmax⟩ := h.mostRecent hids
    obtain ⟨row, hrow, hid⟩ := List.mem_map.mp hmem
    have hstamp : row.completedAt = fmtTs last.completedAt := by
      obtain ⟨c, hc, hstamp⟩ := h.logged row hrow
      obtain ⟨tail, hlog⟩ := head?_eq_some_iff.mp hhead
      rw [hlog, find?_cons_of_pos (by simp [hid]), Option.some.injEq] at hc
      rw [hstamp, hc]
    have hkeys : ∀ {a b : GenerationRow}, a ∈ l.store.core.generations.rows → b ∈ l.store.core.generations.rows →
        a.generationId = b.generationId → a = b := fun ha hb he =>
      Option.some.inj ((Table.get_of_mem ha).symm.trans (he ▸ Table.get_of_mem hb))
    rw [Ledger.Dated, hlast]
    constructor
    · intro hfirst last' hlast' c hc hne
      cases hlast'
      obtain ⟨other, hother, _, hother_id, hother_at⟩ := h.mem_kept.mp hc
      cases hg : Sql.firstBy completedLater l.store.core.generations.rows with
      | none =>
        rw [hg] at hfirst
        cases hfirst
      | some g =>
        rw [hg, Option.map_some, Option.map_some, Option.some.injEq] at hfirst
        obtain ⟨hgmem, hgreatest⟩ := Sql.firstBy_greatest Preflight.completedLater_iff hg
        have hgrow : g = row := hkeys hgmem hrow (hfirst.trans hid.symm)
        have hle := hgreatest other hother
        have hless : other.generationId < row.generationId := by
          have := hmax other.generationId (mem_map_of_mem hother)
          omega
        rw [← OffsetDateTime.fmtTs_lt_iff, ← hother_at, ← hstamp]
        rw [hgrow] at hle
        rcases Prod.Lex.toLex_le_toLex.mp hle with hlt | ⟨_, hge⟩
        · exact hlt
        · have : -other.generationId ≤ -row.generationId := hge
          omega
    · intro hdated
      cases hg : Sql.firstBy completedLater l.store.core.generations.rows with
      | none => exact absurd (congrArg (List.map _) (Sql.firstBy_eq_none hg)) hids
      | some g =>
        obtain ⟨hgmem, hgreatest⟩ := Sql.firstBy_greatest Preflight.completedLater_iff hg
        rw [Option.map_some, Option.map_some, Option.some.injEq]
        by_contra hne
        obtain ⟨c, hc, hcstamp⟩ := h.logged g hgmem
        have hcid : c.generationId = g.generationId := by simpa using find?_some hc
        have hbefore := hdated last rfl c (h.mem_kept.mpr ⟨g, hgmem, hc, hcid, hcstamp⟩) (by omega)
        rw [← OffsetDateTime.fmtTs_lt_iff, ← hcstamp, ← hstamp] at hbefore
        rcases Prod.Lex.toLex_le_toLex.mp (hgreatest row hrow) with hlt | ⟨heq, _⟩
        · exact absurd hbefore (lt_asymm hlt)
        · rw [show row.completedAt = g.completedAt from heq] at hbefore
          exact absurd hbefore (lt_irrefl _)

/-- The readers agree exactly when the generation committed last is stamped behind all others. -/
theorem agree_iff (h : l.Recorded) : l.Agree ↔ l.Dated := by
  have hprobes : (readLatestGenerationId l.store.core.generations).toOption =
      (Sql.firstBy completedLater l.store.core.generations.rows).map GenerationRow.generationId := by
    unfold readLatestGenerationId
    cases Sql.firstBy completedLater l.store.core.generations.rows <;> rfl
  constructor
  · intro hagree
    exact h.completedLater_iff.mp (hprobes ▸ hagree.probes)
  · intro hdated
    have hfirst := h.completedLater_iff.mpr hdated
    exact ⟨fun _ => hfirst, hprobes.trans hfirst, h.latestGeneration⟩

end Ledger.Recorded

/-! ## Whole runs -/

/-- The ledger after a commit is dated when the commit is stamped behind all generations. -/
theorem dated_publish_iff (h : l.Recorded) {r : Report} {completedAt : OffsetDateTime} {res : PublishResult}
    (hpublish : publishReport l.store (Report.completed r completedAt) = .ok (s, res)) :
    Ledger.Dated ⟨s, ⟨res.generationId, completedAt⟩ :: l.log⟩ ↔
      ∀ c ∈ l.kept, c.completedAt.SortsBefore completedAt := by
  obtain ⟨row, hrows, hid, _, hless⟩ := publishReport_generations hpublish
  have hids : s.generationIds = l.store.generationIds ++ [res.generationId] := generationIds_publishReport hpublish
  have hlast : Ledger.mostRecent ⟨s, ⟨res.generationId, completedAt⟩ :: l.log⟩ = some ⟨res.generationId, completedAt⟩ :=
    find?_cons_of_pos (by simp [hids])
  have hkept : Ledger.kept ⟨s, ⟨res.generationId, completedAt⟩ :: l.log⟩ = l.kept ++
      [⟨res.generationId, completedAt⟩] := by
    unfold Ledger.kept
    rw [hids, filterMap_append]
    congr 1
    · exact filterMap_congr fun g hg => find?_committed (hless g hg)
    · simp
  have hold : ∀ c ∈ l.kept, c.generationId ≠ res.generationId := by
    intro c hc
    obtain ⟨row', hrow', _, hcid, _⟩ := h.mem_kept.mp hc
    have := hless row'.generationId (mem_map_of_mem hrow')
    omega
  rw [Ledger.Dated, hlast, hkept]
  constructor
  · intro hdated c hc
    exact hdated _ rfl c (mem_append_left _ hc) (hold c hc)
  · intro hbehind last hlast c hc hne
    cases hlast
    rcases mem_append.mp hc with hc | hc
    · exact hbehind c hc
    · exact absurd (congrArg Committed.generationId (mem_singleton.mp hc)) hne

/-- A report published in time leaves a dated ledger, and so does a sweep of one. -/
theorem step_dated (h : l.Recorded) {op : Op} (hop : l.InTime op) (hdated : l.Dated) : (step l op).Dated := by
  rcases step_cases l op with ⟨r, completedAt, s, res, rfl, hpublish, hstep⟩ |
    ⟨maxGenerations, now, s, stats, rfl, hprune, hstep⟩ | ⟨hstep, _⟩
  · rw [hstep, dated_publish_iff h hpublish]
    exact hop (by rw [hpublish]; rfl)
  · obtain ⟨_, hids, hupward⟩ := prune_generations hprune
    have hrecorded := step_recorded h (.prune maxGenerations now)
    rw [hstep] at hrecorded ⊢
    intro last hlast c hc hne
    by_cases hne' : s.generationIds = []
    · rw [Ledger.Recorded.mostRecent_eq_none hne'] at hlast
      cases hlast
    · obtain ⟨last', hlast', hhead', hmem', _⟩ := hrecorded.mostRecent hne'
      rw [hlast'] at hlast
      cases hlast
      obtain ⟨last₀, hlast₀, hhead₀, _⟩ := h.mostRecent (ne_nil_of_mem (hids _ hmem'))
      have hsame : last₀ = last := Option.some.inj (hhead₀.symm.trans hhead')
      obtain ⟨g, hg, hfind⟩ := mem_filterMap.mp hc
      exact hdated last (hsame ▸ hlast₀) c (mem_filterMap.mpr ⟨g, hids g hg, hfind⟩) hne
  · rw [hstep]
    exact hdated

end

/-- The readers agree in every state of a run exactly when each report is stamped, as it is
    committed, behind every generation there is. -/
theorem readers_agree_iff {s : Store} (hs : s.generationIds = []) (ops : List Op) :
    (∀ k ≤ ops.length, (run (ops.take k) ⟨s, []⟩).Agree) ↔
      ∀ k (hk : k < ops.length), (run (ops.take k) ⟨s, []⟩).InTime ops[k] := by
  have hnext : ∀ k (hk : k < ops.length), run (ops.take (k + 1)) ⟨s, []⟩ = step (run (ops.take k) ⟨s, []⟩) ops[k] := by
    intro k hk
    unfold run
    rw [take_succ_eq_append_getElem hk, foldl_append]
    rfl
  constructor
  · intro hagree k hk
    have hrecorded := run_recorded hs (ops.take k)
    have hafter := (run_recorded hs (ops.take (k + 1))).agree_iff.mp (hagree (k + 1) hk)
    rw [hnext k hk] at hafter
    rcases step_cases (run (ops.take k) ⟨s, []⟩) ops[k] with ⟨r, completedAt, s', res, hop, hpublish, hstep⟩ |
      ⟨_, _, _, _, hop, _⟩ | ⟨_, hrefused⟩
    · rw [hstep] at hafter
      rw [hop]
      exact fun _ => (dated_publish_iff hrecorded hpublish).mp hafter
    · rw [hop]
      trivial
    · cases hop : ops[k] with
      | publish r completedAt =>
        intro hok
        rw [hrefused r completedAt hop] at hok
        cases hok
      | prune maxGenerations now => trivial
  · intro hintime k hk
    refine (run_recorded hs (ops.take k)).agree_iff.mpr ?_
    induction k with
    | zero =>
      intro last hlast
      rw [Ledger.Recorded.mostRecent_eq_none hs] at hlast
      cases hlast
    | succ k ih =>
      rw [hnext k hk]
      exact step_dated (run_recorded hs (ops.take k)) (hintime k hk) (ih (Nat.le_of_succ_le hk))

/-! ## A clock that runs on -/

def onTheSecond : OffsetDateTime :=
  ⟨2026, 5, 20, 0, 0, 0, 0, by decide, by decide, by decide, by decide, by decide, by decide, by decide⟩

def halfASecondOn : OffsetDateTime := { onTheSecond with nanosecond := 500000000, nanosecond_lt := by decide }

def freshStore : Store := .of Db.init

/-- Two reports half a second apart: the later stamp has a fraction and sorts before the other,
    so the preflight and the probes stay at the first generation. -/
theorem half_a_second_later_sorts_before : ¬∀ (s : Store) (ops : List Op), s.generationIds = [] →
    (run ops ⟨s, []⟩).Agree := by
  intro h
  have hagree := h freshStore [.publish {} onTheSecond, .publish {} halfASecondOn] rfl
  have hprobes : (readLatestGenerationId
      (run [.publish {} onTheSecond, .publish {} halfASecondOn] ⟨freshStore,
        []⟩).store.core.generations).toOption = some 1 := by
    decide +kernel
  have hlast : (run [.publish {} onTheSecond, .publish {} halfASecondOn] ⟨freshStore,
    []⟩).mostRecent.map Committed.generationId =
      some 2 := by decide +kernel
  rw [← hagree.probes, hprobes] at hlast
  cases hlast

def aSecondOn : OffsetDateTime := { onTheSecond with second := 1, second_lt := by decide }

/-- A second apart, they agree. -/
theorem a_second_later_agrees : (run [.publish {} onTheSecond, .publish {} aSecondOn] ⟨freshStore, []⟩).Agree := by
  refine (readers_agree_iff (show freshStore.generationIds = [] from rfl) [.publish {} onTheSecond,
    .publish {} aSecondOn]).mpr ?_ 2
    (by decide)
  intro k hk
  have hk : k < 2 := hk
  rcases (show k = 0 ∨ k = 1 by omega) with rfl | rfl
  · intro _ c hc
    have hkept : Ledger.kept ⟨freshStore, []⟩ = [] := by decide +kernel
    rw [show run (List.take 0 _) _ = (⟨freshStore, []⟩ : Ledger) from rfl, hkept] at hc
    cases hc
  · intro _ c hc
    have hkept : (run [.publish {} onTheSecond] ⟨freshStore, []⟩).kept = [⟨1, onTheSecond⟩] := by decide +kernel
    rw [show List.take 1 _ = [Op.publish {} onTheSecond] from rfl, hkept, mem_singleton] at hc
    rw [hc]
    exact .inl (by decide)

end Nq.Preflight
