/-
  Nq.Dashboard.Standing — which standings the overview can show.

  In a run where each publication is followed by its lifecycle update, a row was last seen
  in the newest generation exactly when that update emitted it (`Seen`). The page asks for
  the newest generation of every row before it looks at its columns (`joined_iff`). So
  what it calls ongoing is, but a finding under suppression or in recovery is by the same
  token not of the newest generation, and its standing is shown as unknown:

  - `distinctions_kept_iff`: the overview keeps the distinctions of the lifecycle exactly
    when no finding is in recovery on a live basis and recently observed, and each
    suppressed one was emitted, and then withdrawn, in the newest generation;
  - `a_recovering_finding_is_shown_as_unknown` is a finding in its first absence.
-/

import Nq.Dashboard.Findings
import Nq.Lifecycle.Flicker
import Nq.Operator.Chain
import Nq.Publish.Newest

namespace Nq.Dashboard

open List
open Sql (Table)

/-! ## Runs -/

/-- Each publication with its update, latest first; in between, sweeps and operators' edits. -/
inductive Cycles : List (UpdateCall × Db) → Db → Prop
  | start {db : Db} (hrows : db.warningState = .empty) (hobs : db.findingObservations = .empty) : Cycles [] db
  | cycle {hist : List (UpdateCall × Db)} {db db₁ db' : Db} {b : Batch} {res : PublishResult} {u : UpdateCall}
      (hr : Cycles hist db) (hpublish : publishBatch db b = .ok (db₁, res)) (hg : u.generationId = res.generationId)
      (hrun : u.run db₁ = .ok db') : Cycles ((u, db₁) :: hist) db'
  | prune {hist : List (UpdateCall × Db)} {db : Db} {maxGenerations : Nat}
      (hr : Cycles hist db) (hmax : 0 < maxGenerations) :
      Cycles hist (db.prune maxGenerations)
  | operator {hist : List (UpdateCall × Db)} {db : Db} {f : WarningRow →
      WarningRow} (hr : Cycles hist db) (hf : OperatorEdit f) :
      Cycles hist { db with warningState := db.warningState.update f hf.id }

/-- The finding was emitted in the latest generation. -/
def EmittedLast (hist : List (UpdateCall × Db)) (k : FindingId) : Prop :=
  ∃ p, hist.head? = some p ∧ k ∈ p.1.emittedIds p.2

/-- How the rows stand to the update `u` of the newest generation, taken in `t`. -/
structure Seen (u : UpdateCall) (t db : Db) : Prop where
  newest : Newest db u.generationId
  rows : ∀ k r, db.warningState.get k = some r → r.lastSeenGen ≤ u.generationId ∧
    (r.lastSeenGen = u.generationId ↔ k ∈ u.emittedIds t)
  emitted : ∀ k r, db.warningState.get k = some r → k ∈ u.emittedIds t →
    r.absentGens = 0 ∧ (db.findingObservations.get (u.generationId, k.key)).isSome = true

structure Inv (hist : List (UpdateCall × Db)) (db : Db) : Prop where
  known : db.Known
  begun : ∀ k r, db.warningState.get k = some r → hist ≠ []
  seen : ∀ p, hist.head? = some p → Seen p.1 p.2 db

variable {u : UpdateCall}

theorem Inv.cycle {hist : List (UpdateCall × Db)} {db db₁ db' : Db} {b : Batch} (h : Inv hist db)
    (hpublished : Published b db db₁ u.generationId) (hrun : u.run db₁ = .ok db') : Inv ((u, db₁) :: hist) db' := by
  have hup := run_updated hrun
  refine ⟨updated_known (published_known h.known hpublished) hup, fun _ _ _ => cons_ne_nil _ _, ?_⟩
  rintro p hp
  cases hp
  show Seen u db₁ db'
  refine ⟨hup.newest_iff.mpr hpublished.newest, ?_, ?_⟩
  · intro k r' hr'
    rcases hup.row_cases hr' with ⟨f, hf, rfl, s, hfin⟩ | ⟨hk, r, hr, hcase⟩
    · have hlast : r'.lastSeenGen = u.generationId :=
        (congrArg (·.lastSeenGen) (finish_core hfin)).trans (lastSeenGen_emittedRow _ _ _)
      exact ⟨hlast.le, fun _ => mem_map_of_mem hf, fun _ => hlast⟩
    · have hlast : r'.lastSeenGen = r.lastSeenGen := by
        rcases hcase with ⟨reason, -, hfin⟩ | ⟨-, -, hfin⟩
        · exact congrArg (·.lastSeenGen) (finish_core hfin)
        · exact congrArg (·.lastSeenGen) (finish_core hfin)
      rw [hpublished.warningState] at hr
      obtain ⟨p, hp⟩ := Option.isSome_iff_exists.mp (isSome_head?.mpr (h.begun k r hr))
      have hle := ((h.seen p hp).rows k r hr).1
      have hlt := hpublished.newer (h.seen p hp).newest
      exact ⟨by omega, fun he => by omega, fun hem => absurd hem hk⟩
  · intro k r' hr' hem
    rcases hup.row_cases hr' with ⟨f, hf, rfl, s, hfin⟩ | ⟨hk, -⟩
    · exact ⟨(congrArg (·.absentGens) (finish_core hfin)).trans (absentGens_emittedRow _ _ _),
        emission_observed hrun hf⟩
    · exact absurd hem hk

theorem Inv.prune {hist : List (UpdateCall × Db)} {db : Db} {maxGenerations : Nat} (h : Inv hist db)
    (hmax : 0 < maxGenerations) :
    Inv hist (db.prune maxGenerations) := by
  refine ⟨cascade_known h.known _, h.begun, fun p hp => ?_⟩
  have hseen := h.seen p hp
  have hnewest := (prune_newest_iff hmax).mpr hseen.newest
  refine ⟨hnewest, hseen.rows, fun k r hr hem => ⟨(hseen.emitted k r hr hem).1, ?_⟩⟩
  -- the sweep keeps the newest generation, so what it observed stays
  have hkept : ((db.generations.delete _).get p.1.generationId).isSome = true := hnewest.present
  rw [Table.get_delete] at hkept
  obtain ⟨row, hrow⟩ := Option.isSome_iff_exists.mp hkept
  obtain ⟨hrow, hspared⟩ := Option.filter_eq_some_iff.mp hrow
  obtain ⟨o, ho⟩ := Option.isSome_iff_exists.mp (hseen.emitted k r hr hem).2
  show ((db.findingObservations.delete _).get (p.1.generationId, k.key)).isSome = true
  have hog : o.generationId = row.generationId :=
    (congrArg Prod.fst (Table.key_of_get ho)).trans (Table.key_of_get hrow).symm
  rw [Table.get_delete, ho, Option.filter_some, hog, if_pos hspared]
  rfl

theorem Inv.operator {hist : List (UpdateCall × Db)} {db : Db} {f : WarningRow → WarningRow} (h : Inv hist db)
    (hf : OperatorEdit f) : Inv hist { db with warningState := db.warningState.update f hf.id } := by
  have hrow : ∀ k r, (db.warningState.update f hf.id).get k = some r → ∃ r₀, db.warningState.get k = some r₀ ∧
      r.lastSeenGen = r₀.lastSeenGen ∧ r.absentGens = r₀.absentGens := by
    intro k r hr
    rw [Table.get_update, Option.map_eq_some_iff] at hr
    obtain ⟨r₀, hr₀, rfl⟩ := hr
    rw [hf r₀]
    exact ⟨r₀, hr₀, rfl, rfl⟩
  have hnewest : ∀ p, hist.head? = some p →
      Newest { db with warningState := db.warningState.update f hf.id } p.1.generationId :=
    fun p hp => ⟨(h.seen p hp).newest.present, (h.seen p hp).newest.last⟩
  refine ⟨known_congr h.known rfl rfl, fun k r hr => ?_, fun p hp =>
    ⟨hnewest p hp, fun k r hr => ?_, fun k r hr hem => ?_⟩⟩
  · obtain ⟨r₀, hr₀, -⟩ := hrow k r hr
    exact h.begun k r₀ hr₀
  · obtain ⟨r₀, hr₀, hlast, -⟩ := hrow k r hr
    rw [hlast]
    exact (h.seen p hp).rows k r₀ hr₀
  · obtain ⟨r₀, hr₀, -, habsent⟩ := hrow k r hr
    rw [habsent]
    exact (h.seen p hp).emitted k r₀ hr₀ hem

theorem cycles_inv {hist : List (UpdateCall × Db)} {db : Db} (h : Cycles hist db) : Inv hist db := by
  induction h with
  | start hrows hobs =>
    refine ⟨?_, ?_, fun p hp => (nomatch hp)⟩
    · intro p o ho
      rw [hobs] at ho
      cases ho
    · intro k r hr
      rw [hrows] at hr
      cases hr
  | cycle hr hpublish hg hrun ih => exact ih.cycle (hg ▸ publishBatch_published hpublish) hrun
  | prune hr hmax ih => exact ih.prune hmax
  | operator hr hf ih => exact ih.operator hf

/-! ## What the page joins in a run -/

/-- The time of the finding's last observation, or of its row when none is retained. -/
def lastObservedAt (db : Db) (r : WarningRow) : String :=
  ((loadLatestObservation db r.id.key).map (·.observedAt)).getD r.lastSeenAt

section

variable {hist : List (UpdateCall × Db)} {db : Db} {time : TimeLib} {now : Int} {r : WarningRow}

/-- A row is of one generation with the page exactly when the latest update emitted it. -/
theorem joined_iff (h : Cycles hist db) (hr : r ∈ db.warningState.rows) :
    Joined db r db.maxGeneration ↔ EmittedLast hist r.id ∧ Evidenced db r := by
  have hinv := cycles_inv h
  have hget := Table.get_of_mem hr
  obtain ⟨p, hp⟩ := Option.isSome_iff_exists.mp (isSome_head?.mpr (hinv.begun _ _ hget))
  have hseen := hinv.seen p hp
  have hmax : db.maxGeneration = some p.1.generationId := maxGeneration_eq_some.mpr hseen.newest
  have hemitted : EmittedLast hist r.id ↔ r.id ∈ p.1.emittedIds p.2 := by
    constructor
    · rintro ⟨p', hp', hem⟩
      rw [hp] at hp'
      cases hp'
      exact hem
    · exact fun hem => ⟨p, hp, hem⟩
  rw [hemitted, ← (hseen.rows _ _ hget).2]
  constructor
  · intro hj
    exact ⟨(hj.page _ hmax).symm, hj.evidence⟩
  · rintro ⟨hlast, hevidence⟩
    refine ⟨fun o ho => ?_, fun g hg => ?_, hevidence⟩
    · obtain ⟨row, hrow, rfl⟩ := Option.map_eq_some_iff.mp ho
      obtain ⟨hmem, hgreatest⟩ := Sql.firstBy_desc hrow
      obtain ⟨hobs, hkey⟩ := mem_filter.mp hmem
      obtain ⟨-, hpresent⟩ := hseen.emitted _ _ hget ((hseen.rows _ _ hget).2.mp hlast)
      obtain ⟨own, hown⟩ := Option.isSome_iff_exists.mp hpresent
      have hownkey := Table.key_of_get hown
      have hge := hgreatest own (mem_filter.mpr ⟨Table.mem_of_get hown, decide_eq_true (congrArg Prod.snd hownkey)⟩)
      have howngen : own.generationId = p.1.generationId := congrArg Prod.fst hownkey
      have hle := hseen.newest.last _ (hinv.known _ row (Table.get_of_mem hobs))
      show row.generationId = r.lastSeenGen
      omega
    · rw [hmax] at hg
      cases hg
      exact hlast.symm

theorem observationTime_of_joined {pageGeneration : Option Int} (h : Joined db r pageGeneration) :
    observationTime db r = lastObservedAt db r := by
  unfold observationTime currentObservation lastObservedAt
  cases hlatest : loadLatestObservation db r.id.key with
  | none => rfl
  | some o => rw [Option.filter_some, if_pos (decide_eq_true (h.observation o hlatest))]

/-! ## The distinctions -/

def DashboardOverview.findings (overview : DashboardOverview) : List DashboardFinding :=
  overview.monitoredFindings ++ overview.nqSelfHealth

/-- What the overview shows keeps what the lifecycle distinguishes. -/
structure KeepsDistinctions (time : TimeLib) (now : Int) (hist : List (UpdateCall × Db)) (db : Db)
    (overview : DashboardOverview) : Prop where
  every : ∀ r ∈ db.warningState.rows, ∃ f ∈ overview.findings, f.row = r
  ongoing : ∀ f ∈ overview.findings, f.status = .ongoing → EmittedLast hist f.row.id ∧ f.row.visibilityState =
    .observed ∧ f.row.absentGens = 0 ∧ f.row.basisState = .live ∧ Recent time now (lastObservedAt db f.row)
  suppressed : ∀ f ∈ overview.findings, f.row.basisState ≠ .retired →
    f.row.visibilityState = .suppressed → f.status = .suppressed
  recovering : ∀ f ∈ overview.findings, f.row.visibilityState = .observed → f.row.basisState = .live → 0 <
    f.row.absentGens → Recent time now (lastObservedAt db f.row) → f.status = .recovering

/-- No suppressed row and no row in recovery is of another generation than the newest. -/
structure NothingLapsed (time : TimeLib) (now : Int) (hist : List (UpdateCall × Db)) (db : Db) : Prop where
  suppressed : ∀ r ∈ db.warningState.rows, r.basisState ≠ .retired → r.visibilityState = .suppressed →
    EmittedLast hist r.id ∧ Evidenced db r
  recovering : ∀ r ∈ db.warningState.rows, r.visibilityState = .observed → r.basisState = .live → 0 < r.absentGens →
    ¬Recent time now (lastObservedAt db r)

variable {f : DashboardFinding} {overview : DashboardOverview}

theorem mem_findings (hload : loadDashboardOverview time db now = .ok overview) : f ∈ overview.findings ↔
      ∃ r ∈ db.warningState.rows, dashboardFindingFromRaw time db r now db.maxGeneration = .ok f := by
  rw [DashboardOverview.findings, mem_append]
  exact mem_overview hload

theorem findings_every (hload : loadDashboardOverview time db now = .ok overview) (hr : r ∈ db.warningState.rows) :
    ∃ f ∈ overview.findings, dashboardFindingFromRaw time db r now db.maxGeneration = .ok f := by
  have hload' := hload
  unfold loadDashboardOverview at hload'
  obtain ⟨basis, hbasis, hload'⟩ := Sql.bind_ok.mp hload'
  obtain ⟨findings, hfindings, -⟩ := Sql.bind_ok.mp hload'
  obtain ⟨f, hf, -⟩ := find_current hfindings hr
  rw [loadBasis_ok hbasis] at hf
  exact ⟨f, (mem_findings hload).mpr ⟨r, hr, hf⟩, hf⟩

/-- An absent row is not of the newest generation. -/
theorem not_joined_of_absent (h : Cycles hist db) (hr : r ∈ db.warningState.rows) (habsent : 0 < r.absentGens) :
    ¬Joined db r db.maxGeneration := by
  intro hj
  obtain ⟨p, hp, hem⟩ := ((joined_iff h hr).mp hj).1
  have hzero := (((cycles_inv h).seen p hp).emitted _ _ (Table.get_of_mem hr) hem).1
  omega

theorem suppressed_shown_iff (h : Cycles hist db) (hr : r ∈ db.warningState.rows) (hretired : r.basisState ≠ .retired)
    (hsuppressed : r.visibilityState = .suppressed)
    (hf : dashboardFindingFromRaw time db r now db.maxGeneration = .ok f) :
    f.status = .suppressed ↔ EmittedLast hist r.id ∧ Evidenced db r := by
  rw [← joined_iff h hr]
  constructor
  · intro hs
    by_contra hj
    rw [status_of_not_joined hf hj] at hs
    cases hs
  · intro hj
    rw [status_of_joined hf hj, classifyFindingStatus, if_neg hretired, if_pos hsuppressed]

theorem ongoing_is_current (h : Cycles hist db) (hr : r ∈ db.warningState.rows)
    (hf : dashboardFindingFromRaw time db r now db.maxGeneration = .ok f) (hs : f.status = .ongoing) :
    EmittedLast hist r.id ∧
      r.visibilityState = .observed ∧ r.absentGens = 0 ∧ r.basisState = .live ∧
        Recent time now (lastObservedAt db r) := by
  obtain ⟨hj, hlive, hobserved, hrecent, -, -⟩ := (shown_ongoing_iff hf).mp hs
  have hem := ((joined_iff h hr).mp hj).1
  obtain ⟨p, hp, hemp⟩ := hem
  have habsent := (((cycles_inv h).seen p hp).emitted _ _ (Table.get_of_mem hr) hemp).1
  rw [observationTime_of_joined hj] at hrecent
  exact ⟨⟨p, hp, hemp⟩, hobserved, habsent, hlive, hrecent⟩

/-- At any time after any run, the overview keeps the distinctions if and only if nothing
    that is suppressed or in recovery has lapsed from the newest generation. -/
theorem distinctions_kept_iff (h : Cycles hist db) {overview : DashboardOverview}
    (hload : loadDashboardOverview time db now = .ok overview) :
    KeepsDistinctions time now hist db overview ↔ NothingLapsed time now hist db := by
  constructor
  · intro hk
    constructor
    · intro r hr hretired hsuppressed
      obtain ⟨f, hmem, hf⟩ := findings_every hload hr
      obtain ⟨-, rfl⟩ := row_of_raw hf
      exact (suppressed_shown_iff h hr hretired hsuppressed hf).mp (hk.suppressed f hmem hretired hsuppressed)
    · intro r hr hobserved hlive habsent hrecent
      obtain ⟨f, hmem, hf⟩ := findings_every hload hr
      obtain ⟨-, rfl⟩ := row_of_raw hf
      have hs := hk.recovering f hmem hobserved hlive habsent hrecent
      rw [status_of_not_joined hf (not_joined_of_absent h hr habsent)] at hs
      cases hs
  · intro hn
    refine ⟨?_, ?_, ?_, ?_⟩
    · intro r hr
      obtain ⟨f, hmem, hf⟩ := findings_every hload hr
      exact ⟨f, hmem, (row_of_raw hf).2⟩
    · intro f hmem hs
      obtain ⟨r, hr, hf⟩ := (mem_findings hload).mp hmem
      obtain ⟨-, rfl⟩ := row_of_raw hf
      exact ongoing_is_current h hr hf hs
    · intro f hmem hretired hsuppressed
      obtain ⟨r, hr, hf⟩ := (mem_findings hload).mp hmem
      obtain ⟨-, rfl⟩ := row_of_raw hf
      exact (suppressed_shown_iff h hr hretired hsuppressed hf).mpr (hn.suppressed f.row hr hretired hsuppressed)
    · intro f hmem hobserved hlive habsent hrecent
      obtain ⟨r, hr, hf⟩ := (mem_findings hload).mp hmem
      obtain ⟨-, rfl⟩ := row_of_raw hf
      exact absurd hrecent (hn.recovering f.row hr hobserved hlive habsent)

end

/-! ## Traces -/

def stampedBatch : Batch := { cycleStartedAt := "2026-07-26T03:17:00Z", cycleCompletedAt := "2026-07-26T03:17:00Z" }

/-- A publication and its update, with the database between them. -/
def cycleOf (db : Db) (u : UpdateCall) : Option (Db × Db) := do
  let (db₁, res) ← (publishBatch db stampedBatch).toOption
  if u.generationId = res.generationId then
    let db' ← (u.run db₁).toOption
    return (db₁, db')
  else none

theorem cycles_cycleOf {hist : List (UpdateCall × Db)} {db : Db} {p : Db × Db} (hr : Cycles hist db)
    (h : cycleOf db u = some p) : Cycles ((u, p.1) :: hist) p.2 := by
  unfold cycleOf at h
  obtain ⟨⟨db₁, res⟩, hpublish, h⟩ := Option.bind_eq_some_iff.mp h
  dsimp only at h
  split at h
  · obtain ⟨db', hrun, h⟩ := Option.bind_eq_some_iff.mp h
    cases h
    exact .cycle hr (Sql.toOption_eq_some.mp hpublish) ‹_› (Sql.toOption_eq_some.mp hrun)
  · cases h

/-- One generation, read at once. -/
theorem a_first_generation_is_shown_as_it_is : ∃ hist db overview, Cycles hist db ∧
    loadDashboardOverview traceTime db 1785035820000000000 = .ok overview ∧ overview.findings ≠ [] ∧
    KeepsDistinctions traceTime 1785035820000000000 hist db overview := by
  have h : ((cycleOf Db.init liveCall).bind fun p =>
    (loadDashboardOverview traceTime p.2 1785035820000000000).toOption.map fun o =>
      (decide (o.findings = []), p.2.warningState.rows.all fun r =>
        r.visibilityState = .observed && r.absentGens = 0)) =
      some (false, true) := by decide +kernel
  obtain ⟨p, hcycle, h⟩ := Option.bind_eq_some_iff.mp h
  obtain ⟨overview, hload, hread⟩ := Sql.ok_of_toOption h
  obtain ⟨hsome, hrows⟩ := Prod.mk.inj hread
  have hrow : ∀ r ∈ p.2.warningState.rows, r.visibilityState = .observed ∧ r.absentGens = 0 := by
    intro r hr
    simpa using all_eq_true.mp hrows r hr
  have hcycles := cycles_cycleOf (.start rfl rfl) hcycle
  refine ⟨_, p.2, overview, hcycles, hload, of_decide_eq_false hsome,
    (distinctions_kept_iff hcycles hload).mpr ⟨?_, ?_⟩⟩
  · intro r hr _ hsuppressed
    rw [(hrow r hr).1] at hsuppressed
    cases hsuppressed
  · intro r hr _ _ habsent
    rw [(hrow r hr).2] at habsent
    cases habsent

/-- A finding is emitted and then absent from one generation: it is observed, on a live
    basis and just seen, and its standing is shown as unknown. -/
theorem a_recovering_finding_is_shown_as_unknown : ∃ hist db overview, Cycles hist db ∧
    loadDashboardOverview traceTime db 1785035820000000000 = .ok overview ∧
    (∃ f ∈ overview.findings, f.row.visibilityState = .observed ∧ f.row.basisState = .live ∧ f.row.absentGens = 1 ∧
      Recent traceTime 1785035820000000000 (lastObservedAt db f.row) ∧ f.status = .unknown) ∧
    ¬KeepsDistinctions traceTime 1785035820000000000 hist db overview := by
  have h : ((cycleOf Db.init liveCall).bind fun p => (cycleOf p.2 (quietCall 2)).bind fun q =>
      (loadDashboardOverview traceTime q.2 1785035820000000000).toOption.map fun o => o.findings.map fun f =>
        decide (f.row.visibilityState = .observed ∧ f.row.basisState = .live ∧ f.row.absentGens = 1 ∧
          timestampAgeSeconds traceTime 1785035820000000000 (lastObservedAt q.2 f.row) = some 0 ∧
            f.status = .unknown)) =
      some [true] := by decide +kernel
  obtain ⟨p, hfirst, h⟩ := Option.bind_eq_some_iff.mp h
  obtain ⟨q, hsecond, h⟩ := Option.bind_eq_some_iff.mp h
  obtain ⟨overview, hload, hread⟩ := Sql.ok_of_toOption h
  have hcycles := cycles_cycleOf (cycles_cycleOf (.start rfl rfl) hfirst) hsecond
  obtain ⟨f, hf, hfields⟩ := List.mem_map.mp (hread ▸ mem_singleton_self _)
  obtain ⟨hobserved, hlive, habsent, hage, hstatus⟩ := of_decide_eq_true hfields
  have hrecent : Recent traceTime 1785035820000000000 (lastObservedAt q.2 f.row) := ⟨0, hage, by decide, by decide⟩
  refine ⟨_, q.2, overview, hcycles, hload, ⟨f, hf, hobserved, hlive, habsent, hrecent, hstatus⟩, fun hk => ?_⟩
  have hs := hk.recovering f hf hobserved hlive (by omega) hrecent
  rw [hstatus] at hs
  cases hs

end Nq.Dashboard
