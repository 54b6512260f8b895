/-
  Nq.Inquiry.Activity — whether a firing finding can be reported active
  (`nq-db/src/inquiry.rs`, `nq-db/src/publish.rs`, `nq-monitor/src/cmd/serve.rs`).

  The lifecycle update stamps a finding with its own clock, read after the pull fixed when the
  generation completed; a report as of that completion refuses what was seen after it.

  - `active_iff`: what a report on a firing finding asks for, as of a time;
  - `reported_active_iff`: a finding is reported active as of the completion, and from the update
    on while the snapshot is young enough, exactly where the two clocks read the same and nothing
    else stands in the way (`Reportable`);
  - `a_silent_witness_is_not_reported_active`: an update one second after the pull.
-/

import Nq.Detect.Checks
import Nq.Inquiry.Cycle

namespace Nq.Inquiry

open Collections
open List

/-- A report profile on a finding, under its own digest. -/
structure Profiled (env : Env) (resolved : ResolvedProfile) (k : FindingId) (limit maxAge : Nat) : Prop where
  kind : resolved.profile.questionKind = .findingOperationalActivity
  valid : resolved.profile.Valid
  bound : resolved.profile.profileDigest env = .ok resolved.profileDigest
  selects : resolved.profile.selector = some (FindingId.selector k)
  limited : resolved.profile.evidenceLimit = some limit
  bounded : resolved.profile.maxSnapshotAgeSeconds = some maxAge

/-- Canonical JSON does not fail on receipts. -/
def Env.Renders (env : Env) : Prop := ∀ r, ∃ bytes, env.toVec (.receipt r) = .ok bytes

section

variable {env : Env} {fromStr : String → Except String Json} {c : CycleCall} {m m₁ m' : Monitor} {g : Int} {f : Finding}
  {sid : String} {resolved : ResolvedProfile} {limit maxAge : Nat} {completed lifecycle : Int}

theorem Profiled.limit_ne_zero (h : Profiled env resolved f.id limit maxAge) : limit ≠ 0 := by
  have hkind := h.valid.kind
  unfold Profile.KindValid at hkind
  rw [h.kind] at hkind
  obtain ⟨n, hn, hpos, _⟩ := hkind.evidenceLimit
  rw [h.limited] at hn
  cases hn
  omega

/-- A plan for the profile, as of a text that is a time. -/
theorem Profiled.exists_plan (h : Profiled env resolved f.id limit maxAge) {text : String} {t : Int}
    (ht : env.rfc3339 text = .ok t) : ∃ plan request, admitPlan env plan resolved = .ok request ∧ plan.asOf = text := by
  have hplan : (⟨planSchema, .v0, resolved.profile.profileId, text, []⟩ : CandidatePlan).Valid env :=
    ⟨rfl, h.valid.profileId, ⟨t, ht⟩, fun _ h => (nomatch h), nodup_nil⟩
  obtain ⟨request, hadmitted, _⟩ := exists_admitted resolved hplan h.valid (by simp [Profile.named]) h.bound
    ((admitTargets_report h.kind).mpr ⟨rfl, rfl⟩)
  exact ⟨_, request, admitPlan_ok.mpr hadmitted, rfl⟩

/-! ## A report on a firing finding -/

def ActiveAt (env : Env) (fromStr : String → Except String Json) (m : Monitor) (resolved : ResolvedProfile)
    (plan : CandidatePlan) : Prop :=
  ∃ receipt, executeReportInquiry env fromStr m.connection resolved plan = .ok receipt ∧
    receipt.disposition = .operationallyActive

def ActiveLatest (env : Env) (fromStr : String → Except String Json) (m : Monitor) (resolved : ResolvedProfile)
    (plan : CandidatePlan) : Prop :=
  ∃ receipt, executeLatestReportInquiry env fromStr m.connection resolved (fun _ => .ok plan) = .ok receipt ∧
    receipt.disposition = .operationallyActive

variable {plan : CandidatePlan} {asOf : Int}

/-- A plan at the completion of the newest generation is executed as it stands. -/
theorem executeLatest_ok {connection : Connection} {receipt : Receipt} {s : SourceSnapshot}
    (hs : loadLatestSnapshot env fromStr connection.store = .ok (some s)) (hasOf : plan.asOf = s.completedAt) :
    executeLatestReportInquiry env fromStr connection resolved (fun _ => .ok plan) = .ok receipt ↔
      executeReportInquiry env fromStr connection resolved plan = .ok receipt := by
  unfold executeLatestReportInquiry executeReportInquiry
  simp only [Sql.bind_ok, exists_const, validateReportExecutor_ok, context_ok, okOr_ok, rejectIf_ok,
    decide_eq_false_iff_not, ne_eq, not_not, hs, Except.ok.injEq]
  constructor
  · intro h
    obtain ⟨hv, _, esome, source, hsource, plan', eplan, _, request, ha, asOf, ht, hr⟩ := h
    subst esome
    subst eplan
    exact ⟨hv, request, ha, asOf, ht, _, rfl, hr⟩
  · intro h
    obtain ⟨hv, request, ha, asOf, ht, _, esome, hr⟩ := h
    subst esome
    exact ⟨hv, some s, rfl, s, rfl, plan, rfl, hasOf, request, ha, asOf, ht, hr⟩

/-- Every source the batch expects reported well. -/
structure CycleCall.Complete (c : CycleCall) : Prop where
  complete : c.batch.generationStatus = .complete
  pulled : c.batch.sourcesExpected = c.batch.sourceRuns.length

theorem CycleCall.Complete.sources (h : c.Complete) :
    c.batch.sourcesFailed = 0 ∧ c.batch.sourcesOk = c.batch.sourcesExpected := by
  have hfailed : c.batch.sourcesFailed = 0 := by
    have hcomplete := h.complete
    unfold Batch.generationStatus at hcomplete
    by_contra hne
    rw [if_neg hne] at hcomplete
    split at hcomplete <;> cases hcomplete
  have hsum := length_eq_length_filter_add (l := c.batch.sourceRuns) fun r => decide (r.status = .ok)
  unfold Batch.sourcesFailed at hfailed
  unfold Batch.sourcesOk
  refine ⟨hfailed, ?_⟩
  rw [h.pulled, hsum]
  have hrest : c.batch.sourceRuns.filter (fun r => !decide (r.status = .ok)) =
      c.batch.sourceRuns.filter fun r => decide (r.status ≠ .ok) := by
    refine filter_congr fun r _ => ?_
    simp
  rw [hrest, hfailed]
  rfl

/-- What a report on the finding asks for, as of a time. -/
structure Reads (env : Env) (c : CycleCall) (m₁ m' : Monitor) (g : Int) (f : Finding) (limit maxAge : Nat)
    (lifecycle asOf : Int) : Prop where
  prompt : lifecycle ≤ asOf
  kept : c.Keeps m₁ g f
  originates : m₁.Originates env f asOf maxAge
  earlier : ∀ e ∈ (loadEvidenceTail m'.store (FindingId.selector f.id) g limit).1, e.generationId < g →
    env.By asOf e.observedAt

theorem active_iff (h : Cycled c m m₁ m' g) (hdated : env.Dated) (hrenders : env.Renders)
    (hf : Cycled.Emits c m₁ g f sid) (hcomplete : c.Complete) (hp : Profiled env resolved f.id limit maxAge)
    (hcompleted : env.rfc3339 c.batch.cycleCompletedAt = .ok completed)
    (hclock : env.rfc3339 c.clock.lifecycle = .ok lifecycle) {request : AdmittedRequest}
    (ha : admitPlan env plan resolved = .ok request) (hasOf : env.rfc3339 plan.asOf = .ok asOf) (hby : completed ≤ asOf)
    (hage : asOf ≤ completed + maxAge * 1000000000) :
    ActiveAt env fromStr m' resolved plan ↔ Reads env c m₁ m' g f limit maxAge lifecycle asOf := by
  obtain ⟨observed, run, suppressed, hloaded, hsealed⟩ := @Cycled.latest c m m₁ m' g env fromStr h
  obtain ⟨rest, htail, hearlier⟩ := h.tail hf.mem hp.limit_ne_zero
  have hgeneration : (m'.columns.snapshot
      ((c.batch.generationRow g).setLineage observed run suppressed)).generationId = g := rfl
  have hlocated := get_warningState m' f.id
  constructor
  · intro hactive
    obtain ⟨receipt, hr, hd⟩ := hactive
    obtain ⟨request', selector, limit', maxAge', asOf', snapshot, lift, hx⟩ := executeReportInquiry_ok.mp hr
    cases Option.some.inj (hp.selects.symm.trans hx.selects)
    cases Option.some.inj (hp.limited.symm.trans hx.limited)
    cases Option.some.inj (hp.bounded.symm.trans hx.bounded)
    cases Except.ok.inj (hasOf.symm.trans hx.asks)
    cases Except.ok.inj (hloaded.symm.trans hx.loaded)
    rcases classifyDisposition_ok hx.classified with hlift | hrefused
    · obtain ⟨s, fs, latest, lastSeen, es, ef, hs⟩ := classify_ok.mp hlift.2
      cases es
      obtain ⟨row, hrow, e⟩ := Option.map_eq_some_iff.mp ef
      have hrow : m'.store.warningState.get (FindingId.selector f.id) = some row := hrow
      rw [hlocated] at hrow
      obtain ⟨r, hget, erow⟩ := Option.map_eq_some_iff.mp hrow
      subst e
      subst erow
      obtain ⟨_, hprompt, horiginates⟩ := (h.fires hf hget hclock).mp hs.fires
      refine ⟨hprompt, ?_, horiginates, fun e he _ => hs.witnessed.carried e he⟩
      by_contra hnot
      rw [(h.row hf.mem).1.mpr hnot] at hget
      cases hget
    · obtain ⟨refusal, e⟩ := hrefused
      rw [(seal_reported hx.sealed).disposition, e] at hd
      cases hd
  · intro hreads
    have hsome : m'.db.warningState.get f.id ≠ none := fun hnone => (h.row hf.mem).1.mp hnone hreads.kept
    obtain ⟨r, hget⟩ := Option.ne_none_iff_exists'.mp hsome
    have hfound : loadFindingState m'.store (FindingId.selector f.id) = some (m'.columns.warning r).state := by
      unfold loadFindingState
      rw [hlocated, hget]
      rfl
    have hbasis := h.basis_observed hf.mem
    have hcore := ((h.row hf.mem).2 r hget).1
    have hbasisRow : r.basisSourceId = f.basisSourceId ∧ r.basisWitnessId = f.basisWitnessId := by
      have hcolumns : (c.upserted m₁ g f).basisSourceId = f.basisSourceId ∧
          (c.upserted m₁ g f).basisWitnessId = f.basisWitnessId := by
        unfold CycleCall.upserted emittedRow
        cases m₁.db.warningState.get f.id <;> exact ⟨rfl, rfl⟩
      exact ⟨(congrArg (·.basisSourceId) hcore).trans hcolumns.1, (congrArg (·.basisWitnessId) hcore).trans hcolumns.2⟩
    obtain ⟨hfailed, hok⟩ := hcomplete.sources
    have hsupported : Supported env (m'.columns.snapshot ((c.batch.generationRow g).setLineage observed run suppressed))
        (m'.columns.warning r).state (loadEvidenceTail m'.store (FindingId.selector f.id) g limit).1
        (m'.columns.observation (c.observed m₁ g f)) lifecycle asOf maxAge := by
      refine {
        whole := ⟨hsealed, congrArg statusOf hcomplete.complete, ⟨congrArg Int.ofNat hok, congrArg Int.ofNat hfailed,
          Int.natCast_nonneg _⟩, Int.natCast_nonneg _, Int.natCast_nonneg _, Int.natCast_nonneg _⟩
        completed := ⟨completed, hcompleted, hby, (ageSeconds_le hdated hasOf hcompleted hby).mpr (by omega)⟩
        fires := (h.fires hf hget hclock).mpr ⟨rfl, hreads.prompt, hreads.originates⟩
        witnessed := ⟨by rw [htail]; rfl, rfl,
          ⟨hbasis.1.trans hbasisRow.1.symm, hbasis.2.trans hbasisRow.2.symm⟩, hclock, ?_⟩ }
      intro e he
      by_cases hlt : e.generationId < g
      · exact hreads.earlier e he hlt
      · rw [htail] at he
        rcases mem_cons.mp he with hnew | hold
        · rw [hnew]
          exact ⟨lifecycle, hclock, hreads.prompt⟩
        · exact absurd (hearlier e hold) hlt
    obtain ⟨bytes, hbytes⟩ := hrenders (sealedReport resolved request
      (some (m'.columns.snapshot ((c.batch.generationRow g).setLineage observed run suppressed)))
      (some (m'.columns.warning r).state) (loadEvidenceTail m'.store (FindingId.selector f.id) g limit) limit
      (.operationallyActive, []))
    have hread : m'.connection.readOnly = true := rfl
    obtain ⟨receipt, hr, hd, _⟩ :=
      executes hread hp.kind ha hp.selects hp.limited hp.bounded hasOf hloaded hfound hsupported hbytes
    exact ⟨receipt, hr, hd⟩

/-- A finding is reported active: by a report at the completion of its generation, and by every
    report from the update on while the snapshot is young enough. -/
structure ReportedActive (env : Env) (fromStr : String → Except String Json) (m : Monitor) (resolved : ResolvedProfile)
    (completedAt : String) (completed lifecycle : Int) (maxAge : Nat) : Prop where
  latest : ∀ plan request, admitPlan env plan resolved = .ok request → plan.asOf = completedAt →
    ActiveLatest env fromStr m resolved plan
  between : ∀ plan request asOf, admitPlan env plan resolved = .ok request → env.rfc3339 plan.asOf = .ok asOf →
    lifecycle ≤ asOf → asOf ≤ completed + maxAge * 1000000000 → ActiveAt env fromStr m resolved plan

/-- The update reads its clock where the pull did, the collector leaves the finding's row, the row is of
    the monitor's own making or its producer's extraction is young enough throughout, and no earlier
    observation that is carried lies after the completion. -/
structure Reportable (env : Env) (c : CycleCall) (m₁ m' : Monitor) (g : Int) (f : Finding) (limit maxAge : Nat)
    (completed lifecycle : Int) : Prop where
  prompt : lifecycle ≤ completed
  kept : c.Keeps m₁ g f
  originates : ∀ text t, env.rfc3339 text = .ok t → lifecycle ≤ t → t ≤ completed + maxAge * 1000000000 →
    m₁.Originates env f t maxAge
  earlier : ∀ e ∈ (loadEvidenceTail m'.store (FindingId.selector f.id) g limit).1, e.generationId < g →
    env.By completed e.observedAt

/-- A finding that is reported active meets a report at the completion. -/
theorem ReportedActive.reads
    (hactive : ReportedActive env fromStr m' resolved c.batch.cycleCompletedAt completed lifecycle maxAge)
    (h : Cycled c m m₁ m' g) (hdated : env.Dated) (hrenders : env.Renders) (hf : Cycled.Emits c m₁ g f sid)
    (hcomplete : c.Complete) (hp : Profiled env resolved f.id limit maxAge)
    (hcompleted : env.rfc3339 c.batch.cycleCompletedAt = .ok completed)
    (hclock : env.rfc3339 c.clock.lifecycle = .ok lifecycle) :
    Reads env c m₁ m' g f limit maxAge lifecycle completed := by
  obtain ⟨_, _, _, hloaded, _⟩ := h.latest
  obtain ⟨plan, request, ha, hasOf⟩ := hp.exists_plan hcompleted
  obtain ⟨receipt, hr, hd⟩ := hactive.latest plan request ha hasOf
  have hat : ActiveAt env fromStr m' resolved plan := ⟨receipt, (executeLatest_ok hloaded hasOf).mp hr, hd⟩
  exact (active_iff h hdated hrenders hf hcomplete hp hcompleted
    hclock ha (hasOf ▸ hcompleted) (Int.le_refl _) (by omega)).mp hat

theorem Env.By.later {asOf' : Int} {value : String} (h : env.By asOf value) (hle : asOf ≤ asOf') :
    env.By asOf' value := by
  obtain ⟨t, ht, hby⟩ := h
  exact ⟨t, ht, hby.trans hle⟩

end

/-- In every run of the loop, after every cycle that commits, a finding it emitted is reported active
    exactly where it is reportable. -/
theorem reported_active_iff (env : Env) (hdated : env.Dated)
    (hrenders : env.Renders) (fromStr : String → Except String Json)
    (m₀ : Monitor) (past : List CycleCall) (c : CycleCall) (m₁ m' : Monitor) (g : Int)
    (hpublish : (past.foldl Monitor.serve m₀).publish c.batch c.durationMs = .ok (m₁, g))
    (hcycle : (past.foldl Monitor.serve m₀).cycle c = .ok m') (hcomplete : c.Complete) (f : Finding) (sid : String)
    (hf : Cycled.Emits c m₁ g f sid) (resolved : ResolvedProfile) (limit maxAge : Nat)
    (hp : Profiled env resolved f.id limit maxAge) (completed lifecycle : Int)
    (hcompleted : env.rfc3339 c.batch.cycleCompletedAt = .ok completed)
    (hclock : env.rfc3339 c.clock.lifecycle = .ok lifecycle)
    (hlater : completed ≤ lifecycle) :
    ReportedActive env fromStr m' resolved c.batch.cycleCompletedAt completed lifecycle maxAge ↔
      Reportable env c m₁ m' g f limit maxAge completed lifecycle := by
  obtain ⟨m₁', g', hpublish', h⟩ := cycle_ok hcycle
  cases Except.ok.inj (hpublish.symm.trans hpublish')
  obtain ⟨_, _, _, hloaded, _⟩ := h.latest
  have hreads : ∀ plan request asOf, admitPlan env plan resolved = .ok request → env.rfc3339 plan.asOf = .ok asOf →
      completed ≤ asOf → asOf ≤ completed + maxAge * 1000000000 →
      (ActiveAt env fromStr m' resolved plan ↔ Reads env c m₁ m' g f limit maxAge lifecycle asOf) :=
    fun _ _ _ ha hasOf hby hage => active_iff h hdated hrenders hf hcomplete hp hcompleted hclock ha hasOf hby hage
  constructor
  · intro hactive
    have hread := hactive.reads h hdated hrenders hf hcomplete hp hcompleted hclock
    refine ⟨hread.prompt, hread.kept, fun text t ht hfrom hto => ?_, hread.earlier⟩
    obtain ⟨plan', request', ha', hasOf'⟩ := hp.exists_plan ht
    have hat' := hactive.between plan' request' t ha' (hasOf' ▸ ht) hfrom hto
    exact ((hreads plan' request' t ha' (hasOf' ▸ ht) (hlater.trans hfrom) hto).mp hat').originates
  · intro hreportable
    have hat : ∀ plan request asOf, admitPlan env plan resolved = .ok request → env.rfc3339 plan.asOf = .ok asOf →
        lifecycle ≤ asOf → asOf ≤ completed + maxAge * 1000000000 → ActiveAt env fromStr m' resolved plan := by
      intro plan request asOf ha hasOf hfrom hto
      have hby := hlater.trans hfrom
      exact (hreads plan request asOf ha hasOf hby hto).mpr ⟨hfrom, hreportable.kept,
        hreportable.originates _ _ hasOf hfrom hto, fun e he hlt => (hreportable.earlier e he hlt).later hby⟩
    refine ⟨fun plan request ha hasOf => ?_, hat⟩
    obtain ⟨receipt, hr, hd⟩ := hat plan request completed ha (hasOf ▸ hcompleted) hreportable.prompt (by omega)
    exact ⟨receipt, (executeLatest_ok hloaded hasOf).mpr hr, hd⟩

/-! ## A silent witness -/

/-- A monitor before its first cycle. -/
def idleMonitor : Monitor where
  db := Db.init
  columns := ⟨fun _ => 0, fun _ => none, fun _ => none, fun _ => "", fun _ => 0, fun _ => none,
    fun _ => none, fun _ => none⟩
  ids := nodup_nil
  known := fun _ _ ho => (nomatch ho)
  rows := fun _ _ hr => (nomatch hr)

/-- The ZFS witness of a host failed; the pull completed at 11:59. -/
def silentWitnessCycle (lifecycle : String) : CycleCall where
  batch :=
    { cycleStartedAt := "2026-07-11T11:59:00Z"
      cycleCompletedAt := "2026-07-11T11:59:00Z"
      sourcesExpected := 1
      sourceRuns := [⟨"nas", .ok⟩]
      zfsWitnessRows :=
        [{ host := "nas", collectedAt := "", witnessId := "zfs.local", witnessStatus := "failed"
           coverage := ⟨["pool_state"], []⟩, observations := [] }] }
  durationMs := 0
  detect := fun db => (runAll exactEnv {} db).toOption.getD []
  text := fun _ => "ZFS witness silent"
  clock := ⟨lifecycle, lifecycle⟩

def silentWitness : WitnessRow where
  host := "nas"
  witnessId := "zfs.local"
  witnessStatus := "failed"
  asOfGeneration := 1
  receivedAt := ""

/-- The host's finding for its silent witness. -/
def unobservableNas : Finding := pairedNodeUnobservable "zfs_witness_silent" silentWitness

/-- The report profile on that finding. -/
def unobservableProfile : Profile :=
  { resolverPendingAgedTail with selector := some ⟨"nas", "node_unobservable", "zfs.local"⟩ }

theorem unobservableProfile_valid : unobservableProfile.Valid where
  schema := rfl
  profileId := by decide +kernel
  question := by decide +kernel
  kind := ⟨⟨_, rfl, by decide +kernel, by decide +kernel⟩, ⟨_, rfl, by decide⟩, ⟨_, rfl, by decide, by decide⟩, rfl⟩
  covered := cons_ne_nil _ _
  refuses := cons_ne_nil _ _
  aliases := by decide +kernel
  coverage := by decide +kernel
  cannotTestify := by decide +kernel

theorem unobservable_profiled : ∃ resolved, Profiled reportEnv resolved unobservableNas.id 32 300 := by
  obtain ⟨resolved, hr⟩ := Profile.exists_resolved reportEnv unobservableProfile_valid
  obtain ⟨_, d, hd, e⟩ := Profile.resolved_ok.mp hr
  subst e
  exact ⟨⟨unobservableProfile.sorted, d⟩, {
    kind := rfl
    valid := unobservableProfile.rearranged_sorted.valid unobservableProfile_valid
    bound := hd
    selects := rfl
    limited := rfl
    bounded := rfl }⟩

theorem reportEnv_renders : reportEnv.Renders := by
  intro r
  show ∃ bytes, reportVec (.receipt r) = .ok bytes
  unfold reportVec
  dsimp only
  by_cases hplain : (Artifact.receipt r).plain = true
  · exact ⟨_, by rw [if_pos hplain]; exact if_pos hplain⟩
  · rw [if_neg hplain]
    by_cases hintegral : r.integral = true
    · exact ⟨_, if_pos hintegral⟩
    · exact ⟨_, if_neg hintegral⟩

/-- What the update finds in the published monitor. -/
def silentWitnessPublished (lifecycle : String) (db : Db) (g : Int) : Bool :=
  let u := (silentWitnessCycle lifecycle).update db g
  decide (unobservableNas ∈ u.emitted db) && (db.sourcesRetired.get "zfs.local").isNone && (u.run db).toOption.isSome &&
    (db.warningState.get unobservableNas.id).isNone &&
    decide (db.goneAfter (emittedRow (u.cycle db) (db.warningState.get unobservableNas.id) unobservableNas) ≤
      entityGcThreshold)

variable {db : Db}

theorem publish_of {m : Monitor} {b : Batch} {durationMs : Int} {res : PublishResult}
    (h : publishBatch m.db b = .ok (db, res)) :
    ∃ m₁, m.publish b durationMs = .ok (m₁, res.generationId) ∧ m₁.db = db := by
  unfold Monitor.publish
  split
  · rename_i e he
    cases h.symm.trans he
  · rename_i db' res' he
    cases Except.ok.inj (h.symm.trans he)
    exact ⟨_, rfl, rfl⟩

theorem update_of {m : Monitor} {u : UpdateCall} {text : Finding → String} (h : u.run m.db = .ok db) :
    ∃ m₂, m.update u text = .ok m₂ := by
  unfold Monitor.update
  split
  · rename_i e he
    cases h.symm.trans he
  · exact ⟨_, rfl⟩

/-- A cycle of the silent witness, and the finding it emits. -/
structure SilentWitness (lifecycle : String) (m₁ m' : Monitor) (g : Int) : Prop where
  published : idleMonitor.publish (silentWitnessCycle lifecycle).batch
    (silentWitnessCycle lifecycle).durationMs = .ok (m₁, g)
  cycled : idleMonitor.cycle (silentWitnessCycle lifecycle) = .ok m'
  emits : Cycled.Emits (silentWitnessCycle lifecycle) m₁ g unobservableNas "zfs.local"
  new : m₁.db.warningState.get unobservableNas.id = none
  keeps : (silentWitnessCycle lifecycle).Keeps m₁ g unobservableNas

theorem silentWitness_cycles {lifecycle : String}
    (h : ((publishBatch Db.init (silentWitnessCycle lifecycle).batch).toOption.map
    fun p => silentWitnessPublished lifecycle p.1 p.2.generationId) = some true) : ∃ m₁ m' g,
      SilentWitness lifecycle m₁ m' g := by
  obtain ⟨⟨db, res⟩, hp, hpublished⟩ := Option.map_eq_some_iff.mp h
  have hpublish : ∃ m₁, idleMonitor.publish (silentWitnessCycle lifecycle).batch 0 = .ok (m₁, res.generationId) ∧
      m₁.db = db :=
    publish_of (Sql.toOption_eq_some.mp hp)
  obtain ⟨m₁, hm₁, edb⟩ := hpublish
  subst edb
  unfold silentWitnessPublished at hpublished
  simp only [Bool.and_eq_true, decide_eq_true_eq, Option.isNone_iff_eq_none] at hpublished
  obtain ⟨⟨⟨⟨hmem, hstanding⟩, hrun⟩, hnew⟩, hkeeps⟩ := hpublished
  obtain ⟨db', hdb'⟩ := Option.isSome_iff_exists.mp hrun
  have hupdate : ∃ m₂, m₁.update _ (silentWitnessCycle lifecycle).text = .ok m₂ :=
    update_of (Sql.toOption_eq_some.mp hdb')
  obtain ⟨m₂, hm₂⟩ := hupdate
  exact ⟨m₁, m₂.seal res.generationId, res.generationId, {
    published := hm₁
    cycled := Sql.bind_ok.mpr ⟨_, hm₁, Sql.bind_ok.mpr ⟨m₂, hm₂, rfl⟩⟩
    emits := ⟨hmem, rfl, hstanding, rfl, fun _ hd => by cases hd⟩
    new := hnew
    keeps := hkeeps }⟩

theorem silentWitness_complete (lifecycle : String) : (silentWitnessCycle lifecycle).Complete := ⟨rfl, rfl⟩

/-- Before the cycle nothing was observed. -/
theorem SilentWitness.earlier {lifecycle : String} {m₁ m' : Monitor} {g : Int} (h : SilentWitness lifecycle m₁ m' g)
    {e : EvidenceReceipt} {limit : Nat}
    (he : e ∈ (loadEvidenceTail m'.store (FindingId.selector unobservableNas.id) g limit).1) :
    ¬ e.generationId < g := by
  obtain ⟨m₁', g', hpublish, hcycled⟩ := cycle_ok h.cycled
  cases Except.ok.inj (h.published.symm.trans hpublish)
  obtain ⟨all, hperm, _, htail⟩ := loadEvidenceTail_spec m'.store (FindingId.selector unobservableNas.id) g limit
  rw [htail] at he
  obtain ⟨hrow, _⟩ := mem_filter.mp (hperm.mem_iff.mp (mem_of_mem_take he))
  obtain ⟨o, ho, eo⟩ := List.mem_map.mp hrow
  subst eo
  show ¬ o.generationId < g
  cases hi : (((silentWitnessCycle lifecycle).update m₁.db g).emitted m₁.db).findIdx? (fun f => (g, f.key) = o.pk) with
  | none =>
    have hold := observation_kept (m := m₁) hcycled.updated ho hi
    rw [hcycled.published.findingObservations] at hold
    cases hold
  | some i =>
    obtain ⟨_, hpk, _⟩ := findIdx?_eq_some_iff_getElem.mp hi
    have hg : g = o.generationId := congrArg Prod.fst (of_decide_eq_true hpk)
    omega

/-- An update a second after the pull: no report at the completion finds the finding active. -/
theorem a_silent_witness_is_not_reported_active : ∃ m₁ m' g resolved,
    SilentWitness "2026-07-11T11:59:01Z" m₁ m' g ∧ (silentWitnessCycle "2026-07-11T11:59:01Z").Complete ∧
    Profiled reportEnv resolved unobservableNas.id 32 300 ∧
    reportEnv.rfc3339 "2026-07-11T11:59:00Z" = .ok 1783771140000000000 ∧
    reportEnv.rfc3339 "2026-07-11T11:59:01Z" = .ok 1783771141000000000 ∧
    ¬ ReportedActive reportEnv noCoverage m' resolved "2026-07-11T11:59:00Z"
      1783771140000000000 1783771141000000000 300 := by
  have hcycles : ∃ m₁ m' g, SilentWitness "2026-07-11T11:59:01Z" m₁ m' g := silentWitness_cycles (by decide +kernel)
  obtain ⟨m₁, m', g, h⟩ := hcycles
  obtain ⟨resolved, hp⟩ := unobservable_profiled
  obtain ⟨m₁', g', hpublish, hcycled⟩ := cycle_ok h.cycled
  cases Except.ok.inj (h.published.symm.trans hpublish)
  have hcompleted : readReportInstant "2026-07-11T11:59:00Z" = .ok 1783771140000000000 := by decide +kernel
  have hclock : readReportInstant "2026-07-11T11:59:01Z" = .ok 1783771141000000000 := by decide +kernel
  refine ⟨m₁, m', g, resolved, h, silentWitness_complete _, hp, hcompleted, hclock, fun hactive => ?_⟩
  have hread := ReportedActive.reads hactive hcycled reportEnv_dated
    reportEnv_renders h.emits (silentWitness_complete _) hp
    hcompleted hclock
  exact absurd hread.prompt (by decide)

/-- An update at the instant of the completion: it is reported active. -/
theorem a_silent_witness_is_reported_active : ∃ m₁ m' g resolved, SilentWitness "2026-07-11T11:59:00Z" m₁ m' g ∧
    ReportedActive reportEnv noCoverage m' resolved "2026-07-11T11:59:00Z"
      1783771140000000000 1783771140000000000 300 := by
  have hcycles : ∃ m₁ m' g, SilentWitness "2026-07-11T11:59:00Z" m₁ m' g := silentWitness_cycles (by decide +kernel)
  obtain ⟨m₁, m', g, h⟩ := hcycles
  obtain ⟨resolved, hp⟩ := unobservable_profiled
  have hcompleted : readReportInstant "2026-07-11T11:59:00Z" = .ok 1783771140000000000 := by decide +kernel
  refine ⟨m₁, m', g, resolved, h,
    (reported_active_iff reportEnv reportEnv_dated reportEnv_renders noCoverage idleMonitor []
    (silentWitnessCycle "2026-07-11T11:59:00Z") m₁ m' g h.published
      h.cycled (silentWitness_complete _) unobservableNas "zfs.local"
    h.emits resolved 32 300 hp 1783771140000000000 1783771140000000000 hcompleted hcompleted (Int.le_refl _)).mpr ?_⟩
  refine ⟨Int.le_refl _, h.keeps, fun _ _ _ _ _ r hr => ?_, fun e he hlt => absurd hlt (h.earlier he)⟩
  cases h.new.symm.trans hr

end Nq.Inquiry
