/-
  Nq.Dashboard.Controls — the action controls of a finding's page
  (`nq-monitor/src/http/operator_dashboard.rs`).

  The page offers its controls from what it has joined; the write path reads the row, the
  newest observation and the newest generation again. Both sides are brought to one
  condition on the row (`shown_actionable_iff`, `accepted_iff`), so that what is offered
  is accepted, and what would be accepted is offered, unless the page knows of evidence that
  is gone or of a recovery, if the page loads (`offered_iff_accepted`). A log source whose
  counts overflow their sum keeps the page of every finding from loading
  (`an_overflow_hides_every_page`).
-/

import Nq.Dashboard.Findings
import Nq.Detect.Checks
import Nq.Operator.Chain
import Nq.Publish.Publish

namespace Nq.Dashboard

open List hiding not_lt
open Sql (Table)

/-! ## The controls -/

/-- A dialog: its target, its action and what the operator has reviewed. -/
structure ActionChoice where
  findingKey : String
  contract : FindingActionContract
  expectedWorkState : WorkState
  expectedLastSeenGen : Int
  deriving DecidableEq, Repr

inductive RenderedActions where
  | withoutWriteAccess
  | disabledForSafety
  | offered (routine consequential : List ActionChoice)
  deriving DecidableEq, Repr

def renderActionChoice (finding : DashboardFinding) (contract : FindingActionContract) : ActionChoice :=
  ⟨finding.findingKey, contract, finding.row.workState, finding.row.lastSeenGen⟩

def basisCurrent (finding : DashboardFinding) (basis : DashboardBasis) : Bool :=
  basis.status = some .complete && basis.generationId = some finding.row.lastSeenGen &&
    basis.ageSeconds.any fun age => 0 ≤ age ∧ age ≤ dashboardStaleAfterSeconds

def findingCurrent (finding : DashboardFinding) : Bool :=
  finding.status = .ongoing && !finding.displayStale && finding.row.visibilityState = .observed &&
    finding.row.absentGens = 0 && finding.row.basisState = .live

/-- `render_actions`. Every stored work state is one of the six it recognizes. -/
def renderActions (finding : DashboardFinding) (basis : DashboardBasis) (mutationAvailable : Bool) : RenderedActions :=
  if !mutationAvailable then .withoutWriteAccess
  else if !basisCurrent finding basis || !findingCurrent finding then .disabledForSafety
  else .offered ([FindingAction.acknowledge, .watch].map fun a => renderActionChoice finding a.contract)
    ([FindingAction.quiesce, .close, .suppress, .reset].map fun a => renderActionChoice finding a.contract)

def RenderedActions.choices : RenderedActions → List ActionChoice
  | .offered routine consequential => routine ++ consequential
  | _ => []

/-- The controls on the page of a finding: only a current one has any. -/
def DashboardFindingDetail.controls (detail : DashboardFindingDetail) (mutationAvailable : Bool) : List ActionChoice :=
  match detail with
  | .current basis finding _ _ => (renderActions finding basis mutationAvailable).choices
  | _ => []

/-- What a dialog submits. -/
def ActionChoice.request (c : ActionChoice) (actor owner note : Option String)
    (ttlHours : Option Int) : FindingActionRequest :=
  ⟨c.findingKey, c.contract.action, c.expectedWorkState, c.expectedLastSeenGen, note, owner, actor, ttlHours⟩

theorem choices_eq {finding : DashboardFinding} {basis : DashboardBasis} :
    (renderActions finding basis true).choices =
      if basisCurrent finding basis && findingCurrent finding then
        [FindingAction.acknowledge, .watch, .quiesce, .close, .suppress, .reset].map fun a =>
          renderActionChoice finding a.contract
      else [] := by
  unfold renderActions
  cases basisCurrent finding basis <;> cases findingCurrent finding <;> rfl

/-! ## One condition -/

/-- What both sides ask of a row. -/
structure Actionable (time : TimeLib) (db : Db) (now : Int) (r : WarningRow) : Prop where
  visibility : r.visibilityState = .observed
  absent : r.absentGens = 0
  basis : r.basisState = .live
  observation : ∀ o, loadLatestObservation db r.id.key = some o → o.generationId = r.lastSeenGen
  latest : ∃ g, db.latestGeneration = some g ∧ g.status = .complete ∧ g.generationId = r.lastSeenGen ∧
    Recent time now g.completedAt
  recent : Recent time now (observationTime db r)

section

variable {time : TimeLib} {db : Db} {now : Int} {r : WarningRow}

/-! ### The write path -/

variable {q : FindingActionRequest} {basis : DashboardBasis} {f : DashboardFinding}

theorem validateActionTimestamp_ok {timestamp : String} {unavailable : String → FindingStaleReason}
    {tooOld fromFuture : String → Int → FindingStaleReason} {x : Unit} :
    validateActionTimestamp time q now timestamp unavailable tooOld fromFuture = .ok x ↔ Recent time now timestamp := by
  unfold validateActionTimestamp Recent timestampAgeSeconds
  cases time.parse timestamp with
  | error e => exact ⟨fun h => (nomatch h), fun ⟨_, h, _⟩ => (nomatch h)⟩
  | ok observedAt =>
    simp only [Sql.ite_error_ok, not_lt, gt_iff_lt]
    constructor
    · rintro ⟨hlow, hhigh, -⟩
      exact ⟨_, rfl, hlow, hhigh⟩
    · rintro ⟨age, hage, hlow, hhigh⟩
      cases hage
      exact ⟨hlow, hhigh, trivial⟩

/-- What a key resolves to. -/
def resolved (db : Db) (r : WarningRow) : ResolvedTarget :=
  let latest := loadLatestObservation db r.id.key
  ⟨r.host, r.kind, r.subject, r.workState, r.lastSeenGen, r.lastSeenAt, latest.map (·.generationId),
    latest.map (·.observedAt), r.visibilityState, r.absentGens, r.basisState⟩

theorem resolve_of_mem (hr : r ∈ db.warningState.rows) :
    resolveByCanonicalKey db r.id.key = .ok (some (resolved db r)) := by
  have hrows : db.warningState.rows.filter (·.id.key = r.id.key) = [r] := by
    have hsame : db.warningState.rows.filter (·.id.key = r.id.key) = db.warningState.rows.filter (·.id = r.id) := by
      refine filter_congr fun r' _ => ?_
      by_cases h : r'.id = r.id
      · simp [h]
      · have hne : r'.id.key ≠ r.id.key := fun he => h (FindingId.key_inj he)
        simp [h, hne]
    rw [hsame, Table.filter_key, Table.get_of_mem hr]
    rfl
  unfold resolveByCanonicalKey
  rw [hrows]
  simp only [resolved, loadLatestObservation, Option.map_map]
  rfl

theorem accepted_iff (hr : r ∈ db.warningState.rows) (hkey : r.id.key = q.findingKey) {t : ResolvedTarget} :
    resolveAndValidate time db q now = .ok t ↔
      t = resolved db r ∧ r.workState = q.expectedWorkState ∧ r.lastSeenGen = q.expectedLastSeenGen ∧
        Actionable time db now r := by
  have hobs : (resolved db r).observationGeneration.any (· ≠ (resolved db r).lastSeenGen) = true ↔
      ¬∀ o, loadLatestObservation db r.id.key = some o → o.generationId = r.lastSeenGen := by
    simp only [resolved]
    cases loadLatestObservation db r.id.key with
    | none => simp
    | some o => by_cases ho : o.generationId = r.lastSeenGen <;> simp [ho]
  have htime : (∀ o, loadLatestObservation db r.id.key = some o → o.generationId = r.lastSeenGen) →
      (resolved db r).observationAt.getD (resolved db r).lastSeenAt = observationTime db r := by
    intro h
    simp only [resolved, observationTime, currentObservation]
    cases hlatest : loadLatestObservation db r.id.key with
    | none => rfl
    | some o =>
      rw [Option.filter_some, if_pos (decide_eq_true (h o hlatest))]
  unfold resolveAndValidate
  rw [← hkey, resolve_of_mem hr]
  simp only [Sql.bind_ok, Except.ok.injEq, exists_eq_left', Sql.ite_error_ok, ne_eq, not_not, hobs]
  constructor
  · rintro ⟨hwork, hgen, hobserved, hvis, habsent, hbasis, h⟩
    cases hlatest : db.latestGeneration with
    | none => rw [hlatest] at h; cases h
    | some g =>
      rw [hlatest] at h
      simp only [Sql.ite_error_ok, not_not, Sql.bind_ok] at h
      obtain ⟨hcomplete, hlast, _, hbasisAge, _, hage, h⟩ := h
      cases h
      rw [validateActionTimestamp_ok] at hbasisAge hage
      rw [htime hobserved] at hage
      exact ⟨rfl, hwork, hgen, hvis, habsent, hbasis, hobserved, ⟨g, hlatest, hcomplete, hlast.symm, hbasisAge⟩, hage⟩
  · rintro ⟨rfl, hwork, hgen, h⟩
    obtain ⟨g, hlatest, hcomplete, hlast, hbasisAge⟩ := h.latest
    refine ⟨hwork, hgen, h.observation, h.visibility, h.absent, h.basis, ?_⟩
    rw [hlatest]
    simp only [Sql.ite_error_ok, not_not, Sql.bind_ok]
    refine ⟨hcomplete, hlast.symm, (), validateActionTimestamp_ok.mpr hbasisAge, (),
      validateActionTimestamp_ok.mpr ?_, rfl⟩
    rw [htime h.observation]
    exact h.recent

/-! ### The page -/

theorem basisCurrent_iff (hbasis : loadBasis time db now = .ok basis) {finding : DashboardFinding}
    (hfinding : finding.row = r) : basisCurrent finding basis = true ↔ ∃ g, db.latestGeneration = some g ∧
      g.status = .complete ∧ g.generationId = r.lastSeenGen ∧ Recent time now g.completedAt := by
  unfold loadBasis at hbasis
  obtain ⟨loadedAt, -, hbasis⟩ := Sql.bind_ok.mp hbasis
  subst hfinding
  unfold basisCurrent
  cases hlatest : db.latestGeneration with
  | none =>
    rw [hlatest] at hbasis
    cases hbasis
    simp
  | some g =>
    rw [hlatest] at hbasis
    cases hbasis
    have hage : (timestampAgeSeconds time now g.completedAt).any (fun age =>
      0 ≤ age ∧ age ≤ dashboardStaleAfterSeconds) = true ↔
        Recent time now g.completedAt := by
      rw [← observationIsStale_eq_false]
      unfold observationIsStale
      rw [Bool.not_eq_false']
    simp only [Bool.and_eq_true, decide_eq_true_eq, Option.some.injEq, hage, exists_eq_left']
    rw [and_assoc]

theorem findingCurrent_iff {pageGeneration : Option Int}
    (hf : dashboardFindingFromRaw time db r now pageGeneration = .ok f) :
    findingCurrent f = true ↔ Joined db r pageGeneration ∧ r.visibilityState = .observed ∧ r.absentGens = 0 ∧
      r.basisState = .live ∧ r.stability ≠ some .recovering ∧ Recent time now (observationTime db r) := by
  have hstale : f.displayStale = false ↔ Recent time now (observationTime db r) := by
    rw [displayStale_of_raw hf]
    exact observationIsStale_eq_false
  have hrow : f.row = r := (row_of_raw hf).2
  unfold findingCurrent
  simp only [Bool.and_eq_true, decide_eq_true_eq, Bool.not_eq_true', hstale, hrow, shown_ongoing_iff hf]
  constructor
  · rintro ⟨⟨⟨⟨⟨hjoined, hlive, hobserved, hrecent, -, hstability⟩, -⟩, -⟩, habsent⟩, -⟩
    exact ⟨hjoined, hobserved, habsent, hlive, hstability, hrecent⟩
  · rintro ⟨hjoined, hobserved, habsent, hlive, hstability, hrecent⟩
    exact ⟨⟨⟨⟨⟨hjoined, hlive, hobserved, hrecent, habsent.le, hstability⟩, hrecent⟩, hobserved⟩, habsent⟩, hlive⟩

/-- The page offers its controls where the row is actionable, its evidence is there and it
    is not recovering. -/
theorem shown_actionable_iff (hbasis : loadBasis time db now = .ok basis)
    (hf : dashboardFindingFromRaw time db r now basis.generationId = .ok f) :
    (basisCurrent f basis && findingCurrent f) = true ↔
      Actionable time db now r ∧ Evidenced db r ∧ r.stability ≠ some .recovering := by
  rw [Bool.and_eq_true, basisCurrent_iff hbasis (row_of_raw hf).2, findingCurrent_iff hf]
  constructor
  · rintro ⟨hlatest, hjoined, hobserved, habsent, hlive, hstability, hrecent⟩
    exact ⟨⟨hobserved, habsent, hlive, hjoined.observation, hlatest, hrecent⟩, hjoined.evidence, hstability⟩
  · rintro ⟨h, hevidence, hstability⟩
    refine ⟨h.latest, ⟨h.observation, ?_, hevidence⟩, h.visibility, h.absent, h.basis, hstability, h.recent⟩
    intro g hg
    obtain ⟨latest, hlatest, -, hlast, -⟩ := h.latest
    rw [loadBasis_ok hbasis, Db.maxGeneration, hlatest] at hg
    cases hg
    exact hlast

theorem identity_of_row (hr : r ∈ db.warningState.rows) :
    ∃ identity, resolveFindingIdentity db r.id.key = some identity := by
  refine Option.isSome_iff_exists.mp ?_
  unfold resolveFindingIdentity
  rw [Option.isSome_or, Option.isSome_or, Option.isSome_map, Option.isSome_map]
  have hfound : (db.warningState.rows.find? (·.id.key = r.id.key)).isSome = true :=
    find?_isSome.mpr ⟨r, hr, decide_eq_true rfl⟩
  rw [hfound, Bool.true_or, Bool.or_true]

/-- The page of a row's key shows the row. -/
theorem detail_of_row (hbasis : loadBasis time db now = .ok basis) {fs : List DashboardFinding}
    (hfindings : loadCurrentFindings time db now basis.generationId = .ok fs) (hr : r ∈ db.warningState.rows) :
    ∃ f observations transitions, dashboardFindingFromRaw time db r now basis.generationId = .ok f ∧
      loadDashboardFinding time db r.id.key now = .ok (.current basis f observations transitions) := by
  obtain ⟨identity, hidentity⟩ := identity_of_row hr
  obtain ⟨f, hf, hfind⟩ := find_current hfindings hr
  refine ⟨f, loadObservationHistory db r.id.key, loadTransitionHistory db identity, hf, ?_⟩
  unfold loadDashboardFinding
  rw [hbasis, hidentity]
  simp only [bind, Except.bind, pure, Except.pure, hfindings, hfind]

/-- What the page of a finding needs in order to load. -/
structure PageLoads (time : TimeLib) (db : Db) (now : Int) : Prop where
  instant : ∃ text, time.format now = .ok text
  baselines : ∀ r ∈ db.warningState.rows, r.kind = "error_shift" → BaselineFits db r

theorem loadBasis_answers : (∃ basis, loadBasis time db now = .ok basis) ↔ ∃ text, time.format now = .ok text := by
  constructor
  · rintro ⟨basis, hbasis⟩
    obtain ⟨text, htext, -⟩ := Sql.bind_ok.mp hbasis
    exact ⟨text, htext⟩
  · rintro ⟨text, htext⟩
    exact ⟨_, Sql.bind_ok.mpr ⟨text, htext, rfl⟩⟩

theorem page_loads_iff (hr : r ∈ db.warningState.rows) :
    (∃ detail, loadDashboardFinding time db r.id.key now = .ok detail) ↔ PageLoads time db now := by
  constructor
  · rintro ⟨detail, h⟩
    obtain ⟨identity, hidentity⟩ := identity_of_row hr
    unfold loadDashboardFinding at h
    obtain ⟨basis, hbasis, h⟩ := Sql.bind_ok.mp h
    rw [hidentity] at h
    obtain ⟨fs, hfindings, -⟩ := Sql.bind_ok.mp h
    exact ⟨loadBasis_answers.mp ⟨basis, hbasis⟩, loadCurrentFindings_answers.mp ⟨fs, hfindings⟩⟩
  · intro h
    obtain ⟨basis, hbasis⟩ := loadBasis_answers.mpr h.instant
    obtain ⟨fs, hfindings⟩ := loadCurrentFindings_answers.mpr h.baselines
    obtain ⟨f, observations, transitions, -, hload⟩ := detail_of_row hbasis hfindings hr
    exact ⟨_, hload⟩

/-- A page with controls is that of a row with the page's key. -/
theorem row_of_controls {key : String} {detail : DashboardFindingDetail}
    (h : loadDashboardFinding time db key now = .ok detail)
    (hcontrols : detail.controls true ≠ []) : ∃ r ∈ db.warningState.rows, r.id.key = key ∧
      ∃ basis f observations transitions,
      loadBasis time db now = .ok basis ∧ dashboardFindingFromRaw time db r now basis.generationId = .ok f ∧
        detail = .current basis f observations transitions := by
  unfold loadDashboardFinding at h
  obtain ⟨basis, hbasis, h⟩ := Sql.bind_ok.mp h
  cases hidentity : resolveFindingIdentity db key with
  | none =>
    rw [hidentity] at h
    cases h
    exact absurd rfl hcontrols
  | some identity =>
    rw [hidentity] at h
    obtain ⟨fs, hfindings, h⟩ := Sql.bind_ok.mp h
    cases hfind : fs.find? (·.findingKey = key) with
    | none =>
      rw [hfind] at h
      cases h
      exact absurd rfl hcontrols
    | some finding =>
      rw [hfind] at h
      cases h
      obtain ⟨r, hr, hf⟩ := (mem_loadCurrentFindings hfindings).mp (mem_of_find?_eq_some hfind)
      have hfound := find?_some hfind
      exact ⟨r, hr, (row_of_raw hf).1.symm.trans (of_decide_eq_true hfound), basis, finding, _, _, hbasis, hf, rfl⟩

end

/-! ## Offered and accepted -/

/-- What the page with write access offers, all six actions or none, is accepted in the same
    database at the same time; and a request that is accepted, of a finding that has no
    evidence of its own and is not recovering, is offered on its page. -/
structure ControlsMatch (time : TimeLib) (db : Db) (key : String) (now : Int) : Prop where
  accepted : ∀ detail, loadDashboardFinding time db key now = .ok detail → detail.controls true ≠ [] →
    (∀ a : FindingAction, ∃ c ∈ detail.controls true, c.contract = a.contract) ∧
    ∀ c ∈ detail.controls true, c.findingKey = key ∧ ∀ actor owner note ttlHours,
      ∃ t, resolveAndValidate time db (c.request actor owner note ttlHours) now = .ok t
  offered : ∀ q t, q.findingKey = key → resolveAndValidate time db q now = .ok t →
    t.kind ≠ "error_shift" → t.kind ≠ "smart_status_lies" →
    (∀ r, db.warningState.get t.id = some r → r.stability ≠ some .recovering) →
    ∃ detail, loadDashboardFinding time db key now = .ok detail ∧
      ∃ c ∈ detail.controls true, c.request q.actor q.owner q.note q.ttlHours = q

section

variable {time : TimeLib} {db : Db} {now : Int} {key : String}

theorem accepted_of_offered {detail : DashboardFindingDetail} (h : loadDashboardFinding time db key now = .ok detail)
    (hcontrols : detail.controls true ≠ []) :
    (∀ a : FindingAction, ∃ c ∈ detail.controls true, c.contract = a.contract) ∧
    ∀ c ∈ detail.controls true, c.findingKey = key ∧ ∀ actor owner note ttlHours,
      ∃ t, resolveAndValidate time db (c.request actor owner note ttlHours) now = .ok t := by
  obtain ⟨r, hr, rfl, basis, f, observations, transitions, hbasis, hf, rfl⟩ := row_of_controls h hcontrols
  obtain ⟨hkey, hrow⟩ := row_of_raw hf
  simp only [DashboardFindingDetail.controls, choices_eq] at hcontrols ⊢
  have hshown := of_not_not fun hno => hcontrols (if_neg hno)
  rw [if_pos hshown]
  refine ⟨fun a => ?_, fun c hc => ?_⟩
  · refine ⟨_, mem_map_of_mem (a := a) ?_, rfl⟩
    cases a <;> simp
  · obtain ⟨a, -, rfl⟩ := List.mem_map.mp hc
    refine ⟨hkey, fun actor owner note ttlHours => ⟨resolved db r, (accepted_iff hr hkey.symm).mpr ?_⟩⟩
    subst hrow
    exact ⟨rfl, rfl, rfl, ((shown_actionable_iff hbasis hf).mp hshown).1⟩

/-- Where the page loads, it offers what is accepted. -/
theorem offered_of_accepted {r : WarningRow} (hr : r ∈ db.warningState.rows) (hload : PageLoads time db now)
    (hshift : r.kind ≠ "error_shift") (hsmart : r.kind ≠ "smart_status_lies")
    (hstability : r.stability ≠ some .recovering)
    (hact : Actionable time db now r) {q : FindingActionRequest} (hkey : r.id.key = q.findingKey)
    (hwork : r.workState = q.expectedWorkState) (hgen : r.lastSeenGen = q.expectedLastSeenGen) :
    ∃ detail, loadDashboardFinding time db q.findingKey now = .ok detail ∧
      ∃ c ∈ detail.controls true, c.request q.actor q.owner q.note q.ttlHours = q := by
  obtain ⟨basis, hbasis⟩ := loadBasis_answers.mpr hload.instant
  obtain ⟨fs, hfindings⟩ := loadCurrentFindings_answers.mpr hload.baselines
  obtain ⟨f, observations, transitions, hf, hdetail⟩ := detail_of_row hbasis hfindings hr
  obtain ⟨hfkey, hrow⟩ := row_of_raw hf
  rw [hkey] at hdetail
  have hevidence : Evidenced db r := fun hkind => absurd hkind (not_or.mpr ⟨hshift, hsmart⟩)
  have hshown := (shown_actionable_iff hbasis hf).mpr ⟨hact, hevidence, hstability⟩
  refine ⟨_, hdetail, ?_⟩
  simp only [DashboardFindingDetail.controls, choices_eq]
  rw [if_pos hshown]
  refine ⟨_, mem_map_of_mem (a := q.action) ?_, ?_⟩
  · cases q.action <;> simp
  · show FindingActionRequest.mk f.findingKey q.action.contract.action
      f.row.workState f.row.lastSeenGen q.note q.owner q.actor
      q.ttlHours = q
    have haction : q.action.contract.action = q.action := by cases q.action <;> rfl
    rw [haction, hfkey, hrow, hkey, hwork, hgen]

end

/-- The page and the write path match on a key exactly when the page loads wherever the row of
    the key is actionable, has no evidence of its own and is not recovering. -/
theorem offered_iff_accepted (time : TimeLib) (db : Db) (key : String) (now : Int) :
    ControlsMatch time db key now ↔ ∀ r ∈ db.warningState.rows, r.id.key = key → r.kind ≠ "error_shift" →
      r.kind ≠ "smart_status_lies" → r.stability ≠ some .recovering →
        Actionable time db now r → PageLoads time db now := by
  constructor
  · intro h r hr hkey hshift hsmart hstability hact
    -- the request that expects what the row has is accepted
    have hq := (accepted_iff (q := ⟨key, .acknowledge, r.workState, r.lastSeenGen, none, none, none, none⟩) hr hkey).mpr
      ⟨rfl, rfl, rfl, hact⟩
    obtain ⟨detail, hdetail, -⟩ := h.offered _ _ rfl hq hshift hsmart fun r' hget => by
      have hsame : db.warningState.get r.id = some r' := hget
      rw [Table.get_of_mem hr] at hsame
      rw [← Option.some.inj hsame]
      exact hstability
    subst hkey
    exact (page_loads_iff hr).mp ⟨detail, hdetail⟩
  · intro h
    refine ⟨fun detail => accepted_of_offered, ?_⟩
    intro q t hkey hq hshift hsmart hstability
    obtain ⟨r, hget, hrkey, -, -⟩ := resolveAndValidate_ok hq
    have hr := Table.mem_of_get hget
    have hid : r.id = t.id := Table.key_of_get hget
    have hrq : r.id.key = q.findingKey := hid ▸ hrkey
    obtain ⟨rfl, hwork, hgen, hact⟩ := (accepted_iff hr hrq).mp hq
    subst hkey
    have hload := h r hr hrq hshift hsmart (hstability r hget) hact
    exact offered_of_accepted hr hload hshift hsmart (hstability r hget) hact hrq hwork hgen

/-- The page of a live finding offers its controls, and each of them is accepted. -/
theorem a_live_finding_offers_its_controls : ∃ db detail, liveCall.run reviewedDb = .ok db ∧
    loadDashboardFinding traceTime db liveFinding.key 1785035820000000000 = .ok detail ∧ detail.controls true ≠ [] ∧
    ∀ c ∈ detail.controls true, c.findingKey = liveFinding.key ∧ ∀ actor owner note ttlHours,
      ∃ t, resolveAndValidate traceTime db (c.request actor owner note ttlHours) 1785035820000000000 = .ok t := by
  have h : ((liveCall.run reviewedDb).toOption.bind fun db =>
      (loadDashboardFinding traceTime db liveFinding.key 1785035820000000000).toOption.map fun detail =>
        (decide (detail.controls true = []), db.warningState.rows.all fun r => r.kind ≠ "error_shift")) =
      some (false, true) := by decide +kernel
  obtain ⟨db, hdb, h⟩ := Option.bind_eq_some_iff.mp h
  obtain ⟨detail, hload, hread⟩ := Sql.ok_of_toOption h
  obtain ⟨hcontrols, hkinds⟩ := Prod.mk.inj hread
  have hnone : ∀ r ∈ db.warningState.rows, r.kind ≠ "error_shift" :=
    fun r hr => of_decide_eq_true (all_eq_true.mp hkinds r hr)
  have hpage : PageLoads traceTime db 1785035820000000000 := ⟨⟨_, rfl⟩, fun r hr hkind => absurd hkind (hnone r hr)⟩
  have hmatch := (offered_iff_accepted traceTime db liveFinding.key 1785035820000000000).mpr fun _ _ _ _ _ _ _ => hpage
  have hshown := of_decide_eq_false hcontrols
  exact ⟨db, detail, Sql.toOption_eq_some.mp hdb, hload, hshown, (hmatch.accepted detail hload hshown).2⟩

/-- A log source that counts 2^62 lines in each generation, and the rest of a report. -/
def loudBatch (linesError : Int) : Batch where
  cycleStartedAt := "2026-07-26T03:17:00Z"
  cycleCompletedAt := "2026-07-26T03:17:00Z"
  logSets := [⟨"web-1", "2026-07-26T03:17:00Z",
    [{ sourceId := "nginx", fetchStatus := "ok", linesTotal := 2 ^ 62, linesError }]⟩]

/-- Four generations; in the last the source has errors, and the detector's finding is recorded
    beside the live one. -/
def loudRun : Option Db := do
  let (db, _) ← (publishBatch Db.init (loudBatch 0)).toOption
  let (db, _) ← (publishBatch db (loudBatch 0)).toOption
  let (db, _) ← (publishBatch db (loudBatch 0)).toOption
  let (db, res) ← (publishBatch db (loudBatch 25)).toOption
  let call := { liveCall with
    generationId := res.generationId
    findings := liveFinding :: detectErrorShift exactEnv db }
  (call.run db).toOption

/-- A request on the live finding, as of the last of them. -/
def loudRequest : FindingActionRequest := { request .acknowledge .new with expectedLastSeenGen := 4 }

/-- The counts of the loud source overflow their sum, so that no finding's page loads; a request
    on the live finding is accepted nonetheless. -/
theorem an_overflow_hides_every_page : ∃ db, loudRun = some db ∧
    (db.warningState.rows.map fun r => (r.host, r.kind)) = [("app-1", "disk_pressure"), ("web-1", "error_shift")] ∧
    loadDashboardFinding traceTime db liveFinding.key 1785035820000000000 = .error "integer overflow" ∧
    ¬ControlsMatch traceTime db liveFinding.key 1785035820000000000 := by
  have h : (loudRun.map fun db =>
      (db.warningState.rows.map fun r => (r.host, r.kind),
        decide (loadDashboardFinding traceTime db liveFinding.key 1785035820000000000 = .error "integer overflow"),
        (resolveAndValidate traceTime db loudRequest 1785035820000000000).toOption.any fun t =>
          t.kind = "disk_pressure" && (db.warningState.get t.id).all fun r => r.stability ≠ some .recovering)) =
      some ([("app-1", "disk_pressure"), ("web-1", "error_shift")], true, true) := by decide +kernel
  obtain ⟨db, hrun, hread⟩ := Option.map_eq_some_iff.mp h
  simp only [Prod.mk.injEq, decide_eq_true_eq, Option.any_eq_true, Bool.and_eq_true] at hread
  obtain ⟨hrows, hpage, t, haccepted, hkind, hstability⟩ := hread
  refine ⟨db, hrun, hrows, hpage, fun hmatch => ?_⟩
  obtain ⟨detail, hdetail, -⟩ :=
    hmatch.offered loudRequest t rfl (Sql.toOption_eq_some.mp haccepted) (by rw [hkind]; decide)
    (by rw [hkind]; decide) fun r hr => by simpa [hr] using hstability
  rw [hpage] at hdetail
  cases hdetail

end Nq.Dashboard
