/-
  Nq.Operator.Chain — operator actions are serialised, and the transitions tell the story.

  Requests from any number of clients interleave with lifecycle updates (which expire work
  states, delete findings and create them anew) and every other writer, each as one
  transaction (`FindingStep`).
  - `life_links`: within one life of a finding, from the step that creates its row, the
    transitions between work states form a chain from `new` to the row's work state, and
    a lifetime is only held by a state that can expire;
  - `reach_life`: every row of a reachable database is in such a life;
  - `returned`: of two requests on one finding that expect the same work state and leave
    it, the second commits only after the finding came back to that state. It can: a reset
    in between lets both commit (`a_reset_lets_both_commit`).
-/

import Nq.Operator.Steps

namespace Nq

open Sql (Table)

variable {rfc3339 : String → Except String Int} {time : TimeLib} {db db' : Db} {k : FindingId}

/-! ## Requests -/

/-- What a request leaves: its transaction is rolled back when it fails. -/
def handleAction (time : TimeLib) (db : Db) (q : FindingActionRequest) (now : Int) :
    Db × Except FindingActionError FindingActionReceipt :=
  match transitionFindingAction time db q now with
  | .ok (db', receipt) => (db', .ok receipt)
  | .error e => (db, .error e)

/-! ## The life of a finding -/

/-- Each transition starts where the one before ended. -/
def Links : String → List TransitionRow → String → Prop
  | s, [], t => s = t
  | s, e :: es, t => e.fromState = s ∧ Links e.toState es t

theorem Links.snoc {e : TransitionRow} {t : String} :
    ∀ {es : List TransitionRow} {s : String}, Links s es e.fromState → e.toState = t → Links s (es ++ [e]) t := by
  intro es
  induction es with
  | nil => intro s h ht; exact ⟨h.symm, ht⟩
  | cons e' es ih => intro s h ht; exact ⟨h.1, ih h.2 ht⟩

/-- One life of a finding: from the database before the step that creates its row. -/
inductive Life (rfc3339 : String → Except String Int) (time : TimeLib) (k : FindingId) : Db → Db → Prop
  | born {db db' : Db} (h : FindingStep rfc3339 time db db') (hnone : db.warningState.get k = none)
      (hsome : (db'.warningState.get k).isSome = true) : Life rfc3339 time k db db'
  | step {db db₁ db₂ : Db} (hl : Life rfc3339 time k db db₁) (h : FindingStep rfc3339 time db₁ db₂)
      (hsome : (db₂.warningState.get k).isSome = true) : Life rfc3339 time k db db₂

theorem life_links (hl : Life rfc3339 time k db db') : ∃ new r, db'.findingTransitions = db.findingTransitions ++ new ∧
    db'.warningState.get k = some r ∧ Links "new" (workEntries k new) r.workState.asStr ∧ r.work.Timed := by
  induction hl with
  | born h hnone hsome =>
    obtain ⟨new, hnew⟩ := step_transitioned h
    obtain ⟨r, hr⟩ := Option.isSome_iff_exists.mp hsome
    obtain ⟨hentries, hwork⟩ := hnew.born k hnone
    have hstate : r.workState = .new := congrArg Work.state (hwork r hr)
    refine ⟨new, r, hnew.transitions, hr, ?_, ?_⟩
    · rw [hentries, hstate]
      rfl
    · rw [hwork r hr]
      intro h
      cases h
  | step _ h hsome ih =>
    obtain ⟨new, r, htrans, hr, hlinks, htimed⟩ := ih
    obtain ⟨new', hnew⟩ := step_transitioned h
    obtain ⟨r', hr'⟩ := Option.isSome_iff_exists.mp hsome
    refine ⟨new ++ new', r', by rw [hnew.transitions, htrans, List.append_assoc], hr', ?_⟩
    rw [workEntries_append]
    cases hnew.work k r r' hr hr' with
    | kept he hw =>
      have hstate : r'.workState = r.workState := congrArg Work.state hw
      rw [he, List.append_nil, hstate, hw]
      exact ⟨hlinks, htimed⟩
    | moved e he hf ht htimed' =>
      rw [he]
      exact ⟨Links.snoc (hf ▸ hlinks) ht, htimed'⟩

theorem reach_life (h : FindingReach rfc3339 time db) {r : WarningRow} (hr : db.warningState.get k = some r) :
    ∃ db₀, FindingReach rfc3339 time db₀ ∧ Life rfc3339 time k db₀ db := by
  induction h generalizing r with
  | init h => rw [h] at hr; cases hr
  | @step db db' hreach h ih =>
    have hsome : (db'.warningState.get k).isSome = true := by rw [hr]; rfl
    cases hget : db.warningState.get k with
    | none => exact ⟨db, hreach, .born h hget hsome⟩
    | some r₀ =>
      obtain ⟨db₀, hreach₀, hlife⟩ := ih hget
      exact ⟨db₀, hreach₀, .step hlife h hsome⟩

/-! ## Two requests for one state -/

/-- A step in which the finding comes (back) to a work state: a transition to it is
    recorded, or the row is created. -/
def Enters (k : FindingId) (w : WorkState) (a b : Db) : Prop :=
  ∃ new, b.findingTransitions = a.findingTransitions ++ new ∧
    ((∃ e ∈ workEntries k new, e.toState = w.asStr) ∨
      (a.warningState.get k = none ∧ (b.warningState.get k).isSome = true))

def Db.workStateOf (db : Db) (k : FindingId) : Option WorkState := (db.warningState.get k).map WarningRow.workState

variable {w : WorkState} {q : FindingActionRequest}

theorem enters_of_step (h : FindingStep rfc3339 time db db') (hbefore : db.workStateOf k ≠ some w)
    (hafter : db'.workStateOf k = some w) : Enters k w db db' := by
  obtain ⟨new, hnew⟩ := step_transitioned h
  obtain ⟨r', hr', hw⟩ := Option.map_eq_some_iff.mp hafter
  refine ⟨new, hnew.transitions, ?_⟩
  cases hget : db.warningState.get k with
  | none => exact .inr ⟨rfl, by rw [hr']; rfl⟩
  | some r =>
    cases hnew.work k r r' hget hr' with
    | kept he hkept =>
      have hstate : r'.workState = r.workState := congrArg Work.state hkept
      exact absurd (by rw [Db.workStateOf, hget, Option.map_some, ← hstate, hw]) hbefore
    | moved e he hf ht htimed =>
      exact .inl ⟨e, by rw [he]; exact List.mem_singleton.mpr rfl, by rw [ht, hw]⟩

/-- Between a database where the finding is in another state and one where it is in `w`,
    some step brings it there. -/
theorem enters_of_steps (h : FindingSteps rfc3339 time db db') (hbefore : db.workStateOf k ≠ some w)
    (hafter : db'.workStateOf k = some w) : ∃ a b, FindingSteps rfc3339 time db a ∧ FindingStep rfc3339 time a b ∧
      FindingSteps rfc3339 time b db' ∧ Enters k w a b := by
  induction h with
  | refl => exact absurd hafter hbefore
  | @step db₁ db₂ hs h ih =>
    by_cases he : db₁.workStateOf k = some w
    · obtain ⟨a, b, ha, hab, hb, hent⟩ := ih he
      exact ⟨a, b, ha, hab, .step hb h, hent⟩
    · exact ⟨db₁, db₂, hs, h, .refl, enters_of_step h he hafter⟩

/-- Two requests on one finding that expect the same state, the first leaving it: the
    second commits only after a step that brought the finding back. -/
theorem returned {q' : FindingActionRequest} {now now' : Int} {receipt receipt' : FindingActionReceipt}
    {db₁ db₂ db₃ : Db} (h : transitionFindingAction time db q now = .ok (db₁, receipt))
    (hleaves : q.action.targetWorkState ≠ q.expectedWorkState) (hsteps : FindingSteps rfc3339 time db₁ db₂)
    (h' : transitionFindingAction time db₂ q' now' = .ok (db₃, receipt')) (hkey : q'.findingKey = q.findingKey)
    (hstate : q'.expectedWorkState = q.expectedWorkState) :
    ∃ r a b, db.warningState.get r.id = some r ∧ r.id.key = q.findingKey ∧ FindingSteps rfc3339 time db₁ a ∧
      FindingStep rfc3339 time a b ∧ FindingSteps rfc3339 time b db₂ ∧ Enters r.id q.expectedWorkState a b := by
  obtain ⟨r, hacted⟩ := transition_ok h
  obtain ⟨r', hacted'⟩ := transition_ok h'
  have hid : r'.id = r.id := FindingId.key_inj (by rw [hacted'.key, hkey, hacted.key])
  have hbefore : db₁.workStateOf r.id ≠ some q.expectedWorkState := by
    rw [Db.workStateOf, hacted.after, if_pos rfl]
    exact fun e => hleaves (Option.some.inj e)
  have hafter : db₂.workStateOf r.id = some q.expectedWorkState := by
    rw [Db.workStateOf, ← hid, hacted'.before, Option.map_some, hacted'.reviewed.workState, hstate]
  obtain ⟨a, b, ha, hab, hb, hent⟩ := enters_of_steps hsteps hbefore hafter
  exact ⟨r, a, b, hacted.before, hacted.key, ha, hab, hb, hent⟩

/-! ## Actions are serialised -/

/-- What holds of a database under the operator's actions. -/
structure ActionsSerialised (rfc3339 : String → Except String Int) (time : TimeLib) (db : Db) : Prop where
  saw : ∀ q now db' receipt, transitionFindingAction time db q now = .ok (db', receipt) →
    ∃ r ∈ db.warningState.rows, r.id.key = q.findingKey ∧ r.workState = q.expectedWorkState ∧
      r.lastSeenGen = q.expectedLastSeenGen ∧ r.visibilityState = .observed ∧ r.absentGens = 0 ∧ r.basisState = .live ∧
      ∃ g, db.latestGeneration = some g ∧ g.status = .complete ∧ g.generationId = q.expectedLastSeenGen
  once : ∀ q now db₁ receipt, transitionFindingAction time db q now = .ok (db₁, receipt) →
    q.action.targetWorkState ≠ q.expectedWorkState → ∀ db₂, FindingSteps rfc3339 time db₁ db₂ →
    ∀ q' now' db₃ receipt', transitionFindingAction time db₂ q' now' = .ok (db₃, receipt') →
      q'.findingKey = q.findingKey → q'.expectedWorkState = q.expectedWorkState →
      ∃ k a b, k.key = q.findingKey ∧ FindingSteps rfc3339 time db₁ a ∧ FindingStep rfc3339 time a b ∧
        FindingSteps rfc3339 time b db₂ ∧ Enters k q.expectedWorkState a b
  lives : ∀ r ∈ db.warningState.rows, ∃ db₀ new, Life rfc3339 time r.id db₀ db ∧
    db.findingTransitions = db₀.findingTransitions ++ new ∧ Links "new" (workEntries r.id new) r.workState.asStr
  timed : ∀ r ∈ db.warningState.rows, r.ackExpiresAt.isSome = true →
    r.workState ∈ [.acknowledged, .quiesced, .suppressed]
  failed : ∀ q now e, (handleAction time db q now).2 = .error e → (handleAction time db q now).1 = db
  changed : ∀ q now db' receipt, transitionFindingAction time db q now = .ok (db', receipt) →
    ∃ r r', r ∈ db.warningState.rows ∧ r.id.key = q.findingKey ∧
      (∀ k, db'.warningState.get k = if k = r.id then some r' else db.warningState.get k) ∧
      r' = { r with
        workState := r'.workState, workStateAt := r'.workStateAt, owner := r'.owner, note := r'.note
        ackExpiresAt := r'.ackExpiresAt, acknowledged := r'.acknowledged, acknowledgedAt := r'.acknowledgedAt } ∧
      (∃ e, db'.findingTransitions = db.findingTransitions ++ [e] ∧ e.id = r.id ∧ e.fromState = r.workState.asStr ∧
        e.toState = r'.workState.asStr) ∧
      db' = { db with warningState := db'.warningState, findingTransitions := db'.findingTransitions }

theorem actions_are_serialised (h : FindingReach rfc3339 time db) : ActionsSerialised rfc3339 time db := by
  refine ⟨?_, ?_, ?_, ?_, ?_, ?_⟩
  · intro q now db' receipt hq
    obtain ⟨r, hacted⟩ := transition_ok hq
    have hrev := hacted.reviewed
    obtain ⟨g, hg, hcomplete, hgen⟩ := hrev.latest
    exact ⟨r, Table.mem_of_get hacted.before, hacted.key, hrev.workState, hrev.lastSeenGen, hrev.visibility,
      hrev.absent, hrev.basis, g, hg, hcomplete, hgen.trans hrev.lastSeenGen⟩
  · intro q now db₁ receipt hq hleaves db₂ hsteps q' now' db₃ receipt' hq' hkey hstate
    obtain ⟨r, a, b, _, hrkey, ha, hab, hb, hent⟩ := returned hq hleaves hsteps hq' hkey hstate
    exact ⟨r.id, a, b, hrkey, ha, hab, hb, hent⟩
  · intro r hr
    have hget := Table.get_of_mem hr
    obtain ⟨db₀, _, hlife⟩ := reach_life h hget
    obtain ⟨new, r', htrans, hr', hlinks, _⟩ := life_links hlife
    cases hget.symm.trans hr'
    exact ⟨db₀, new, hlife, htrans, hlinks⟩
  · intro r hr hsome
    have hget := Table.get_of_mem hr
    obtain ⟨db₀, _, hlife⟩ := reach_life h hget
    obtain ⟨_, r', _, hr', _, htimed⟩ := life_links hlife
    cases hget.symm.trans hr'
    exact htimed hsome
  · intro q now e he
    unfold handleAction at he ⊢
    cases hq : transitionFindingAction time db q now with
    | error e' => rfl
    | ok p => rw [hq] at he; cases he
  · intro q now db' receipt hq
    obtain ⟨r, hacted⟩ := transition_ok hq
    refine ⟨r, _, Table.mem_of_get hacted.before, hacted.key, hacted.after, rfl, ⟨_, hacted.transitions, rfl, ?_, rfl⟩,
      hacted.frame⟩
    rw [hacted.reviewed.workState]

/-! ## Traces -/

/-- The clock of the traces: one instant, 2026-07-26T03:17:00Z. -/
def traceTime : TimeLib where
  parse s := if s = "2026-07-26T03:17:00Z" then .ok 1785035820000000000 else .error "unexpected input"
  format n := if n = 1785035820000000000 then .ok "2026-07-26T03:17:00Z" else .error "unexpected instant"
  checkedAdd a b := some (a + b)

/-- One generation, just completed. -/
def reviewedDb : Db :=
  { Db.init with
    generations := ⟨[⟨1, "2026-07-26T03:17:00Z", "2026-07-26T03:17:00Z", .complete, 1, 1, 0, 0, 0, 0⟩], by decide⟩ }

def liveFinding : Finding :=
  { host := "app-1", domain := "Δg", kind := "disk_pressure", subject := "", stateKind := .degradation
    basisSourceId := some "app-1" }

def liveCall : UpdateCall :=
  { generationId := 1, findings := [liveFinding], clock := ⟨"2026-07-26T03:17:00Z", "2026-07-26T03:17:00Z"⟩ }

def request (action : FindingAction) (expected : WorkState) : FindingActionRequest :=
  { findingKey := liveFinding.key, action := action, expectedWorkState := expected, expectedLastSeenGen := 1
    actor := some "ops" }

def requested (db : Db) (q : FindingActionRequest) : Option Db :=
  (transitionFindingAction traceTime db q 1785035820000000000).toOption.map Prod.fst

theorem requested_eq_some (h : requested db q = some db') :
    ∃ receipt, transitionFindingAction traceTime db q 1785035820000000000 = .ok (db', receipt) := by
  obtain ⟨p, hp, rfl⟩ := Option.map_eq_some_iff.mp h
  exact ⟨p.2, Sql.toOption_eq_some.mp hp⟩

/-- Acknowledged, reset and put under watch: the first and the last request both expect
    `new` at generation 1, both leave it, and both commit. -/
theorem a_reset_lets_both_commit : ∃ q q' db db₁ db₂ db₃ receipt receipt', q'.findingKey = q.findingKey ∧
    q'.expectedWorkState = q.expectedWorkState ∧ q'.expectedLastSeenGen = q.expectedLastSeenGen ∧
    q.action.targetWorkState ≠ q.expectedWorkState ∧ q'.action.targetWorkState ≠ q'.expectedWorkState ∧
    FindingReach (fun _ => .error "") traceTime db ∧
    transitionFindingAction traceTime db q 1785035820000000000 = .ok (db₁, receipt) ∧
    FindingSteps (fun _ => .error "") traceTime db₁ db₂ ∧
    transitionFindingAction traceTime db₂ q' 1785035820000000000 = .ok (db₃, receipt') := by
  have h : (liveCall.run reviewedDb).toOption.bind (fun db =>
      (requested db (request .acknowledge .new)).bind fun db₁ =>
        (requested db₁ (request .reset .acknowledged)).bind fun db₂ =>
          (requested db₂ (request .watch .new)).map fun db₃ => db₃.workStateOf liveFinding.id) =
      some (some .watching) := by decide +kernel
  obtain ⟨db, hdb, h⟩ := Option.bind_eq_some_iff.mp h
  obtain ⟨db₁, h₁, h⟩ := Option.bind_eq_some_iff.mp h
  obtain ⟨db₂, h₂, h⟩ := Option.bind_eq_some_iff.mp h
  obtain ⟨db₃, h₃, _⟩ := Option.map_eq_some_iff.mp h
  obtain ⟨receipt₁, h₁⟩ := requested_eq_some h₁
  obtain ⟨receipt₂, h₂⟩ := requested_eq_some h₂
  obtain ⟨receipt₃, h₃⟩ := requested_eq_some h₃
  exact ⟨request .acknowledge .new, request .watch .new, db, db₁, db₂, db₃, receipt₁, receipt₃,
    rfl, rfl, rfl, by decide,
    by decide, .step (.init rfl) (.update _ (Sql.toOption_eq_some.mp hdb)), h₁, .step .refl (.action _ _ h₂), h₃⟩

/-- One acknowledgement commits and is the finding's first transition. -/
theorem an_acknowledgement_is_recorded : ∃ db, ActionsSerialised (fun _ => .error "") traceTime db ∧
    (workEntries liveFinding.id db.findingTransitions).map (fun e => (e.fromState, e.toState)) =
      [("new", "acknowledged")] ∧ db.workStateOf liveFinding.id = some .acknowledged := by
  have h : (liveCall.run reviewedDb).toOption.bind (fun db =>
      (requested db (request .acknowledge .new)).map fun db₁ =>
        ((workEntries liveFinding.id db₁.findingTransitions).map (fun e => (e.fromState, e.toState)),
          db₁.workStateOf liveFinding.id)) = some ([("new", "acknowledged")], some .acknowledged) := by decide +kernel
  obtain ⟨db, hdb, h⟩ := Option.bind_eq_some_iff.mp h
  obtain ⟨db₁, h₁, hread⟩ := Option.map_eq_some_iff.mp h
  simp only [Prod.mk.injEq] at hread
  obtain ⟨receipt, h₁⟩ := requested_eq_some h₁
  refine ⟨db₁, actions_are_serialised ?_, hread.1, hread.2⟩
  exact .step (.step (.init rfl) (.update _ (Sql.toOption_eq_some.mp hdb))) (.action _ _ h₁)

end Nq
