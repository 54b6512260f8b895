/-
  Nq.Lifecycle.Outage — what an outage does to the rows of a host.

  While a parent row is observed on a host, the rows it masks are held: suppressed, with
  their last-known state, for as long as it takes (`outage_holds_last_known_state`). The
  one column that moves is `entity_gone_gens`, which the collector resets for a host that
  is in `hosts_current` or `services_current`, held rows included
  (`an_outage_resets_the_gone_count`).
-/

import Nq.Lifecycle.Run

namespace Nq

open Sql (Table)

/-! ## One masked generation -/

theorem revoke_suppress (ids : List String) (reason : SuppressionReason) (g : Int) (r : WarningRow) :
    (r.suppress reason g).revoke ids = r.suppress reason g := by
  simp [WarningRow.revoke, WarningRow.isOrphan, WarningRow.suppress]

theorem goneAfter_suppress (db : Db) (reason : SuppressionReason) (g : Int) (r : WarningRow) :
    db.goneAfter (r.suppress reason g) = if r.host ≠ "" ∧ r.host ∈ db.presentHosts then 0 else r.entityGoneGens := by
  unfold Db.goneAfter WarningRow.suppress
  simp only [reduceCtorEq, false_and, and_false, if_false]

variable {db db' db₀ : Db} {k : FindingId} {r : WarningRow} {u : UpdateCall} {reason : Option SuppressionReason}
  {rfc3339 : String → Except String Int} {seen : Bool}

/-- A masked row that was not emitted stays, whatever the collector counts. -/
theorem masked_row_stays {reason : SuppressionReason} (h : Updated u db db') (hk : k ∉ u.emittedIds db)
    (hm : u.masked db k.host k.kind = some reason) (hr : db.warningState.get k = some r)
    (hg : r.entityGoneGens ≤ entityGcThreshold) :
    ∃ r', db'.warningState.get k = some r' ∧ u.finish db (r.suppress reason u.generationId) = some r' := by
  have hid : r.id = k := Table.key_of_get hr
  have hsettle : u.settle db r = some (r.suppress reason u.generationId) := by
    subst hid
    have hm' : u.masked db r.host r.kind = some reason := hm
    simp only [UpdateCall.settle, hm']
  have hsome : (u.finish db (r.suppress reason u.generationId)).isSome = true := by
    rw [finish_isSome, goneAfter_suppress]
    split
    · decide
    · exact hg
  obtain ⟨r', hr'⟩ := Option.isSome_iff_exists.mp hsome
  refine ⟨r', ?_, hr'⟩
  rw [h.absent k hk, hr, Option.bind_some, hsettle, Option.bind_some, hr']

/-! ## Runs -/

/-- The reason of the first rule, in `MASKING_RULES` order, that covers the row's kind and
    has an observed parent on its host when the masking map is built. -/
def firstReason (u : UpdateCall) (db : Db) (k : FindingId) : Option SuppressionReason :=
  (maskingRules.find? fun rule => rule.covers k.kind && (u.atMasking db).hasParent k.host rule).map
    MaskingRule.suppressionReason

/-- A committed generation that does not emit `k`, with an observed parent for it when the
    masking map is built; no declaration withdraws the host. -/
structure Held (k : FindingId) (u : UpdateCall) (db db' : Db) : Prop where
  run : u.run db = .ok db'
  absent : k ∉ u.emittedIds db
  parent : ∃ rule ∈ maskingRules, rule.covers k.kind = true ∧ (u.atMasking db).hasParent k.host rule = true
  declared : ∀ d ∈ u.active, d.withdraws k.host = false

/-- An interval of such generations from `db₀`, the first of them `g`. `seen`: in one of
    them the host was in `hosts_current` or `services_current`; `reason`: `firstReason` in
    the last. Between two of them everything but `warning_state` may change. -/
inductive Outage (k : FindingId) (db₀ : Db) : Int → Bool → Option SuppressionReason → Db → Prop
  | start {u : UpdateCall} {db' : Db} (h : Held k u db₀ db') :
      Outage k db₀ u.generationId (k.host ∈ db₀.presentHosts) (firstReason u db₀ k) db'
  | next {g : Int} {seen : Bool} {reason : Option SuppressionReason} {db db₁ db₂ : Db} {u : UpdateCall}
      (hprev : Outage k db₀ g seen reason db) (hsame : db₁.warningState = db.warningState) (h : Held k u db₁ db₂) :
      Outage k db₀ g (seen || k.host ∈ db₁.presentHosts) (firstReason u db₁ k) db₂

theorem Held.masked (h : Held k u db db') (hhost : k.host ≠ "") (hkind : isParentKind k.kind = false) :
    ∃ reason, u.masked db k.host k.kind = some reason ∧ firstReason u db k = some reason := by
  obtain ⟨rule, hmem, hcovers, hparent⟩ := h.parent
  have heq : u.masked db k.host k.kind = firstReason u db k := by
    unfold UpdateCall.masked firstReason
    simp only [hasParent_atMasking h.run]
    simp [hhost, hkind]
  have hsome : (firstReason u db k).isSome = true := by
    unfold firstReason
    rw [Option.isSome_map, List.find?_isSome]
    exact ⟨rule, hmem, by simp [hcovers, hparent]⟩
  obtain ⟨reason, hreason⟩ := Option.isSome_iff_exists.mp hsome
  exact ⟨reason, heq.trans hreason, hreason⟩

structure HeldRow (r : WarningRow) (g : Int) (seen : Bool) (reason : Option SuppressionReason)
    (r' : WarningRow) : Prop where
  core : r'.core = r.core
  gone : r'.entityGoneGens = if seen then 0 else r.entityGoneGens
  visibility : r'.visibilityState = .suppressed
  kind : r'.suppressionKind = some .ancestorLoss
  reason : r'.suppressionReason = reason
  since : r'.suppressedSinceGen = some (r.suppressedSinceGen.getD g)

/-- One generation of an outage, on the row it finds. -/
theorem held_row (h : Held k u db db') (hhost : k.host ≠ "") (hkind : isParentKind k.kind = false)
    (hr : db.warningState.get k = some r) (hg : r.entityGoneGens ≤ entityGcThreshold) :
    ∃ r', db'.warningState.get k = some r' ∧
      HeldRow r u.generationId (k.host ∈ db.presentHosts) (firstReason u db k) r' := by
  obtain ⟨reason, hm, hreason⟩ := h.masked hhost hkind
  obtain ⟨r', hr', hfin⟩ := masked_row_stays (run_updated h.run) h.absent hm hr hg
  have hid : r.host = k.host := congrArg FindingId.host (Table.key_of_get hr)
  have hmarks : r'.marks = (r.suppress reason u.generationId).marks := by
    rcases finish_marks hfin with ⟨d, hd, hw, _⟩ | ⟨_, hmarks⟩
    · have hhost' : (r.suppress reason u.generationId).host = k.host := hid
      rw [hhost', h.declared d hd] at hw
      cases hw
    · rw [hmarks, revoke_suppress]
  have hvis : r'.visibilityState = .suppressed := congrArg Marks.visibility hmarks
  have hsup : r'.suppressionKind = some .ancestorLoss := congrArg Marks.kind hmarks
  have hsince : r'.suppressedSinceGen = some (r.suppressedSinceGen.getD u.generationId) := congrArg Marks.since hmarks
  refine ⟨r', hr', (finish_core hfin).trans (core_suppress _ _ _), ?_, hvis, hsup, ?_, hsince⟩
  · rw [finish_gone hfin, goneAfter_suppress, hid]
    simp [hhost]
  · rw [hreason]
    exact congrArg Marks.reason hmarks

theorem Outage.reach {g : Int} (hr : Reach rfc3339 db₀) (h : Outage k db₀ g seen reason db) : Reach rfc3339 db := by
  induction h with
  | start h => exact .step hr (.update _ h.run)
  | next _ hsame h ih => exact .step (.step ih (.elsewhere hsame)) (.update _ h.run)

theorem Outage.heldRow {g : Int} (hreach : Reach rfc3339 db₀) (h : Outage k db₀ g seen reason db) (hhost : k.host ≠ "")
    (hkind : isParentKind k.kind = false) (hr : db₀.warningState.get k = some r) :
    ∃ r', db.warningState.get k = some r' ∧ HeldRow r g seen reason r' := by
  induction h with
  | start h => exact held_row h hhost hkind hr (reach_rowInv hreach k r hr).gone
  | @next g seen reason db db₁ db₂ u hprev hsame h ih =>
    obtain ⟨r₁, hr₁, hheld₁⟩ := ih
    rw [← hsame] at hr₁
    have hinv := reach_rowInv (.step (hprev.reach hreach) (.elsewhere hsame))
    obtain ⟨r₂, hr₂, hheld₂⟩ := held_row h hhost hkind hr₁ (hinv k r₁ hr₁).gone
    refine ⟨r₂, hr₂, hheld₂.core.trans hheld₁.core, ?_, hheld₂.visibility, hheld₂.kind, hheld₂.reason, ?_⟩
    · rw [hheld₂.gone, hheld₁.gone]
      by_cases hp : k.host ∈ db₁.presentHosts <;> simp [hp]
    · rw [hheld₂.since, hheld₁.since]
      rfl

/-- A row of a host that has lost observability is neither deleted nor aged: its history
    and severity stay, it is suppressed since the first such generation with the reason of
    the first matching rule, and only the gone count moves, to 0, once the host is in
    `hosts_current` or `services_current`. -/
theorem outage_holds_last_known_state {rfc3339 : String → Except String Int} {k : FindingId} {db₀ db : Db} {g : Int}
    {seen : Bool} {reason : Option SuppressionReason} {r : WarningRow} (hreach : Reach rfc3339 db₀)
    (h : Outage k db₀ g seen reason db) (hhost : k.host ≠ "") (hkind : isParentKind k.kind = false)
    (hr : db₀.warningState.get k = some r) :
    ∃ r', db.warningState.get k = some r' ∧ r'.firstSeenGen = r.firstSeenGen ∧ r'.lastSeenGen = r.lastSeenGen ∧
      r'.consecutiveGens = r.consecutiveGens ∧ r'.absentGens = r.absentGens ∧ r'.severity = r.severity ∧
      r'.entityGoneGens = (if seen then 0 else r.entityGoneGens) ∧ r'.visibilityState = .suppressed ∧
      r'.suppressedSinceGen = some (r.suppressedSinceGen.getD g) ∧ r'.suppressionReason = reason := by
  obtain ⟨r', hr', hheld⟩ := h.heldRow hreach hhost hkind hr
  have hcore := hheld.core
  exact ⟨r', hr', congrArg (·.firstSeenGen) hcore, congrArg (·.lastSeenGen) hcore, congrArg (·.consecutiveGens) hcore,
    congrArg (·.absentGens) hcore, congrArg (·.severity) hcore, hheld.gone, hheld.visibility, hheld.since, hheld.reason⟩

theorem emitted_staleCall (g : Int) (db : Db) : (staleCall g).emitted db = [staleFinding] :=
  emitted_eq_findings (by simp [staleCall, staleFinding]) db

/-- A row found while its host was in no table, then held: the host reports, and goes stale. -/
theorem stale_generation : ∃ db₀ db' r, Reach (fun _ => .error "") db₀ ∧ Held strayFinding.id (staleCall 2) db₀ db' ∧
    db₀.warningState.get strayFinding.id = some r ∧ r.entityGoneGens = 1 ∧ "db-1" ∈ db₀.presentHosts := by
  have h : (((strayCall 1).run (Db.published 2)).toOption.map fun db =>
      ((db.warningState.get strayFinding.id).map WarningRow.entityGoneGens,
        (((staleCall 2).run (db.withHost "db-1")).toOption.map fun _ => ()).isSome)) = some (some 1, true) := by
    decide +kernel
  obtain ⟨db, h₁, hread⟩ := Sql.ok_of_toOption h
  obtain ⟨r, hr, hgone⟩ := Option.map_eq_some_iff.mp (congrArg Prod.fst hread)
  obtain ⟨_, hsome⟩ := Option.isSome_iff_exists.mp (congrArg Prod.snd hread)
  obtain ⟨db', h₂, _⟩ := Sql.ok_of_toOption hsome
  have hreach : Reach (fun _ => .error "") db := .step (.init rfl) (.update _ h₁)
  refine ⟨db.withHost "db-1", db', r, .step hreach (.elsewhere rfl), ⟨h₂, ?_, ?_, ?_⟩, hr, hgone, ?_⟩
  · rw [UpdateCall.emittedIds, emitted_staleCall]
    decide
  · refine ⟨⟨"stale_host", .hostUnreachable, none⟩, by simp [maskingRules], rfl, ?_⟩
    rw [hasParent_atMasking h₂, UpdateCall.hasParent, emitted_staleCall]
    rfl
  · intro d hd
    cases hd
  · unfold Db.presentHosts Db.withHost Table.replace Table.append
    simp

theorem an_outage_resets_the_gone_count : ∃ db₀ db' r r', Reach (fun _ => .error "") db₀ ∧
    Held strayFinding.id (staleCall 2) db₀ db' ∧ db₀.warningState.get strayFinding.id = some r ∧
    db'.warningState.get strayFinding.id = some r' ∧ r'.entityGoneGens ≠ r.entityGoneGens := by
  obtain ⟨db₀, db', r, hreach, hheld, hr, hgone, hp⟩ := stale_generation
  obtain ⟨r', hr', hrow⟩ := held_row hheld (by decide) (by decide) hr (by rw [hgone]; decide)
  refine ⟨db₀, db', r, r', hreach, hheld, hr, hr', ?_⟩
  have hp' : strayFinding.id.host ∈ db₀.presentHosts := hp
  rw [hrow.gone, hgone]
  simp [hp']

theorem one_stale_generation_holds : ∃ db₀ db r r', Outage strayFinding.id db₀ 2 true (some .hostUnreachable) db ∧
    db₀.warningState.get strayFinding.id = some r ∧ db.warningState.get strayFinding.id = some r' ∧
    r'.firstSeenGen = r.firstSeenGen ∧ r'.visibilityState = .suppressed ∧
    r'.suppressionReason = some .hostUnreachable := by
  obtain ⟨db₀, db', r, hreach, hheld, hr, _, hp⟩ := stale_generation
  have hout : Outage strayFinding.id db₀ 2 (strayFinding.id.host ∈ db₀.presentHosts)
      (firstReason (staleCall 2) db₀ strayFinding.id) db' := .start hheld
  have hseen : decide (strayFinding.id.host ∈ db₀.presentHosts) = true := decide_eq_true hp
  have hreason : firstReason (staleCall 2) db₀ strayFinding.id = some .hostUnreachable := by
    unfold firstReason
    simp only [hasParent_atMasking hheld.run, UpdateCall.hasParent, emitted_staleCall]
    rfl
  rw [hseen, hreason] at hout
  obtain ⟨r', hr', hfirst, _, _, _, _, _, hvis, _, hreason'⟩ :=
    outage_holds_last_known_state hreach hout (by decide) (by decide) hr
  exact ⟨db₀, db', r, r', hout, hr, hr', hfirst, hvis, hreason'⟩

end Nq
