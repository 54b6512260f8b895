/-
  Nq.Operator.Sticks — a retired source stays retired.

  Four transactions write the basis columns of a finding: retirement, its reverse, the
  lifecycle update (from the retired sources it loads per cycle) and finding imports. In
  every reachable database the basis of a finding with a source is `retired` exactly when
  the source is in `sources_retired` (`reach_sticks`), whatever the order. From that:
  - only an emission that cites a source in force makes a finding live (`live_cause`);
  - retiring a retired source changes nothing (`retire_idle`);
  - a finding whose source is retired is never due a notification;
  - while a finding stays and keeps its source, its audit entries alternate between
    `retired` and `unknown` (`alternates`). A finding that changes its source between two
    retirements is retired twice in a row (`a_changed_source_is_retired_again`).
-/

import Mathlib.Data.List.Chain
import Nq.Operator.Steps

namespace Nq

open List
open Sql (Table)

variable {rfc3339 : String → Except String Int} {time : TimeLib} {db db' : Db} {k : FindingId} {r r' : WarningRow}

/-- The basis of a finding with a source tells whether the source is retired. -/
def Db.Sticks (db : Db) : Prop :=
  ∀ k r s, db.warningState.get k = some r → r.basisSourceId = some s →
    (r.basisState = .retired ↔ (db.sourcesRetired.get s).isSome = true)

theorem basisOf_retired {u : UpdateCall} {f : Finding} {s : String} (hs : f.basisSourceId = some s) :
    (basisOf (u.cycle db) f).1 = .retired ↔ (db.sourcesRetired.get s).isSome = true := by
  cases hget : db.sourcesRetired.get s with
  | none =>
    rw [basisOf_standing hs (show (u.cycle db).retired.get s = none from hget)]
    simp
  | some retired =>
    rw [basisOf_retiredSource hs (show (u.cycle db).retired.get s = some retired from hget)]
    simp

theorem step_sticks (hinv : db.Sticks) (h : FindingStep rfc3339 time db db') : db'.Sticks := by
  intro k r' s hr' hs
  cases step_basis h hr' with
  | kept r hr hb hsources =>
    have hstate : r'.basisState = r.basisState := congrArg Prod.fst hb
    have hsource : r'.basisSourceId = r.basisSourceId := congrArg Prod.snd hb
    rw [hstate, hsources]
    exact hinv k r s hr (hsource.symm.trans hs)
  | begun hb =>
    have hsource : r'.basisSourceId = none := congrArg Prod.snd hb
    rw [hsource] at hs
    cases hs
  | emitted u f hu hf hid hb =>
    have hstate : r'.basisState = (basisOf (u.cycle db) f).1 := congrArg Prod.fst hb
    have hsource : r'.basisSourceId = f.basisSourceId := congrArg Prod.snd hb
    rw [hstate, update_retired hu]
    exact basisOf_retired (hsource.symm.trans hs)
  | retired r source reason actor now hr hdb hrow =>
    have hold := hinv k r s hr
    subst hdb hrow
    rw [retired_retireSource]
    unfold WarningRow.retire WarningRow.doomed at hs ⊢
    by_cases hd : (decide (r.basisSourceId = some source) && decide (r.basisState ≠ .retired)) = true
    · rw [if_pos hd] at hs ⊢
      simp only [Bool.and_eq_true, decide_eq_true_eq] at hd
      have hsource : s = source := Option.some.inj (hs.symm.trans hd.1)
      simp [hsource]
    · rw [if_neg hd] at hs ⊢
      simp only [Bool.and_eq_true, decide_eq_true_eq, not_and, ne_eq, not_not] at hd
      by_cases hsource : s = source
      · simp [hsource, hd (hsource ▸ hs)]
      · simp [hsource, hold hs]
  | unretired r source actor now hr hdb hrow =>
    have hold := hinv k r s hr
    subst hdb hrow
    rw [retired_unretireSource]
    unfold WarningRow.unretire WarningRow.revived at hs ⊢
    by_cases hd : (decide (r.basisSourceId = some source) && decide (r.basisState = .retired)) = true
    · rw [if_pos hd] at hs ⊢
      simp only [Bool.and_eq_true, decide_eq_true_eq] at hd
      have hsource : s = source := Option.some.inj (hs.symm.trans hd.1)
      simp [hsource]
    · rw [if_neg hd] at hs ⊢
      simp only [Bool.and_eq_true, decide_eq_true_eq, not_and] at hd
      by_cases hsource : s = source
      · simp [hsource, hd (hsource ▸ hs)]
      · simp [hsource, hold hs]

theorem reach_sticks (h : FindingReach rfc3339 time db) : db.Sticks := by
  induction h with
  | init h => intro k r s hr; rw [h] at hr; cases hr
  | step _ h ih => exact step_sticks ih h

/-- A finding that is live after a step was live before, or was emitted citing a source in force. -/
theorem live_cause (h : FindingStep rfc3339 time db db') (hr' : db'.warningState.get k = some r')
    (hlive : r'.basisState = .live) :
    (∃ r, db.warningState.get k = some r ∧ r'.basis = r.basis) ∨
    ∃ (u : UpdateCall) (f : Finding) (s : String), u.run db = .ok db' ∧ f ∈ u.emitted db ∧ f.id = k ∧ f.basisSourceId =
      some s ∧ r'.basisSourceId = some s ∧ db.sourcesRetired.get s = none := by
  cases step_basis h hr' with
  | kept r hr hb hs => exact .inl ⟨r, hr, hb⟩
  | begun hb =>
    have hstate : r'.basisState = .unknown := congrArg Prod.fst hb
    rw [hstate] at hlive
    cases hlive
  | emitted u f hu hf hid hb =>
    have hstate : r'.basisState = (basisOf (u.cycle db) f).1 := congrArg Prod.fst hb
    have hsource : r'.basisSourceId = f.basisSourceId := congrArg Prod.snd hb
    have hnot : (basisOf (u.cycle db) f).1 ≠ .retired := by rw [← hstate, hlive]; decide
    cases hs : f.basisSourceId with
    | none =>
      rw [hstate, basisOf, hs] at hlive
      cases hlive
    | some s =>
      have hnone := mt (basisOf_retired hs).mpr hnot
      exact .inr ⟨u, f, s, hu, hf, hid, hs, hsource.trans hs, Option.not_isSome_iff_eq_none.mp hnone⟩
  | retired r source reason actor now hr hdb hrow =>
    subst hrow
    unfold WarningRow.retire at hlive ⊢
    split at hlive
    · cases hlive
    · rename_i hd
      exact .inl ⟨r, hr, by rw [if_neg hd]⟩
  | unretired r source actor now hr hdb hrow =>
    subst hrow
    unfold WarningRow.unretire at hlive ⊢
    split at hlive
    · cases hlive
    · rename_i hd
      exact .inl ⟨r, hr, by rw [if_neg hd]⟩

variable {source : String}

theorem not_doomed (hinv : db.Sticks) (hs : (db.sourcesRetired.get source).isSome = true)
    (hr : r ∈ db.warningState.rows) : r.doomed source = false := by
  refine Bool.eq_false_iff.mpr fun hd => ?_
  simp only [WarningRow.doomed, Bool.and_eq_true, decide_eq_true_eq] at hd
  exact hd.2 ((hinv r.id r source (Table.get_of_mem hr) hd.1).mpr hs)

/-- Retiring a retired source: no row, no entry, and the first receipt stands. -/
theorem retire_idle (hinv : db.Sticks) (hs : (db.sourcesRetired.get source).isSome = true) (reason actor now : String) :
    retireSource db source reason actor now = (db, ⟨source, 0, false⟩) := by
  have hrows : db.warningState.update (·.retire source now) (id_retire source now) = db.warningState :=
    Table.update_eq_self _ _ _ fun r hr => by simp [WarningRow.retire, not_doomed hinv hs hr]
  have hnone : db.warningState.rows.filter (·.doomed source) = [] :=
    filter_eq_nil_iff.mpr fun r hr => by simp [not_doomed hinv hs hr]
  have hinsert : db.sourcesRetired.insert? ⟨source, now, reason, actor⟩ = none := by
    cases hi : db.sourcesRetired.insert? ⟨source, now, reason, actor⟩ with
    | none => rfl
    | some t =>
      have : db.sourcesRetired.get source = none := (Table.insert?_eq_some hi).1
      rw [this] at hs
      cases hs
  simp [retireSource, hrows, hnone, hinsert]

/-! ## The audit entries of one finding -/

/-- The finding is there and cites the source. -/
def Db.Cites (db : Db) (k : FindingId) (source : String) : Prop :=
  ∃ r, db.warningState.get k = some r ∧ r.basisSourceId = some source

/-- A stretch of a run in which the finding stays and keeps its source. -/
inductive Stretch (rfc3339 : String → Except String Int) (time : TimeLib) (k : FindingId) (source : String) :
    Db → Db → Prop
  | start {db : Db} (h : db.Cites k source) : Stretch rfc3339 time k source db db
  | step {db db₁ db₂ : Db} (hs : Stretch rfc3339 time k source db db₁) (h : FindingStep rfc3339 time db₁ db₂)
      (hc : db₂.Cites k source) : Stretch rfc3339 time k source db db₂

/-- One step of a stretch leaves no entry and keeps the finding's standing, or leaves the
    one entry its standing allows. -/
theorem stretch_step (hinv : db.Sticks) (h : FindingStep rfc3339 time db db') (hr : db.warningState.get k = some r)
    (hs : r.basisSourceId = some source) (hr' : db'.warningState.get k = some r')
    (hs' : r'.basisSourceId = some source) :
    ∃ new, db'.findingTransitions = db.findingTransitions ++ new ∧
      ((basisEntries k new = [] ∧ (r'.basisState = .retired ↔ r.basisState = .retired)) ∨
       (basisEntries k new = ["retired"] ∧ r.basisState ≠ .retired ∧ r'.basisState = .retired) ∨
       (basisEntries k new = ["unknown"] ∧ r.basisState = .retired ∧ r'.basisState ≠ .retired)) := by
  obtain ⟨new, hnew⟩ := step_transitioned h
  refine ⟨new, hnew.transitions, ?_⟩
  cases hnew.basis k r r' hr hr' with
  | none he hkept =>
    refine .inl ⟨he, ?_⟩
    rcases hkept with rfl | hsources
    · exact Iff.rfl
    · have hinv' := step_sticks hinv h
      rw [hinv' k r' source hr' hs', hinv k r source hr hs, hsources]
  | retired he hr hr' => exact .inr (.inl ⟨he, hr, hr'⟩)
  | unknown he hr hr' => exact .inr (.inr ⟨he, hr, hr'⟩)

/-- The last entry of a stretch is the finding's standing. -/
theorem alternates (hreach : FindingReach rfc3339 time db) (h : Stretch rfc3339 time k source db db') :
    FindingReach rfc3339 time db' ∧ ∃ new r, db'.findingTransitions = db.findingTransitions ++ new ∧
      db'.warningState.get k = some r ∧ r.basisSourceId = some source ∧ (basisEntries k new).IsChain (· ≠ ·) ∧
      ((basisEntries k new).getLast? = some "retired" → r.basisState = .retired) ∧
      ((basisEntries k new).getLast? = some "unknown" → r.basisState ≠ .retired) := by
  induction h with
  | start hc =>
    obtain ⟨r, hr, hs⟩ := hc
    exact ⟨hreach, [], r, (append_nil _).symm, hr, hs, .nil, by simp [basisEntries], by simp [basisEntries]⟩
  | step hst hstep hc ih =>
    obtain ⟨hreach₁, new, r, htrans, hr, hs, hchain, hretired, hunknown⟩ := ih
    obtain ⟨r', hr', hs'⟩ := hc
    obtain ⟨new', htrans', hcases⟩ := stretch_step (reach_sticks hreach₁) hstep hr hs hr' hs'
    refine ⟨.step hreach₁ hstep, new ++ new', r', by rw [htrans', htrans, append_assoc], hr', hs', ?_⟩
    rw [basisEntries_append]
    rcases hcases with ⟨he, hiff⟩ | ⟨he, hnot, hnow⟩ | ⟨he, hwas, hnot⟩
    · rw [he, append_nil]
      exact ⟨hchain, fun hl => hiff.mpr (hretired hl), fun hl hb => hunknown hl (hiff.mp hb)⟩
    · rw [he]
      refine ⟨isChain_append.mpr ⟨hchain, .singleton _, ?_⟩, fun _ => hnow, ?_⟩
      · intro x hx y hy hxy
        cases hy
        subst hxy
        exact hnot (hretired hx)
      · simp
    · rw [he]
      refine ⟨isChain_append.mpr ⟨hchain, .singleton _, ?_⟩, ?_, fun _ => hnot⟩
      · intro x hx y hy hxy
        cases hy
        subst hxy
        exact hunknown hx hwas
      · simp

/-! ## Retirement sticks -/

/-- What holds of a database and of every step from it. -/
structure RetirementSticks (rfc3339 : String → Except String Int) (time : TimeLib) (db : Db) : Prop where
  basis : ∀ r ∈ db.warningState.rows, ∀ s, r.basisSourceId = some s →
    (r.basisState = .retired ↔ (db.sourcesRetired.get s).isSome = true)
  unretire : ∀ source actor now, ∀ r' ∈ (unretireSource db source actor now).1.warningState.rows,
    r'.basisState = .live → r' ∈ db.warningState.rows
  live : ∀ db', FindingStep rfc3339 time db db' → ∀ r' ∈ db'.warningState.rows, r'.basisState = .live →
    (∃ r ∈ db.warningState.rows, r.id = r'.id ∧ r'.basis = r.basis) ∨
    ∃ (u : UpdateCall) (f : Finding) (s : String), u.run db = .ok db' ∧ f ∈ u.emitted db ∧ f.id = r'.id ∧
      f.basisSourceId = some s ∧ r'.basisSourceId = some s ∧ db.sourcesRetired.get s = none
  entries : ∀ k source db', Stretch rfc3339 time k source db db' →
    ∃ new, db'.findingTransitions = db.findingTransitions ++ new ∧ (basisEntries k new).IsChain (· ≠ ·)
  again : ∀ source reason actor now, (db.sourcesRetired.get source).isSome = true →
    retireSource db source reason actor now = (db, ⟨source, 0, false⟩)
  pending : ∀ history minSeverity now, ∀ p ∈ findPending rfc3339 db history minSeverity now,
    ∃ r ∈ db.warningState.rows, r.id = p.id ∧ ∀ s, r.basisSourceId = some s → db.sourcesRetired.get s = none

theorem retirement_sticks (h : FindingReach rfc3339 time db) : RetirementSticks rfc3339 time db := by
  have hinv := reach_sticks h
  refine ⟨?_, ?_, ?_, ?_, ?_, ?_⟩
  · exact fun r hr s hs => hinv r.id r s (Table.get_of_mem hr) hs
  · intro source actor now r' hr' hlive
    have hget := Table.get_of_mem hr'
    rw [get_unretireSource] at hget
    obtain ⟨r, hr, hrow⟩ := Option.map_eq_some_iff.mp hget
    unfold WarningRow.unretire at hrow
    split at hrow
    · rw [← hrow] at hlive
      cases hlive
    · exact hrow ▸ Table.mem_of_get hr
  · intro db' hstep r' hr' hlive
    rcases live_cause hstep (Table.get_of_mem hr') hlive with ⟨r, hr, hb⟩ | hemitted
    · exact .inl ⟨r, Table.mem_of_get hr, Table.key_of_get hr, hb⟩
    · exact .inr hemitted
  · intro k source db' hstretch
    obtain ⟨_, new, _, htrans, _, _, hchain, _⟩ := alternates h hstretch
    exact ⟨new, htrans, hchain⟩
  · exact fun source reason actor now hs => retire_idle hinv hs reason actor now
  · intro history minSeverity now p hp
    obtain ⟨r, hr, hn⟩ := mem_findPending hp
    refine ⟨r, Table.mem_of_get hr, Table.key_of_get hr, fun s hs => ?_⟩
    have hnot : r.basisState ≠ .retired := by
      simp only [WarningRow.notifiable, Bool.and_eq_true, decide_eq_true_eq] at hn
      exact hn.2
    exact Option.not_isSome_iff_eq_none.mp (mt (hinv r.id r s (Table.key_of_get hr ▸ hr) hs).mpr hnot)

/-! ## Traces -/

/-- A pool found degraded by the witness of its first or its second host. -/
def poolFinding (witness : String) : Finding :=
  { host := "nas-1", domain := "Δg", kind := "zfs_pool_degraded", subject := "tank", stateKind := .degradation
    basisSourceId := some witness }

def poolCall (g : Int) (witness : String) : UpdateCall := { generationId := g, findings := [poolFinding witness] }

/-- No import and no action in these traces, so no clock is read. -/
def noTime : TimeLib := ⟨fun _ => .error "", fun _ => .error "", fun _ _ => none⟩

theorem a_changed_source_is_retired_again : ∃ db, FindingReach (fun _ => .error "") noTime db ∧
    (db.warningState.get (poolFinding "zfs.a").id).isSome = true ∧
    ¬ (basisEntries (poolFinding "zfs.a").id db.findingTransitions).IsChain (· ≠ ·) := by
  have h : ((poolCall 1 "zfs.a").run (Db.published 2)).toOption.bind (fun db₁ =>
      ((poolCall 2 "zfs.b").run (retireSource db₁ "zfs.a" "torn down" "op" "t1").1).toOption.map fun db₂ =>
        let db := (retireSource db₂ "zfs.b" "torn down" "op" "t2").1
        ((db.warningState.get (poolFinding "zfs.a").id).isSome,
          basisEntries (poolFinding "zfs.a").id db.findingTransitions)) =
      some (true, ["retired", "retired"]) := by decide +kernel
  obtain ⟨db₁, h₁, h⟩ := Option.bind_eq_some_iff.mp h
  obtain ⟨db₂, h₂, hread⟩ := Sql.ok_of_toOption h
  simp only [Prod.mk.injEq] at hread
  refine ⟨(retireSource db₂ "zfs.b" "torn down" "op" "t2").1, ?_, hread.1, ?_⟩
  · exact .step (.step (.step (.step (.init rfl) (.update _ (Sql.toOption_eq_some.mp h₁))) (.retire ..)) (.update _ h₂))
      (.retire ..)
  · rw [hread.2]
    decide

/-- Retired, unretired, retired: one finding of one source. -/
theorem a_kept_source_alternates : ∃ db, RetirementSticks (fun _ => .error "") noTime db ∧
    (db.sourcesRetired.get "zfs.a").isSome = true ∧
    basisEntries (poolFinding "zfs.a").id db.findingTransitions = ["retired", "unknown", "retired"] := by
  have h : ((poolCall 1 "zfs.a").run (Db.published 1)).toOption.map (fun db₁ =>
      let db₂ := (unretireSource (retireSource db₁ "zfs.a" "torn down" "op" "t1").1 "zfs.a" "op" "t2").1
      let db := (retireSource db₂ "zfs.a" "torn down" "op" "t3").1
      ((db.sourcesRetired.get "zfs.a").isSome, basisEntries (poolFinding "zfs.a").id db.findingTransitions)) =
      some (true, ["retired", "unknown", "retired"]) := by decide +kernel
  obtain ⟨db₁, h₁, hread⟩ := Sql.ok_of_toOption h
  simp only [Prod.mk.injEq] at hread
  refine ⟨_, retirement_sticks ?_, hread.1, hread.2⟩
  exact .step (.step (.step (.step (.init rfl) (.update _ h₁)) (.retire ..)) (.unretire ..)) (.retire ..)

end Nq
