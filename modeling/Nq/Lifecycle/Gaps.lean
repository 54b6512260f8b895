/-
  Nq.Lifecycle.Gaps — streaks across generations in which a finding was not emitted.

  A finding that comes back continues its streak if its row is still suppressed, since
  suppression was our blindness. The flag says less than that: it is set by a masked
  generation whatever came before, and a row that is visibly absent again keeps it. So a
  streak is continued over unmasked gaps (`a_streak_survives_a_visible_absence`). In runs
  where every gap is masked throughout or not at all (`Unbroken`) it is not
  (`streaks_count_unbroken_presence`).
-/

import Nq.Lifecycle.Run

namespace Nq

open List
open Sql (Table)

/-! ## Runs with their history -/

/-- A generation of a run: the call and the database it ran on. -/
abbrev Generation := UpdateCall × Db

def Generation.emits (p : Generation) (k : FindingId) : Bool := k ∈ p.1.emittedIds p.2

/-- The row's host was covered by an observed parent matching its kind. -/
def Generation.masks (p : Generation) (k : FindingId) : Bool := (p.1.masked p.2 k.host k.kind).isSome

/-- The generations since `k` was last emitted, newest first. -/
def gap (k : FindingId) (hist : List Generation) : List Generation := hist.takeWhile fun p => !p.emits k

section

variable (P : UpdateCall → Db → Prop)

/-- Runs of `update_warning_state` over consecutive generation ids from an empty table,
    each call meeting `P`; between two calls everything but `warning_state` may change. -/
inductive Timeline : List Generation → Db → Prop
  | start {db : Db} (h : db.warningState = .empty) : Timeline [] db
  | next {hist : List Generation} {db db₁ db₂ : Db} {u : UpdateCall} (hprev : Timeline hist db)
      (hsame : db₁.warningState = db.warningState) (hgen : ∀ p ∈ hist.head?, u.generationId = p.1.generationId + 1)
      (hactive : u.active = []) (hP : P u db₁) (h : u.run db₁ = .ok db₂) : Timeline ((u, db₁) :: hist) db₂

end

/-- No row passes un-emitted from a masked generation to an unmasked one it survives, or
    from a visible absence to a masked one. -/
def Unbroken (u : UpdateCall) (db : Db) : Prop :=
  ∀ r ∈ db.warningState.rows, r.id ∉ u.emittedIds db →
    if (u.masked db r.host r.kind).isSome then r.visibilityState = .suppressed ∨ r.lastSeenGen = u.generationId - 1
    else r.absentGens + 1 < recoveryWindow → r.visibilityState = .observed

instance (u : UpdateCall) (db : Db) : Decidable (Unbroken u db) := inferInstanceAs (Decidable (∀ _ ∈ _, _))

/-! ## The invariant -/

/-- What a row says about the generations since it was last emitted. -/
structure GapInv (k : FindingId) (hist : List Generation) (r : WarningRow) : Prop where
  age : ∃ p, hist.head? = some p ∧ r.lastSeenGen + (gap k hist).length = p.1.generationId
  held : r.visibilityState = .suppressed → ∀ p ∈ gap k hist, p.masks k = true

variable {hist : List Generation} {k : FindingId} {p : Generation} {db : Db} {u : UpdateCall}

theorem gap_cons_emitted (h : p.emits k = true) : gap k (p :: hist) = [] := by
  simp [gap, h]

theorem gap_cons_absent (h : p.emits k = false) : gap k (p :: hist) = p :: gap k hist := by
  simp [gap, h]

theorem visibilityState_finish {r r' : WarningRow} (hactive : u.active = []) (h : u.finish db r = some r') :
    r'.visibilityState = .observed ∨ r'.visibilityState = r.visibilityState := by
  rcases finish_marks h with ⟨d, hd, _⟩ | ⟨_, hm⟩
  · rw [hactive] at hd; cases hd
  · have hv : r'.visibilityState = (r.revoke u.activeIds).visibilityState :=
      congrArg Marks.visibility hm
    rw [hv]
    unfold WarningRow.revoke
    split
    · exact .inl rfl
    · exact .inr rfl

theorem gapInv_next {db₁ db₂ : Db} (hinv : ∀ k r, db.warningState.get k = some r → GapInv k hist r)
    (hsame : db₁.warningState = db.warningState) (hgen : ∀ p ∈ hist.head?, u.generationId = p.1.generationId + 1)
    (hactive : u.active = []) (hP : Unbroken u db₁) (h : u.run db₁ = .ok db₂) :
    ∀ k r, db₂.warningState.get k = some r → GapInv k ((u, db₁) :: hist) r := by
  intro k r' hr'
  rcases (run_updated h).row_cases hr' with ⟨f, hf, rfl, s, hfin⟩ | ⟨hk, r, hr, hcase⟩
  · have hem : Generation.emits (u, db₁) f.id = true := decide_eq_true (mem_map_of_mem hf)
    have hlast : r'.lastSeenGen = u.generationId :=
      (congrArg (·.lastSeenGen) (finish_core hfin)).trans (lastSeenGen_emittedRow _ _ _)
    refine ⟨⟨(u, db₁), rfl, ?_⟩, ?_⟩
    · rw [gap_cons_emitted hem, hlast]; simp
    · rw [gap_cons_emitted hem]; intro _ p hp; cases hp
  · have hem : Generation.emits (u, db₁) k = false := decide_eq_false hk
    have hid : r.id = k := Table.key_of_get hr
    have hcond := hP r (Table.mem_of_get hr) (hid ▸ hk)
    have hhost : r.host = k.host := congrArg FindingId.host hid
    have hkind : r.kind = k.kind := congrArg FindingId.kind hid
    rw [hhost, hkind] at hcond
    obtain ⟨⟨p, hp, hage⟩, hheld⟩ := hinv k r (hsame ▸ hr)
    have hg := hgen p hp
    have hlength : r.lastSeenGen + (gap k ((u, db₁) :: hist)).length = u.generationId := by
      rw [gap_cons_absent hem, length_cons]
      push_cast
      omega
    rcases hcase with ⟨reason, hm, hfin⟩ | ⟨hm, ha, hfin⟩
    · -- masked: suppressed before, or seen in the generation right before
      have hlast : r'.lastSeenGen = r.lastSeenGen := congrArg (·.lastSeenGen) (finish_core hfin)
      refine ⟨⟨(u, db₁), rfl, by rw [hlast]; exact hlength⟩, ?_⟩
      intro _ q hq
      rw [gap_cons_absent hem] at hq
      rcases mem_cons.mp hq with rfl | hq
      · simp [Generation.masks, hm]
      · rw [hm] at hcond
        rcases hcond with hsup | hseen
        · exact hheld hsup q hq
        · have hnil : (gap k hist).length = 0 := by omega
          rw [eq_nil_of_length_eq_zero hnil] at hq
          cases hq
    · -- a visible absence: the row was observed, and still is
      have hlast : r'.lastSeenGen = r.lastSeenGen := congrArg (·.lastSeenGen) (finish_core hfin)
      refine ⟨⟨(u, db₁), rfl, by rw [hlast]; exact hlength⟩, ?_⟩
      intro hsup
      rw [hm] at hcond
      have hobs : r.visibilityState = .observed := hcond ha
      rcases visibilityState_finish hactive hfin with hv | hv
      · rw [hv] at hsup; cases hsup
      · rw [hv] at hsup
        have : r.incAbsent.visibilityState = .observed := hobs
        rw [this] at hsup
        cases hsup

theorem Timeline.gapInv (h : Timeline Unbroken hist db) : ∀ k r, db.warningState.get k = some r → GapInv k hist r := by
  induction h with
  | start h => intro k r hr; rw [h] at hr; cases hr
  | next _ hsame hgen hactive hP h ih => exact gapInv_next ih hsame hgen hactive hP h

theorem rowsInv_congr {db' : Db} (h : db.RowsInv) (hsame : db'.warningState = db.warningState) : db'.RowsInv :=
  fun k r hr => h k r (hsame ▸ hr)

theorem Timeline.rowsInv {P : UpdateCall → Db → Prop} (h : Timeline P hist db) : db.RowsInv := by
  induction h with
  | start h => intro k r hr; rw [h] at hr; cases hr
  | next _ hsame _ _ _ h ih => exact update_rowsInv (rowsInv_congr ih hsame) (run_updated h)

/-! ## Continuing a streak -/

/-- What a returning finding's count says about its gap. -/
theorem streaks_count_unbroken_presence {hist : List Generation} {u : UpdateCall} {db₁ db₂ : Db} {f : Finding}
    {r r' : WarningRow} (h : Timeline Unbroken ((u, db₁) :: hist) db₂) (hf : f ∈ u.emitted db₁)
    (hr : db₁.warningState.get f.id = some r) (hr' : db₂.warningState.get f.id = some r') :
    (r'.consecutiveGens = r.consecutiveGens + 1 → ∀ p ∈ gap f.id hist, p.masks f.id = true) ∧
      ((∃ p ∈ gap f.id hist, p.masks f.id = false) → r'.consecutiveGens = 1) := by
  cases h with
  | next hprev hsame hgen hactive hP h =>
    obtain ⟨⟨p, hp, hage⟩, hheld⟩ := hprev.gapInv f.id r (hsame ▸ hr)
    have hg := hgen p hp
    have hn := ((rowsInv_congr hprev.rowsInv hsame) f.id r hr).streak
    have hcount : r'.consecutiveGens = caseConsecutive r u.generationId f.ruleHash := by
      obtain ⟨s, hs⟩ := (run_updated h).emitted f hf
      have hcore := finish_core (hs.symm.trans hr')
      rw [hr] at hcore
      exact congrArg (·.consecutiveGens) hcore
    -- an unmasked generation in the gap: neither suppressed nor seen right before
    have hbroken : (∃ p ∈ gap f.id hist, p.masks f.id = false) → r'.consecutiveGens = 1 := by
      rintro ⟨q, hq, hunmasked⟩
      have hobs : r.visibilityState ≠ .suppressed := by
        intro hsup
        rw [hheld hsup q hq] at hunmasked
        cases hunmasked
      have hlate : r.lastSeenGen ≠ u.generationId - 1 := by
        have : 0 < (gap f.id hist).length := length_pos_of_mem hq
        omega
      rw [hcount, caseConsecutive]
      simp [hobs, hlate]
    refine ⟨?_, hbroken⟩
    intro hcont q hq
    by_contra hunmasked
    have := hbroken ⟨q, hq, by simpa using hunmasked⟩
    omega

/-- Found, masked for one generation, found again: a gap that is masked throughout. -/
theorem a_masked_gap_continues_the_streak : ∃ hist db₁ db₂ r r',
    Timeline Unbroken ((strayCall 3, db₁) :: hist) db₂ ∧ db₁.warningState.get strayFinding.id = some r ∧
    db₂.warningState.get strayFinding.id = some r' ∧ r'.consecutiveGens = r.consecutiveGens + 1 ∧
    (gap strayFinding.id hist).length = 1 ∧ ∀ p ∈ gap strayFinding.id hist, p.masks strayFinding.id = true := by
  have h : (((strayCall 1).run (Db.published 3)).toOption.bind fun db₁ =>
      ((staleCall 2).run db₁).toOption.bind fun db₂ => ((strayCall 3).run db₂).toOption.map fun db₃ =>
        (decide (Unbroken (strayCall 1) (Db.published 3) ∧ Unbroken (staleCall 2) db₁ ∧ Unbroken (strayCall 3) db₂),
          (Generation.emits (strayCall 1, Db.published 3) strayFinding.id,
            Generation.emits (staleCall 2, db₁) strayFinding.id),
          ((db₂.warningState.get strayFinding.id).map WarningRow.consecutiveGens,
            (db₃.warningState.get strayFinding.id).map WarningRow.consecutiveGens))) =
      some (true, (true, false), (some 1, some 2)) := by decide +kernel
  obtain ⟨db₁, h₁, h⟩ := Option.bind_eq_some_iff.mp h
  obtain ⟨db₂, h₂, h⟩ := Option.bind_eq_some_iff.mp h
  obtain ⟨db₃, h₃, hread⟩ := Sql.ok_of_toOption h
  simp only [Prod.mk.injEq, decide_eq_true_eq] at hread
  obtain ⟨⟨hu₁, hu₂, hu₃⟩, ⟨hem₁, hem₂⟩, hr, hr'⟩ := hread
  obtain ⟨r, hr, hn⟩ := Option.map_eq_some_iff.mp hr
  obtain ⟨r', hr', hn'⟩ := Option.map_eq_some_iff.mp hr'
  have ht₁ : Timeline Unbroken [(strayCall 1, Db.published 3)] db₁ :=
    .next (.start rfl) rfl (by simp) rfl hu₁ (Sql.toOption_eq_some.mp h₁)
  have ht₂ : Timeline Unbroken [(staleCall 2, db₁), (strayCall 1, Db.published 3)] db₂ :=
    .next ht₁ rfl (by simp [staleCall, strayCall]) rfl hu₂ (Sql.toOption_eq_some.mp h₂)
  have ht₃ : Timeline Unbroken ((strayCall 3, db₂) :: [(staleCall 2, db₁), (strayCall 1, Db.published 3)]) db₃ :=
    .next ht₂ rfl (by simp [staleCall, strayCall]) rfl hu₃ h₃
  have hgap : (gap strayFinding.id [(staleCall 2, db₁), (strayCall 1, Db.published 3)]).length = 1 := by
    rw [gap_cons_absent hem₂, gap_cons_emitted hem₁]
    rfl
  have hcount := streaks_count_unbroken_presence ht₃ (f := strayFinding)
    (by simp [UpdateCall.emitted, strayCall]) hr hr'
  exact ⟨_, db₂, db₃, r, r', ht₃, hr, hr', by omega, hgap, hcount.1 (by omega)⟩

/-! ## Traces -/

/-- A replayed trace is a timeline of its calls, newest first. -/
theorem timeline_of_replay {P : UpdateCall → Db → Prop} (hP : ∀ u db, P u db) {us : List UpdateCall} :
    ∀ {hist : List Generation} {db db' : Db}, Timeline P hist db → (∀ u ∈ us, u.active = []) →
      List.IsChain (fun g g' => g' = g + 1) ((hist.head?.map (·.1.generationId)).toList ++ us.map (·.generationId)) →
      replay db us = .ok db' → ∃ hist', Timeline P (hist' ++ hist) db' ∧ hist'.map Prod.fst = us.reverse := by
  induction us with
  | nil => intro hist db db' ht _ _ h; cases h; exact ⟨[], ht, rfl⟩
  | cons u us ih =>
    intro hist db db' ht hactive hchain h
    unfold replay at h
    rw [foldlM_cons] at h
    obtain ⟨db₁, h₁, h₂⟩ := Sql.bind_ok.mp h
    have ht₁ : Timeline P ((u, db) :: hist) db₁ := by
      refine .next ht rfl ?_ (hactive u (by simp)) (hP u db) h₁
      intro p hp
      rw [Option.mem_def] at hp
      rw [hp] at hchain
      exact (isChain_cons_cons.mp hchain).1
    have hchain₁ : List.IsChain (fun g g' => g' = g + 1) (u.generationId :: us.map (·.generationId)) := by
      cases hh : hist.head? with
      | none => rw [hh] at hchain; exact hchain
      | some p => rw [hh] at hchain; exact (isChain_cons_cons.mp hchain).2
    obtain ⟨hist', ht', hmap⟩ := ih ht₁ (fun u' hu' => hactive u' (mem_cons_of_mem _ hu')) hchain₁ h₂
    exact ⟨hist' ++ [(u, db)], by simpa using ht', by simp [hmap]⟩

/-- Found, masked by a stale host until that has recovered, visibly absent for one
    generation, then found again. -/
def maskedThenAbsent : List UpdateCall := [strayCall 1, staleCall 2, quietCall 3, quietCall 4, quietCall 5]

theorem a_streak_survives_a_visible_absence : ∃ hist u db₁ db₂ r r', Timeline (fun _ _ => True) ((u, db₁) :: hist) db₂ ∧
    strayFinding ∈ u.emitted db₁ ∧ db₁.warningState.get strayFinding.id = some r ∧
    db₂.warningState.get strayFinding.id = some r' ∧ r.consecutiveGens = 1 ∧ r'.consecutiveGens = 2 ∧
    ∃ p ∈ gap strayFinding.id hist, p.masks strayFinding.id = false := by
  have h : (replay (Db.published 7) maskedThenAbsent).toOption.map (fun db₅ =>
      (Generation.masks (quietCall 6, db₅) strayFinding.id, Generation.emits (quietCall 6, db₅) strayFinding.id,
        ((quietCall 6).run db₅).toOption.bind fun db₆ =>
          ((strayCall 7).run db₆).toOption.map fun db₇ =>
            ((db₆.warningState.get strayFinding.id).map WarningRow.consecutiveGens,
              (db₇.warningState.get strayFinding.id).map WarningRow.consecutiveGens))) =
      some (false, false, some (some 1, some 2)) := by decide +kernel
  obtain ⟨db₅, h₅, hread⟩ := Sql.ok_of_toOption h
  simp only [Prod.mk.injEq] at hread
  obtain ⟨hmask, hem, hread⟩ := hread
  obtain ⟨db₆, h₆, hread⟩ := Option.bind_eq_some_iff.mp hread
  obtain ⟨db₇, h₇, hread⟩ := Sql.ok_of_toOption hread
  obtain ⟨r, hr, hn⟩ := Option.map_eq_some_iff.mp (congrArg Prod.fst hread)
  obtain ⟨r', hr', hn'⟩ := Option.map_eq_some_iff.mp (congrArg Prod.snd hread)
  obtain ⟨hist₅, ht₅, hcalls⟩ := timeline_of_replay (fun _ _ => trivial) (.start rfl) (by decide) (by decide) h₅
  rw [append_nil] at ht₅
  have hhead : hist₅.head?.map Prod.fst = some (quietCall 5) := by rw [← head?_map, hcalls]; rfl
  have ht₆ : Timeline (fun _ _ => True) ((quietCall 6, db₅) :: hist₅) db₆ := by
    refine .next ht₅ rfl ?_ rfl trivial (Sql.toOption_eq_some.mp h₆)
    intro p hp
    rw [Option.mem_def] at hp
    rw [hp] at hhead
    rw [Option.some.inj hhead]
    rfl
  refine ⟨(quietCall 6, db₅) :: hist₅, strayCall 7, db₆, db₇, r, r', ?_, by simp [UpdateCall.emitted, strayCall], hr,
    hr', hn, hn', (quietCall 6, db₅), ?_, hmask⟩
  · refine .next ht₆ rfl ?_ rfl trivial h₇
    intro p hp
    cases hp
    rfl
  · rw [gap_cons_absent hem]
    exact mem_cons_self

end Nq
