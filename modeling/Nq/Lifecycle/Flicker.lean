/-
  Nq.Lifecycle.Flicker — what makes a finding flicker (`publish.rs`,
  `update_warning_state_inner`, the stability pass).

  The pass takes the observations of a finding from the window's size, and the size from
  the generation counter. So it counts the generations of the window that lack an
  observation, those before the finding was first seen among them.

  - `observedInWindow_eq`, `flickering_iff`: the count, over the generations themselves;
  - `flickering_gaps_iff`: an emission is called flickering for gaps in its own life alone,
    exactly where the generations before it do not tip the count;
  - `a_steady_finding_flickers`.
-/

import Mathlib.Data.Int.ConditionallyCompleteOrder
import Mathlib.Data.Int.Interval
import Mathlib.Tactic.IntervalCases
import Nq.Lifecycle.Hysteresis

namespace Nq

open List
open Sql (Table)

/-! ## Runs that keep their observations -/

section

variable (rfc3339 : String → Except String Int)

/-- A run of `update_warning_state` over rising generation ids from an empty database whose
    observations are not pruned: what steps in between adds none of a later generation. -/
inductive Watched : List Generation → Db → Prop
  | start {db : Db} (hrows : db.warningState = .empty) (hobs : db.findingObservations = .empty) : Watched [] db
  | update {hist : List Generation} {db db' : Db} (hprev : Watched hist db) (u : UpdateCall)
      (hnew : ∀ p ∈ hist.head?, p.1.generationId < u.generationId)
      (hpos : 0 < u.generationId) (h : u.run db = .ok db') :
      Watched ((u, db) :: hist) db'
  | between {hist : List Generation} {db db' : Db} (hprev : Watched hist db) (h : Between rfc3339 db db')
      (hkept : ∀ o, (db.findingObservations.get o).isSome = true → (db'.findingObservations.get o).isSome = true)
      (hnew : ∀ o ∈ db'.findingObservations.rows, o ∈ db.findingObservations.rows ∨
        0 < o.generationId ∧ ∃ p ∈ hist.head?, o.generationId ≤ p.1.generationId) : Watched hist db'

end

/-- `k` was emitted in every generation from `first` up to the newest. -/
def Steady (k : FindingId) (first : Int) (hist : List Generation) : Prop :=
  ∀ n, first ≤ n → (∀ p ∈ hist.head?, n ≤ p.1.generationId) → ∃ p ∈ hist, p.1.generationId = n ∧ p.emits k = true

/-! ## The window -/

/-- The generations between two that lack an observation of a finding. -/
def unseen (obs : Table ObservationRow.pk) (key : String) (lo hi : Int) : Nat :=
  ((@Finset.Icc Int _ Int.instLocallyFiniteOrder lo hi).filter fun n => (obs.get (n, key)).isNone = true).card

/-- The oldest generation the window reaches to. -/
def windowStart (generationId : Int) : Int := max 1 (generationId - observationWindow + 1)

/-- Every observation of `key` is of a generation up to `g`. -/
def ObservedBy (obs : Table ObservationRow.pk) (g : Int) : Prop :=
  ∀ o ∈ obs.rows, 0 < o.generationId ∧ o.generationId ≤ g

variable {g hi lo : Int} {obs : Table ObservationRow.pk} {key : String} {db db' : Db} {r : WarningRow} {u : UpdateCall}
  {f : Finding} {hist : List Generation} {us : List UpdateCall}

theorem observedInWindow_eq (h : ObservedBy obs g) (key : String) :
    observedInWindow obs key (g - observationWindow) =
      ((Finset.Icc (windowStart g) g).filter fun n => ¬(obs.get (n, key)).isNone = true).card := by
  unfold observedInWindow
  rw [← card_toFinset]
  congr 1
  ext n
  simp only [mem_toFinset, List.mem_map, mem_filter, decide_eq_true_eq, Finset.mem_filter, Finset.mem_Icc,
    Option.isNone_iff_eq_none, Option.ne_none_iff_exists']
  constructor
  · rintro ⟨o, ⟨ho, rfl, hwin⟩, rfl⟩
    obtain ⟨hpos, hle⟩ := h o ho
    refine ⟨⟨?_, hle⟩, o, Table.get_of_mem ho⟩
    unfold windowStart observationWindow at *
    omega
  · rintro ⟨⟨hlo, hhi⟩, o, ho⟩
    have hpk : o.pk = (n, key) := Table.key_of_get ho
    obtain ⟨hn, hkey⟩ := Prod.mk.inj hpk
    refine ⟨o, ⟨Table.mem_of_get ho, hkey, ?_⟩, hn⟩
    unfold windowStart at hlo
    omega

/-- A finding flickers from a streak of ten on, with two unseen generations in the window. -/
theorem flickering_iff (hg : 0 < g) (h : ObservedBy obs g) (key : String) (gens : Int) :
    stabilityOf obs g key gens = .flickering ↔ 10 ≤ gens ∧ 2 ≤ unseen obs key (windowStart g) g := by
  have hsplit := Finset.card_filter_add_card_filter_not (s := Finset.Icc (windowStart g) g)
    (fun n => (obs.get (n, key)).isNone = true)
  rw [Int.card_Icc, ← observedInWindow_eq h key] at hsplit
  have hwindow : ((g + 1 - windowStart g).toNat : Int) = min observationWindow g := by
    unfold windowStart observationWindow
    omega
  unfold stabilityOf unseen
  show (if gens < 10 then _ else _) = _ ↔ _
  generalize ((Finset.Icc (windowStart g) g).filter fun n => (obs.get (n, key)).isNone = true).card = gaps at hsplit ⊢
  by_cases hgens : gens < 10
  · rw [if_pos hgens]
    exact ⟨fun h => (nomatch h), fun h => absurd h.1 (by omega)⟩
  · rw [if_neg hgens]
    by_cases hgaps : min observationWindow g - (observedInWindow obs key (g - observationWindow) : Int) ≥ 2
    · rw [if_pos hgaps]
      exact ⟨fun _ => ⟨by omega, by omega⟩, fun _ => rfl⟩
    · rw [if_neg hgaps]
      exact ⟨fun h => (nomatch h), fun h => absurd h.2 (by omega)⟩

theorem stabilityOf_cases (obs : Table ObservationRow.pk) (g : Int) (key : String) (gens : Int) :
    stabilityOf obs g key gens = .new ∨ stabilityOf obs g key gens = .stable ∨
      stabilityOf obs g key gens = .flickering := by
  cases h : stabilityOf obs g key gens with
  | new => exact .inl rfl
  | stable => exact .inr (.inl rfl)
  | flickering => exact .inr (.inr rfl)
  | recovering =>
    simp only [stabilityOf] at h
    split at h
    · cases h
    · split at h <;> cases h

/-- The unseen generations, before and since one of them. -/
theorem unseen_split (obs : Table ObservationRow.pk) (key : String) (lo hi first : Int) :
    unseen obs key lo hi = unseen obs key lo (min hi (first - 1)) + unseen obs key (max lo first) hi := by
  have hsplit := Finset.card_filter_add_card_filter_not
    (s := (Finset.Icc lo hi).filter fun n => (obs.get (n, key)).isNone = true) (fun n => n < first)
  unfold unseen
  rw [← hsplit, Finset.filter_filter, Finset.filter_filter]
  congr 2
  · ext n
    simp only [Finset.mem_filter, Finset.mem_Icc]
    constructor
    · rintro ⟨⟨hlo, hhi⟩, hnone, hlt⟩
      exact ⟨⟨hlo, by omega⟩, hnone⟩
    · rintro ⟨⟨hlo, hhi⟩, hnone⟩
      exact ⟨⟨hlo, by omega⟩, hnone, by omega⟩
  · ext n
    simp only [Finset.mem_filter, Finset.mem_Icc]
    constructor
    · rintro ⟨⟨hlo, hhi⟩, hnone, hge⟩
      exact ⟨⟨by omega, hhi⟩, hnone⟩
    · rintro ⟨⟨hlo, hhi⟩, hnone⟩
      exact ⟨⟨by omega, hhi⟩, hnone, by omega⟩

theorem unseen_congr {obs' : Table ObservationRow.pk}
    (h : ∀ n, lo ≤ n → n ≤ hi → (obs.get (n, key)).isNone = (obs'.get (n, key)).isNone) :
    unseen obs key lo hi = unseen obs' key lo hi := by
  unfold unseen
  congr 1
  refine Finset.filter_congr fun n hn => ?_
  rw [Finset.mem_Icc] at hn
  rw [h n hn.1 hn.2]

/-- A generation that is seen does not count. -/
theorem unseen_pred (h : (obs.get (hi, key)).isNone = false) : unseen obs key lo hi = unseen obs key lo (hi - 1) := by
  unfold unseen
  congr 1
  ext n
  simp only [Finset.mem_filter, Finset.mem_Icc]
  constructor
  · rintro ⟨⟨hlo, hhi⟩, hnone⟩
    refine ⟨⟨hlo, ?_⟩, hnone⟩
    rcases Int.lt_or_eq_of_le hhi with hlt | rfl
    · omega
    · rw [h] at hnone
      cases hnone
  · rintro ⟨⟨hlo, hhi⟩, hnone⟩
    exact ⟨⟨hlo, by omega⟩, hnone⟩

/-! ## What an update stores -/

theorem stability_finish {r' : WarningRow} (h : u.finish db r = some r') :
    r'.stability = r.stability := congrArg (·.stability) (finish_core h)

/-- The stability stored with an emission. -/
theorem emitted_stability (h : u.run db = .ok db') (hf : f ∈ u.emitted db) (hr : db'.warningState.get f.id = some r) :
    r.stability = some (stabilityOf db'.findingObservations u.generationId f.key r.consecutiveGens) := by
  obtain ⟨_, db₁, h₁, rfl⟩ := run_eq_ok.mp h
  have hrec := recordFindings_recorded h₁
  have hmem : f.id ∈ (u.emitted db).map Finding.id := mem_map_of_mem hf
  have hids : f.id ∈ u.emittedIds db := hmem
  have hobs : (afterRecording u db db₁).findingObservations = db₁.findingObservations := by
    rw [afterRecording, frame_of_recorded hrec]
    rfl
  rw [get_afterRecording hrec, get_setStabilities] at hr
  cases hget : db₁.warningState.get f.id with
  | none =>
    rw [hget] at hr
    cases hr
  | some r₁ =>
    have hid : r₁.id = f.id := Table.key_of_get hget
    rw [hget] at hr
    simp only [hmem, hids, if_true, Option.map_some, Option.bind_some] at hr
    have hcore : r.consecutiveGens = (stabilized (u.cycle db) db₁.findingObservations r₁).consecutiveGens :=
      congrArg (·.consecutiveGens) (finish_core hr)
    rw [stability_finish hr, hobs, hcore]
    show some (stabilityOf _ _ r₁.id.key _) = _
    rw [hid]
    rfl

/-! ## Observations over a run -/

theorem update_observed (h : u.run db = .ok db') {o : Int × String}
    (ho : (db.findingObservations.get o).isSome = true) :
    (db'.findingObservations.get o).isSome = true := by
  rw [(run_updated h).observations]
  cases (u.emitted db).find? fun f => (u.generationId, f.key) = o with
  | none => exact ho
  | some f => rfl

theorem emission_observed (h : u.run db = .ok db') (hf : f ∈ u.emitted db) :
    (db'.findingObservations.get (u.generationId, f.key)).isSome = true := by
  rw [(run_updated h).observations]
  cases hfind : (u.emitted db).find? fun f' => (u.generationId, f'.key) = (u.generationId, f.key) with
  | some f' => rfl
  | none => exact absurd (decide_eq_true rfl) (find?_eq_none.mp hfind f hf)

theorem update_observedBy (h : u.run db = .ok db') (hobs : ObservedBy db.findingObservations g)
    (hg : g < u.generationId) (hpos : 0 < u.generationId) : ObservedBy db'.findingObservations u.generationId := by
  intro o ho
  have hget := Table.get_of_mem ho
  rw [(run_updated h).observations] at hget
  cases hfind : (u.emitted db).find? fun f => (u.generationId, f.key) = o.pk with
  | none =>
    rw [hfind] at hget
    have := hobs o (Table.mem_of_get hget)
    omega
  | some f =>
    have hpk := find?_some hfind
    rw [decide_eq_true_eq] at hpk
    have hgen : u.generationId = o.generationId := congrArg Prod.fst hpk
    omega

variable {rfc3339 : String → Except String Int}

theorem Watched.observedBy (h : Watched rfc3339 hist db) (hg : ∀ p ∈ hist.head?, p.1.generationId ≤ g) :
    ObservedBy db.findingObservations g := by
  induction h generalizing g with
  | start _ hobs =>
    intro o ho
    rw [hobs] at ho
    cases ho
  | @update hist db db' hprev u hnew hpos h ih =>
    have hu := update_observedBy h (ih (g := u.generationId - 1) fun p hp =>
      by have := hnew p hp; omega) (by omega) hpos
    have hle := hg _ rfl
    intro o ho
    have := hu o ho
    exact ⟨this.1, Int.le_trans this.2 hle⟩
  | between _ _ _ hnew ih =>
    intro o ho
    rcases hnew o ho with hold | ⟨hpos, p, hp, hle⟩
    · exact ih hg o hold
    · exact ⟨hpos, Int.le_trans hle (hg p hp)⟩

/-- What was emitted in a run is still on record. -/
theorem Watched.emitted (h : Watched rfc3339 hist db) {p : Generation} (hp : p ∈ hist) {k : FindingId}
    (hem : p.emits k = true) : (db.findingObservations.get (p.1.generationId, k.key)).isSome = true := by
  induction h with
  | start => cases hp
  | update _ u _ _ h ih =>
    rcases mem_cons.mp hp with rfl | hp
    · obtain ⟨f, hf, rfl⟩ := List.mem_map.mp (of_decide_eq_true hem)
      exact emission_observed h hf
    · exact update_observed h (ih hp)
  | between _ _ hkept _ ih => exact hkept _ (ih hp)

/-! ## Gaps in a finding's own life -/

/-- The streak an emission is given, from the row before it. -/
def streakAt (u : UpdateCall) (db : Db) (f : Finding) : Int :=
  (db.warningState.get f.id).elim 1 (caseConsecutive · u.generationId f.ruleHash)

/-- The generation an emission was first seen in, from the row before it. -/
def firstSeenAt (u : UpdateCall) (db : Db) (f : Finding) : Int :=
  (db.warningState.get f.id).elim u.generationId (·.firstSeenGen)

/-- The unseen generations of the window since an emission was first seen. -/
def gapsSince (u : UpdateCall) (db : Db) (f : Finding) : Nat :=
  unseen db.findingObservations f.key (max (windowStart u.generationId) (firstSeenAt u db f)) (u.generationId - 1)

/-- Those of the window before it was first seen. -/
def gapsBefore (u : UpdateCall) (db : Db) (f : Finding) : Nat :=
  unseen db.findingObservations f.key (windowStart u.generationId) (min (u.generationId - 1) (firstSeenAt u db f - 1))

theorem unseen_update (h : u.run db = .ok db') (hf : f ∈ u.emitted db) (lo : Int) :
    unseen db'.findingObservations f.key lo u.generationId =
      unseen db.findingObservations f.key lo (u.generationId - 1) := by
  have hseen : (db'.findingObservations.get (u.generationId, f.key)).isNone = false := by
    rw [Option.isNone_eq_false_iff]
    exact emission_observed h hf
  rw [unseen_pred hseen]
  refine unseen_congr fun n _ hn => ?_
  rw [(run_updated h).observations]
  have hnone : (u.emitted db).find? (fun f' => (u.generationId, f'.key) = (n, f.key)) = none := by
    refine find?_eq_none.mpr fun f' _ e => ?_
    have := congrArg Prod.fst (of_decide_eq_true e)
    have hgen : u.generationId = n := this
    omega
  rw [hnone]
  rfl

theorem firstSeenGen_emittedRow (c : Cycle) (prev : Option WarningRow) (f : Finding) :
    (emittedRow c prev f).firstSeenGen = prev.elim c.generationId (·.firstSeenGen) := by
  cases prev <;> rfl

/-- An emission is called flickering only for two gaps since it was first seen, and never
    when it has been steady, exactly where its streak is short, it has two such gaps, or the
    gaps before it was first seen do not make up two with its own. -/
theorem flickering_gaps_iff {hist : List Generation} {u : UpdateCall} {db db' : Db}
    (h : Watched rfc3339 ((u, db) :: hist) db') (hrun : u.run db = .ok db')
    {f : Finding} (hf : f ∈ u.emitted db) {r : WarningRow}
    (hr : db'.warningState.get f.id = some r) :
    ((r.stability = some .flickering →
        2 ≤ unseen db'.findingObservations f.key (max (windowStart u.generationId) r.firstSeenGen) u.generationId) ∧
      (Steady f.id r.firstSeenGen ((u, db) :: hist) → r.stability = some .new ∨ r.stability = some .stable)) ↔
    streakAt u db f < 10 ∨ 2 ≤ gapsSince u db f ∨ gapsBefore u db f + gapsSince u db f < 2 := by
  have hobs := h.observedBy (g := u.generationId) fun p hp => by cases hp; exact Int.le_refl _
  have hpos : 0 < u.generationId := by
    obtain ⟨o, ho⟩ := Option.isSome_iff_exists.mp (emission_observed hrun hf)
    have hpk : o.pk = (u.generationId, f.key) := Table.key_of_get ho
    have hgen : o.generationId = u.generationId := congrArg Prod.fst hpk
    have := (hobs o (Table.mem_of_get ho)).1
    omega
  -- the row's own columns, from the row before
  obtain ⟨s, hs⟩ := (run_updated hrun).emitted f hf
  have hcore := finish_core (hs.symm.trans hr)
  have hfirst : r.firstSeenGen = firstSeenAt u db f :=
    (congrArg (·.firstSeenGen) hcore).trans (firstSeenGen_emittedRow _ _ _)
  have hstreak : r.consecutiveGens = streakAt u db f :=
    (congrArg (·.consecutiveGens) hcore).trans (consecutiveGens_emittedRow _ _ _)
  have hstored := emitted_stability hrun hf hr
  have hflick := flickering_iff hpos hobs f.key r.consecutiveGens
  have hown : unseen db'.findingObservations f.key (max (windowStart u.generationId) r.firstSeenGen) u.generationId =
      gapsSince u db f := by
    rw [unseen_update hrun hf, hfirst]
    rfl
  have hall : unseen db'.findingObservations f.key (windowStart u.generationId) u.generationId =
      gapsBefore u db f + gapsSince u db f := by
    rw [unseen_update hrun hf, unseen_split _ _ _ _ (firstSeenAt u db f)]
    rfl
  have hsteady : Steady f.id r.firstSeenGen ((u, db) :: hist) → gapsSince u db f = 0 := by
    intro hst
    rw [← hown, unseen, Finset.card_eq_zero, Finset.filter_eq_empty_iff]
    intro n hn
    rw [Finset.mem_Icc] at hn
    obtain ⟨p, hp, hgen, hem⟩ := hst n (by omega) fun p hp => by cases hp; exact hn.2
    have hseen := h.emitted hp hem
    rw [hgen] at hseen
    rw [Option.isNone_iff_eq_none]
    intro hnone
    have hkey : f.key = f.id.key := rfl
    rw [← hkey, hnone] at hseen
    cases hseen
  rw [hstored, hown]
  rw [hall, hstreak] at hflick
  rw [hstreak]
  simp only [Option.some.injEq]
  constructor
  · rintro ⟨honly, -⟩
    by_contra hcond
    have := honly (hflick.mpr (by omega))
    omega
  · intro hcond
    refine ⟨fun hst => by have := hflick.mp hst; omega, fun hst => ?_⟩
    have hzero := hsteady hst
    rcases stabilityOf_cases db'.findingObservations u.generationId f.key (streakAt u db f) with hs | hs | hs
    · exact .inl hs
    · exact .inr hs
    · have := hflick.mp hs
      omega

/-! ## Traces -/

/-- A replayed trace of rising generations, as a run. -/
theorem watched_of_replay : ∀ {hist : List Generation} {db db' : Db}, Watched rfc3339 hist db →
    (∀ u ∈ us, 0 < u.generationId) →
    ((hist.head?.map (·.1.generationId)).toList ++ us.map (·.generationId)).IsChain (· < ·) →
    replay db us = .ok db' → ∃ hist', Watched rfc3339 (hist' ++ hist) db' ∧ hist'.map Prod.fst = us.reverse := by
  induction us with
  | nil => intro hist db db' hw _ _ h; cases h; exact ⟨[], hw, rfl⟩
  | cons u us ih =>
    intro hist db db' hw hpos hchain h
    unfold replay at h
    rw [foldlM_cons] at h
    obtain ⟨db₁, h₁, h₂⟩ := Sql.bind_ok.mp h
    have hw₁ : Watched rfc3339 ((u, db) :: hist) db₁ := by
      refine .update hw u ?_ (hpos u (by simp)) h₁
      intro p hp
      rw [Option.mem_def] at hp
      rw [hp] at hchain
      exact (isChain_cons_cons.mp hchain).1
    have hchain₁ : (u.generationId :: us.map (·.generationId)).IsChain (· < ·) := by
      cases hh : hist.head? with
      | none => rw [hh] at hchain; exact hchain
      | some p => rw [hh] at hchain; exact (isChain_cons_cons.mp hchain).2
    obtain ⟨hist', hw', hmap⟩ := ih hw₁ (fun u' hu' => hpos u' (mem_cons_of_mem _ hu')) hchain₁ h₂
    exact ⟨hist' ++ [(u, db)], by simpa using hw', by simp [hmap]⟩

/-- One more call on a replayed trace. -/
theorem watched_snoc (hw : Watched rfc3339 hist db) (hcalls : hist.map Prod.fst = us.reverse)
    (hnew : ∀ v ∈ us.getLast?, v.generationId < u.generationId)
    (hpos : 0 < u.generationId) (hrun : u.run db = .ok db') :
    Watched rfc3339 ((u, db) :: hist) db' := by
  refine .update hw u ?_ hpos hrun
  intro p hp
  refine hnew p.1 ?_
  rw [Option.mem_def] at hp
  rw [Option.mem_def, ← head?_reverse, ← hcalls, head?_map, hp, Option.map_some]

theorem strayCall_emits (g : Int) (db : Db) : strayFinding ∈ (strayCall g).emitted db :=
  mem_append_left _ (mem_singleton_self _)

/-- The stray finding is steady where each generation from the first on has a call with it. -/
theorem steady_of_calls {first last : Int} (hcalls : hist.map Prod.fst = us.reverse)
    (hus : ∀ n, first ≤ n → n < last → strayCall n ∈ us) :
    Steady strayFinding.id first ((strayCall last, db) :: hist) := by
  have hemits : ∀ g db, Generation.emits (strayCall g, db) strayFinding.id = true := fun g db =>
    decide_eq_true (mem_map_of_mem (strayCall_emits g db))
  intro n hn hle
  have hlast : n ≤ last := hle _ rfl
  rcases Int.lt_or_eq_of_le hlast with hlt | rfl
  · have hcall := mem_reverse.mpr (hus n hn hlt)
    rw [← hcalls] at hcall
    obtain ⟨⟨u, db₀⟩, hp, rfl⟩ := List.mem_map.mp hcall
    exact ⟨_, mem_cons_of_mem _ hp, rfl, hemits n db₀⟩
  · exact ⟨_, mem_cons_self, rfl, hemits n db⟩

/-- Nothing for one generation, then one finding in each of nine. -/
def steadyNine : List UpdateCall :=
  [quietCall 1, strayCall 2, strayCall 3, strayCall 4, strayCall 5, strayCall 6, strayCall 7, strayCall 8, strayCall 9,
   strayCall 10]

/-- In its tenth generation the window is counted, and the one before the finding is not enough. -/
theorem a_tenth_emission_is_stable : ∃ hist db db' r, Watched (fun _ => .error "") ((strayCall 11, db) :: hist) db' ∧
    (strayCall 11).run db = .ok db' ∧ db'.warningState.get strayFinding.id = some r ∧
      streakAt (strayCall 11) db strayFinding = 10 ∧ (r.stability = some .new ∨ r.stability = some .stable) := by
  have h : (replay (Db.published 11) steadyNine).toOption.bind (fun db =>
    ((strayCall 11).run db).toOption.bind fun db' =>
      (db'.warningState.get strayFinding.id).map fun r => (r.firstSeenGen, streakAt (strayCall 11) db strayFinding,
        decide (gapsBefore (strayCall 11) db strayFinding + gapsSince (strayCall 11) db strayFinding < 2))) =
      some (2, 10, true) := by decide +kernel
  obtain ⟨db, hreplay, h⟩ := Option.bind_eq_some_iff.mp h
  obtain ⟨db', hrun, h⟩ := Option.bind_eq_some_iff.mp h
  obtain ⟨r, hr, hread⟩ := Option.map_eq_some_iff.mp h
  simp only [Prod.mk.injEq, decide_eq_true_eq] at hread
  obtain ⟨hfirst, hstreak, hgaps⟩ := hread
  have hrun := Sql.toOption_eq_some.mp hrun
  obtain ⟨hist, hw, hcalls⟩ :=
    watched_of_replay (.start rfl rfl) (by decide) (by decide) (Sql.toOption_eq_some.mp hreplay)
  rw [append_nil] at hw
  have hwatched := watched_snoc (u := strayCall 11) hw hcalls (by decide) (by decide) hrun
  have hsteady : Steady strayFinding.id r.firstSeenGen ((strayCall 11, db) :: hist) := by
    rw [hfirst]
    refine steady_of_calls hcalls fun n hn hlt => ?_
    interval_cases n <;> simp [steadyNine]
  have hgood := (flickering_gaps_iff hwatched hrun (strayCall_emits 11 db) hr).mpr (.inr (.inr hgaps))
  exact ⟨hist, db, db', r, hwatched, hrun, hr, hstreak, hgood.2 hsteady⟩

/-- Nothing for two generations, then one finding in each of ten. -/
def steadyTen : List UpdateCall :=
  [quietCall 1, quietCall 2, strayCall 3, strayCall 4, strayCall 5, strayCall 6, strayCall 7, strayCall 8, strayCall 9,
   strayCall 10, strayCall 11]

/-- A finding emitted in every generation since it was first seen, in its tenth. -/
theorem a_steady_finding_flickers : ∃ hist db db' r, Watched (fun _ => .error "") ((strayCall 12, db) :: hist) db' ∧
    (strayCall 12).run db = .ok db' ∧ strayFinding ∈ (strayCall 12).emitted db ∧
    db'.warningState.get strayFinding.id = some r ∧ r.firstSeenGen = 3 ∧
    Steady strayFinding.id r.firstSeenGen ((strayCall 12, db) :: hist) ∧ r.stability = some .flickering := by
  have h : (replay (Db.published 12) steadyTen).toOption.bind (fun db => ((strayCall 12).run db).toOption.map fun db' =>
      (db'.warningState.get strayFinding.id).map fun r => (r.firstSeenGen, r.stability)) =
      some (some (3, some .flickering)) := by decide +kernel
  obtain ⟨db, hreplay, h⟩ := Option.bind_eq_some_iff.mp h
  obtain ⟨db', hrun, hread⟩ := Sql.ok_of_toOption h
  obtain ⟨r, hr, hcols⟩ := Option.map_eq_some_iff.mp hread
  obtain ⟨hfirst, hflick⟩ := Prod.mk.inj hcols
  obtain ⟨hist, hw, hcalls⟩ := watched_of_replay (.start rfl rfl) (by decide) (by decide)
    (Sql.toOption_eq_some.mp hreplay)
  rw [append_nil] at hw
  refine ⟨hist, db, db', r, watched_snoc hw hcalls (by decide) (by decide) hrun,
    hrun, strayCall_emits 12 db, hr, hfirst, ?_, hflick⟩
  rw [hfirst]
  refine steady_of_calls hcalls fun n hn hlt => ?_
  interval_cases n <;> simp [steadyTen]

end Nq
