/-
  Nq.Lifecycle.Collector — what the entity collector counts (`publish.rs`,
  `update_warning_state_inner`, entity GC).

  The collector advances `entity_gone_gens` where a host is in none of four tables, and resets it
  where the host is in one of two of them. Its count is one of consecutive generations in the
  runs where a host that is counted never shows in the other two alone (`Resets`).

  - `gone_le`: in those runs the count is at most that of the newest generations of the row that
    were observed and without the host.
  - `collected_after_eleven_absences`: so a row that is deleted was observed without its host in
    eleven generations in a row.
  - `metrics_do_not_reset_the_count`.
-/

import Nq.Lifecycle.Hysteresis
import Nq.Lifecycle.Persistence

namespace Nq

open List hiding le_refl
open Sql (Table)

/-! ## What the collector meets -/

/-- The table after the collector. -/
def UpdateCall.afterCollection (u : UpdateCall) (db : Db) : WarningState :=
  (collectEntities (expireWorkStates u.clock.lifecycle { db with warningState := u.afterRecovery db })).warningState

/-- The collector deletes the row of `k`. -/
def UpdateCall.collects (u : UpdateCall) (db : Db) (k : FindingId) : Prop :=
  ((u.afterRecovery db).get k).isSome = true ∧ (u.afterCollection db).get k = none

namespace Generation

variable (p : Generation) (k : FindingId)

/-- The collector meets the row of `k`, and it is observed. -/
def observes : Bool := ((p.1.afterRecovery p.2).get k).any fun r => r.visibilityState = .observed

/-- The row of `k` is there after the collector. -/
def keeps : Bool := ((p.1.afterCollection p.2).get k).isSome

/-- The host of `k` is in one of the four tables. -/
def knows : Bool := k.host ∈ p.2.knownHosts

/-- A host with a count that is in one of the four tables is in one of the two the collector resets by. -/
def Resets : Prop :=
  ∀ r ∈ p.2.warningState.rows, r.entityGoneGens ≠ 0 → r.host ∈ p.2.knownHosts → r.host ∈ p.2.presentHosts

instance : Decidable p.Resets := inferInstanceAs (Decidable (∀ _ ∈ _, _))

end Generation

/-- The generations of a row that was there after each of them, in which it was observed. -/
def seenSince (k : FindingId) (hist : List Generation) : List Generation :=
  (hist.takeWhile (·.keeps k)).filter (·.observes k)

/-- The collector deletes a row after eleven generations in a row that observed it without its host, and a generation
    with the host ends the count. `older` are the generations before `p`. -/
structure CountsAbsence (k : FindingId) (p : Generation) (older : List Generation) : Prop where
  collected : p.1.collects p.2 k → p.observes k = true ∧ 10 ≤ (seenSince k older).length ∧
    ∀ q ∈ p :: (seenSince k older).take 10, q.knows k = false
  reset : p.knows k = true → ∀ r, (p.1.afterCollection p.2).get k = some r → r.entityGoneGens = 0

/-! ## One generation -/

section

variable {u : UpdateCall} {db db' : Db} {k : FindingId}

theorem get_afterCollection : (u.afterCollection db).get k =
    (((u.afterRecovery db).get k).map (·.expireWork u.clock.lifecycle)).bind
      (collected db.knownHosts db.presentHosts) := by
  unfold UpdateCall.afterCollection
  rw [get_collectEntities, get_expireWorkStates]
  rfl

variable {r r' : WarningRow} {now : String}

/-- The recovery loop leaves the count of a row, and starts that of a new one at zero. -/
theorem gone_afterRecovery (h : u.run db = .ok db') (hr : (u.afterRecovery db).get k = some r) :
    r.entityGoneGens = (db.warningState.get k).elim 0 WarningRow.entityGoneGens := by
  have hem := emission_atMasking h
  unfold UpdateCall.afterRecovery at hr
  rw [hem.get_recover] at hr
  by_cases hk : k ∈ u.emittedIds db
  · obtain ⟨f, hf, rfl⟩ := List.mem_map.mp hk
    obtain ⟨s, hs⟩ := hem.emitted f hf
    simp only [hs, hk, if_true, Option.bind_some, Option.some.injEq] at hr
    rw [← hr]
    exact entityGoneGens_emittedRow _ _ _
  · rw [hem.absent k hk] at hr
    obtain ⟨r₀, hr₀, hsettle⟩ := Option.bind_eq_some_iff.mp hr
    rw [if_neg hk] at hsettle
    rw [hr₀]
    unfold UpdateCall.settle at hsettle
    split at hsettle
    · cases hsettle
      rfl
    · split at hsettle
      · cases hsettle
      · cases hsettle
        rfl

theorem collected_eq (h : collected db.knownHosts db.presentHosts (r.expireWork now) = some r') :
    r'.entityGoneGens = db.goneAfter r ∧ db.goneAfter r ≤ entityGcThreshold := by
  unfold collected at h
  simp only [entityGoneGens_collected, goneAfter_expireWork] at h
  split at h
  · cases h
  · cases h
    rw [entityGoneGens_collected, goneAfter_expireWork]
    exact ⟨rfl, by omega⟩

theorem collected_eq_none :
    collected db.knownHosts db.presentHosts (r.expireWork now) = none ↔ entityGcThreshold < db.goneAfter r := by
  unfold collected
  simp only [entityGoneGens_collected, goneAfter_expireWork]
  split
  · exact ⟨fun _ => by omega, fun _ => rfl⟩
  · exact ⟨fun h => (nomatch h), fun h => by omega⟩

/-- What the update leaves has passed the collector. -/
theorem get_run (h : u.run db = .ok db') (hr' : db'.warningState.get k = some r') :
    ∃ r, (u.afterCollection db).get k = some r ∧ r.entityGoneGens = r'.entityGoneGens := by
  obtain ⟨_, db₁, h₁, rfl⟩ := run_eq_ok.mp h
  have hrec := recordFindings_recorded h₁
  have hmask : (setStabilities (u.cycle db) db₁ (u.emitted db)).warningState = u.atMasking db := by
    unfold UpdateCall.atMasking
    rw [h₁]
  rw [get_afterRecording hrec, hmask] at hr'
  have hmet : (u.afterRecovery db).get k =
      ((u.atMasking db).get k).bind fun r => if k ∈ u.emittedIds db then some r else u.settle db r :=
    (emission_atMasking h).get_recover k
  obtain ⟨r₀, hr₀, hrest⟩ := Option.bind_eq_some_iff.mp hr'
  obtain ⟨r, hr, hfin⟩ := Option.bind_eq_some_iff.mp hrest
  rw [hr₀, Option.bind_some, hr] at hmet
  obtain ⟨r₁, hr₁, _⟩ :=
    Option.map_eq_some_iff.mp (show (collected db.knownHosts db.presentHosts _).map _ = some r' from hfin)
  refine ⟨r₁, by rw [get_afterCollection, hmet]; exact hr₁, ?_⟩
  rw [(collected_eq hr₁).1, finish_gone hfin]

end

/-! ## The count -/

/-- The newest generations of a row that observed it without its host. -/
def absentSince (k : FindingId) (hist : List Generation) : List Generation :=
  (seenSince k hist).takeWhile fun p => !p.knows k

theorem mem_take_of_takeWhile {α : Type} {P : α → Bool} {n : Nat} : ∀ {l : List α}, n ≤ (l.takeWhile P).length →
    ∀ x ∈ l.take n, P x = true := by
  intro l h x hx
  have htake : l.take n = (l.takeWhile P).take n := by
    obtain ⟨rest, hrest⟩ := takeWhile_prefix P (l := l)
    conv_lhs => rw [← hrest]
    rw [take_append_of_le_length h]
  rw [htake] at hx
  exact all_eq_true.mp (all_takeWhile ..) x (mem_of_mem_take hx)

variable {hist : List Generation}

theorem seenSince_cons {k : FindingId} {p : Generation} (h : p.keeps k = true) :
    seenSince k (p :: hist) = if p.observes k then p :: seenSince k hist else seenSince k hist := by
  unfold seenSince
  rw [takeWhile_cons_of_pos (p := fun q : Generation => q.keeps k) h, filter_cons]

/-- The count of a row is bounded by its absences, and a row without a host has none. -/
structure GoneInv (k : FindingId) (hist : List Generation) (gone : Int) : Prop where
  count : 0 ≤ gone ∧ gone ≤ (absentSince k hist).length
  host : k.host = "" → gone = 0

section

variable {u : UpdateCall} {db db' : Db} {k : FindingId} {older : List Generation} {r : WarningRow}

theorem resets_at (hresets : Generation.Resets (u, db)) (hr : db.warningState.get k = some r)
    (hg : r.entityGoneGens ≠ 0) (hk : k.host ∈ db.knownHosts) : k.host ∈ db.presentHosts := by
  have hid : r.id = k := Table.key_of_get hr
  subst hid
  exact hresets r (Table.mem_of_get hr) hg hk

/-- One generation, on the row the collector meets. -/
theorem goneAfter_inv (hrun : u.run db = .ok db') (hresets : Generation.Resets (u, db))
    (hinv : GoneInv k older ((db.warningState.get k).elim 0 WarningRow.entityGoneGens))
    (hr : (u.afterRecovery db).get k = some r) :
    (k.host ∈ db.knownHosts → db.goneAfter r = 0) ∧
    (k.host ∉ db.knownHosts → r.visibilityState = .observed → k.host ≠ "" → db.goneAfter r = r.entityGoneGens + 1) ∧
    ((k.host = "" ∨ r.visibilityState ≠ .observed) → k.host ∉ db.knownHosts → db.goneAfter r = r.entityGoneGens) := by
  have hgone := gone_afterRecovery hrun hr
  have hhost : r.host = k.host := congrArg FindingId.host (Table.key_of_get hr)
  have hsub : k.host ∉ db.knownHosts → k.host ∉ db.presentHosts := by
    intro hk hp
    unfold Db.presentHosts at hp
    unfold Db.knownHosts at hk
    rw [append_assoc] at hk
    exact hk (mem_append_left _ hp)
  unfold Db.goneAfter
  rw [hhost]
  refine ⟨fun hk => ?_, fun hk hv hne => ?_, fun hv hk => ?_⟩
  · by_cases hp : k.host ≠ "" ∧ k.host ∈ db.presentHosts
    · rw [if_pos hp]
    · rw [if_neg hp, if_neg fun h => h.2.2 hk, hgone]
      by_contra hne
      cases hget : db.warningState.get k with
      | none => exact hne (by rw [hget]; rfl)
      | some r₀ =>
        rw [hget] at hne hinv
        exact hp ⟨fun e => hne (hinv.host e), resets_at hresets hget hne hk⟩
  · rw [if_neg fun h => hsub hk h.2, if_pos ⟨hne, hv, hk⟩]
  · rw [if_neg fun h => hsub hk h.2, if_neg ?_]
    rintro ⟨hne, hobs, _⟩
    rcases hv with h | h
    · exact hne h
    · exact h hobs

theorem goneInv_update (hrun : u.run db = .ok db') (hresets : Generation.Resets (u, db))
    (hinv : GoneInv k older ((db.warningState.get k).elim 0 WarningRow.entityGoneGens)) :
    GoneInv k ((u, db) :: older) ((db'.warningState.get k).elim 0 WarningRow.entityGoneGens) := by
  cases hget : db'.warningState.get k with
  | none => exact ⟨⟨le_refl _, Int.natCast_nonneg _⟩, fun _ => rfl⟩
  | some r' =>
    obtain ⟨r₁, hr₁, hsame⟩ := get_run hrun hget
    have hkeeps : Generation.keeps (u, db) k = true := by
      unfold Generation.keeps
      rw [hr₁]
      rfl
    rw [get_afterCollection] at hr₁
    obtain ⟨e, he, hcollected⟩ := Option.bind_eq_some_iff.mp hr₁
    obtain ⟨r, hr, rfl⟩ := Option.map_eq_some_iff.mp he
    obtain ⟨hknown, habsent, hquiet⟩ := goneAfter_inv hrun hresets hinv hr
    have hgone := gone_afterRecovery hrun hr
    have hvalue : r'.entityGoneGens = db.goneAfter r := hsame.symm.trans (collected_eq hcollected).1
    have hobserves : Generation.observes (u, db) k = decide (r.visibilityState = .observed) := by
      unfold Generation.observes
      rw [hr]
      rfl
    have hcount := hinv.count
    rw [← hgone] at hcount
    show GoneInv k ((u, db) :: older) r'.entityGoneGens
    rw [hvalue]
    by_cases hk : k.host ∈ db.knownHosts
    · rw [hknown hk]
      exact ⟨⟨le_refl _, Int.natCast_nonneg _⟩, fun _ => rfl⟩
    · have hknows : Generation.knows (u, db) k = false := decide_eq_false hk
      by_cases hv : r.visibilityState = .observed
      · have habsents : absentSince k ((u, db) :: older) = (u, db) :: absentSince k older := by
          unfold absentSince
          rw [seenSince_cons hkeeps, hobserves, if_pos (by simp [hv]), takeWhile_cons_of_pos (by simp [hknows])]
        by_cases hne : k.host = ""
        · have hzero : r.entityGoneGens = 0 := by rw [hgone]; exact hinv.host hne
          rw [hquiet (Or.inl hne) hk, hzero]
          exact ⟨⟨le_refl _, Int.natCast_nonneg _⟩, fun _ => rfl⟩
        · rw [habsent hk hv hne]
          refine ⟨⟨by omega, ?_⟩, fun h => absurd h hne⟩
          rw [habsents, length_cons]
          push_cast
          omega
      · have habsents : absentSince k ((u, db) :: older) = absentSince k older := by
          unfold absentSince
          rw [seenSince_cons hkeeps, hobserves, if_neg (by simp [hv])]
        rw [hquiet (Or.inr hv) hk]
        exact ⟨by rw [habsents]; exact hcount, fun h => by rw [hgone]; exact hinv.host h⟩

end

/-! ## Runs -/

variable {rfc3339 : String → Except String Int}

theorem gone_le {db : Db} (h : Lives rfc3339 hist db) (hresets : ∀ p ∈ hist, p.Resets) (k : FindingId) :
    GoneInv k hist ((db.warningState.get k).elim 0 WarningRow.entityGoneGens) := by
  induction h with
  | start h =>
    rw [h]
    exact ⟨⟨le_refl _, Int.natCast_nonneg _⟩, fun _ => rfl⟩
  | update _ u hrun ih =>
    exact goneInv_update hrun (hresets _ (by simp)) (ih fun p hp => hresets p (mem_cons_of_mem _ hp))
  | @between hist db db' _ hb ih =>
    have hsame : (db'.warningState.get k).elim 0 WarningRow.entityGoneGens =
        (db.warningState.get k).elim 0 WarningRow.entityGoneGens := by
      have hcounters := congrArg Prod.snd (hb.counters k).1
      cases hget : db.warningState.get k with
      | none =>
        cases hget' : db'.warningState.get k with
        | none => rfl
        | some r' => rw [hget, hget'] at hcounters; exact hcounters
      | some r =>
        cases hget' : db'.warningState.get k <;> (rw [hget, hget'] at hcounters; exact hcounters)
    rw [hsame]
    exact ih hresets

/-- A generation of a run ran on a database of the run, the older ones behind it. -/
theorem Lives.before {db : Db} (h : Lives rfc3339 hist db) {p : Generation} {older : List Generation}
    (hp : (p :: older) <:+ hist) : Lives rfc3339 older p.2 ∧ ∃ db', p.1.run p.2 = .ok db' := by
  induction h with
  | start => exact absurd hp (by simp)
  | @update hist db db' hprev u hrun ih =>
    rcases suffix_cons_iff.mp hp with e | hp
    · obtain ⟨rfl, rfl⟩ := List.cons.inj e
      exact ⟨hprev, db', hrun⟩
    · exact ih hp
  | between _ _ ih => exact ih hp

/-- In every run whose counted hosts come back in hosts or services, the collector counts generations in a row. -/
theorem collected_after_eleven_absences {hist : List Generation} {db : Db} (h : Lives rfc3339 hist db)
    (hresets : ∀ p ∈ hist, p.Resets) (k : FindingId) (p : Generation)
    (older : List Generation) (hp : (p :: older) <:+ hist) :
    CountsAbsence k p older := by
  obtain ⟨u, db₀⟩ := p
  obtain ⟨hlives, db', hrun⟩ := h.before hp
  have hmem : ∀ q ∈ (u, db₀) :: older, q ∈ hist := fun q hq => hp.subset hq
  have hinv := gone_le hlives (fun q hq => hresets q (hmem q (mem_cons_of_mem _ hq))) k
  have hthreshold : entityGcThreshold = 10 := rfl
  constructor
  · intro hcollects
    obtain ⟨hsome, hnone⟩ := hcollects
    obtain ⟨r, hr⟩ := Option.isSome_iff_exists.mp hsome
    rw [get_afterCollection, hr] at hnone
    have hmore := collected_eq_none.mp hnone
    obtain ⟨hknown, habsent, hquiet⟩ := goneAfter_inv hrun (hresets _ (hmem _ mem_cons_self)) hinv hr
    have hgone := gone_afterRecovery hrun hr
    have hle : r.entityGoneGens ≤ entityGcThreshold := by
      rw [hgone]
      cases hget : db₀.warningState.get k with
      | none => decide
      | some r₀ => exact (reach_rowInv hlives.reach k r₀ hget).gone
    have hk : k.host ∉ db₀.knownHosts := fun hk => by rw [hknown hk] at hmore; omega
    have hv : r.visibilityState = .observed := by
      by_contra hv
      rw [hquiet (Or.inr hv) hk] at hmore
      omega
    have hne : k.host ≠ "" := by
      intro hne
      rw [hquiet (Or.inl hne) hk] at hmore
      omega
    rw [habsent hk hv hne] at hmore
    have hten : 10 ≤ (absentSince k older).length := by
      have := hinv.count.2
      rw [← hgone] at this
      omega
    have hobserves : Generation.observes (u, db₀) k = true := by
      unfold Generation.observes
      rw [hr]
      exact decide_eq_true hv
    refine ⟨hobserves, hten.trans (List.takeWhile_prefix _).length_le, ?_⟩
    intro q hq
    rcases mem_cons.mp hq with rfl | hq
    · exact decide_eq_false hk
    · have := mem_take_of_takeWhile hten q hq
      simpa using this
  · intro hknows r hr
    rw [get_afterCollection] at hr
    obtain ⟨e, he, hcollected⟩ := Option.bind_eq_some_iff.mp hr
    obtain ⟨r₀, hr₀, rfl⟩ := Option.map_eq_some_iff.mp he
    have hknown := (goneAfter_inv hrun (hresets _ (hmem _ mem_cons_self)) hinv hr₀).1
    rw [(collected_eq hcollected).1]
    exact hknown (of_decide_eq_true hknows)

/-! ## A host that reports metrics -/

/-- The database with a metric of the stray finding's host, or without. -/
def Db.metered (metered : Bool) (db : Db) : Db :=
  { db with metricsCurrent := if metered then ⟨[⟨"db-1", ⟨1, .fin 0⟩, 1, ""⟩], by decide⟩ else .empty }

/-- The updates of a trace, each after the metrics were written. -/
def meteredTrace (db : Db) : List (UpdateCall × Bool) → Option (List Generation × Db)
  | [] => some ([], db)
  | (u, metered) :: before => do
    let (hist, db) ← meteredTrace db before
    let db' ← (u.run (db.metered metered)).toOption
    return ((u, db.metered metered) :: hist, db')

theorem lives_meteredTrace {db : Db} (hdb : db.warningState = .empty) :
    ∀ {steps : List (UpdateCall × Bool)} {hist : List Generation}
    {db' : Db}, meteredTrace db steps = some (hist, db') → Lives rfc3339 hist db' := by
  intro steps
  induction steps with
  | nil =>
    intro hist db' h
    cases h
    exact .start hdb
  | cons step before ih =>
    intro hist db' h
    obtain ⟨u, metered⟩ := step
    obtain ⟨⟨hist₀, db₀⟩, h₀, h⟩ := Option.bind_eq_some_iff.mp h
    obtain ⟨db₁, h₁, h⟩ := Option.bind_eq_some_iff.mp h
    cases h
    have hwritten : Between rfc3339 db₀ (db₀.metered metered) := .elsewhere rfl
    exact .update (.between (ih h₀) hwritten) u (Sql.toOption_eq_some.mp h₁)

/-- Twelve generations of the stray finding, newest first, its host reporting metrics in the sixth. -/
def meteredSteps : List (UpdateCall × Bool) := (List.range 12).reverse.map fun i : Nat => (strayCall (i + 1), i = 5)

/-- A host that reports metrics keeps its count: the row is deleted six generations later. -/
theorem metrics_do_not_reset_the_count : ∃ hist db k p older, Lives (fun _ => .error "") hist db ∧
    (p :: older) <:+ hist ∧
    p.1.collects p.2 k ∧ (∃ q ∈ (seenSince k older).take 10, q.knows k = true) ∧ ¬CountsAbsence k p older := by
  have h : ((meteredTrace (Db.published 12) meteredSteps).bind fun x => x.1.head?.map fun p =>
      (((p.1.afterRecovery p.2).get strayFinding.id).isSome && ((p.1.afterCollection p.2).get strayFinding.id).isNone,
        ((seenSince strayFinding.id x.1.tail).take 10).any (·.knows strayFinding.id))) = some (true, true) := by
    decide +kernel
  obtain ⟨⟨hist, db⟩, htrace, h⟩ := Option.bind_eq_some_iff.mp h
  obtain ⟨p, hp, h⟩ := Option.map_eq_some_iff.mp h
  obtain ⟨hgone, hknown⟩ := Prod.mk.inj h
  obtain ⟨older, rfl⟩ : ∃ older, hist = p :: older := head?_eq_some_iff.mp hp
  rw [Bool.and_eq_true, Option.isNone_iff_eq_none] at hgone
  obtain ⟨q, hq, hknows⟩ := any_eq_true.mp hknown
  refine ⟨_, db, strayFinding.id, p, older, lives_meteredTrace rfl htrace,
    suffix_refl _, hgone, ⟨q, hq, hknows⟩, fun hcounts => ?_⟩
  have hunknown := (hcounts.collected hgone).2.2 q (mem_cons_of_mem _ hq)
  rw [hknows] at hunknown
  cases hunknown

/-- Eleven generations of the stray finding, and its host in none of the four tables. -/
theorem an_unknown_host_is_collected : ∃ hist db p older, Lives (fun _ => .error "") hist db ∧ (∀ q ∈ hist, q.Resets) ∧
    hist = p :: older ∧ p.1.collects p.2 strayFinding.id ∧ CountsAbsence strayFinding.id p older := by
  have h : ((meteredTrace (Db.published 11) ((strayCalls 11).reverse.map fun u => (u, false))).bind fun x =>
    x.1.head?.map fun p =>
      (((p.1.afterRecovery p.2).get strayFinding.id).isSome && ((p.1.afterCollection p.2).get strayFinding.id).isNone,
        x.1.all fun q => decide q.Resets)) = some (true, true) := by
    decide +kernel
  obtain ⟨⟨hist, db⟩, htrace, h⟩ := Option.bind_eq_some_iff.mp h
  obtain ⟨p, hp, h⟩ := Option.map_eq_some_iff.mp h
  obtain ⟨hgone, hall⟩ := Prod.mk.inj h
  obtain ⟨older, rfl⟩ : ∃ older, hist = p :: older := head?_eq_some_iff.mp hp
  rw [Bool.and_eq_true, Option.isNone_iff_eq_none] at hgone
  have hresets : ∀ q ∈ p :: older, q.Resets := fun q hq => of_decide_eq_true (all_eq_true.mp hall q hq)
  have hlives : Lives (fun _ => .error "") (p :: older) db := lives_meteredTrace rfl htrace
  exact ⟨_, db, p, older, hlives, hresets, rfl, hgone,
    collected_after_eleven_absences hlives hresets _ _ _ (suffix_refl _)⟩

end Nq
