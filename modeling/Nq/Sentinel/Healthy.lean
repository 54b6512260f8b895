/-
  Nq.Sentinel.Healthy — a healthy monitor under the sentinel's polls.

  `Monitored` is a run: the monitor's writes, each artifact stamped with the instant it is
  put in place, and the instants the sentinel polls at. What a poll reads is the artifact in
  place then (`read_liveness` on a file replaced by rename).

  - `sameGenRun_monitored`: the sentinel's count is the number of polls that read the
    artifact now in place.
  - `stateAt_monitored`: such a poll computes `Stuck` where that number passes
    `stuck_after_polls`, and else what it should.
  - `stuck_iff`: over any readings, a streak of one generation id, however old its stamps.
  - `no_alarm_iff`: what the healthy run needs; `a_quick_poll_alarms`.
-/

import Nq.Sentinel.Watch

namespace Nq.Sentinel

open List
open Preflight (seconds wholeSeconds le_wholeSeconds)

variable {Channel : Type} (rfc3339 : String → Except String Int) (config : SentinelConfig Channel)

/-! ## Stuck, over any readings -/

/-- The stamp reads and its age is within `max_age_seconds`. -/
def Fresh (now : Int) (a : LivenessArtifact) : Prop :=
  ∃ t, rfc3339 a.generatedAt = .ok t ∧ wholeSeconds (now - t) ≤ config.maxAgeSeconds

/-- `generated_at` moved on from `a` to `b`. -/
def Advanced (a b : LivenessArtifact) : Prop :=
  ∃ t u, rfc3339 a.generatedAt = .ok t ∧ rfc3339 b.generatedAt = .ok u ∧ t < u

/-- `Stuck` is computed only where two successful reads `stuck_after_polls` apart carried one
    generation id though the stamp moved on between them. -/
def StuckHonest (polls : List Poll) : Prop := ∀ before p after, polls = before ++ p :: after →
  stateAt rfc3339 config before p = .stuck →
    ∃ first newest, Streak config.stuckAfterPolls (reads (before ++ [p])) first newest ∧ Advanced rfc3339 first newest

variable {before : List Poll} {p : Poll}

theorem stateAt_ok {a : LivenessArtifact} (hp : p.artifact = .ok a) :
    stateAt rfc3339 config before p = match rfc3339 a.generatedAt with
      | .error _ => .malformed
      | .ok t => if config.maxAgeSeconds < wholeSeconds (p.now - t) then .stale
        else if config.stuckAfterPolls ≤ (tracked (before ++ [p])).sameGenRun then .stuck else .healthy := by
  have hgrace : ¬inGrace config p := by
    rintro ⟨-, h⟩
    rw [hp] at h
    cases h
  unfold stateAt stateOf
  rw [if_neg hgrace, tracked_ok hp, hp]
  unfold classify
  cases hstamp : rfc3339 a.generatedAt with
  | error e => simp only [hstamp]
  | ok t => simp only [hstamp, true_and]

theorem stateAt_error_ne_stuck {e : LivenessReadError} (hp : p.artifact = .error e) :
    stateAt rfc3339 config before p ≠ .stuck := by
  unfold stateAt stateOf
  split
  · decide
  · rw [hp]
    cases e <;> simp [classify]

/-- A streak of one generation id is all it takes: the stamps of the earlier reads are not looked at. -/
theorem stuck_iff (hpolls : 0 < config.stuckAfterPolls) :
    stateAt rfc3339 config before p = .stuck ↔ ∃ a, p.artifact = .ok a ∧ Fresh rfc3339 config p.now a ∧
      ∃ first newest, Streak config.stuckAfterPolls (reads (before ++ [p])) first newest := by
  constructor
  · intro h
    cases hp : p.artifact with
    | error e => exact absurd h (stateAt_error_ne_stuck rfc3339 config hp)
    | ok a =>
      rw [stateAt_ok rfc3339 config hp] at h
      cases hstamp : rfc3339 a.generatedAt with
      | error e => simp [hstamp] at h
      | ok t =>
        simp only [hstamp] at h
        split at h
        · cases h
        · rename_i hage
          split at h
          · rename_i hrun
            exact ⟨a, rfl, ⟨t, hstamp, by omega⟩, (le_sameGenRun_iff hpolls _).mp hrun⟩
          · cases h
  · rintro ⟨a, hp, ⟨t, hstamp, hage⟩, hstreak⟩
    rw [stateAt_ok rfc3339 config hp]
    simp only [hstamp]
    rw [if_neg (by omega), if_pos ((le_sameGenRun_iff hpolls _).mpr hstreak)]

/-! ## A healthy monitor -/

structure Write where
  instant : Int
  artifact : LivenessArtifact
  deriving DecidableEq, Repr

/-- The write in place at an instant. -/
def inPlace (writes : List Write) (t : Int) : Option Write := (writes.filter (·.instant ≤ t)).getLast?

def readLiveness (writes : List Write) (t : Int) : Reading :=
  match inPlace writes t with
  | some w => .ok w.artifact
  | none => .error .missing

/-- A poll at an instant, of a sentinel started at `started`. -/
def pollAt (started : Int) (writes : List Write) (t : Int) : Poll := ⟨readLiveness writes t, t, (t - started).toNat⟩

/-- One write after another. -/
def Follows (v w : Write) : Prop :=
  v.artifact.generationId < w.artifact.generationId ∧ v.instant ≤ w.instant ∧
    w.instant - v.instant < seconds config.maxAgeSeconds

/-- A healthy run: the writes of a monitor that goes on past the last poll, and the instants
    a sentinel polls at. -/
structure Monitored (started : Int) (writes : List Write) (polls : List Int) : Prop where
  follows : writes.IsChain (Follows config)
  truthful : ∀ w ∈ writes, rfc3339 w.artifact.generatedAt = .ok w.instant
  first : ∀ w ∈ writes.head?, w.instant ≤ started + seconds config.gracePeriodSeconds
  started : ∀ t ∈ polls, started ≤ t
  interval : polls.IsChain fun t u => t + seconds config.pollIntervalSeconds ≤ u
  writing : ∀ t ∈ polls, ∃ w ∈ writes, t < w.instant

/-- Ids tell the writes apart. -/
abbrev Increasing (writes : List Write) : Prop := writes.Pairwise fun v w =>
  v.artifact.generationId < w.artifact.generationId

section

variable {config} {rfc3339} {started : Int} {writes : List Write} {polls : List Int}

theorem Monitored.increasing (h : Monitored rfc3339 config started writes polls) : Increasing writes :=
  letI : Trans (fun v w : Write => v.artifact.generationId < w.artifact.generationId)
    (fun v w : Write => v.artifact.generationId < w.artifact.generationId)
    (fun v w : Write => v.artifact.generationId < w.artifact.generationId) := ⟨fun h h' => Int.lt_trans h h'⟩
  isChain_iff_pairwise.mp (h.follows.imp fun _ _ hvw => hvw.1)

theorem Monitored.ordered (h : Monitored rfc3339 config started writes polls) :
    writes.Pairwise fun v w => v.instant ≤ w.instant :=
  letI : Trans (fun v w : Write => v.instant ≤ w.instant) (fun v w : Write => v.instant ≤ w.instant)
    (fun v w : Write => v.instant ≤ w.instant) := ⟨fun h h' => Int.le_trans h h'⟩
  isChain_iff_pairwise.mp (h.follows.imp fun _ _ hvw => hvw.2.1)

theorem Monitored.sorted (h : Monitored rfc3339 config started writes polls) : polls.Pairwise fun t u => t ≤ u :=
  isChain_iff_pairwise.mp (h.interval.imp fun t u htu => by
    unfold seconds at htu
    omega)

variable {t : Int} {w : Write} {ts : List Int}

theorem mem_of_inPlace (h : inPlace writes t = some w) : w ∈ writes ∧ w.instant ≤ t := by
  have hmem := mem_of_getLast? h
  rw [mem_filter, decide_eq_true_eq] at hmem
  exact hmem

/-- What is in place later is the same write or a newer one. -/
theorem inPlace_mono (hids : Increasing writes) {u : Int} (htu : t ≤ u) {v : Write} (hv : inPlace writes t = some v) :
    ∃ w, inPlace writes u = some w ∧ (v = w ∨ v.artifact.generationId < w.artifact.generationId) := by
  obtain ⟨hmem, hvt⟩ := mem_of_inPlace hv
  have hin : v ∈ writes.filter (·.instant ≤ u) := mem_filter.mpr ⟨hmem, by simpa using Int.le_trans hvt htu⟩
  obtain ⟨w, hw⟩ : ∃ w, inPlace writes u = some w :=
    Option.isSome_iff_exists.mp (getLast?_isSome.mpr (ne_nil_of_mem hin))
  refine ⟨w, hw, ?_⟩
  obtain ⟨ys, hys⟩ := getLast?_eq_some_iff.mp hw
  have hpair := hids.filter (fun x => decide (x.instant ≤ u))
  rw [hys] at hin hpair
  rw [mem_append, mem_singleton] at hin
  rcases hin with hin | rfl
  · exact .inr ((pairwise_append.mp hpair).2.2 v hin w (mem_singleton_self w))
  · exact .inl rfl

/-- The artifact a poll finds is younger than `max_age_seconds`: the next write is not far. -/
theorem Monitored.age (h : Monitored rfc3339 config started writes polls) (ht : t ∈ polls)
    (hw : inPlace writes t = some w) : t - w.instant < seconds config.maxAgeSeconds := by
  obtain ⟨ys, hys⟩ := getLast?_eq_some_iff.mp hw
  obtain ⟨before, rest, hsplit, -, hrest⟩ := filter_eq_append_iff.mp hys
  obtain ⟨skipped, after, rfl, -, hle, hafter⟩ := filter_eq_cons_iff.mp hrest
  have hwt : w.instant ≤ t := by simpa using hle
  rw [← append_assoc] at hsplit
  obtain ⟨x, hx, hlt⟩ := h.writing t ht
  cases after with
  | nil =>
    have hlast := (pairwise_append.mp (hsplit ▸ h.ordered)).2.2
    rw [hsplit, mem_append, mem_singleton] at hx
    rcases hx with hx | rfl
    · have := hlast x hx w (mem_singleton_self w)
      omega
    · omega
  | cons v after =>
    have hv : ¬v.instant ≤ t := by
      have := filter_eq_nil_iff.mp hafter v mem_cons_self
      simpa using this
    have hnext := (isChain_append_cons_cons.mp (hsplit ▸ h.follows)).2.1
    have := hnext.2.2
    omega

/-- Before the first write a poll is within the grace period. -/
theorem Monitored.grace (h : Monitored rfc3339 config started writes polls) (ht : t ∈ polls)
    (hw : inPlace writes t = none) : inGrace config (pollAt started writes t) := by
  have hnil := getLast?_eq_none_iff.mp hw
  obtain ⟨x, hx, hlt⟩ := h.writing t ht
  cases writes with
  | nil => cases hx
  | cons v writes =>
    have hv : t < v.instant := by
      have := filter_eq_nil_iff.mp hnil v mem_cons_self
      simpa using this
    have hfirst := h.first v rfl
    have hstart := h.started t ht
    refine ⟨?_, ?_⟩
    · show ((t - started).toNat : Int) < _
      omega
    · show readLiveness (v :: writes) t = _
      unfold readLiveness
      rw [hw]

/-! ## The count on a healthy run -/

theorem artifact_pollAt (hw : inPlace writes t = some w) : (pollAt started writes t).artifact = .ok w.artifact := by
  show readLiveness writes t = _
  unfold readLiveness
  rw [hw]

theorem missing_pollAt (hw : inPlace writes t = none) : (pollAt started writes t).artifact = .error .missing := by
  show readLiveness writes t = _
  unfold readLiveness
  rw [hw]

/-- The polls so far that found `w` in place. -/
def finding (writes : List Write) (w : Write) (ts : List Int) : List Int := ts.filter fun t => inPlace writes t = some w

theorem finding_concat (w : Write) (ts : List Int) (t : Int) :
    (finding writes w (ts ++ [t])).length = (finding writes w ts).length +
      if inPlace writes t = some w then 1 else 0 := by
  unfold finding
  rw [filter_append, length_append]
  congr 1
  by_cases h : inPlace writes t = some w <;> simp [h]

/-- The count is the number of earlier polls that found the same write. -/
theorem sameGenRun_monitored (hids : Increasing writes) (hsorted : (ts ++ [t]).Pairwise fun t u => t ≤ u)
    (hw : inPlace writes t = some w) :
    (tracked (ts.map (pollAt started writes) ++ [pollAt started writes t])).sameGenRun =
      (finding writes w ts).length := by
  induction ts using List.reverseRecOn generalizing t w with
  | nil =>
    rw [tracked_ok (artifact_pollAt hw)]
    rfl
  | append_singleton ts u ih =>
    obtain ⟨hbefore, -, hlast⟩ := pairwise_append.mp hsorted
    have hut : u ≤ t := hlast u (by simp) t (mem_singleton_self t)
    have hle : ∀ x ∈ ts ++ [u], x ≤ u := by
      intro x hx
      rw [mem_append, mem_singleton] at hx
      rcases hx with hx | rfl
      · exact (pairwise_append.mp hbefore).2.2 x hx u (mem_singleton_self u)
      · exact Int.le_refl x
    rw [tracked_ok (artifact_pollAt hw), lastGenerationId_tracked, map_append, map_singleton]
    show (if _ then _ else _) = _
    cases hu : inPlace writes u with
    | none =>
      have hnone : ∀ x ∈ ts ++ [u], inPlace writes x = none := by
        intro x hx
        by_contra hsome
        obtain ⟨v, hv⟩ := Option.ne_none_iff_exists'.mp hsome
        obtain ⟨v', hv', -⟩ := inPlace_mono hids (hle x hx) hv
        rw [hu] at hv'
        cases hv'
      have hreads : reads (ts.map (pollAt started writes) ++ [pollAt started writes u]) = [] := by
        rw [← map_singleton, ← map_append, reads, filterMap_map, filterMap_eq_nil_iff]
        intro x hx
        show (pollAt started writes x).artifact.toOption = none
        rw [missing_pollAt (hnone x hx)]
        rfl
      have hfind : finding writes w (ts ++ [u]) = [] := by
        rw [finding, filter_eq_nil_iff]
        intro x hx
        simp [hnone x hx]
      rw [hreads, hfind]
      rfl
    | some v =>
      rw [reads_ok (artifact_pollAt hu), getLast?_concat, Option.map_some, finding_concat, hu, ih hbefore hu]
      obtain ⟨w', hw', hvw⟩ := inPlace_mono hids hut hu
      obtain rfl := Option.some.inj (hw.symm.trans hw')
      rcases hvw with rfl | hvw
      · rw [if_pos rfl, if_pos rfl]
      · -- a newer write: no poll so far found it
        have hfind : finding writes w ts = [] := by
          rw [finding, filter_eq_nil_iff]
          intro x hx hfound
          rw [decide_eq_true_eq] at hfound
          obtain ⟨v', hv', hwv⟩ := inPlace_mono hids (hle x (mem_append_left _ hx)) hfound
          obtain rfl := Option.some.inj (hu.symm.trans hv')
          rcases hwv with rfl | hwv <;> omega
        have hne : some v.artifact.generationId ≠ some w.artifact.generationId := by
          rw [Ne, Option.some.injEq]
          omega
        have hnew : some v ≠ some w := by
          intro e
          cases e
          exact hne rfl
        rw [if_neg hne, if_neg hnew, hfind]
        rfl

/-- What a poll of a healthy run computes. -/
theorem stateAt_monitored (h : Monitored rfc3339 config started writes polls) {rest : List Int}
    (hts : polls = ts ++ t :: rest) :
    stateAt rfc3339 config (ts.map (pollAt started writes)) (pollAt started writes t) =
      match inPlace writes t with
      | none => .starting
      | some w => if config.stuckAfterPolls ≤ (finding writes w ts).length then .stuck else .healthy := by
  have ht : t ∈ polls := by simp [hts]
  cases hw : inPlace writes t with
  | none => exact if_pos (h.grace ht hw)
  | some w =>
    obtain ⟨hmem, hwt⟩ := mem_of_inPlace hw
    have hage : wholeSeconds (t - w.instant) < config.maxAgeSeconds := by
      have := h.age ht hw
      unfold wholeSeconds
      unfold seconds at this
      rw [Int.tdiv_eq_ediv_of_nonneg (by omega)]
      omega
    have hsorted : (ts ++ [t]).Pairwise fun t u => t ≤ u := by
      have := h.sorted
      rw [hts, append_cons] at this
      exact (pairwise_append.mp this).1
    rw [stateAt_ok rfc3339 config (artifact_pollAt hw), h.truthful w hmem, sameGenRun_monitored h.increasing hsorted hw]
    show (if config.maxAgeSeconds < wholeSeconds (t - w.instant) then _ else _) = _
    rw [if_neg (by omega)]

/-- No write is found by more than `stuck_after_polls` polls. -/
def Paced (writes : List Write) (polls : List Int) : Prop :=
  ∀ w ∈ writes, (finding writes w polls).length ≤ config.stuckAfterPolls

theorem stateAt_paced (h : Monitored rfc3339 config started writes polls) (hpaced : @Paced Channel config writes polls)
    {before after : List Poll} {p : Poll} (hp : polls.map (pollAt started writes) = before ++ p :: after) :
    stateAt rfc3339 config before p = .starting ∨ stateAt rfc3339 config before p = .healthy := by
  obtain ⟨ts, rest, rfl, rfl, hrest⟩ := map_eq_append_iff.mp hp
  obtain ⟨t, rest, rfl, rfl, rfl⟩ := map_eq_cons_iff.mp hrest
  rw [stateAt_monitored h rfl]
  cases hw : inPlace writes t with
  | none => exact .inl rfl
  | some w =>
    have hcount := hpaced w (mem_of_inPlace hw).1
    rw [append_cons, finding, filter_append, length_append] at hcount
    have hnow := @finding_concat writes w ts t
    rw [if_pos hw] at hnow
    unfold finding at hnow
    refine .inr (if_neg ?_)
    unfold finding
    omega

theorem exists_stuck (h : Monitored rfc3339 config started writes polls)
    (hmany : config.stuckAfterPolls < (finding writes w polls).length) :
    ∃ o ∈ run rfc3339 config (polls.map (pollAt started writes)), o.state = .stuck := by
  rcases eq_nil_or_concat (finding writes w polls) with hnil | ⟨found, t, hfound⟩
  · rw [hnil] at hmany
    exact absurd hmany (Nat.not_lt_zero _)
  rw [concat_eq_append] at hfound
  rw [hfound, length_append, length_singleton] at hmany
  obtain ⟨ts, rest, hsplit, hts, hrest⟩ := filter_eq_append_iff.mp hfound
  obtain ⟨skipped, after, rfl, hskipped, hw, -⟩ := filter_eq_cons_iff.mp hrest
  rw [decide_eq_true_eq] at hw
  rw [← append_assoc] at hsplit
  have hlen : (finding writes w (ts ++ skipped)).length = found.length := by
    rw [finding, filter_append, hts, filter_eq_nil_iff.mpr hskipped, append_nil]
  have hstate := stateAt_monitored h hsplit
  rw [hw] at hstate
  obtain ⟨o, rest, hrun, ho⟩ := observed_of_poll rfc3339 config ((ts ++ skipped).map (pollAt started writes))
    (after.map (pollAt started writes)) (pollAt started writes t)
  rw [← map_cons, ← map_append, ← hsplit] at hrun
  refine ⟨o, by rw [hrun]; simp, ?_⟩
  rw [ho, hstate]
  exact if_pos (by omega)

end

/-! ## No alarm -/

/-- Every state is `Starting` or `Healthy`, and nothing is sent. -/
def Quiet (obs : List Observed) : Prop := ∀ o ∈ obs, (o.state = .starting ∨ o.state = .healthy) ∧ o.alert = none

theorem quiet_of_states {polls : List Poll} (hstates : ∀ before p after, polls = before ++ p :: after →
    stateAt rfc3339 config before p = .starting ∨ stateAt rfc3339 config before p = .healthy) :
    Quiet (run rfc3339 config polls) := by
  have hall : ∀ o ∈ run rfc3339 config polls, o.state = .starting ∨ o.state = .healthy := by
    intro o ho
    obtain ⟨before, after, hsplit⟩ := append_of_mem ho
    obtain ⟨ps, p, qs, hpolls, -, hstate, -⟩ := observed_spec rfc3339 config hsplit
    rw [hstate]
    exact hstates ps p qs hpolls
  intro o ho
  refine ⟨hall o ho, ?_⟩
  obtain ⟨before, after, hsplit⟩ := append_of_mem ho
  obtain ⟨ps, p, qs, -, -, -, halert⟩ := observed_spec rfc3339 config hsplit
  have hlast : lastState before = .starting ∨ lastState before = .healthy := by
    rcases eq_nil_or_concat before with rfl | ⟨before, last, rfl⟩
    · exact .inl rfl
    · rw [concat_eq_append, lastState_append_singleton]
      exact hall last (by rw [hsplit]; simp)
  rw [halert]
  rcases hlast with hlast | hlast <;> rcases hall o ho with hnow | hnow <;> rw [hlast, hnow] <;> rfl

/-- The two reads of a streak are what its length says. -/
theorem Streak.unique {n : Nat} {rs : List LivenessArtifact} {first first' newest newest' : LivenessArtifact}
    (h : Streak n rs first newest) (h' : Streak n rs first' newest') : first = first' ∧ newest = newest' := by
  obtain ⟨older, between, rfl, hlen, -⟩ := h
  obtain ⟨older', between', heq, hlen', -⟩ := h'
  have htail := (append_inj' heq (by simp only [length_cons, length_append]; omega)).2
  obtain ⟨rfl, hbetween⟩ := List.cons.inj htail
  exact ⟨rfl, (List.cons.inj (append_inj' hbetween rfl).2).1⟩

theorem stuckHonest_iff (hpolls : 0 < config.stuckAfterPolls) (polls : List Poll) : StuckHonest rfc3339 config polls ↔
    ∀ before p after a first newest, polls = before ++ p :: after → p.artifact = .ok a → Fresh rfc3339 config p.now a →
      Streak config.stuckAfterPolls (reads (before ++ [p])) first newest → Advanced rfc3339 first newest := by
  constructor
  · intro h before p after a first newest hsplit hp hfresh hstreak
    obtain ⟨first', newest', hstreak', hadvanced⟩ := h before p after hsplit
      ((stuck_iff rfc3339 config hpolls).mpr ⟨a, hp, hfresh, first, newest, hstreak⟩)
    obtain ⟨rfl, rfl⟩ := hstreak.unique hstreak'
    exact hadvanced
  · intro h before p after hsplit hstuck
    obtain ⟨a, hp, hfresh, first, newest, hstreak⟩ := (stuck_iff rfc3339 config hpolls).mp hstuck
    exact ⟨first, newest, hstreak, h before p after a first newest hsplit hp hfresh hstreak⟩

theorem stuckAfterPolls_pos {validateChannel : String → Channel → Except String Unit}
    (hvalid : config.validate validateChannel = .ok ()) : 0 < config.stuckAfterPolls := by
  unfold SentinelConfig.validate at hvalid
  obtain ⟨-, hvalid⟩ := Collections.check_ok.mp hvalid
  obtain ⟨-, hvalid⟩ := Collections.check_ok.mp hvalid
  obtain ⟨-, hvalid⟩ := Collections.check_ok.mp hvalid
  obtain ⟨hstuck, -⟩ := Collections.check_ok.mp hvalid
  simpa [Nat.pos_iff_ne_zero] using hstuck

/-- A healthy run raises no alarm exactly when no write is found by more than
    `stuck_after_polls` polls; and over any readings `Stuck` means a stamp that moved on under
    one generation id exactly when every fresh streak is such. -/
theorem no_alarm_iff {validateChannel : String → Channel → Except String Unit}
    (hvalid : config.validate validateChannel = .ok ()) :
    (∀ started writes polls, Monitored rfc3339 config started writes polls →
      (Quiet (run rfc3339 config (polls.map (pollAt started writes))) ∧
        StuckHonest rfc3339 config (polls.map (pollAt started writes)) ↔ @Paced Channel config writes polls)) ∧
    ∀ polls, StuckHonest rfc3339 config polls ↔
      ∀ before p after a first newest, polls = before ++ p :: after → p.artifact = .ok a →
        Fresh rfc3339 config p.now a →
        Streak config.stuckAfterPolls (reads (before ++ [p])) first newest → Advanced rfc3339 first newest := by
  refine ⟨fun started writes polls h => ⟨fun hquiet w _ => ?_, fun hpaced => ⟨?_, ?_⟩⟩,
    stuckHonest_iff rfc3339 config (stuckAfterPolls_pos config hvalid)⟩
  · by_contra hmany
    obtain ⟨o, ho, hstuck⟩ := exists_stuck h (Nat.lt_of_not_le hmany)
    rcases (hquiet.1 o ho).1 with hstate | hstate <;> rw [hstuck] at hstate <;> cases hstate
  · exact quiet_of_states rfc3339 config fun before p after hp => stateAt_paced h hpaced hp
  · intro before p after hp hstuck
    rcases stateAt_paced h hpaced hp with hstate | hstate <;> rw [hstuck] at hstate <;> cases hstate

/-! ## A monitor that writes every hundred seconds -/

section

open Preflight (day dayParse)

def everyHundred : List Write :=
  [⟨day, ⟨"2026-05-20T00:00:00Z", 1⟩⟩, ⟨day + seconds 100, ⟨"2026-05-20T00:01:40Z", 2⟩⟩,
   ⟨day + seconds 200, ⟨"2026-05-20T00:03:20Z", 3⟩⟩]

/-- The configuration's defaults, but for how often it polls. -/
def pollingEvery (n : Nat) : SentinelConfig Unit :=
  { artifactPath := "/var/lib/nq/liveness.json", pollIntervalSeconds := n }

variable {n : Nat}

theorem pollingEvery_valid (hn : 0 < n) : (pollingEvery n).validate (fun _ _ => .ok ()) = .ok () := by
  have hpath : Text.trim (pollingEvery n).artifactPath.toList ≠ [] :=
    (by decide +kernel : Text.trim "/var/lib/nq/liveness.json".toList ≠ [])
  unfold SentinelConfig.validate
  refine Collections.check_ok.mpr ⟨by simpa using hpath, ?_⟩
  refine Collections.check_ok.mpr ⟨by simp [pollingEvery], ?_⟩
  refine Collections.check_ok.mpr ⟨Collections.rejectIf_ok.mpr (decide_eq_false (Nat.ne_of_gt hn)), ?_⟩
  refine Collections.check_ok.mpr ⟨by simp [pollingEvery], rfl⟩

theorem everyHundred_stamps : dayParse "2026-05-20T00:00:00Z" = .ok day ∧
    dayParse "2026-05-20T00:01:40Z" = .ok (day + seconds 100) ∧
      dayParse "2026-05-20T00:03:20Z" = .ok (day + seconds 200) := by
  decide +kernel

theorem everyHundred_truthful : ∀ w ∈ everyHundred, dayParse w.artifact.generatedAt = .ok w.instant := by
  obtain ⟨hzero, hhundred, htwo⟩ := everyHundred_stamps
  unfold everyHundred
  simp only [forall_mem_cons]
  exact ⟨hzero, hhundred, htwo, fun w hw => absurd hw not_mem_nil⟩

theorem everyHundred_follows (n : Nat) : everyHundred.IsChain (Follows (pollingEvery n)) := by
  have hfirst : Follows (pollingEvery n) ⟨day, ⟨"2026-05-20T00:00:00Z", 1⟩⟩ ⟨day + seconds 100,
      ⟨"2026-05-20T00:01:40Z", 2⟩⟩ :=
    ⟨by decide, by decide, (by decide : _ < seconds 180)⟩
  have hsecond : Follows (pollingEvery n) ⟨day + seconds 100, ⟨"2026-05-20T00:01:40Z", 2⟩⟩
      ⟨day + seconds 200, ⟨"2026-05-20T00:03:20Z", 3⟩⟩ :=
    ⟨by decide, by decide, (by decide : _ < seconds 180)⟩
  exact .cons_cons hfirst (.cons_cons hsecond (.singleton _))

theorem everyHundred_monitored {polls : List Int} (hstarted : ∀ t ∈ polls, day ≤ t)
    (hinterval : polls.IsChain fun t u => t + seconds n ≤ u) (hend : ∀ t ∈ polls, t < day + seconds 200) :
    Monitored dayParse (pollingEvery n) day everyHundred polls where
  follows := everyHundred_follows n
  truthful := everyHundred_truthful
  first := by
    intro w hw
    obtain rfl := Option.some.inj hw
    exact (by decide : day ≤ day + seconds 120)
  started := hstarted
  interval := hinterval
  writing := fun t ht => ⟨⟨day + seconds 200, ⟨"2026-05-20T00:03:20Z", 3⟩⟩, by simp [everyHundred], hend t ht⟩

/-- Polled once a minute, nothing is said. -/
theorem a_poll_a_minute_is_quiet :
    Quiet (run dayParse (pollingEvery 60) ([day + seconds 5, day + seconds 65, day + seconds 125].map
      (pollAt day everyHundred))) := by
  refine (((no_alarm_iff dayParse (pollingEvery 60) (pollingEvery_valid (by decide))).1 day everyHundred _
    (everyHundred_monitored ?_ ?_ ?_)).mpr ?_).1
  · decide
  · decide
  · decide
  · unfold Paced
    decide

def quickPolls : List Int :=
  [day + seconds 5, day + seconds 15, day + seconds 25, day + seconds 35, day + seconds 45, day + seconds 55]

/-- Polled every ten seconds, the same monitor is said to be stuck within the first minute. -/
theorem a_quick_poll_alarms : (pollingEvery 10).validate (fun _ _ => .ok ()) = .ok () ∧
    Monitored dayParse (pollingEvery 10) day everyHundred quickPolls ∧
    (run dayParse (pollingEvery 10) (quickPolls.map (pollAt day everyHundred))).getLast? =
      some ⟨.stuck, some ⟨.red, "🔴 NQ sentinel: **stuck** — last generation #1 at 2026-05-20T00:00:00Z"⟩⟩ ∧
    ¬Quiet (run dayParse (pollingEvery 10) (quickPolls.map (pollAt day everyHundred))) ∧
    ¬StuckHonest dayParse (pollingEvery 10) (quickPolls.map (pollAt day everyHundred)) := by
  have hlast : (run dayParse (pollingEvery 10) (quickPolls.map (pollAt day everyHundred))).getLast? =
      some ⟨.stuck, some ⟨.red, "🔴 NQ sentinel: **stuck** — last generation #1 at 2026-05-20T00:00:00Z"⟩⟩ :=
        by decide +kernel
  have hmonitored : Monitored dayParse (pollingEvery 10) day everyHundred quickPolls :=
    everyHundred_monitored (by decide) (by decide) (by decide)
  refine ⟨pollingEvery_valid (by decide), hmonitored, hlast, fun hquiet => ?_, fun hhonest => ?_⟩
  · rcases (hquiet _ (mem_of_getLast? hlast)).1 with h | h <;> cases h
  · have hstamp : dayParse "2026-05-20T00:00:00Z" = .ok day := by decide +kernel
    have hadvanced := (stuckHonest_iff dayParse (pollingEvery 10) (by decide) _).mp hhonest
      ((quickPolls.take 5).map (pollAt day everyHundred)) (pollAt day everyHundred (day + seconds 55)) []
      ⟨"2026-05-20T00:00:00Z", 1⟩ ⟨"2026-05-20T00:00:00Z", 1⟩ ⟨"2026-05-20T00:00:00Z", 1⟩ rfl (by decide)
      ⟨day, hstamp, by decide⟩ ⟨[], List.replicate 4 ⟨"2026-05-20T00:00:00Z", 1⟩, by decide, rfl, by decide⟩
    obtain ⟨t, u, ht, hu, hlt⟩ := hadvanced
    obtain rfl := Except.ok.inj (ht.symm.trans hu)
    exact absurd hlt (Int.lt_irrefl t)

end

end Nq.Sentinel
