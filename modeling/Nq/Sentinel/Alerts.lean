/-
  Nq.Sentinel.Alerts — how the sentinel's alerts pair up over a run (`run`, the match on
  the transition).

  Alerts are read off the states alone: a red one is sent at a bad state that differs from
  the last, a green one at a healthy state after a bad one (`red_iff`, `green_iff`).
  `Starting` sends nothing and is left without a word, also when a red alert stands.

  - `bad_reported`: a bad poll has a red alert at it or before it, and only bad polls since.
  - `alerts_pair_iff`: the alerts pair up exactly when no run of polls that began bad comes
    back to healthy out of `Starting`.
  - `a_recovery_out_of_starting_is_silent`.
-/

import Nq.Sentinel.Watch

namespace Nq.Sentinel

open List

variable {Channel : Type} (rfc3339 : String → Except String Int) (config : SentinelConfig Channel)

/-! ## The states of a run -/

/-- The states of `polls`, after the polls `before`. -/
def statesFrom (before : List Poll) : List Poll → List State
  | [] => []
  | p :: polls => stateAt rfc3339 config before p :: statesFrom (before ++ [p]) polls

def states (polls : List Poll) : List State := statesFrom rfc3339 config [] polls

theorem statesFrom_append (before ps qs : List Poll) : statesFrom rfc3339 config before (ps ++ qs) =
    statesFrom rfc3339 config before ps ++ statesFrom rfc3339 config (before ++ ps) qs := by
  induction ps generalizing before with
  | nil => rw [append_nil]; rfl
  | cons p ps ih =>
    rw [append_cons before p ps]
    exact congrArg _ (ih _)

variable {artifact : Reading} {id : Option Int} {new prev s : State} {after before : List Observed} {o : Observed}
  (polls : List Poll)

theorem states_run : (run rfc3339 config polls).map (·.state) = states rfc3339 config polls := by
  induction polls using List.reverseRecOn with
  | nil => rfl
  | append_singleton ps p ih =>
    rw [run_append_singleton, map_append, ih]
    exact (statesFrom_append rfc3339 config [] ps [p]).symm

/-! ## What is sent -/

def Observed.Red (o : Observed) : Prop := o.alert.map (·.level) = some .red

def Observed.Green (o : Observed) : Prop := o.alert.map (·.level) = some .green

theorem red_iff : (transition prev new id artifact).map (·.level) = some .red ↔ new.Bad ∧ new ≠ prev := by
  cases prev <;> cases new <;> simp [transition, State.Bad]

theorem green_iff : (transition prev new id artifact).map (·.level) = some .green ↔ new = .healthy ∧ prev.Bad := by
  cases prev <;> cases new <;> simp [transition, State.Bad]

/-- Each poll's alert is the one its transition calls for. -/
def Sent (obs : List Observed) : Prop := ∀ before o after, obs = before ++ o :: after →
  (o.Red ↔ o.state.Bad ∧ o.state ≠ lastState before) ∧ (o.Green ↔ o.state = .healthy ∧ (lastState before).Bad)

theorem sent_run : Sent (run rfc3339 config polls) := by
  intro before o after h
  obtain ⟨ps, p, qs, -, -, -, halert⟩ := observed_spec rfc3339 config h
  unfold Observed.Red Observed.Green
  rw [halert]
  exact ⟨red_iff, green_iff⟩

/-! ## Pairing -/

/-- The colour an operator sees who reads the alerts alone. -/
def view (obs : List Observed) : Option Level := (obs.filterMap (·.alert)).getLast?.map (·.level)

structure Paired (obs : List Observed) : Prop where
  red : ∀ before o after, obs = before ++ o :: after → (o.Red ↔ o.state.Bad ∧ o.state ≠ lastState before)
  preceded : ∀ before o after, obs = before ++ o :: after → o.Green →
    ∃ b r m, before = b ++ r :: m ∧ r.Red ∧ ∀ x ∈ m, ¬x.Green
  recovers : ∀ before r between o after, obs = before ++ r :: (between ++ o :: after) → r.Red →
    (∀ x ∈ between, x.state ≠ .healthy) → o.state = .healthy → o.Green ∧ ∀ x ∈ between, ¬x.Green
  seen : ∀ before o after, obs = before ++ o :: after → o.state = .healthy → view (before ++ [o]) ≠ some .red

theorem Sent.healthy {obs : List Observed} (hs : Sent obs) (h : obs = before ++ o :: after) (hg : o.Green) :
    o.state = .healthy := ((hs before o after h).2.mp hg).1

theorem Sent.bad {obs : List Observed} (hs : Sent obs) (h : obs = before ++ o :: after) (hr : o.Red) :
    o.state.Bad := ((hs before o after h).1.mp hr).1

theorem bad_ne_healthy (h : s.Bad) : s ≠ .healthy := by
  rintro rfl
  simp [State.Bad] at h

theorem bad_ne_starting (h : s.Bad) : s ≠ .starting := by
  rintro rfl
  simp [State.Bad] at h

/-- A bad poll was reported, and every poll since was bad. -/
theorem bad_reported {obs : List Observed} (hs : Sent obs) : ∀ {before after : List Observed} {o : Observed},
    obs = before ++ o :: after → o.state.Bad →
    ∃ b r m, before ++ [o] = b ++ r :: m ∧ r.Red ∧ ∀ x ∈ m, x.state.Bad := by
  intro before
  induction before using List.reverseRecOn with
  | nil =>
    intro after o h hbad
    exact ⟨[], o, [], rfl, (hs [] o after h).1.mpr ⟨hbad, bad_ne_starting hbad⟩, fun x hx => absurd hx not_mem_nil⟩
  | append_singleton before last ih =>
    intro after o h hbad
    by_cases hsame : o.state = last.state
    · have hsplit : obs = before ++ last :: (o :: after) := by rw [h, append_assoc, singleton_append]
      obtain ⟨b, r, m, heq, hred, hm⟩ := ih hsplit (hsame ▸ hbad)
      refine ⟨b, r, m ++ [o], by rw [heq, append_assoc, cons_append], hred, fun x hx => ?_⟩
      rw [mem_append, mem_singleton] at hx
      rcases hx with hx | rfl
      · exact hm x hx
      · exact hbad
    · refine ⟨before ++ [last], o, [], rfl, ?_, fun x hx => absurd hx not_mem_nil⟩
      exact (hs _ o after h).1.mpr ⟨hbad, by rwa [lastState_append_singleton]⟩

/-- No return to healthy comes out of `Starting` while a bad poll has not been recovered from. -/
def Spoken (ss : List State) : Prop := ∀ before bad between after,
  ss = before ++ bad :: (between ++ .starting :: .healthy :: after) → bad.Bad → .healthy ∈ between

theorem view_append_singleton (obs : List Observed) (o : Observed) :
    view (obs ++ [o]) = (o.alert.map (·.level)).or (view obs) := by
  unfold view
  rw [filterMap_append]
  cases ho : o.alert with
  | none => simp [ho]
  | some a => simp [ho]

/-- Where a red alert stands, it is the newest alert. -/
theorem view_red {obs : List Observed} (h : view obs = some .red) :
    ∃ b r m, obs = b ++ r :: m ∧ r.Red ∧ ∀ x ∈ m, x.alert = none := by
  induction obs using List.reverseRecOn with
  | nil => cases h
  | append_singleton obs o ih =>
    rw [view_append_singleton] at h
    cases ho : o.alert with
    | some a =>
      rw [ho] at h
      exact ⟨obs, o, [], rfl, by rw [Observed.Red, ho]; exact h, fun x hx => absurd hx not_mem_nil⟩
    | none =>
      rw [ho] at h
      obtain ⟨b, r, m, rfl, hred, hm⟩ := ih h
      refine ⟨b, r, m ++ [o], by simp, hred, fun x hx => ?_⟩
      rw [mem_append, mem_singleton] at hx
      rcases hx with hx | rfl
      · exact hm x hx
      · exact ho

section

variable {obs : List Observed} (hs : Sent obs)
include hs

variable {after before between : List Observed} {o r : Observed}

theorem preceded (h : obs = before ++ o :: after) (hg : o.Green) :
    ∃ b r m, before = b ++ r :: m ∧ r.Red ∧ ∀ x ∈ m, ¬x.Green := by
  have hbad := ((hs before o after h).2.mp hg).2
  rcases eq_nil_or_concat before with rfl | ⟨before, last, rfl⟩
  · exact absurd rfl (bad_ne_starting hbad)
  rw [concat_eq_append] at h hbad ⊢
  rw [lastState_append_singleton] at hbad
  have hlast : obs = before ++ last :: (o :: after) := by rw [h, append_assoc, singleton_append]
  obtain ⟨b, r, m, heq, hred, hm⟩ := bad_reported hs hlast hbad
  refine ⟨b, r, m, heq, hred, fun x hx hgreen => ?_⟩
  obtain ⟨m₁, m₂, rfl⟩ := append_of_mem hx
  have hsplit : obs = (b ++ r :: m₁) ++ x :: (m₂ ++ o :: after) := by rw [h, heq]; simp
  exact bad_ne_healthy (hm x hx) (hs.healthy hsplit hgreen)

theorem not_green_between (h : obs = before ++ r :: (between ++ after)) (hno : ∀ x ∈ between, x.state ≠ .healthy) :
    ∀ x ∈ between, ¬x.Green := by
  intro x hx hgreen
  obtain ⟨m₁, m₂, rfl⟩ := append_of_mem hx
  have hsplit : obs = (before ++ r :: m₁) ++ x :: (m₂ ++ after) := by rw [h]; simp
  exact hno x hx (hs.healthy hsplit hgreen)

theorem recovers (hspoken : Spoken (obs.map (·.state))) (h : obs = before ++ r :: (between ++ o :: after))
    (hred : r.Red) (hno : ∀ x ∈ between, x.state ≠ .healthy) (ho : o.state = .healthy) : o.Green := by
  have hbad := hs.bad h hred
  rcases eq_nil_or_concat between with rfl | ⟨between, last, rfl⟩
  · refine (hs (before ++ [r]) o after (by rw [h]; simp)).2.mpr ⟨ho, ?_⟩
    rw [lastState_append_singleton]
    exact hbad
  rw [concat_eq_append] at h hno
  refine (hs (before ++ r :: (between ++ [last])) o after (by rw [h]; simp)).2.mpr ⟨ho, ?_⟩
  rw [← cons_append, ← append_assoc, lastState_append_singleton]
  rcases last.state.cases_bad with hhealthy | hstarting | hlast
  · exact absurd hhealthy (hno last (by simp))
  · -- out of `Starting`: what the condition excludes
    have hmem := hspoken (before.map (·.state)) r.state (between.map (·.state)) (after.map (·.state))
      (by rw [h]; simp [hstarting, ho]) hbad
    obtain ⟨x, hx, hhealthy⟩ := List.mem_map.mp hmem
    exact absurd hhealthy (hno x (mem_append_left _ hx))
  · exact hlast

theorem seen (hspoken : Spoken (obs.map (·.state))) (h : obs = before ++ o :: after) (ho : o.state = .healthy) :
    view (before ++ [o]) ≠ some .red := by
  intro hview
  obtain ⟨b, r, m, heq, hred, hsilent⟩ := view_red hview
  have hobs : obs = b ++ r :: (m ++ after) := by
    rw [h, append_cons, heq, append_assoc, cons_append]
  have hm : ∃ x ∈ m, x.state = .healthy := by
    rcases eq_nil_or_concat m with rfl | ⟨m, last, rfl⟩
    · have hlast := (append_inj' heq rfl).2
      exact absurd (List.cons.inj hlast).1 (fun e => bad_ne_healthy (hs.bad hobs hred) (e ▸ ho))
    · rw [concat_eq_append, ← cons_append, ← append_assoc] at heq
      have hlast := (List.cons.inj (append_inj' heq rfl).2).1
      exact ⟨last, by simp, hlast ▸ ho⟩
  -- the first healthy poll after the red alert has spoken
  obtain ⟨x, hx⟩ : ∃ x, m.find? (fun x => decide (x.state = .healthy)) = some x :=
    Option.isSome_iff_exists.mp (find?_isSome.mpr (by simpa using hm))
  obtain ⟨hhealthy, m₁, m₂, rfl, hno⟩ := find?_eq_some_iff_append.mp hx
  have hfirst : obs = b ++ r :: (m₁ ++ x :: (m₂ ++ after)) := by rw [hobs]; simp
  have hgreen := recovers hs hspoken hfirst hred (fun y hy => by simpa using hno y hy) (by simpa using hhealthy)
  have hnone := hsilent x (by simp)
  rw [Observed.Green, hnone] at hgreen
  cases hgreen

theorem spoken_of_paired (hp : Paired obs) : Spoken (obs.map (·.state)) := by
  intro before bad between after h hbad
  rw [map_eq_append_iff] at h
  obtain ⟨B, rest, rfl, rfl, hrest⟩ := h
  obtain ⟨o, rest, rfl, rfl, hbetween⟩ := map_eq_cons_iff.mp hrest
  obtain ⟨M, rest, rfl, rfl, hout⟩ := map_eq_append_iff.mp hbetween
  obtain ⟨start, rest, rfl, hstart, hhome⟩ := map_eq_cons_iff.mp hout
  obtain ⟨back, A, rfl, hback, rfl⟩ := map_eq_cons_iff.mp hhome
  by_contra hmem
  obtain ⟨b, r, m, heq, hred, hm⟩ := bad_reported hs rfl hbad
  have hsplit : B ++ o :: (M ++ start :: back :: A) = b ++ r :: ((m ++ (M ++ [start])) ++ back :: A) := by
    rw [append_cons B, heq]
    simp
  have hgreen := (hp.recovers b r (m ++ (M ++ [start])) back A hsplit hred (fun x hx => ?_) hback).1
  · have hlast := ((hs (B ++ o :: (M ++ [start])) back A (by simp)).2.mp hgreen).2
    rw [← cons_append, ← append_assoc, lastState_append_singleton, hstart] at hlast
    exact bad_ne_starting hlast rfl
  · rw [mem_append, mem_append, mem_singleton] at hx
    rcases hx with hx | hx | rfl
    · exact bad_ne_healthy (hm x hx)
    · exact fun hhealthy => hmem (List.mem_map.mpr ⟨x, hx, hhealthy⟩)
    · rw [hstart]
      decide

theorem paired_iff : Paired obs ↔ Spoken (obs.map (·.state)) := by
  refine ⟨spoken_of_paired hs, fun hspoken => ?_⟩
  refine ⟨fun before o after h => (hs before o after h).1, fun before o after h hg => preceded hs h hg, ?_,
    fun before o after h ho => seen hs hspoken h ho⟩
  intro before r between o after h hred hno ho
  exact ⟨recovers hs hspoken h hred hno ho, not_green_between hs h hno⟩

end

/-- The alerts of a run pair up exactly when the sentinel comes back out of `Starting` only
    where no bad poll stands unrecovered. -/
theorem alerts_pair_iff (polls : List Poll) :
    Paired (run rfc3339 config polls) ↔ Spoken (states rfc3339 config polls) := by
  rw [paired_iff (sent_run rfc3339 config polls), states_run]

/-! ## A file replaced within the grace period -/

section

open Preflight (day dayParse seconds)

/-- A sentinel as configured by default. -/
def watching : SentinelConfig Unit := { artifactPath := "/var/lib/nq/liveness.json" }

/-- The file of an earlier run is cut short; it is removed, and written anew two minutes in. -/
def replacedInGrace : List Poll :=
  [⟨.error (.malformed "EOF while parsing a value at line 1 column 0"), day, 0⟩,
   ⟨.error .missing, day + seconds 60, 60000000000⟩,
   ⟨.ok ⟨"2026-05-20T00:01:55Z", 1⟩, day + seconds 120, 120000000000⟩]

theorem a_recovery_out_of_starting_is_silent :
    watching.validate (fun _ _ => .ok ()) = .ok () ∧
      run dayParse watching replacedInGrace = [⟨.malformed, some ⟨.red,
        "🔴 NQ sentinel: **malformed** — read error: liveness artifact malformed: EOF while parsing a value at line 1 column 0"⟩⟩,
        ⟨.starting, none⟩, ⟨.healthy, none⟩] ∧
      view (run dayParse watching replacedInGrace) = some .red ∧ ¬Paired (run dayParse watching replacedInGrace) := by
  have hobs : run dayParse watching replacedInGrace = [⟨.malformed, some ⟨.red,
      "🔴 NQ sentinel: **malformed** — read error: liveness artifact malformed: EOF while parsing a value at line 1 column 0"⟩⟩,
      ⟨.starting, none⟩, ⟨.healthy, none⟩] := by decide +kernel
  refine ⟨by decide +kernel, hobs, by rw [hobs]; rfl, fun hp => ?_⟩
  have hspoken := spoken_of_paired (sent_run dayParse watching replacedInGrace) hp
  rw [hobs] at hspoken
  exact absurd (hspoken [] .malformed [] [] rfl (by decide)) not_mem_nil

end

end Nq.Sentinel
