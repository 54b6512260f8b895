/-
  Nq.Sentinel.Watch — the sentinel's poll loop (`nq-monitor/src/cmd/sentinel.rs`,
  `nq-db/src/liveness.rs`).

  A poll reads the liveness artifact and two clocks; `poll` is the body of the loop, over
  what `run` keeps between polls (the last state and the count of equal generations), and
  gives the state computed and the alert sent. Instants are nanoseconds; `rfc3339` is
  `OffsetDateTime::parse(_, &Rfc3339)` and the check of one channel is a parameter. Of the
  artifact the sentinel reads two fields. An alert is the message given to `send_alert`;
  whether a channel takes it decides nothing here.

  - `stateAt`: the state of a poll after the polls before it, without the loop.
  - `observed_spec`: what the loop computes and sends at each poll of a run.
  - `le_sameGenRun_iff`: the count, as the reads that came in a row.
-/

import Nq.Preflight.Clock
import Nq.Receipts.Witness

namespace Nq.Sentinel

open List
open Preflight (seconds wholeSeconds)

/-! ## The artifact -/

structure LivenessArtifact where
  generatedAt : String
  generationId : Int
  deriving DecidableEq, Repr

inductive LivenessReadError where
  | missing
  | malformed (error : String)
  | io (error : String)
  deriving DecidableEq, Repr

def LivenessReadError.display : LivenessReadError → String
  | .missing => "liveness artifact missing"
  | .malformed e => "liveness artifact malformed: " ++ e
  | .io e => "liveness artifact io error: " ++ e

/-- What `read_liveness` returns. -/
abbrev Reading := Except LivenessReadError LivenessArtifact

/-! ## The configuration -/

structure SentinelConfig (Channel : Type) where
  artifactPath : String
  maxAgeSeconds : Int := 180
  pollIntervalSeconds : Nat := 60
  gracePeriodSeconds : Nat := 120
  stuckAfterPolls : Nat := 5
  channels : List Channel := []

variable {Channel : Type}

/-- `validateChannel field` is `NotificationChannel::validate`. -/
def SentinelConfig.validate (validateChannel : String → Channel → Except String Unit)
    (config : SentinelConfig Channel) :
    Except String Unit := do
  Collections.rejectIf (Text.trim config.artifactPath.toList = [])
    "invalid sentinel configuration field `artifact_path`: must not be empty"
  Collections.rejectIf (config.maxAgeSeconds < 0)
    "invalid sentinel configuration field `max_age_seconds`: must be greater than or equal to zero"
  Collections.rejectIf (config.pollIntervalSeconds = 0)
    "invalid sentinel configuration field `poll_interval_seconds`: must be greater than zero"
  Collections.rejectIf (config.stuckAfterPolls = 0)
    "invalid sentinel configuration field `stuck_after_polls`: must be greater than zero"
  Receipts.eachIndexed (fun index channel =>
    validateChannel ("channels[" ++ toString index ++ "]") channel) 0 config.channels

/-! ## States -/

inductive State where
  | healthy
  | stale
  | stuck
  | missing
  | malformed
  /-- Grace period after startup; don't alert yet. -/
  | starting
  deriving DecidableEq, Repr

def State.asStr : State → String
  | .healthy => "healthy"
  | .stale => "stale"
  | .stuck => "stuck"
  | .missing => "missing"
  | .malformed => "malformed"
  | .starting => "starting"

/-- The states an alert is due for. -/
def State.Bad (s : State) : Prop := s = .stale ∨ s = .stuck ∨ s = .missing ∨ s = .malformed

instance (s : State) : Decidable s.Bad := inferInstanceAs (Decidable (_ ∨ _))

theorem State.cases_bad (s : State) : s = .healthy ∨ s = .starting ∨ s.Bad := by
  cases s <;> simp [State.Bad]

variable (rfc3339 : String → Except String Int)

def classify (now maxAgeSeconds : Int) (artifact : Reading) (lastGenerationId : Option Int)
    (sameGenRun stuckAfterPolls : Nat) :
    State :=
  match artifact with
  | .error .missing => .missing
  | .error (.malformed _) => .malformed
  | .error (.io _) => .missing
  | .ok a =>
    match rfc3339 a.generatedAt with
    | .error _ => .malformed
    | .ok generatedAt =>
      if maxAgeSeconds < wholeSeconds (now - generatedAt) then .stale
      else
        match lastGenerationId with
        | some prev => if prev = a.generationId ∧ stuckAfterPolls ≤ sameGenRun then .stuck else .healthy
        | none => .healthy

/-! ## One poll -/

/-- What a poll reads: the artifact, the wall clock and the time since the start. -/
structure Poll where
  artifact : Reading
  now : Int
  elapsed : Nat
  deriving DecidableEq

/-- The count of equal generations, over successful reads. -/
structure Tracked where
  lastGenerationId : Option Int := none
  sameGenRun : Nat := 0
  deriving DecidableEq, Repr

def Tracked.track (t : Tracked) (artifact : Reading) : Tracked :=
  match artifact with
  | .ok a =>
    { lastGenerationId := some a.generationId
      sameGenRun := if t.lastGenerationId = some a.generationId then t.sameGenRun + 1 else 0 }
  | .error _ => t

variable (config : SentinelConfig Channel)

def inGrace (p : Poll) : Prop := (p.elapsed : Int) < seconds config.gracePeriodSeconds ∧ p.artifact = .error .missing

instance (p : Poll) : Decidable (inGrace config p) := inferInstanceAs (Decidable (_ ∧ _))

/-- `t` already counts the read of this poll. -/
def stateOf (t : Tracked) (p : Poll) : State :=
  if inGrace config p then .starting
  else classify rfc3339 p.now config.maxAgeSeconds p.artifact t.lastGenerationId t.sameGenRun config.stuckAfterPolls

inductive Level where
  | green
  | red
  deriving DecidableEq, Repr

structure Alert where
  level : Level
  msg : String
  deriving DecidableEq, Repr

def recovered (prev : State) (lastGenerationId : Option Int) (artifact : Reading) : String :=
  "🟢 NQ sentinel: **recovered** from " ++ prev.asStr ++ " — generation #" ++
    (lastGenerationId.map toString).getD "?" ++ " at " ++ (artifact.toOption.map (·.generatedAt)).getD "?"

def detail : Reading → String
  | .ok a => "last generation #" ++ toString a.generationId ++ " at " ++ a.generatedAt
  | .error e => "read error: " ++ e.display

/-- The alert of a transition. -/
def transition (prev new : State) (lastGenerationId : Option Int) (artifact : Reading) : Option Alert :=
  if new = prev then none
  else
    match prev, new with
    | _, .starting => none
    | .starting, .healthy => none
    | prev, .healthy => some ⟨.green, recovered prev lastGenerationId artifact⟩
    | _, new => some ⟨.red, "🔴 NQ sentinel: **" ++ new.asStr ++ "** — " ++ detail artifact⟩

/-- What `run` keeps between polls. -/
structure Watch where
  lastState : State := .starting
  tracked : Tracked := {}
  deriving DecidableEq, Repr

structure Observed where
  state : State
  alert : Option Alert
  deriving DecidableEq, Repr

def poll (w : Watch) (p : Poll) : Watch × Observed :=
  let tracked := w.tracked.track p.artifact
  let state := stateOf rfc3339 config tracked p
  (⟨state, tracked⟩, ⟨state, transition w.lastState state tracked.lastGenerationId p.artifact⟩)

/-- The polls of a run, from its start. -/
def observe (w : Watch) : List Poll → List Observed
  | [] => []
  | p :: polls => (poll rfc3339 config w p).2 :: observe (poll rfc3339 config w p).1 polls

def run (polls : List Poll) : List Observed := observe rfc3339 config {} polls

/-! ## What a run computes -/

def tracked (polls : List Poll) : Tracked := polls.foldl (fun t p => t.track p.artifact) {}

/-- The state of a poll, from the polls before it. -/
def stateAt (before : List Poll) (p : Poll) : State := stateOf rfc3339 config (tracked (before ++ [p])) p

/-- The state of the last poll, or the one a run starts in. -/
def lastState (before : List Observed) : State := (before.getLast?.map (·.state)).getD .starting

@[simp] theorem lastState_append_singleton (before : List Observed)
    (o : Observed) : lastState (before ++ [o]) = o.state := by
  simp [lastState]

theorem tracked_append_singleton (polls : List Poll) (p : Poll) :
    tracked (polls ++ [p]) = (tracked polls).track p.artifact := by
  simp [tracked, foldl_append]

/-- What the loop holds after some polls. -/
def after : Watch → List Poll → Watch
  | w, [] => w
  | w, p :: polls => after (poll rfc3339 config w p).1 polls

variable {polls : List Poll} {a first : LivenessArtifact} {p : Poll} {e : LivenessReadError} {n : Nat}
  {rs : List LivenessArtifact} (w : Watch) (ps qs : List Poll)

theorem observe_append :
    observe rfc3339 config w (ps ++ qs) = observe rfc3339 config w ps ++
      observe rfc3339 config (after rfc3339 config w ps) qs := by
  induction ps generalizing w with
  | nil => rfl
  | cons p ps ih => exact congrArg _ (ih _)

theorem after_append : after rfc3339 config w (ps ++ qs) = after rfc3339 config (after rfc3339 config w ps) qs := by
  induction ps generalizing w with
  | nil => rfl
  | cons p ps ih => exact ih _

theorem after_spec : after rfc3339 config {} ps = ⟨lastState (run rfc3339 config ps), tracked ps⟩ := by
  induction ps using List.reverseRecOn with
  | nil => rfl
  | append_singleton ps p ih =>
    have hrun : run rfc3339 config (ps ++ [p]) = run rfc3339 config ps ++
        [(poll rfc3339 config (after rfc3339 config {} ps) p).2] :=
      observe_append rfc3339 config {} ps [p]
    rw [hrun, lastState_append_singleton, after_append, tracked_append_singleton]
    show Watch.mk _ _ = _
    rw [ih]
    rfl

/-- A run, poll by poll. -/
theorem run_append_singleton (p : Poll) :
    run rfc3339 config (ps ++ [p]) = run rfc3339 config ps ++ [⟨stateAt rfc3339 config ps p,
      transition (lastState (run rfc3339 config ps)) (stateAt rfc3339 config ps p)
        (tracked (ps ++ [p])).lastGenerationId
        p.artifact⟩] := by
  have hstep : run rfc3339 config (ps ++ [p]) = run rfc3339 config ps ++
      [(poll rfc3339 config (after rfc3339 config {} ps) p).2] :=
    observe_append rfc3339 config {} ps [p]
  rw [hstep, after_spec]
  unfold stateAt
  rw [tracked_append_singleton]
  rfl

@[simp] theorem length_run : (run rfc3339 config ps).length = ps.length := by
  induction ps using List.reverseRecOn with
  | nil => rfl
  | append_singleton ps p ih => rw [run_append_singleton, length_append, ih, length_append]; rfl

theorem run_take : ∃ rest, run rfc3339 config (ps ++ qs) = run rfc3339 config ps ++ rest :=
  ⟨_, observe_append rfc3339 config {} ps qs⟩

/-- What a run computes and sends at one of its polls. -/
theorem observed_spec {before after : List Observed} {o : Observed}
    (h : run rfc3339 config polls = before ++ o :: after) :
    ∃ ps p qs, polls = ps ++ p :: qs ∧ before = run rfc3339 config ps ∧ o.state = stateAt rfc3339 config ps p ∧
      o.alert = transition (lastState before) o.state (tracked (ps ++ [p])).lastGenerationId p.artifact := by
  have hlen : before.length < polls.length := by
    rw [← length_run rfc3339 config polls, h, length_append, length_cons]
    omega
  obtain ⟨p, hp⟩ : ∃ p, polls[before.length]? = some p := ⟨_, getElem?_eq_getElem hlen⟩
  have hpolls : polls = polls.take before.length ++ p :: polls.drop (before.length + 1) := by
    obtain ⟨_, rfl⟩ := List.getElem?_eq_some_iff.mp hp
    rw [← drop_eq_getElem_cons hlen, take_append_drop]
  generalize hps : polls.take before.length = ps at hpolls
  obtain ⟨rest, hrest⟩ := run_take rfc3339 config (ps ++ [p]) (polls.drop (before.length + 1))
  rw [append_assoc, singleton_append, ← hpolls, run_append_singleton, h, append_assoc] at hrest
  have hsame : (run rfc3339 config ps).length = before.length := by
    rw [length_run, ← hps, length_take]
    omega
  obtain ⟨hbefore, htail⟩ := append_inj hrest hsame.symm
  obtain ⟨rfl, -⟩ := List.cons.inj htail
  exact ⟨ps, p, _, hpolls, hbefore, rfl, by rw [hbefore]⟩

/-- The other way: each poll of a run has its observation. -/
theorem observed_of_poll (p : Poll) : ∃ o after,
    run rfc3339 config (ps ++ p :: qs) = run rfc3339 config ps ++ o :: after ∧
      o.state = stateAt rfc3339 config ps p := by
  obtain ⟨rest, hrest⟩ := run_take rfc3339 config (ps ++ [p]) qs
  rw [append_assoc, singleton_append, run_append_singleton, append_assoc] at hrest
  exact ⟨_, rest, hrest, rfl⟩

/-! ## The count -/

def reads (polls : List Poll) : List LivenessArtifact := polls.filterMap (·.artifact.toOption)

theorem reads_ok (hp : p.artifact = .ok a) : reads (polls ++ [p]) = reads polls ++ [a] := by
  simp [reads, filterMap_append, hp, Except.toOption]

theorem reads_error (hp : p.artifact = .error e) : reads (polls ++ [p]) = reads polls := by
  simp [reads, filterMap_append, hp, Except.toOption]

theorem tracked_error (hp : p.artifact = .error e) : tracked (polls ++ [p]) = tracked polls := by
  rw [tracked_append_singleton, hp]
  rfl

theorem tracked_ok (hp : p.artifact = .ok a) :
    tracked (polls ++ [p]) = ⟨some a.generationId,
      if (tracked polls).lastGenerationId = some a.generationId then (tracked polls).sameGenRun + 1 else 0⟩ := by
  rw [tracked_append_singleton, hp]
  rfl

theorem lastGenerationId_tracked (polls : List Poll) :
    (tracked polls).lastGenerationId = (reads polls).getLast?.map (·.generationId) := by
  induction polls using List.reverseRecOn with
  | nil => rfl
  | append_singleton ps p ih =>
    cases hp : p.artifact with
    | ok a => rw [tracked_ok hp, reads_ok hp, getLast?_concat, Option.map_some]
    | error e => rw [tracked_error hp, reads_error hp, ih]

/-- The newest read and the one `n` reads before it, all of one generation id between them. -/
def Streak (n : Nat) (rs : List LivenessArtifact) (first newest : LivenessArtifact) : Prop :=
  ∃ older between, rs = older ++ first :: (between ++ [newest]) ∧ between.length + 1 = n ∧
    ∀ a ∈ first :: between, a.generationId = newest.generationId

theorem Streak.getLast? {newest : LivenessArtifact} (h : Streak n rs first newest) : rs.getLast? = some newest := by
  obtain ⟨older, between, rfl, -⟩ := h
  rw [← cons_append, ← append_assoc, getLast?_concat]

theorem streak_one :
    (∃ first, Streak 1 (rs ++ [a]) first a) ↔ rs.getLast?.map (·.generationId) = some a.generationId := by
  rw [Option.map_eq_some_iff]
  constructor
  · rintro ⟨first, older, between, hrs, hlen, hids⟩
    obtain rfl : between = [] := length_eq_zero_iff.mp (by omega)
    have hcat : rs ++ [a] = (older ++ [first]) ++ [a] := by simpa using hrs
    rw [(append_inj' hcat rfl).1]
    exact ⟨first, getLast?_concat, hids first mem_cons_self⟩
  · rintro ⟨first, hlast, hsame⟩
    obtain ⟨older, rfl⟩ := getLast?_eq_some_iff.mp hlast
    exact ⟨first, older, [], by simp, rfl, fun b hb => mem_singleton.mp hb ▸ hsame⟩

theorem streak_succ (hn : 0 < n) :
    Streak (n + 1) (rs ++ [a]) first a ↔ ∃ newest, Streak n rs first newest ∧ newest.generationId = a.generationId := by
  constructor
  · rintro ⟨older, between, hrs, hlen, hids⟩
    rcases eq_nil_or_concat between with rfl | ⟨between, newest, rfl⟩
    · rw [length_nil] at hlen
      omega
    rw [concat_eq_append] at hrs hlen hids
    rw [length_append, length_singleton] at hlen
    have hnewest : newest.generationId = a.generationId := hids newest (by simp)
    refine ⟨newest, ⟨older, between, ?_, by omega, fun b hb => ?_⟩, hnewest⟩
    · have hcat : rs ++ [a] = (older ++ first :: (between ++ [newest])) ++ [a] := by simpa using hrs
      exact (append_inj' hcat rfl).1
    · rw [hnewest]
      exact hids b (by
        rw [← cons_append]
        exact mem_append_left _ hb)
  · rintro ⟨newest, ⟨older, between, rfl, hlen, hids⟩, hsame⟩
    refine ⟨older, between ++ [newest], by simp, by rw [length_append, length_singleton]; omega, ?_⟩
    intro b hb
    rw [← cons_append, mem_append, mem_singleton] at hb
    rcases hb with hb | rfl
    · rw [hids b hb, hsame]
    · exact hsame

/-- The count is `n` or more exactly when the newest read ends a streak of `n`. -/
theorem le_sameGenRun_iff (hn : 0 < n) (polls : List Poll) :
    n ≤ (tracked polls).sameGenRun ↔ ∃ first newest, Streak n (reads polls) first newest := by
  induction polls using List.reverseRecOn generalizing n with
  | nil =>
    constructor
    · intro h
      exact absurd (show n ≤ 0 from h) (by omega)
    · rintro ⟨first, newest, h⟩
      exact absurd h.getLast? (by simp [reads])
  | append_singleton ps p ih =>
    cases hp : p.artifact with
    | error e => rw [tracked_error hp, reads_error hp, ih hn]
    | ok a =>
      rw [tracked_ok hp, reads_ok hp, lastGenerationId_tracked]
      have hnewest : ∀ {k first newest}, Streak k (reads ps ++ [a]) first newest → newest = a := fun h =>
        (Option.some.inj (h.getLast?.symm.trans getLast?_concat))
      obtain ⟨m, rfl⟩ : ∃ m, n = m + 1 := ⟨n - 1, by omega⟩
      show m + 1 ≤ (if _ then _ else _) ↔ _
      rcases Nat.eq_zero_or_pos m with rfl | hm
      · constructor
        · intro h
          split at h
          · rename_i hlast
            obtain ⟨first, hstreak⟩ := streak_one.mpr hlast
            exact ⟨first, a, hstreak⟩
          · omega
        · rintro ⟨first, newest, hstreak⟩
          obtain rfl := hnewest hstreak
          rw [if_pos (streak_one.mp ⟨first, hstreak⟩)]
          omega
      · constructor
        · intro h
          split at h
          · rename_i hlast
            obtain ⟨first, newest, hstreak⟩ := (ih hm).mp (Nat.le_of_succ_le_succ h)
            rw [hstreak.getLast?, Option.map_some, Option.some.injEq] at hlast
            exact ⟨first, a, (streak_succ hm).mpr ⟨newest, hstreak, hlast⟩⟩
          · omega
        · rintro ⟨first, newest, hstreak⟩
          obtain rfl := hnewest hstreak
          obtain ⟨last, hstreak, hsame⟩ := (streak_succ hm).mp hstreak
          rw [hstreak.getLast?, Option.map_some, if_pos (congrArg some hsame)]
          have := (ih hm).mpr ⟨first, last, hstreak⟩
          omega

end Nq.Sentinel
