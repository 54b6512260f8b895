/-
  Nq.Notify.Storm — notifications over whole runs (`notify.rs`, `find_pending` and
  `mark_notified`; `serve.rs`, `send_notifications`).

  A pass of the notifier reads the pending findings and marks them one after the other as
  it sends them; a pending finding that is not marked is forgotten when the next pass
  starts. Any other writer of `warning_state` may come before, between and after: the
  lifecycle update, which creates and deletes rows, imports, recorded absences, the
  operator. The clock never goes back. `sent` is the log of the marks, newest first.

  What decides is the durable history: its row of an identity is the newest mark in the
  log (`Inv.newest`), so what `find_pending` returns is either of a higher rank than every
  mark of the last 24 hours or outside their cooldown (`Inv.due`).

  - `turn_inv`, `reach_inv`: the log is spaced in every reachable state;
  - `no_notification_storm`: at most one notification per identity and rank in 24 hours,
    and none for a row that keeps the severity it was marked at.
-/

import Mathlib.Logic.Relation
import Nq.Notify.Pending
import Nq.Operator.Actions

namespace Nq.Notify

open List
open Sql (Table)

/-! ## Runs -/

/-- A mark: what was notified, and when (in nanoseconds). -/
structure Notification where
  id : FindingId
  severity : String
  time : Int
  deriving DecidableEq, Repr

structure Notifier where
  db : Db
  history : NotificationHistory
  /-- What the last `find_pending` returned and has not been marked. -/
  pending : List PendingNotification
  clock : Int
  sent : List Notification

/-- The notifier once it has read the pending findings. -/
def Notifier.found (rfc3339 : String → Except String Int) (m : Notifier)
    (minSeverity : String) (now : Int) : Notifier :=
  { m with clock := now, pending := findPending rfc3339 m.db m.history minSeverity now }

/-- The notifier once it has marked `p`; `text` is the instant as it is stored. -/
def Notifier.marked (m : Notifier) (p : PendingNotification) (now : Int) (text : String) : Notifier where
  db := (markNotified m.db m.history p.id p.severity text).1
  history := (markNotified m.db m.history p.id p.severity text).2
  pending := m.pending.filter (·.id ≠ p.id)
  clock := now
  sent := ⟨p.id, p.severity, now⟩ :: m.sent

/-- The writers of `warning_state` other than the notifier. -/
inductive Write (rfc3339 : String → Except String Int) : Db → Db → Prop
  | update {db db' : Db} (u : UpdateCall) (h : u.run db = .ok db') : Write rfc3339 db db'
  | ingest {db : Db} (read : ManifestRead) (generation : Int) (now : String) (cfg : IngestConfig) :
      Write rfc3339 db (ingestFindingImport rfc3339 db read generation now cfg).1
  | coverage {db db' : Db} {key : String} (c : CoverageCall)
      (h : recordCoverageTestimonyAbsentFinding db c = .ok (db', key)) : Write rfc3339 db db'
  | operator {db db' : Db} (f : WarningRow → WarningRow) (hf : OperatorEdit f)
      (hkeep : ∀ r, (f r).notifiedSeverity = r.notifiedSeverity)
      (h : db'.warningState = db.warningState.update f hf.id) : Write rfc3339 db db'
  | elsewhere {db db' : Db} (h : db'.warningState = db.warningState) : Write rfc3339 db db'

variable (time : TimeLib)

inductive Turn : Notifier → Notifier → Prop
  | write {m : Notifier} {db' : Db} (h : Write time.parse m.db db') : Turn m { m with db := db' }
  | find {m : Notifier} (minSeverity : String) (now : Int) (hnow : m.clock ≤
      now) : Turn m (m.found time.parse minSeverity now)
  | mark {m : Notifier} (p : PendingNotification) (now : Int) (text : String) (hp : p ∈ m.pending)
      (hnow : m.clock ≤ now) (htext : time.format now = .ok text) : Turn m (m.marked p now text)

/-- Marks, with no other turn between them. -/
def Marks : Notifier → Notifier → Prop :=
  Relation.ReflTransGen fun m m' => ∃ p ∈ m.pending, ∃ now text, m' = m.marked p now text

/-- A monitor starts on any database with any history, with nothing sent in this run. -/
inductive Reach : Notifier → Prop
  | init (db : Db) (history : NotificationHistory) (clock : Int) : Reach ⟨db, history, [], clock, []⟩
  | step {m m' : Notifier} (hr : Reach m) (h : Turn time m m') : Reach m'

/-- 24 hours, in nanoseconds. -/
def day : Int := 86400000000000

/-- Two marks of one identity within 24 hours rise in rank. -/
def Spaced (later earlier : Notification) : Prop :=
  later.id = earlier.id → later.time - earlier.time < day → severityRank earlier.severity < severityRank later.severity

variable {time} {m m' : Notifier}

/-! ## What `find_pending` returns -/

/-- The row behind a pending notification, and why the history lets it through. -/
structure Due (rfc3339 : String → Except String Int) (db : Db) (history : NotificationHistory) (now : Int)
    (p : PendingNotification) : Prop where
  row : ∃ r, db.warningState.get p.id = some r ∧ r.notifiable = true ∧ r.severity = p.severity
  history : ∀ h, history.get p.id = some h →
    severityRank h.lastNotifiedSeverity < severityRank p.severity ∨ h.withinCooldown rfc3339 now = false

variable {db : Db} {minSeverity severity : String} {now : Int} {p : PendingNotification}
  {rfc3339 : String → Except String Int} {e : Notification} {k : FindingId}

theorem due_of_mem {history : NotificationHistory} (h : p ∈ findPending rfc3339 db history minSeverity now) :
    Due rfc3339 db history now p := by
  obtain ⟨r, hr, hp⟩ := mem_filterMap.mp h
  obtain ⟨hr, hn⟩ := mem_filter.mp hr
  obtain ⟨kind, hkind, hp⟩ := Option.bind_eq_some_iff.mp hp
  split at hp
  · cases hp
    refine ⟨⟨r, Table.get_of_mem hr, hn, rfl⟩, fun h hh => ?_⟩
    have hh : history.get r.id = some h := hh
    simp only [notificationKindOf, hh] at hkind
    by_cases hrank : severityRank r.severity > severityRank h.lastNotifiedSeverity
    · exact .inl hrank
    · by_cases hcool : h.withinCooldown rfc3339 now = true
      · simp [hrank, hcool] at hkind
      · exact .inr (Bool.not_eq_true _ ▸ hcool)
  · cases hp

/-- The instant of a mark is read back, and outside its cooldown 24 hours have passed. -/
theorem day_of_cooled {h : NotificationRecord} {at_ : Int} (hparse : rfc3339 h.lastNotifiedAt = .ok at_)
    (hcool : h.withinCooldown rfc3339 now = false) : at_ + day ≤ now := by
  simp only [NotificationRecord.withinCooldown, hparse, cooldownHours] at hcool
  have hcool : ¬ (now - at_).tdiv 3600000000000 < 24 := of_decide_eq_false hcool
  unfold day
  by_cases hpos : 0 ≤ now - at_
  · rw [Int.tdiv_eq_ediv_of_nonneg hpos] at hcool
    omega
  · have hneg : (now - at_).tdiv 3600000000000 ≤ 0 := by
      rw [← Int.neg_neg (now - at_), Int.neg_tdiv]
      have := Int.tdiv_nonneg (a := -(now - at_)) (b := 3600000000000) (by omega) (by omega)
      omega
    omega

/-! ## The log is spaced -/

structure Inv (time : TimeLib) (m : Notifier) : Prop where
  past : ∀ e ∈ m.sent, e.time ≤ m.clock
  ordered : m.sent.Pairwise fun later earlier => earlier.time ≤ later.time
  spaced : m.sent.Pairwise Spaced
  newest : ∀ k e, m.sent.find? (·.id = k) = some e →
    ∃ h, m.history.get k = some h ∧ h.lastNotifiedSeverity = e.severity ∧ time.parse h.lastNotifiedAt = .ok e.time
  due : ∀ p ∈ m.pending, ∀ e ∈ m.sent, e.id = p.id →
    e.time + day ≤ m.clock ∨ severityRank e.severity < severityRank p.severity

/-- An entry of the log is the newest of its identity, or it is spaced from that one. -/
theorem newest_or_spaced {sent : List Notification} (ho : sent.Pairwise fun later earlier => earlier.time ≤ later.time)
    (hs : sent.Pairwise Spaced) (he : e ∈ sent) :
    ∃ n, sent.find? (·.id = e.id) = some n ∧ (e = n ∨ (e.time ≤ n.time ∧ Spaced n e)) := by
  induction sent with
  | nil => cases he
  | cons x sent ih =>
    rw [pairwise_cons] at ho hs
    by_cases hx : x.id = e.id
    · refine ⟨x, by rw [find?_cons_of_pos (by simpa using hx)], ?_⟩
      rcases mem_cons.mp he with rfl | he
      · exact .inl rfl
      · exact .inr ⟨ho.1 e he, hs.1 e he⟩
    · rw [find?_cons_of_neg (by simpa using hx)]
      rcases mem_cons.mp he with rfl | he
      · exact absurd rfl hx
      · exact ih ho.2 hs.2 he

theorem due_after_find (hi : Inv time m) (hnow : m.clock ≤ now)
    (hp : p ∈ findPending time.parse m.db m.history minSeverity now) (he : e ∈ m.sent) (hid : e.id = p.id) :
    e.time + day ≤ now ∨ severityRank e.severity < severityRank p.severity := by
  obtain ⟨n, hn, hrel⟩ := newest_or_spaced hi.ordered hi.spaced he
  obtain ⟨h, hget, hsev, hparse⟩ := hi.newest e.id n hn
  have hnid : n.id = e.id := by simpa using find?_some hn
  have hnpast := hi.past n (mem_of_find?_eq_some hn)
  rcases (due_of_mem hp).history h (hid ▸ hget) with hrank | hcool
  · rw [hsev] at hrank
    rcases hrel with rfl | ⟨_, hspaced⟩
    · exact .inr hrank
    · by_cases hclose : n.time - e.time < day
      · have := hspaced hnid hclose
        exact .inr (by omega)
      · exact .inl (by omega)
  · have hday := day_of_cooled hparse hcool
    rcases hrel with rfl | ⟨hle, _⟩
    · exact .inl hday
    · exact .inl (by omega)

theorem get_history_mark (db : Db) (history : NotificationHistory)
    (id : FindingId) (severity text : String) (k : FindingId) :
    ∃ h, (markNotified db history id severity text).2.get k = (if k = id then some h else history.get k) ∧
      h.lastNotifiedSeverity = severity ∧ h.lastNotifiedAt = text := by
  have hupsert := Table.get_upsert history ⟨id, text, text, severity, 1⟩ (·.again text severity) (fun _ => rfl) k
  by_cases hk : k = id
  · subst hk
    cases hget : history.get k with
    | none =>
      rw [hget] at hupsert
      exact ⟨⟨k, text, text, severity, 1⟩, hupsert, rfl, rfl⟩
    | some h =>
      rw [hget] at hupsert
      exact ⟨h.again text severity, hupsert, rfl, rfl⟩
  · refine ⟨⟨id, text, text, severity, 1⟩, ?_, rfl, rfl⟩
    rw [if_neg hk] at hupsert ⊢
    exact hupsert

theorem turn_inv (hformat : ∀ t text, time.format t = .ok text → time.parse text = .ok t) (hi : Inv time m)
    (h : Turn time m m') : Inv time m' := by
  cases h with
  | write h => exact ⟨hi.past, hi.ordered, hi.spaced, hi.newest, hi.due⟩
  | find minSeverity now hnow =>
    refine ⟨fun e he => ?_, hi.ordered, hi.spaced, hi.newest, fun p hp e he hid => due_after_find hi hnow hp he hid⟩
    have := hi.past e he
    show e.time ≤ now
    omega
  | mark p now text hp hnow htext =>
    have hpast : ∀ e ∈ m.sent, e.time ≤ now := fun e he => by have := hi.past e he; omega
    refine ⟨?_, pairwise_cons.mpr ⟨hpast, hi.ordered⟩, pairwise_cons.mpr ⟨?_, hi.spaced⟩, ?_, ?_⟩
    · intro e he
      rcases mem_cons.mp he with rfl | he
      · exact Int.le_refl _
      · exact hpast e he
    · intro e he hid hclose
      have hclose : now - e.time < day := hclose
      rcases hi.due p hp e he hid.symm with hday | hrank
      · omega
      · exact hrank
    · intro k e hfind
      obtain ⟨h, hget, hsev, hat⟩ := get_history_mark m.db m.history p.id p.severity text k
      by_cases hk : k = p.id
      · rw [Notifier.marked, find?_cons_of_pos (by simp [hk])] at hfind
        cases hfind
        rw [if_pos hk] at hget
        exact ⟨h, hget, hsev, hat ▸ hformat now text htext⟩
      · rw [Notifier.marked, find?_cons_of_neg (by simpa using Ne.symm hk)] at hfind
        rw [if_neg hk] at hget
        obtain ⟨h, hh⟩ := hi.newest k e hfind
        exact ⟨h, hget.trans hh.1, hh.2⟩
    · intro q hq e he hid
      obtain ⟨hq, hne⟩ := mem_filter.mp hq
      rcases mem_cons.mp he with rfl | he
      · exact absurd hid.symm (by simpa using hne)
      · rcases hi.due q hq e he hid with hday | hrank
        · exact .inl (by show _ ≤ now; omega)
        · exact .inr hrank

theorem reach_inv (hformat : ∀ t text, time.format t = .ok text → time.parse text = .ok t) (h : Reach time m) :
    Inv time m := by
  induction h with
  | init db history clock =>
    exact ⟨fun _ h => (not_mem_nil h).elim, .nil, .nil, fun _ _ h => (nomatch h), fun _ h => (not_mem_nil h).elim⟩
  | step _ h ih => exact turn_inv hformat ih h

/-! ## A marked row -/

/-- The row of the identity is there, at the severity. -/
def Shows (k : FindingId) (severity : String) (m : Notifier) : Prop :=
  ∃ r, m.db.warningState.get k = some r ∧ r.severity = severity

/-- Turns after each of which the row is there, at the severity. -/
def WhileShown (time : TimeLib) (k : FindingId) (severity : String) : Notifier → Notifier → Prop :=
  Relation.ReflTransGen fun m m' => Turn time m m' ∧ Shows k severity m'

theorem notified_applyWrites {ws : List RowWrite}
    (hws : ∀ w ∈ ws, ∀ r, (w.overwrite r).notifiedSeverity = r.notifiedSeverity) :
    ∀ {t : WarningState} {r r' : WarningRow}, t.get k = some r → (applyWrites t ws).get k = some r' →
      r'.notifiedSeverity = r.notifiedSeverity := by
  induction ws with
  | nil =>
    intro t r r' hr hr'
    have hr' : t.get k = some r' := hr'
    rw [hr] at hr'
    cases hr'
    rfl
  | cons w ws ih =>
    intro t r r' hr hr'
    have hnext : (w.apply t).get k = some (if k = w.row.id then w.overwrite r else r) := by
      rw [RowWrite.apply, Table.get_upsert, hr]
      split <;> rfl
    rw [ih (fun w' h => hws w' (mem_cons_of_mem _ h)) hnext hr']
    split
    · exact hws w mem_cons_self r
    · rfl

theorem notified_ingestWrites (rfc3339 : String → Except String Int) (read : ManifestRead) (g : Int) (now : String)
    (cfg : IngestConfig) : ∀ w ∈ ingestWrites rfc3339 read g now cfg,
      ∀ r, (w.overwrite r).notifiedSeverity = r.notifiedSeverity := by
  intro w hw r
  rcases mem_ingestWrites hw with ⟨p, x, rfl⟩ | ⟨m, f, rfl⟩ | ⟨m, d, rfl⟩ <;> rfl

/-- No writer but the notifier touches the mark of a row that stays. -/
theorem write_keeps {db' : Db} (h : Write rfc3339 db db') {r r' : WarningRow} (hr : db.warningState.get k = some r)
    (hr' : db'.warningState.get k = some r') : r'.notifiedSeverity = r.notifiedSeverity := by
  cases h with
  | update u h =>
    have hfinish : ∀ r₁, u.finish db r₁ = some r' → r'.notifiedSeverity = r₁.notifiedSeverity := by
      intro r₁ hfin
      have hcore : r'.core.notifiedSeverity = r₁.core.notifiedSeverity :=
        congrArg (·.notifiedSeverity) (finish_core hfin)
      exact hcore
    rcases (run_updated h).row_cases hr' with ⟨f, _, _, s, hfin⟩ | ⟨_, r₁, hr₁, ⟨_, _, hfin⟩ | ⟨_, _, hfin⟩⟩
    · rw [hr] at hfin
      have hkept := hfinish _ hfin
      exact hkept
    · rw [hr] at hr₁
      cases hr₁
      have hkept := hfinish _ hfin
      exact hkept
    · rw [hr] at hr₁
      cases hr₁
      have hkept := hfinish _ hfin
      exact hkept
  | ingest read g now cfg =>
    rw [ingest_warningState] at hr'
    exact notified_applyWrites (notified_ingestWrites rfc3339 read g now cfg) hr hr'
  | coverage c h =>
    obtain ⟨hstate, _, _⟩ := recordCoverage_ok h
    rw [hstate] at hr'
    have hwrite : ∀ w ∈ [coverageWrite c], ∀ r, (w.overwrite r).notifiedSeverity = r.notifiedSeverity := by
      intro w hw r
      rw [mem_singleton] at hw
      exact hw ▸ rfl
    exact notified_applyWrites hwrite hr hr'
  | operator f hf hkeep h =>
    rw [h, Table.get_update, hr] at hr'
    cases hr'
    exact hkeep r
  | elsewhere h =>
    rw [h, hr] at hr'
    cases hr'
    rfl

/-- A row that has been marked at its severity, and is not waiting to be marked. -/
structure Settled (k : FindingId) (severity : String) (m : Notifier) : Prop where
  row : ∃ r, m.db.warningState.get k = some r ∧ r.severity = severity ∧ r.notifiedSeverity = some severity
  unpending : ∀ p ∈ m.pending, p.id ≠ k

theorem Settled.not_found (h : Settled k severity m) (rfc3339 : String → Except String Int) (minSeverity : String)
    (now : Int) : ∀ p ∈ findPending rfc3339 m.db m.history minSeverity now, p.id ≠ k := by
  intro p hp hid
  obtain ⟨r, hr, hsev, hnot⟩ := h.row
  obtain ⟨r', hr', hn, _⟩ := (due_of_mem hp).row
  rw [hid, hr] at hr'
  cases hr'
  simp [WarningRow.notifiable, hnot, hsev] at hn

theorem get_warningState_mark (db : Db) (history : NotificationHistory)
    (id : FindingId) (severity text : String) (k : FindingId) :
    (markNotified db history id severity text).1.warningState.get k =
      if k = id then (db.warningState.get k).map (·.setNotified severity) else db.warningState.get k :=
  Table.get_updateKey _ _ _ (id_setNotified severity) _

theorem settled_turn (hs : Settled k severity m) (h : Turn time m m') (hshow : Shows k severity m') :
    Settled k severity m' := by
  obtain ⟨r, hr, hsev, hnot⟩ := hs.row
  cases h with
  | write h =>
    obtain ⟨r', hr', hsev'⟩ := hshow
    exact ⟨⟨r', hr', hsev', (write_keeps h hr hr').trans hnot⟩, hs.unpending⟩
  | find minSeverity now hnow => exact ⟨⟨r, hr, hsev, hnot⟩, hs.not_found time.parse minSeverity now⟩
  | mark p now text hp hnow htext =>
    have hne : k ≠ p.id := Ne.symm (hs.unpending p hp)
    refine ⟨⟨r, ?_, hsev, hnot⟩, fun q hq => hs.unpending q (mem_filter.mp hq).1⟩
    rw [Notifier.marked, get_warningState_mark, if_neg hne]
    exact hr

theorem settled_run (hs : Settled k severity m) (h : WhileShown time k severity m m') : Settled k severity m' := by
  induction h with
  | refl => exact hs
  | tail _ h ih => exact settled_turn ih h.1 h.2

/-- Right after its mark, if it is still there at the severity that was marked. -/
theorem settled_marked (hshow : Shows p.id p.severity m) (now : Int) (text : String) :
    Settled p.id p.severity (m.marked p now text) := by
  obtain ⟨r, hr, hsev⟩ := hshow
  refine ⟨⟨r.setNotified p.severity, ?_, hsev, rfl⟩, fun q hq => by simpa using (mem_filter.mp hq).2⟩
  rw [Notifier.marked, get_warningState_mark, if_pos rfl, hr]
  rfl

/-- A pass that no writer interrupts marks every row at the severity it shows. -/
theorem shows_of_pass (h : Marks (m.found time.parse minSeverity now) m') :
    ∀ p ∈ m'.pending, Shows p.id p.severity m' := by
  induction h with
  | refl =>
    intro p hp
    obtain ⟨r, hr, _, hsev⟩ := (due_of_mem hp).row
    exact ⟨r, hr, hsev⟩
  | tail _ h ih =>
    obtain ⟨p, _, now, text, rfl⟩ := h
    intro q hq
    obtain ⟨r, hr, hsev⟩ := ih q (mem_filter.mp hq).1
    have hne : q.id ≠ p.id := by simpa using (mem_filter.mp hq).2
    refine ⟨r, ?_, hsev⟩
    rw [Notifier.marked, get_warningState_mark, if_neg hne]
    exact hr

/-! ## No storm -/

/-- The notifications of one identity, newest first. -/
def Notifier.sentFor (m : Notifier) (k : FindingId) : List Notification := m.sent.filter (·.id = k)

theorem spaced_sentFor (hi : Inv time m) (k : FindingId) : (m.sentFor k).Pairwise fun later earlier =>
    earlier.time ≤ later.time ∧ (later.time - earlier.time < day →
      severityRank earlier.severity < severityRank later.severity) := by
  refine ((hi.ordered.and hi.spaced).filter _).imp_of_mem fun {later earlier} hlater hearlier ⟨hle, hspaced⟩ =>
    ⟨hle, hspaced ?_⟩
  have hlater : later.id = k := by simpa using (mem_filter.mp hlater).2
  have hearlier : earlier.id = k := by simpa using (mem_filter.mp hearlier).2
  exact hlater.trans hearlier.symm

theorem window_length (hi : Inv time m) (k : FindingId) (level : Nat) (start : Int) :
    ((m.sentFor k).filter fun n => severityRank n.severity = level ∧ start ≤ n.time ∧
      n.time < start + day).length ≤ 1 := by
  have hpairs := (spaced_sentFor hi k).filter fun n =>
    severityRank n.severity = level ∧ start ≤ n.time ∧ n.time < start + day
  cases hl : (m.sentFor k).filter fun n => severityRank n.severity = level ∧ start ≤ n.time ∧ n.time < start + day with
  | nil => simp
  | cons a l =>
    cases l with
    | nil => simp
    | cons b l =>
      have hin : ∀ n ∈ a :: b :: l, severityRank n.severity = level ∧ start ≤ n.time ∧ n.time < start + day := by
        intro n hn
        rw [← hl] at hn
        simpa using (mem_filter.mp hn).2
      have hpairs := hl ▸ hpairs
      obtain ⟨_, hrank⟩ := (pairwise_cons.mp hpairs).1 b mem_cons_self
      obtain ⟨hal, has, hae⟩ := hin a mem_cons_self
      obtain ⟨hbl, hbs, hbe⟩ := hin b (mem_cons_of_mem _ mem_cons_self)
      have := hrank (by omega)
      omega

/-- In every run: any two notifications of an identity within 24 hours rise in rank, so
    there is at most one per rank in any 24 hours; a row marked at the severity it shows is
    not returned again while it stays there at that severity, whatever the time; and a
    pass marks every row at the severity it shows unless another writer comes in between. -/
theorem no_notification_storm (hformat : ∀ t text, time.format t = .ok text → time.parse text = .ok t)
    (h : Reach time m) :
    (∀ k, (m.sentFor k).Pairwise fun later earlier => earlier.time ≤ later.time ∧
      (later.time - earlier.time < day → severityRank earlier.severity < severityRank later.severity)) ∧
    (∀ k level start, ((m.sentFor k).filter fun n =>
      severityRank n.severity = level ∧ start ≤ n.time ∧ n.time < start + day).length ≤ 1) ∧
    (∀ p ∈ m.pending, ∀ now text m', Shows p.id p.severity m →
      WhileShown time p.id p.severity (m.marked p now text) m' →
      ∀ minSeverity now', ∀ q ∈ findPending time.parse m'.db m'.history minSeverity now', q.id ≠ p.id) ∧
    (∀ minSeverity now m', Marks (m.found time.parse minSeverity now) m' →
      ∀ p ∈ m'.pending, Shows p.id p.severity m') := by
  have hi := reach_inv hformat h
  refine ⟨spaced_sentFor hi, window_length hi, ?_, fun _ _ _ hmarks => shows_of_pass hmarks⟩
  intro p _ now text m' hshow hwhile minSeverity now'
  exact (settled_run (settled_marked hshow now text) hwhile).not_found time.parse minSeverity now'

/-! ## A run -/

/-- The clock of the run below: two readings an hour apart. -/
def sampleTime : TimeLib where
  parse
    | "1970-01-01T00:00:00Z" => .ok 0
    | "1970-01-01T01:00:00Z" => .ok 3600000000000
    | _ => .error "not read"
  format
    | 0 => .ok "1970-01-01T00:00:00Z"
    | 3600000000000 => .ok "1970-01-01T01:00:00Z"
    | _ => .error "not read"
  checkedAdd a b := some (a + b)

theorem sampleTime_format (t : Int) (text : String)
    (h : sampleTime.format t = .ok text) : sampleTime.parse text = .ok t := by
  simp only [sampleTime] at h
  split at h
  · cases h; rfl
  · cases h; rfl
  · cases h

/-- A producer that raises its finding. -/
def raisedManifest : FindingImportManifest :=
  { schema := importSchemaId, contractVersion := 1, producerId := "corpus", extractionRunId := "run-1"
    producerExtractionTime := "1970-01-01T01:00:00Z"
    findings := [{ host := "db-1", detector := "wal_bloat", subject := "/data/app.db", severity := "critical" }] }

def strayPending (severity : String) (kind : NotificationKind) (gens : Int) : PendingNotification :=
  ⟨"db-1", "Δg", "wal_bloat", "/data/app.db", severity, kind, gens, "", none, .degradation, none⟩

/-- A finding is notified at info, raised within the hour and notified at critical. -/
theorem a_raised_finding_is_notified_again : ∃ m, Reach sampleTime m ∧
    m.sent = [⟨strayFinding.id, "critical", 3600000000000⟩, ⟨strayFinding.id, "info", 0⟩] ∧
    ∀ k level start, ((m.sentFor k).filter fun n =>
      severityRank n.severity = level ∧ start ≤ n.time ∧ n.time < start + day).length ≤ 1 := by
  let first := strayPending "info" .new 1
  let second := strayPending "critical" (.escalated "info") 2
  have h : (((strayCall 1).run (Db.published 1)).toOption.map fun db =>
      let m₁ := (Notifier.mk db .empty [] 0 []).found sampleTime.parse "info" 0
      let m₂ := m₁.marked first 0 "1970-01-01T00:00:00Z"
      let raised := (ingestFindingImport sampleTime.parse m₂.db (.parsed raisedManifest) 2 "1970-01-01T01:00:00Z" {}).1
      let m₃ := ({ m₂ with db := raised }).found sampleTime.parse "info" 3600000000000
      (decide (first ∈ m₁.pending), decide (second ∈ m₃.pending))) = some (true, true) := by decide +kernel
  obtain ⟨db, hrun, hread⟩ := Sql.ok_of_toOption h
  simp only [Prod.mk.injEq, decide_eq_true_eq] at hread
  have hreach : Reach sampleTime _ := .step (.step (.step (.step (.step (.step (.init (Db.published 1) .empty 0)
    (.write (.update _ hrun))) (.find "info" 0 (Int.le_refl 0)))
    (.mark first 0 "1970-01-01T00:00:00Z" hread.1 (Int.le_refl 0) rfl))
    (.write (.ingest (.parsed raisedManifest) 2 "1970-01-01T01:00:00Z" {})))
    (.find "info" 3600000000000 (show (0 : Int) ≤ 3600000000000 by decide)))
    (.mark second 3600000000000 "1970-01-01T01:00:00Z" hread.2 (Int.le_refl _) rfl)
  exact ⟨_, hreach, rfl, (no_notification_storm sampleTime_format hreach).2.1⟩

end Nq.Notify
