/-
  Nq.Preflight.WalSustained — whether sustained WAL pressure is classified.

  The window starts twelve hours before now, and severe pressure has to last twelve hours
  within it. So rows that are severe throughout are reported severe exactly when the oldest
  row of the window is as old as the window, and there are three hundred
  (`sustained_pressure_iff`). A probe that is out of step with the evaluation is never
  reported severe: `half_a_minute_out_of_step` is one that looks every minute and is read
  half a minute later. Elevated pressure has six hours of slack, which suffice.
-/

import Mathlib.Algebra.Order.Group.Int
import Nq.Collections.Ordered
import Nq.Preflight.Clock
import Nq.Preflight.WalState

namespace Nq.Preflight

open Collections (Spaced)
open List hiding le_antisymm le_refl le_trans not_le not_lt
open Receipts (Json)

/-! ## The history of a target -/

section

variable (crates : Crates)

def instants (history : List WalRow) : Finset Int := (history.filterMap fun r => crates.parse r.obs.observedAt).toFinset

/-- A history of the probe up to `now`: every row is an observation, written at an instant,
    and no contradiction; consecutive rows are at most 144 s apart; they reach back past the
    window, and up to now. -/
structure Sampled (history : List WalRow) (now : Int) : Prop where
  observed : ∀ r ∈ history, r.obs.observationStatus = .observed
  consistent : ∀ r ∈ history, contradiction crates r = none
  written : ∀ r ∈ history, ∃ t, crates.format t = some r.obs.observedAt
  spaced : Spaced (seconds 144) (instants crates history)
  reaches : ∃ t ∈ instants crates history, t ≤ now - seconds (12 * 3600) - seconds 144
  recent : ∃ t ∈ instants crates history, now - seconds 144 ≤ t

/-- Every row above the severe threshold of bytes, or every row above the severe ratio. -/
def SevereThroughout (rows : List WalRow) : Prop :=
  (∀ r ∈ rows, r.aboveSevereBytes = true) ∨ ∀ r ∈ rows, r.aboveSevereRatio crates = true

/-- The window can be severe: it has three hundred rows, and its last row is twelve hours
    from its first. -/
structure SevereReady (rows : List WalRow) : Prop where
  many : 300 ≤ rows.length
  long : ∃ first ∈ rows, ∃ last ∈ rows, (∀ r ∈ rows, first.upTo r ∧ r.upTo last) ∧
    ∃ t ∈ crates.parse first.obs.observedAt, ∃ u ∈ crates.parse last.obs.observedAt, seconds (12 * 3600) ≤ u - t

end

/-! ## The answer -/

/-- `signals.sqlite_wal_state.threshold_band`. -/
def PreflightResult.thresholdBand (result : PreflightResult) : Option String := do
  let signals ← result.signals
  let inner ← signals.get "sqlite_wal_state"
  let band ← inner.get "threshold_band"
  band.asStr

/-- What the preflight has to say of a history. -/
structure SustainedPressure (crates : Crates) (t : WalTable) (target : SqliteWalTarget) (now : Int) : Prop where
  severe : SevereThroughout crates (t.history target) →
    (evaluateSqliteWalStatePreflightAt crates t target now).thresholdBand = some "severe"
  elevated : (∀ r ∈ walWindow crates t target now, r.aboveElevated = true) →
    (∀ r ∈ t.history target, (∃ u ∈ crates.parse r.obs.observedAt, now - seconds (6 * 3600) - seconds 144 ≤ u) →
      r.aboveElevated = true) →
    ¬ SevereCondition crates (walWindow crates t target now) →
    (evaluateSqliteWalStatePreflightAt crates t target now).thresholdBand = some "elevated"
  onlySevere : (evaluateSqliteWalStatePreflightAt crates t target now).thresholdBand = some "severe" →
    12 * 3600 ≤ computeWindowDurationSeconds crates (walWindow crates t target now) ∧
      SevereThroughout crates (walWindow crates t target now)
  onlyElevated : (evaluateSqliteWalStatePreflightAt crates t target now).thresholdBand = some "elevated" →
    6 * 3600 ≤ computeWindowDurationSeconds crates (walWindow crates t target now) ∧
      ∀ r ∈ walWindow crates t target now, r.aboveElevated = true

section

variable {crates : Crates} {t : WalTable} {target : SqliteWalTarget} {now : Int}

theorem signals_evaluate : (evaluateSqliteWalStatePreflightAt crates t target now).signals =
    some (buildSignals (classifyWindow crates (walWindow crates t target now) now)) := by
  unfold evaluateSqliteWalStatePreflightAt PreflightResult.computeTimeBasis
  dsimp only
  split <;> rfl

/-- The band of the answer is the class of the window. -/
theorem thresholdBand_iff : ((evaluateSqliteWalStatePreflightAt crates t target now).thresholdBand = some "severe" ↔
      Classifiable crates (walWindow crates t target now) now ∧
        SevereCondition crates (walWindow crates t target now)) ∧
    ((evaluateSqliteWalStatePreflightAt crates t target now).thresholdBand = some "elevated" ↔
      Classifiable crates (walWindow crates t target now) now ∧
        ¬ SevereCondition crates (walWindow crates t target now) ∧
        ElevatedCondition crates (walWindow crates t target now)) := by
  have hband : (evaluateSqliteWalStatePreflightAt crates t target now).thresholdBand =
      ((buildSignals (classifyWindow crates (walWindow crates t target now) now)).get
        "sqlite_wal_state").bind fun inner =>
        (inner.get "threshold_band").bind Json.asStr := by
    unfold PreflightResult.thresholdBand
    rw [signals_evaluate]
    rfl
  rw [hband]
  rcases classifyWindow_cases crates (walWindow crates t target now) now with
    ⟨hc, duration, signals, ⟨hs, e⟩ | ⟨hs, he, e⟩ | ⟨hs, he, e⟩⟩ | ⟨hc, ⟨_, e⟩ | ⟨_, e⟩ | e | ⟨_, _, e⟩ | ⟨_, _, e⟩⟩ <;>
      rw [e]
  · have hread : (((buildSignals (.severeSustained duration signals)).get "sqlite_wal_state").bind fun inner =>
        (inner.get "threshold_band").bind Json.asStr) = some "severe" := rfl
    rw [hread]
    simp [hc, hs]
  · have hread : (((buildSignals (.elevatedSustained duration signals)).get "sqlite_wal_state").bind fun inner =>
        (inner.get "threshold_band").bind Json.asStr) = some "elevated" := rfl
    rw [hread]
    simp [hc, hs, he]
  · have hread : (((buildSignals (.boundedWal duration signals)).get "sqlite_wal_state").bind fun inner =>
        (inner.get "threshold_band").bind Json.asStr) = some "bounded" := rfl
    rw [hread]
    simp [hs, he]
  all_goals
    rw [show (((buildSignals _).get "sqlite_wal_state").bind fun inner =>
        (inner.get "threshold_band").bind Json.asStr) = some "unclassified" from rfl]
    simp [hc]

/-! ## The duration of a window -/

section

variable {window : List WalRow} (hsorted : window.Pairwise WalRow.upTo)

include hsorted

/-- The duration is at least `n` seconds if the first and the last row are. -/
theorem le_duration_iff {n : Int} (hn : 0 < n) : n ≤ computeWindowDurationSeconds crates window ↔
    ∃ first ∈ window, ∃ last ∈ window, (∀ r ∈ window, first.upTo r ∧ r.upTo last) ∧
      ∃ x ∈ crates.parse first.obs.observedAt, ∃ y ∈ crates.parse last.obs.observedAt, seconds n ≤ y - x := by
  unfold computeWindowDurationSeconds
  constructor
  · intro h
    split at h
    · omega
    · split at h
      · rename_i x y hx hy
        obtain ⟨first, hfirst, hx⟩ := Option.bind_eq_some_iff.mp hx
        obtain ⟨last, hlast, hy⟩ := Option.bind_eq_some_iff.mp hy
        refine ⟨first, mem_of_head? hfirst, last, mem_of_getLast? hlast, fun r hr => ?_, x, hx, y, hy, ?_⟩
        · exact ⟨upTo_of_head hsorted hfirst r hr, upTo_of_getLast hsorted hlast r hr⟩
        · exact (le_wholeSeconds hn).mp h
      · omega
  · rintro ⟨first, hfirst, last, hlast, hends, x, hx, y, hy, hxy⟩
    have hpos : 0 < y - x := by
      unfold seconds at hxy
      omega
    have htwo : ¬ window.length < 2 := by
      intro hshort
      have hone : ∀ r ∈ window, ∀ r' ∈ window, r = r' := by
        cases window with
        | nil => intro r hr; cases hr
        | cons a rest =>
          have hrest : rest = [] := length_eq_zero_iff.mp (by rw [length_cons] at hshort; omega)
          rw [hrest]
          intro r hr r' hr'
          rw [mem_singleton.mp hr, mem_singleton.mp hr']
      rw [hone first hfirst last hlast] at hx
      rw [Option.mem_def.mp hx] at hy
      cases hy
      omega
    rw [if_neg htwo]
    obtain ⟨a, ha⟩ : ∃ a, window.head? = some a := by
      cases window with
      | nil => cases hfirst
      | cons a rest => exact ⟨a, rfl⟩
    obtain ⟨b, hb⟩ : ∃ b, window.getLast? = some b := by
      cases hl : window.getLast? with
      | none => rw [getLast?_eq_none_iff.mp hl] at hfirst; cases hfirst
      | some b => exact ⟨b, rfl⟩
    -- the first and the last row stand at the ends of the window, as texts
    have hax : crates.parse a.obs.observedAt = some x := by
      rw [← hx, le_antisymm (upTo_of_head hsorted ha first hfirst).le (hends a (mem_of_head? ha)).1.le]
    have hby : crates.parse b.obs.observedAt = some y := by
      rw [← hy, le_antisymm (hends b (mem_of_getLast? hb)).2.le (upTo_of_getLast hsorted hb last hlast).le]
    simp only [ha, hb, Option.bind_some, hax, hby]
    exact (le_wholeSeconds hn).mpr hxy

end

/-! ## The window of a sampled history -/

section

variable (htime : crates.Rfc3339) {x : Int} {r : WalRow}

theorem mem_instants {history : List WalRow} :
    x ∈ instants crates history ↔ ∃ r ∈ history, crates.parse r.obs.observedAt = some x := by
  rw [instants, mem_toFinset, mem_filterMap]

include htime

theorem Sampled.format (h : Sampled crates (t.history target) now) (hr : r ∈ t.history target)
    (hx : crates.parse r.obs.observedAt = some x) : crates.format x = some r.obs.observedAt := by
  obtain ⟨y, hy⟩ := h.written r hr
  rw [htime.parse_format y _ hy] at hx
  cases hx
  exact hy

/-- The window starts at an instant that has a text: rows of the history lie on both sides. -/
theorem Sampled.start (h : Sampled crates (t.history target) now) :
    crates.format (now - seconds (12 * 3600)) = some (walWindowStart crates now) := by
  obtain ⟨x, hx, hxle⟩ := h.reaches
  obtain ⟨y, hy, hyge⟩ := h.recent
  obtain ⟨r, hr, hrx⟩ := mem_instants.mp hx
  obtain ⟨r', hr', hry⟩ := mem_instants.mp hy
  have hsome : (crates.format (now - seconds (12 * 3600))).isSome := by
    refine htime.between x _ y ?_ ?_ (by rw [h.format htime hr hrx]; rfl) (by rw [h.format htime hr' hry]; rfl)
    · unfold seconds at *
      omega
    · unfold seconds at *
      omega
  obtain ⟨start, hstart⟩ := Option.isSome_iff_exists.mp hsome
  have hwindow : walWindowStart crates now = start := by
    rw [walWindowStart, walWindowDurationSeconds, hstart]
    rfl
  rw [hwindow, hstart]

/-- Rows from a later second than the start's are in the window. -/
theorem Sampled.mem_recentRows (h : Sampled crates (t.history target) now) (hr : r ∈ t.history target)
    (hx : crates.parse r.obs.observedAt = some x) (hlater : (now - seconds (12 * 3600)) / seconds 1 < x / seconds 1) :
    r ∈ recentRows crates t target now := by
  have hlt := htime.sorted _ _ _ _ (h.start htime) (h.format htime hr hx) hlater
  exact mem_filter.mpr ⟨hr, decide_eq_true hlt.le⟩

/-- Rows in order are not of falling seconds. -/
theorem Sampled.seconds_le (h : Sampled crates (t.history target) now) {a b : WalRow} (ha : a ∈ t.history target)
    (hb : b ∈ t.history target) {y : Int} (hx : crates.parse a.obs.observedAt = some x)
    (hy : crates.parse b.obs.observedAt = some y) (hab : a.obs.observedAt ≤ b.obs.observedAt) :
    x / seconds 1 ≤ y / seconds 1 := by
  by_contra hlt
  exact absurd (htime.sorted _ _ _ _ (h.format htime hb hy) (h.format htime ha hx) (by omega)) (not_lt.mpr hab)

/-- The window of a sampled history passes the gates, and has six hours. -/
theorem Sampled.classifiable (h : Sampled crates (t.history target) now) :
    Classifiable crates (walWindow crates t target now) now ∧
      6 * 3600 ≤ computeWindowDurationSeconds crates (walWindow crates t target now) := by
  obtain ⟨x₀, hx₀, hx₀le⟩ := h.reaches
  obtain ⟨y₀, hy₀, hy₀ge⟩ := h.recent
  -- the first row after the second the window starts in
  obtain ⟨x, hx, hxgt, hxle⟩ := h.spaced.crossing (x := now - seconds (12 * 3600) + seconds 1) hx₀
    (by unfold seconds at *; omega) hy₀ (by unfold seconds at *; omega)
  obtain ⟨a, ha, hax⟩ := mem_instants.mp hx
  obtain ⟨b, hb, hby⟩ := mem_instants.mp hy₀
  have hmem : ∀ {r : WalRow} {z : Int}, r ∈ t.history target → crates.parse r.obs.observedAt = some z → x ≤ z →
      r ∈ walWindow crates t target now := by
    intro r z hr hz hxz
    refine mem_walWindow.mpr (h.mem_recentRows htime hr hz ?_)
    unfold seconds at *
    omega
  have ha' := hmem ha hax (le_refl x)
  have hb' := hmem hb hby (by unfold seconds at *; omega)
  have hhistory : ∀ r ∈ walWindow crates t target now, r ∈ t.history target :=
    fun r hr => (mem_filter.mp (mem_walWindow.mp hr)).1
  have hread : ∀ r ∈ walWindow crates t target now, ∃ z, crates.parse r.obs.observedAt = some z := by
    intro r hr
    obtain ⟨z, hz⟩ := h.written r (hhistory r hr)
    exact ⟨z, htime.parse_format z _ hz⟩
  obtain ⟨first, hfirst⟩ : ∃ first, (walWindow crates t target now).head? = some first := by
    cases hw : walWindow crates t target now with
    | nil => rw [hw] at ha'; cases ha'
    | cons r rest => exact ⟨r, rfl⟩
  obtain ⟨last, hlast⟩ : ∃ last, (walWindow crates t target now).getLast? = some last := by
    cases hl : (walWindow crates t target now).getLast? with
    | none => rw [getLast?_eq_none_iff.mp hl] at ha'; cases ha'
    | some r => exact ⟨r, rfl⟩
  have hfirst' := mem_of_head? hfirst
  have hlast' := mem_of_getLast? hlast
  obtain ⟨u, hu⟩ := hread first hfirst'
  obtain ⟨v, hv⟩ := hread last hlast'
  have hux := h.seconds_le htime (hhistory _ hfirst') ha hu hax (upTo_of_head walWindow_pairwise hfirst a ha').le
  have hyv := h.seconds_le htime hb (hhistory _ hlast') hby hv (upTo_of_getLast walWindow_pairwise hlast b hb').le
  have hmany : 99 < (walWindow crates t target now).length := by
    have hroom : (99 : ℕ) • seconds 144 = seconds (99 * 144) := rfl
    have hcard := h.spaced.lt_card (by unfold seconds; omega) hy₀ 99 hx (by rw [hroom]; unfold seconds at *; omega)
    refine lt_of_lt_of_le hcard (le_trans (Finset.card_le_card fun z hz => ?_)
      (le_trans (toFinset_card_le ((walWindow crates t target now).filterMap fun r => crates.parse r.obs.observedAt))
        (length_filterMap_le _ _)))
    obtain ⟨hz, hxz⟩ := Finset.mem_filter.mp hz
    obtain ⟨r, hr, hrz⟩ := mem_instants.mp hz
    exact mem_toFinset.mpr (mem_filterMap.mpr ⟨r, hmem hr hrz hxz, hrz⟩)
  refine ⟨⟨?_, ?_, ⟨last, hlast, v, hv, ?_⟩, hmany⟩, ?_⟩
  · refine findSome?_eq_none_iff.mpr fun r hr => ?_
    rw [h.observed r (hhistory r hr)]
    rfl
  · exact findSome?_eq_none_iff.mpr fun r hr => h.consistent r (hhistory r hr)
  · by_contra hstale
    have hage := (le_wholeSeconds (by unfold walStaleThresholdSeconds; omega)).mp (not_le.mp hstale).le
    unfold walStaleThresholdSeconds at hage
    unfold seconds at *
    omega
  · refine (le_duration_iff walWindow_pairwise (by omega)).mpr ⟨first,
      hfirst', last, hlast', fun r hr => ?_, u, hu, v, hv, ?_⟩
    · exact ⟨upTo_of_head walWindow_pairwise hfirst r hr, upTo_of_getLast walWindow_pairwise hlast r hr⟩
    · unfold seconds at *
      omega

end

/-! ## Sustained pressure -/

theorem allSevere_iff {window : List WalRow} : allSevere crates window = true ↔
    window ≠ [] ∧ SevereThroughout crates window := by
  simp [allSevere, SevereThroughout]

theorem allElevated_iff {window : List WalRow} :
    allElevated window = true ↔ window ≠ [] ∧ ∀ r ∈ window, r.aboveElevated = true := by
  simp [allElevated]

/-- The severe condition on the window, read off the rows it is made of. -/
theorem severeCondition_iff_ready : SevereCondition crates (walWindow crates t target now) ↔
    SevereReady crates (recentRows crates t target now) ∧ SevereThroughout crates (walWindow crates t target now) := by
  have hmem : ∀ r, r ∈ walWindow crates t target now ↔ r ∈ recentRows crates t target now := fun r => mem_walWindow
  have hlong : 12 * 3600 ≤ computeWindowDurationSeconds crates (walWindow crates t target now) ↔ _ :=
    le_duration_iff walWindow_pairwise (by omega)
  simp only [hmem] at hlong
  constructor
  · rintro ⟨hmany, hdur, hall⟩
    exact ⟨⟨length_walWindow ▸ hmany, hlong.mp hdur⟩, (allSevere_iff.mp hall).2⟩
  · rintro ⟨⟨hmany, hdur⟩, hall⟩
    have hlen : 300 ≤ (walWindow crates t target now).length := length_walWindow.symm ▸ hmany
    refine ⟨hlen, hlong.mpr hdur, allSevere_iff.mpr ⟨fun hnil => ?_, hall⟩⟩
    rw [hnil] at hlen
    exact absurd hlen (by decide)

theorem SevereThroughout.window (h : SevereThroughout crates (t.history target)) :
    SevereThroughout crates (walWindow crates t target now) := by
  have hsub : ∀ r ∈ walWindow crates t target now, r ∈ t.history target :=
    fun r hr => (mem_filter.mp (mem_walWindow.mp hr)).1
  rcases h with h | h
  · exact Or.inl fun r hr => h r (hsub r hr)
  · exact Or.inr fun r hr => h r (hsub r hr)

end

/-- Every history the probe leaves is classified by its pressure, if one that is severe
    throughout has three hundred rows in the window, the first and the last twelve hours
    apart; and only then. -/
theorem sustained_pressure_iff (crates : Crates) (htime : crates.Rfc3339)
    (t : WalTable) (target : SqliteWalTarget) (now : Int)
    (h : Sampled crates (t.history target) now) : SustainedPressure crates t target now ↔
      (SevereThroughout crates (t.history target) → SevereReady crates (recentRows crates t target now)) := by
  obtain ⟨hclassifiable, hsix⟩ := h.classifiable htime
  have hsevere := (@thresholdBand_iff crates t target now).1
  have helevated := (@thresholdBand_iff crates t target now).2
  constructor
  · intro hp hall
    exact (severeCondition_iff_ready.mp (hsevere.mp (hp.severe hall)).2).1
  · intro hready
    refine ⟨fun hall => ?_, fun hall _ hnot => ?_, fun hband => ?_, fun hband => ?_⟩
    · exact hsevere.mpr ⟨hclassifiable, severeCondition_iff_ready.mpr ⟨hready hall, hall.window⟩⟩
    · refine helevated.mpr ⟨hclassifiable, hnot, hsix, allElevated_iff.mpr ⟨fun hnil => ?_, hall⟩⟩
      have hmany := hclassifiable.many
      rw [hnil] at hmany
      exact absurd hmany (by decide)
    · have hcondition := (hsevere.mp hband).2
      exact ⟨hcondition.long, (allSevere_iff.mp hcondition.all).2⟩
    · obtain ⟨_, _, hcondition⟩ := helevated.mp hband
      exact ⟨hcondition.long, (allElevated_iff.mp hcondition.all).2⟩

/-! ## A probe that looks every 144 seconds -/

/-- The instant of the `k`th look, and its text. -/
def lookAt (k : Nat) : Int := day + seconds (144 * k)

def lookText (k : Nat) : String := String.ofList (dayText (144 * k) 0)

variable {k : Nat}

theorem format_lookAt (hk : k ≤ 302) : dayCrates.format (lookAt k) = some (lookText k) := by
  rw [format_dayCrates]
  refine dayFormat_iff.mpr ⟨144 * k, 0, by omega, by omega, ?_, rfl⟩
  unfold lookAt seconds
  push_cast
  omega

theorem parse_lookText (hk : k ≤ 302) : dayCrates.parse (lookText k) = some (lookAt k) :=
  dayCrates_rfc3339.parse_format _ _ (format_lookAt hk)

theorem lookText_lt {j : Nat} (hjk : j < k) (hk : k ≤ 302) : lookText j < lookText k :=
  (before_dayText (by omega) (by omega)).lt

/-- Eleven gigabytes of WAL, before a database that has not moved since midnight. -/
def look (k : Nat) : WalRow :=
  ⟨k + 1, { generationId := k + 1, host := "labelwatch", dbFilePath := "/var/lib/labelwatch.db"
            observationStatus := .observed, walPresent := some true, walBytes := some 11000000000
            walMtime := some (lookText k), dbBytes := some 26000000000, dbMtime := some (lookText 0)
            procAccess := .notAttempted, pinnedReaderPresent := none, pinnedReaderPid := none
            pinnedReaderCommand := none
            observedAt := lookText k, errorDetail := none }⟩

theorem look_checked (k : Nat) : (look k).obs.Checked where
  walBytes := by rintro n ⟨⟩; decide
  dbBytes := by rintro n ⟨⟩; decide
  walAbsent := fun _ h => absurd rfl h
  unread := fun _ => ⟨rfl, rfl, rfl⟩
  read := fun h => nomatch h
  unpinned := fun h => nomatch h
  reader := rfl
  observed := fun _ => ⟨rfl, rfl, rfl, rfl, rfl⟩
  unobserved := fun h => absurd rfl h

def looks : WalTable where
  table := ⟨(List.range 303).map look, nodup_numbered (fun _ => rfl) 303⟩
  checked := by
    intro r hr
    obtain ⟨k, _, rfl⟩ := List.mem_map.mp hr
    exact look_checked k

def labelwatch : SqliteWalTarget := ⟨"labelwatch", "/var/lib/labelwatch.db"⟩

theorem mem_looks {r : WalRow} : r ∈ looks.history labelwatch ↔ ∃ k ≤ 302, r = look k := by
  have hall : looks.history labelwatch = (List.range 303).map look := by
    refine filter_eq_self.mpr fun r hr => ?_
    obtain ⟨k, _, rfl⟩ := List.mem_map.mp hr
    rfl
  rw [hall, List.mem_map]
  constructor
  · rintro ⟨k, hk, rfl⟩
    exact ⟨k, by have := List.mem_range.mp hk; omega, rfl⟩
  · rintro ⟨k, hk, rfl⟩
    exact ⟨k, List.mem_range.mpr (by omega), rfl⟩

theorem mem_lookAts {x : Int} : x ∈ instants dayCrates (looks.history labelwatch) ↔ ∃ k ≤ 302, x = lookAt k := by
  rw [mem_instants]
  constructor
  · rintro ⟨r, hr, hx⟩
    obtain ⟨k, hk, rfl⟩ := mem_looks.mp hr
    rw [show (look k).obs.observedAt = lookText k from rfl, parse_lookText hk] at hx
    exact ⟨k, hk, (Option.some.inj hx).symm⟩
  · rintro ⟨k, hk, rfl⟩
    exact ⟨look k, mem_looks.mpr ⟨k, hk, rfl⟩, parse_lookText hk⟩

theorem looks_severe : SevereThroughout dayCrates (looks.history labelwatch) := by
  refine Or.inl fun r hr => ?_
  obtain ⟨k, _, rfl⟩ := mem_looks.mp hr
  rfl

theorem consistent_look (hk : k ≤ 302) : contradiction dayCrates (look k) = none := by
  refine contradiction_eq_none fun x hx raw hraw y hy => ?_
  rw [show (look k).obs.observedAt = lookText k from rfl, parse_lookText hk] at hx
  cases hx
  rcases hraw with hraw | hraw
  · cases hraw
    rw [parse_lookText (Nat.zero_le 302)] at hy
    cases hy
    unfold lookAt seconds
    omega
  · cases hraw
    rw [parse_lookText hk] at hy
    cases hy
    exact le_refl _

theorem looks_sampled {d : Int} (hfrom : 43488 ≤ d) (hto : d ≤ 43600) :
    Sampled dayCrates (looks.history labelwatch) (day + seconds d) := by
  refine ⟨fun r hr => ?_, fun r hr => ?_, fun r hr => ?_, fun x hx y hy hxy => ?_, ?_, ?_⟩
  · obtain ⟨k, _, rfl⟩ := mem_looks.mp hr
    rfl
  · obtain ⟨k, hk, rfl⟩ := mem_looks.mp hr
    exact consistent_look hk
  · obtain ⟨k, hk, rfl⟩ := mem_looks.mp hr
    exact ⟨lookAt k, format_lookAt hk⟩
  · obtain ⟨j, hj, rfl⟩ := mem_lookAts.mp hx
    obtain ⟨k, hk, rfl⟩ := mem_lookAts.mp hy
    unfold lookAt seconds at hxy
    refine ⟨lookAt (j + 1), mem_lookAts.mpr ⟨j + 1, by omega, rfl⟩, ?_, ?_⟩
    · unfold lookAt seconds
      push_cast
      omega
    · unfold lookAt seconds
      push_cast
      omega
  · refine ⟨lookAt 1, mem_lookAts.mpr ⟨1, by omega, rfl⟩, ?_⟩
    unfold lookAt seconds
    push_cast
    omega
  · refine ⟨lookAt 302, mem_lookAts.mpr ⟨302, by omega, rfl⟩, ?_⟩
    unfold lookAt seconds
    push_cast
    omega

/-- The looks from the window's start on. -/
theorem mem_recentLooks {d : Int} (hfrom : 43488 ≤ d) (hto : d ≤ 43600) {r : WalRow} :
    r ∈ recentRows dayCrates looks labelwatch (day + seconds d) ↔
      ∃ k : Nat, k ≤ 302 ∧ d - 43200 ≤ 144 * (k : Int) ∧ r = look k := by
  have hsampled := looks_sampled hfrom hto
  have hstart := hsampled.start dayCrates_rfc3339
  obtain ⟨n, f, hn, hf, hnow, htext⟩ := dayFormat_iff.mp hstart
  have hsecond : (n : Int) = d - 43200 ∧ f = 0 := by
    unfold seconds at hnow
    push_cast at hnow
    omega
  rw [recentRows, mem_filter, mem_looks, htext]
  constructor
  · rintro ⟨⟨k, hk, rfl⟩, hle⟩
    refine ⟨k, hk, ?_, rfl⟩
    by_contra hlate
    have hlt : lookText k < String.ofList (dayText n f) := (before_dayText (by omega) hn).lt
    exact absurd (of_decide_eq_true hle) (not_le.mpr hlt)
  · rintro ⟨k, hk, hle, rfl⟩
    refine ⟨⟨k, hk, rfl⟩, decide_eq_true ?_⟩
    rcases Nat.lt_or_ge n (144 * k) with hlt | hge
    · exact (before_dayText hlt (by omega)).lt.le
    · have hn : n = 144 * k := by omega
      rw [hn, hsecond.2]
      exact le_refl (lookText k)

/-- Read as the probe looks, the history is severe. -/
theorem in_step_is_severe : SustainedPressure dayCrates looks labelwatch (day + seconds 43488) := by
  have hmem := @mem_recentLooks 43488 (by omega) (by omega)
  have hend : ∀ k ≤ 302, 2 ≤ k → look k ∈ recentRows dayCrates looks labelwatch (day + seconds 43488) :=
    fun k hk hk' => hmem.mpr ⟨k, hk, by omega, rfl⟩
  refine (sustained_pressure_iff dayCrates dayCrates_rfc3339 looks labelwatch (day + seconds 43488)
    (looks_sampled (by omega) (by omega))).mpr fun _ => ⟨?_, look 2, hend 2 (by omega) (by omega), look 302,
      hend 302 (by omega) (by omega), fun r hr =>
        ?_, lookAt 2, parse_lookText (by omega), lookAt 302, parse_lookText (by omega), ?_⟩
  · have hnodup : ((List.range 301).map fun i => look (i + 2)).Nodup := by
      refine List.Nodup.map (fun j k h => ?_) nodup_range
      have h : ((j + 2 : Nat) : Int) + 1 = ((k + 2 : Nat) : Int) + 1 := congrArg Stored.observationId h
      omega
    have hsub : (List.range 301).map (fun i => look (i + 2)) ⊆
        recentRows dayCrates looks labelwatch (day + seconds 43488) := by
      intro r hr
      obtain ⟨i, hi, rfl⟩ := List.mem_map.mp hr
      exact hend (i + 2) (by have := List.mem_range.mp hi; omega) (by omega)
    have hlen := (List.Nodup.subperm hnodup hsub).length_le
    rw [length_map, List.length_range] at hlen
    omega
  · obtain ⟨k, hk, hle, rfl⟩ := hmem.mp hr
    have hup : ∀ {i j : Nat}, i ≤ j → j ≤ 302 → (look i).upTo (look j) := by
      intro i j hij hj
      rcases Nat.lt_or_ge i j with h | h
      · exact Or.inl (lookText_lt h hj)
      · have e : i = j := by omega
        exact e ▸ (look i).upTo_refl
    exact ⟨hup (by omega) hk, hup hk (by omega)⟩
  · unfold lookAt seconds
    push_cast
    omega

/-- Read half a minute later, it is elevated. -/
theorem half_a_minute_out_of_step : Sampled dayCrates (looks.history labelwatch) (day + seconds 43518) ∧
    SevereThroughout dayCrates (looks.history labelwatch) ∧
    (evaluateSqliteWalStatePreflightAt dayCrates looks labelwatch (day + seconds 43518)).thresholdBand =
      some "elevated" ∧ ¬ SustainedPressure dayCrates looks labelwatch (day + seconds 43518) := by
  have hsampled := looks_sampled (d := 43518) (by omega) (by omega)
  have hmem := @mem_recentLooks 43518 (by omega) (by omega)
  obtain ⟨hclassifiable, hsix⟩ := hsampled.classifiable dayCrates_rfc3339
  have hnot : ¬ SevereCondition dayCrates (walWindow dayCrates looks labelwatch (day + seconds 43518)) := by
    intro h
    obtain ⟨first, hfirst, last, hlast, _, x, hx, y, hy, hxy⟩ := (severeCondition_iff_ready.mp h).1.long
    obtain ⟨j, hj, hjle, rfl⟩ := hmem.mp hfirst
    obtain ⟨k, hk, _, rfl⟩ := hmem.mp hlast
    rw [Option.mem_def, show (look j).obs.observedAt = lookText j from rfl, parse_lookText hj] at hx
    rw [Option.mem_def, show (look k).obs.observedAt = lookText k from rfl, parse_lookText hk] at hy
    cases hx
    cases hy
    unfold lookAt seconds at hxy
    omega
  have hband := (thresholdBand_iff ).2.mpr
    ⟨hclassifiable, hnot, hsix, allElevated_iff.mpr ⟨fun hnil => ?_, fun r hr => ?_⟩⟩
  · refine ⟨hsampled, looks_severe, hband, fun hp => ?_⟩
    have hsevere := hp.severe looks_severe
    rw [hband] at hsevere
    exact absurd hsevere (by decide)
  · have hmany := hclassifiable.many
    rw [hnil] at hmany
    exact absurd hmany (by decide)
  · obtain ⟨k, _, _, rfl⟩ := hmem.mp (mem_walWindow.mp hr)
    rfl

end Nq.Preflight
