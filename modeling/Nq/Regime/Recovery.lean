/-
  Nq.Regime.Recovery — the presences of a finding as runs, and the cycles read off them
  (`regime.rs`, `build_runs`, `filter_short_and_merge_runs`, `extract_cycle_samples`).

  For every set of generations and every window, nothing is lost but single generations, and
  there are as many recovery lags as recurrence intervals, or one more
  (`recovery_runs_sound`).
-/

import Mathlib.Data.List.Sort
import Nq.Collections.Runs

namespace Nq.Regime

open List
open Runs (Run Alternating expand paired total)

inductive RunKind where
  | present | absent
  deriving DecidableEq, Repr

/-! ## Runs and cycles -/

/-- `window_start..=current_gen`. -/
def window (windowStart currentGen : Int) : List Int :=
  (List.range (currentGen + 1 - windowStart).toNat).map fun i : Nat => windowStart + i

def kindAt (observed : List Int) (g : Int) : RunKind := if g ∈ observed then .present else .absent

def buildRuns (observed : List Int) (windowStart currentGen : Int) : List (Run RunKind) :=
  if currentGen < windowStart then [] else Runs.encode ((window windowStart currentGen).map (kindAt observed))

def filterShortAndMergeRuns (runs : List (Run RunKind)) : List (Run RunKind) := Runs.merge (runs.filter (2 ≤ ·.length))

/-- The run at `i`, if it is a presence and an absence follows. -/
def lagAt (runs : List (Run RunKind)) (i : Nat) : Option Int :=
  match runs[i]?, runs[i + 1]? with
  | some r, some next => if r.kind = .present ∧ next.kind = .absent then some r.length else none
  | _, _ => none

/-- The run at `i`, if it is an absence between two presences. -/
def intervalAt (runs : List (Run RunKind)) (i : Nat) : Option Int :=
  if 1 ≤ i then
    match runs[i - 1]?, runs[i]?, runs[i + 1]? with
    | some before, some r, some next =>
      if before.kind = .present ∧ r.kind = .absent ∧ next.kind = .present then some r.length else none
    | _, _, _ => none
  else none

/-- The recovery lags and the recurrence intervals, in the order of the runs. -/
def extractCycleSamples (runs : List (Run RunKind)) : List Int × List Int :=
  ((List.range runs.length).filterMap (lagAt runs), (List.range runs.length).filterMap (intervalAt runs))

def splitLast (samples : List Int) : Option Int × List Int := (samples.getLast?, samples.dropLast)

def medianI64 (values : List Int) : Option Int :=
  let sorted := values.insertionSort (· ≤ ·)
  if values = [] then none
  else if sorted.length % 2 = 1 then sorted[sorted.length / 2]?
  else do
    let low ← sorted[sorted.length / 2 - 1]?
    let high ← sorted[sorted.length / 2]?
    some ((low + high).tdiv 2)

/-! ## Generations beside their own -/

section

variable (observed : List Int) (windowStart currentGen : Int)

/-- The generation is in the window, of the kind, and one beside it in the window is as well. -/
def InSegment (kind : RunKind) (g : Int) : Prop :=
  kindAt observed g = kind ∧ (windowStart < g ∧ kindAt observed (g - 1) = kind ∨
    g < currentGen ∧ kindAt observed (g + 1) = kind)

instance (kind : RunKind) (g : Int) : Decidable (InSegment observed windowStart currentGen kind g) :=
  inferInstanceAs (Decidable (_ ∧ _))

theorem window_cons (h : windowStart ≤ currentGen) :
    window windowStart currentGen = windowStart :: window (windowStart + 1) currentGen := by
  unfold window
  obtain ⟨n, hn⟩ : ∃ n, (currentGen + 1 - windowStart).toNat = n + 1 :=
    ⟨(currentGen + 1 - windowStart).toNat - 1, by omega⟩
  have hn' : (currentGen + 1 - (windowStart + 1)).toNat = n := by omega
  rw [hn, hn', range_succ_eq_map, map_cons, map_map]
  congr 1
  · simp
  · refine map_congr_left fun i _ => ?_
    simp only [Function.comp_apply, Nat.succ_eq_add_one, Nat.cast_add, Nat.cast_one]
    omega

theorem window_nil (h : currentGen < windowStart) : window windowStart currentGen = [] := by
  unfold window
  rw [show (currentGen + 1 - windowStart).toNat = 0 by omega]
  rfl

/-- Counted along the window, they are the values beside their own. -/
theorem countP_window (kind : RunKind) (g : Int) (hg : windowStart ≤ g) :
    (window g currentGen).countP (InSegment observed windowStart currentGen kind) =
      paired kind (decide (windowStart < g ∧ kindAt observed (g - 1) = kind))
        ((window g currentGen).map (kindAt observed)) := by
  by_cases hle : g ≤ currentGen
  · have hhead : ((window (g + 1) currentGen).map (kindAt observed)).head? = some kind ↔
        g < currentGen ∧ kindAt observed (g + 1) = kind := by
      by_cases hlt : g < currentGen
      · rw [window_cons (g + 1) currentGen (by omega)]
        simp [hlt]
      · rw [window_nil (g + 1) currentGen (by omega)]
        simp [hlt]
    have ih := countP_window kind (g + 1) (by omega)
    rw [show g + 1 - 1 = g by omega] at ih
    rw [window_cons g currentGen hle, countP_cons, map_cons, paired, ih, Nat.add_comm]
    congr 1
    · refine if_congr ?_ rfl rfl
      rw [decide_eq_true_iff, decide_eq_true_iff, hhead]
      rfl
    · congr 1
      rw [decide_eq_decide]
      exact and_iff_right (by omega)
  · rw [window_nil g currentGen (by omega)]
    rfl
  termination_by (currentGen + 1 - g).toNat

theorem expand_buildRuns :
    expand (buildRuns observed windowStart currentGen) = (window windowStart currentGen).map (kindAt observed) := by
  unfold buildRuns
  by_cases h : currentGen < windowStart
  · rw [if_pos h, window_nil windowStart currentGen h]
    rfl
  · rw [if_neg h, Runs.expand_encode]

theorem alternating_buildRuns : Alternating (buildRuns observed windowStart currentGen) := by
  unfold buildRuns
  by_cases h : currentGen < windowStart
  · rw [if_pos h]
    exact .nil
  · rw [if_neg h]
    exact Runs.alternating_encode _

theorem one_le_buildRuns : ∀ r ∈ buildRuns observed windowStart currentGen, 1 ≤ r.length := by
  unfold buildRuns
  by_cases h : currentGen < windowStart
  · rw [if_pos h]
    exact nofun
  · rw [if_neg h]
    exact Runs.one_le_length_encode _

theorem sum_buildRuns :
    ((buildRuns observed windowStart currentGen).map Run.length).sum = max 0 (currentGen + 1 - windowStart) := by
  unfold buildRuns
  by_cases h : currentGen < windowStart
  · rw [if_pos h, map_nil, sum_nil]
    omega
  · rw [if_neg h, Runs.sum_length_encode, length_map]
    unfold window
    rw [length_map, List.length_range]
    omega

/-- The filtered runs of a kind add up to the generations that are beside their own. -/
theorem total_filterShort (kind : RunKind) :
    total kind (filterShortAndMergeRuns (buildRuns observed windowStart currentGen)) =
    (window windowStart currentGen).countP (InSegment observed windowStart currentGen kind) := by
  unfold filterShortAndMergeRuns
  have hcount := countP_window observed windowStart currentGen kind windowStart (Int.le_refl _)
  rw [decide_eq_false fun h => absurd h.1 (Int.lt_irrefl _)] at hcount
  rw [Runs.total_merge, ← Runs.paired_expand kind (alternating_buildRuns observed windowStart currentGen)
    (one_le_buildRuns observed windowStart currentGen), expand_buildRuns, hcount]

end

/-! ## Samples -/

/-- One lag for each presence that an absence follows. -/
def lagsOf (runs : List (Run RunKind)) : List Int :=
  (runs.zip runs.tail).filterMap fun (r, next) => if r.kind = .present ∧
    next.kind = .absent then some r.length else none

/-- One interval for each absence between two presences. -/
def intervalsOf (runs : List (Run RunKind)) : List Int :=
  (runs.zip (runs.tail.zip runs.tail.tail)).filterMap fun (before, r, next) =>
    if before.kind = .present ∧ r.kind = .absent ∧ next.kind = .present then some r.length else none

/-- What is taken along the places of a list with a value in front. -/
theorem filterMap_range_succ {α : Type} (f : Nat → Option α) (n : Nat) :
    (List.range (n + 1)).filterMap f = (f 0).toList ++ (List.range n).filterMap fun i => f (i + 1) := by
  rw [range_succ_eq_map, filterMap_cons, filterMap_map]
  cases f 0 <;> rfl

theorem lags_eq : ∀ runs : List (Run RunKind), (List.range runs.length).filterMap (lagAt runs) = lagsOf runs
  | [] => rfl
  | [r] => by
    rw [length_singleton, filterMap_range_succ]
    rfl
  | r :: s :: runs => by
    rw [length_cons, filterMap_range_succ]
    have hshift : (fun i => lagAt (r :: s :: runs) (i + 1)) = lagAt (s :: runs) := rfl
    rw [hshift, lags_eq (s :: runs)]
    unfold lagsOf lagAt
    simp only [getElem?_cons_zero, getElem?_cons_succ, tail_cons, zip_cons_cons, filterMap_cons]
    by_cases h : r.kind = .present ∧ s.kind = .absent
    · simp [h]
    · rw [if_neg h]
      rfl

variable {values : List Int} (r : Run RunKind) (runs : List (Run RunKind)) (s : Run RunKind)

theorem intervals_cons : (List.range (r :: runs).length).filterMap (intervalAt (r :: runs)) =
    (List.range runs.length).filterMap fun i => intervalAt (r :: runs) (i + 1) := by
  rw [length_cons, filterMap_range_succ]
  rfl

theorem intervals_eq : ∀ runs : List (Run RunKind),
    (List.range runs.length).filterMap (intervalAt runs) = intervalsOf runs
  | [] => rfl
  | [r] => rfl
  | [r, s] => rfl
  | r :: s :: u :: runs => by
    rw [intervals_cons, length_cons, filterMap_range_succ]
    -- behind its first place, the walk is that of the shorter list
    have hshift : ((List.range (u :: runs).length).filterMap fun i => intervalAt (r :: s :: u :: runs) (i + 1 + 1)) =
        (List.range (s :: u :: runs).length).filterMap (intervalAt (s :: u :: runs)) := by
      rw [intervals_cons]
      rfl
    rw [hshift, intervals_eq (s :: u :: runs)]
    unfold intervalsOf intervalAt
    simp only [Nat.zero_add, Nat.le_refl, if_true, Nat.sub_self, getElem?_cons_zero, getElem?_cons_succ, tail_cons,
      zip_cons_cons, filterMap_cons]
    by_cases h : r.kind = .present ∧ s.kind = .absent ∧ u.kind = .present
    · simp [h]
    · rw [if_neg h]
      rfl

theorem extractCycleSamples_eq : extractCycleSamples runs = (lagsOf runs, intervalsOf runs) := by
  unfold extractCycleSamples
  rw [lags_eq, intervals_eq]

theorem lagsOf_cons (runs : List (Run RunKind)) : lagsOf (r :: s :: runs) =
    (if r.kind = .present ∧ s.kind = .absent then [r.length] else []) ++ lagsOf (s :: runs) := by
  unfold lagsOf
  rw [tail_cons, zip_cons_cons, filterMap_cons]
  by_cases h : r.kind = .present ∧ s.kind = .absent
  · rw [if_pos h]
    simp [h]
  · rw [if_neg h]
    simp [h]

theorem intervalsOf_cons (u : Run RunKind) (runs : List (Run RunKind)) : intervalsOf (r :: s :: u :: runs) =
    (if r.kind = .present ∧ s.kind = .absent ∧ u.kind = .present then [s.length] else []) ++
      intervalsOf (s :: u :: runs) := by
  unfold intervalsOf
  rw [tail_cons, tail_cons, zip_cons_cons, zip_cons_cons, filterMap_cons]
  by_cases h : r.kind = .present ∧ s.kind = .absent ∧ u.kind = .present
  · rw [if_pos h]
    simp [h]
  · rw [if_neg h]
    simp [h]

/-- Along alternating runs there are as many lags as intervals, or one more. -/
theorem length_samples : ∀ {runs : List (Run RunKind)}, Alternating runs →
    (intervalsOf runs).length ≤ (lagsOf runs).length ∧ (lagsOf runs).length ≤ (intervalsOf runs).length + 1
  | [], _ => by decide
  | [r], _ => by simp [lagsOf, intervalsOf]
  | [r, s], _ => by
    have hnone : intervalsOf [r, s] = [] := rfl
    have hlast : lagsOf [s] = [] := rfl
    rw [hnone, lagsOf_cons, hlast]
    by_cases h : r.kind = .present ∧ s.kind = .absent
    · simp [h]
    · rw [if_neg h]
      exact ⟨Nat.le_refl _, by simp⟩
  | r :: s :: u :: runs, h => by
    have htail : Alternating (s :: u :: runs) := List.IsChain.tail h
    have hsu : s.kind ≠ u.kind := (isChain_cons_cons.mp htail).1
    have ih := length_samples htail
    rw [lagsOf_cons, intervalsOf_cons, length_append, length_append]
    -- behind a presence and an absence stands a presence
    have hiff : (r.kind = .present ∧ s.kind = .absent ∧ u.kind = .present) ↔ r.kind = .present ∧ s.kind = .absent := by
      refine and_congr_right fun _ => and_iff_left_of_imp fun hs => ?_
      rw [hs] at hsu
      cases hu : u.kind with
      | present => rfl
      | absent => exact absurd hu.symm hsu
    by_cases hlag : r.kind = .present ∧ s.kind = .absent
    · rw [if_pos hlag, if_pos (hiff.mpr hlag), length_singleton, length_singleton]
      omega
    · rw [if_neg hlag, if_neg (mt hiff.mp hlag), length_nil]
      omega

/-! ## The median -/

theorem tdiv_two_between (a b : Int) :
    (a ≤ (a + b).tdiv 2 ∨ b ≤ (a + b).tdiv 2) ∧ ((a + b).tdiv 2 ≤ a ∨ (a + b).tdiv 2 ≤ b) := by
  by_cases h : 0 ≤ a + b
  · rw [Int.tdiv_eq_ediv_of_nonneg h]
    omega
  · have hneg : (a + b).tdiv 2 = -((-(a + b)) / 2) := by
      rw [← Int.tdiv_eq_ediv_of_nonneg (by omega), Int.neg_tdiv, Int.neg_neg]
    rw [hneg]
    omega

/-- A median has a value at most it and one at least it among those it is of. -/
theorem median_between {m : Int} (h : medianI64 values = some m) : (∃ lo ∈ values, lo ≤ m) ∧ ∃ hi ∈ values, m ≤ hi := by
  have hmem : ∀ {i : Nat} {x : Int}, (values.insertionSort (· ≤ ·))[i]? = some x → x ∈ values := fun hx =>
    (perm_insertionSort _ _).mem_iff.mp (mem_of_getElem? hx)
  unfold medianI64 at h
  dsimp only at h
  by_cases hnil : values = []
  · rw [if_pos hnil] at h
    cases h
  rw [if_neg hnil] at h
  by_cases hodd : (values.insertionSort (· ≤ ·)).length % 2 = 1
  · rw [if_pos hodd] at h
    exact ⟨⟨m, hmem h, Int.le_refl m⟩, m, hmem h, Int.le_refl m⟩
  · rw [if_neg hodd] at h
    obtain ⟨low, hlow, h⟩ := Option.bind_eq_some_iff.mp h
    obtain ⟨high, hhigh, h⟩ := Option.bind_eq_some_iff.mp h
    cases h
    obtain ⟨hle, hge⟩ := tdiv_two_between low high
    refine ⟨hle.elim (fun h => ⟨low, hmem hlow, h⟩) fun h => ⟨high, hmem hhigh, h⟩, ?_⟩
    exact hge.elim (fun h => ⟨low, hmem hlow, h⟩) fun h => ⟨high, hmem hhigh, h⟩

/-- There is a median of everything but nothing. -/
theorem median_isSome : (medianI64 values).isSome = true ↔ values ≠ [] := by
  unfold medianI64
  dsimp only
  by_cases hnil : values = []
  · rw [if_pos hnil, hnil]
    simp
  · have hpos : 0 < (values.insertionSort (· ≤ ·)).length := by
      rw [length_insertionSort]
      exact length_pos_of_ne_nil hnil
    rw [if_neg hnil]
    refine ⟨fun _ => hnil, fun _ => ?_⟩
    by_cases hodd : (values.insertionSort (· ≤ ·)).length % 2 = 1
    · rw [if_pos hodd, getElem?_eq_getElem (by omega)]
      rfl
    · rw [if_neg hodd, getElem?_eq_getElem (by omega), getElem?_eq_getElem (by omega)]
      rfl

/-! ## The analysis -/

/-- For every set of generations and every window: the runs give back the presences of the window, alternate, are not
    empty and add up
    to its size; the filtered ones alternate, are of two generations at least and add up to the generations beside
    their own; the
    samples are one lag for each presence an absence follows and one interval for each absence between presences, in
    their order,
    with as many lags as intervals or one more; and the median of the earlier lags is between two of them. -/
theorem recovery_runs_sound (observed : List Int) (windowStart currentGen : Int) :
    let runs := buildRuns observed windowStart currentGen
    let cleaned := filterShortAndMergeRuns runs
    let (lags, intervals) := extractCycleSamples cleaned
    let (lastLag, priorLags) := splitLast lags
    (expand runs = (window windowStart currentGen).map (kindAt observed) ∧ Alternating runs ∧
      (∀ r ∈ runs, 1 ≤ r.length) ∧ (runs.map Run.length).sum = max 0 (currentGen + 1 - windowStart)) ∧
      (Alternating cleaned ∧ ∀ r ∈ cleaned, 2 ≤ r.length) ∧
      (∀ kind, total kind cleaned = (window windowStart currentGen).countP
        (InSegment observed windowStart currentGen kind)) ∧
      (lags = lagsOf cleaned ∧ intervals = intervalsOf cleaned ∧
        intervals.length ≤ lags.length ∧ lags.length ≤ intervals.length + 1) ∧
      (lastLag = lags.getLast? ∧ lags = priorLags ++ lastLag.toList) ∧ ((medianI64 priorLags).isSome = true ↔
        priorLags ≠ []) ∧
      ∀ m, medianI64 priorLags = some m → (∃ lo ∈ priorLags, lo ≤ m) ∧ ∃ hi ∈ priorLags, m ≤ hi := by
  dsimp only
  rw [extractCycleSamples_eq]
  dsimp only [splitLast]
  have hcleaned : Alternating (filterShortAndMergeRuns (buildRuns observed windowStart currentGen)) :=
    Runs.alternating_merge _
  have hshort : ∀ r ∈ filterShortAndMergeRuns (buildRuns observed windowStart currentGen), 2 ≤ r.length :=
    Runs.le_length_merge (by decide) fun r hr => of_decide_eq_true (mem_filter.mp hr).2
  refine ⟨⟨expand_buildRuns observed windowStart currentGen, alternating_buildRuns observed windowStart currentGen,
    one_le_buildRuns observed windowStart currentGen, sum_buildRuns observed windowStart currentGen⟩,
      ⟨hcleaned, hshort⟩,
    total_filterShort observed windowStart currentGen, ⟨rfl, rfl, length_samples hcleaned⟩, ⟨rfl, ?_⟩, median_isSome,
    fun m => median_between⟩
  rcases eq_nil_or_concat (lagsOf (filterShortAndMergeRuns (buildRuns observed windowStart currentGen))) with hnil |
    ⟨pre, last, hconcat⟩
  · rw [hnil]
    rfl
  · rw [hconcat, concat_eq_append, dropLast_concat, getLast?_concat]
    rfl

end Nq.Regime
