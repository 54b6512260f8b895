/-
  Nq.Regime.CoOccurrence — the findings of a host that are observed together (`regime.rs`,
  `compute_finding_co_occurrence`).

  A pair of findings of different kinds counts for as many of the newest generations as both
  were observed in. The pair that is kept is the greatest by what it is preferred for,
  whatever the order of the findings (`dominantPair_sound`).
-/

import Mathlib.Data.Int.ConditionallyCompleteOrder
import Mathlib.Data.List.MinMax
import Mathlib.Data.List.Sort
import Mathlib.Data.Prod.Lex
import Mathlib.Data.String.Basic
import Mathlib.Order.ConditionallyCompleteLattice.Basic
import Nq.Detect.Views

namespace Nq.Regime

open List hiding le_antisymm le_of_lt le_total

inductive RegimeHint where
  | accumulation | pressure | observabilityFailure | entrenchment | durabilityDegrading
  deriving DecidableEq, Repr

structure Signature where
  a : String
  b : String
  hint : RegimeHint

def coOccurrenceSignatures : List Signature :=
  [⟨"disk_pressure", "wal_bloat", .accumulation⟩,
    ⟨"disk_pressure", "freelist_bloat", .accumulation⟩,
    ⟨"freelist_bloat", "wal_bloat", .accumulation⟩,
    ⟨"disk_pressure", "mem_pressure", .pressure⟩,
    ⟨"mem_pressure", "metric_signal", .pressure⟩,
    ⟨"check_failed", "service_status", .pressure⟩,
    ⟨"log_silence", "signal_dropout", .observabilityFailure⟩,
    ⟨"signal_dropout", "stale_host", .observabilityFailure⟩,
    ⟨"scrape_regime_shift", "signal_dropout", .observabilityFailure⟩,
    ⟨"check_failed", "service_flap", .entrenchment⟩,
    ⟨"service_flap", "stale_service", .entrenchment⟩,
    ⟨"zfs_error_count_increased", "zfs_pool_degraded", .durabilityDegrading⟩,
    ⟨"zfs_error_count_increased", "zfs_vdev_faulted", .durabilityDegrading⟩]

structure CoOccurrencePayload where
  coOccurrence : Bool
  coOccurrenceDepthGenerations : Int
  dominantPair : Option (String × String)
  regimeHint : Option RegimeHint
  windowGenerations : Int
  activeFindingCount : Int
  deriving DecidableEq, Repr

def coOccurrenceMinDepth : Int := 5
def coOccurrenceLookback : Int := 50

/-! ## Pairs -/

/-- The two kinds, the lesser first. -/
def ordered (kindA kindB : String) : String × String := if kindA ≤ kindB then (kindA, kindB) else (kindB, kindA)

def lookupRegimeHint (kindA kindB : String) : Option RegimeHint :=
  let (lo, hi) := ordered kindA kindB
  (coOccurrenceSignatures.find? fun s => s.a = lo ∧ s.b = hi).map Signature.hint

/-- How many of the newest generations both were observed in, one after the other. -/
def pairOverlapDepth (aObserved bObserved : List Int) (currentGen lookback : Int) : Int :=
  let floor := max 1 (currentGen - lookback + 1)
  ((List.range (currentGen - floor + 1).toNat).takeWhile fun i : Nat =>
    currentGen - i ∈ aObserved ∧ currentGen - i ∈ bObserved).length

structure Candidate where
  depth : Int
  pair : String × String
  hint : Option RegimeHint
  deriving DecidableEq, Repr

/-- A finding of a host, and the generations it was observed in. -/
structure ObservedFinding where
  kind : String
  subject : String
  observed : List Int
  deriving DecidableEq, Repr

/-- The pair, if it is of different kinds and deep enough. -/
def candidateOf (generationId : Int) (x y : ObservedFinding) : Option Candidate :=
  if x.kind = y.kind then none
  else
    let depth := pairOverlapDepth x.observed y.observed generationId coOccurrenceLookback
    if depth < coOccurrenceMinDepth then none
    else
      let (lo, hi) := ordered x.kind y.kind
      some ⟨depth, (lo, hi), lookupRegimeHint lo hi⟩

/-- A pair is smaller than another by its first name, or by its second. -/
def pairLt (p q : String × String) : Bool := p.1 < q.1 || p.1 = q.1 && p.2 < q.2

/-- Whether the candidate is taken in place of the best so far. -/
def takes (best candidate : Candidate) : Bool :=
  if candidate.hint.isSome ≠ best.hint.isSome then candidate.hint.isSome
  else if candidate.depth ≠ best.depth then best.depth < candidate.depth
  else pairLt candidate.pair best.pair

def keepBest : Option Candidate → Candidate → Option Candidate
  | none, candidate => some candidate
  | some best, candidate => if takes best candidate then some candidate else some best

/-- The pairs of a list: each element with those behind it. -/
def pairs {α : Type} : List α → List (α × α)
  | [] => []
  | x :: xs => xs.map (x, ·) ++ pairs xs

def dominantPair (generationId : Int) (findings : List ObservedFinding) : Option Candidate :=
  ((pairs findings).filterMap fun (x, y) => candidateOf generationId x y).foldl keepBest none

/-! ## A pass -/

section

variable (db : Db) (generationId : Int)

/-- `WHERE visibility_state = 'observed' ORDER BY host, kind, subject`. -/
def activeFindings : List FindingId :=
  ((db.warningState.rows.filter (·.visibilityState = .observed)).map WarningRow.id).insertionSort fun a b =>
    toLex (a.host, toLex (a.kind, a.subject)) ≤ toLex (b.host, toLex (b.kind, b.subject))

def observedFinding (id : FindingId) : ObservedFinding where
  kind := id.kind
  subject := id.subject
  observed := ((db.findingObservations.rows.filter fun o =>
    o.findingKey = id.key ∧ o.generationId > max 0 (generationId - coOccurrenceLookback)).map
      ObservationRow.generationId).dedup

def coOccurrenceOf (host : String) : CoOccurrencePayload :=
  let findings := (activeFindings db).filter (·.host = host)
  let windowSize := generationId - max 0 (generationId - coOccurrenceLookback)
  let best := if findings.length < 2 then none
    else dominantPair generationId (findings.map (observedFinding db generationId))
  { coOccurrence := best.isSome
    coOccurrenceDepthGenerations := best.elim 0 Candidate.depth
    dominantPair := best.map Candidate.pair
    regimeHint := best.bind Candidate.hint
    windowGenerations := windowSize
    activeFindingCount := findings.length }

def computeFindingCoOccurrence : List (String × CoOccurrencePayload) :=
  ((activeFindings db).map FindingId.host).dedup.map fun host => (host, coOccurrenceOf db generationId host)

end

/-! ## The preference -/

/-- What a candidate is preferred for: a known signature, then the depth, then the smaller pair. -/
def Candidate.preference (c : Candidate) : Bool ×ₗ Int ×ₗ (String ×ₗ String)ᵒᵈ :=
  toLex (c.hint.isSome, toLex (c.depth, OrderDual.toDual (toLex c.pair)))

theorem pairLt_iff {p q : String × String} : pairLt p q = true ↔ toLex p < toLex q := by
  unfold pairLt
  rw [Prod.Lex.toLex_lt_toLex, Bool.or_eq_true, Bool.and_eq_true,
    decide_eq_true_iff, decide_eq_true_iff, decide_eq_true_iff]

theorem takes_iff {best candidate : Candidate} : takes best candidate = true ↔
    best.preference < candidate.preference := by
  unfold takes Candidate.preference
  rw [Prod.Lex.toLex_lt_toLex, Prod.Lex.toLex_lt_toLex, OrderDual.toDual_lt_toDual]
  dsimp only
  by_cases hhint : candidate.hint.isSome = best.hint.isSome
  · rw [if_neg (not_not.mpr hhint), hhint]
    by_cases hdepth : candidate.depth = best.depth
    · rw [if_neg (not_not.mpr hdepth), hdepth, pairLt_iff]
      simp
    · rw [if_pos hdepth, decide_eq_true_iff]
      simp [Ne.symm hdepth]
  · rw [if_pos hhint]
    cases hc : candidate.hint.isSome <;> cases hb : best.hint.isSome <;> simp_all

/-- The loop is the greatest by preference. -/
theorem foldl_keepBest (cs : List Candidate) : cs.foldl keepBest none = cs.argmax Candidate.preference := by
  have hstep : keepBest = List.argAux fun b c => c.preference < b.preference := by
    funext best candidate
    cases best with
    | none => rfl
    | some b =>
      show (if takes b candidate = true then some candidate else some b) = if b.preference <
        candidate.preference then some candidate else some b
      exact if_congr takes_iff rfl rfl
  rw [hstep]
  rfl

/-! ## Depths -/

/-- A walk along the first numbers stops at `d`. -/
theorem length_takeWhile_range {p : Nat → Bool} {n d : Nat} :
    ((List.range n).takeWhile p).length = d ↔ d ≤ n ∧ (∀ i < d, p i = true) ∧ (d < n → p d = false) := by
  have hstop : ∀ d, d ≤ n → (∀ i < d, p i = true) → (d < n → p d = false) →
      ((List.range n).takeWhile p).length = d := by
    intro d hle hall hnext
    have hsplit : List.range n = List.range d ++ (List.range (n - d)).map (d + ·) := by
      rw [← range_add, Nat.add_sub_cancel' hle]
    rw [hsplit, takeWhile_append_of_pos fun i hi => hall i (List.mem_range.mp hi), length_append, List.length_range]
    by_cases hlt : d < n
    · obtain ⟨m, hm⟩ : ∃ m, n - d = m + 1 := ⟨n - d - 1, by omega⟩
      rw [hm, range_succ_eq_map, map_cons, takeWhile_cons_of_neg (by simp [hnext hlt])]
      rfl
    · rw [show n - d = 0 by omega]
      rfl
  constructor
  · intro h
    by_cases hall : ∀ i < n, p i = true
    · have hd := hstop n (Nat.le_refl n) hall fun h => absurd h (Nat.lt_irrefl n)
      obtain rfl : n = d := hd.symm.trans h
      exact ⟨Nat.le_refl _, hall, fun h => absurd h (Nat.lt_irrefl _)⟩
    · have hex : ∃ i, i < n ∧ p i = false := by
        by_contra hno
        exact hall fun i hi => by
          by_contra hp
          exact hno ⟨i, hi, Bool.not_eq_true _ ▸ hp⟩
      obtain ⟨hlt, hfalse⟩ := Nat.find_spec hex
      have hbelow : ∀ i < Nat.find hex, p i = true := fun i hi => by
        have := Nat.find_min hex hi
        by_contra hp
        exact this ⟨by omega, Bool.not_eq_true _ ▸ hp⟩
      have hd := hstop (Nat.find hex) (by omega) hbelow fun _ => hfalse
      rw [← hd.symm.trans h]
      exact ⟨by omega, hbelow, fun _ => hfalse⟩
  · rintro ⟨hle, hall, hnext⟩
    exact hstop d hle hall hnext

/-- The finding was observed in the generation. -/
def ObservedAt (db : Db) (id : FindingId) (g : Int) : Prop :=
  ∃ o ∈ db.findingObservations.rows, o.findingKey = id.key ∧ o.generationId = g

/-- So many of the newest generations, one after the other, were both observed in, up to the window. -/
structure OverlapDepth (db : Db) (generationId : Int) (a b : FindingId) (d : Int) : Prop where
  nonneg : 0 ≤ d
  capped : d ≤ max 0 (min generationId coOccurrenceLookback)
  both : ∀ i, 0 ≤ i → i < d → ObservedAt db a (generationId - i) ∧ ObservedAt db b (generationId - i)
  stops : d < max 0 (min generationId coOccurrenceLookback) →
    ¬(ObservedAt db a (generationId - d) ∧ ObservedAt db b (generationId - d))

section

variable {db : Db} {generationId : Int}

theorem mem_observed {id : FindingId} {g : Int} (hg : max 0 (generationId - coOccurrenceLookback) < g) :
    g ∈ (observedFinding db generationId id).observed ↔ ObservedAt db id g := by
  unfold observedFinding ObservedAt
  dsimp only
  rw [mem_dedup, List.mem_map]
  constructor
  · rintro ⟨o, ho, rfl⟩
    obtain ⟨hmem, hkey⟩ := mem_filter.mp ho
    exact ⟨o, hmem, (of_decide_eq_true hkey).1, rfl⟩
  · rintro ⟨o, hmem, hkey, rfl⟩
    exact ⟨o, mem_filter.mpr ⟨hmem, decide_eq_true ⟨hkey, hg⟩⟩, rfl⟩

/-- The depth of a pair is the number of the newest generations both were observed in, up to the window. -/
theorem pairOverlapDepth_eq_iff (a b : FindingId) (d : Int) :
    pairOverlapDepth (observedFinding db generationId a).observed
      (observedFinding db generationId b).observed generationId coOccurrenceLookback = d ↔
      OverlapDepth db generationId a b d := by
  unfold pairOverlapDepth
  dsimp only
  have hcap : ((generationId - max 1 (generationId - coOccurrenceLookback + 1) + 1).toNat : Int) =
      max 0 (min generationId coOccurrenceLookback) := by
    unfold coOccurrenceLookback
    omega
  have hwalk : ∀ i : Nat, (i : Int) < max 0 (min generationId coOccurrenceLookback) →
      (decide (generationId - i ∈ (observedFinding db generationId a).observed ∧
        generationId - i ∈ (observedFinding db generationId b).observed) = true ↔
        ObservedAt db a (generationId - i) ∧ ObservedAt db b (generationId - i)) := by
    intro i hi
    have hg : max 0 (generationId - coOccurrenceLookback) < generationId - i := by
      unfold coOccurrenceLookback at hi ⊢
      omega
    rw [decide_eq_true_iff, mem_observed hg, mem_observed hg]
  constructor
  · intro h
    obtain ⟨n, rfl⟩ := Int.eq_ofNat_of_zero_le (h ▸ Int.natCast_nonneg _)
    obtain ⟨hle, hall, hnext⟩ := length_takeWhile_range.mp (Int.ofNat.inj h)
    refine ⟨Int.natCast_nonneg n, by omega, fun i h0 hi => ?_, fun hlt => ?_⟩
    · obtain ⟨j, rfl⟩ := Int.eq_ofNat_of_zero_le h0
      exact (hwalk j (by omega)).mp (hall j (by omega))
    · rw [← hwalk n hlt, Bool.not_eq_true]
      exact hnext (by omega)
  · intro h
    obtain ⟨n, rfl⟩ := Int.eq_ofNat_of_zero_le h.nonneg
    have hcapped := h.capped
    refine congrArg Int.ofNat (length_takeWhile_range.mpr ⟨by omega, fun i hi => ?_, fun hlt => ?_⟩)
    · exact (hwalk i (by omega)).mpr (h.both i (by omega) (by omega))
    · rw [← Bool.not_eq_true, hwalk n (by omega)]
      exact h.stops (by omega)

end

/-! ## Candidates -/

variable {α : Type} {l : List α} {x y : α} {c : Candidate} {findings : List ObservedFinding}

theorem pairs_subset (h : (x, y) ∈ pairs l) : x ∈ l ∧ y ∈ l := by
  induction l with
  | nil => cases h
  | cons z l ih =>
    rcases mem_append.mp h with h | h
    · obtain ⟨w, hw, heq⟩ := List.mem_map.mp h
      cases heq
      exact ⟨mem_cons_self, mem_cons_of_mem _ hw⟩
    · exact ⟨mem_cons_of_mem _ (ih h).1, mem_cons_of_mem _ (ih h).2⟩

/-- Two elements are a pair, one way or the other. -/
theorem mem_pairs (hx : x ∈ l) (hy : y ∈ l) (hne : x ≠ y) : (x, y) ∈ pairs l ∨ (y, x) ∈ pairs l := by
  induction l with
  | nil => cases hx
  | cons z l ih =>
    unfold pairs
    rcases mem_cons.mp hx with rfl | hx'
    · have hy := (mem_cons.mp hy).resolve_left (Ne.symm hne)
      exact .inl (mem_append_left _ (List.mem_map.mpr ⟨y, hy, rfl⟩))
    · rcases mem_cons.mp hy with rfl | hy'
      · exact .inr (mem_append_left _ (List.mem_map.mpr ⟨x, hx', rfl⟩))
      · exact (ih hx' hy').imp (mem_append_right _) (mem_append_right _)

theorem pairOverlapDepth_comm (xs ys : List Int)
    (g lookback : Int) : pairOverlapDepth xs ys g lookback = pairOverlapDepth ys xs g lookback := by
  unfold pairOverlapDepth
  simp only [and_comm]

theorem ordered_comm (a b : String) : ordered a b = ordered b a := by
  unfold ordered
  by_cases hab : a ≤ b <;> by_cases hba : b ≤ a
  · rw [le_antisymm hab hba]
  · rw [if_pos hab, if_neg hba]
  · rw [if_neg hab, if_pos hba]
  · exact absurd (le_total a b) (not_or.mpr ⟨hab, hba⟩)

theorem candidateOf_comm (g : Int) (x y : ObservedFinding) : candidateOf g x y = candidateOf g y x := by
  unfold candidateOf
  rw [pairOverlapDepth_comm, ordered_comm]
  exact if_congr eq_comm rfl rfl

/-- A pair of different kinds, the lesser first, that is deep enough. -/
def IsCandidate (g : Int) (findings : List ObservedFinding) (c : Candidate) : Prop :=
  ∃ x ∈ findings, ∃ y ∈ findings, x.kind < y.kind ∧ pairOverlapDepth x.observed y.observed g coOccurrenceLookback =
    c.depth ∧ coOccurrenceMinDepth ≤ c.depth ∧ c.pair = (x.kind, y.kind) ∧ c.hint = lookupRegimeHint x.kind y.kind

theorem candidateOf_eq_some {g : Int} {x y : ObservedFinding} (hlt : x.kind < y.kind) :
    candidateOf g x y = some c ↔ pairOverlapDepth x.observed y.observed g coOccurrenceLookback = c.depth ∧
      coOccurrenceMinDepth ≤ c.depth ∧ c.pair = (x.kind, y.kind) ∧ c.hint = lookupRegimeHint x.kind y.kind := by
  unfold candidateOf
  dsimp only
  rw [if_neg (ne_of_lt hlt), show ordered x.kind y.kind = (x.kind, y.kind) from if_pos (le_of_lt hlt)]
  generalize pairOverlapDepth x.observed y.observed g coOccurrenceLookback = depth
  by_cases hdeep : depth < coOccurrenceMinDepth
  · rw [if_pos hdeep]
    refine ⟨nofun, fun h => ?_⟩
    have := h.1 ▸ h.2.1
    omega
  · rw [if_neg hdeep]
    constructor
    · intro h
      cases h
      exact ⟨rfl, Int.not_lt.mp hdeep, rfl, rfl⟩
    · rintro ⟨hdepth, -, hpair, hhint⟩
      rw [hdepth, ← hhint, ← hpair]

theorem mem_candidates {g : Int} :
    c ∈ (pairs findings).filterMap (fun (x, y) => candidateOf g x y) ↔ IsCandidate g findings c := by
  rw [mem_filterMap]
  constructor
  · rintro ⟨⟨x, y⟩, hpair, hc⟩
    have hc : candidateOf g x y = some c := hc
    obtain ⟨hx, hy⟩ := pairs_subset hpair
    have hne : x.kind ≠ y.kind := by
      intro heq
      unfold candidateOf at hc
      rw [if_pos heq] at hc
      cases hc
    rcases lt_or_gt_of_ne hne with hlt | hlt
    · exact ⟨x, hx, y, hy, hlt, (candidateOf_eq_some hlt).mp hc⟩
    · rw [candidateOf_comm] at hc
      exact ⟨y, hy, x, hx, hlt, (candidateOf_eq_some hlt).mp hc⟩
  · rintro ⟨x, hx, y, hy, hlt, hc⟩
    have hne : x ≠ y := fun heq => absurd (congrArg ObservedFinding.kind heq) (ne_of_lt hlt)
    have hcandidate := (candidateOf_eq_some hlt).mpr hc
    rcases mem_pairs hx hy hne with hpair | hpair
    · exact ⟨(x, y), hpair, hcandidate⟩
    · exact ⟨(y, x), hpair, (candidateOf_comm g y x).trans hcandidate⟩

/-- Candidates are told apart by what they are preferred for. -/
theorem preference_inj {g : Int} {c' : Candidate} (hc : IsCandidate g findings c) (hc' : IsCandidate g findings c')
    (h : c.preference = c'.preference) : c = c' := by
  obtain ⟨x, -, y, -, -, -, -, hpair, hhint⟩ := hc
  obtain ⟨x', -, y', -, -, -, -, hpair', hhint'⟩ := hc'
  unfold Candidate.preference at h
  obtain ⟨-, h⟩ := Prod.mk.inj (toLex_inj.mp h)
  obtain ⟨hdepth, h⟩ := Prod.mk.inj (toLex_inj.mp h)
  have hsame : c.pair = c'.pair := toLex_inj.mp (OrderDual.toDual_inj.mp h)
  obtain ⟨hx, hy⟩ := Prod.mk.inj (hpair.symm.trans (hsame.trans hpair'))
  have hhints : c.hint = c'.hint := by rw [hhint, hhint', hx, hy]
  cases c
  cases c'
  simp_all

/-- The pair that is kept is the greatest candidate. -/
theorem dominantPair_eq_some {g : Int} : dominantPair g findings = some c ↔
    IsCandidate g findings c ∧ ∀ c', IsCandidate g findings c' → c'.preference ≤ c.preference := by
  unfold dominantPair
  rw [foldl_keepBest]
  constructor
  · intro h
    obtain ⟨hmem, hmax, -⟩ := argmax_eq_some_iff.mp h
    exact ⟨mem_candidates.mp hmem, fun c' hc' => hmax c' (mem_candidates.mpr hc')⟩
  · rintro ⟨hc, hmax⟩
    cases h : ((pairs findings).filterMap fun (x, y) => candidateOf g x y).argmax Candidate.preference with
    | none =>
      have hmem := mem_candidates.mpr hc
      rw [argmax_eq_none.mp h] at hmem
      cases hmem
    | some m =>
      obtain ⟨hmem, hle, -⟩ := argmax_eq_some_iff.mp h
      have hm := mem_candidates.mp hmem
      rw [preference_inj hm hc (le_antisymm (hmax m hm) (hle c (mem_candidates.mpr hc)))]

theorem dominantPair_eq_none {g : Int} : dominantPair g findings = none ↔ ¬∃ c, IsCandidate g findings c := by
  unfold dominantPair
  rw [foldl_keepBest, argmax_eq_none, eq_nil_iff_forall_not_mem, not_exists]
  exact forall_congr' fun c => not_congr mem_candidates

/-- The order of the findings does not matter. -/
theorem dominantPair_congr {g : Int} {findings' : List ObservedFinding} (h : ∀ f, f ∈ findings ↔ f ∈ findings') :
    dominantPair g findings = dominantPair g findings' := by
  have hcandidate : ∀ c, IsCandidate g findings c ↔ IsCandidate g findings' c := by
    intro c
    unfold IsCandidate
    simp only [h]
  refine Option.ext fun c => ?_
  simp only [dominantPair_eq_some, hcandidate]

/-! ## The findings of a host -/

/-- The finding is observed, on the host. -/
def ActiveOn (db : Db) (host : String) (id : FindingId) : Prop :=
  id.host = host ∧ ∃ r ∈ db.warningState.rows, r.visibilityState = .observed ∧ r.id = id

/-- Two observed findings of the host, of different kinds, observed together for long enough. -/
def HostCandidate (db : Db) (g : Int) (host : String) (c : Candidate) : Prop :=
  ∃ a b, ActiveOn db host a ∧ ActiveOn db host b ∧ a.kind < b.kind ∧ OverlapDepth db g a b c.depth ∧
    coOccurrenceMinDepth ≤ c.depth ∧ c.pair = (a.kind, b.kind) ∧ c.hint = lookupRegimeHint a.kind b.kind

section

variable {db : Db} {g : Int} {host : String}

theorem mem_findings {id : FindingId} : id ∈ (activeFindings db).filter (·.host = host) ↔ ActiveOn db host id := by
  unfold activeFindings ActiveOn
  rw [mem_filter, (perm_insertionSort _ _).mem_iff, List.mem_map, decide_eq_true_iff, and_comm]
  refine and_congr_right fun _ => ?_
  constructor
  · rintro ⟨r, hr, rfl⟩
    obtain ⟨hmem, hvisible⟩ := mem_filter.mp hr
    exact ⟨r, hmem, of_decide_eq_true hvisible, rfl⟩
  · rintro ⟨r, hmem, hvisible, rfl⟩
    exact ⟨r, mem_filter.mpr ⟨hmem, decide_eq_true hvisible⟩, rfl⟩

theorem isCandidate_iff {c : Candidate} :
    IsCandidate g (((activeFindings db).filter (·.host = host)).map (observedFinding db g)) c ↔
      HostCandidate db g host c := by
  unfold IsCandidate HostCandidate
  constructor
  · rintro ⟨x, hx, y, hy, hlt, hdepth, hc⟩
    obtain ⟨a, ha, rfl⟩ := List.mem_map.mp hx
    obtain ⟨b, hb, rfl⟩ := List.mem_map.mp hy
    exact ⟨a, b, mem_findings.mp ha, mem_findings.mp hb, hlt, (pairOverlapDepth_eq_iff a b _).mp hdepth, hc⟩
  · rintro ⟨a, b, ha, hb, hlt, hdepth, hc⟩
    exact ⟨_, List.mem_map.mpr ⟨a, mem_findings.mpr ha, rfl⟩, _, List.mem_map.mpr ⟨b, mem_findings.mpr hb, rfl⟩, hlt,
      (pairOverlapDepth_eq_iff a b _).mpr hdepth, hc⟩

/-- What is kept of a host, whether it has findings enough for a pair or not. -/
def bestOf (db : Db) (g : Int) (host : String) : Option Candidate :=
  dominantPair g (((activeFindings db).filter (·.host = host)).map (observedFinding db g))

theorem coOccurrenceOf_eq : coOccurrenceOf db g host =
    { coOccurrence := (bestOf db g host).isSome
      coOccurrenceDepthGenerations := (bestOf db g host).elim 0 Candidate.depth
      dominantPair := (bestOf db g host).map Candidate.pair
      regimeHint := (bestOf db g host).bind Candidate.hint
      windowGenerations := g - max 0 (g - coOccurrenceLookback)
      activeFindingCount := ((activeFindings db).filter (·.host = host)).length } := by
  have hbest : (if ((activeFindings db).filter (·.host = host)).length < 2 then none else bestOf db g host) =
      bestOf db g host := by
    by_cases hfew : ((activeFindings db).filter (·.host = host)).length < 2
    · -- one finding makes no pair
      rw [if_pos hfew]
      unfold bestOf
      generalize (activeFindings db).filter (·.host = host) = findings at hfew ⊢
      match findings, hfew with
      | [], _ => rfl
      | [_], _ => rfl
      | _ :: _ :: _, hfew => exact absurd hfew (by simp)
    · rw [if_neg hfew]
  unfold coOccurrenceOf
  dsimp only
  rw [show dominantPair g (((activeFindings db).filter (·.host = host)).map (observedFinding db g)) =
    bestOf db g host from rfl, hbest]

end

/-- For every table of findings and observations, every generation and host: the pair kept is the greatest by
    preference of those that
    are observed together for long enough, with its depth and hint, and there is none where there is no such pair; the
    order of the
    findings does not matter; and the depth of a pair is the number of the newest generations both were observed in,
    up to the window. -/
theorem dominantPair_sound (db : Db) (g : Int) (host : String) :
    (∀ c : Candidate, ((coOccurrenceOf db g host).coOccurrence = true ∧
      (coOccurrenceOf db g host).coOccurrenceDepthGenerations = c.depth ∧
        (coOccurrenceOf db g host).dominantPair = some c.pair ∧ (coOccurrenceOf db g host).regimeHint = c.hint) ↔
      HostCandidate db g host c ∧ ∀ c', HostCandidate db g host c' → c'.preference ≤ c.preference) ∧
    ((coOccurrenceOf db g host).dominantPair = none ↔ ¬∃ c, HostCandidate db g host c) ∧
    (∀ findings findings' : List ObservedFinding, (∀ f, f ∈ findings ↔ f ∈ findings') →
      dominantPair g findings = dominantPair g findings') ∧
    ∀ a b d, pairOverlapDepth (observedFinding db g a).observed
      (observedFinding db g b).observed g coOccurrenceLookback = d ↔
      OverlapDepth db g a b d := by
  rw [coOccurrenceOf_eq]
  dsimp only
  refine ⟨fun c => ?_, ?_, fun _ _ => dominantPair_congr, pairOverlapDepth_eq_iff⟩
  · have hbest : bestOf db g host = some c ↔ HostCandidate db g host c ∧ ∀ c', HostCandidate db g host c' →
        c'.preference ≤ c.preference := by
      unfold bestOf
      rw [dominantPair_eq_some]
      simp only [isCandidate_iff]
    rw [← hbest]
    cases bestOf db g host with
    | none => simp
    | some b =>
      cases b
      cases c
      simp
  · rw [Option.map_eq_none_iff]
    unfold bestOf
    rw [dominantPair_eq_none]
    simp only [isCandidate_iff]

end Nq.Regime
