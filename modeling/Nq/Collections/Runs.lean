/-
  Nq.Collections.Runs — runs of equal values, as they are counted along a list.

  Counting gives back the list (`expand_encode`) as runs of alternating kinds that are not
  empty. Merging keeps the kinds apart, the shortest length and what each kind adds up to
  (`alternating_merge`, `le_length_merge`, `total_merge`). What is left of a kind without
  its single values is the number of values beside one of their own (`paired_expand`).
-/

import Mathlib.Data.List.Chain
import Mathlib.Data.Int.Cast.Lemmas

namespace Nq.Runs

open List

structure Run (α : Type) where
  kind : α
  length : Int
  deriving DecidableEq, Repr

section

variable {α : Type} [DecidableEq α]

/-! ## Counting and merging -/

/-- The values of the runs. -/
def expand (runs : List (Run α)) : List α := runs.flatMap fun r => List.replicate r.length.toNat r.kind

/-- No two runs beside each other are of one kind. -/
def Alternating (runs : List (Run α)) : Prop := (runs.map Run.kind).IsChain (· ≠ ·)

/-- One more value, behind the runs that are closed and the one that is not. -/
def encodeStep : List (Run α) × Option (Run α) → α → List (Run α) × Option (Run α)
  | (runs, some r), a => if r.kind = a then (runs, some { r with length := r.length + 1 })
      else (runs ++ [r], some ⟨a, 1⟩)
  | (runs, none), a => (runs, some ⟨a, 1⟩)

def encode (as : List α) : List (Run α) :=
  let (runs, current) := as.foldl encodeStep ([], none)
  runs ++ current.toList

/-- One more run, added to the last one where that is of its kind. -/
def mergeStep (out : List (Run α)) (r : Run α) : List (Run α) :=
  match out.getLast? with
  | some last =>
    if last.kind = r.kind then out.dropLast ++ [{ last with length := last.length + r.length }] else out ++ [r]
  | none => out ++ [r]

def merge (runs : List (Run α)) : List (Run α) := runs.foldl mergeStep []

/-- What the runs of a kind add up to. -/
def total (k : α) (runs : List (Run α)) : Int := ((runs.filter (·.kind = k)).map Run.length).sum

/-- How many values are `k` and stand beside another; `prev` says that one stands in front. -/
def paired (k : α) : Bool → List α → Nat
  | _, [] => 0
  | prev, a :: as => (if a = k ∧ (prev = true ∨ as.head? = some k) then 1 else 0) + paired k (a = k) as

/-! ## One step -/

theorem mergeStep_cases (out : List (Run α)) (r : Run α) :
    mergeStep out r = out ++ [r] ∧ (∀ last ∈ out.getLast?, last.kind ≠ r.kind) ∨
      ∃ pre last, out = pre ++ [last] ∧ last.kind = r.kind ∧
        mergeStep out r = pre ++ [⟨last.kind, last.length + r.length⟩] := by
  unfold mergeStep
  rcases eq_nil_or_concat out with rfl | ⟨pre, last, rfl⟩
  · exact .inl ⟨rfl, nofun⟩
  · rw [concat_eq_append, getLast?_concat, dropLast_concat]
    dsimp only
    by_cases hkind : last.kind = r.kind
    · rw [if_pos hkind]
      exact .inr ⟨pre, last, rfl, hkind, rfl⟩
    · rw [if_neg hkind]
      refine .inl ⟨rfl, fun x hx => ?_⟩
      rw [← Option.some.inj hx]
      exact hkind

omit [DecidableEq α] in
theorem expand_append (rs ss : List (Run α)) : expand (rs ++ ss) = expand rs ++ expand ss := flatMap_append

omit [DecidableEq α] in
theorem expand_singleton (r : Run α) : expand [r] = List.replicate r.length.toNat r.kind := flatMap_singleton _ _

variable {out rs : List (Run α)} {n : Int} {r : Run α} (k : α) (as : List α)

theorem total_append (rs ss : List (Run α)) : total k (rs ++ ss) = total k rs + total k ss := by
  unfold total
  rw [filter_append, map_append, sum_append]

theorem alternating_mergeStep (h : Alternating out) (r : Run α) : Alternating (mergeStep out r) := by
  unfold Alternating at h ⊢
  obtain ⟨heq, hlast⟩ | ⟨pre, last, rfl, -, heq⟩ := mergeStep_cases out r
  · rw [heq, map_append, isChain_append]
    refine ⟨h, isChain_singleton _, ?_⟩
    intro a ha b hb
    rw [getLast?_map] at ha
    obtain ⟨last, hmem, rfl⟩ := Option.mem_map.mp ha
    rw [← Option.some.inj hb]
    exact hlast last hmem
  · rw [heq]
    rw [map_append] at h ⊢
    exact h

theorem le_length_mergeStep (hn : 0 ≤ n) (hout : ∀ s ∈ out, n ≤ s.length) (hr : n ≤ r.length) :
    ∀ s ∈ mergeStep out r, n ≤ s.length := by
  intro s hs
  obtain ⟨heq, -⟩ | ⟨pre, last, rfl, -, heq⟩ := mergeStep_cases out r
  · rw [heq] at hs
    rcases mem_append.mp hs with hs | hs
    · exact hout s hs
    · rw [mem_singleton.mp hs]
      exact hr
  · rw [heq] at hs
    rcases mem_append.mp hs with hs | hs
    · exact hout s (mem_append_left _ hs)
    · have hlast := hout last (by simp)
      rw [mem_singleton.mp hs]
      dsimp only
      omega

theorem total_mergeStep (out : List (Run α)) (r : Run α) : total k (mergeStep out r) = total k out + total k [r] := by
  obtain ⟨heq, -⟩ | ⟨pre, last, rfl, hkind, heq⟩ := mergeStep_cases out r
  · rw [heq, total_append]
  · rw [heq, total_append, total_append]
    unfold total
    by_cases hk : last.kind = k
    · simp [hk, ← hkind, Int.add_assoc]
    · simp [hk, ← hkind]

theorem expand_mergeStep (hout : ∀ s ∈ out, 0 ≤ s.length) (hr : 0 ≤ r.length) :
    expand (mergeStep out r) = expand out ++ expand [r] := by
  obtain ⟨heq, -⟩ | ⟨pre, last, rfl, hkind, heq⟩ := mergeStep_cases out r
  · rw [heq, expand_append]
  · have hlast := hout last (by simp)
    rw [heq, expand_append, expand_append, append_assoc, expand_singleton, expand_singleton, expand_singleton, ← hkind,
      replicate_append_replicate]
    dsimp only
    rw [Int.toNat_add hlast hr]

/-! ## Merging -/

theorem alternating_foldl : ∀ {out : List (Run α)}, Alternating out → Alternating (rs.foldl mergeStep out) := by
  induction rs with
  | nil => exact id
  | cons r rs ih => exact fun h => ih (alternating_mergeStep h r)

theorem alternating_merge (rs : List (Run α)) : Alternating (merge rs) := alternating_foldl List.IsChain.nil

theorem le_length_foldl (hn : 0 ≤ n) (hrs : ∀ r ∈ rs, n ≤ r.length) :
    ∀ {out : List (Run α)}, (∀ s ∈ out, n ≤ s.length) → ∀ s ∈ rs.foldl mergeStep out, n ≤ s.length := by
  induction rs with
  | nil => exact id
  | cons r rs ih =>
    intro out hout
    exact ih (fun x hx => hrs x (mem_cons_of_mem _ hx)) (le_length_mergeStep hn hout (hrs r mem_cons_self))

theorem le_length_merge (hn : 0 ≤ n) (hrs : ∀ r ∈ rs, n ≤ r.length) : ∀ s ∈ merge rs, n ≤ s.length :=
  le_length_foldl hn hrs nofun

theorem total_foldl (rs : List (Run α)) :
    ∀ out : List (Run α), total k (rs.foldl mergeStep out) = total k out + total k rs := by
  induction rs with
  | nil => exact fun out => (Int.add_zero _).symm
  | cons r rs ih =>
    intro out
    rw [foldl_cons, ih, total_mergeStep, Int.add_assoc, ← total_append]
    rfl

theorem total_merge (rs : List (Run α)) :
    total k (merge rs) = total k rs := (total_foldl k rs []).trans (Int.zero_add _)

theorem expand_foldl (hrs : ∀ r ∈ rs, 0 ≤ r.length) :
    ∀ {out : List (Run α)}, (∀ s ∈ out, 0 ≤ s.length) → expand (rs.foldl mergeStep out) = expand out ++ expand rs := by
  induction rs with
  | nil => exact fun _ => (append_nil _).symm
  | cons r rs ih =>
    intro out hout
    have hr := hrs r mem_cons_self
    rw [foldl_cons, ih (fun x hx => hrs x (mem_cons_of_mem _ hx)) (le_length_mergeStep (Int.le_refl 0) hout hr),
      expand_mergeStep hout hr, append_assoc, ← expand_append]
    rfl

/-! ## Counting -/

/-- Counting is merging runs of one value. -/
theorem encodeStep_flush {runs : List (Run α)} {current : Option (Run α)} (h : current = none → runs = []) (a : α) :
    (encodeStep (runs, current) a).1 ++ (encodeStep (runs, current) a).2.toList = mergeStep (runs ++ current.toList) ⟨a,
      1⟩ ∧ (encodeStep (runs, current) a).2 ≠ none := by
  cases current with
  | none =>
    rw [h rfl]
    exact ⟨rfl, nofun⟩
  | some r =>
    unfold encodeStep mergeStep
    rw [Option.toList_some, getLast?_concat, dropLast_concat]
    dsimp only
    by_cases hkind : r.kind = a
    · rw [if_pos hkind]
      exact ⟨by simp [hkind], nofun⟩
    · rw [if_neg hkind]
      exact ⟨by simp [hkind], nofun⟩

theorem encode_eq_merge : encode as = merge (as.map fun a => ⟨a, 1⟩) := by
  have hfold : ∀ (as : List α) (state : List (Run α) × Option (Run α)), (state.2 = none → state.1 = []) →
      (as.foldl encodeStep state).1 ++ (as.foldl encodeStep state).2.toList =
        (as.map fun a => (⟨a, 1⟩ : Run α)).foldl mergeStep (state.1 ++ state.2.toList) := by
    intro as
    induction as with
    | nil => exact fun _ _ => rfl
    | cons a as ih =>
      intro state h
      obtain ⟨hstep, hsome⟩ := encodeStep_flush h a
      rw [foldl_cons, ih _ fun hnone => absurd hnone hsome, map_cons, foldl_cons, hstep]
  exact hfold as ([], none) fun _ => rfl

theorem one_le_length_encode : ∀ r ∈ encode as, 1 ≤ r.length := by
  rw [encode_eq_merge]
  refine le_length_merge (by decide) fun r hr => ?_
  obtain ⟨a, -, rfl⟩ := List.mem_map.mp hr
  exact Int.le_refl 1

theorem alternating_encode : Alternating (encode as) := by
  rw [encode_eq_merge]
  exact alternating_merge _

theorem expand_encode : expand (encode as) = as := by
  rw [encode_eq_merge]
  unfold merge
  have hone : ∀ r ∈ as.map fun a => (⟨a, 1⟩ : Run α), 0 ≤ r.length := by
    intro r hr
    obtain ⟨a, -, rfl⟩ := List.mem_map.mp hr
    exact Int.one_nonneg
  rw [expand_foldl hone (by simp)]
  unfold expand
  rw [flatMap_map]
  exact flatMap_singleton' as

/-- The lengths add up to that of the list. -/
theorem sum_length_encode : ((encode as).map Run.length).sum = as.length := by
  have hsum : ∀ rs : List (Run α), (∀ r ∈ rs, 1 ≤ r.length) → (rs.map Run.length).sum = (expand rs).length := by
    intro rs
    induction rs with
    | nil => exact fun _ => rfl
    | cons r rs ih =>
      intro h
      have hr := h r mem_cons_self
      have hcons : expand (r :: rs) = List.replicate r.length.toNat r.kind ++ expand rs := rfl
      rw [map_cons, sum_cons, ih fun x hx => h x (mem_cons_of_mem _ hx), hcons, length_append, length_replicate]
      omega
  rw [hsum _ (one_le_length_encode as), expand_encode]

/-! ## Values beside their own -/

theorem paired_of_head {k : α} {as : List α} (h : as.head? ≠ some k)
    (prev : Bool) : paired k prev as = paired k false as := by
  cases as with
  | nil => rfl
  | cons a as =>
    have ha : a ≠ k := fun heq => h (by rw [heq]; rfl)
    simp [paired, ha]

theorem paired_replicate {k : α} {as : List α} (h : as.head? ≠ some k) (n : Nat) :
    paired k true (List.replicate n k ++ as) = n + paired k false as := by
  induction n with
  | zero =>
    rw [replicate_zero, nil_append, paired_of_head h]
    omega
  | succ n ih =>
    rw [replicate_succ, cons_append, paired, if_pos ⟨rfl, .inl rfl⟩, decide_eq_true rfl, ih]
    omega

/-- A run among values: its own are beside each other where there are two. -/
theorem paired_run {k a : α} {n : Nat} (hn : 1 ≤ n) {as : List α} (h : as.head? ≠ some a) :
    paired k false (List.replicate n a ++ as) = (if a = k ∧ 2 ≤ n then n else 0) + paired k false as := by
  obtain ⟨n, rfl⟩ : ∃ m, n = m + 1 := ⟨n - 1, by omega⟩
  rw [replicate_succ, cons_append, paired]
  by_cases ha : a = k
  · subst ha
    rw [decide_eq_true rfl, paired_replicate h]
    cases n with
    | zero =>
      rw [replicate_zero, nil_append, if_neg (by simp [h]), if_neg (by omega)]
      omega
    | succ n =>
      rw [if_pos ⟨rfl, .inr rfl⟩, if_pos ⟨rfl, by omega⟩]
      omega
  · rw [if_neg fun hk => ha hk.1, if_neg fun hk => ha hk.1, decide_eq_false ha]
    congr 1
    induction n with
    | zero => rfl
    | succ n ih =>
      rw [replicate_succ, cons_append, paired, if_neg fun hk => ha hk.1, decide_eq_false ha, ih (by omega)]
      omega

/-- The runs of a kind that have two values at least add up to its values beside their own. -/
theorem paired_expand (halternating : Alternating rs) (hlength : ∀ r ∈ rs, 1 ≤ r.length) :
    (paired k false (expand rs) : Int) = total k (rs.filter (2 ≤ ·.length)) := by
  induction rs with
  | nil => rfl
  | cons r rs ih =>
    have hr := hlength r mem_cons_self
    have hrest := fun s hs => hlength s (mem_cons_of_mem r hs)
    have hhead : (expand rs).head? ≠ some r.kind := by
      cases rs with
      | nil => nofun
      | cons s rs =>
        have hs := hrest s mem_cons_self
        have hne : r.kind ≠ s.kind := (isChain_cons_cons.mp halternating).1
        obtain ⟨n, hn⟩ : ∃ n, s.length.toNat = n + 1 := ⟨s.length.toNat - 1, by omega⟩
        have hcons : expand (s :: rs) = List.replicate s.length.toNat s.kind ++ expand rs := rfl
        rw [hcons, hn, replicate_succ]
        intro heq
        exact hne (Option.some.inj heq).symm
    have hcons : expand (r :: rs) = List.replicate r.length.toNat r.kind ++ expand rs := rfl
    have htail : Alternating rs := List.IsChain.tail halternating
    rw [hcons, paired_run (by omega) hhead, Nat.cast_add, ih htail hrest]
    by_cases htwo : 2 ≤ r.length
    · have hsplit : total k (([r] ++ rs).filter (2 ≤ ·.length)) = total k [r] + total k (rs.filter (2 ≤ ·.length)) := by
        rw [filter_append, total_append, filter_cons_of_pos (by simpa using htwo), filter_nil]
      rw [show r :: rs = [r] ++ rs from rfl, hsplit]
      congr 1
      unfold total
      by_cases hk : r.kind = k
      · rw [if_pos ⟨hk, by omega⟩]
        simp [hk]
        omega
      · rw [if_neg fun h => hk h.1]
        simp [hk]
    · rw [filter_cons_of_neg (by simpa using htwo), if_neg fun h => htwo (by omega)]
      omega

end

end Nq.Runs
