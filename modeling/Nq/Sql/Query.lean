/-
  Nq.Sql.Query — result sets: window functions, grouping, and the loop that reads one.

  - `rowNumber`, `ranked`, `lag`: ROW_NUMBER() OVER (PARTITION BY … ORDER BY … DESC) and
    LAG, over rows that no partition orders alike (as under a primary key);
  - `groups`: the keys of GROUP BY, and of SELECT DISTINCT;
  - `collect`: a loop that decodes every row of a result set, stopping at the first that
    does not decode, and appends what each row gives.

  What such a loop appends is distinct when the rows are distinct by a key and each row
  gives only what carries its key (`nodup_flatMap_key`); one row per partition is
  (`nodup_latest`). A row of the newest step is the first of its partition, and LAG gives
  the one before it (`lastTwo_newest`). `smallest` is ORDER BY … LIMIT n on a column.
-/

import Nq.Sql.Table
import Mathlib.Data.List.Dedup
import Mathlib.Data.List.Perm.Subperm
import Mathlib.Data.List.Sort

namespace Nq.Sql

open List

variable {ρ κ σ τ ε : Type}

/-! ## Windows and groups -/

section

variable [DecidableEq κ] (part : ρ → κ) (ord : ρ → Int)

def rowNumber (rows : List ρ) (r : ρ) : Nat := (rows.filter fun r' => part r' = part r ∧ ord r < ord r').length + 1

/-- The rows with row number `n`: one in each partition that has `n` rows. -/
def ranked (n : Nat) (rows : List ρ) : List ρ := rows.filter (rowNumber part ord rows · = n)

/-- Each partition's latest row with the one before it. -/
def lastTwo (rows : List ρ) : List (ρ × ρ) :=
  (ranked part ord 1 rows).filterMap fun r => ((ranked part ord 2 rows).find? (part · = part r)).map (r, ·)

/-- The row before `r` in its partition. -/
def lag (rows : List ρ) (r : ρ) : Option ρ :=
  firstBy (fun a b => ord b < ord a) (rows.filter fun r' => part r' = part r ∧ ord r' < ord r)

def groups (key : ρ → κ) (rows : List ρ) : List κ := (rows.map key).dedup

theorem nodup_groups (key : ρ → κ) (rows : List ρ) : (groups key rows).Nodup := nodup_dedup _

end

/-- No row of the partition comes after one with row number 1. -/
theorem le_of_ranked_one [DecidableEq κ] {part : ρ → κ} {ord : ρ → Int} {rows : List ρ} {r r' : ρ}
    (hr : r ∈ ranked part ord 1 rows) (hr' : r' ∈ rows) (hp : part r' = part r) : ord r' ≤ ord r := by
  have hrank : rowNumber part ord rows r = 1 := by simpa using (mem_filter.mp hr).2
  have hnil : rows.filter (fun r' => part r' = part r ∧ ord r < ord r') = [] := by
    unfold rowNumber at hrank
    exact length_eq_zero_iff.mp (by omega)
  have hnot := filter_eq_nil_iff.mp hnil r' hr'
  simp only [hp, true_and, decide_eq_true_eq] at hnot
  omega

/-- One latest row in each partition. -/
theorem nodup_latest [DecidableEq κ] {part : ρ → κ} {ord : ρ → Int} {rows : List ρ}
    (hn : (rows.map fun r => (ord r, part r)).Nodup) : ((ranked part ord 1 rows).map part).Nodup := by
  have hrows : rows.Nodup := hn.of_map _
  refine (nodup_map_iff_inj_on (hrows.filter _)).mpr ?_
  intro r hr r' hr' hp
  have hle := le_of_ranked_one hr (mem_filter.mp hr').1 hp.symm
  have hge := le_of_ranked_one hr' (mem_filter.mp hr).1 hp
  refine inj_on_of_nodup_map hn (mem_filter.mp hr).1 (mem_filter.mp hr').1 ?_
  rw [hp, Int.le_antisymm hge hle]

/-! ## The newest row of a partition -/

section

variable [DecidableEq κ] {part : ρ → κ} {ord : ρ → Int} {rows : List ρ} {r : ρ}

theorem lag_eq_none (h : lag part ord rows r = none) {r' : ρ} (hr' : r' ∈ rows) (hp : part r' = part r) :
    ord r ≤ ord r' := by
  by_contra hlt
  have hmem : r' ∈ rows.filter fun r' => part r' = part r ∧ ord r' < ord r := by
    rw [mem_filter]
    exact ⟨hr', by simp [hp]; omega⟩
  rw [firstBy_eq_none h] at hmem
  cases hmem

variable {prior : ρ} {p : ρ → Bool}

/-- The row before `r` is of its partition, before it, and no other row is between them. -/
theorem lag_eq_some (h : lag part ord rows r = some prior) :
    prior ∈ rows ∧ part prior = part r ∧ ord prior < ord r ∧
      ∀ r' ∈ rows, part r' = part r → ord r' < ord r → ord r' ≤ ord prior := by
  obtain ⟨hmem, hmax⟩ := firstBy_desc h
  obtain ⟨hrows, hp⟩ := mem_filter.mp hmem
  simp only [decide_eq_true_eq] at hp
  refine ⟨hrows, hp.1, hp.2, ?_⟩
  intro r' hr' hp' hlt
  exact hmax r' (mem_filter.mpr ⟨hr', by simp [hp', hlt]⟩)

/-- A condition that holds of the whole partition does not change the row before. -/
theorem lag_filter (h : ∀ r', part r' = part r → p r' = true) :
    lag part ord (rows.filter p) r = lag part ord rows r := by
  unfold lag
  rw [filter_filter]
  refine congrArg _ (filter_congr fun r' _ => ?_)
  by_cases hp : part r' = part r
  · simp [hp, h r' hp]
  · simp [hp]

theorem filter_eq_singleton (hn : rows.Nodup) (hr : r ∈ rows) (h : ∀ r' ∈ rows, p r' = true ↔ r' = r) :
    rows.filter p = [r] := by
  refine perm_singleton.mp ((perm_ext_iff_of_nodup (hn.filter _) (nodup_singleton r)).mpr ?_)
  intro r'
  rw [mem_filter, mem_singleton]
  constructor
  · intro hm
    exact (h r' hm.1).mp hm.2
  · intro e
    subst e
    exact ⟨hr, (h r' hr).mpr rfl⟩

variable (hn : (rows.map fun r => (ord r, part r)).Nodup) (hr : r ∈ rows)
  (hnewest : ∀ r' ∈ rows, part r' = part r → ord r' ≤ ord r)
include hn hr hnewest

omit [DecidableEq κ] in
theorem eq_newest {r' : ρ} (hr' : r' ∈ rows) (hp : part r' = part r) (hle : ord r ≤ ord r') : r' = r := by
  refine inj_on_of_nodup_map hn hr' hr ?_
  have := hnewest r' hr' hp
  rw [hp, show ord r' = ord r by omega]

omit hn hr in
theorem rowNumber_newest : rowNumber part ord rows r = 1 := by
  have hnone : rows.filter (fun r' => part r' = part r ∧ ord r < ord r') = [] := by
    refine filter_eq_nil_iff.mpr fun r' hr' hlt => ?_
    simp only [decide_eq_true_eq] at hlt
    have := hnewest r' hr' hlt.1
    omega
  unfold rowNumber
  rw [hnone]
  rfl

theorem ranked_one_newest : (ranked part ord 1 rows).filter (part · = part r) = [r] := by
  refine filter_eq_singleton ((hn.of_map _).filter _) ?_ ?_
  · exact mem_filter.mpr ⟨hr, by simpa using rowNumber_newest hnewest⟩
  · intro r' hr'
    rw [decide_eq_true_eq]
    constructor
    · intro hp
      exact eq_newest hn hr hnewest (mem_filter.mp hr').1 hp (le_of_ranked_one hr' hr hp.symm)
    · intro e
      rw [e]

theorem rowNumber_lag (hlag : lag part ord rows r = some prior) : rowNumber part ord rows prior = 2 := by
  obtain ⟨_, hp, hlt, hmax⟩ := lag_eq_some hlag
  -- above the previous row is the newest one alone
  have hone : rows.filter (fun r' => part r' = part prior ∧ ord prior < ord r') = [r] := by
    refine filter_eq_singleton (hn.of_map _) hr fun r' hr' => ?_
    rw [decide_eq_true_eq]
    constructor
    · intro h
      have hp' : part r' = part r := h.1.trans hp
      by_contra hne
      have hlt' : ord r' < ord r := by
        by_contra hle
        exact hne (eq_newest hn hr hnewest hr' hp' (by omega))
      have := hmax r' hr' hp' hlt'
      omega
    · intro e
      rw [e]
      exact ⟨hp.symm, hlt⟩
  unfold rowNumber
  rw [hone]
  rfl

theorem eq_lag {q : ρ} (hlag : lag part ord rows r = some prior) (hq : q ∈ rows) (hp : part q = part r)
    (hrank : rowNumber part ord rows q = 2) : q = prior := by
  obtain ⟨hprior, hpp, hlt, hmax⟩ := lag_eq_some hlag
  have hne : q ≠ r := by
    intro e
    rw [e, rowNumber_newest hnewest] at hrank
    omega
  have hqr : ord q < ord r := by
    by_contra hle
    exact hne (eq_newest hn hr hnewest hq hp (by omega))
  have hqp := hmax q hq hp hqr
  have hpq : ord prior ≤ ord q := by
    -- else two rows are above it
    by_contra hlt'
    have htwo : [prior, r].Subperm (rows.filter fun r' => part r' = part q ∧ ord q < ord r') := by
      refine subperm_of_subset ?_ ?_
      · have : prior ≠ r := fun e => by rw [e] at hlt; omega
        simp [this]
      · intro x hx
        rw [mem_filter, decide_eq_true_eq]
        rcases mem_pair.mp hx with e | e
        · rw [e]; exact ⟨hprior, hpp.trans hp.symm, by omega⟩
        · rw [e]; exact ⟨hr, hp.symm, hqr⟩
    have hlen := htwo.length_le
    unfold rowNumber at hrank
    simp only [length_cons, length_nil] at hlen
    omega
  refine inj_on_of_nodup_map hn hq hprior ?_
  rw [hp, hpp, show ord q = ord prior by omega]

/-- The row with row number 2 is the one before the newest. -/
theorem ranked_two_newest : (ranked part ord 2 rows).find? (part · = part r) = lag part ord rows r := by
  cases hlag : lag part ord rows r with
  | none =>
    refine find?_eq_none.mpr fun q hq hp => ?_
    obtain ⟨hq, hrank⟩ := mem_filter.mp hq
    rw [decide_eq_true_eq] at hp hrank
    have hqr : q = r := eq_newest hn hr hnewest hq hp (lag_eq_none hlag hq hp)
    rw [hqr, rowNumber_newest hnewest] at hrank
    omega
  | some prior =>
    obtain ⟨hprior, hpp, _⟩ := lag_eq_some hlag
    have htwo : prior ∈ ranked part ord 2 rows :=
      mem_filter.mpr ⟨hprior, by simpa using rowNumber_lag hn hr hnewest hlag⟩
    have hsome : ((ranked part ord 2 rows).find? (part · = part r)).isSome = true :=
      find?_isSome.mpr ⟨prior, htwo, by simp [hpp]⟩
    obtain ⟨q, hfind⟩ := Option.isSome_iff_exists.mp hsome
    obtain ⟨hq, hrank⟩ := mem_filter.mp (mem_of_find?_eq_some hfind)
    rw [hfind, eq_lag hn hr hnewest hlag hq (by simpa using find?_some hfind) (by simpa using hrank)]

/-- The newest row of a partition with the one before it, if there is one. -/
theorem lastTwo_newest :
    (lastTwo part ord rows).filter (fun p => part p.1 = part r) = ((lag part ord rows r).map (r, ·)).toList := by
  have hpick : ∀ (rs : List ρ) (f : ρ → Option ρ), (rs.filterMap fun r' => (f r').map (r', ·)).filter
      (fun p => part p.1 = part r) = (rs.filter (part · = part r)).filterMap fun r' => (f r').map (r', ·) := by
    intro rs f
    induction rs with
    | nil => rfl
    | cons r' rs ih =>
      by_cases hp : part r' = part r
      · cases hf : f r' <;> simp [hp, hf, ih]
      · cases hf : f r' <;> simp [hp, hf, ih]
  unfold lastTwo
  rw [hpick, ranked_one_newest hn hr hnewest, filterMap_cons, filterMap_nil,
    ranked_two_newest hn hr hnewest]
  cases lag part ord rows r <;> rfl

end

/-! ## ORDER BY … LIMIT -/

/-- `ORDER BY x ASC LIMIT n`. -/
def smallest (n : Nat) (xs : List Int) : List Int := (xs.insertionSort (· ≤ ·)).take n

theorem mem_take_sorted {x : Int} : ∀ {n : Nat} {xs : List Int}, xs.Pairwise (· < ·) →
    (x ∈ xs.take n ↔ x ∈ xs ∧ (xs.filter (· < x)).length < n) := by
  intro n xs
  induction xs generalizing n with
  | nil => intro _; simp
  | cons a xs ih =>
    intro hs
    rw [pairwise_cons] at hs
    cases n with
    | zero => simp
    | succ n =>
      rw [take_succ_cons, mem_cons, mem_cons, ih hs.2]
      constructor
      · intro h
        rcases h with e | ⟨hx, hlt⟩
        · subst e
          have hnone : xs.filter (· < x) = [] := by
            refine filter_eq_nil_iff.mpr fun b hb hbx => ?_
            have := hs.1 b hb
            simp only [decide_eq_true_eq] at hbx
            omega
          simp [hnone]
        · refine ⟨.inr hx, ?_⟩
          rw [filter_cons_of_pos (by simpa using hs.1 x hx), length_cons]
          omega
      · intro h
        obtain ⟨e | hx, hlt⟩ := h
        · exact .inl e
        · rw [filter_cons_of_pos (by simpa using hs.1 x hx), length_cons] at hlt
          exact .inr ⟨hx, by omega⟩

section

variable {n : Nat} {xs : List Int} (hn : xs.Nodup)
include hn

theorem sort_strict : (xs.insertionSort (· ≤ ·)).Pairwise (· < ·) := by
  have hle := pairwise_insertionSort (· ≤ ·) xs
  have hne : (xs.insertionSort (· ≤ ·)).Nodup := (perm_insertionSort (· ≤ ·) xs).nodup_iff.mpr hn
  refine (hle.and hne).imp ?_
  intro a b hab
  omega

variable {x : Int}

/-- The `n` smallest values are those with fewer than `n` below them. -/
theorem mem_smallest : x ∈ smallest n xs ↔ x ∈ xs ∧ (xs.filter (· < x)).length < n := by
  have hperm := perm_insertionSort (· ≤ ·) xs
  unfold smallest
  rw [mem_take_sorted (sort_strict hn), hperm.mem_iff, (hperm.filter _).length_eq]

theorem length_filter_smallest : (xs.filter (· ∈ smallest n xs)).length = min n xs.length := by
  have hsub : (smallest n xs).Nodup := (sort_strict hn).nodup.sublist (take_sublist _ _)
  have hperm : (xs.filter (· ∈ smallest n xs)).Perm (smallest n xs) := by
    refine (perm_ext_iff_of_nodup (hn.filter _) hsub).mpr ?_
    intro x
    rw [mem_filter, decide_eq_true_eq]
    constructor
    · intro h
      exact h.2
    · intro h
      exact ⟨((mem_smallest hn).mp h).1, h⟩
  rw [hperm.length_eq]
  simp [smallest, (perm_insertionSort (· ≤ ·) xs).length_eq]

/-- Every other value is below or above `x`. -/
theorem length_below_above (hx : x ∈ xs) : (xs.filter (· < x)).length + (xs.filter (x < ·)).length + 1 = xs.length := by
  have hsplit := length_eq_length_filter_add (l := xs) (fun y => decide (y < x))
  have hrest := length_eq_length_filter_add (l := xs.filter fun y => !decide (y < x)) (fun y => decide (x < y))
  have habove : (xs.filter fun y => !decide (y < x)).filter (fun y => decide (x < y)) = xs.filter (x < ·) := by
    rw [filter_filter]
    refine filter_congr fun y _ => ?_
    rw [Bool.eq_iff_iff]
    simp only [Bool.and_eq_true, Bool.not_eq_true', decide_eq_true_eq, decide_eq_false_iff_not]
    omega
  have hself : (xs.filter fun y => !decide (y < x)).filter (fun y => !decide (x < y)) = [x] := by
    rw [filter_filter]
    refine filter_eq_singleton hn hx fun y _ => ?_
    simp only [Bool.and_eq_true, Bool.not_eq_true', decide_eq_false_iff_not]
    omega
  rw [habove, hself, length_singleton] at hrest
  omega

/-- The range from the least to the greatest of them holds no other value. -/
theorem range_smallest {low high : Int} (hlow : (smallest n xs).min? = some low)
    (hhigh : (smallest n xs).max? = some high) (hx : x ∈ xs) : (low ≤ x ∧ x ≤ high) ↔ x ∈ smallest n xs := by
  obtain ⟨_, hmin⟩ := min?_eq_some_iff.mp hlow
  obtain ⟨hmem, hmax⟩ := max?_eq_some_iff.mp hhigh
  constructor
  · intro h
    have hcount := ((mem_smallest hn).mp hmem).2
    refine (mem_smallest hn).mpr ⟨hx, ?_⟩
    have hle : (xs.filter (· < x)).length ≤ (xs.filter (· < high)).length := by
      refine (List.Sublist.length_le ?_)
      refine monotone_filter_right xs fun y hy => ?_
      simp only [decide_eq_true_eq] at hy ⊢
      omega
    omega
  · intro h
    exact ⟨hmin x h, hmax x h⟩

end

/-! ## Reading a result set -/

def collect (f : ρ → Except ε (List σ)) : List ρ → Except ε (List σ)
  | [] => .ok []
  | r :: rs => do
    let xs ← f r
    let rest ← collect f rs
    return xs ++ rest

variable {f : ρ → Except ε (List σ)} {rs : List ρ} {x : σ} {id : σ → τ} {key : ρ → κ} {gs : List (κ × List σ)}
  {tag : τ → κ} (of : τ → κ)

theorem collect_ok : ∀ {rs : List ρ} {out : List σ}, collect f rs = .ok out →
    (∀ r ∈ rs, ∃ xs, f r = .ok xs) ∧ out = rs.flatMap fun r => (f r).toOption.getD [] := by
  intro rs
  induction rs with
  | nil =>
    intro out h
    cases h
    exact ⟨fun r hr => (nomatch hr), rfl⟩
  | cons r rs ih =>
    intro out h
    obtain ⟨xs, hx, h⟩ := bind_ok.mp h
    obtain ⟨rest, hrest, h⟩ := bind_ok.mp h
    cases h
    obtain ⟨hall, rfl⟩ := ih hrest
    refine ⟨?_, by simp [hx, Except.toOption]⟩
    intro r' hr'
    rcases mem_cons.mp hr' with rfl | hr'
    · exact ⟨xs, hx⟩
    · exact hall r' hr'

theorem mem_collect {out : List σ} (h : collect f rs = .ok out) : x ∈ out ↔ ∃ r ∈ rs, ∃ xs, f r = .ok xs ∧ x ∈ xs := by
  obtain ⟨hall, rfl⟩ := collect_ok h
  rw [mem_flatMap]
  constructor
  · rintro ⟨r, hr, hx⟩
    obtain ⟨xs, hxs⟩ := hall r hr
    rw [hxs] at hx
    exact ⟨r, hr, xs, hxs, hx⟩
  · rintro ⟨r, hr, xs, hxs, hx⟩
    exact ⟨r, hr, by rw [hxs]; exact hx⟩

/-! ## Distinctness -/

/-- Rows distinct by a key, each giving distinct things that carry its key. -/
theorem nodup_flatMap_key {g : ρ → List σ} (hn : (rs.map key).Nodup)
    (hg : ∀ r ∈ rs, ((g r).map id).Nodup ∧ ∀ x ∈ g r, of (id x) = key r) : ((rs.flatMap g).map id).Nodup := by
  rw [map_flatMap, nodup_flatMap]
  refine ⟨fun r hr => (hg r hr).1, ?_⟩
  have hpair : rs.Pairwise fun r r' => key r ≠ key r' := pairwise_map.mp hn
  refine hpair.imp_of_mem ?_
  intro r r' hr hr' hne t ht ht'
  obtain ⟨x, hx, rfl⟩ := List.mem_map.mp ht
  obtain ⟨x', hx', hid⟩ := List.mem_map.mp ht'
  refine hne ?_
  rw [← (hg r hr).2 x hx, ← (hg r' hr').2 x' hx', hid]

/-- The same where a row gives at most one thing. -/
theorem nodup_filterMap_key {g : ρ → Option σ} (hn : (rs.map key).Nodup)
    (hg : ∀ r ∈ rs, ∀ x, g r = some x → of (id x) = key r) : ((rs.filterMap g).map id).Nodup := by
  rw [filterMap_eq_flatMap_toList]
  refine nodup_flatMap_key of hn ?_
  intro r hr
  cases h : g r with
  | none => simp
  | some x => simpa using hg r hr x h

theorem nodup_lastTwo [DecidableEq κ] {part : ρ → κ} {ord : ρ → Int} {rows : List ρ}
    (hn : (rows.map fun r => (ord r, part r)).Nodup) : ((lastTwo part ord rows).map fun p => part p.1).Nodup := by
  refine nodup_filterMap_key (fun k : κ => k) (nodup_latest hn) ?_
  intro r _ p hp
  obtain ⟨_, _, rfl⟩ := Option.map_eq_some_iff.mp hp
  rfl

/-- Groups of things, each group with a tag of its own: distinct together exactly when
    each group is. -/
theorem nodup_tagged (hk : (gs.map Prod.fst).Nodup) (htag : ∀ g ∈ gs, ∀ x ∈ g.2, tag (id x) = g.1) :
    ((gs.flatMap Prod.snd).map id).Nodup ↔ ∀ g ∈ gs, (g.2.map id).Nodup := by
  constructor
  · intro h g hg
    rw [map_flatMap, nodup_flatMap] at h
    exact h.1 g hg
  · intro h
    exact nodup_flatMap_key tag hk fun g hg => ⟨h g hg, htag g hg⟩

/-- A thing with a group's tag is in that group. -/
theorem mem_tagged (hk : (gs.map Prod.fst).Nodup) (htag : ∀ g ∈ gs, ∀ x ∈ g.2, tag (id x) = g.1) {g : κ × List σ}
    (hg : g ∈ gs) (hx : x ∈ gs.flatMap Prod.snd) (hxg : tag (id x) = g.1) : x ∈ g.2 := by
  obtain ⟨g', hg', hx'⟩ := mem_flatMap.mp hx
  have : g' = g := inj_on_of_nodup_map hk hg' hg ((htag g' hg' x hx').symm.trans hxg)
  exact this ▸ hx'

end Nq.Sql
