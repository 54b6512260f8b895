/-
  Nq.Text.Instants — instants in UTC as `time` writes them in RFC 3339, and how their texts
  sort.

  A fraction of zero is not written, and zeros at the end of a fraction are not either. So
  texts of different seconds sort as the instants do, but within a second an instant sorts
  behind every instant whose fraction continues its decimals: `00Z` behind `00.5Z`
  (`fmtTs_lt_iff`).
-/

import Nq.Text.Digits
import Mathlib.Order.Defs.LinearOrder
import Mathlib.Data.List.Basic

namespace Nq.Text

open List hiding lt_asymm lt_irrefl not_lt

/-! ## Instants -/

/-- An `OffsetDateTime` of offset zero with a year RFC 3339 can write. -/
structure OffsetDateTime where
  year : Nat
  month : Nat
  day : Nat
  hour : Nat
  minute : Nat
  second : Nat
  nanosecond : Nat
  year_lt : year < 10000
  month_le : month ≤ 12
  day_le : day ≤ 31
  hour_lt : hour < 24
  minute_lt : minute < 60
  second_lt : second < 60
  nanosecond_lt : nanosecond < 1000000000
  deriving DecidableEq

/-- The second the instant is in. -/
def OffsetDateTime.fields (t : OffsetDateTime) : List Nat := [t.year, t.month, t.day, t.hour, t.minute, t.second]

/-- Numbers of fixed width, each with the text after it. -/
def written : List (Nat × List Char) → List Nat → List Char
  | (w, sep) :: shape, n :: ns => digits w n ++ (sep ++ written shape ns)
  | _, _ => []

def shape : List (Nat × List Char) := [(4, ['-']), (2, ['-']), (2, ['T']), (2, [':']), (2, [':']), (2, [])]

/-- The digits of a fraction of `w` places, without the zeros at its end. -/
def trimmed : Nat → Nat → List Char
  | 0, _ => []
  | w + 1, n => if n % 10 = 0 then trimmed w (n / 10) else digits (w + 1) n

def fraction (nanosecond : Nat) : List Char :=
  if nanosecond = 0 then ['Z'] else '.' :: (trimmed 9 nanosecond ++ ['Z'])

/-- `fmt_ts`. -/
def fmtTs (t : OffsetDateTime) : String := String.ofList (written shape t.fields ++ fraction t.nanosecond)

/-! ## Trimmed digits -/

variable {c : Char} {k m n w : Nat}

theorem mem_digits : ∀ {n : Nat}, c ∈ digits w n → '0' ≤ c ∧ c < 'Z' := by
  have hrange : ∀ d < 10, '0' ≤ digitChar d ∧ digitChar d < 'Z' := by decide
  induction w with
  | zero =>
    intro n hc
    cases hc
  | succ w ih =>
    intro n hc
    rcases mem_append.mp hc with hc | hc
    · exact ih hc
    · rw [mem_singleton.mp hc]
      exact hrange _ (Nat.mod_lt n (by omega))

theorem digits_append (a : Nat) : ∀ {n : Nat}, digits (a + k) n = digits a (n / 10 ^ k) ++ digits k n := by
  induction k with
  | zero => intro n; simp [digits]
  | succ k ih =>
    intro n
    show digits (a + k) (n / 10) ++ [digitChar (n % 10)] = _
    rw [ih, Nat.div_div_eq_div_mul, ← Nat.pow_succ', append_assoc]
    rfl

/-- What is trimmed are zeros. -/
theorem trimmed_spec : ∀ n, ∃ k ≤ w, trimmed w n = digits (w - k) (n / 10 ^ k) ∧ 10 ^ k ∣ n ∧
    digits w n = trimmed w n ++ List.replicate k '0' := by
  induction w with
  | zero => intro n; exact ⟨0, by omega, rfl, by simp, rfl⟩
  | succ w ih =>
    intro n
    unfold trimmed
    by_cases hzero : n % 10 = 0
    · rw [if_pos hzero]
      obtain ⟨k, hk, htrim, hdvd, hdigits⟩ := ih (n / 10)
      refine ⟨k + 1, by omega, ?_, ?_, ?_⟩
      · rw [htrim, Nat.div_div_eq_div_mul, ← Nat.pow_succ']
        congr 1
        omega
      · obtain ⟨q, hq⟩ := hdvd
        refine ⟨q, ?_⟩
        rw [Nat.pow_succ', Nat.mul_assoc, ← hq]
        omega
      · rw [digits, hdigits, hzero, append_assoc, replicate_succ']
        rfl
    · rw [if_neg hzero]
      exact ⟨0, by omega, by simp, by simp, by simp⟩

theorem mem_trimmed (hc : c ∈ trimmed w n) : '0' ≤ c ∧ c < 'Z' := by
  obtain ⟨k, _, htrim, _⟩ := trimmed_spec (w := w) n
  exact mem_digits (htrim ▸ hc)

theorem trimmed_mul (w N : Nat) : trimmed (w + k) (N * 10 ^ k) = trimmed w N := by
  induction k with
  | zero => simp
  | succ k ih =>
    have hten : N * 10 ^ (k + 1) = N * 10 ^ k * 10 := by rw [Nat.pow_succ, Nat.mul_assoc]
    show (if N * 10 ^ (k + 1) % 10 = 0 then trimmed (w + k) (N * 10 ^ (k + 1) / 10) else _) = _
    rw [hten, if_pos (Nat.mul_mod_left _ _), Nat.mul_div_cancel _ (by omega), ih]

/-- A remainder that is not zero is written behind the digits it continues. -/
theorem trimmed_extends (w N : Nat) : ∀ {r : Nat}, 0 < r → r < 10 ^ k →
    ∃ c rest, trimmed (w + k) (N * 10 ^ k + r) = digits w N ++ c :: rest := by
  induction k with
  | zero =>
    intro r hr hlt
    rw [Nat.pow_zero] at hlt
    omega
  | succ k ih =>
    intro r hr hlt
    have hten : N * 10 ^ (k + 1) = 10 * (N * 10 ^ k) := by rw [Nat.pow_succ]; ac_rfl
    rw [Nat.pow_succ] at hlt
    show ∃ c rest, (if (N * 10 ^ (k + 1) + r) % 10 = 0 then trimmed (w + k) ((N * 10 ^ (k + 1) + r) / 10) else
      digits (w + (k + 1)) (N * 10 ^ (k + 1) + r)) = _
    by_cases hzero : (N * 10 ^ (k + 1) + r) % 10 = 0
    · rw [if_pos hzero]
      have hdiv : (N * 10 ^ (k + 1) + r) / 10 = N * 10 ^ k + r / 10 := by omega
      rw [hdiv]
      exact ih (by omega) (by omega)
    · rw [if_neg hzero, digits_append]
      have hlead : (N * 10 ^ (k + 1) + r) / 10 ^ (k + 1) = N := by
        rw [Nat.add_comm, Nat.add_mul_div_right _ _ (Nat.pow_pos (by omega)),
          Nat.div_eq_of_lt (by rw [Nat.pow_succ]; exact hlt)]
        omega
      rw [hlead]
      cases hrest : digits (k + 1) (N * 10 ^ (k + 1) + r) with
      | nil =>
        have hlength := congrArg List.length hrest
        rw [length_digits] at hlength
        cases hlength
      | cons c rest => exact ⟨c, rest, rfl⟩

/-! ## Fractions -/

/-- The first number is the second to fewer decimals. -/
def CutShort (m n : Nat) : Prop := ∃ k ≤ 9, m = n / 10 ^ k * 10 ^ k

/-- The difference is not among zeros at the end. -/
theorem Before.of_zeros {p q : List Char} (hp : ∀ c ∈ p, '0' ≤ c) (h : Before p (q ++ List.replicate k '0')) :
    Before p q := by
  induction k with
  | zero => simpa using h
  | succ k ih =>
    apply ih
    obtain ⟨a, c, c', r, s, rfl, hq, hc⟩ := h
    rw [replicate_succ', ← append_assoc] at hq
    rcases eq_nil_or_concat s with rfl | ⟨s, d, rfl⟩
    · have hlast := (append_inj' hq rfl).2
      rw [List.cons.injEq] at hlast
      have hge := hp c (by simp)
      rw [← hlast.1] at hc
      exact absurd hc (not_lt.mpr hge)
    · rw [concat_eq_append, ← cons_append, ← append_assoc] at hq
      exact ⟨a, c, c', r, s, rfl, (append_inj' hq rfl).1, hc⟩

theorem before_fraction (hmn : m < n) (hn : n < 1000000000) (hcut : ¬CutShort m n) :
    Before (fraction m) (fraction n) := by
  have hm : m ≠ 0 := by
    rintro rfl
    exact hcut ⟨9, by omega, by omega⟩
  obtain ⟨k, hk, htrim, ⟨M, hM⟩, _⟩ := trimmed_spec (w := 9) m
  obtain ⟨j, _, _, _, hzeros⟩ := trimmed_spec (w := 9) n
  have hpow : 0 < 10 ^ k := Nat.pow_pos (by omega)
  have hquot : m / 10 ^ k = M := by rw [hM, Nat.mul_div_cancel_left _ hpow]
  have hle : M ≤ n / 10 ^ k := by
    rw [← hquot]
    exact Nat.div_le_div_right (by omega)
  have hne : M ≠ n / 10 ^ k := by
    intro he
    exact hcut ⟨k, hk, by rw [← he, hM, Nat.mul_comm]⟩
  have hsplit : 10 ^ 9 = 10 ^ (9 - k) * 10 ^ k := by rw [← Nat.pow_add, Nat.sub_add_cancel hk]
  have hbound : n / 10 ^ k < 10 ^ (9 - k) := Nat.div_lt_of_lt_mul (by rw [Nat.mul_comm, ← hsplit]; omega)
  have hdigits : digits 9 n = digits (9 - k) (n / 10 ^ k) ++ digits k n := by
    rw [← digits_append, Nat.sub_add_cancel hk]
  have hbefore : Before (trimmed 9 m) (trimmed 9 n) := by
    refine Before.of_zeros (fun c hc => (mem_trimmed hc).1) (k := j) ?_
    rw [← hzeros, hdigits, htrim, hquot]
    have := (before_digits (w := 9 - k) (Nat.lt_of_le_of_ne hle hne) hbound).append [] [] (digits k n)
    simpa using this
  have := hbefore.append ['.'] ['Z'] ['Z']
  unfold fraction
  rw [if_neg hm, if_neg (by omega)]
  simpa using this

theorem before_fraction_of_cutShort (hmn : m < n) (hcut : CutShort m n) : Before (fraction n) (fraction m) := by
  obtain ⟨k, hk, hm⟩ := hcut
  have hfraction : fraction n = '.' :: (trimmed 9 n ++ ['Z']) := if_neg (by omega)
  by_cases hzero : m = 0
  · rw [hfraction, hzero]
    exact ⟨[], '.', 'Z', _, [], rfl, rfl, by decide⟩
  · have hr : 0 < n % 10 ^ k := by
      have := Nat.div_add_mod' n (10 ^ k)
      omega
    obtain ⟨c, rest, hext⟩ := trimmed_extends (9 - k) (n / 10 ^ k) hr (Nat.mod_lt _ (Nat.pow_pos (by omega)))
    rw [Nat.div_add_mod', Nat.sub_add_cancel hk] at hext
    have hshort := trimmed_mul (9 - k) (n / 10 ^ k) (k := k)
    rw [← hm, Nat.sub_add_cancel hk] at hshort
    obtain ⟨j, _, _, _, hzeros⟩ := trimmed_spec (w := 9 - k) (n / 10 ^ k)
    rw [hzeros, ← hshort, append_assoc] at hext
    -- the next digit of the longer fraction stands against the Z of the shorter
    cases hnext : List.replicate j '0' ++ c :: rest with
    | nil => simp at hnext
    | cons d tail =>
      rw [hnext] at hext
      have hd : d < 'Z' := (mem_trimmed (w := 9) (n := n) (by rw [hext]; simp)).2
      rw [hfraction, hext, fraction, if_neg hzero]
      exact ⟨'.' :: trimmed 9 m, d, 'Z', tail ++ ['Z'], [], by simp, by simp, hd⟩

/-! ## The order of the texts -/

theorem before_written : ∀ {shape : List (Nat × List Char)} {ms ns : List Nat}, ms.length = shape.length → ns.length =
    shape.length → (∀ p ∈ shape.zip ns, p.2 < 10 ^ p.1.1) → ms < ns → Before (written shape ms) (written shape ns) := by
  intro shape
  induction shape with
  | nil =>
    intro ms ns hms hns _ hlt
    rw [eq_nil_of_length_eq_zero hns] at hlt
    exact absurd hlt (not_lt_nil ms)
  | cons p shape ih =>
    intro ms ns hms hns hbound hlt
    obtain ⟨w, sep⟩ := p
    cases ms with
    | nil => cases hms
    | cons m ms =>
      cases ns with
      | nil => cases hns
      | cons n ns =>
        have hn : n < 10 ^ w := hbound ((w, sep), n) mem_cons_self
        rcases cons_lt_cons_iff.mp hlt with hmn | ⟨rfl, hlt'⟩
        · exact (before_digits hmn hn).append [] _ _
        · have hrest := ih (Nat.succ.inj hms) (Nat.succ.inj hns) (fun p hp => hbound p (mem_cons_of_mem _ hp)) hlt'
          have := hrest.append (digits w m ++ sep) [] []
          simpa [written] using this

namespace OffsetDateTime

variable {t u : OffsetDateTime}

/-- The text of the first instant sorts before that of the second. -/
def SortsBefore (t u : OffsetDateTime) : Prop :=
  t.fields < u.fields ∨ t.fields = u.fields ∧
    (t.nanosecond < u.nanosecond ∧ ¬CutShort t.nanosecond u.nanosecond ∨
      u.nanosecond < t.nanosecond ∧ CutShort u.nanosecond t.nanosecond)

theorem fields_lt (t : OffsetDateTime) : ∀ p ∈ shape.zip t.fields, p.2 < 10 ^ p.1.1 := by
  have := t.year_lt
  have := t.month_le
  have := t.day_le
  have := t.hour_lt
  have := t.minute_lt
  have := t.second_lt
  intro p hp
  simp only [shape, fields, zip_cons_cons, zip_nil_right, mem_cons, not_mem_nil, or_false] at hp
  rcases hp with rfl | rfl | rfl | rfl | rfl | rfl <;> dsimp only <;> omega

theorem SortsBefore.lt (h : t.SortsBefore u) : fmtTs t < fmtTs u := by
  apply Before.lt
  rcases h with hlt | ⟨heq, ⟨hlt, hcut⟩ | ⟨hlt, hcut⟩⟩
  · have hbefore : Before (written shape t.fields) (written shape u.fields) := before_written rfl rfl u.fields_lt hlt
    have := hbefore.append [] (fraction t.nanosecond) (fraction u.nanosecond)
    simpa using this
  · have := (before_fraction hlt u.nanosecond_lt hcut).append (written shape t.fields) [] []
    simpa [heq] using this
  · have := (before_fraction_of_cutShort hlt hcut).append (written shape t.fields) [] []
    simpa [heq] using this

theorem sortsBefore_trichotomy (t u : OffsetDateTime) : t.SortsBefore u ∨ fmtTs t = fmtTs u ∨ u.SortsBefore t := by
  rcases lt_trichotomy t.fields u.fields with hlt | heq | hgt
  · exact .inl (.inl hlt)
  · rcases Nat.lt_trichotomy t.nanosecond u.nanosecond with hlt | hnano | hgt
    · by_cases hcut : CutShort t.nanosecond u.nanosecond
      · exact .inr (.inr (.inr ⟨heq.symm, .inr ⟨hlt, hcut⟩⟩))
      · exact .inl (.inr ⟨heq, .inl ⟨hlt, hcut⟩⟩)
    · refine .inr (.inl ?_)
      unfold fmtTs
      rw [heq, hnano]
    · by_cases hcut : CutShort u.nanosecond t.nanosecond
      · exact .inl (.inr ⟨heq, .inr ⟨hgt, hcut⟩⟩)
      · exact .inr (.inr (.inr ⟨heq.symm, .inl ⟨hgt, hcut⟩⟩))
  · exact .inr (.inr (.inl hgt))

theorem fmtTs_lt_iff : fmtTs t < fmtTs u ↔ t.SortsBefore u := by
  constructor
  · intro hlt
    rcases sortsBefore_trichotomy t u with h | heq | h
    · exact h
    · rw [heq] at hlt
      exact absurd hlt (lt_irrefl _)
    · exact absurd hlt (lt_asymm h.lt)
  · exact SortsBefore.lt

end OffsetDateTime

end Nq.Text
