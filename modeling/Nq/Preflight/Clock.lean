/-
  Nq.Preflight.Clock — instants as the texts `time` writes for them.

  What is relied on of its RFC 3339: a text reads back, and texts sort by the second
  (`Crates.Rfc3339`); within a second they need not, since a fraction that is zero is not
  written. `dayCrates` does so for the instants of one day.
-/

import Nq.Detect.Checks
import Nq.Preflight.Result
import Nq.Text.Digits

namespace Nq.Preflight

open List

/-! ## Texts of instants -/

/-- Instants as `time` writes them in UTC: a text reads back, texts sort by the second, and
    what lies between two instants that have a text has one. -/
structure Crates.Rfc3339 (crates : Crates) : Prop where
  parse_format : ∀ t s, crates.format t = some s → crates.parse s = some t
  sorted : ∀ t u s r, crates.format t = some s → crates.format u = some r → t / seconds 1 < u / seconds 1 → s < r
  between : ∀ t u v, t ≤ u → u ≤ v → (crates.format t).isSome → (crates.format v).isSome → (crates.format u).isSome

theorem le_wholeSeconds {n x : Int} (hn : 0 < n) : n ≤ wholeSeconds x ↔ seconds n ≤ x := by
  unfold wholeSeconds seconds
  by_cases hx : 0 ≤ x
  · rw [Int.tdiv_eq_ediv_of_nonneg hx]
    omega
  · have hneg : x.tdiv 1000000000 = -((-x).tdiv 1000000000) := by rw [Int.neg_tdiv, Int.neg_neg]
    rw [hneg, Int.tdiv_eq_ediv_of_nonneg (by omega)]
    omega

/-! ## The twentieth of May -/

open Text (digits value Before length_digits value_digits before_digits)

/-- 2026-05-20T00:00:00Z. -/
def day : Int := seconds 1779235200

def fraction (f : Nat) : List Char := if f = 0 then ['Z'] else '.' :: (digits 9 f ++ ['Z'])

/-- The second of the day, and the nanosecond of the second. -/
def dayText (n f : Nat) : List Char :=
  ['2', '0', '2', '6', '-', '0', '5', '-', '2', '0', 'T'] ++ (digits 2 (n / 3600) ++
    (':' :: (digits 2 (n / 60 % 60) ++ (':' :: (digits 2 (n % 60) ++ fraction f)))))

def dayFormat (t : Int) : Option String :=
  if 0 ≤ t - day ∧ t - day < seconds 86400 then
    some (String.ofList (dayText ((t - day).toNat / 1000000000) ((t - day).toNat % 1000000000)))
  else none

/-- The instant the text would stand for. -/
def dayInstant (cs : List Char) : Int :=
  let second := value ((cs.drop 11).take 2) * 3600 + value ((cs.drop 14).take 2) * 60 + value ((cs.drop 17).take 2)
  let nanosecond := if (cs.drop 19).head? = some '.' then value ((cs.drop 20).take 9) else 0
  day + ((second * 1000000000 + nanosecond : Nat) : Int)

def dayParse (s : String) : Except String Int :=
  if dayFormat (dayInstant s.toList) = some s then .ok (dayInstant s.toList)
    else .error "the 'year' component could not be parsed"

variable {f n : Nat}

theorem dayInstant_dayText (hn : n < 86400) (hf : f < 1000000000) :
    dayInstant (dayText n f) = day + ((n * 1000000000 + f : Nat) : Int) := by
  have hhour : value (digits 2 (n / 3600)) = n / 3600 := value_digits (by omega)
  have hminute : value (digits 2 (n / 60 % 60)) = n / 60 % 60 := value_digits (by omega)
  have hsecond : value (digits 2 (n % 60)) = n % 60 := value_digits (by omega)
  have htwo : ∀ m (rest : List Char), ((digits 2 m ++ rest).take 2 = digits 2 m) ∧ (digits 2 m ++ rest).drop 2 = rest :=
    fun m rest => ⟨take_left' (length_digits 2 m), drop_left' (length_digits 2 m)⟩
  have hskip : ∀ k m (rest : List Char), (digits 2 m ++ rest).drop (2 + k) = rest.drop k := by
    intro k m rest
    rw [← drop_drop, (htwo m rest).2]
  have hnano : (if (fraction f).head? = some '.' then value (((fraction f).drop 1).take 9) else 0) = f := by
    unfold fraction
    by_cases hzero : f = 0
    · rw [if_pos hzero]
      simp [hzero]
    · rw [if_neg hzero, head?_cons, if_pos rfl, drop_one, tail_cons, take_left' (length_digits 9 f),
        value_digits (by omega)]
  have hdrop11 : (dayText n f).drop 11 = digits 2 (n / 3600) ++
      (':' :: (digits 2 (n / 60 % 60) ++ (':' :: (digits 2 (n % 60) ++ fraction f)))) := rfl
  have hdrop14 : (dayText n f).drop 14 = digits 2 (n / 60 % 60) ++ (':' :: (digits 2 (n % 60) ++ fraction f)) := by
    rw [show 14 = 11 + (2 + 1) from rfl, ← drop_drop, hdrop11, hskip]
    rfl
  have hdrop17 : (dayText n f).drop 17 = digits 2 (n % 60) ++ fraction f := by
    rw [show 17 = 14 + (2 + 1) from rfl, ← drop_drop, hdrop14, hskip]
    rfl
  have hdrop19 : (dayText n f).drop 19 = fraction f := by
    rw [show 19 = 17 + (2 + 0) from rfl, ← drop_drop, hdrop17, hskip]
    rfl
  have hdrop20 : (dayText n f).drop 20 = (fraction f).drop 1 := by rw [show 20 = 19 + 1 from rfl, ← drop_drop, hdrop19]
  unfold dayInstant
  rw [hdrop11, hdrop14, hdrop17, hdrop19, hdrop20, (htwo _ _).1, (htwo _ _).1, (htwo _ _).1, hhour,
    hminute, hsecond, hnano]
  have hclock : n / 3600 * 3600 + n / 60 % 60 * 60 + n % 60 = n := by omega
  dsimp only
  rw [hclock]

theorem before_dayText {m g : Nat} (hnm : n < m) (hm : m < 86400) : Before (dayText n f) (dayText m g) := by
  unfold dayText
  rcases Nat.lt_or_ge (n / 3600) (m / 3600) with hhour | hhour
  · exact (before_digits hhour (by omega)).append _ _ _
  · have hhour : n / 3600 = m / 3600 := by omega
    rw [hhour]
    rcases Nat.lt_or_ge (n / 60 % 60) (m / 60 % 60) with hminute | hminute
    · have h := (before_digits (w := 2) hminute (by omega)).append [':'] (':' :: (digits 2 (n % 60) ++ fraction f))
        (':' :: (digits 2 (m % 60) ++ fraction g))
      simpa using (h.append (digits 2 (m / 3600)) [] []).append
        ['2', '0', '2', '6', '-', '0', '5', '-', '2', '0', 'T'] [] []
    · have hminute : n / 60 % 60 = m / 60 % 60 := by omega
      rw [hminute]
      have h := (before_digits (w := 2) (m := n % 60) (n := m % 60) (by omega) (by omega)).append
        [':'] (fraction f) (fraction g)
      simpa using ((h.append (digits 2 (m / 60 % 60)) [] []).append (':' :: []) [] []).append
        (['2', '0', '2', '6', '-', '0', '5', '-', '2', '0', 'T'] ++ digits 2 (m / 3600)) [] []

theorem dayFormat_iff {t : Int} {s : String} : dayFormat t = some s ↔
    ∃ n f : Nat, n < 86400 ∧ f < 1000000000 ∧ t = day + ((n * 1000000000 + f : Nat) : Int) ∧
      s = String.ofList (dayText n f) := by
  unfold dayFormat
  constructor
  · intro h
    split at h
    · rename_i hday
      cases h
      refine ⟨(t - day).toNat / 1000000000, (t - day).toNat % 1000000000, ?_, by omega, by omega, rfl⟩
      unfold seconds at hday
      omega
    · cases h
  · rintro ⟨n, f, hn, hf, rfl, rfl⟩
    have hnat : (day + ((n * 1000000000 + f : Nat) : Int) - day).toNat = n * 1000000000 + f := by omega
    rw [if_pos (by unfold seconds; omega), hnat]
    have hsecond : (n * 1000000000 + f) / 1000000000 = n := by omega
    have hnano : (n * 1000000000 + f) % 1000000000 = f := by omega
    rw [hsecond, hnano]

/-- The crates, on one day. -/
def dayCrates : Crates := ⟨{ Receipts.sampleCodec with rfc3339 := dayParse }, dayFormat, exactArith⟩

theorem parse_dayCrates (s : String) : dayCrates.parse s = (dayParse s).toOption := rfl

theorem format_dayCrates (t : Int) : dayCrates.format t = dayFormat t := rfl

theorem dayCrates_rfc3339 : dayCrates.Rfc3339 := by
  refine ⟨fun t s h => ?_, fun t u s r ht hu hlt => ?_, fun t u v htu huv ht hv => ?_⟩
  · rw [format_dayCrates] at h
    obtain ⟨n, f, hn, hf, rfl, rfl⟩ := dayFormat_iff.mp h
    have hread : dayInstant (String.ofList (dayText n f)).toList = day + ((n * 1000000000 + f : Nat) : Int) := by
      rw [String.toList_ofList, dayInstant_dayText hn hf]
    have hparse : dayParse (String.ofList (dayText n f)) = .ok (day + ((n * 1000000000 + f : Nat) : Int)) := by
      unfold dayParse
      rw [hread]
      exact if_pos h
    rw [parse_dayCrates, hparse, Except.toOption]
  · rw [format_dayCrates] at ht hu
    obtain ⟨n, f, hn, hf, rfl, rfl⟩ := dayFormat_iff.mp ht
    obtain ⟨m, g, hm, hg, rfl, rfl⟩ := dayFormat_iff.mp hu
    refine (before_dayText ?_ hm).lt
    unfold day seconds at hlt
    omega
  · rw [format_dayCrates] at ht hv ⊢
    obtain ⟨s, hs⟩ := Option.isSome_iff_exists.mp ht
    obtain ⟨r, hr⟩ := Option.isSome_iff_exists.mp hv
    obtain ⟨n, f, hn, hf, rfl, _⟩ := dayFormat_iff.mp hs
    obtain ⟨m, g, hm, hg, rfl, _⟩ := dayFormat_iff.mp hr
    unfold dayFormat
    rw [if_pos (by unfold seconds; omega), Option.isSome_some]

end Nq.Preflight
