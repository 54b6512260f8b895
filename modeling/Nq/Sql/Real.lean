/-
  Nq.Sql.Real — the numbers of a column: REAL and `f64` values, as far as they are compared, and
  64-bit integers.

  A double is a finite number, an infinity or NaN. A finite double is the exact
  rational it stands for, so comparing two of them is comparing rationals; rounding
  only enters where values are computed, which is left to the code that computes them.
  SQLite has no NaN: binding one stores NULL (`F64.bind`).

  An INTEGER column holds an `i64`. `SUM` over one fails where a partial sum is none
  (`sumI64_ok_iff`); Rust's arithmetic wraps there (`wrapI64`).
-/

import Mathlib.Data.Rat.Defs
import Mathlib.Algebra.Order.Ring.Rat
import Mathlib.Order.WithBot

namespace Nq.Sql

open List hiding not_lt

inductive F64 where
  | fin (q : ℚ)
  | inf (neg : Bool)
  | nan
  deriving DecidableEq

namespace F64

instance (n : Nat) : OfNat F64 n := ⟨.fin n⟩

/-- IEEE `<`: false as soon as one side is NaN. -/
def lt : F64 → F64 → Bool
  | .fin a, .fin b => a < b
  | .fin _, .inf neg => !neg
  | .inf neg, .fin _ => neg
  | .inf true, .inf false => true
  | _, _ => false

/-- IEEE `=`: NaN equals nothing. -/
def eq : F64 → F64 → Bool
  | .nan, _ => false
  | a, b => a == b

def ge (a b : F64) : Bool := lt b a || eq a b

def isFinite : F64 → Bool
  | .fin _ => true
  | _ => false

/-- What a bound parameter stores in a REAL column. -/
def bind : F64 → Option F64
  | .nan => none
  | x => some x

/-- SQLite's two-argument `MAX` on stored values. -/
def max (a b : F64) : F64 := if lt a b then b else a

/-- Rust's `as i64`: truncation toward zero, saturating, NaN to 0. -/
def toI64 : F64 → Int
  | .fin q => Max.max (-9223372036854775808) (Min.min 9223372036854775807 (q.num.tdiv q.den))
  | .inf neg => if neg then -9223372036854775808 else 9223372036854775807
  | .nan => 0

/-! ## The order of stored values -/

/-- The place of a value between the two infinities. -/
def rank : F64 → WithBot (WithTop ℚ)
  | .fin q => ((q : WithTop ℚ) : WithBot (WithTop ℚ))
  | .inf true => ⊥
  | .inf false => ((⊤ : WithTop ℚ) : WithBot (WithTop ℚ))
  | .nan => ⊥

variable {a b : F64}

theorem lt_iff (ha : a ≠ .nan) (hb : b ≠ .nan) : lt a b = true ↔ a.rank < b.rank := by
  cases a with
  | nan => exact absurd rfl ha
  | inf n =>
    cases b with
    | nan => exact absurd rfl hb
    | inf m => cases n <;> cases m <;> simp [lt, rank]
    | fin q => cases n <;> simp [lt, rank]
  | fin p =>
    cases b with
    | nan => exact absurd rfl hb
    | inf m =>
      cases m with
      | true => simp [lt, rank]
      | false => exact iff_of_true rfl (WithBot.coe_lt_coe.mpr (WithTop.coe_lt_top p))
    | fin q => simp [lt, rank]

theorem rank_inj (ha : a ≠ .nan) (hb : b ≠ .nan) (h : a.rank = b.rank) : a = b := by
  have hfin : ∀ q : ℚ, ((q : WithTop ℚ) : WithBot (WithTop ℚ)) ≠ ((⊤ : WithTop ℚ) : WithBot (WithTop ℚ)) :=
    fun q e => WithTop.coe_ne_top (WithBot.coe_injective e)
  cases a with
  | nan => exact absurd rfl ha
  | inf n =>
    cases b with
    | nan => exact absurd rfl hb
    | inf m =>
      cases n <;> cases m
      · rfl
      · cases h
      · cases h
      · rfl
    | fin q =>
      cases n with
      | true => cases h
      | false => exact absurd h.symm (hfin q)
  | fin p =>
    cases b with
    | nan => exact absurd rfl hb
    | inf m =>
      cases m with
      | true => cases h
      | false => exact absurd h (hfin p)
    | fin q => rw [WithTop.coe_injective (WithBot.coe_injective h)]

theorem not_lt_iff (ha : a ≠ .nan) (hb : b ≠ .nan) : lt a b = false ↔ b.rank ≤ a.rank := by
  rw [← not_lt, ← lt_iff ha hb, Bool.not_eq_true]

theorem bind_ne_nan (h : bind a = some b) : b ≠ .nan := by
  cases a <;> cases h <;> simp

theorem lt_self (a : F64) : lt a a = false := by
  cases a with
  | fin q => simp [lt]
  | inf n => cases n <;> rfl
  | nan => rfl

theorem max_eq_or (a b : F64) : max a b = a ∨ max a b = b := by
  unfold max
  split
  · exact .inr rfl
  · exact .inl rfl

theorem rank_max (ha : a ≠ .nan) (hb : b ≠ .nan) : (max a b).rank = Max.max a.rank b.rank := by
  unfold max
  by_cases h : lt a b = true
  · rw [if_pos h, max_eq_right ((lt_iff ha hb).mp h).le]
  · rw [if_neg h, max_eq_left ((not_lt_iff ha hb).mp (by simpa using h))]

end F64

/-! ## INTEGER columns -/

/-- The values of an `i64`. -/
def FitsI64 (n : Int) : Prop := -2 ^ 63 ≤ n ∧ n < 2 ^ 63

instance (n : Int) : Decidable (FitsI64 n) := inferInstanceAs (Decidable (_ ∧ _))

/-- `as i64`, and what an `i64` sum or difference comes to in a release build. -/
def wrapI64 (n : Int) : Int := n.bmod (2 ^ 64)

theorem wrapI64_of_fits {n : Int} (h : FitsI64 n) : wrapI64 n = n := by
  unfold FitsI64 at h
  exact Int.bmod_eq_of_le (by omega) (by omega)

def addI64 (sum n : Int) : Except String Int := if FitsI64 (sum + n) then .ok (sum + n) else .error "integer overflow"

/-- `COALESCE(SUM(…), 0)` of an INTEGER column: an error once a partial sum is no `i64`. -/
def sumI64 (xs : List Int) : Except String Int := xs.foldlM addI64 0

variable {xs : List Int}

theorem foldlM_addI64 : ∀ {sum : Int}, FitsI64 sum →
    ((∃ n, xs.foldlM addI64 sum = .ok n) ↔ ∀ ys, ys <+: xs → FitsI64 (sum + ys.sum)) := by
  induction xs with
  | nil =>
    intro sum hsum
    simp [pure, Except.pure, hsum]
  | cons x xs ih =>
    intro sum hsum
    rw [foldlM_cons]
    have hcons : (∀ ys, ys <+: x :: xs → FitsI64 (sum + ys.sum)) ↔
        FitsI64 (sum + x) ∧ ∀ ys, ys <+: xs → FitsI64 (sum + x + ys.sum) := by
      constructor
      · intro h
        have hfirst := h [x] (prefix_cons_iff.mpr (.inr ⟨[], rfl, nil_prefix⟩))
        refine ⟨by simpa using hfirst, fun ys hys => ?_⟩
        have hrest := h (x :: ys) (prefix_cons_iff.mpr (.inr ⟨ys, rfl, hys⟩))
        rwa [sum_cons, ← Int.add_assoc] at hrest
      · rintro ⟨-, h⟩ ys hys
        rcases prefix_cons_iff.mp hys with rfl | ⟨zs, rfl, hzs⟩
        · simpa using hsum
        · rw [sum_cons, ← Int.add_assoc]
          exact h zs hzs
    rw [hcons]
    unfold addI64
    by_cases hfits : FitsI64 (sum + x)
    · rw [if_pos hfits]
      exact (ih hfits).trans ⟨fun h => ⟨hfits, h⟩, fun h => h.2⟩
    · rw [if_neg hfits]
      exact ⟨fun ⟨_, h⟩ => (nomatch h), fun h => absurd h.1 hfits⟩

theorem sumI64_ok_iff : (∃ n, sumI64 xs = .ok n) ↔ ∀ ys, ys <+: xs → FitsI64 ys.sum := by
  unfold sumI64
  have hzero : FitsI64 0 := by decide
  simpa using @foldlM_addI64 xs 0 hzero

end Nq.Sql
