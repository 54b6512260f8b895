/-
  Nq.Text.Percent — percent-encoding of byte strings (RFC 3986 unreserved set).

  Unreserved bytes stand for themselves, every other byte becomes `%` and two
  upper-case hex digits. The encoding is injective (`encode_inj`) and never produces a
  separator (`not_mem_encode`), so encoded segments joined by one read back uniquely
  (`join_inj`).
-/

import Mathlib.Data.List.Basic

namespace Nq.Text.Percent

open List

/-- `A-Z a-z 0-9 - _ . ~`. -/
def unreserved (b : UInt8) : Bool :=
  (65 ≤ b && b ≤ 90) || (97 ≤ b && b ≤ 122) || (48 ≤ b && b ≤ 57) || b == 45 || b == 95 || b == 46 || b == 126

def hexDigit (n : Nat) : Char := Char.ofNat (if n < 10 then 48 + n else 55 + n)

def encodeByte (b : UInt8) : List Char :=
  if unreserved b then [Char.ofNat b.toNat] else ['%', hexDigit (b.toNat / 16), hexDigit (b.toNat % 16)]

def encodeBytes (bs : List UInt8) : List Char := bs.flatMap encodeByte

def encode (s : String) : List Char := encodeBytes s.toByteArray.data.toList

variable {b : UInt8} {n : Nat} {α : Type} {c : α}

theorem unreserved_lt (h : unreserved b = true) : b.toNat < 128 ∧ b.toNat ≠ 37 ∧ b.toNat ≠ 47 := by
  simp only [unreserved, Bool.or_eq_true, Bool.and_eq_true, decide_eq_true_eq, beq_iff_eq, UInt8.le_iff_toNat_le,
    ← UInt8.toNat_inj] at h
  simp only [UInt8.reduceToNat] at h
  omega

theorem toNat_ofNat (h : n < 128) : (Char.ofNat n).toNat = n := by
  have hv : n.isValidChar := Or.inl (by omega)
  rw [Char.ofNat, dif_pos hv]
  rfl

theorem hexDigit_inj {m : Nat} (hm : m < 16) (hn : n < 16) (h : hexDigit m = hexDigit n) : m = n := by
  have h' := congrArg Char.toNat h
  unfold hexDigit at h'
  rw [toNat_ofNat (by split <;> omega), toNat_ofNat (by split <;> omega)] at h'
  split at h' <;> split at h' <;> omega

theorem hexDigit_ne_slash (hn : n < 16) : hexDigit n ≠ '/' := by
  intro h
  have h' := congrArg Char.toNat h
  unfold hexDigit at h'
  rw [toNat_ofNat (by split <;> omega)] at h'
  have : '/'.toNat = 47 := rfl
  split at h' <;> omega

theorem encodeByte_cancel {a : UInt8} {xs ys : List Char} (h : encodeByte a ++ xs = encodeByte b ++ ys) :
    a = b ∧ xs = ys := by
  have hp : '%'.toNat = 37 := rfl
  unfold encodeByte at h
  by_cases ha : unreserved a = true <;> by_cases hb : unreserved b = true
  · simp only [ha, hb, if_true, cons_append, nil_append, List.cons.injEq] at h
    have := congrArg Char.toNat h.1
    rw [toNat_ofNat (unreserved_lt ha).1, toNat_ofNat (unreserved_lt hb).1] at this
    exact ⟨UInt8.toNat_inj.mp this, h.2⟩
  · simp only [ha, hb, if_true, Bool.false_eq_true, if_false, cons_append, nil_append, List.cons.injEq] at h
    have := congrArg Char.toNat h.1
    rw [toNat_ofNat (unreserved_lt ha).1] at this
    exact absurd (this.trans hp) (unreserved_lt ha).2.1
  · simp only [ha, hb, if_true, Bool.false_eq_true, if_false, cons_append, nil_append, List.cons.injEq] at h
    have := congrArg Char.toNat h.1
    rw [toNat_ofNat (unreserved_lt hb).1] at this
    exact absurd (this.symm.trans hp) (unreserved_lt hb).2.1
  · simp only [ha, hb, Bool.false_eq_true, if_false, cons_append, nil_append, List.cons.injEq, true_and] at h
    have la := UInt8.toNat_lt a
    have lb := UInt8.toNat_lt b
    have h1 := hexDigit_inj (by omega) (by omega) h.1
    have h2 := hexDigit_inj (by omega) (by omega) h.2.1
    exact ⟨UInt8.toNat_inj.mp (by omega), h.2.2⟩

theorem encodeByte_ne_nil (b : UInt8) : encodeByte b ≠ [] := by unfold encodeByte; split <;> simp

theorem encodeBytes_inj : ∀ {as bs : List UInt8}, encodeBytes as = encodeBytes bs → as = bs := by
  intro as
  induction as with
  | nil =>
    intro bs h
    cases bs with
    | nil => rfl
    | cons b bs =>
      simp only [encodeBytes, flatMap_nil, flatMap_cons] at h
      exact absurd (append_eq_nil_iff.mp h.symm).1 (encodeByte_ne_nil b)
  | cons a as ih =>
    intro bs h
    cases bs with
    | nil =>
      simp only [encodeBytes, flatMap_nil, flatMap_cons] at h
      exact absurd (append_eq_nil_iff.mp h).1 (encodeByte_ne_nil a)
    | cons b bs =>
      simp only [encodeBytes, flatMap_cons] at h
      obtain ⟨rfl, h'⟩ := encodeByte_cancel h
      rw [ih h']

theorem encode_inj {s t : String} (h : encode s = encode t) : s = t := by
  have h1 : s.toByteArray.data = t.toByteArray.data := Array.toList_inj.mp (encodeBytes_inj h)
  exact String.toByteArray_inj.mp (ByteArray.ext h1)

theorem not_mem_encode (s : String) : '/' ∉ encode s := by
  unfold encode encodeBytes
  rw [mem_flatMap]
  rintro ⟨b, -, hb⟩
  unfold encodeByte at hb
  have hl := UInt8.toNat_lt b
  split at hb
  · rename_i hu
    rw [mem_singleton] at hb
    have := congrArg Char.toNat hb
    rw [toNat_ofNat (unreserved_lt hu).1] at this
    exact (unreserved_lt hu).2.2 this.symm
  · simp only [mem_cons, not_mem_nil, or_false] at hb
    rcases hb with hb | hb | hb
    · exact absurd hb (by decide)
    · exact hexDigit_ne_slash (by omega) hb.symm
    · exact hexDigit_ne_slash (by omega) hb.symm

/-- Two lists cut at their first separator. -/
theorem cut_inj : ∀ {xs ys us vs : List α}, c ∉ xs → c ∉ ys → xs ++ c :: us = ys ++ c :: vs →
    xs = ys ∧ us = vs := by
  intro xs
  induction xs with
  | nil =>
    intro ys us vs _ hy h
    cases ys with
    | nil => simpa using h
    | cons y ys => simp only [nil_append, cons_append, List.cons.injEq] at h; simp [← h.1] at hy
  | cons x xs ih =>
    intro ys us vs hx hy h
    cases ys with
    | nil => simp only [nil_append, cons_append, List.cons.injEq] at h; simp [h.1] at hx
    | cons y ys =>
      simp only [cons_append, List.cons.injEq] at h
      obtain ⟨rfl, h⟩ := h
      obtain ⟨rfl, h'⟩ := ih (fun hm => hx (mem_cons_of_mem _ hm)) (fun hm => hy (mem_cons_of_mem _ hm)) h
      exact ⟨rfl, h'⟩

/-- Two lists cut at their last separator. -/
theorem cut_last_inj {xs ys us vs : List α} (hu : c ∉ us) (hv : c ∉ vs) (h : xs ++ c :: us = ys ++ c :: vs) :
    xs = ys ∧ us = vs := by
  have hrev := congrArg List.reverse h
  simp only [reverse_append, reverse_cons, append_assoc, singleton_append] at hrev
  obtain ⟨h₁, h₂⟩ := cut_inj (by simpa using hu) (by simpa using hv) hrev
  exact ⟨reverse_injective h₂, reverse_injective h₁⟩

/-- Encoded segments after `scope`, each behind a separator. -/
def join (scope : List Char) (a b c : String) : List Char :=
  scope ++ '/' :: (encode a ++ '/' :: (encode b ++ '/' :: encode c))

theorem join_inj {scope : List Char} {a b c a' b' c' : String} (h : join scope a b c = join scope a' b' c') :
    a = a' ∧ b = b' ∧ c = c' := by
  unfold join at h
  have h := (List.cons.injEq _ _ _ _ ▸ append_cancel_left h).2
  obtain ⟨h1, h⟩ := cut_inj (not_mem_encode a) (not_mem_encode a') h
  obtain ⟨h2, h3⟩ := cut_inj (not_mem_encode b) (not_mem_encode b') h
  exact ⟨encode_inj h1, encode_inj h2, encode_inj h3⟩

end Nq.Text.Percent
