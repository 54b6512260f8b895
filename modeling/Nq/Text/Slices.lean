/-
  Nq.Text.Slices — slices of a text by byte positions, as a `str` takes them.

  A slice is there when its positions are in order and stand between characters. A text
  written in parts is sliced into them (`slice_append`), so a slice between the places of
  two characters is what stands between them.
-/

import Mathlib.Algebra.GroupWithZero.Nat
import Mathlib.Data.List.Infix

namespace Nq.Text

open List

/-- The bytes of a text in UTF-8. -/
def byteLen (s : List Char) : Nat := (s.map Char.utf8Size).sum

/-- The text cut at a byte position, if it stands between characters. -/
def splitBytes : List Char → Nat → Option (List Char × List Char)
  | s, 0 => some ([], s)
  | [], _ + 1 => none
  | c :: s, n + 1 =>
    if c.utf8Size ≤ n + 1 then (splitBytes s (n + 1 - c.utf8Size)).map fun (a, b) => (c :: a, b) else none

/-- `&s[start..stop]`: nothing where the positions are out of order or inside a character. -/
def slice (s : List Char) (start stop : Nat) : Option (List Char) := do
  if stop < start then none
  else
    let (whole, _) ← splitBytes s stop
    let (_, inner) ← splitBytes whole start
    some inner

/-- `str::find` of a character: the byte position of its first occurrence. -/
def findByte (c : Char) : List Char → Option Nat
  | [] => none
  | d :: s => if d = c then some 0 else (findByte c s).map (d.utf8Size + ·)

theorem byteLen_cons (c : Char) (s : List Char) : byteLen (c :: s) = c.utf8Size + byteLen s := by
  unfold byteLen
  rw [map_cons, sum_cons]

variable {c : Char} {k : Nat} {s : List Char} (a b : List Char)

theorem byteLen_append : byteLen (a ++ b) = byteLen a + byteLen b := by
  unfold byteLen
  rw [map_append, sum_append]

theorem splitBytes_append : splitBytes (a ++ b) (byteLen a) = some (a, b) := by
  induction a with
  | nil =>
    cases b <;> rfl
  | cons c a ih =>
    have hpos := Char.utf8Size_pos c
    obtain ⟨n, hn⟩ : ∃ n, c.utf8Size + byteLen a = n + 1 := ⟨c.utf8Size + byteLen a - 1, by omega⟩
    rw [byteLen_cons, cons_append, hn, splitBytes, if_pos (by omega), show n + 1 - c.utf8Size = byteLen a by omega, ih]
    rfl

/-- There is no cut inside a character. -/
theorem splitBytes_inside (hpos : 0 < k) (hlt : k < c.utf8Size) (a b : List Char) :
    splitBytes (a ++ c :: b) (byteLen a + k) = none := by
  induction a with
  | nil =>
    obtain ⟨n, rfl⟩ : ∃ n, k = n + 1 := ⟨k - 1, by omega⟩
    rw [show byteLen [] + (n + 1) = n + 1 from Nat.zero_add _, nil_append, splitBytes, if_neg (by omega)]
  | cons d a ih =>
    have hd := Char.utf8Size_pos d
    obtain ⟨n, hn⟩ : ∃ n, byteLen (d :: a) + k = n + 1 := ⟨byteLen (d :: a) + k - 1, by omega⟩
    rw [byteLen_cons] at hn
    rw [byteLen_cons, cons_append, hn, splitBytes, if_pos (by omega),
      show n + 1 - d.utf8Size = byteLen a + k by omega, ih]
    rfl

/-- A text is sliced into its parts. -/
theorem slice_append (c : List Char) : slice (a ++ (b ++ c)) (byteLen a) (byteLen a + byteLen b) = some b := by
  unfold slice
  rw [if_neg (by omega), ← byteLen_append, ← append_assoc, splitBytes_append]
  simp only [Option.bind_eq_bind, Option.bind_some, splitBytes_append]

theorem slice_before : slice (a ++ b) 0 (byteLen a) = some a := by
  have h := slice_append [] a b
  rw [nil_append, show byteLen [] = 0 from rfl, Nat.zero_add] at h
  exact h

theorem slice_behind : slice (a ++ b) (byteLen a) (byteLen (a ++ b)) = some b := by
  have h := slice_append a b []
  rw [append_nil, ← byteLen_append] at h
  exact h

theorem byteLen_snoc (hc : c.utf8Size = 1) (a : List Char) : byteLen (a ++ [c]) = byteLen a + 1 := by
  rw [byteLen_append, byteLen_cons, hc]
  rfl

/-- What stands behind a character of one byte. -/
theorem slice_after (hc : c.utf8Size = 1) (a b : List Char) :
    slice (a ++ c :: b) (byteLen a + 1) (byteLen (a ++ c :: b)) = some b := by
  rw [← byteLen_snoc hc, append_cons]
  exact slice_behind _ b

/-- What stands between two characters, the first of one byte. -/
theorem slice_between (hc : c.utf8Size = 1) (a b e : List Char) :
    slice (a ++ c :: (b ++ e)) (byteLen a + 1) (byteLen (a ++ c :: b)) = some b := by
  have h := slice_append (a ++ [c]) b e
  rw [byteLen_snoc hc, append_assoc, singleton_append] at h
  rw [byteLen_append, byteLen_cons, hc, ← Nat.add_assoc]
  exact h

theorem slice_inside (hpos : 0 < k) (hlt : k < c.utf8Size) (a b : List Char) :
    slice (a ++ c :: b) 0 (byteLen a + k) = none := by
  unfold slice
  rw [if_neg (by omega), splitBytes_inside hpos hlt]
  rfl

theorem slice_disordered {start stop : Nat} (h : stop < start) : slice s start stop = none := by
  unfold slice
  exact if_pos h

theorem findByte_append {a : List Char} (ha : c ∉ a) (b : List Char) : findByte c (a ++ c :: b) = some (byteLen a) := by
  induction a with
  | nil => simp [findByte, byteLen]
  | cons d a ih =>
    rw [mem_cons, not_or] at ha
    rw [cons_append, findByte, if_neg (Ne.symm ha.1), ih ha.2, byteLen_cons]
    rfl

theorem findByte_eq_none : findByte c s = none ↔ c ∉ s := by
  induction s with
  | nil => simp [findByte]
  | cons d s ih =>
    rw [findByte, mem_cons, not_or]
    by_cases hd : d = c
    · simp [hd]
    · rw [if_neg hd, Option.map_eq_none_iff, ih]
      simp [Ne.symm hd]

end Nq.Text
