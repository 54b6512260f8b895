/-
  Nq.Text.Tokens — the words of a line, and the marks between them.

  Pieces that are written with spaces between are read piece by piece
  (`splitWhitespace_spaced`), and a mark that ends or starts in a character the text before
  it does not have is found at its own place.
-/

import Nq.Text.Find
import Nq.Text.Words

namespace Nq.Text

open List

/-- `str::split_whitespace`. -/
def splitWhitespace (s : List Char) : List (List Char) := (s.splitOnP isWhitespace).filter (· ≠ [])

/-- `str::split_once` of a character: what stands before its first occurrence, and what behind it. -/
def splitOnce (sep : Char) : List Char → Option (List Char × List Char)
  | [] => none
  | c :: s => if c = sep then some ([], s) else (splitOnce sep s).map fun (before, after) => (c :: before, after)

/-- A word, of characters that are not white space. -/
def IsWord (w : List Char) : Prop := w ≠ [] ∧ ∀ c ∈ w, isWhitespace c = false

instance (w : List Char) : Decidable (IsWord w) :=
  decidable_of_iff (w ≠ [] ∧ w.all (fun c => isWhitespace c = false) = true) (by simp [IsWord])

/-- Pieces, each behind a space. -/
def spaced (pieces : List (List Char)) : List Char := pieces.flatMap (' ' :: ·)

/-! ## Words -/

theorem splitWhitespace_append_cons {c : Char} (hc : isWhitespace c = true) (a b : List Char) :
    splitWhitespace (a ++ c :: b) = splitWhitespace a ++ splitWhitespace b := by
  unfold splitWhitespace
  rw [splitOnP_append_cons a b hc, filter_append]

variable {w : List Char} (a : List Char)

theorem splitWhitespace_word (hw : IsWord w) : splitWhitespace w = [w] := by
  unfold splitWhitespace
  rw [splitOnP_eq_singleton hw.2, filter_cons_of_pos (by simp [hw.1]), filter_nil]

theorem isWhitespace_space : isWhitespace ' ' = true := by decide

theorem splitWhitespace_space (b : List Char) :
    splitWhitespace (a ++ ' ' :: b) = splitWhitespace a ++ splitWhitespace b :=
  splitWhitespace_append_cons isWhitespace_space a b

/-- What is written with spaces between is read piece by piece. -/
theorem splitWhitespace_spaced (pieces : List (List Char)) :
    splitWhitespace (a ++ spaced pieces) = splitWhitespace a ++ pieces.flatMap splitWhitespace := by
  induction pieces generalizing a with
  | nil => simp [spaced]
  | cons piece pieces ih =>
    have hcons : a ++ spaced (piece :: pieces) = a ++ ' ' :: (piece ++ spaced pieces) := rfl
    rw [hcons, splitWhitespace_space, ih, flatMap_cons]

theorem ne_nil_of_mem_splitWhitespace {s : List Char} (hw : w ∈ splitWhitespace s) : w ≠ [] := by
  have hne := (mem_filter.mp hw).2
  simpa using hne

/-! ## Separators -/

theorem splitOnce_append {sep : Char} {a : List Char} (ha : sep ∉ a)
    (b : List Char) : splitOnce sep (a ++ sep :: b) = some (a, b) := by
  induction a with
  | nil => simp [splitOnce]
  | cons c a ih =>
    obtain ⟨hc, ha⟩ := not_or.mp (mt mem_cons.mpr ha)
    rw [cons_append, splitOnce, if_neg (Ne.symm hc), ih ha]
    rfl

/-! ## Marks -/

section

variable {pat : List Char} {a s : List Char}

/-- The text has no last character of the mark. -/
theorem markedOff_of_getLast (hne : pat ≠ []) (ha : pat.getLast hne ∉ a) (hpat : pat.getLast hne ∉ pat.dropLast) :
    MarkedOff pat a := by
  intro h
  have hmem := h.subset (getLast_mem hne)
  rcases mem_append.mp hmem with hmem | hmem
  · exact ha hmem
  · exact hpat hmem

/-- The text has no first character of the mark. -/
theorem markedOff_of_head {d : Char} {rest : List Char} (ha : d ∉ a) : MarkedOff (d :: rest) a := by
  intro h
  rw [infix_skip (cons_ne_nil _ _) (by simpa using ha)] at h
  have hle := h.length_le
  rw [length_dropLast] at hle
  simp only [length_cons] at hle
  omega

theorem cut_eq (hne : pat ≠ []) (ha : MarkedOff pat a) (b : List Char) : cut pat (a ++ (pat ++ b)) = some (a, b) := by
  obtain ⟨before, after, hcut, ⟨-, rfl, rfl⟩ | ⟨hoff, -⟩⟩ := cut_append hne a b
  · exact hcut
  · exact absurd ha hoff

theorem cut_eq_none (hne : pat ≠ []) : cut pat s = none ↔ ¬pat <:+: s := by
  induction s with
  | nil =>
    rw [cut, if_neg hne]
    exact ⟨fun _ h => hne (infix_nil.mp h), fun _ => rfl⟩
  | cons c s ih =>
    rw [cut, infix_cons_iff]
    by_cases hhead : pat <+: c :: s
    · rw [if_pos hhead]
      exact ⟨fun e => (by cases e), fun h => absurd (.inl hhead) h⟩
    · rw [if_neg hhead, Option.map_eq_none_iff, ih]
      simp [hhead]

/-- What is behind a mark is shorter by it. -/
theorem length_of_cut {before after : List Char} (h : cut pat s = some (before, after)) :
    after.length + pat.length ≤ s.length := by
  induction s generalizing before after with
  | nil =>
    rw [cut] at h
    by_cases hpat : pat = []
    · rw [if_pos hpat] at h
      cases h
      simp [hpat]
    · rw [if_neg hpat] at h
      cases h
  | cons c s ih =>
    rw [cut] at h
    by_cases hhead : pat <+: c :: s
    · rw [if_pos hhead] at h
      cases h
      have hle := hhead.length_le
      rw [length_drop]
      omega
    · rw [if_neg hhead] at h
      obtain ⟨⟨before', after'⟩, hcut, heq⟩ := Option.map_eq_some_iff.mp h
      cases heq
      have := ih hcut
      rw [length_cons]
      omega

end

end Nq.Text
