/-
  Nq.Text.Lines — lines, pieces and words of a text, on lists of characters.

  `lines`, `splitn` and `firstToken` are `str::lines`, `str::splitn` on a character and the
  first item of `str::split_whitespace`. A text built of whole lines is cut back into them
  (`lines_append`); a line that begins and ends with other than whitespace is not trimmed
  (`trim_eq_self`).
-/

import Nq.Text.Words

namespace Nq.Text

open List

/-! ## Definitions -/

/-- A line without the carriage return before its end. -/
def stripReturn (l : List Char) : List Char := if l.getLast? = some '\r' then l.dropLast else l

/-- `acc` is the line read so far, backwards. -/
def linesFrom (acc : List Char) : List Char → List (List Char)
  | [] => if acc = [] then [] else [acc.reverse]
  | c :: cs => if c = '\n' then stripReturn acc.reverse :: linesFrom [] cs else linesFrom (c :: acc) cs

def lines (text : List Char) : List (List Char) := linesFrom [] text

/-- At most `n` pieces, cut at the first `sep`s. -/
def splitn : Nat → Char → List Char → List (List Char)
  | 0, _, _ => []
  | 1, _, s => [s]
  | n + 2, sep, s =>
    match s.dropWhile (· ≠ sep) with
    | [] => [s]
    | _ :: rest => s.takeWhile (· ≠ sep) :: splitn (n + 1) sep rest

def firstToken (s : List Char) : Option (List Char) :=
  match s.dropWhile isWhitespace with
  | [] => none
  | c :: cs => some ((c :: cs).takeWhile fun c => !isWhitespace c)

/-! ## Lines -/

variable {l s : List Char} {b : Char} {p : Char → Bool} {n : Nat}

theorem linesFrom_append (hl : '\n' ∉ l) (acc rest : List Char) :
    linesFrom acc (l ++ '\n' :: rest) = stripReturn (acc.reverse ++ l) :: linesFrom [] rest := by
  induction l generalizing acc with
  | nil => simp [linesFrom]
  | cons c l ih =>
    rw [mem_cons, not_or] at hl
    show (if c = '\n' then _ else linesFrom (c :: acc) (l ++ '\n' :: rest)) = _
    rw [if_neg (Ne.symm hl.1), ih hl.2, reverse_cons, append_assoc, singleton_append]

/-- A text that begins with a whole line. -/
theorem lines_append (hl : '\n' ∉ l) (rest : List Char) :
    lines (l ++ '\n' :: rest) = stripReturn l :: lines rest := linesFrom_append hl [] rest

/-- A line without a newline behind it. -/
theorem linesFrom_last (hl : '\n' ∉ l) {acc : List Char} (hne : acc.reverse ++ l ≠ []) :
    linesFrom acc l = [acc.reverse ++ l] := by
  induction l generalizing acc with
  | nil =>
    rw [append_nil] at hne ⊢
    exact if_neg fun h => hne (by rw [h]; rfl)
  | cons c l ih =>
    rw [mem_cons, not_or] at hl
    show (if c = '\n' then _ else linesFrom (c :: acc) l) = _
    rw [if_neg (Ne.symm hl.1), ih hl.2 (by simp), reverse_cons, append_assoc, singleton_append]

/-- Lines with newlines between them, and perhaps one at the end, are the lines of the text. -/
theorem lines_intercalate {ls : List (List Char)} (hls : ∀ l ∈ ls, l ≠ [] ∧ '\n' ∉ l ∧ l.getLast? ≠ some '\r')
    {tail : List Char}
    (htail : tail = [] ∨ ls ≠ [] ∧ tail = ['\n']) : lines (['\n'].intercalate ls ++ tail) = ls := by
  induction ls with
  | nil =>
    obtain rfl : tail = [] := htail.resolve_right fun h => h.1 rfl
    rfl
  | cons l ls ih =>
    obtain ⟨hne, hline, hreturn⟩ := hls l mem_cons_self
    have hstrip : stripReturn l = l := if_neg hreturn
    cases ls with
    | nil =>
      rw [intercalate_singleton]
      rcases htail with rfl | ⟨-, rfl⟩
      · rw [append_nil]
        exact linesFrom_last hline hne
      · rw [lines_append hline, hstrip]
        rfl
    | cons l' ls =>
      rw [intercalate_cons_cons, append_assoc, append_assoc, singleton_append, lines_append hline, hstrip]
      rw [ih (fun x hx => hls x (mem_cons_of_mem _ hx)) (htail.imp_right fun h => ⟨cons_ne_nil _ _, h.2⟩)]

/-! ## Pieces -/

theorem takeWhile_append_cons {a : List Char} (ha : ∀ c ∈ a, p c = true) (hb : p b = false) (rest : List Char) :
    (a ++ b :: rest).takeWhile p = a := by
  rw [takeWhile_append_of_pos ha, takeWhile_cons_of_neg (by simp [hb]), append_nil]

theorem dropWhile_append_cons {a : List Char} (ha : ∀ c ∈ a, p c = true) (hb : p b = false) (rest : List Char) :
    (a ++ b :: rest).dropWhile p = b :: rest := by
  rw [dropWhile_append_of_pos ha, dropWhile_cons_of_neg (by simp [hb])]

section

variable {sep : Char} {a : List Char}

theorem all_ne (ha : sep ∉ a) : ∀ c ∈ a, decide (c ≠ sep) = true :=
  fun _ hc => decide_eq_true (ne_of_mem_of_not_mem hc ha)

/-- What stands before the first `sep`. -/
theorem takeWhile_ne (ha : sep ∉ a) (rest : List Char) : (a ++ sep :: rest).takeWhile (· ≠ sep) = a :=
  takeWhile_append_cons (all_ne ha) (by simp) rest

/-- The first `sep`, and what is behind it. -/
theorem dropWhile_ne (ha : sep ∉ a) (rest : List Char) : (a ++ sep :: rest).dropWhile (· ≠ sep) = sep :: rest :=
  dropWhile_append_cons (all_ne ha) (by simp) rest

theorem dropWhile_nil (ha : sep ∉ a) : a.dropWhile (· ≠ sep) = [] := dropWhile_eq_nil_iff.mpr (all_ne ha)

end

theorem splitn_append {sep : Char} {a : List Char} (ha : sep ∉ a) (rest : List Char) :
    splitn (n + 2) sep (a ++ sep :: rest) = a :: splitn (n + 1) sep rest := by
  show (match (a ++ sep :: rest).dropWhile (· ≠ sep) with
    | [] => [a ++ sep :: rest]
    | _ :: rest' => (a ++ sep :: rest).takeWhile (· ≠ sep) :: splitn (n + 1) sep rest') = _
  rw [dropWhile_ne ha, takeWhile_ne ha]

theorem splitn_whole {sep : Char} (h : sep ∉ s) : splitn (n + 2) sep s = [s] := by
  rw [splitn, dropWhile_nil h]

/-- A text is one piece, or its first piece ends at the first `sep`. -/
theorem splitn_cases (n : Nat) (sep : Char) (s : List Char) :
    (sep ∉ s ∧ splitn (n + 2) sep s = [s]) ∨
      ∃ a rest, s = a ++ sep :: rest ∧ sep ∉ a ∧ splitn (n + 2) sep s = a :: splitn (n + 1) sep rest := by
  by_cases h : sep ∈ s
  · obtain ⟨a, rest, rfl, ha⟩ := eq_append_cons_of_mem h
    exact .inr ⟨a, rest, rfl, ha, splitn_append ha rest⟩
  · exact .inl ⟨h, splitn_whole h⟩

/-! ## Whitespace -/

theorem trim_eq_self (hhead : ∀ c ∈ s.head?, isWhitespace c = false)
    (hlast : ∀ c ∈ s.getLast?, isWhitespace c = false) :
    trim s = s := by
  cases s with
  | nil => rfl
  | cons c s =>
    unfold trim
    rw [dropWhile_cons_of_neg (by simp [hhead c rfl])]
    rw [rdropWhile_eq_self_iff]
    intro hne
    simp [hlast _ (getLast?_eq_getLast_of_ne_nil hne)]

/-- Dropping at the end stops at the latest after a character that is kept. -/
theorem rdropWhile_append {a : List Char} (hlast : ∀ c ∈ a.getLast?, p c = false) (r : List Char) :
    ∃ r', (a ++ r).rdropWhile p = a ++ r' := by
  induction r using List.reverseRecOn with
  | nil =>
    refine ⟨[], ?_⟩
    rw [append_nil, rdropWhile_eq_self_iff]
    intro hne
    simp [hlast _ (getLast?_eq_getLast_of_ne_nil hne)]
  | append_singleton r x ih =>
    rw [← append_assoc, rdropWhile_concat]
    split
    · exact ih
    · exact ⟨r ++ [x], by rw [append_assoc]⟩

/-- Trimming a line leaves a beginning that is bounded by other than whitespace. -/
theorem trim_stripReturn_append {a : List Char} (hne : a ≠ []) (hhead : ∀ c ∈ a.head?, isWhitespace c = false)
    (hlast : ∀ c ∈ a.getLast?, isWhitespace c = false)
    (r : List Char) : ∃ r', trim (stripReturn (a ++ r)) = a ++ r' := by
  have hstrip : ∃ r₁, stripReturn (a ++ r) = a ++ r₁ := by
    unfold stripReturn
    split
    · rename_i hr
      rcases eq_nil_or_concat r with rfl | ⟨r, c, rfl⟩
      · rw [append_nil] at hr
        exact absurd (hlast _ hr) (by decide)
      · exact ⟨r, by rw [concat_eq_append, ← append_assoc, dropLast_concat]⟩
    · exact ⟨r, rfl⟩
  obtain ⟨r₁, hr₁⟩ := hstrip
  have hdrop : (a ++ r₁).dropWhile isWhitespace = a ++ r₁ := by
    obtain ⟨c, cs, rfl⟩ := exists_cons_of_ne_nil hne
    exact dropWhile_cons_of_neg (by simp [hhead c rfl])
  rw [hr₁, trim, hdrop]
  exact rdropWhile_append hlast r₁

/-- A word, alone or followed by a space. -/
theorem firstToken_append {w : List Char} (hne : w ≠ []) (hw : ∀ c ∈ w, isWhitespace c = false) (rest : List Char)
    (hrest : rest = [] ∨ ∃ r, rest = ' ' :: r) : firstToken (w ++ rest) = some w := by
  have hspace : isWhitespace ' ' = true := by decide
  cases w with
  | nil => exact absurd rfl hne
  | cons c w =>
    unfold firstToken
    rw [cons_append, dropWhile_cons_of_neg (by simp [hw c mem_cons_self])]
    show some (((c :: w) ++ rest).takeWhile _) = _
    have hall : ∀ d ∈ c :: w, (!isWhitespace d) = true := fun d hd => by simp [hw d hd]
    rcases hrest with rfl | ⟨r, rfl⟩
    · rw [append_nil, takeWhile_eq_self_iff.mpr hall]
    · rw [takeWhile_append_cons hall (by simp [hspace])]

end Nq.Text
