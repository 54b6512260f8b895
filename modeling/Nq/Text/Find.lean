/-
  Nq.Text.Find — the first occurrence of a text in another, and how a text is quoted in a
  message (`{:?}`).

  `cut` splits a text there. A text written between a start and a mark is found again
  exactly when the mark does not occur before its own place (`cut_append`), which a piece
  of the mark at the end of the text can bring about as well (`MarkedOff`).

  `contains` is `str::contains`, decided in one pass (`contains_eq_occurs`).
-/

import Mathlib.Data.List.Infix

namespace Nq.Text

open List

/-- `str::find`: what stands before the first occurrence, and what behind it. -/
def cut (pat : List Char) : List Char → Option (List Char × List Char)
  | [] => if pat = [] then some ([], []) else none
  | c :: s =>
    if pat <+: c :: s then some ([], (c :: s).drop pat.length)
    else (cut pat s).map fun (before, after) => (c :: before, after)

/-- Behind the text, the mark is the first of its kind. -/
def MarkedOff (mark text : List Char) : Prop := ¬mark <:+: text ++ mark.dropLast

instance (mark text : List Char) : Decidable (MarkedOff mark text) := inferInstanceAs (Decidable ¬_)

section

variable {pat : List Char} {a b x y : List Char} {c : Char}

/-- A text without `c` lies on one side of it. -/
theorem infix_append_cons (hc : c ∉ pat) (hne : pat ≠ []) : pat <:+: a ++ c :: b ↔ pat <:+: a ∨ pat <:+: b := by
  constructor
  · intro h
    induction a with
    | nil =>
      rcases infix_cons_iff.mp h with h | h
      · obtain ⟨d, pat, rfl⟩ := exists_cons_of_ne_nil hne
        have := (cons_prefix_cons.mp h).1
        exact absurd (this ▸ mem_cons_self) hc
      · exact .inr h
    | cons d a ih =>
      rcases infix_cons_iff.mp h with h | h
      · have hshort : pat <+: d :: a := by
          rcases prefix_or_prefix_of_prefix h (prefix_append (d :: a) (c :: b)) with hp | hp
          · exact hp
          · obtain ⟨r, hr⟩ := hp
            cases r with
            | nil => exact ⟨[], by rw [append_nil, ← hr, append_nil]⟩
            | cons e r =>
              obtain ⟨q, hq⟩ := h
              have hq : (d :: a) ++ (e :: r ++ q) = (d :: a) ++ (c :: b) := by rw [← append_assoc, hr]; exact hq
              have he : e = c := (List.cons.inj (append_cancel_left hq)).1
              exact absurd (by rw [← hr, he]; simp) hc
        exact .inl hshort.isInfix
      · exact (ih h).imp_left fun h => h.trans (suffix_cons d a).isInfix
  · rintro (h | h)
    · exact h.trans (prefix_append a _).isInfix
    · exact h.trans ((suffix_cons c b).trans (suffix_append a _)).isInfix

/-- What does not hold the first character is skipped. -/
theorem infix_skip (hne : pat ≠ []) (hy : ∀ d ∈ pat.head?, d ∉ y) (b : List Char) : pat <:+: y ++ b ↔ pat <:+: b := by
  induction y with
  | nil => rfl
  | cons e y ih =>
    have hrest := ih fun d hd hmem => hy d hd (mem_cons_of_mem _ hmem)
    rw [cons_append, infix_cons_iff, hrest]
    refine ⟨fun h => h.resolve_left fun hp => ?_, .inr⟩
    obtain ⟨d, rest, rfl⟩ := exists_cons_of_ne_nil hne
    exact hy d rfl ((cons_prefix_cons.mp hp).1 ▸ mem_cons_self)

/-- What does not hold the last one is left off. -/
theorem infix_drop (hne : pat ≠ []) (hx : ∀ d ∈ pat.getLast?, d ∉ x) (a : List Char) :
    pat <:+: a ++ x ↔ pat <:+: a := by
  rw [← reverse_infix, reverse_append, infix_skip (by simpa using hne) (by simpa using hx), reverse_infix]

/-- Behind a text that ends in `c` and what cannot begin the pattern. -/
theorem infix_behind (hc : c ∉ pat) (hne : pat ≠ []) (hx : ¬pat <:+: x) (hy : ∀ d ∈ pat.head?, d ∉ y) (b : List Char) :
    pat <:+: x ++ c :: (y ++ b) ↔ pat <:+: b := by
  rw [infix_append_cons hc hne, infix_skip hne hy]
  exact or_iff_right hx

/-- Before `c`, where nothing can end the pattern, and a text without it. -/
theorem infix_before (hc : c ∉ pat) (hne : pat ≠ []) (hx : ∀ d ∈ pat.getLast?, d ∉ x) (hy : ¬pat <:+: y)
    (a : List Char) :
    pat <:+: a ++ (x ++ c :: y) ↔ pat <:+: a := by
  rw [← append_assoc, infix_append_cons hc hne, infix_drop hne hx]
  exact or_iff_left hy

/-- On either side of a text with `c`, before which nothing can end the pattern, and behind
which nothing can begin it. -/
theorem infix_between (hc : c ∉ pat) (hne : pat ≠ []) (hx : ∀ d ∈ pat.getLast?, d ∉ x) (hy : ∀ d ∈ pat.head?, d ∉ y)
    (a b : List Char) : pat <:+: a ++ (x ++ c :: (y ++ b)) ↔ pat <:+: a ∨ pat <:+: b := by
  rw [← append_assoc, infix_append_cons hc hne, infix_drop hne hx, infix_skip hne hy]

theorem markedOff_append_cons (hc : c ∉ pat) (hne : pat ≠ []) :
    MarkedOff pat (a ++ c :: b) ↔ ¬pat <:+: a ∧ MarkedOff pat b := by
  unfold MarkedOff
  rw [append_assoc, cons_append, infix_append_cons hc hne, not_or]

theorem markedOff_nil (hne : pat ≠ []) : MarkedOff pat [] := by
  intro h
  have hle := h.length_le
  have hpos := length_pos_of_ne_nil hne
  rw [nil_append, length_dropLast] at hle
  omega

/-- Where a mark is found that was written behind a text: at its place, or in the text. -/
theorem cut_append (hne : pat ≠ []) (a b : List Char) :
    ∃ before after, cut pat (a ++ (pat ++ b)) = some (before, after) ∧
    (MarkedOff pat a ∧ before = a ∧ after = b ∨ ¬MarkedOff pat a ∧ ∃ r, a = before ++ pat.head hne :: r) := by
  induction a with
  | nil =>
    obtain ⟨d, rest, rfl⟩ := exists_cons_of_ne_nil hne
    refine ⟨[], b, ?_, .inl ⟨markedOff_nil hne, rfl, rfl⟩⟩
    rw [nil_append, cons_append, cut, if_pos ⟨b, rfl⟩]
    simp
  | cons c a ih =>
    rw [cons_append, cut]
    by_cases hhead : pat <+: c :: (a ++ (pat ++ b))
    · rw [if_pos hhead]
      refine ⟨[], _, rfl, .inr ⟨fun hoff => hoff ?_, ?_⟩⟩
      · -- an occurrence here ends before the mark does
        have hwhole : c :: (a ++ (pat ++ b)) = (c :: a ++ pat.dropLast) ++ (pat.getLast hne :: b) := by
          conv_lhs => rw [← dropLast_concat_getLast hne]
          simp
        rw [hwhole] at hhead
        refine (prefix_of_prefix_length_le hhead (prefix_append _ _) ?_).isInfix
        simp
        omega
      · obtain ⟨d, rest, rfl⟩ := exists_cons_of_ne_nil hne
        have hd : d = c := (cons_prefix_cons.mp hhead).1
        exact ⟨a, by rw [head_cons, hd]; rfl⟩
    · rw [if_neg hhead]
      obtain ⟨before, after, hcut, hcases⟩ := ih
      refine ⟨c :: before, after, by rw [hcut]; rfl, ?_⟩
      have hoff : MarkedOff pat (c :: a) ↔ MarkedOff pat a := by
        refine not_congr ?_
        rw [cons_append, infix_cons_iff]
        refine ⟨fun h => h.resolve_left fun hp => hhead ?_, .inr⟩
        refine hp.trans ?_
        rw [← cons_append, ← cons_append]
        refine (prefix_append_right_inj (c :: a)).mpr ?_
        exact (List.dropLast_prefix pat).trans (prefix_append pat b)
      rw [hoff]
      rcases hcases with ⟨hm, rfl, rfl⟩ | ⟨hm, r, hr⟩
      · exact .inl ⟨hm, rfl, rfl⟩
      · exact .inr ⟨hm, r, by rw [hr]; rfl⟩

end

/-! ## Quoting -/

/-- A character between the quotes; how one outside ASCII is shown is a matter of Unicode
    tables. -/
def escapeDebug (wide : Char → List Char) (c : Char) : List Char :=
  if c = '"' ∨ c = '\\' then ['\\', c]
  else if c = '\n' then ['\\', 'n']
  else if c = '\r' then ['\\', 'r']
  else if c = '\t' then ['\\', 't']
  else if c = '\x00' then ['\\', '0']
  else if 0x20 ≤ c.toNat ∧ c.toNat < 0x7F then [c]
  else if c.toNat < 0x80 then ['\\', 'u', '\x7b'] ++ Nat.toDigits 16 c.toNat ++ ['\x7d']
  else wide c

def debug (wide : Char → List Char) (s : String) : String :=
  String.ofList (['"'] ++ s.toList.flatMap (escapeDebug wide) ++ ['"'])

/-- `str::contains`. -/
def contains (text pat : String) : Bool := decide (pat.toList <:+: text.toList)

/-! ## Searching -/

/-- A literal is the list of its characters: by this a search of one is evaluated without decoding it. -/
theorem toList_lit {s : String} {l : List Char} (h : s = String.ofList l) : s.toList = l := h ▸ String.toList_ofList

/-- The search, from the head of the text: what `contains` decides, as one pass. -/
def occurs (pat : List Char) : List Char → Bool
  | [] => pat.isEmpty
  | c :: text => pat.isPrefixOf (c :: text) || occurs pat text

theorem occurs_iff {pat text : List Char} : occurs pat text = true ↔ pat <:+: text := by
  induction text with
  | nil => simp [occurs]
  | cons c text ih => rw [occurs, Bool.or_eq_true, ih, isPrefixOf_iff_prefix, infix_cons_iff]

theorem contains_eq_occurs (text pat : String) : contains text pat = occurs pat.toList text.toList := by
  rw [Bool.eq_iff_iff, occurs_iff, contains, decide_eq_true_eq]

end Nq.Text
