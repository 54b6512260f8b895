/-
  Nq.Text.Words — trimming a text and finding words in it, on lists of characters.

  `matchIndices` yields the occurrences of a pattern from the left, none overlapping the
  one before it. An occurrence that stands alone (`StandsAlone`: no word character
  before or after it) is never skipped when the pattern is made of word characters
  (`mem_matchIndices`), so looking for one among the matches finds it
  (`hasWord_iff`).
-/

import Mathlib.Data.List.DropRight

namespace Nq.Text

open List

/-- Unicode White_Space. -/
def isWhitespace (c : Char) : Bool :=
  let n := c.toNat
  (9 ≤ n && n ≤ 13) || n == 0x20 || n == 0x85 || n == 0xA0 || n == 0x1680 || (0x2000 ≤ n && n ≤ 0x200A) ||
    n == 0x2028 || n == 0x2029 || n == 0x202F || n == 0x205F || n == 0x3000

def trim (s : List Char) : List Char := (s.dropWhile isWhitespace).rdropWhile isWhitespace

/-- An ASCII letter or digit, or the underscore. -/
def isWordChar (c : Char) : Bool := c.isAlphanum || c == '_'

def matchIndices (pat : List Char) : Nat → Nat → List Char → List Nat
  | _, _, [] => []
  | skip + 1, i, _ :: cs => matchIndices pat skip (i + 1) cs
  | 0, i, c :: cs =>
    if pat.isPrefixOf (c :: cs) then i :: matchIndices pat (pat.length - 1) (i + 1) cs
    else matchIndices pat 0 (i + 1) cs

/-- No word character touches the place between `pre` and `post`. -/
def StandsAlone (pre post : List Char) : Prop :=
  (∀ c, pre.getLast? = some c → isWordChar c = false) ∧ ∀ c, post.head? = some c → isWordChar c = false

/-- The text holds the pattern as a word of its own. -/
def HasWord (pat text : List Char) : Prop := ∃ pre post, text = pre ++ pat ++ post ∧ StandsAlone pre post

/-! ## Trimming -/

variable {c : Char} {s : List Char}

theorem mem_dropWhile_iff {p : Char → Bool} (hc : p c = false) : c ∈ s.dropWhile p ↔ c ∈ s := by
  constructor
  · exact fun h => (dropWhile_sublist p).subset h
  · intro h
    rw [← takeWhile_append_dropWhile (p := p) (l := s)] at h
    rcases mem_append.mp h with h | h
    · rw [mem_takeWhile_imp h] at hc
      cases hc
    · exact h

theorem mem_trim_iff (hc : isWhitespace c = false) : c ∈ trim s ↔ c ∈ s := by
  unfold trim List.rdropWhile
  rw [mem_reverse, mem_dropWhile_iff hc, mem_reverse, mem_dropWhile_iff hc]

/-- What is left after dropping a run of `c` at the end holds `c` exactly when the text
    is not a `c`-free text and a run of `c`. -/
theorem not_mem_rdropWhile_iff : c ∉ s.rdropWhile (· == c) ↔ ∃ body n, s = body ++ List.replicate n c ∧ c ∉ body := by
  unfold List.rdropWhile
  constructor
  · intro h
    refine ⟨_, (s.reverse.takeWhile (· == c)).length, ?_, h⟩
    have hrun : s.reverse.takeWhile (· == c) = List.replicate (s.reverse.takeWhile (· == c)).length c := by
      refine eq_replicate_iff.mpr ⟨rfl, fun b hb => ?_⟩
      simpa using mem_takeWhile_imp hb
    have hsplit := congrArg List.reverse (takeWhile_append_dropWhile (p := (· == c)) (l := s.reverse))
    rw [reverse_reverse, reverse_append, hrun, reverse_replicate] at hsplit
    exact hsplit.symm
  · rintro ⟨body, n, rfl, hbody⟩
    rw [reverse_append, reverse_replicate, mem_reverse]
    have hdrop : (List.replicate n c ++ body.reverse).dropWhile (· == c) = body.reverse.dropWhile (· == c) := by
      induction n with
      | zero => rfl
      | succ n ih => simp [replicate_succ, ih]
    rw [hdrop]
    exact fun h => hbody (mem_reverse.mp ((dropWhile_sublist _).subset h))

/-! ## Words -/

variable {pat : List Char}

theorem of_mem_matchIndices {k : Nat} : ∀ {text : List Char} {skip i : Nat}, k ∈ matchIndices pat skip i text →
    ∃ pre post, text = pre ++ pat ++ post ∧ k = i + pre.length := by
  intro text
  induction text with
  | nil => intro skip i h; cases skip <;> cases h
  | cons c cs ih =>
    have hrest : ∀ {skip i : Nat}, k ∈ matchIndices pat skip (i + 1) cs →
        ∃ pre post, c :: cs = pre ++ pat ++ post ∧ k = i + pre.length := by
      intro skip i h
      obtain ⟨pre, post, rfl, rfl⟩ := ih h
      exact ⟨c :: pre, post, rfl, by simp; omega⟩
    intro skip i h
    cases skip with
    | succ skip => exact hrest h
    | zero =>
      unfold matchIndices at h
      split at h
      · rename_i hp
        rcases mem_cons.mp h with rfl | h
        · obtain ⟨post, hpost⟩ := isPrefixOf_iff_prefix.mp hp
          exact ⟨[], post, hpost.symm, rfl⟩
        · exact hrest h
      · exact hrest h

/-- An occurrence with no word character before it is among the matches: the text a
    match skips is made of word characters. -/
theorem mem_matchIndices (hne : pat ≠ []) (hw : ∀ c ∈ pat, isWordChar c = true) {post : List Char} :
    ∀ {pre : List Char} {skip i : Nat}, (∀ c, pre.getLast? = some c → isWordChar c = false) →
      (∀ c ∈ (pre ++ pat ++ post).take skip, isWordChar c = true) → (pre = [] → skip = 0) →
        i + pre.length ∈ matchIndices pat skip i (pre ++ pat ++ post) := by
  intro pre
  induction pre with
  | nil =>
    intro skip i _ _ hskip
    rw [hskip rfl]
    obtain ⟨p, ps, rfl⟩ := exists_cons_of_ne_nil hne
    have hp : (p :: ps).isPrefixOf (p :: (ps ++ post)) = true :=
      isPrefixOf_iff_prefix.mpr ⟨post, rfl⟩
    simp [matchIndices, hp]
  | cons c cs ih =>
    intro skip i hlast htake _
    have hlast' : ∀ c', cs.getLast? = some c' → isWordChar c' = false := by
      intro c' hc'
      refine hlast c' ?_
      rw [getLast?_cons, hc']
      rfl
    -- the character before the rest cannot be one of a match
    have hhead : isWordChar c = true → cs ≠ [] := by
      intro hc e
      have := hlast c (by simp [e])
      rw [hc] at this
      cases this
    have hgo : ∀ skip', (∀ c' ∈ (cs ++ pat ++ post).take skip', isWordChar c' = true) → (cs = [] → skip' = 0) →
        i + (c :: cs).length ∈ matchIndices pat skip' (i + 1) (cs ++ pat ++ post) := by
      intro skip' htake' hskip'
      have := ih (i := i + 1) hlast' htake' hskip'
      rw [length_cons]
      rwa [show i + (cs.length + 1) = i + 1 + cs.length by omega]
    cases skip with
    | succ skip =>
      have hc : isWordChar c = true := htake c (by simp)
      refine hgo skip (fun c' hc' => htake c' ?_) fun e => absurd e (hhead hc)
      simpa using Or.inr hc'
    | zero =>
      show _ ∈ matchIndices pat 0 i (c :: (cs ++ pat ++ post))
      unfold matchIndices
      split
      · rename_i hp
        obtain ⟨tail, htail⟩ := isPrefixOf_iff_prefix.mp hp
        obtain ⟨p, ps, rfl⟩ := exists_cons_of_ne_nil hne
        simp only [cons_append, List.cons.injEq] at htail
        have hc : isWordChar c = true := htail.1 ▸ hw p mem_cons_self
        refine mem_cons_of_mem _ (hgo _ (fun c' hc' => ?_) fun e => absurd e (hhead hc))
        rw [← htail.2, length_cons, Nat.add_sub_cancel, take_left] at hc'
        exact hw c' (mem_cons_of_mem _ hc')
      · exact hgo 0 (by simp) fun _ => rfl

/-- A match with no word character on either side, as the matches are looked through. -/
theorem hasWord_iff (hne : pat ≠ []) (hw : ∀ c ∈ pat, isWordChar c = true) {text : List Char} :
    HasWord pat text ↔ ∃ i ∈ matchIndices pat 0 0 text,
      (i = 0 ∨ ∀ c, text[i - 1]? = some c → isWordChar c = false) ∧
        ∀ c, text[i + pat.length]? = some c → isWordChar c = false := by
  have hat : ∀ (pre post : List Char), (pre ++ pat ++ post)[pre.length + pat.length]? = post.head? := by
    intro pre post
    rw [← length_append, getElem?_append_right (Nat.le_refl _), Nat.sub_self, head?_eq_getElem?]
  have hbefore : ∀ (pre post : List Char), pre ≠ [] → (pre ++ pat ++ post)[pre.length - 1]? = pre.getLast? := by
    intro pre post hpre
    have := length_pos_iff.mpr hpre
    rw [append_assoc, getElem?_append_left (by omega), getLast?_eq_getElem?]
  constructor
  · rintro ⟨pre, post, rfl, hpre, hpost⟩
    refine ⟨pre.length, by simpa using mem_matchIndices (i := 0) hne hw hpre (by simp) fun _ => rfl, ?_, ?_⟩
    · by_cases e : pre = []
      · exact .inl (by simp [e])
      · exact .inr fun c hc => hpre c (by rwa [hbefore pre post e] at hc)
    · intro c hc
      exact hpost c (by rwa [hat pre post] at hc)
  · rintro ⟨i, hi, hpre, hpost⟩
    obtain ⟨pre, post, rfl, rfl⟩ := of_mem_matchIndices hi
    rw [Nat.zero_add] at hpre hpost
    refine ⟨pre, post, rfl, fun c hc => ?_, fun c hc => hpost c (by rwa [hat pre post])⟩
    rcases hpre with e | hpre
    · rw [length_eq_zero_iff.mp e] at hc
      cases hc
    · refine hpre c ?_
      rw [hbefore pre post fun e => by simp [e] at hc]
      exact hc

end Nq.Text
