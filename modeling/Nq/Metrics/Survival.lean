/-
  Nq.Metrics.Survival — which bodies the exposition parser survives
  (`nq-monitor-agent/src/collect/prometheus.rs`, `parse_exposition`).

  Read by byte positions, every slice but one is between characters and in order, and every
  turn of the label loop takes at least its '=': a body is read as it is by its characters
  (`labelLoop_eq`, `parseExposition_eq`). The slice of the labels is out of order where the
  first '}' of a line is before its first '{'.

  - `survives_iff`, by a run over the lines (`parseLines_ok`, `inOrder_of_parseLines`).

  - `a_closing_brace_first_panics`.
-/

import Nq.Metrics.RoundTrip
import Nq.Text.Slices

namespace Nq.Metrics.Bytes

open List
open Sql (F64)
open Text (byteLen findByte slice)

/-! ## By byte positions -/

/-- A slice that is not there, or a loop that does not end. -/
inductive Fault where
  | slice | stuck
  deriving DecidableEq, Repr

def sliceOr {α : Type} (o : Option α) : Except Fault α := o.elim (.error .slice) .ok

/-- The loop over `remaining`; without fuel it did not end. -/
def labelLoop : Nat → List Char → Labels → Except Fault Labels
  | 0, _, _ => .error .stuck
  | fuel + 1, remaining, labels =>
    let remaining := remaining.dropWhile fun c => c = ',' ∨ c = ' '
    if remaining = [] then .ok labels
    else
      match findByte '=' remaining with
      | none => .ok labels
      | some eq => do
        let key ← sliceOr (slice remaining 0 eq)
        let rest ← sliceOr (slice remaining (eq + 1) (byteLen remaining))
        if rest.head? = some '"' then
          let quoted ← sliceOr (slice rest 1 (byteLen rest))
          let (value, rest) := quotedValue quoted
          labelLoop fuel rest (labels.insert (String.ofList (Text.trim key)) (String.ofList value))
        else labelLoop fuel rest labels

def parseLabels (labelsStr : List Char) : Except Fault Labels := labelLoop (labelsStr.length + 1) labelsStr ∅

section

variable (parseF64 : List Char → Option F64)

def parseSampleLine (d : Declared) (line : List Char) : Except Fault (Option MetricSample) :=
  match findByte '{' line with
  | some braceStart =>
    match findByte '}' line with
    | none => .ok none
    | some braceEnd => do
      let name ← sliceOr (slice line 0 braceStart)
      let labelsStr ← sliceOr (slice line (braceStart + 1) braceEnd)
      let rest ← sliceOr (slice line (braceEnd + 1) (byteLen line))
      let labels ← parseLabels labelsStr
      return finishSample parseF64 d name labels (Text.trim rest)
  | none =>
    match Text.splitn 2 ' ' line with
    | [name, rest] => .ok (finishSample parseF64 d name ∅ (Text.trim rest))
    | _ => .ok none

def parseLines (d : Declared) : List (List Char) → Except Fault (List MetricSample)
  | [] => .ok []
  | line :: rest =>
    let line := Text.trim line
    if line = [] then parseLines d rest
    else if "# HELP".toList.isPrefixOf line then parseLines d rest
    else if "# TYPE".toList.isPrefixOf line then
      match Text.splitn 4 ' ' line with
      | [_, _, name, kind] => parseLines ⟨some (String.ofList name), some (String.ofList kind)⟩ rest
      | _ => parseLines d rest
    else if ['#'].isPrefixOf line then parseLines d rest
    else do
      let sample ← parseSampleLine parseF64 d line
      let samples ← parseLines d rest
      return sample.toList ++ samples

def parseExposition (text : List Char) : Except Fault (List MetricSample) := parseLines parseF64 {} (Text.lines text)

/-! ## Survival -/

/-- The first '}' of the line is before its first '{'. -/
def Reversed (line : List Char) : Prop := ∃ a b c, line = a ++ '}' :: (b ++ '{' :: c) ∧ '}' ∉ a ∧ '{' ∉ a ∧ '{' ∉ b

/-- The line is taken for a sample. -/
def IsSample (line : List Char) : Prop := Text.trim line ≠ [] ∧ ¬['#'] <+: Text.trim line

/-- A comment that declares the type of a metric. -/
def Declares (line : List Char) : Prop :=
  ¬"# HELP".toList <+: Text.trim line ∧ "# TYPE".toList <+: Text.trim line ∧
    (Text.splitn 4 ' ' (Text.trim line)).length = 4

/-- The line cannot be read as a sample, and declares nothing. -/
def Unreadable (line : List Char) : Prop :=
  IsSample line ∧ parseSampleLine parseF64 {} (Text.trim line) = .ok none ∨ ¬IsSample line ∧ ¬Declares line

/-- The parser comes to an end without a fault, and a line it cannot read might as well not be there. -/
structure Survives (text : List Char) : Prop where
  returns : ∃ samples, parseExposition parseF64 text = .ok samples
  skips : ∀ before line after, Text.lines text = before ++ line :: after → Unreadable parseF64 line →
    parseLines parseF64 {} (before ++ after) = parseExposition parseF64 text

end

/-! ## The label loop -/

variable {α β : Type} (quoted : List Char)

theorem length_quotedValue : (quotedValue quoted).2.length ≤ quoted.length := by
  induction quoted using quotedValue.induct with
  | case1 => exact Nat.le_refl _
  | case2 cs =>
    rw [quotedValue]
    exact Nat.le_succ _
  | case3 => exact Nat.zero_le _
  | case4 c cs ih => exact ih.trans ((Nat.le_succ _).trans (Nat.le_succ _))
  | case5 c cs hquote hlast hescape ih =>
    rw [quotedValue]
    · exact ih.trans (Nat.le_succ _)
    all_goals assumption

theorem slice_quoted : slice ('"' :: quoted) 1 (byteLen ('"' :: quoted)) = some quoted :=
  Text.slice_after (by decide) [] quoted

@[simp] theorem sliceOr_some_bind (a : α) (f : α → Except Fault β) : (sliceOr (some a) >>= f) = f a := rfl

@[simp] theorem sliceOr_none_bind (f : α → Except Fault β) : (sliceOr none >>= f) = .error .slice := rfl

/-- Every turn takes the '=' it found, and cuts between characters. -/
theorem labelLoop_eq (fuel : Nat) : ∀ (remaining : List Char) (labels : Labels), remaining.length < fuel →
    labelLoop fuel remaining labels = .ok (Metrics.labelLoop fuel remaining labels) := by
  induction fuel with
  | zero =>
    intro remaining _ h
    exact absurd h (Nat.not_lt_zero _)
  | succ fuel ih =>
    intro remaining labels h
    unfold labelLoop Metrics.labelLoop
    have hlen := remaining.dropWhile_suffix (p := fun c => c = ',' ∨ c = ' ') |>.length_le
    generalize remaining.dropWhile (fun c => c = ',' ∨ c = ' ') = left at hlen
    by_cases hleft : left = []
    · simp only [if_pos hleft]
    by_cases heq : '=' ∈ left
    · obtain ⟨key, rest, rfl, hkey⟩ := List.eq_append_cons_of_mem heq
      rw [List.length_append, List.length_cons] at hlen
      simp only [if_neg hleft, Text.findByte_append hkey, Text.dropWhile_ne hkey, Text.takeWhile_ne hkey,
        Text.slice_before, Text.slice_after (c := '=') (by decide), sliceOr_some_bind]
      cases rest with
      | nil => exact ih [] labels (by omega)
      | cons c quoted =>
        by_cases hc : c = '"'
        · subst hc
          have hquoted := length_quotedValue quoted
          rw [length_cons] at hlen
          simp only [head?_cons, if_true, slice_quoted, sliceOr_some_bind]
          exact ih (quotedValue quoted).2 _ (by omega)
        · simp only [head?_cons, Option.some.injEq, hc, if_false]
          rw [ih (c :: quoted) labels (by omega)]
          congr 1
          split
          next heq => exact absurd (List.cons.inj heq).1 hc
          next => rfl
    · simp only [if_neg hleft, Text.findByte_eq_none.mpr heq, Text.dropWhile_nil heq]

theorem parseLabels_eq (labelsStr : List Char) : parseLabels labelsStr = .ok (Metrics.parseLabels labelsStr) :=
  labelLoop_eq _ _ _ (Nat.lt_succ_self _)

/-! ## The shapes of a line -/

/-- Without a '{' and a '}' behind it, the line is read without a slice of labels. -/
theorem shape (line : List Char) : '{' ∉ line ∨ ('{' ∈ line ∧ '}' ∉ line) ∨ Reversed line ∨
    ∃ a b c, line = a ++ '{' :: (b ++ '}' :: c) ∧ '{' ∉ a ∧ '}' ∉ a ∧ '}' ∉ b := by
  by_cases hopen : '{' ∈ line
  · obtain ⟨a, rest, rfl, ha⟩ := eq_append_cons_of_mem hopen
    by_cases hclose : '}' ∈ a
    · obtain ⟨a, b, rfl, hclosed⟩ := eq_append_cons_of_mem hclose
      rw [mem_append, mem_cons, not_or, not_or] at ha
      exact .inr (.inr (.inl ⟨a, b, rest, by simp, hclosed, ha.1, ha.2.2⟩))
    · by_cases hrest : '}' ∈ rest
      · obtain ⟨b, c, rfl, hb⟩ := eq_append_cons_of_mem hrest
        exact .inr (.inr (.inr ⟨a, b, c, rfl, ha, hclose, hb⟩))
      · exact .inr (.inl ⟨hopen, by simp [hclose, hrest]⟩)
  · exact .inl hopen

section

variable {parseF64 : List Char → Option F64}
  {line : List Char} {d' : Declared} {lines : List (List Char)} (d : Declared)

theorem parseSampleLine_reversed (h : Reversed line) : parseSampleLine parseF64 d line = .error .slice := by
  obtain ⟨a, b, c, rfl, hclosed, hopen, hbetween⟩ := h
  have hbrace : '{' ∉ a ++ '}' :: b := by simp [hopen, hbetween]
  have hstart := Text.findByte_append hbrace c
  rw [append_assoc, cons_append] at hstart
  unfold parseSampleLine
  simp only [hstart, Text.findByte_append hclosed]
  have hname := Text.slice_before (a ++ '}' :: b) ('{' :: c)
  rw [append_assoc, cons_append] at hname
  rw [hname, sliceOr_some_bind, Text.slice_disordered, sliceOr_none_bind]
  rw [Text.byteLen_append, Text.byteLen_cons]
  omega

theorem parseSampleLine_braced {a b : List Char} (c : List Char) (hopen : '{' ∉ a) (hclosed : '}' ∉ a) (hb : '}' ∉ b) :
    parseSampleLine parseF64 d (a ++ '{' :: (b ++ '}' :: c)) =
      .ok (finishSample parseF64 d a (Metrics.parseLabels b) (Text.trim c)) := by
  have hbrace : '}' ∉ a ++ '{' :: b := by simp [hclosed, hb]
  have hend := Text.findByte_append hbrace c
  rw [append_assoc, cons_append] at hend
  have hrest := Text.slice_after (c := '}') (by decide) (a ++ '{' :: b) c
  rw [append_assoc, cons_append] at hrest
  unfold parseSampleLine
  simp only [Text.findByte_append hopen, hend, Text.slice_before, Text.slice_between (c := '{') (by decide), hrest,
    sliceOr_some_bind, parseLabels_eq]
  rfl

/-- The fault of a slice on characters, by bytes. -/
def toFault : Metrics.Panic → Fault
  | .slice => .slice

/-- A line is read by bytes as it is by characters. -/
theorem parseSampleLine_eq (line : List Char) :
    parseSampleLine parseF64 d line = (Metrics.parseSampleLine parseF64 d line).mapError toFault := by
  rcases shape line with hopen | ⟨hopen, hclose⟩ | hreversed | ⟨a, b, c, rfl, ha, hclosed, hb⟩
  · unfold parseSampleLine Metrics.parseSampleLine
    rw [Text.findByte_eq_none.mpr hopen, findIdx?_none hopen]
    generalize Text.splitn 2 ' ' line = parts
    rcases parts with _ | ⟨name, _ | ⟨rest, _ | ⟨more, parts⟩⟩⟩ <;> rfl
  · obtain ⟨a, rest, rfl, ha⟩ := eq_append_cons_of_mem hopen
    unfold parseSampleLine Metrics.parseSampleLine
    simp only [Text.findByte_append ha, Text.findByte_eq_none.mpr hclose, findIdx?_append_cons ha, findIdx?_none hclose]
    rfl
  · rw [parseSampleLine_reversed d hreversed]
    obtain ⟨a, b, c, rfl, hclosed, hopen, hbetween⟩ := hreversed
    have hbrace : '{' ∉ a ++ '}' :: b := by simp [hopen, hbetween]
    have hstart := findIdx?_append_cons hbrace c
    rw [append_assoc, cons_append] at hstart
    unfold Metrics.parseSampleLine
    simp only [hstart, findIdx?_append_cons hclosed]
    rw [if_pos (by rw [length_append, length_cons]; omega)]
    rfl
  · rw [parseSampleLine_braced d c ha hclosed hb, parseSampleLine_braces d ha hclosed hb c]
    rfl

/-- A line that is not reversed is read without a fault. -/
theorem parseSampleLine_ok (d : Declared) {line : List Char}
    (h : ¬Reversed line) : ∃ sample, parseSampleLine parseF64 d line = .ok sample := by
  rcases shape line with hopen | ⟨hopen, hclose⟩ | hreversed | ⟨a, b, c, rfl, ha, hclosed, hb⟩
  · unfold parseSampleLine
    rw [Text.findByte_eq_none.mpr hopen]
    dsimp only
    split <;> exact ⟨_, rfl⟩
  · obtain ⟨a, rest, rfl, ha⟩ := eq_append_cons_of_mem hopen
    unfold parseSampleLine
    simp only [Text.findByte_append ha, Text.findByte_eq_none.mpr hclose]
    exact ⟨none, rfl⟩
  · exact absurd hreversed h
  · exact ⟨_, parseSampleLine_braced d c ha hclosed hb⟩

/-- What is declared does not decide whether a line is a sample. -/
theorem finishSample_none {d : Declared} {name rest : List Char} {labels : Labels}
    (h : finishSample parseF64 d name labels rest = none) : finishSample parseF64 d' name labels rest = none := by
  unfold finishSample at h ⊢
  cases hvalue : Text.firstToken rest with
  | none => rfl
  | some valueStr =>
    cases hparsed : parseValue parseF64 valueStr with
    | none =>
      simp only [Option.bind_eq_bind, Option.bind_some, hparsed]
      rfl
    | some value =>
      rw [hvalue] at h
      simp only [Option.bind_eq_bind, Option.bind_some, hparsed] at h
      cases h

theorem parseSampleLine_none {d : Declared} (h : parseSampleLine parseF64 d line = .ok none) :
    parseSampleLine parseF64 d' line = .ok none := by
  rcases shape line with hopen | ⟨hopen, hclose⟩ | hreversed | ⟨a, b, c, rfl, ha, hclosed, hb⟩
  · unfold parseSampleLine at h ⊢
    rw [Text.findByte_eq_none.mpr hopen] at h ⊢
    generalize Text.splitn 2 ' ' line = parts at h ⊢
    rcases parts with _ | ⟨name, _ | ⟨rest, _ | ⟨more, parts⟩⟩⟩
    · rfl
    · rfl
    · exact congrArg Except.ok (finishSample_none (Except.ok.inj h))
    · rfl
  · obtain ⟨a, rest, rfl, ha⟩ := eq_append_cons_of_mem hopen
    unfold parseSampleLine
    simp only [Text.findByte_append ha, Text.findByte_eq_none.mpr hclose]
  · rw [parseSampleLine_reversed d hreversed] at h
    cases h
  · rw [parseSampleLine_braced _ c ha hclosed hb] at h ⊢
    exact congrArg Except.ok (finishSample_none (Except.ok.inj h))

/-! ## Runs -/

/-- No line taken for a sample is reversed. -/
def InOrder (lines : List (List Char)) : Prop := ∀ line ∈ lines, IsSample line → ¬Reversed (Text.trim line)

/-- A comment starts with its '#'. -/
theorem not_isSample {word : List Char} (hword : ['#'] <+: word) (h : word <+: Text.trim line) : ¬IsSample line :=
  fun hs => hs.2 (hword.trans h)

theorem parseLines_sample (h : IsSample line) (rest : List (List Char)) :
    parseLines parseF64 d (line :: rest) = do
      let sample ← parseSampleLine parseF64 d (Text.trim line)
      let samples ← parseLines parseF64 d rest
      return sample.toList ++ samples := by
  have hhelp : ¬"# HELP".toList <+: Text.trim line := fun hp => not_isSample (by decide) hp h
  have htype : ¬"# TYPE".toList <+: Text.trim line := fun hp => not_isSample (by decide) hp h
  rw [parseLines]
  simp only [List.isPrefixOf_iff_prefix, if_neg h.1, if_neg hhelp, if_neg htype, if_neg h.2]

theorem parseLines_skip (hs : ¬IsSample line) (hd : ¬Declares line) (rest : List (List Char)) :
    parseLines parseF64 d (line :: rest) = parseLines parseF64 d rest := by
  rw [parseLines]
  by_cases hempty : Text.trim line = []
  · exact if_pos hempty
  have hcomment : ['#'] <+: Text.trim line := by
    by_contra hc
    exact hs ⟨hempty, hc⟩
  by_cases hhelp : "# HELP".toList <+: Text.trim line
  · simp only [List.isPrefixOf_iff_prefix, if_neg hempty, if_pos hhelp]
  by_cases htype : "# TYPE".toList <+: Text.trim line
  · simp only [List.isPrefixOf_iff_prefix, if_neg hempty, if_neg hhelp, if_pos htype]
    split
    next hsplit => exact absurd ⟨hhelp, htype, by rw [hsplit]; rfl⟩ hd
    next => rfl
  · simp only [List.isPrefixOf_iff_prefix, if_neg hempty, if_neg hhelp, if_neg htype, if_pos hcomment]

theorem parseLines_declares (d : Declared) {line : List Char} (h : Declares line) :
    ∃ d', ∀ rest, parseLines parseF64 d (line :: rest) = parseLines parseF64 d' rest := by
  obtain ⟨hhelp, htype, hlen⟩ := h
  have hempty : Text.trim line ≠ [] := by
    intro he
    rw [he] at htype
    exact absurd htype.length_le (by decide)
  obtain ⟨a, b, name, kind, hsplit⟩ := length_eq_four.mp hlen
  refine ⟨⟨some (String.ofList name), some (String.ofList kind)⟩, fun rest => ?_⟩
  rw [parseLines]
  simp only [List.isPrefixOf_iff_prefix, if_neg hempty, if_neg hhelp, if_pos htype, hsplit]

/-- Where every line taken for a sample is in order the parser comes to an end; a run over the lines, whatever is
    declared. -/
theorem parseLines_ok (h : InOrder lines) : ∀ d, ∃ samples, parseLines parseF64 d lines = .ok samples := by
  induction lines with
  | nil =>
    intro d
    exact ⟨[], rfl⟩
  | cons line rest ih =>
    intro d
    have ih := ih fun l hl => h l (mem_cons_of_mem _ hl)
    by_cases hs : IsSample line
    · obtain ⟨sample, hsample⟩ := @parseSampleLine_ok parseF64 d _ (h line mem_cons_self hs)
      obtain ⟨samples, hrest⟩ := ih d
      refine ⟨sample.toList ++ samples, ?_⟩
      rw [parseLines_sample d hs, hsample, hrest]
      rfl
    · by_cases hd : Declares line
      · obtain ⟨d', hd'⟩ := @parseLines_declares parseF64 d _ hd
        rw [hd']
        exact ih d'
      · rw [parseLines_skip d hs hd]
        exact ih d

/-- A parser that came to an end met no reversed line. -/
theorem inOrder_of_parseLines :
    ∀ {d : Declared} {samples : List MetricSample}, parseLines parseF64 d lines = .ok samples → InOrder lines := by
  induction lines with
  | nil =>
    intro d samples _ line hline
    exact absurd hline not_mem_nil
  | cons line rest ih =>
    intro d samples h l hl hsample
    by_cases hs : IsSample line
    · rw [parseLines_sample d hs] at h
      cases hparsed : parseSampleLine parseF64 d (Text.trim line) with
      | error fault =>
        rw [hparsed] at h
        cases h
      | ok sample =>
        cases hrest : parseLines parseF64 d rest with
        | error fault =>
          rw [hparsed, hrest] at h
          cases h
        | ok rested =>
          rcases mem_cons.mp hl with rfl | hl
          · intro hreversed
            rw [parseSampleLine_reversed d hreversed] at hparsed
            cases hparsed
          · exact ih hrest l hl hsample
    · rcases mem_cons.mp hl with rfl | hl
      · exact absurd hsample hs
      · by_cases hd : Declares line
        · obtain ⟨d', hd'⟩ := @parseLines_declares parseF64 d _ hd
          rw [hd'] at h
          exact ih h l hl hsample
        · rw [parseLines_skip d hs hd] at h
          exact ih h l hl hsample

theorem parseLines_unreadable (h : Unreadable parseF64 line) (rest : List (List Char)) :
    parseLines parseF64 d (line :: rest) = parseLines parseF64 d rest := by
  rcases h with ⟨hs, hnone⟩ | ⟨hs, hd⟩
  · rw [parseLines_sample d hs, parseSampleLine_none hnone]
    cases parseLines parseF64 d rest <;> rfl
  · exact parseLines_skip d hs hd rest

theorem parseLines_append (h : Unreadable parseF64 line) (before after : List (List Char)) :
    ∀ d, parseLines parseF64 d (before ++ line :: after) = parseLines parseF64 d (before ++ after) := by
  induction before with
  | nil =>
    intro d
    exact parseLines_unreadable d h after
  | cons first before ih =>
    intro d
    rw [cons_append, cons_append]
    by_cases hs : IsSample first
    · rw [parseLines_sample d hs, parseLines_sample d hs, ih d]
    · by_cases hd : Declares first
      · obtain ⟨d', hd'⟩ := @parseLines_declares parseF64 d _ hd
        rw [hd', hd', ih d']
      · rw [parseLines_skip d hs hd, parseLines_skip d hs hd, ih d]

/-- The parser by bytes reads what the one by characters reads, or faults with it. -/
theorem parseLines_eq (lines : List (List Char)) :
    ∀ d, parseLines parseF64 d lines = (Metrics.parseLines parseF64 d lines).mapError toFault := by
  induction lines with
  | nil => exact fun _ => rfl
  | cons line rest ih =>
    intro d
    unfold parseLines Metrics.parseLines
    dsimp only
    split_ifs
    · exact ih d
    · exact ih d
    · generalize Text.splitn 4 ' ' (Text.trim line) = parts
      rcases parts with _ | ⟨a, _ | ⟨b, _ | ⟨name, _ | ⟨kind, _ | ⟨more, parts⟩⟩⟩⟩⟩ <;> exact ih _
    · exact ih d
    · rw [parseSampleLine_eq, ih d]
      cases Metrics.parseSampleLine parseF64 d (Text.trim line) with
      | error panic => rfl
      | ok sample => cases Metrics.parseLines parseF64 d rest <;> rfl

theorem parseExposition_eq (text : List Char) :
    parseExposition parseF64 text = (Metrics.parseExposition parseF64 text).mapError toFault := parseLines_eq _ _

/-- **The parser survives a body exactly where no line it takes for a sample has its first '}' before its first '{'**:
    it takes every slice in order and between characters, its loops end, and a line it cannot read is passed over. -/
theorem survives_iff (text : List Char) : Survives parseF64 text ↔
    ∀ line ∈ Text.lines text, IsSample line → ¬Reversed (Text.trim line) := by
  constructor
  · rintro ⟨⟨samples, h⟩, _⟩
    exact inOrder_of_parseLines h
  · intro h
    refine ⟨parseLines_ok h {}, fun before line after hlines hunreadable => ?_⟩
    unfold parseExposition
    rw [hlines]
    exact (parseLines_append hunreadable before after {}).symm

end

/-- A body of one line with its braces the wrong way round. -/
theorem a_closing_brace_first_panics : ¬∀ text, Survives (fun _ => none) text := by
  intro h
  obtain ⟨samples, hs⟩ := (h "a\x7d b\x7b 1".toList).returns
  have herror : parseExposition (fun _ => none) "a\x7d b\x7b 1".toList = .error .slice := by decide
  rw [herror] at hs
  cases hs

end Nq.Metrics.Bytes
