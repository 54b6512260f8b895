/-
  Nq.DeclaredDeny.Rules — what a printed rule says, and what is read of it
  (`nq-monitor/src/declared_deny_transport.rs`, `find_declared_deny`).

  A label is text of whoever wrote the rule, but its words are read with those of the head,
  and its line may be taken for the counters of the rule before it. The answer is that of
  the first rule that is selected exactly when no word of that line stands in for another,
  and its counters are near (`find_iff`).

  - `plain_of_quiet`: none does where no word of the line but its keywords is one; dumps of such rules are searched
    right (`a_quiet_dump_is_searched_right`).
  - `a_label_sends_a_rule_out`.
-/

import Nq.DeclaredDeny.Policy

namespace Nq.DeclaredDeny

open LeasePresence (parseNat)
open List
open Text (IsWord cut isWhitespace spaced splitOnce splitWhitespace trim)

/-! ## Printed rules -/

abbrev Word := {w : List Char // IsWord w ∧ '"' ∉ w}

abbrev LabelText := {t : List Char // '"' ∉ t ∧ '\n' ∉ t}

inductive RuleAction where
  | block | pass
  deriving DecidableEq, Repr

inductive Modifier where
  | return_ | drop
  deriving DecidableEq, Repr

inductive Direction where
  | in_ | out
  deriving DecidableEq, Repr

def RuleAction.word : RuleAction → List Char
  | .block => "block".toList
  | .pass => "pass".toList

def Modifier.word : Modifier → List Char
  | .return_ => "return".toList
  | .drop => "drop".toList

def Direction.word : Direction → List Char
  | .in_ => "in".toList
  | .out => "out".toList

structure Rule where
  /-- What stands behind `@`. -/
  index : Option Word
  action : RuleAction
  modifier : Option Modifier
  direction : Direction
  log : Bool
  quick : Bool
  interface : Option Word
  /-- The words between the interface and the source. -/
  qualifiers : List Word
  source : Word
  dest : Word
  labels : List LabelText
  ridentifier : Option Word

namespace Rule

variable (r : Rule)

/-- The keywords in front of the interface, without the first. -/
def leading : List (List Char) :=
  r.modifier.toList.map Modifier.word ++ [r.direction.word] ++ (if r.log then ["log".toList] else []) ++
    (if r.quick then ["quick".toList] else [])

def head : List (List Char) :=
  r.leading ++ (r.interface.elim [] fun i => ["on".toList, i.val]) ++ r.qualifiers.map Subtype.val ++
    ["from".toList, r.source.val, "to".toList, r.dest.val]

def quoted (t : LabelText) : List Char := '"' :: t.val ++ ['"']

def labelPieces (labels : List LabelText) : List (List Char) := labels.flatMap fun t => ["label".toList, quoted t]

def trailer : List (List Char) := r.ridentifier.elim [] fun i => ["ridentifier".toList, i.val]

def body : List Char := r.action.word ++ spaced (r.head ++ labelPieces r.labels ++ r.trailer)

def line : List Char := r.index.elim r.body fun i => '@' :: i.val ++ ' ' :: r.body

/-- The words of the line, behind the first. -/
def words : List (List Char) := r.head ++ (labelPieces r.labels).flatMap splitWhitespace ++ r.trailer

/-- The first label that is not an `id:` label. -/
def label : Option (List Char) := (r.labels.map Subtype.val).find? fun t => !decide ("id:".toList <+: t)

end Rule

/-- A printed number. -/
abbrev Number := {ds : List Char // ds ≠ [] ∧ ds.all Char.isDigit = true ∧ Text.value ds < 2 ^ 64}

/-- The numbers of a counter line, each with the spaces that fill its column. -/
structure Counts where
  evaluations : Number
  packets : Number
  bytes : Number
  states : Number
  fill : Nat × Nat × Nat × Nat

/-- A line under a rule: its counters, or another one in brackets. -/
inductive CounterLine where
  | counts (c : Counts)
  | other (t : List Char) (hline : '\n' ∉ t) (hother : ¬evaluationsMark <:+: t)

def column (mark : List Char) (n : Number) (fill : Nat) : List Char := mark ++ ' ' :: n.val ++ List.replicate fill ' '

/-- What stands between the brackets. -/
def CounterLine.inner : CounterLine → List Char
  | .counts c =>
    column evaluationsMark c.evaluations c.fill.1 ++ "  ".toList ++ column packetsMark c.packets c.fill.2.1 ++
      "  ".toList ++
      column "Bytes:".toList c.bytes c.fill.2.2.1 ++ "  ".toList ++ column statesMark c.states c.fill.2.2.2
  | .other t _ _ => t

def CounterLine.text (l : CounterLine) : List Char := "  [ ".toList ++ l.inner ++ "]".toList

def CounterLine.counts? : CounterLine → Option Counters
  | .counts c => some ⟨some (Text.value c.evaluations.val), some (Text.value c.packets.val),
      some (Text.value c.states.val)⟩
  | .other _ _ _ => none

structure Entry where
  rule : Rule
  counterLines : List CounterLine

def Entry.lines (e : Entry) : List (List Char) := e.rule.line :: e.counterLines.map CounterLine.text

/-- The counters printed under the rule. -/
def Entry.counters (e : Entry) : Counters := (e.counterLines.findSome? CounterLine.counts?).getD noCounters

def linesOf (entries : List Entry) : List (List Char) := entries.flatMap Entry.lines

/-- The dump, with or without a newline at its end. -/
def dump (entries : List Entry) (newline : Bool) : List Char :=
  ['\n'].intercalate (linesOf entries) ++ if newline && !entries.isEmpty then ['\n'] else []

/-! ## What a rule says -/

def RuleSelector.picks (e : Entry) : RuleSelector → Bool
  | .table t => e.rule.action = .block ∧ (parseDest e.rule.dest.val).2.1 = some t
  | .ridentifier i => e.rule.action = .block ∧ e.rule.ridentifier.map Subtype.val = some i

/-- The answer is that of the rule, or there is none. -/
structure Says (answer : DeclaredDenyRule) (e : Entry) : Prop where
  custody : answer.custody = .present
  direction : answer.direction = e.rule.direction.word
  quick : answer.quick = e.rule.quick
  interface : answer.interface = (e.rule.interface.map Subtype.val).getD []
  source : answer.sourceSpec = e.rule.source.val
  dest : (answer.destSpec, answer.destTable, answer.tableEntryCount) = parseDest e.rule.dest.val
  ridentifier : answer.ridentifier = (e.rule.ridentifier.map Subtype.val).getD []
  label : answer.label = e.rule.label.getD []
  counters : answer.counters = e.counters

/-- What is answered where the first rule that is selected is this one, or there is none. -/
def Answers (answer : DeclaredDenyRule) : Option Entry → Prop
  | none => answer.custody ≠ .present
  | some e => Says answer e

/-! ## Words that stand in for others -/

/-- The first `key` among the words has `v` behind it. -/
def Leads (key v : List Char) (words : List (List Char)) : Prop :=
  ∃ pre post, words = pre ++ key :: v :: post ∧ key ∉ pre

/-- No word of the line stands in for another. -/
structure Plain (r : Rule) : Prop where
  direction : r.direction = .in_ → "out".toList ∉ r.words
  quick : r.quick = false → "quick".toList ∉ r.words
  interface : r.interface = none → "on".toList ∉ r.words.dropLast
  source : Leads "from".toList r.source.val r.words
  dest : ∃ d, Leads "to".toList d r.words ∧ parseDest d = parseDest r.dest.val
  ridentifier : ∀ i, r.ridentifier = some i → Leads "ridentifier".toList i.val r.words
  unidentified : r.ridentifier = none → "ridentifier".toList ∉ r.words.dropLast

/-- The counters of the rule are near, or it has none and no line near behind its own states any. -/
def Near (e : Entry) (behind : List Entry) : Prop :=
  (∃ c, CounterLine.counts c ∈ e.counterLines.take 3) ∨
    (∀ c, CounterLine.counts c ∉ e.counterLines) ∧
      ∀ l, ((linesOf behind).take (3 - e.counterLines.length)).find? (fun l => (cut evaluationsMark l).isSome) =
        some l → parseCounterLine l = noCounters

/-- The words of the line select the rule. -/
def RuleSelector.Spells (r : Rule) : RuleSelector → Prop
  | .table t => r.action = .block ∧ ∃ d, Leads "to".toList d r.words ∧ (parseDest d).2.1 = some t
  | .ridentifier i => r.action = .block ∧ Leads "ridentifier".toList i r.words

/-- The first rule that is selected, by itself or by words of its line, is plain and its counters are near. -/
def Faithful (selector : RuleSelector) : List Entry → Prop
  | [] => True
  | e :: entries =>
    (selector.picks e = true ∨ selector.Spells e.rule → Plain e.rule ∧ Near e entries) ∧
      (selector.picks e = false → ¬selector.Spells e.rule → Faithful selector entries)

/-! ## Words of a line -/

section

variable {key v : List Char} {words : List (List Char)}

theorem afterToken_eq_some : afterToken key words = some v ↔ Leads key v words := by
  unfold Leads
  induction words with
  | nil => simp [afterToken]
  | cons t words ih =>
    rw [afterToken]
    by_cases ht : t = key
    · rw [if_pos ht, head?_eq_some_iff]
      constructor
      · rintro ⟨post, rfl⟩
        exact ⟨[], post, by rw [ht]; rfl, not_mem_nil⟩
      · rintro ⟨pre, post, heq, hpre⟩
        cases pre with
        | nil =>
          rw [nil_append] at heq
          exact ⟨post, (List.cons.inj heq).2⟩
        | cons p pre =>
          have hp : t = p := (List.cons.inj heq).1
          exact absurd (hp ▸ ht ▸ mem_cons_self) hpre
    · rw [if_neg ht, ih]
      constructor
      · rintro ⟨pre, post, rfl, hpre⟩
        exact ⟨t :: pre, post, rfl, by simp [hpre, Ne.symm ht]⟩
      · rintro ⟨pre, post, heq, hpre⟩
        cases pre with
        | nil => exact absurd (List.cons.inj heq).1 ht
        | cons p pre =>
          exact ⟨pre, post, (List.cons.inj heq).2, fun hmem => hpre (mem_cons_of_mem _ hmem)⟩

theorem afterToken_eq_none : afterToken key words = none ↔ key ∉ words.dropLast := by
  induction words with
  | nil => simp [afterToken]
  | cons t words ih =>
    rw [afterToken]
    cases words with
    | nil => simp [afterToken]
    | cons w words =>
      rw [dropLast_cons_cons]
      by_cases ht : t = key
      · simp [ht]
      · rw [if_neg ht, ih]
        simp [Ne.symm ht]

/-- What is read behind a keyword is a word. -/
theorem afterToken_mem (h : afterToken key words = some v) : v ∈ words := by
  obtain ⟨pre, post, rfl, -⟩ := afterToken_eq_some.mp h
  simp

end

/-! ## Reading a line back -/

/-- A text that starts and ends outside white space. -/
def Edged (s : List Char) : Prop :=
  s ≠ [] ∧ (∀ c ∈ s.head?, isWhitespace c = false) ∧ ∀ c ∈ s.getLast?, isWhitespace c = false

instance (s : List Char) : Decidable (Edged s) :=
  decidable_of_iff (s ≠ [] ∧ s.head?.all (fun c => isWhitespace c = false) = true ∧
    s.getLast?.all (fun c => isWhitespace c = false) = true)
    (by simp [Edged, Option.all_eq_true])

variable {a k w : List Char} {ls : List CounterLine} (c : Counts) (l : CounterLine)

theorem edged_of_isWord (hw : IsWord w) : Edged w :=
  ⟨hw.1, fun c hc => hw.2 c (mem_of_mem_head? hc), fun c hc => hw.2 c (mem_of_mem_getLast? hc)⟩

theorem edged_append {b : List Char} (ha : Edged a) (hb : Edged b) (mid : List Char) : Edged (a ++ mid ++ b) := by
  refine ⟨?_, fun c hc => ha.2.1 c ?_, fun c hc => hb.2.2 c ?_⟩
  · intro h
    exact ha.1 (append_eq_nil_iff.mp (append_eq_nil_iff.mp h).1).1
  · rw [append_assoc, head?_append_of_ne_nil _ ha.1] at hc
    exact hc
  · rw [getLast?_append_of_ne_nil _ hb.1] at hc
    exact hc

theorem edged_spaced (ha : Edged a) {pieces : List (List Char)} (hpieces : ∀ p ∈ pieces, Edged p) :
    Edged (a ++ spaced pieces) := by
  induction pieces generalizing a with
  | nil => rw [show spaced [] = [] from rfl, append_nil]; exact ha
  | cons p pieces ih =>
    have hnext : a ++ spaced (p :: pieces) = a ++ [' '] ++ p ++ spaced pieces := by simp [spaced]
    rw [hnext]
    exact ih (edged_append ha (hpieces p mem_cons_self) [' ']) fun q hq => hpieces q (mem_cons_of_mem _ hq)

theorem trim_eq {s : List Char} (hs : Edged s) : trim s = s := Text.trim_eq_self hs.2.1 hs.2.2

theorem isWord_keyword : ∀ w ∈ ["block".toList, "pass".toList,
    "return".toList, "drop".toList, "in".toList, "out".toList, "log".toList,
    "quick".toList, "on".toList, "from".toList, "to".toList, "label".toList, "ridentifier".toList],
      IsWord w ∧ '"' ∉ w := by
  decide

namespace Rule

variable (r : Rule)

theorem word_action (a : RuleAction) : IsWord a.word ∧ '"' ∉ a.word := by
  cases a <;> exact isWord_keyword _ (by decide)

theorem leading_words :
    ∀ w ∈ r.leading, w ∈ ["return".toList, "drop".toList, "in".toList, "out".toList, "log".toList, "quick".toList] := by
  unfold leading
  intro w hw
  simp only [mem_append, List.mem_map, Option.mem_toList, mem_singleton] at hw
  rcases hw with ((⟨m, -, rfl⟩ | rfl) | hlog) | hquick
  · cases m <;> decide
  · cases r.direction <;> decide
  · cases hl : r.log <;> simp [hl] at hlog
    simp [hlog]
  · cases hq : r.quick <;> simp [hq] at hquick
    simp [hquick]

theorem head_words : ∀ w ∈ r.head, IsWord w ∧ '"' ∉ w := by
  unfold head
  intro w hw
  rcases List.mem_append.mp hw with hw | htail
  · rcases List.mem_append.mp hw with hw | hqualifier
    · rcases List.mem_append.mp hw with hleading | hinterface
      · have hkey := r.leading_words w hleading
        have hkeywords : ∀ k ∈ ["return".toList, "drop".toList,
          "in".toList, "out".toList, "log".toList, "quick".toList], k ∈ ["block".toList,
            "pass".toList, "return".toList, "drop".toList, "in".toList, "out".toList,
              "log".toList, "quick".toList, "on".toList,
            "from".toList, "to".toList, "label".toList, "ridentifier".toList] := by decide
        exact isWord_keyword w (hkeywords w hkey)
      · cases hi : r.interface with
        | none =>
          rw [hi] at hinterface
          cases hinterface
        | some i =>
          rw [hi, Option.elim_some] at hinterface
          rcases List.mem_cons.mp hinterface with rfl | hval
          · exact isWord_keyword _ (by decide)
          · rw [List.mem_singleton.mp hval]
            exact i.2
    · obtain ⟨q, -, rfl⟩ := List.mem_map.mp hqualifier
      exact q.2
  · simp only [List.mem_cons, List.not_mem_nil, or_false] at htail
    rcases htail with rfl | rfl | rfl | rfl
    · exact isWord_keyword _ (by decide)
    · exact r.source.2
    · exact isWord_keyword _ (by decide)
    · exact r.dest.2

theorem trailer_words : ∀ w ∈ r.trailer, IsWord w ∧ '"' ∉ w := by
  unfold trailer
  intro w hw
  cases hi : r.ridentifier with
  | none =>
    rw [hi] at hw
    cases hw
  | some i =>
    rw [hi, Option.elim_some] at hw
    rcases mem_cons.mp hw with rfl | hval
    · exact isWord_keyword _ (by decide)
    · rw [mem_singleton.mp hval]
      exact i.2

theorem edged_quoted (t : LabelText) : Edged (quoted t) := by
  refine ⟨cons_ne_nil _ _, ?_, ?_⟩
  · intro c hc
    cases hc
    decide
  · intro c hc
    unfold quoted at hc
    rw [getLast?_concat] at hc
    cases hc
    decide

theorem edged_pieces : ∀ p ∈ r.head ++ labelPieces r.labels ++ r.trailer, Edged p := by
  intro p hp
  rcases mem_append.mp hp with hp | htrailer
  · rcases mem_append.mp hp with hhead | hlabel
    · exact edged_of_isWord (r.head_words p hhead).1
    · obtain ⟨t, -, hp⟩ := mem_flatMap.mp hlabel
      rcases mem_cons.mp hp with rfl | hquoted
      · exact edged_of_isWord (isWord_keyword _ (by decide)).1
      · rw [mem_singleton.mp hquoted]
        exact edged_quoted t
  · exact edged_of_isWord (r.trailer_words p htrailer).1

theorem edged_body : Edged r.body := edged_spaced (edged_of_isWord (word_action r.action).1) r.edged_pieces

theorem edged_line : Edged r.line := by
  unfold line
  cases r.index with
  | none => exact r.edged_body
  | some i =>
    rw [Option.elim_some]
    have hat : Edged ['@'] := by decide
    have hline := edged_append hat r.edged_body (i.val ++ [' '])
    simpa using hline

/-- The index is taken off. -/
theorem ruleBody_line : ruleBody (trim r.line) = r.body := by
  rw [trim_eq r.edged_line]
  unfold ruleBody line
  cases r.index with
  | some i =>
    have hspace : ' ' ∉ '@' :: i.val := by
      intro h
      rcases mem_cons.mp h with h | h
      · cases h
      · exact absurd (i.2.1.2 ' ' h) (by decide)
    rw [Option.elim_some, Text.splitOnce_append hspace]
    rfl
  | none =>
    rw [Option.elim_none]
    -- the first word of the body does not start with the mark of an index
    have hsplit : ∃ rest, splitOnce ' ' r.body = some (r.action.word, rest) := by
      have hspace : ' ' ∉ r.action.word := fun h => absurd ((word_action r.action).1.2 ' ' h) (by decide)
      obtain ⟨p, pieces, hpieces⟩ : ∃ p pieces, r.head ++ labelPieces r.labels ++ r.trailer = p :: pieces := by
        refine exists_cons_of_ne_nil ?_
        simp [head]
      refine ⟨p ++ spaced pieces, ?_⟩
      unfold body
      rw [hpieces]
      exact Text.splitOnce_append hspace _
    obtain ⟨rest, hsplit⟩ := hsplit
    rw [hsplit]
    have hat : r.action.word.head? ≠ some '@' := by cases r.action <;> decide
    exact if_neg hat

theorem flatMap_words {ws : List (List Char)} (hws : ∀ w ∈ ws, IsWord w ∧ '"' ∉ w) :
    ws.flatMap splitWhitespace = ws := by
  induction ws with
  | nil => rfl
  | cons w ws ih =>
    rw [List.flatMap_cons, Text.splitWhitespace_word (hws w List.mem_cons_self).1,
      ih fun x hx => hws x (List.mem_cons_of_mem _ hx)]
    rfl

theorem splitWhitespace_body : splitWhitespace r.body = r.action.word :: r.words := by
  unfold body words
  rw [Text.splitWhitespace_spaced, Text.splitWhitespace_word (word_action r.action).1, List.flatMap_append,
    List.flatMap_append, flatMap_words r.head_words, flatMap_words r.trailer_words]
  rfl

/-- The labels are found by their mark, whatever they say. -/
theorem parseLabel_pieces {labels : List LabelText} {a : List Char}
    {rest : List (List Char)} (ha : '"' ∉ a) (hrest : ∀ w ∈ rest, '"' ∉ w) :
    parseLabel (a ++ spaced (labelPieces labels ++ rest)) =
      (labels.map Subtype.val).find? fun t => !decide ("id:".toList <+: t) := by
  induction labels generalizing a with
  | nil =>
    have hquote : '"' ∉ a ++ spaced rest := by
      intro h
      rcases mem_append.mp h with h | h
      · exact ha h
      · obtain ⟨w, hw, hmem⟩ := mem_flatMap.mp h
        rcases mem_cons.mp hmem with h | h
        · cases h
        · exact hrest w hw h
    have hcut : cut labelMark (a ++ spaced rest) = none := by
      rw [Text.cut_eq_none (by decide)]
      exact fun h => hquote (h.subset (by decide))
    rw [parseLabel]
    split
    · rfl
    · rename_i before after hfound
      have hfound : cut labelMark (a ++ spaced rest) = some (before, after) := hfound
      rw [hcut] at hfound
      cases hfound
  | cons t labels ih =>
    have hmark : a ++ spaced (labelPieces (t :: labels) ++ rest) =
        (a ++ [' ']) ++ (labelMark ++ (t.val ++ '"' :: spaced (labelPieces labels ++ rest))) := by
      have hlabel : labelMark = "label".toList ++ [' ', '"'] := by decide
      rw [hlabel]
      simp [labelPieces, spaced, quoted]
    have hoff : Text.MarkedOff labelMark (a ++ [' ']) := by
      refine Text.markedOff_of_getLast (by decide) ?_ (by decide)
      intro h
      rcases mem_append.mp h with h | h
      · exact ha h
      · revert h
        decide
    rw [hmark, parseLabel]
    split
    · rename_i hcut
      rw [Text.cut_eq (by decide) hoff] at hcut
      cases hcut
    · rename_i before after hcut
      rw [Text.cut_eq (by decide) hoff] at hcut
      cases hcut
      split
      · rename_i hsplit
        rw [Text.splitOnce_append t.2.1] at hsplit
        cases hsplit
      · rename_i val rest' hsplit
        rw [Text.splitOnce_append t.2.1] at hsplit
        cases hsplit
        rw [map_cons, find?_cons]
        by_cases hid : "id:".toList <+: t.val
        · rw [if_pos hid, decide_eq_true hid]
          exact ih not_mem_nil
        · rw [if_neg hid, decide_eq_false hid]
          rfl

theorem parseLabel_body : parseLabel r.body = r.label := by
  unfold body label
  have hassoc : r.action.word ++ spaced (r.head ++ labelPieces r.labels ++ r.trailer) =
      (r.action.word ++ spaced r.head) ++ spaced (labelPieces r.labels ++ r.trailer) := by
    simp [spaced]
  rw [hassoc]
  refine parseLabel_pieces ?_ fun w hw => (r.trailer_words w hw).2
  intro h
  rcases mem_append.mp h with h | h
  · exact (word_action r.action).2 h
  · obtain ⟨w, hw, hmem⟩ := mem_flatMap.mp h
    rcases mem_cons.mp hmem with h | h
    · cases h
    · exact (r.head_words w hw).2 h

/-! ## Fields -/

theorem parseRuleLine_line : parseRuleLine r.line =
    if r.action = .pass then none
    else some
      { action := parseAction (r.action.word :: r.words)
        quick := (r.action.word :: r.words).contains "quick".toList
        direction := if (r.action.word :: r.words).contains "out".toList then "out".toList else "in".toList
        interface := (afterToken "on".toList (r.action.word :: r.words)).getD []
        sourceSpec := (afterToken "from".toList (r.action.word :: r.words)).getD []
        destSpec := (parseDest ((afterToken "to".toList (r.action.word :: r.words)).getD [])).1
        destTable := (parseDest ((afterToken "to".toList (r.action.word :: r.words)).getD [])).2.1
        tableEntryCount := (parseDest ((afterToken "to".toList (r.action.word :: r.words)).getD [])).2.2
        ridentifier := afterToken "ridentifier".toList (r.action.word :: r.words)
        label := r.label } := by
  unfold parseRuleLine
  rw [r.ruleBody_line]
  dsimp only
  rw [r.splitWhitespace_body, r.parseLabel_body]
  cases r.action with
  | block => exact if_neg (by simp [RuleAction.word])
  | pass =>
    have hpass : some "pass".toList ≠ some "block".toList := by decide
    exact if_pos hpass

theorem afterToken_words {key : List Char} (hkey : key ≠ "block".toList) (hblock : r.action = .block) :
    afterToken key (r.action.word :: r.words) = afterToken key r.words := by
  rw [afterToken, hblock]
  exact if_neg (Ne.symm hkey)

theorem contains_words {key : List Char} (hkey : key ≠ "block".toList) (hblock : r.action = .block) :
    (r.action.word :: r.words).contains key = true ↔ key ∈ r.words := by
  rw [contains_iff_mem, mem_cons, hblock]
  exact or_iff_right hkey

/-- The keyword of the head is found, though perhaps not first. -/
theorem to_mem : ∃ d, afterToken "to".toList r.words = some d := by
  apply Option.isSome_iff_exists.mp
  rw [Option.isSome_iff_ne_none]
  intro h
  refine afterToken_eq_none.mp h ?_
  obtain ⟨pre, hpre⟩ : ∃ pre, r.words = (pre ++ ["to".toList]) ++
      (r.dest.val :: ((labelPieces r.labels).flatMap splitWhitespace ++ r.trailer)) := by
    refine ⟨r.leading ++ (r.interface.elim [] fun i => ["on".toList, i.val]) ++ r.qualifiers.map Subtype.val ++
      ["from".toList, r.source.val], ?_⟩
    unfold words head
    simp
  rw [hpre, dropLast_append_of_ne_nil (cons_ne_nil _ _)]
  simp

theorem ne_nil_of_mem_words {w : List Char} (hw : w ∈ r.words) : w ≠ [] := by
  unfold words at hw
  rcases mem_append.mp hw with hw | htrailer
  · rcases mem_append.mp hw with hhead | hlabel
    · exact (r.head_words w hhead).1.1
    · obtain ⟨p, -, hp⟩ := mem_flatMap.mp hlabel
      exact Text.ne_nil_of_mem_splitWhitespace hp
  · exact (r.trailer_words w htrailer).1.1

theorem afterToken_getD {key v : List Char} (hv : v ≠ []) : (afterToken key r.words).getD [] = v ↔
    Leads key v r.words := by
  rw [← afterToken_eq_some]
  cases h : afterToken key r.words with
  | none => exact ⟨fun heq => absurd heq.symm hv, nofun⟩
  | some w => simp

theorem afterToken_getD_nil {key : List Char} : (afterToken key r.words).getD [] = [] ↔ key ∉ r.words.dropLast := by
  rw [← afterToken_eq_none]
  cases h : afterToken key r.words with
  | none => simp
  | some w =>
    have hw := r.ne_nil_of_mem_words (afterToken_mem h)
    simp [hw]

theorem leads_on {i : Word} (hi : r.interface = some i) : Leads "on".toList i.val r.words := by
  refine ⟨r.leading, r.qualifiers.map Subtype.val ++ ["from".toList, r.source.val, "to".toList, r.dest.val] ++
    (labelPieces r.labels).flatMap splitWhitespace ++ r.trailer, ?_, ?_⟩
  · unfold words head
    rw [hi]
    simp
  · intro h
    exact absurd (r.leading_words _ h) (by decide)

end Rule

/-! ## Counter lines -/

theorem parseU64_number (n : Number) : parseU64 n.val = some (Text.value n.val) := by
  obtain ⟨ds, hne, hdigits, hlt⟩ := n
  have hnat : parseNat ds = some (Text.value ds) := if_pos ⟨hne, hdigits⟩
  unfold parseU64
  split
  · rename_i rest heq
    have heq : ds = '+' :: rest := heq
    rw [heq, all_cons] at hdigits
    exact absurd (Bool.and_eq_true_iff.mp hdigits).1 (by decide)
  · dsimp only
    rw [hnat]
    exact Option.filter_eq_some_iff.mpr ⟨rfl, decide_eq_true hlt⟩

theorem isWhitespace_of_isDigit {c : Char} (hc : c.isDigit = true) : isWhitespace c = false := by
  unfold Char.isDigit at hc
  unfold isWhitespace
  simp only [Bool.and_eq_true, decide_eq_true_eq, UInt32.le_iff_toNat_le] at hc
  have hle : c.toNat ≤ 57 := hc.2
  have hge : 48 ≤ c.toNat := hc.1
  simp only [Bool.or_eq_false_iff, Bool.and_eq_false_iff, decide_eq_false_iff_not, beq_eq_false_iff_ne]
  omega

/-- A number is read behind its mark, up to a space or the closing bracket. -/
theorem counterField_column (mark : List Char) {pre : List Char}
    (hne : mark ≠ []) (hoff : Text.MarkedOff mark pre) (n : Number) (fill : Nat)
    {rest : List Char} (hrest : rest = "]".toList ∨ ∃ r, rest = ' ' :: r) :
    counterField (pre ++ column mark n fill ++ rest) mark = some (Text.value n.val) := by
  have hdigit : ∀ c ∈ n.val, c.isDigit = true := all_eq_true.mp n.2.2.1
  have hword : IsWord n.val := ⟨n.2.1, fun c hc => isWhitespace_of_isDigit (hdigit c hc)⟩
  have hcut : cut mark (pre ++ column mark n fill ++ rest) =
      some (pre, ' ' :: (n.val ++ (List.replicate fill ' ' ++ rest))) := by
    have hassoc : pre ++ column mark n fill ++ rest = pre ++
        (mark ++ (' ' :: (n.val ++ (List.replicate fill ' ' ++ rest)))) := by
      simp [column]
    rw [hassoc, Text.cut_eq hne hoff]
  -- the token is the number, with the bracket where no space is between
  have htoken : ∃ tail, (∀ c ∈ tail, c.isDigit = false) ∧
      (splitWhitespace (' ' :: (n.val ++ (List.replicate fill ' ' ++ rest)))).head? = some (n.val ++ tail) := by
    have hfirst : ∀ s, splitWhitespace (' ' :: s) = splitWhitespace s := fun s => Text.splitWhitespace_space [] s
    have hspace : ∀ s, (splitWhitespace (n.val ++ ' ' :: s)).head? = some n.val := fun s => by
      rw [Text.splitWhitespace_space, Text.splitWhitespace_word hword]
      rfl
    rw [hfirst]
    cases fill with
    | succ fill =>
      exact ⟨[], forall_mem_nil _, by rw [append_nil]; exact hspace _⟩
    | zero =>
      rcases hrest with rfl | ⟨r, rfl⟩
      · have hclosed : IsWord (n.val ++ "]".toList) := by
          refine ⟨by simp, fun c hc => ?_⟩
          rcases mem_append.mp hc with hc | hc
          · exact hword.2 c hc
          · rw [mem_singleton.mp hc]
            decide
        refine ⟨"]".toList, fun c hc => ?_, ?_⟩
        · rw [mem_singleton.mp hc]
          decide
        rw [replicate_zero, nil_append, Text.splitWhitespace_word hclosed]
        rfl
      · exact ⟨[], forall_mem_nil _, by rw [append_nil]; exact hspace _⟩
  obtain ⟨tail, htail, htoken⟩ := htoken
  unfold counterField
  rw [hcut]
  simp only [Option.bind_eq_bind, Option.bind_some, htoken]
  have htrim : (n.val ++ tail).rdropWhile (fun c => !c.isDigit) = n.val := by
    unfold List.rdropWhile
    rw [reverse_append, dropWhile_append_of_pos (by simpa using htail), dropWhile_eq_self_iff.mpr, reverse_reverse]
    intro hpos
    rw [hdigit _ (mem_reverse.mp (getElem_mem hpos))]
    decide
  rw [htrim, parseU64_number]

theorem not_mem_column {c : Char} {mark : List Char} {n : Number}
    {fill : Nat} (hmark : c ∉ mark) (hspace : c ≠ ' ') (hdigit : c.isDigit = false) :
    c ∉ column mark n fill := by
  unfold column
  intro h
  rcases mem_append.mp h with h | h
  · rcases mem_append.mp h with h | h
    · exact hmark h
    · rcases mem_cons.mp h with h | h
      · exact hspace h
      · have := all_eq_true.mp n.2.2.1 c h
        rw [hdigit] at this
        cases this
  · exact hspace (eq_of_mem_replicate h)

theorem field_evaluations :
    counterField (CounterLine.counts c).text evaluationsMark = some (Text.value c.evaluations.val) := by
  have hoff : Text.MarkedOff evaluationsMark "  [ ".toList := Text.markedOff_of_head (by decide)
  have hcolumn := counterField_column evaluationsMark (by decide)
    hoff c.evaluations c.fill.1 (.inr ⟨_, rfl⟩ : "  ".toList ++
    (column packetsMark c.packets c.fill.2.1 ++
      ("  ".toList ++ (column "Bytes:".toList c.bytes c.fill.2.2.1 ++ ("  ".toList ++
      (column statesMark c.states c.fill.2.2.2 ++ "]".toList))))) = "]".toList ∨ _)
  unfold CounterLine.text CounterLine.inner
  simpa only [append_assoc] using hcolumn

theorem field_packets : counterField (CounterLine.counts c).text packetsMark = some (Text.value c.packets.val) := by
  have hoff : Text.MarkedOff packetsMark ("  [ ".toList ++ (column evaluationsMark c.evaluations c.fill.1 ++
      "  ".toList)) := by
    refine Text.markedOff_of_head ?_
    simp only [mem_append, not_or]
    exact ⟨by decide, not_mem_column (by decide) (by decide) (by decide), by decide⟩
  have hcolumn := counterField_column packetsMark (by decide) hoff c.packets c.fill.2.1 (.inr ⟨_, rfl⟩ : "  ".toList ++
    (column "Bytes:".toList c.bytes c.fill.2.2.1 ++
      ("  ".toList ++ (column statesMark c.states c.fill.2.2.2 ++ "]".toList))) = "]".toList ∨ _)
  unfold CounterLine.text CounterLine.inner
  simpa only [append_assoc] using hcolumn

theorem field_states : counterField (CounterLine.counts c).text statesMark = some (Text.value c.states.val) := by
  have hoff : Text.MarkedOff statesMark ("  [ ".toList ++ (column evaluationsMark c.evaluations c.fill.1 ++
    ("  ".toList ++
      (column packetsMark c.packets c.fill.2.1 ++
        ("  ".toList ++ (column "Bytes:".toList c.bytes c.fill.2.2.1 ++ "  ".toList)))))) := by
    refine Text.markedOff_of_head ?_
    simp only [mem_append, not_or]
    exact ⟨by decide, not_mem_column (by decide) (by decide) (by decide),
      by decide, not_mem_column (by decide) (by decide) (by decide),
      by decide, not_mem_column (by decide) (by decide) (by decide), by decide⟩
  have hcolumn := counterField_column statesMark (by decide) hoff c.states c.fill.2.2.2 (.inl rfl)
  unfold CounterLine.text CounterLine.inner
  simpa only [append_assoc] using hcolumn

/-- A counter line is read as it was printed. -/
theorem parseCounterLine_counts :
    (CounterLine.counts c).counts? = some (parseCounterLine (CounterLine.counts c).text) := by
  unfold parseCounterLine
  rw [field_evaluations, field_packets, field_states]
  rfl

theorem isSome_cut_counts : (cut evaluationsMark (CounterLine.counts c).text).isSome = true := by
  have hfield := field_evaluations c
  unfold counterField at hfield
  cases hcut : cut evaluationsMark (CounterLine.counts c).text with
  | none =>
    rw [hcut] at hfield
    cases hfield
  | some _ => rfl

theorem isSome_cut_other {t : List Char} (hline : '\n' ∉ t) (hother : ¬evaluationsMark <:+: t) :
    (cut evaluationsMark (CounterLine.other t hline hother).text).isSome = false := by
  rw [Option.isSome_eq_false_iff, Option.isNone_iff_eq_none, Text.cut_eq_none (by decide)]
  have hfirst : ∀ c ∈ evaluationsMark.head?, c ∉ "  [ ".toList := by
    intro c hc
    rw [← Option.some.inj hc]
    decide
  have hlast : ∀ c ∈ evaluationsMark.getLast?, c ∉ "]".toList := by
    intro c hc
    rw [← Option.some.inj hc]
    decide
  unfold CounterLine.text
  rw [Text.infix_drop (by decide) hlast, Text.infix_skip (by decide) hfirst]
  exact hother

/-- The line of a counter line starts with a bracket, and is no rule. -/
theorem parseRuleLine_text : parseRuleLine l.text = none := by
  have hs : l.text = "  [ ".toList ++ l.inner ++ "]".toList := rfl
  revert hs
  generalize l.inner = s
  intro hs
  have hedged : Edged ("[".toList ++ (' ' :: s) ++ "]".toList) :=
    edged_append (by decide) (by decide) _
  have htrim : trim l.text = '[' :: ' ' :: (s ++ "]".toList) := by
    rw [hs]
    show trim (' ' :: ' ' :: ("[".toList ++ (' ' :: s) ++ "]".toList)) = _
    have hdrop : ∀ x, trim (' ' :: x) = trim x := fun x => by
      unfold trim
      rw [dropWhile_cons_of_pos Text.isWhitespace_space]
    rw [hdrop, hdrop, trim_eq hedged]
    simp
  have hbody : ruleBody ('[' :: ' ' :: (s ++ "]".toList)) = '[' :: ' ' :: (s ++ "]".toList) := by
    have hsplit : splitOnce ' ' (['['] ++ ' ' :: (s ++ "]".toList)) = some (['['], s ++ "]".toList) :=
      Text.splitOnce_append (by decide) _
    unfold ruleBody
    rw [show '[' :: ' ' :: (s ++ "]".toList) = ['['] ++ ' ' :: (s ++ "]".toList) from rfl, hsplit]
    exact if_neg (by decide)
  have hwords : (splitWhitespace ('[' :: ' ' :: (s ++ "]".toList))).head? = some ['['] := by
    have hbracket : splitWhitespace ['['] = [['[']] := Text.splitWhitespace_word (by decide)
    rw [show '[' :: ' ' :: (s ++ "]".toList) = ['['] ++ ' ' :: (s ++ "]".toList) from rfl,
      Text.splitWhitespace_space, hbracket]
    rfl
  unfold parseRuleLine
  rw [htrim, hbody]
  dsimp only
  rw [hwords]
  have hother : some ['['] ≠ some "block".toList := by decide
  exact if_pos hother

/-! ## One rule -/

section

variable {r : Rule} {selector : RuleSelector}

/-- A line is accepted exactly where its words select the rule. -/
theorem accepts_line : accepts selector r.line = true ↔ selector.Spells r := by
  unfold accepts
  rw [r.parseRuleLine_line]
  cases haction : r.action with
  | pass => cases selector <;> simp [RuleSelector.Spells, haction]
  | block =>
    have hto : afterToken "to".toList (RuleAction.block.word :: r.words) = afterToken "to".toList r.words :=
      haction ▸ r.afterToken_words (by decide) haction
    have hid : afterToken "ridentifier".toList (RuleAction.block.word :: r.words) =
        afterToken "ridentifier".toList r.words :=
      haction ▸ r.afterToken_words (by decide) haction
    rw [if_neg nofun, Option.any_some, hto, hid]
    cases selector with
    | table t =>
      obtain ⟨d, hd⟩ := r.to_mem
      simp only [RuleSelector.selects, RuleSelector.Spells, haction, hd, true_and, decide_eq_true_eq,
        ← afterToken_eq_some, Option.getD_some, Option.some.injEq, exists_eq_left']
    | ridentifier i =>
      simp only [RuleSelector.selects, RuleSelector.Spells, haction, true_and, decide_eq_true_eq, ← afterToken_eq_some]

/-- A plain rule is selected by its words as by itself. -/
theorem Plain.spells_iff (h : Plain r) (e : Entry) (he : e.rule = r) : selector.Spells r ↔ selector.picks e = true := by
  subst he
  cases selector with
  | table t =>
    simp only [RuleSelector.Spells, RuleSelector.picks, decide_eq_true_eq]
    refine and_congr_right fun _ => ?_
    obtain ⟨d, hd, hparse⟩ := h.dest
    rw [← hparse]
    simp only [← afterToken_eq_some] at hd ⊢
    simp only [hd, Option.some.injEq, exists_eq_left']
  | ridentifier i =>
    simp only [RuleSelector.Spells, RuleSelector.picks, decide_eq_true_eq]
    refine and_congr_right fun _ => ?_
    cases hid : e.rule.ridentifier with
    | some v =>
      have hleads := h.ridentifier v hid
      simp only [← afterToken_eq_some] at hleads ⊢
      simp only [hleads, Option.some.injEq, Option.map_some]
    | none =>
      have hleads := h.unidentified hid
      rw [← afterToken_eq_none] at hleads
      simp only [← afterToken_eq_some, hleads, Option.map_none]

theorem quick_mem (h : r.quick = true) : "quick".toList ∈ r.words := by
  unfold Rule.words Rule.head Rule.leading
  rw [h, if_pos rfl]
  simp only [mem_append, mem_singleton, or_true, true_or]

theorem out_mem (h : r.direction = .out) : "out".toList ∈ r.words := by
  unfold Rule.words Rule.head Rule.leading
  rw [h]
  simp only [mem_append, mem_singleton, Direction.word, or_true, true_or]

theorem contains_quick (hblock : r.action = .block) :
    (r.action.word :: r.words).contains "quick".toList = r.quick ↔ (r.quick = false → "quick".toList ∉ r.words) := by
  have hmem := r.contains_words (show "quick".toList ≠ "block".toList by decide) hblock
  cases hquick : r.quick with
  | true => exact ⟨nofun, fun _ => hmem.mpr (quick_mem hquick)⟩
  | false => rw [← not_iff_not.mpr hmem, Bool.not_eq_true, imp_iff_right rfl]

theorem contains_out (hblock : r.action = .block) :
    (if (r.action.word :: r.words).contains "out".toList then "out".toList else "in".toList) = r.direction.word ↔
      (r.direction = .in_ → "out".toList ∉ r.words) := by
  have hmem := r.contains_words (show "out".toList ≠ "block".toList by decide) hblock
  cases hdirection : r.direction with
  | out =>
    rw [if_pos (hmem.mpr (out_mem hdirection))]
    exact ⟨nofun, fun _ => rfl⟩
  | in_ =>
    rw [imp_iff_right rfl, ← hmem]
    have hne : "out".toList ≠ "in".toList := by decide
    by_cases hout : (r.action.word :: r.words).contains "out".toList = true
    · rw [if_pos hout]
      exact ⟨fun h => absurd h hne, fun h => absurd hout h⟩
    · rw [if_neg hout]
      exact ⟨fun _ => hout, fun _ => rfl⟩

theorem interface_iff : (afterToken "on".toList r.words).getD [] = (r.interface.map Subtype.val).getD [] ↔
    (r.interface = none → "on".toList ∉ r.words.dropLast) := by
  cases hi : r.interface with
  | none => exact r.afterToken_getD_nil.trans (imp_iff_right rfl).symm
  | some i => exact ⟨fun _ h => (nomatch h), fun _ => (r.afterToken_getD i.2.1.1).mpr (r.leads_on hi)⟩

theorem dest_iff : parseDest ((afterToken "to".toList r.words).getD []) = parseDest r.dest.val ↔
    ∃ d, Leads "to".toList d r.words ∧ parseDest d = parseDest r.dest.val := by
  obtain ⟨d, hd⟩ := r.to_mem
  simp only [← afterToken_eq_some, hd, Option.getD_some, Option.some.injEq, exists_eq_left']

theorem ridentifier_iff : (afterToken "ridentifier".toList r.words).getD [] = (r.ridentifier.map Subtype.val).getD [] ↔
    (∀ i, r.ridentifier = some i → Leads "ridentifier".toList i.val r.words) ∧
      (r.ridentifier = none → "ridentifier".toList ∉ r.words.dropLast) := by
  cases hi : r.ridentifier with
  | none => exact r.afterToken_getD_nil.trans ⟨fun h => ⟨nofun, fun _ => h⟩, fun h => h.2 rfl⟩
  | some i =>
    refine (r.afterToken_getD i.2.1.1).trans ⟨fun h => ⟨fun j hj => ?_, nofun⟩, fun h => h.1 i rfl⟩
    rw [← Option.some.inj hj]
    exact h

theorem says_presentRule {rule : ParsedRule} {counters : Counters} {source : List Char} {e : Entry} :
    Says (presentRule rule counters source) e ↔ rule.direction = e.rule.direction.word ∧ rule.quick = e.rule.quick ∧
      rule.interface = (e.rule.interface.map Subtype.val).getD [] ∧ rule.sourceSpec = e.rule.source.val ∧
      (rule.destSpec, rule.destTable, rule.tableEntryCount) = parseDest e.rule.dest.val ∧
      rule.ridentifier.getD [] = (e.rule.ridentifier.map Subtype.val).getD [] ∧ rule.label.getD [] =
        e.rule.label.getD [] ∧ counters = e.counters :=
  ⟨fun h => ⟨h.direction, h.quick, h.interface, h.source, h.dest, h.ridentifier, h.label, h.counters⟩,
    fun ⟨hdirection, hquick, hinterface, hsource, hdest, hridentifier, hlabel, hcounters⟩ =>
      ⟨rfl, hdirection, hquick, hinterface, hsource, hdest, hridentifier, hlabel, hcounters⟩⟩

/-- What is read of a block rule is what it says exactly where it is plain. -/
theorem says_iff {e : Entry} (hblock : e.rule.action = .block) : ∃ rule, parseRuleLine e.rule.line = some rule ∧
    ∀ counters source, Says (presentRule rule counters source) e ↔ Plain e.rule ∧ counters = e.counters := by
  have hto := e.rule.afterToken_words (show "to".toList ≠ "block".toList by decide) hblock
  have hon := e.rule.afterToken_words (show "on".toList ≠ "block".toList by decide) hblock
  have hfrom := e.rule.afterToken_words (show "from".toList ≠ "block".toList by decide) hblock
  have hid := e.rule.afterToken_words (show "ridentifier".toList ≠ "block".toList by decide) hblock
  refine ⟨_, (e.rule.parseRuleLine_line).trans (if_neg (by rw [hblock]; nofun)), fun counters source => ?_⟩
  rw [says_presentRule, hto, hon, hfrom, hid]
  dsimp only
  rw [contains_out hblock, contains_quick hblock, interface_iff, e.rule.afterToken_getD e.rule.source.2.1.1,
    dest_iff, ridentifier_iff]
  constructor
  · rintro ⟨hdirection, hquick, hinterface, hsource, hdest, ⟨hridentifier, hunidentified⟩, -, hcounters⟩
    exact ⟨⟨hdirection, hquick, hinterface, hsource, hdest, hridentifier, hunidentified⟩, hcounters⟩
  · rintro ⟨h, hcounters⟩
    exact ⟨h.direction, h.quick, h.interface, h.source, h.dest, ⟨h.ridentifier, h.unidentified⟩, rfl, hcounters⟩

end

/-! ## Counters behind a rule -/

theorem find_counters (ls : List CounterLine) :
    ((ls.map CounterLine.text).find? fun l => (cut evaluationsMark l).isSome).map parseCounterLine =
      ls.findSome? CounterLine.counts? := by
  induction ls with
  | nil => rfl
  | cons l ls ih =>
    rw [map_cons, find?_cons, findSome?_cons]
    cases l with
    | counts c => rw [isSome_cut_counts, parseCounterLine_counts, Option.map_some]
    | other t hline hother =>
      rw [isSome_cut_other]
      exact ih

theorem findSome_counts_eq_none : ls.findSome? CounterLine.counts? = none ↔ ∀ c, CounterLine.counts c ∉ ls := by
  rw [findSome?_eq_none_iff]
  constructor
  · intro h c hc
    cases h _ hc
  · intro h l hl
    cases l with
    | counts c => exact absurd hl (h c)
    | other => rfl

theorem counters_ne {c : Counters} (h : ls.findSome? CounterLine.counts? = some c) : c ≠ noCounters := by
  obtain ⟨l, -, hl⟩ := exists_of_findSome?_eq_some h
  cases l with
  | counts c' =>
    cases hl
    nofun
  | other => cases hl

/-- The counters read behind a rule are its own exactly where they are near. -/
theorem countersBehind_iff (e : Entry) (behind : List Entry) :
    countersBehind (e.counterLines.map CounterLine.text ++ linesOf behind) = e.counters ↔ Near e behind := by
  unfold countersBehind Near Entry.counters
  rw [take_append, find?_append, length_map, ← map_take, Option.map_or, find_counters]
  cases hnear : (e.counterLines.take 3).findSome? CounterLine.counts? with
  | some c =>
    have hmem : ∃ c, CounterLine.counts c ∈ e.counterLines.take 3 := by
      by_contra hno
      rw [findSome_counts_eq_none.mpr (not_exists.mp hno)] at hnear
      cases hnear
    have hown : e.counterLines.findSome? CounterLine.counts? = some c := by
      conv_lhs => rw [← take_append_drop 3 e.counterLines]
      rw [findSome?_append, hnear, Option.some_or]
    rw [hown, Option.some_or]
    exact ⟨fun _ => .inl hmem, fun _ => rfl⟩
  | none =>
    have hno : ¬∃ c, CounterLine.counts c ∈ e.counterLines.take 3 := not_exists.mpr (findSome_counts_eq_none.mp hnear)
    rw [Option.none_or, or_iff_right hno]
    cases hown : e.counterLines.findSome? CounterLine.counts? with
    | some c =>
      -- the counters are behind the third line, and nothing is read
      have hlong : 3 < e.counterLines.length := by
        by_contra hshort
        rw [take_of_length_le (by omega), hown] at hnear
        cases hnear
      have htake : 3 - e.counterLines.length = 0 := by omega
      rw [htake]
      refine ⟨fun h => absurd h.symm (counters_ne hown), fun h => ?_⟩
      rw [findSome_counts_eq_none.mpr h.1] at hown
      cases hown
    | none =>
      rw [and_iff_right (findSome_counts_eq_none.mp hown)]
      cases ((linesOf behind).take (3 - e.counterLines.length)).find? fun l => (cut evaluationsMark l).isSome with
      | none => exact ⟨fun _ => nofun, fun _ => rfl⟩
      | some l =>
        refine ⟨fun h l' hl' => ?_, fun h => h l rfl⟩
        rw [← Option.some.inj hl']
        exact h

/-! ## The dump -/

theorem acceptedFrom_text (selector : RuleSelector) (ls : List CounterLine) (rest : List (List Char)) :
    acceptedFrom selector (ls.map CounterLine.text ++ rest) = acceptedFrom selector rest := by
  induction ls with
  | nil => rfl
  | cons l ls ih =>
    have hno : accepts selector l.text = false := by
      unfold accepts
      rw [parseRuleLine_text]
      rfl
    rw [map_cons, cons_append, ← ih]
    exact dropWhile_cons_of_pos (by rw [hno]; rfl)

theorem linesOf_cons (e : Entry) (entries : List Entry) :
    linesOf (e :: entries) = e.rule.line :: (e.counterLines.map CounterLine.text ++ linesOf entries) := rfl

theorem length_dropWhile_linesOf (p : Entry → Bool)
    (entries : List Entry) : (linesOf (entries.dropWhile p)).length ≤ (linesOf entries).length := by
  obtain ⟨pre, hpre⟩ := dropWhile_suffix (l := entries) p
  conv_rhs => rw [← hpre]
  unfold linesOf
  rw [flatMap_append, length_append]
  omega

theorem acceptedFrom_length (selector : RuleSelector)
    (lines : List (List Char)) : (acceptedFrom selector lines).length ≤ lines.length :=
  (dropWhile_suffix _).length_le

section

variable {selector : RuleSelector} {e : Entry} {entries : List Entry}

theorem acceptedFrom_of_spells (h : selector.Spells e.rule) :
    acceptedFrom selector (linesOf (e :: entries)) = linesOf (e :: entries) := by
  rw [linesOf_cons]
  exact dropWhile_cons_of_neg (by rw [accepts_line.mpr h]; nofun)

theorem acceptedFrom_of_not_spells (h : ¬selector.Spells e.rule) :
    acceptedFrom selector (linesOf (e :: entries)) = acceptedFrom selector (linesOf entries) := by
  rw [linesOf_cons]
  refine (dropWhile_cons_of_pos ?_).trans (acceptedFrom_text selector e.counterLines (linesOf entries))
  rw [Bool.not_eq_true', ← Bool.not_eq_true, accepts_line]
  exact h

theorem length_linesOf_lt : (linesOf entries).length < (linesOf (e :: entries)).length := by
  rw [linesOf_cons, length_cons, length_append]
  omega

/-- The answer for a rule that its words select. -/
theorem findIn_of_spells (h : selector.Spells e.rule) (source : List Char) :
    Says (findIn selector source (linesOf (e :: entries))) e ↔ Plain e.rule ∧ Near e entries := by
  have hblock : e.rule.action = .block := by cases selector <;> exact h.1
  obtain ⟨rule, hrule, hsays⟩ := says_iff hblock
  have hfind : findIn selector source (linesOf (e :: entries)) =
      presentRule rule (countersBehind (e.counterLines.map CounterLine.text ++ linesOf entries)) source := by
    unfold findIn
    rw [acceptedFrom_of_spells h, linesOf_cons]
    dsimp only
    rw [hrule]
  rw [hfind, hsays, countersBehind_iff]

/-- Over the lines of a dump: the search stops at the first rule that is selected and answers for it, exactly where it
    is faithful. -/
theorem findIn_iff (selector : RuleSelector) (source : List Char) (entries : List Entry) :
    acceptedFrom selector (linesOf entries) = linesOf (entries.dropWhile fun e => !selector.picks e) ∧
      Answers (findIn selector source (linesOf entries)) (entries.find? selector.picks) ↔
        Faithful selector entries := by
  induction entries with
  | nil => exact ⟨fun _ => trivial, fun _ => ⟨rfl, nofun⟩⟩
  | cons e entries ih =>
    rw [Faithful, find?_cons]
    by_cases hspells : selector.Spells e.rule
    · rw [acceptedFrom_of_spells hspells]
      cases hpicks : selector.picks e with
      | true =>
        rw [dropWhile_cons_of_neg (by rw [hpicks]; nofun), and_iff_right rfl]
        refine (findIn_of_spells hspells source).trans ⟨fun h => ⟨fun _ => h, nofun⟩, fun h => h.1 (.inl rfl)⟩
      | false =>
        -- the words of the line select a rule that is not the one meant
        rw [dropWhile_cons_of_pos (by rw [hpicks]; rfl)]
        constructor
        · intro h
          have hle := length_dropWhile_linesOf (fun e => !selector.picks e) entries
          have hlt : (linesOf entries).length < (linesOf (e :: entries)).length := length_linesOf_lt
          rw [h.1] at hlt
          omega
        · intro h
          have hplain := (h.1 (.inr hspells)).1
          rw [hplain.spells_iff e rfl, hpicks] at hspells
          cases hspells
    · rw [acceptedFrom_of_not_spells hspells]
      cases hpicks : selector.picks e with
      | true =>
        -- a word of the line stands in for the one that selects the rule
        rw [dropWhile_cons_of_neg (by rw [hpicks]; nofun)]
        constructor
        · intro h
          have hle := acceptedFrom_length selector (linesOf entries)
          have hlt : (linesOf entries).length < (linesOf (e :: entries)).length := length_linesOf_lt
          rw [h.1] at hle
          omega
        · intro h
          have hplain := (h.1 (.inl rfl)).1
          rw [hplain.spells_iff e rfl] at hspells
          exact absurd hpicks hspells
      | false =>
        have hfind : findIn selector source (linesOf (e :: entries)) = findIn selector source (linesOf entries) := by
          unfold findIn
          rw [acceptedFrom_of_not_spells hspells]
        rw [dropWhile_cons_of_pos (by rw [hpicks]; rfl), hfind]
        refine ih.trans ⟨fun h => ⟨fun hor => ?_, fun _ _ => h⟩, fun h => h.2 rfl hspells⟩
        rcases hor with h | h
        · cases h
        · exact absurd h hspells

end

/-! ## The text of a dump -/

theorem not_mem_of_isWord (hw : IsWord w) : '\n' ∉ w := fun h => absurd (hw.2 _ h) (by decide)

theorem newline_line (r : Rule) : '\n' ∉ r.line := by
  have hspaced : ∀ pieces : List (List Char), (∀ p ∈ pieces, '\n' ∉ p) → '\n' ∉ spaced pieces := by
    intro pieces hpieces h
    obtain ⟨p, hp, hmem⟩ := mem_flatMap.mp h
    rcases mem_cons.mp hmem with h | h
    · cases h
    · exact hpieces p hp h
  have hbody : '\n' ∉ r.body := by
    unfold Rule.body
    intro h
    rcases mem_append.mp h with h | h
    · exact not_mem_of_isWord (Rule.word_action r.action).1 h
    · refine hspaced _ (fun p hp => ?_) h
      rcases mem_append.mp hp with hp | htrailer
      · rcases mem_append.mp hp with hhead | hlabel
        · exact not_mem_of_isWord (r.head_words p hhead).1
        · obtain ⟨t, -, hp⟩ := mem_flatMap.mp hlabel
          rcases mem_cons.mp hp with rfl | hquoted
          · decide
          · rw [mem_singleton.mp hquoted]
            have ht := t.2.2
            unfold Rule.quoted
            simp [ht]
      · exact not_mem_of_isWord (r.trailer_words p htrailer).1
  unfold Rule.line
  cases r.index with
  | none => exact hbody
  | some i =>
    have hi := not_mem_of_isWord i.2.1
    simp [hbody, hi]

theorem newline_text : '\n' ∉ l.text := by
  have hinner : '\n' ∉ l.inner := by
    cases l with
    | counts c =>
      unfold CounterLine.inner
      simp only [mem_append, not_or]
      have hcolumn : ∀ mark n fill, '\n' ∉ mark → '\n' ∉ column mark n fill := fun mark n fill hmark =>
        not_mem_column hmark (by decide) (by decide)
      exact ⟨⟨⟨⟨⟨⟨hcolumn _ _ _ (by decide), by decide⟩, hcolumn _ _ _ (by decide)⟩, by decide⟩,
        hcolumn _ _ _ (by decide)⟩, by decide⟩, hcolumn _ _ _ (by decide)⟩
    | other t hline _ => exact hline
  unfold CounterLine.text
  simp only [mem_append, not_or]
  exact ⟨⟨by decide, hinner⟩, by decide⟩

/-- The lines of a dump are read line by line. -/
theorem whole_line {entries : List Entry} : ∀ l ∈ linesOf entries, l ≠ [] ∧ '\n' ∉ l ∧ l.getLast? ≠ some '\r' := by
  intro l hl
  obtain ⟨e, -, hl⟩ := mem_flatMap.mp hl
  rcases mem_cons.mp hl with rfl | htext
  · refine ⟨e.rule.edged_line.1, newline_line e.rule, fun h => ?_⟩
    exact absurd (e.rule.edged_line.2.2 _ h) (by decide)
  · obtain ⟨c, -, rfl⟩ := List.mem_map.mp htext
    refine ⟨?_, newline_text c, fun h => ?_⟩
    · unfold CounterLine.text
      simp
    · unfold CounterLine.text at h
      have hlast : ("  [ ".toList ++ c.inner ++ [']']).getLast? = some '\r' := h
      rw [getLast?_concat] at hlast
      cases hlast

theorem lines_dump (entries : List Entry) (newline : Bool) : Text.lines (dump entries newline) = linesOf entries := by
  unfold dump
  refine Text.lines_intercalate whole_line ?_
  cases entries with
  | nil =>
    refine .inl (if_neg ?_)
    simp
  | cons e entries =>
    cases newline with
    | false => exact .inl rfl
    | true => exact .inr ⟨cons_ne_nil _ _, rfl⟩

/-- For every printed dump and selector: the search stops at the first rule that is selected and answers for it (or
    does not answer
    where there is none), exactly where the first rule that is selected, by itself or by words of its line, is plain
    and its counters are near. -/
theorem find_iff (entries : List Entry) (newline : Bool) (selector : RuleSelector) (sshHost : List Char) :
    acceptedFrom selector (Text.lines (dump entries newline)) = linesOf (entries.dropWhile fun e => !selector.picks e) ∧
      Answers (findDeclaredDeny (dump entries newline) selector sshHost) (entries.find? selector.picks) ↔
        Faithful selector entries := by
  rw [lines_dump]
  unfold findDeclaredDeny
  dsimp only
  rw [lines_dump]
  cases entries with
  | nil =>
    have hempty : trim (dump [] newline) = [] := by cases newline <;> rfl
    rw [if_pos hempty]
    exact ⟨fun _ => trivial, fun _ => ⟨rfl, nofun⟩⟩
  | cons e entries =>
    have htext : trim (dump (e :: entries) newline) ≠ [] := by
      obtain ⟨c, line, hline⟩ := exists_cons_of_ne_nil e.rule.edged_line.1
      have hc : isWhitespace c = false := e.rule.edged_line.2.1 c (by rw [hline]; rfl)
      have hmem : c ∈ dump (e :: entries) newline := by
        unfold dump
        rw [linesOf_cons, hline]
        cases e.counterLines.map CounterLine.text ++ linesOf entries with
        | nil => simp
        | cons l ls => simp
      exact ne_nil_of_mem ((Text.mem_trim_iff hc).mpr hmem)
    rw [if_neg htext]
    exact findIn_iff selector _ (e :: entries)

/-! ## Quiet rules -/

def readKeywords : List (List Char) :=
  ["out".toList, "quick".toList, "on".toList, "from".toList, "to".toList, "ridentifier".toList]

/-- The words of the line that are not its own keywords. -/
def Rule.free (r : Rule) : List (List Char) :=
  r.interface.toList.map Subtype.val ++ r.qualifiers.map Subtype.val ++ [r.source.val, r.dest.val] ++
    (Rule.labelPieces r.labels).flatMap splitWhitespace ++ r.ridentifier.toList.map Subtype.val

/-- The words in front of the source, without its keyword. -/
def Rule.fore (r : Rule) : List (List Char) :=
  r.leading ++ (r.interface.elim [] fun i => ["on".toList, i.val]) ++ r.qualifiers.map Subtype.val

theorem mem_fore {r : Rule} (hk : k ∈ r.fore) : k ∈ r.leading ∨ k = "on".toList ∧ r.interface ≠ none ∨ k ∈ r.free := by
  unfold Rule.fore at hk
  unfold Rule.free
  cases hi : r.interface with
  | none =>
    rw [hi] at hk
    rw [Option.elim_none, append_nil] at hk
    simp only [mem_append]
    exact (mem_append.mp hk).imp_right fun hqualifier => .inr (.inl (.inl (.inl (.inr hqualifier))))
  | some i =>
    rw [hi] at hk
    simp only [Option.elim_some, mem_append, mem_cons, not_mem_nil, or_false] at hk
    simp only [mem_append, Option.toList_some, map_cons, map_nil, mem_cons, not_mem_nil, or_false]
    rcases hk with (hk | rfl | hk) | hk
    · exact .inl hk
    · exact .inr (.inl ⟨rfl, Option.some_ne_none i⟩)
    · exact .inr (.inr (.inl (.inl (.inl (.inl hk)))))
    · exact .inr (.inr (.inl (.inl (.inl (.inr hk)))))

theorem words_eq (r : Rule) : r.words = r.fore ++ "from".toList :: r.source.val :: "to".toList :: r.dest.val ::
    ((Rule.labelPieces r.labels).flatMap splitWhitespace ++ r.trailer) := by
  unfold Rule.words Rule.head Rule.fore
  simp only [append_assoc, cons_append, nil_append]

theorem mem_words {r : Rule} (hk : k ∈ r.words) : k ∈ r.leading ∨ k = "on".toList ∧ r.interface ≠ none ∨
    k = "from".toList ∨ k = "to".toList ∨ k = "ridentifier".toList ∧ r.ridentifier ≠ none ∨ k ∈ r.free := by
  have htail : k ∈ r.trailer → k = "ridentifier".toList ∧ r.ridentifier ≠ none ∨ k ∈ r.free := by
    intro hk
    unfold Rule.trailer at hk
    cases hi : r.ridentifier with
    | none =>
      rw [hi] at hk
      cases hk
    | some i =>
      rw [hi, Option.elim_some] at hk
      rcases mem_cons.mp hk with rfl | hk
      · exact .inl ⟨rfl, nofun⟩
      · refine .inr ?_
        unfold Rule.free
        rw [hi]
        exact mem_append_right _ hk
  have hfree : ∀ {w}, w = r.source.val ∨ w = r.dest.val ∨
      w ∈ (Rule.labelPieces r.labels).flatMap splitWhitespace → w ∈ r.free := by
    intro w hw
    unfold Rule.free
    simp only [mem_append, mem_cons, not_mem_nil, or_false]
    rcases hw with hw | hw | hw
    · exact .inl (.inl (.inr (.inl hw)))
    · exact .inl (.inl (.inr (.inr hw)))
    · exact .inl (.inr hw)
  rw [words_eq] at hk
  simp only [mem_append, mem_cons] at hk
  rcases hk with hk | hk | hk | hk | hk | hk | hk
  · rcases mem_fore hk with hleading | hon | hfree
    · exact .inl hleading
    · exact .inr (.inl hon)
    · exact .inr (.inr (.inr (.inr (.inr hfree))))
  · exact .inr (.inr (.inl hk))
  · exact .inr (.inr (.inr (.inr (.inr (hfree (.inl hk))))))
  · exact .inr (.inr (.inr (.inl hk)))
  · exact .inr (.inr (.inr (.inr (.inr (hfree (.inr (.inl hk)))))))
  · exact .inr (.inr (.inr (.inr (.inr (hfree (.inr (.inr hk)))))))
  · exact .inr (.inr (.inr (.inr (htail hk))))

theorem out_leading {r : Rule} (h : r.direction = .in_) : "out".toList ∉ r.leading := by
  unfold Rule.leading
  rw [h]
  cases r.modifier with
  | none => cases r.log <;> cases r.quick <;> decide
  | some m => cases m <;> cases r.log <;> cases r.quick <;> decide

theorem quick_leading {r : Rule} (h : r.quick = false) : "quick".toList ∉ r.leading := by
  unfold Rule.leading
  rw [h]
  cases r.modifier with
  | none => cases r.direction <;> cases r.log <;> decide
  | some m => cases m <;> cases r.direction <;> cases r.log <;> decide

/-- Where no free word is a keyword that is read, the rule is plain: its labels leave it alone. -/
theorem plain_of_quiet {r : Rule} (h : ∀ k ∈ readKeywords, k ∉ r.free) : Plain r := by
  have hleading : ∀ {k}, k ∉ ["return".toList, "drop".toList, "in".toList, "out".toList, "log".toList, "quick".toList] →
      k ∉ r.leading :=
    fun hk hmem => hk (r.leading_words _ hmem)
  have hfore : ∀ {k}, k ∈ readKeywords → k ∉ r.leading → k ≠ "on".toList → k ∉ r.fore := fun hk hlead hon hmem => by
    rcases mem_fore hmem with hmem | ⟨rfl, -⟩ | hmem
    · exact hlead hmem
    · exact hon rfl
    · exact h _ hk hmem
  have hsource : "to".toList ≠ r.source.val := by
    intro heq
    refine h "to".toList (by decide) ?_
    rw [heq]
    unfold Rule.free
    simp only [mem_append, mem_cons, true_or, or_true]
  constructor
  · intro hdirection hmem
    rcases mem_words hmem with hmem | ⟨heq, -⟩ | heq | heq | ⟨heq, -⟩ | hmem
    · exact out_leading hdirection hmem
    · exact absurd heq (by decide)
    · exact absurd heq (by decide)
    · exact absurd heq (by decide)
    · exact absurd heq (by decide)
    · exact h _ (by decide) hmem
  · intro hquick hmem
    rcases mem_words hmem with hmem | ⟨heq, -⟩ | heq | heq | ⟨heq, -⟩ | hmem
    · exact quick_leading hquick hmem
    · exact absurd heq (by decide)
    · exact absurd heq (by decide)
    · exact absurd heq (by decide)
    · exact absurd heq (by decide)
    · exact h _ (by decide) hmem
  · intro hinterface hmem
    rcases mem_words (mem_of_mem_dropLast hmem) with hmem | ⟨-, hsome⟩ | heq | heq | ⟨heq, -⟩ | hmem
    · exact hleading (by decide) hmem
    · exact hsome hinterface
    · exact absurd heq (by decide)
    · exact absurd heq (by decide)
    · exact absurd heq (by decide)
    · exact h _ (by decide) hmem
  · exact ⟨r.fore, _, words_eq r, hfore (by decide) (hleading (by decide)) (by decide)⟩
  · refine ⟨r.dest.val, ⟨r.fore ++ ["from".toList, r.source.val],
      (Rule.labelPieces r.labels).flatMap splitWhitespace ++ r.trailer, ?_, ?_⟩, rfl⟩
    · rw [words_eq]
      simp only [append_assoc, cons_append, nil_append]
    · intro hmem
      rcases mem_append.mp hmem with hmem | hmem
      · exact hfore (by decide) (hleading (by decide)) (by decide) hmem
      · rcases mem_cons.mp hmem with heq | hmem
        · exact absurd heq (by decide)
        · exact hsource (mem_singleton.mp hmem)
  · intro i hi
    refine ⟨r.head ++ (Rule.labelPieces r.labels).flatMap splitWhitespace, [], ?_, ?_⟩
    · unfold Rule.words Rule.trailer
      rw [hi]
      rfl
    · intro hmem
      have hquiet := h "ridentifier".toList (by decide)
      rcases mem_words (r := { r with ridentifier := none }) (k := "ridentifier".toList) (by
        unfold Rule.words Rule.trailer
        rw [Option.elim_none, append_nil]
        exact hmem) with hmem | ⟨heq, -⟩ | heq | heq | ⟨-, hsome⟩ | hmem
      · exact hleading (by decide) hmem
      · exact absurd heq (by decide)
      · exact absurd heq (by decide)
      · exact absurd heq (by decide)
      · exact hsome rfl
      · refine hquiet ?_
        unfold Rule.free at hmem ⊢
        rw [Option.toList_none, map_nil, append_nil] at hmem
        exact mem_append_left _ hmem
  · intro hid hmem
    rcases mem_words (mem_of_mem_dropLast hmem) with hmem | ⟨heq, -⟩ | heq | heq | ⟨-, hsome⟩ | hmem
    · exact hleading (by decide) hmem
    · exact absurd heq (by decide)
    · exact absurd heq (by decide)
    · exact absurd heq (by decide)
    · exact hsome hid
    · exact h _ (by decide) hmem

/-! ## A label that sends a rule out -/

/-- `block in on em0 from any to <t> label "let it out now"`. -/
def outwardLabel : Rule where
  index := none
  action := .block
  modifier := none
  direction := .in_
  log := false
  quick := false
  interface := some ⟨"em0".toList, by decide⟩
  qualifiers := []
  source := ⟨"any".toList, by decide⟩
  dest := ⟨"<t>".toList, by decide⟩
  labels := [⟨"let it out now".toList, by decide⟩]
  ridentifier := none

/-- An inbound rule whose label says "out" is answered as an outbound one. -/
theorem a_label_sends_a_rule_out : ∃ entries newline sshHost, ∃ selector : RuleSelector, ∃ e,
    entries.find? (fun e => selector.picks e) = some e ∧ e.rule.direction = .in_ ∧
      (findDeclaredDeny (dump entries newline) selector sshHost).direction = "out".toList ∧
      ¬Says (findDeclaredDeny (dump entries newline) selector sshHost) e := by
  have hout : (findDeclaredDeny (dump [⟨outwardLabel, []⟩] false) (.table "t".toList) []).direction =
      "out".toList := by decide
  refine ⟨[⟨outwardLabel, []⟩], false, [], .table "t".toList, ⟨outwardLabel, []⟩, rfl, rfl, hout, fun h => ?_⟩
  exact absurd (hout.symm.trans h.direction) (by decide)

/-! ## Quiet dumps -/

theorem faithful_of_quiet {entries : List Entry} (hquiet : ∀ e ∈ entries, ∀ k ∈ readKeywords, k ∉ e.rule.free)
    (hcounted : ∀ e ∈ entries, ∃ c, CounterLine.counts c ∈ e.counterLines.take 3)
    (selector : RuleSelector) : Faithful selector entries := by
  induction entries with
  | nil => trivial
  | cons e entries ih =>
    have hhead : Plain e.rule ∧ Near e entries :=
      ⟨plain_of_quiet (hquiet e mem_cons_self), .inl (hcounted e mem_cons_self)⟩
    have htail := ih (fun e he => hquiet e (mem_cons_of_mem _ he)) (fun e he => hcounted e (mem_cons_of_mem _ he))
    exact ⟨fun _ => hhead, fun _ _ => htail⟩

theorem trim_dump (e : Entry) (entries : List Entry) (newline : Bool) : trim (dump (e :: entries) newline) ≠ [] := by
  obtain ⟨c, line, hline⟩ := exists_cons_of_ne_nil e.rule.edged_line.1
  have hc : isWhitespace c = false := e.rule.edged_line.2.1 c (by rw [hline]; rfl)
  have hmem : c ∈ dump (e :: entries) newline := by
    unfold dump
    rw [linesOf_cons, hline]
    cases e.counterLines.map CounterLine.text ++ linesOf entries <;> simp
  exact ne_nil_of_mem ((Text.mem_trim_iff hc).mpr hmem)

/-- Where no free word of any rule is a keyword that is read, and each has its counters under it, the answer is that
    of the first rule that the selector picks by what the rule says. -/
theorem a_quiet_dump_is_searched_right {entries : List Entry}
    (hquiet : ∀ e ∈ entries, ∀ k ∈ readKeywords, k ∉ e.rule.free)
    (hcounted : ∀ e ∈ entries, ∃ c, CounterLine.counts c ∈ e.counterLines.take 3)
    (newline : Bool) (selector : RuleSelector)
    (sshHost : List Char) : Answers (findDeclaredDeny (dump entries newline) selector sshHost)
    (entries.find? selector.picks) := by
  have hanswers := fun source =>
    ((findIn_iff selector source entries).mpr (faithful_of_quiet hquiet hcounted selector)).2
  unfold findDeclaredDeny
  dsimp only
  rw [lines_dump]
  split
  · cases entries with
    | nil => nofun
    | cons e entries => exact absurd ‹_› (trim_dump e entries newline)
  · exact hanswers _

/-- `pass in on em0 from any to <t> label "quiet"` and `block in on em0 from any to <t> label "quiet"`,
    each with its counters. -/
def quietEntry (action : RuleAction) : Entry where
  rule := { outwardLabel with action, labels := [⟨"quiet".toList, by decide⟩] }
  counterLines :=
    let one : Number := ⟨['1'], by decide⟩
    [.counts ⟨one, one, one, one, 0, 0, 0, 0⟩]

/-- Of the two the first passes and is passed over. -/
theorem a_quiet_rule_is_found :
    Answers (findDeclaredDeny (dump [quietEntry .pass, quietEntry .block] true) (.table "t".toList) [])
      (some (quietEntry .block)) :=
  a_quiet_dump_is_searched_right (forall_mem_cons.mpr ⟨by decide, forall_mem_singleton.mpr (by decide)⟩)
    (forall_mem_cons.mpr ⟨⟨_, mem_cons_self⟩, forall_mem_singleton.mpr ⟨_, mem_cons_self⟩⟩)
    true (.table "t".toList) []

end Nq.DeclaredDeny
