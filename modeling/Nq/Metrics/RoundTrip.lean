/-
  Nq.Metrics.RoundTrip — the text format, written by an exporter and read back.

  `render` writes TYPE lines, HELP lines and samples as the format has them: label values
  escaped, everything else plain. The parser looks for the closing brace before it looks at
  quotes, and takes a TYPE line for every name that begins with the one it declares.

  - `parseLabels_renderLabels`, `parseLabels_joinOpen`: labels are read back, and up to
    where the text is cut off;
  - `sample_read`, `sample_misread`: a sample without and with a '}' in a label value;
  - `roundTrips_iff`: which expositions are read back.
-/

import Nq.Metrics.Exposition
import Nq.Sql.Table
import Nq.Text.Digits

namespace Nq.Metrics

open List
open Sql (F64)

/-! ## The format -/

def isNameStart (c : Char) : Bool := c.isAlpha || c == '_' || c == ':'

def isNameChar (c : Char) : Bool := isNameStart c || c.isDigit

/-- What float tokens, timestamps and metric types are written with. -/
def isPlain (c : Char) : Bool := c.isAlphanum || c == '+' || c == '-' || c == '.' || c == '_'

/-- A metric name. -/
structure Name where
  text : String
  start : ∀ c ∈ text.toList.head?, isNameStart c = true
  nonempty : text.toList ≠ []
  chars : ∀ c ∈ text.toList, isNameChar c = true

/-- A label name has no colon. -/
structure LabelName extends Name where
  plain : ':' ∉ text.toList

/-- A token without spaces. -/
structure Word where
  text : List Char
  nonempty : text ≠ []
  chars : ∀ c ∈ text, isPlain c = true

variable (parseF64 : List Char → Option F64)

structure Sample where
  name : Name
  labels : List (LabelName × String)
  distinct : (labels.map (·.1.text)).Nodup
  token : Word
  value : F64
  denotes : parseValue parseF64 token.text = some value
  timestamp : Option Word

inductive Entry where
  | help (name : Name) (doc : String)
  | type (name : Name) (kind : Word)
  | sample (s : Sample parseF64)

/-- A HELP text is escaped without its quotes. -/
def escapeDoc (c : Char) : List Char := if c = '\\' then ['\\', '\\'] else if c = '\n' then ['\\', 'n'] else [c]

def renderLabel (l : LabelName × String) : List Char :=
  l.1.text.toList ++ '=' :: '"' :: (escape l.2.toList ++ ['"'])

/-- Labels with a separator before each but the first. -/
def joinWith (sep : List Char) : List (LabelName × String) → List Char
  | [] => []
  | l :: ls => sep ++ (renderLabel l ++ joinWith [','] ls)

def renderLabels (labels : List (LabelName × String)) : List Char := joinWith [] labels

variable {parseF64}

/-- The value and the timestamp. -/
def Sample.tail (s : Sample parseF64) : List Char :=
  s.token.text ++ (s.timestamp.map fun t => ' ' :: t.text).getD []

def Sample.line (s : Sample parseF64) : List Char :=
  if s.labels = [] then s.name.text.toList ++ ' ' :: s.tail
  else s.name.text.toList ++ '{' :: (renderLabels s.labels ++ '}' :: ' ' :: s.tail)

def Entry.line : Entry parseF64 → List Char
  | .help name doc => "# HELP ".toList ++ (name.text.toList ++ ' ' :: doc.toList.flatMap escapeDoc)
  | .type name kind => "# TYPE ".toList ++ (name.text.toList ++ ' ' :: kind.text)
  | .sample s => s.line

def render (es : List (Entry parseF64)) : List Char := es.flatMap fun e => e.line ++ ['\n']

/-! ## What should be read -/

/-- The samples, each with the TYPE declarations before it, newest first. -/
def samplesFrom (decls : List (String × String)) : List (Entry parseF64) →
    List (List (String × String) × Sample parseF64)
  | [] => []
  | .help _ _ :: es => samplesFrom decls es
  | .type n k :: es => samplesFrom ((n.text, String.ofList k.text) :: decls) es
  | .sample s :: es => (decls, s) :: samplesFrom decls es

/-- A declaration covers the family: the name itself, or less one of the three suffixes. -/
def Covers (declared name : String) : Prop :=
  name = declared ∨ name = declared ++ "_bucket" ∨ name = declared ++ "_sum" ∨ name = declared ++ "_count"

instance (declared name : String) : Decidable (Covers declared name) := inferInstanceAs (Decidable (_ ∨ _))

/-- What the newest declaration that covers the family says. -/
def declaredType (decls : List (String × String)) (name : String) : Option String :=
  (decls.find? fun d => Covers d.1 name).map (·.2)

def labelMap (labels : List (LabelName × String)) (m : Labels) : Labels :=
  labels.foldl (fun m l => m.insert l.1.text l.2) m

structure Matches (ds : List (String × String) × Sample parseF64) (o : MetricSample) : Prop where
  name : o.name = ds.2.name.text
  labels : o.labels = labelMap ds.2.labels ∅
  value : o.value = ds.2.value
  type : ∀ t, o.metricType = some t → declaredType ds.1 ds.2.name.text = some t

/-- The samples, in order, and nothing else. -/
def RoundTrips (es : List (Entry parseF64)) : Prop :=
  ∃ out, parseExposition parseF64 (render es) = .ok out ∧ List.Forall₂ Matches (samplesFrom [] es) out

/-- No label value holds a closing brace, and where the newest TYPE line names a beginning of
    the sample's name, the family is declared of that type. -/
structure Readable (ds : List (String × String) × Sample parseF64) : Prop where
  braces : ∀ l ∈ ds.2.labels, '}' ∉ l.2.toList
  type : ∀ d ∈ ds.1.head?, d.1.toList <+: ds.2.name.text.toList → declaredType ds.1 ds.2.name.text = some d.2

/-! ## Characters -/

variable {c : Char} {a inner sep : List Char} {ls : List (LabelName × String)} {l : LabelName × String} (n : Name)
  (k : LabelName) (value : List Char) (s : Sample parseF64) (d : Declared) (e : Entry parseF64) (name : Name)
  (kind : Word) (doc : String) (decls : List (String × String))

theorem isAlphanum_lt (h : c.isAlphanum = true) : c.toNat < 128 := by
  change ((decide (c.val ≥ 'A'.val ∧ c.val ≤ 'Z'.val) || (c.val ≥ 'a'.val && c.val ≤ 'z'.val)) ||
    (c.val ≥ '0'.val && c.val ≤ '9'.val)) = true at h
  simp only [Bool.or_eq_true, Bool.and_eq_true, decide_eq_true_eq, UInt32.le_iff_toNat_le] at h
  have hn : c.toNat = c.val.toNat := rfl
  rw [hn]
  rcases h with (⟨_, h⟩ | ⟨_, h⟩) | ⟨_, h⟩ <;> exact Nat.lt_of_le_of_lt h (by decide)

theorem ascii {P : Char → Prop} (hall : ∀ n < 128, P (Char.ofNat n)) (h : c.toNat < 128) : P c := by
  have := hall c.toNat h
  rwa [Char.ofNat_toNat] at this

theorem isPlain_visible (h : isPlain c = true) : Text.isWhitespace c = false := by
  have hlt : c.toNat < 128 := by
    simp only [isPlain, Bool.or_eq_true, beq_iff_eq] at h
    rcases h with (((h | rfl) | rfl) | rfl) | rfl
    · exact isAlphanum_lt h
    all_goals decide
  exact ascii (P := fun c => isPlain c = true → Text.isWhitespace c = false) (by decide) hlt h

theorem isNameChar_visible (h : isNameChar c = true) : Text.isWhitespace c = false := by
  have hlt : c.toNat < 128 := by
    simp only [isNameChar, isNameStart, Bool.or_eq_true, beq_iff_eq] at h
    rcases h with ((h | rfl) | rfl) | h
    · exact isAlphanum_lt (by simp [Char.isAlphanum, h])
    · decide
    · decide
    · exact isAlphanum_lt (by simp [Char.isAlphanum, h])
  exact ascii (P := fun c => isNameChar c = true → Text.isWhitespace c = false) (by decide) hlt h

theorem Name.not_mem (h : isNameChar c = false) : c ∉ n.text.toList := by
  intro hc
  rw [n.chars c hc] at h
  cases h

theorem Word.not_mem (w : Word) (h : isPlain c = false) : c ∉ w.text := by
  intro hc
  rw [w.chars c hc] at h
  cases h

theorem Name.trim : Text.trim n.text.toList = n.text.toList :=
  Text.trim_eq_self (fun c hc => isNameChar_visible (n.chars c (mem_of_head? hc)))
    fun c hc => isNameChar_visible (n.chars c (mem_of_getLast? hc))

/-! ## Labels -/

/-- A label cut off in its value. -/
def openLabel (k : LabelName) (value : List Char) : List Char := k.text.toList ++ '=' :: '"' :: escape value

/-- A separator between labels, or none before the first. -/
def IsSeparator (sep : List Char) : Prop := sep = [] ∨ sep = [',']

/-- The loop up to the value of the next label. -/
theorem labelLoop_key (hsep : IsSeparator sep) (k : LabelName) (fuel : Nat) (quoted : List Char) (m : Labels) :
    labelLoop (fuel + 1) (sep ++ (k.text.toList ++ '=' :: '"' :: quoted)) m =
      labelLoop fuel (quotedValue quoted).2 (m.insert k.text (String.ofList (quotedValue quoted).1)) := by
  obtain ⟨c, cs, hk⟩ := exists_cons_of_ne_nil k.nonempty
  have hc : isNameChar c = true := k.chars c (by rw [hk]; exact mem_cons_self)
  have hstart : decide (c = ',' ∨ c = ' ') = false := by
    refine decide_eq_false ?_
    rintro (rfl | rfl) <;> revert hc <;> decide
  have hskip : (sep ++ (k.text.toList ++ '=' :: '"' :: quoted)).dropWhile (fun c => decide (c = ',' ∨ c = ' ')) =
      k.text.toList ++ '=' :: '"' :: quoted := by
    rw [hk]
    rcases hsep with rfl | rfl
    · exact dropWhile_cons_of_neg (by simp [hstart])
    · rw [singleton_append, dropWhile_cons_of_pos (by decide)]
      exact dropWhile_cons_of_neg (by simp [hstart])
  have hequal : ∀ d ∈ k.text.toList, decide (d ≠ '=') = true := by
    intro d hd
    refine decide_eq_true ?_
    rintro rfl
    exact k.not_mem (by decide) hd
  have hno : decide ('=' ≠ '=') = false := by decide
  have hne : k.text.toList ++ '=' :: '"' :: quoted ≠ [] := by simp
  rw [labelLoop]
  simp only [hskip, if_neg hne]
  rw [Text.dropWhile_append_cons hequal hno, Text.takeWhile_append_cons hequal hno, k.trim, String.ofList_toList]
  rfl

theorem labelLoop_label (hsep : IsSeparator sep) (l : LabelName × String) (fuel : Nat) (rest : List Char) (m : Labels) :
    labelLoop (fuel + 1) (sep ++ (renderLabel l ++ rest)) m = labelLoop fuel rest (m.insert l.1.text l.2) := by
  have hshape : sep ++ (renderLabel l ++ rest) = sep ++
      (l.1.text.toList ++ '=' :: '"' :: (escape l.2.toList ++ '"' :: rest)) := by
    simp [renderLabel]
  rw [hshape, labelLoop_key hsep, quotedValue_escaped, String.ofList_toList]

theorem labelLoop_nil (fuel : Nat) (m : Labels) : labelLoop fuel [] m = m := by
  cases fuel with
  | zero => rfl
  | succ fuel => rfl

theorem labelLoop_joinWith : ∀ {sep : List Char} {fuel : Nat} {m : Labels}, IsSeparator sep →
    ls.length ≤ fuel → labelLoop fuel (joinWith sep ls) m = labelMap ls m := by
  induction ls with
  | nil => intro sep fuel m _ _; exact labelLoop_nil fuel m
  | cons l ls ih =>
    intro sep fuel m hsep hfuel
    rw [List.length_cons] at hfuel
    obtain ⟨fuel, rfl⟩ : ∃ n, fuel = n + 1 := ⟨fuel - 1, by omega⟩
    rw [joinWith, labelLoop_label hsep, ih (.inr rfl) (by omega)]
    rfl

theorem length_joinWith (sep : List Char) (ls : List (LabelName × String)) : ls.length ≤ (joinWith sep ls).length := by
  induction ls generalizing sep with
  | nil => exact Nat.le_refl _
  | cons l ls ih =>
    have := ih [',']
    simp only [joinWith, renderLabel, List.length_append, List.length_cons, List.length_nil]
    omega

/-- Labels written by the format are read back. -/
theorem parseLabels_renderLabels (ls : List (LabelName × String)) : parseLabels (renderLabels ls) = labelMap ls ∅ :=
  labelLoop_joinWith (.inl rfl) (Nat.le_succ_of_le (length_joinWith [] ls))

/-- Labels, the last cut off in its value. -/
def joinOpen (sep : List Char) (k : LabelName) (value : List Char) : List (LabelName × String) → List Char
  | [] => sep ++ openLabel k value
  | l :: ls => sep ++ (renderLabel l ++ joinOpen [','] k value ls)

theorem labelLoop_joinOpen :
    ∀ {sep : List Char} {fuel : Nat} {m : Labels}, IsSeparator sep → ls.length + 1 ≤ fuel →
      labelLoop fuel (joinOpen sep k value ls) m = (labelMap ls m).insert k.text (String.ofList value) := by
  induction ls with
  | nil =>
    intro sep fuel m hsep hfuel
    obtain ⟨fuel, rfl⟩ : ∃ n, fuel = n + 1 := ⟨fuel - 1, by simp at hfuel; omega⟩
    rw [joinOpen, openLabel, labelLoop_key hsep, quotedValue_open, labelLoop_nil]
    rfl
  | cons l ls ih =>
    intro sep fuel m hsep hfuel
    rw [List.length_cons] at hfuel
    obtain ⟨fuel, rfl⟩ : ∃ n, fuel = n + 1 := ⟨fuel - 1, by omega⟩
    rw [joinOpen, labelLoop_label hsep, ih (.inr rfl) (by omega)]
    rfl

theorem length_joinOpen (sep : List Char) (k : LabelName) (value : List Char) (ls : List (LabelName × String)) :
    ls.length + 1 ≤ (joinOpen sep k value ls).length := by
  induction ls generalizing sep with
  | nil =>
    simp only [joinOpen, openLabel, List.length_append, List.length_cons, List.length_nil]
    omega
  | cons l ls ih =>
    have := ih [',']
    simp only [joinOpen, renderLabel, List.length_append, List.length_cons, List.length_nil]
    omega

/-- The label cut off is read up to there. -/
theorem parseLabels_joinOpen (ls : List (LabelName × String)) :
    parseLabels (joinOpen [] k value ls) = (labelMap ls ∅).insert k.text (String.ofList value) :=
  labelLoop_joinOpen k value (.inl rfl) (Nat.le_succ_of_le (length_joinOpen [] k value ls))

/-! ## Label maps -/

theorem lookup_labelMap_of_not_mem {k : String} (h : k ∉ ls.map (·.1.text)) :
    ∀ m, (labelMap ls m).lookup k = m.lookup k := by
  induction ls with
  | nil => intro m; rfl
  | cons l ls ih =>
    intro m
    rw [List.map_cons, List.mem_cons, not_or] at h
    show (labelMap ls (m.insert l.1.text l.2)).lookup k = _
    rw [ih h.2, Finmap.lookup_insert_of_ne _ h.1]

/-- A label map holds the labels it is made of. -/
theorem lookup_labelMap (hn : (ls.map (·.1.text)).Nodup) (hl : l ∈ ls) :
    ∀ m, (labelMap ls m).lookup l.1.text = some l.2 := by
  induction ls with
  | nil => cases hl
  | cons l' ls ih =>
    intro m
    rw [List.map_cons, List.nodup_cons] at hn
    rcases List.mem_cons.mp hl with rfl | hl
    · show (labelMap ls (m.insert l.1.text l.2)).lookup l.1.text = _
      rw [lookup_labelMap_of_not_mem hn.1, Finmap.lookup_insert]
    · exact ih hn.2 hl _

/-! ## One sample -/

theorem tail_ends :
    s.tail ≠ [] ∧ (∀ c ∈ s.tail.head?, Text.isWhitespace c = false) ∧ ∀ c ∈ s.tail.getLast?, isPlain c = true := by
  have hne : s.tail ≠ [] := by
    intro h
    exact s.token.nonempty (List.append_eq_nil_iff.mp h).1
  refine ⟨hne, fun c hc => ?_, fun c hc => ?_⟩
  · rw [Sample.tail, List.head?_append_of_ne_nil _ s.token.nonempty] at hc
    exact isPlain_visible (s.token.chars c (List.mem_of_head? hc))
  · unfold Sample.tail at hc
    cases ht : s.timestamp with
    | none =>
      rw [ht, Option.map_none, Option.getD_none, List.append_nil] at hc
      exact s.token.chars c (List.mem_of_getLast? hc)
    | some t =>
      rw [ht, Option.map_some, Option.getD_some, List.append_cons, List.getLast?_append_of_ne_nil _ t.nonempty] at hc
      exact t.chars c (List.mem_of_getLast? hc)

theorem tail_not_mem (h : isPlain c = false) (hspace : c ≠ ' ') : c ∉ s.tail := by
  unfold Sample.tail
  rw [List.mem_append, not_or]
  refine ⟨s.token.not_mem h, ?_⟩
  cases s.timestamp with
  | none => exact List.not_mem_nil
  | some t =>
    rw [Option.map_some, Option.getD_some, List.mem_cons, not_or]
    exact ⟨hspace, t.not_mem h⟩

theorem trim_tail : Text.trim s.tail = s.tail :=
  Text.trim_eq_self (tail_ends s).2.1 fun c hc => isPlain_visible ((tail_ends s).2.2 c hc)

theorem trim_space_tail : Text.trim (' ' :: s.tail) = s.tail := by
  unfold Text.trim
  rw [List.dropWhile_cons_of_pos (by decide)]
  exact trim_tail s

theorem firstToken_tail : Text.firstToken s.tail = some s.token.text := by
  refine Text.firstToken_append s.token.nonempty (fun c hc => isPlain_visible (s.token.chars c hc)) _ ?_
  cases s.timestamp with
  | none => exact .inl rfl
  | some t => exact .inr ⟨t.text, rfl⟩

/-- The type a sample is given. -/
def attributed (d : Declared) (name : String) : Option String :=
  d.metricType.filter fun _ => (d.typeName.map fun tn => tn.toList.isPrefixOf name.toList).getD false

theorem finishSample_tail (labels : Labels) :
    finishSample parseF64 d s.name.text.toList labels s.tail =
      some ⟨s.name.text, labels, s.value, attributed d s.name.text, none, none⟩ := by
  unfold finishSample
  rw [firstToken_tail]
  simp only [Option.bind_eq_bind, Option.bind_some, s.denotes, String.ofList_toList]
  rfl

theorem findIdx?_none (ha : c ∉ a) : a.findIdx? (· = c) = none := by
  rw [List.findIdx?_eq_none_iff]
  intro d hd
  exact decide_eq_false (ne_of_mem_of_not_mem hd ha)

theorem findIdx?_append_cons (ha : c ∉ a) (rest : List Char) : (a ++ c :: rest).findIdx? (· = c) = some a.length := by
  rw [List.findIdx?_append, findIdx?_none ha]
  simp [List.findIdx?_cons]

/-- A line is cut at its first braces where they are in order. -/
theorem parseSampleLine_braces {name : List Char} (hopen : '{' ∉ name) (hclosed : '}' ∉ name) (hinner : '}' ∉ inner)
    (rest : List Char) :
    parseSampleLine parseF64 d (name ++ '{' :: (inner ++ '}' :: rest)) =
      .ok (finishSample parseF64 d name (parseLabels inner) (Text.trim rest)) := by
  have hassoc : name ++ '{' :: (inner ++ '}' :: rest) = (name ++ '{' :: inner) ++ '}' :: rest := by simp
  have hclose : (name ++ '{' :: (inner ++ '}' :: rest)).findIdx? (· = '}') = some (name ++ '{' :: inner).length := by
    rw [hassoc]
    refine findIdx?_append_cons ?_ rest
    rw [List.mem_append, List.mem_cons, not_or, not_or]
    exact ⟨hclosed, by decide, hinner⟩
  unfold parseSampleLine
  rw [findIdx?_append_cons hopen, hclose]
  show (if _ then _ else _) = _
  have hlen : (name ++ '{' :: inner).length = name.length + 1 + inner.length := by
    rw [List.length_append, List.length_cons]
    omega
  rw [if_neg (by omega)]
  have hinside : ((name ++ '{' :: (inner ++ '}' :: rest)).take (name ++ '{' :: inner).length).drop
      (name.length + 1) = inner := by
    rw [hassoc, List.take_left, List.append_cons, List.drop_left' (by simp)]
  have hbefore : (name ++ '{' :: (inner ++ '}' :: rest)).take name.length = name := List.take_left
  have hafter : (name ++ '{' :: (inner ++ '}' :: rest)).drop ((name ++ '{' :: inner).length + 1) = rest := by
    rw [hassoc]
    generalize name ++ '{' :: inner = before
    rw [List.append_cons, List.drop_left' (by simp)]
  simp only [hinside, hbefore, hafter]

theorem parseSampleLine_braced (n : Name) (hinner : '}' ∉ inner) (rest : List Char) :
    parseSampleLine parseF64 d (n.text.toList ++ '{' :: (inner ++ '}' :: rest)) =
      .ok (finishSample parseF64 d n.text.toList (parseLabels inner) (Text.trim rest)) :=
  parseSampleLine_braces d (n.not_mem (by decide)) (n.not_mem (by decide)) hinner rest

theorem escape_append (a b : List Char) : escape (a ++ b) = escape a ++ escape b := List.flatMap_append

theorem brace_mem_escape {value : List Char} : '}' ∈ escape value ↔ '}' ∈ value := by
  have hchar : ∀ c, '}' ∈ escapeChar c ↔ '}' = c := by
    intro c
    unfold escapeChar
    split
    · subst c; decide
    · split
      · subst c; decide
      · split
        · subst c; decide
        · exact List.mem_singleton
  unfold escape
  rw [List.mem_flatMap]
  constructor
  · rintro ⟨c, hc, h⟩
    exact (hchar c).mp h ▸ hc
  · exact fun h => ⟨'}', h, (hchar '}').mpr rfl⟩

theorem brace_not_mem_label (h : '}' ∉ l.2.toList) : '}' ∉ renderLabel l := by
  unfold renderLabel
  simp only [List.mem_append, List.mem_cons, not_or]
  exact ⟨l.1.not_mem (by decide), by decide, by decide, fun hmem =>
    h (brace_mem_escape.mp hmem), by decide, List.not_mem_nil⟩

theorem separator_not_mem (hsep : IsSeparator sep) : '}' ∉ sep := by
  rcases hsep with rfl | rfl <;> decide

theorem brace_not_mem_joinWith (h : ∀ l ∈ ls, '}' ∉ l.2.toList) :
    ∀ {sep : List Char}, IsSeparator sep → '}' ∉ joinWith sep ls := by
  induction ls with
  | nil => intro sep _; exact List.not_mem_nil
  | cons l ls ih =>
    intro sep hsep
    rw [joinWith, List.mem_append, List.mem_append, not_or, not_or]
    exact ⟨separator_not_mem hsep, brace_not_mem_label (h l (by simp)),
      ih (fun l' hl' => h l' (List.mem_cons_of_mem _ hl')) (.inr rfl)⟩

/-- Labels one of whose values holds a brace, up to the first such brace. -/
theorem joinWith_brace (h : ∃ l ∈ ls, '}' ∈ l.2.toList) :
    ∀ {sep : List Char}, IsSeparator sep → ∃ before l after value cut rest, ls = before ++ l :: after ∧
      l.2.toList = value ++ '}' :: cut ∧ joinWith sep ls = joinOpen sep l.1 value before ++ '}' :: rest ∧
      '}' ∉ joinOpen sep l.1 value before := by
  induction ls with
  | nil =>
    obtain ⟨l, hl, -⟩ := h
    cases hl
  | cons l ls ih =>
    intro sep hsep
    by_cases hbrace : '}' ∈ l.2.toList
    · obtain ⟨value, cut, hsplit, hvalue⟩ := List.eq_append_cons_of_mem hbrace
      refine ⟨[], l, ls, value, cut, escape cut ++ '"' :: joinWith [','] ls, rfl, hsplit, ?_, ?_⟩
      · have hescape : escape l.2.toList = escape value ++ '}' :: escape cut := by
          rw [hsplit, escape_append]
          rfl
        rw [joinWith, joinOpen, renderLabel, openLabel, hescape]
        simp
      · rw [joinOpen, openLabel]
        simp only [mem_append, mem_cons, not_or]
        exact ⟨separator_not_mem hsep, l.1.not_mem (by decide),
          by decide, by decide, fun hmem => hvalue (brace_mem_escape.mp hmem)⟩
    · have hrest : ∃ l ∈ ls, '}' ∈ l.2.toList := by
        obtain ⟨l', hl', hmem⟩ := h
        rcases mem_cons.mp hl' with rfl | hl'
        · exact absurd hmem hbrace
        · exact ⟨l', hl', hmem⟩
      obtain ⟨before, l', after, value, cut, rest, rfl, hvalue, hjoin, hno⟩ := ih hrest (.inr rfl)
      refine ⟨l :: before, l', after, value, cut, rest, rfl, hvalue, ?_, ?_⟩
      · rw [joinWith, hjoin, joinOpen]
        simp
      · rw [joinOpen, mem_append, mem_append, not_or, not_or]
        exact ⟨separator_not_mem hsep, brace_not_mem_label hbrace, hno⟩

/-- A sample without a brace in its labels is read. -/
theorem sample_read (h : ∀ l ∈ s.labels, '}' ∉ l.2.toList) :
    parseSampleLine parseF64 d s.line =
      .ok (some ⟨s.name.text, labelMap s.labels ∅, s.value, attributed d s.name.text, none, none⟩) := by
  unfold Sample.line
  by_cases hlabels : s.labels = []
  · rw [if_pos hlabels, hlabels]
    have hopen : (s.name.text.toList ++ ' ' :: s.tail).findIdx? (· = '{') = none := by
      refine findIdx?_eq_none_iff.mpr fun x hx => decide_eq_false ?_
      rintro rfl
      rw [mem_append, mem_cons] at hx
      rcases hx with hx | hx | hx
      · exact s.name.not_mem (by decide) hx
      · revert hx
        decide
      · exact tail_not_mem s (by decide) (by decide) hx
    unfold parseSampleLine
    rw [hopen]
    dsimp only
    rw [Text.splitn_append (s.name.not_mem (by decide))]
    show Except.ok (finishSample parseF64 d s.name.text.toList ∅ (Text.trim s.tail)) = _
    rw [trim_tail, finishSample_tail]
    rfl
  · have hbrace : '}' ∉ renderLabels s.labels := brace_not_mem_joinWith h (.inl rfl)
    rw [if_neg hlabels, parseSampleLine_braced d s.name hbrace, trim_space_tail, parseLabels_renderLabels,
      finishSample_tail]

/-- A sample with one is not: the label that holds it is cut short. -/
theorem sample_misread (h : ∃ l ∈ s.labels, '}' ∈ l.2.toList) {o : MetricSample}
    (ho : parseSampleLine parseF64 d s.line = .ok (some o)) : o.labels ≠ labelMap s.labels ∅ := by
  have hlabels : s.labels ≠ [] := by
    obtain ⟨l, hl, -⟩ := h
    exact ne_nil_of_mem hl
  obtain ⟨before, l, after, value, cut, rest, hsplit, hvalue, hjoin, hno⟩ := joinWith_brace h (.inl rfl)
  have hline : s.line = s.name.text.toList ++
      '{' :: (joinOpen [] l.1 value before ++ '}' :: (rest ++ '}' :: ' ' :: s.tail)) := by
    unfold Sample.line renderLabels
    rw [if_neg hlabels, hjoin]
    simp
  rw [hline, parseSampleLine_braced d s.name hno, parseLabels_joinOpen] at ho
  have hread : o.labels = (labelMap before ∅).insert l.1.text (String.ofList value) := by
    have ho := Except.ok.inj ho
    unfold finishSample at ho
    obtain ⟨token, -, ho⟩ := Option.bind_eq_some_iff.mp ho
    obtain ⟨v, -, ho⟩ := Option.bind_eq_some_iff.mp ho
    cases ho
    rfl
  intro hsame
  have hwant := lookup_labelMap s.distinct (l := l) (by rw [hsplit]; simp) ∅
  rw [← hsame, hread, Finmap.lookup_insert] at hwant
  have hshort := congrArg String.toList (Option.some.inj hwant)
  rw [String.toList_ofList, hvalue] at hshort
  have := congrArg List.length hshort
  rw [length_append, length_cons] at this
  omega

/-! ## Lines -/

theorem stripReturn_of_last {l : List Char} (h : ∀ c ∈ l.getLast?, c ≠ '\r') : Text.stripReturn l = l := by
  have hne : ¬l.getLast? = some '\r' := fun hr => h '\r' hr rfl
  exact if_neg hne

theorem trim_line {l : List Char} (hhead : ∀ c ∈ l.head?, Text.isWhitespace c = false)
    (hlast : ∀ c ∈ l.getLast?, isPlain c = true) : Text.trim (Text.stripReturn l) = l := by
  rw [stripReturn_of_last fun c hc hr => ?_, Text.trim_eq_self hhead fun c hc => isPlain_visible (hlast c hc)]
  have := hlast c hc
  rw [hr] at this
  revert this
  decide

theorem getLast?_append_cons {α : Type} (a : List α) (b : α)
    {c : List α} (hc : c ≠ []) : (a ++ b :: c).getLast? = c.getLast? := by
  rw [append_cons, getLast?_append_of_ne_nil _ hc]

/-- A sample's line begins with its name and ends with the last word. -/
theorem sample_line_ends :
    (∃ c cs, s.line = c :: cs ∧ isNameChar c = true) ∧ ∀ c ∈ s.line.getLast?, isPlain c = true := by
  obtain ⟨c, cs, hname⟩ := exists_cons_of_ne_nil s.name.nonempty
  have hc : isNameChar c = true := s.name.chars c (by rw [hname]; exact mem_cons_self)
  obtain ⟨hne, -, hlast⟩ := tail_ends s
  unfold Sample.line
  split
  · exact ⟨⟨c, _, by rw [hname]; rfl, hc⟩, by rw [getLast?_append_cons _ _ hne]; exact hlast⟩
  · refine ⟨⟨c, _, by rw [hname]; rfl, hc⟩, ?_⟩
    rw [getLast?_append_cons _ _ (by simp), getLast?_append_cons _ _ (by simp), getLast?_cons_of_ne_nil hne]
    exact hlast

theorem newline_not_mem_doc (doc : List Char) : '\n' ∉ doc.flatMap escapeDoc := by
  rw [mem_flatMap]
  rintro ⟨c, -, hc⟩
  unfold escapeDoc at hc
  split at hc
  · revert hc; decide
  · split at hc
    · revert hc; decide
    · rename_i hn
      exact hn (mem_singleton.mp hc).symm

theorem newline_not_mem_escape : '\n' ∉ escape value := by
  unfold escape
  rw [mem_flatMap]
  rintro ⟨c, -, hc⟩
  unfold escapeChar at hc
  split at hc
  · revert hc; decide
  · split at hc
    · revert hc; decide
    · split at hc
      · revert hc; decide
      · rename_i hn
        exact hn (mem_singleton.mp hc).symm

theorem newline_not_mem_joinWith (ls : List (LabelName × String)) : ∀ {sep : List Char}, IsSeparator sep →
    '\n' ∉ joinWith sep ls := by
  induction ls with
  | nil => intro sep _; exact not_mem_nil
  | cons l ls ih =>
    intro sep hsep
    have hsepn : '\n' ∉ sep := by rcases hsep with rfl | rfl <;> decide
    rw [joinWith, renderLabel]
    simp only [mem_append, mem_cons, not_or]
    exact ⟨hsepn, ⟨l.1.not_mem (by decide), by decide, by decide,
      newline_not_mem_escape _, by decide, not_mem_nil⟩, ih (.inr rfl)⟩

theorem newline_not_mem_sample : '\n' ∉ s.line := by
  have htail : '\n' ∉ s.tail := tail_not_mem s (by decide) (by decide)
  have hname : '\n' ∉ s.name.text.toList := s.name.not_mem (by decide)
  unfold Sample.line
  split
  · rw [mem_append, mem_cons, not_or, not_or]
    exact ⟨hname, by decide, htail⟩
  · simp only [mem_append, mem_cons, not_or]
    exact ⟨hname, by decide, newline_not_mem_joinWith _ (.inl rfl), by decide, by decide, htail⟩

/-- An entry is one line. -/
theorem newline_not_mem_line : '\n' ∉ e.line := by
  cases e with
  | help name doc =>
    have hname : '\n' ∉ name.text.toList := name.not_mem (by decide)
    have hmark : '\n' ∉ "# HELP ".toList := by simp
    unfold Entry.line
    rw [mem_append, mem_append, mem_cons, not_or, not_or, not_or]
    exact ⟨hmark, hname, by decide, newline_not_mem_doc _⟩
  | type name kind =>
    have hname : '\n' ∉ name.text.toList := name.not_mem (by decide)
    have hmark : '\n' ∉ "# TYPE ".toList := by simp
    unfold Entry.line
    rw [mem_append, mem_append, mem_cons, not_or, not_or, not_or]
    exact ⟨hmark, hname, by decide, kind.not_mem (by decide)⟩
  | sample s => exact newline_not_mem_sample s

theorem lines_render (es : List (Entry parseF64)) :
    Text.lines (render (e :: es)) = Text.stripReturn e.line :: Text.lines (render es) := by
  have hshape : render (e :: es) = e.line ++ '\n' :: render es := by simp [render]
  rw [hshape, Text.lines_append (newline_not_mem_line e)]

/-! ## Reading a line -/

def declaredOf (decls : List (String × String)) : Declared := ⟨decls.head?.map (·.1), decls.head?.map (·.2)⟩

theorem line_type : (Entry.type name kind : Entry parseF64).line =
    '#' :: (' ' :: (['T', 'Y', 'P', 'E'] ++ ' ' :: (name.text.toList ++ ' ' :: kind.text))) := by
  have hmark : "# TYPE ".toList = '#' :: ' ' :: (['T', 'Y', 'P', 'E'] ++ [' ']) := by simp
  unfold Entry.line
  rw [hmark]
  simp

theorem line_help : (Entry.help name doc : Entry parseF64).line =
    ['#', ' ', 'H', 'E', 'L', 'P'] ++ ' ' :: (name.text.toList ++ ' ' :: doc.toList.flatMap escapeDoc) := by
  have hmark : "# HELP ".toList = ['#', ' ', 'H', 'E', 'L', 'P'] ++ [' '] := by simp
  unfold Entry.line
  rw [hmark]
  simp

theorem parseLines_help (es : List (Entry parseF64)) :
    parseLines parseF64 d (Text.lines (render (.help name doc :: es))) =
      parseLines parseF64 d (Text.lines (render es)) := by
  obtain ⟨r, hr⟩ := Text.trim_stripReturn_append (a := ['#', ' ', 'H', 'E', 'L', 'P']) (by simp)
    (by simp [Text.isWhitespace]) (by simp [Text.isWhitespace])
    (' ' :: (name.text.toList ++ ' ' :: doc.toList.flatMap escapeDoc))
  have hhelp : "# HELP".toList = ['#', ' ', 'H', 'E', 'L', 'P'] := by simp
  rw [lines_render, parseLines, line_help, hr]
  have hne : ['#', ' ', 'H', 'E', 'L', 'P'] ++ r ≠ [] := by simp
  have hmark : "# HELP".toList.isPrefixOf (['#', ' ', 'H', 'E', 'L', 'P'] ++ r) = true := by
    rw [hhelp, isPrefixOf_iff_prefix]
    exact prefix_append _ _
  simp only [if_neg hne, if_pos hmark]

theorem parseLines_type (es : List (Entry parseF64)) :
    parseLines parseF64 d (Text.lines (render (.type name kind :: es))) =
      parseLines parseF64 ⟨some name.text, some (String.ofList kind.text)⟩ (Text.lines (render es)) := by
  have hline : Text.trim (Text.stripReturn (Entry.type name kind : Entry parseF64).line) =
      (Entry.type name kind : Entry parseF64).line := by
    rw [line_type]
    refine trim_line (fun c hc => ?_) fun c hc => ?_
    · obtain rfl := Option.some.inj hc
      decide
    · rw [← cons_append, ← cons_append, ← cons_append, ← append_assoc,
        getLast?_append_cons _ _ kind.nonempty] at hc
      exact kind.chars c (mem_of_getLast? hc)
  rw [lines_render, parseLines, hline, line_type]
  have hhelp : "# HELP".toList = ['#', ' ', 'H', 'E', 'L', 'P'] := by simp
  have htype : "# TYPE".toList = ['#', ' ', 'T', 'Y', 'P', 'E'] := by simp
  have hsplit : Text.splitn 4 ' ' ('#' ::
    (' ' :: (['T', 'Y', 'P', 'E'] ++ ' ' :: (name.text.toList ++ ' ' :: kind.text)))) =
      [['#'], ['T', 'Y', 'P', 'E'], name.text.toList, kind.text] := by
    have hhash : '#' :: (' ' :: (['T', 'Y', 'P', 'E'] ++ ' ' :: (name.text.toList ++ ' ' :: kind.text))) =
        ['#'] ++ ' ' :: (['T', 'Y', 'P', 'E'] ++ ' ' :: (name.text.toList ++ ' ' :: kind.text)) := rfl
    rw [hhash, Text.splitn_append (by decide), Text.splitn_append (by decide),
      Text.splitn_append (name.not_mem (by decide))]
    rfl
  have hne : '#' :: (' ' :: (['T', 'Y', 'P', 'E'] ++ ' ' :: (name.text.toList ++ ' ' :: kind.text))) ≠ [] :=
    cons_ne_nil _ _
  have hnohelp : ¬(['#', ' ', 'H', 'E', 'L', 'P'].isPrefixOf
      ('#' :: (' ' :: (['T', 'Y', 'P', 'E'] ++ ' ' :: (name.text.toList ++ ' ' :: kind.text)))) = true) := by
    simp [List.isPrefixOf]
  have hpre : ['#', ' ', 'T', 'Y', 'P', 'E'].isPrefixOf
      ('#' :: (' ' :: (['T', 'Y', 'P', 'E'] ++ ' ' :: (name.text.toList ++ ' ' :: kind.text)))) = true := by
    simp [List.isPrefixOf]
  simp only [hhelp, htype, if_neg hne, if_neg hnohelp, if_pos hpre, hsplit, String.ofList_toList]

theorem parseLines_sample (s : Sample parseF64) (es : List (Entry parseF64)) :
    parseLines parseF64 d (Text.lines (render (.sample s :: es))) = (do
      let sample ← parseSampleLine parseF64 d s.line
      let samples ← parseLines parseF64 d (Text.lines (render es))
      return sample.toList ++ samples) := by
  obtain ⟨⟨c, cs, hs, hc⟩, hlast⟩ := sample_line_ends s
  have hline : Text.trim (Text.stripReturn (Entry.line (.sample s))) = s.line := by
    refine trim_line (fun c' hc' => ?_) hlast
    have hhead : s.line.head? = some c' := hc'
    rw [hs, head?_cons, Option.some.injEq] at hhead
    exact isNameChar_visible (hhead ▸ hc)
  have hmark : c ≠ '#' := by
    rintro rfl
    revert hc
    decide
  rw [lines_render, parseLines, hline]
  have hne : s.line ≠ [] := by rw [hs]; exact cons_ne_nil _ _
  have hno : ∀ p, ¬(('#' :: p).isPrefixOf s.line = true) := by
    intro p h
    rw [hs, isPrefixOf_iff_prefix, cons_prefix_cons] at h
    exact hmark h.1.symm
  have hhelp : "# HELP".toList = '#' :: " HELP".toList := by simp
  have htype : "# TYPE".toList = '#' :: " TYPE".toList := by simp
  simp only [if_neg hne, hhelp, htype, if_neg (hno _)]

/-! ## An exposition -/

theorem attributed_iff (name t : String) :
    attributed (declaredOf decls) name = some t ↔ ∃ d ∈ decls.head?, d.1.toList <+: name.toList ∧ d.2 = t := by
  unfold attributed declaredOf
  cases decls.head? with
  | none => simp
  | some d =>
    simp only [Option.map_some, Option.getD_some, Option.filter_eq_some_iff, Option.some.injEq, Option.mem_def,
      isPrefixOf_iff_prefix, exists_eq_left']
    exact and_comm

/-- What is read of a sample without a brace in its labels. -/
theorem matches_iff (s : Sample parseF64) :
    Matches (decls, s) ⟨s.name.text, labelMap s.labels ∅, s.value,
      attributed (declaredOf decls) s.name.text, none, none⟩ ↔
      ∀ d ∈ decls.head?, d.1.toList <+: s.name.text.toList → declaredType decls s.name.text = some d.2 := by
  constructor
  · intro h d hd hpre
    exact h.type d.2 ((attributed_iff decls s.name.text d.2).mpr ⟨d, hd, hpre, rfl⟩)
  · intro h
    refine ⟨rfl, rfl, rfl, fun t ht => ?_⟩
    obtain ⟨d, hd, hpre, rfl⟩ := (attributed_iff decls s.name.text t).mp ht
    exact h d hd hpre

/-- No line yields more than one sample. -/
theorem length_parseLines {es : List (Entry parseF64)} :
    ∀ {d : Declared} {decls : List (String × String)} {out : List MetricSample},
    parseLines parseF64 d (Text.lines (render es)) = .ok out → out.length ≤ (samplesFrom decls es).length := by
  induction es with
  | nil => intro d decls out h; cases h; exact Nat.le_refl _
  | cons e es ih =>
    intro d decls out h
    cases e with
    | help name doc =>
      rw [parseLines_help] at h
      exact ih h
    | type name kind =>
      rw [parseLines_type] at h
      exact ih h
    | sample s =>
      rw [parseLines_sample] at h
      obtain ⟨sample, -, h⟩ := Sql.bind_ok.mp h
      obtain ⟨samples, hrest, h⟩ := Sql.bind_ok.mp h
      cases h
      have : samples.length ≤ (samplesFrom decls es).length := ih hrest
      rw [samplesFrom, length_cons, length_append]
      cases sample with
      | none => simp only [Option.toList_none, length_nil]; omega
      | some o => simp only [Option.toList_some, length_cons, length_nil]; omega

theorem reads_iff {es : List (Entry parseF64)} : ∀ {decls : List (String × String)},
    (∃ out, parseLines parseF64 (declaredOf decls) (Text.lines (render es)) = .ok out ∧
      List.Forall₂ Matches (samplesFrom decls es) out) ↔ ∀ ds ∈ samplesFrom decls es, Readable ds := by
  induction es with
  | nil =>
    intro decls
    refine ⟨fun _ ds hds => absurd hds not_mem_nil, fun _ => ⟨[], rfl, .nil⟩⟩
  | cons e es ih =>
    intro decls
    cases e with
    | help name doc =>
      rw [parseLines_help]
      exact ih
    | type name kind =>
      rw [parseLines_type]
      exact @ih ((name.text, String.ofList kind.text) :: decls)
    | sample s =>
      rw [parseLines_sample, samplesFrom, forall_mem_cons, ← ih]
      constructor
      · rintro ⟨out, h, hmatch⟩
        obtain ⟨sample, hsample, h⟩ := Sql.bind_ok.mp h
        obtain ⟨samples, hrest, h⟩ := Sql.bind_ok.mp h
        cases h
        cases sample with
        | none =>
          have hlen := hmatch.length_eq
          have : samples.length ≤ (samplesFrom decls es).length := length_parseLines hrest
          rw [length_cons] at hlen
          simp only [Option.toList_none, nil_append] at hlen
          omega
        | some o =>
          rw [Option.toList_some, singleton_append, forall₂_cons] at hmatch
          obtain ⟨hthis, hrests⟩ := hmatch
          have hbraces : ∀ l ∈ s.labels, '}' ∉ l.2.toList := by
            intro l hl hmem
            exact sample_misread s _ ⟨l, hl, hmem⟩ hsample hthis.labels
          rw [sample_read s _ hbraces] at hsample
          obtain rfl := Option.some.inj (Except.ok.inj hsample)
          exact ⟨⟨hbraces, (matches_iff decls s).mp hthis⟩, samples, hrest, hrests⟩
      · rintro ⟨hreadable, samples, hrest, hmatch⟩
        refine ⟨_ :: samples, ?_, forall₂_cons.mpr ⟨(matches_iff decls s).mpr hreadable.type, hmatch⟩⟩
        rw [sample_read s _ hreadable.braces, hrest]
        rfl

/-- An exposition is read back exactly when each of its samples is readable. -/
theorem roundTrips_iff (es : List (Entry parseF64)) : RoundTrips es ↔ ∀ ds ∈ samplesFrom [] es, Readable ds :=
  @reads_iff parseF64 es []

/-! ## Two expositions -/

/-- Decimal integers, as `str::parse::<f64>` reads them. -/
def parseDigits (s : List Char) : Option F64 :=
  if s ≠ [] ∧ s.all Char.isDigit = true then some (.fin (Text.value s)) else none

def requests : Name := ⟨"http_requests", by simp; decide, by simp, by simp; decide⟩

def path : LabelName := ⟨⟨"path", by simp; decide, by simp, by simp; decide⟩, by simp⟩

def one : Word := ⟨['1'], by simp, by simp; decide⟩

/-- `http_requests{path="/users/{id}"} 1` -/
def templated : Sample parseDigits where
  name := requests
  labels := [(path, "/users/\x7bid\x7d")]
  distinct := nodup_singleton _
  token := one
  value := .fin 1
  denotes := by decide +kernel
  timestamp := none

def http : Name := ⟨"http", by simp; decide, by simp, by simp; decide⟩

def counter : Word := ⟨['c', 'o', 'u', 'n', 't', 'e', 'r'], by simp, by simp; decide⟩

/-- `http_requests 1` -/
def bare : Sample parseDigits := { templated with labels := [], distinct := nodup_nil }

/-- A template in a path loses the sample, and a TYPE line says the type of another family. -/
theorem a_templated_path_is_lost :
    (parseExposition parseDigits (render [.sample templated]) = .ok [] ∧ ¬RoundTrips [.sample templated]) ∧
    (parseExposition parseDigits (render [.type http counter, .sample bare]) =
      .ok [⟨"http_requests", ∅, .fin 1, some "counter", none, none⟩] ∧
        ¬RoundTrips [.type http counter, .sample bare]) := by
  have hlost : parseExposition parseDigits (render [.sample templated]) = .ok [] := by decide +kernel
  have htyped : parseExposition parseDigits (render [.type http counter, .sample bare]) =
      .ok [⟨"http_requests", ∅, .fin 1, some "counter", none, none⟩] := by decide +kernel
  refine ⟨⟨hlost, ?_⟩, htyped, ?_⟩
  · rintro ⟨out, hout, hmatch⟩
    obtain rfl := Except.ok.inj (hlost.symm.trans hout)
    exact absurd hmatch.length_eq (by decide)
  · rintro ⟨out, hout, hmatch⟩
    obtain rfl := Except.ok.inj (htyped.symm.trans hout)
    have htype := (forall₂_cons.mp hmatch).1.type "counter" rfl
    exact absurd htype (by decide +kernel)

end Nq.Metrics
