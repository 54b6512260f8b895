/-
  Nq.Metrics.Exposition — reading the Prometheus text format
  (`nq-monitor-agent/src/collect/prometheus.rs`, `parse_exposition`).

  Texts are lists of characters inside the parser. `parseF64` is `str::parse::<f64>`. A
  label map is a `BTreeMap`, compared here by what it holds (`Finmap`). The slice between
  the braces panics where the first '}' of the line lies before its first '{'.

  - `quotedValue_escaped`, `quotedValue_open`: a label value escaped by the format is read
    back, and up to where the text is cut off.
-/

import Mathlib.Data.Finmap
import Nq.Sql.Real
import Nq.Text.Lines

namespace Nq.Metrics

open Sql (F64)

/-! ## The parser -/

abbrev Labels := Finmap fun _ : String => String

structure MetricSample where
  name : String
  labels : Labels
  value : F64
  metricType : Option String
  scrapeTargetName : Option String := none
  scrapeTargetUrl : Option String := none
  deriving DecidableEq

/-- The characters up to the closing quote, unescaped, and what follows it. -/
def quotedValue : List Char → List Char × List Char
  | [] => ([], [])
  | '"' :: cs => ([], cs)
  | ['\\'] => ([], [])
  | '\\' :: c :: cs =>
    let unescaped := match c with
      | 'n' => ['\n']
      | '\\' => ['\\']
      | '"' => ['"']
      | other => ['\\', other]
    (unescaped ++ (quotedValue cs).1, (quotedValue cs).2)
  | c :: cs => (c :: (quotedValue cs).1, (quotedValue cs).2)

/-- The loop over `remaining`; every turn takes a '=' from it, so its length is fuel enough. -/
def labelLoop : Nat → List Char → Labels → Labels
  | 0, _, labels => labels
  | fuel + 1, remaining, labels =>
    let remaining := remaining.dropWhile fun c => c = ',' ∨ c = ' '
    if remaining = [] then labels
    else
      match remaining.dropWhile (· ≠ '=') with
      | [] => labels
      | _ :: rest =>
        let key := Text.trim (remaining.takeWhile (· ≠ '='))
        match rest with
        | '"' :: quoted =>
          let (value, rest) := quotedValue quoted
          labelLoop fuel rest (labels.insert (String.ofList key) (String.ofList value))
        | rest => labelLoop fuel rest labels

def parseLabels (labelsStr : List Char) : Labels := labelLoop (labelsStr.length + 1) labelsStr ∅

section

variable (parseF64 : List Char → Option F64)

def parseValue (value : List Char) : Option F64 :=
  if value = ['+', 'I', 'n', 'f'] then some (.inf false)
  else if value = ['-', 'I', 'n', 'f'] then some (.inf true)
  else if value = ['N', 'a', 'N'] then some .nan
  else parseF64 value

/-- The name and type of the newest TYPE line. -/
structure Declared where
  typeName : Option String := none
  metricType : Option String := none

/-- A slice whose end lies before its start. -/
inductive Panic where
  | slice
  deriving DecidableEq, Repr

def finishSample (d : Declared) (name : List Char) (labels : Labels) (rest : List Char) : Option MetricSample := do
  let valueStr ← Text.firstToken rest
  let value ← parseValue parseF64 valueStr
  let covered := (d.typeName.map fun tn => tn.toList.isPrefixOf name).getD false
  return { name := String.ofList name, labels, value, metricType := d.metricType.filter fun _ => covered }

def parseSampleLine (d : Declared) (line : List Char) : Except Panic (Option MetricSample) :=
  match line.findIdx? (· = '{') with
  | some braceStart =>
    match line.findIdx? (· = '}') with
    | none => .ok none
    | some braceEnd =>
      if braceEnd < braceStart + 1 then .error .slice
      else
        let labelsStr := (line.take braceEnd).drop (braceStart + 1)
        .ok (finishSample parseF64 d (line.take braceStart) (parseLabels labelsStr)
          (Text.trim (line.drop (braceEnd + 1))))
  | none =>
    match Text.splitn 2 ' ' line with
    | [name, rest] => .ok (finishSample parseF64 d name ∅ (Text.trim rest))
    | _ => .ok none

def parseLines (d : Declared) : List (List Char) → Except Panic (List MetricSample)
  | [] => .ok []
  | line :: rest =>
    let line := Text.trim line
    if line = [] then parseLines d rest
    else if "# HELP".toList.isPrefixOf line then parseLines d rest
    else if "# TYPE".toList.isPrefixOf line then
      match Text.splitn 4 ' ' line with
      | [_, _, name, kind] => parseLines ⟨some (String.ofList name), some (String.ofList kind)⟩ rest
      | _ => parseLines d rest
    else if ['#'].isPrefixOf line then parseLines d rest
    else do
      let sample ← parseSampleLine parseF64 d line
      let samples ← parseLines d rest
      return sample.toList ++ samples

def parseExposition (text : List Char) : Except Panic (List MetricSample) := parseLines parseF64 {} (Text.lines text)

end

/-! ## Label values -/

def escapeChar (c : Char) : List Char :=
  if c = '\\' then ['\\', '\\'] else if c = '"' then ['\\', '"'] else if c = '\n' then ['\\', 'n'] else [c]

def escape (value : List Char) : List Char := value.flatMap escapeChar

theorem quotedValue_escapeChar (c : Char) (rest : List Char) :
    quotedValue (escapeChar c ++ rest) = (c :: (quotedValue rest).1, (quotedValue rest).2) := by
  unfold escapeChar
  split
  · subst c; rfl
  · split
    · subst c; rfl
    · split
      · subst c; rfl
      · rw [List.singleton_append]
        rw [quotedValue]
        all_goals grind

variable (value : List Char)

/-- A value escaped by the format and closed is read back, with what follows it. -/
theorem quotedValue_escaped (rest : List Char) : quotedValue (escape value ++ '"' :: rest) = (value, rest) := by
  induction value with
  | nil => rfl
  | cons c value ih =>
    rw [escape, List.flatMap_cons, List.append_assoc, quotedValue_escapeChar]
    rw [escape] at ih
    rw [ih]

/-- A value cut off after some of its characters is read up to there. -/
theorem quotedValue_open : quotedValue (escape value) = (value, []) := by
  induction value with
  | nil => rfl
  | cons c value ih =>
    rw [escape, List.flatMap_cons, quotedValue_escapeChar]
    rw [escape] at ih
    rw [ih]

end Nq.Metrics
