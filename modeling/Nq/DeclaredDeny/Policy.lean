/-
  Nq.DeclaredDeny.Policy — the declared-deny rule of a `pfctl -sr -vv` dump
  (`nq-monitor/src/declared_deny_transport.rs`).

  A rule line is read as one list of words, in which a keyword counts wherever it first
  stands; the label is searched for by its mark; and the counters are those of the first
  line with "Evaluations:" among the three behind the rule.
-/

import Nq.LeasePresence.Leases
import Nq.Text.Lines
import Nq.Text.Tokens

namespace Nq.DeclaredDeny

open LeasePresence (parseNat)
open Text (cut splitOnce splitWhitespace trim)

inductive RuleSelector where
  | table (name : List Char)
  | ridentifier (id : List Char)
  deriving DecidableEq, Repr

structure ParsedRule where
  action : List Char
  quick : Bool
  direction : List Char
  interface : List Char
  sourceSpec : List Char
  destSpec : List Char
  destTable : Option (List Char)
  tableEntryCount : Option Nat
  ridentifier : Option (List Char)
  label : Option (List Char)
  deriving DecidableEq, Repr

/-! ## A rule line -/

/-- `str::parse::<u64>`. -/
def parseU64 (s : List Char) : Option Nat :=
  let unsigned :=
    match s with
    | '+' :: ds => parseNat ds
    | ds => parseNat ds
  unsigned.filter (· < 2 ^ 64)

/-- The token immediately following the first `key`. -/
def afterToken (key : List Char) : List (List Char) → Option (List Char)
  | [] => none
  | t :: toks => if t = key then toks.head? else afterToken key toks

/-- What stands between angle brackets. -/
def stripBrackets : List Char → Option (List Char)
  | '<' :: r => if r.getLast? = some '>' then some r.dropLast else none
  | _ => none

def bracketed (name : List Char) : List Char := '<' :: name ++ ['>']

def parseDest (raw : List Char) : List Char × Option (List Char) × Option Nat :=
  match stripBrackets raw with
  | some inner =>
    match splitOnce ':' inner with
    | some (name, count) => (bracketed name, some name, parseU64 count)
    | none => (bracketed inner, some inner, none)
  | none => (raw, none, none)

def labelMark : List Char := "label \"".toList

theorem length_of_splitOnce {sep : Char} {s before after : List Char} (h : splitOnce sep s = some (before, after)) :
    after.length < s.length := by
  induction s generalizing before with
  | nil => cases h
  | cons c s ih =>
    rw [splitOnce] at h
    by_cases hc : c = sep
    · rw [if_pos hc] at h
      cases h
      simp
    · rw [if_neg hc] at h
      obtain ⟨⟨before', after'⟩, hsplit, heq⟩ := Option.map_eq_some_iff.mp h
      cases heq
      exact Nat.lt_succ_of_lt (ih hsplit)

/-- The first label that is not an `id:` label. -/
def parseLabel (body : List Char) : Option (List Char) :=
  match hmark : cut labelMark body with
  | none => none
  | some (_, after) =>
    match hquote : splitOnce '"' after with
    | none => none
    | some (val, rest) => if "id:".toList <+: val then parseLabel rest else some val
termination_by body.length
decreasing_by
  have h₁ := Text.length_of_cut hmark
  have h₂ := length_of_splitOnce hquote
  omega

/-- The line without its index. -/
def ruleBody (line : List Char) : List Char :=
  match splitOnce ' ' line with
  | some (head, rest) => if head.head? = some '@' then rest else line
  | none => line

def parseAction (toks : List (List Char)) : List Char :=
  if toks[1]? = some "return".toList ∨ toks[1]? = some "drop".toList then "block ".toList ++ toks[1]?.getD []
    else "block".toList

def parseRuleLine (line : List Char) : Option ParsedRule :=
  let body := ruleBody (trim line)
  let toks := splitWhitespace body
  if toks.head? ≠ some "block".toList then none
  else
    let (destSpec, destTable, tableEntryCount) := parseDest ((afterToken "to".toList toks).getD [])
    some
      { action := parseAction toks
        quick := toks.contains "quick".toList
        direction := if toks.contains "out".toList then "out".toList else "in".toList
        interface := (afterToken "on".toList toks).getD []
        sourceSpec := (afterToken "from".toList toks).getD []
        destSpec
        destTable
        tableEntryCount
        ridentifier := afterToken "ridentifier".toList toks
        label := parseLabel body }

/-! ## A counter line -/

structure Counters where
  evaluations : Option Nat
  blockedPackets : Option Nat
  states : Option Nat
  deriving DecidableEq, Repr

def noCounters : Counters := ⟨none, none, none⟩

def evaluationsMark : List Char := "Evaluations:".toList
def packetsMark : List Char := "Packets:".toList
def statesMark : List Char := "States:".toList

def counterField (line key : List Char) : Option Nat := do
  let (_, rest) ← cut key line
  let tok ← (splitWhitespace rest).head?
  parseU64 (tok.rdropWhile fun c => !c.isDigit)

def parseCounterLine (line : List Char) : Counters :=
  ⟨counterField line evaluationsMark, counterField line packetsMark, counterField line statesMark⟩

/-! ## The search -/

inductive PolicyCustody where
  | present | absent | unknownSurface
  deriving DecidableEq, Repr

structure DeclaredDenyRule where
  label : List Char
  ridentifier : List Char
  interface : List Char
  direction : List Char
  action : List Char
  quick : Bool
  sourceSpec : List Char
  destSpec : List Char
  destTable : Option (List Char)
  tableEntryCount : Option Nat
  counters : Counters
  custody : PolicyCustody
  source : List Char
  deriving DecidableEq, Repr

def RuleSelector.selects (rule : ParsedRule) : RuleSelector → Bool
  | .table t => rule.destTable = some t
  | .ridentifier r => rule.ridentifier = some r

/-- The line is read as a block rule that is selected. -/
def accepts (selector : RuleSelector) (line : List Char) : Bool := (parseRuleLine line).any selector.selects

/-- The next line with counters, among three. -/
def countersBehind (tail : List (List Char)) : Counters :=
  (((tail.take 3).find? fun l => (cut evaluationsMark l).isSome).map parseCounterLine).getD noCounters

def unknownRule (source : List Char) : DeclaredDenyRule where
  label := []
  ridentifier := []
  interface := []
  direction := []
  action := []
  quick := false
  sourceSpec := []
  destSpec := []
  destTable := none
  tableEntryCount := none
  counters := noCounters
  custody := .unknownSurface
  source

def presentRule (rule : ParsedRule) (counters : Counters) (source : List Char) : DeclaredDenyRule where
  label := rule.label.getD []
  ridentifier := rule.ridentifier.getD []
  interface := rule.interface
  direction := rule.direction
  action := rule.action
  quick := rule.quick
  sourceSpec := rule.sourceSpec
  destSpec := rule.destSpec
  destTable := rule.destTable
  tableEntryCount := rule.tableEntryCount
  counters
  custody := .present
  source

/-- The lines from the first accepted one on. -/
def acceptedFrom (selector : RuleSelector) (lines : List (List Char)) : List (List Char) :=
  lines.dropWhile fun l => !accepts selector l

def findIn (selector : RuleSelector) (source : List Char) (lines : List (List Char)) : DeclaredDenyRule :=
  match acceptedFrom selector lines with
  | [] => { unknownRule source with custody := .absent }
  | line :: tail =>
    match parseRuleLine line with
    | some rule => presentRule rule (countersBehind tail) source
    | none => { unknownRule source with custody := .absent }

def findDeclaredDeny (vvText : List Char) (selector : RuleSelector) (sshHost : List Char) : DeclaredDenyRule :=
  let source := "ssh:".toList ++ sshHost ++ " pfctl -sr -vv".toList
  if trim vvText = [] then unknownRule source else findIn selector source (Text.lines vvText)

end Nq.DeclaredDeny
