/-
  Nq.LeasePresence.Leases — the current lease of each address
  (`nq-monitor/src/lease_presence_transport.rs`).

  Both lease files are histories that are only appended to: the current lease of an address
  is its last complete block (ISC) or row (Kea). Each parser overwrites as it reads, and
  what it returns is just that, one lease an address in the order in which the addresses
  first appear (`parseIscLeases_eq`, `parseKeaLeases_eq`).

  A block ends at its closing brace. The ISC parser takes the first line `}` for it, so a
  statement with a block of its own (`on release { … }`) ends the lease early; where no
  lease has one, blocks are read whole (`blocksFrom_plain`).

  An end time that is missing, one that cannot be read and `never` all become `None`, and
  `None` is not lapsed. So a lease is reported active on stated grounds exactly where the
  active leases have an end time that can be read or that is `never`, and active Kea rows
  an integer expiry (`grounded_iff`). In `an_unreadable_end_is_active` the end time is
  written with dashes.
-/

import Nq.Collections.Latest
import Nq.Text.Digits
import Nq.Text.Lines

namespace Nq.LeasePresence

open Collections (latest mem_latest latest_inj latest_map)
open List
open Text (trim lines splitn)

/-! ## Reports -/

inductive LeaseState where
  | active | expired | released | static | unknown
  deriving DecidableEq, Repr

structure LeaseReport where
  hostname : Option (List Char)
  ip : List Char
  mac : Option (List Char)
  state : LeaseState
  source : String
  deriving DecidableEq

/-- The value of a statement, without its semicolon. -/
def value (v : List Char) : List Char := trim (v.rdropWhile (· == ';'))

/-- `trim_matches('"')`. -/
def unquote (v : List Char) : List Char := (v.dropWhile (· == '"')).rdropWhile (· == '"')

/-- `strip_prefix`. -/
def after (key line : List Char) : Option (List Char) := if key <+: line then some (line.drop key.length) else none

def keyLease : List Char := "lease ".toList
def keyBindingState : List Char := "binding state ".toList
def keyEnds : List Char := "ends ".toList
def keyHardware : List Char := "hardware ethernet ".toList
def keyHostname : List Char := "client-hostname ".toList

def never : List Char := "never".toList

/-! ## ISC -/

structure IscLease where
  ip : List Char
  bindingState : List Char
  ends : Option Int
  hardware : Option (List Char)
  hostname : Option (List Char)
  deriving DecidableEq

/-- `lease <ip> {` -/
def leaseIp (line : List Char) : Option (List Char) := (after keyLease line).map fun rest =>
  trim (rest.rdropWhile (· == '{'))

def iscLeaseState (bindingState : List Char) (ends : Option Int) (now : Int) : LeaseState :=
  if bindingState = "active".toList then
    match ends with
    | some stop => if stop ≤ now then .expired else .active
    | none => .active
  else if bindingState = "free".toList ∨ bindingState = "released".toList then .released
  else if bindingState = "expired".toList then .expired
  else .unknown

def leaseReportFor (leases : List IscLease) (ip : List Char) (now : Int) (source : String) : Option LeaseReport :=
  (leases.find? (·.ip = ip)).map fun l =>
    ⟨l.hostname.filter (· ≠ []), l.ip, l.hardware, iscLeaseState l.bindingState l.ends now, source⟩

section

-- `PrimitiveDateTime::parse` with the format of lease files, in UTC: nanoseconds
variable (parseDate : List Char → Option Int)

def parseIscTime (s : List Char) : Option Int :=
  if s = never then none else parseDate (trim ((splitn 2 ' ' s)[1]?.getD s))

/-- A line of a block. -/
def IscLease.line (l : IscLease) (line : List Char) : IscLease :=
  match after keyBindingState line with
  | some v => { l with bindingState := value v }
  | none =>
    match after keyEnds line with
    | some v => { l with ends := parseIscTime parseDate (value v) }
    | none =>
      match after keyHardware line with
      | some v => { l with hardware := some (value v) }
      | none =>
        match after keyHostname line with
        | some v => { l with hostname := some (unquote (value v)) }
        | none => l

structure IscState where
  kept : Collections.Kept (List Char) IscLease
  cur : Option IscLease

def iscLine (st : IscState) (raw : List Char) : IscState :=
  match leaseIp (trim raw) with
  | some ip => { st with cur := some ⟨ip, [], none, none, none⟩ }
  | none =>
    if trim raw = ['}'] then
      match st.cur with
      | some l => ⟨st.kept.insert l.ip l, none⟩
      | none => st
    else { st with cur := st.cur.map (·.line parseDate (trim raw)) }

def parseIscLeases (text : List Char) : List IscLease :=
  ((lines text).foldl (iscLine parseDate) ⟨.empty, none⟩).kept.collect

end

/-! ## Kea -/

structure KeaLease where
  ip : List Char
  mac : Option (List Char)
  expire : Option Int
  state : Option Nat
  hostname : Option (List Char)
  deriving DecidableEq

def parseNat (s : List Char) : Option Nat := if s ≠ [] ∧ s.all Char.isDigit = true then some (Text.value s) else none

/-- `str::parse::<i64>` -/
def parseI64 (s : List Char) : Option Int :=
  let signed : Option Int :=
    match s with
    | '-' :: ds => (parseNat ds).map fun n => -(n : Int)
    | '+' :: ds => (parseNat ds).map (↑)
    | ds => (parseNat ds).map (↑)
  signed.filter fun n => -9223372036854775808 ≤ n ∧ n ≤ 9223372036854775807

/-- `str::parse::<u8>` -/
def parseU8 (s : List Char) : Option Nat :=
  let unsigned :=
    match s with
    | '+' :: ds => parseNat ds
    | ds => parseNat ds
  unsigned.filter (· < 256)

def nonEmpty (s : List Char) : Option (List Char) := if trim s = [] then none else some (trim s)

/-- The lease of a line that is a row: at least ten columns, the first with an address. -/
def keaRow (line : List Char) : Option KeaLease :=
  if line = [] ∨ "address,".toList <+: line then none
  else
    match line.splitOn ',' with
    | address :: hwaddr :: _ :: _ :: expire :: _ :: _ :: _ :: hostname :: state :: _ =>
      if trim address = [] then none
      else some ⟨trim address, nonEmpty hwaddr, parseI64 (trim expire), parseU8 (trim state), nonEmpty hostname⟩
    | _ => none

def keaLine (kept : Collections.Kept (List Char) KeaLease) (raw : List Char) : Collections.Kept (List Char) KeaLease :=
  match keaRow (trim raw) with
  | some lease => kept.insert lease.ip lease
  | none => kept

def parseKeaLeases (text : List Char) : List KeaLease := ((lines text).foldl keaLine .empty).collect

/-- `OffsetDateTime::unix_timestamp` -/
def unixTimestamp (now : Int) : Int := now / 1000000000

def keaLeaseState (state : Option Nat) (expire : Option Int) (now : Int) : LeaseState :=
  let lapsed : Prop := ∃ e ∈ expire, e ≤ unixTimestamp now
  match state with
  | some 0 => if lapsed then .expired else .active
  | some 1 => .released
  | some 2 => .expired
  | _ => .unknown

def keaLeaseReportFor (leases : List KeaLease) (ip : List Char) (now : Int) (source : String) : Option LeaseReport :=
  (leases.find? (·.ip = ip)).map fun l =>
    ⟨l.hostname.filter (· ≠ []), l.ip, l.mac, keaLeaseState l.state l.expire now, source⟩

/-! ## What the files say -/

/-- A complete block of an address, with its own statements in their order. -/
structure Block where
  ip : List Char
  statements : List (List Char)
  deriving DecidableEq

/-- A line that opens a block inside a lease, as `on release {` does. -/
def opensBlock (line : List Char) : Bool := line.getLast? = some '{' && line.head? ≠ some '{' && line.head? ≠ some '}'

/-- The complete blocks of the lines, behind a lease that is open, and as deep in it; `nested`
are the lines that open a block inside a lease. A lease that is not closed before the next
one is none. -/
def blocksFrom (nested : List Char → Bool) : Option (Block × Nat) → List (List Char) → List Block
  | _, [] => []
  | cur, line :: rest =>
    match leaseIp line with
    | some ip => blocksFrom nested (some (⟨ip, []⟩, 0)) rest
    | none =>
      match cur with
      | none => blocksFrom nested none rest
      | some (b, 0) =>
        if line = ['}'] then b :: blocksFrom nested none rest
        else if nested line then blocksFrom nested (some (b, 1)) rest
        else blocksFrom nested (some (⟨b.ip, b.statements ++ [line]⟩, 0)) rest
      | some (b, depth + 1) =>
        if line = ['}'] then blocksFrom nested (some (b, depth)) rest
        else if nested line then blocksFrom nested (some (b, depth + 2)) rest
        else blocksFrom nested (some (b, depth + 1)) rest

/-- The blocks of a lease file. -/
def blocks (text : List Char) : List Block := blocksFrom opensBlock none ((lines text).map trim)

/-- The blocks up to the first closing line of each. -/
def cutBlocks (text : List Char) : List Block := blocksFrom (fun _ => false) none ((lines text).map trim)

/-- What the last statement with the key says. -/
def Block.said (b : Block) (key : List Char) : Option (List Char) :=
  ((b.statements.filterMap (after key)).getLast?).map value

def Block.lease (parseDate : List Char → Option Int) (b : Block) : IscLease where
  ip := b.ip
  bindingState := (b.said keyBindingState).getD []
  ends := (b.said keyEnds).bind (parseIscTime parseDate)
  hardware := b.said keyHardware
  hostname := (b.said keyHostname).map unquote

/-- The rows of a memfile. -/
def rows (text : List Char) : List KeaLease := ((lines text).map trim).filterMap keaRow

/-! ## ISC: last blocks -/

variable {ip key v : List Char} {now : Int} {report : LeaseReport} {source : String} {b : Block} (text : List Char)

theorem after_eq_some {line : List Char} : after key line = some v ↔ line = key ++ v := by
  unfold after
  constructor
  · intro h
    split at h
    · rename_i hp
      obtain ⟨t, rfl⟩ := hp
      rw [drop_left] at h
      rw [Option.some.inj h]
    · cases h
  · rintro rfl
    rw [if_pos (prefix_append _ _), drop_left]

/-- A line has one key. -/
theorem after_eq_none {k line : List Char} (h : after key line = some v) (hne : ¬key <+: k) (hne' : ¬k <+: key) :
    after k line = none := by
  cases hv : after k line with
  | none => rfl
  | some v' =>
    have hkey : key <+: line := ⟨v, (after_eq_some.mp h).symm⟩
    have hk : k <+: line := ⟨v', (after_eq_some.mp hv).symm⟩
    exact ((List.prefix_or_prefix_of_prefix hkey hk).elim hne hne').elim

theorem said_concat (ip : List Char) (statements : List (List Char)) (line key : List Char) :
    Block.said ⟨ip, statements ++ [line]⟩ key = match after key line with
      | some v => some (value v)
      | none => Block.said ⟨ip, statements⟩ key := by
  unfold Block.said
  rw [filterMap_append]
  cases h : after key line with
  | none => simp [h]
  | some v => simp [h]

variable {parseDate : List Char → Option Int}

/-- Reading a line adds its statement. -/
theorem lease_concat (b : Block) (line : List Char) :
    (Block.lease parseDate ⟨b.ip, b.statements ++ [line]⟩) = (b.lease parseDate).line parseDate line := by
  unfold Block.lease IscLease.line
  simp only [said_concat]
  cases hstate : after keyBindingState line with
  | some v =>
    rw [after_eq_none hstate (k := keyEnds) (by decide) (by decide),
      after_eq_none hstate (k := keyHardware) (by decide) (by decide),
      after_eq_none hstate (k := keyHostname) (by decide) (by decide)]
    rfl
  | none =>
    cases hends : after keyEnds line with
    | some v =>
      rw [after_eq_none hends (k := keyHardware) (by decide) (by decide),
        after_eq_none hends (k := keyHostname) (by decide) (by decide)]
      rfl
    | none =>
      cases hhardware : after keyHardware line with
      | some v =>
        rw [after_eq_none hhardware (k := keyHostname) (by decide) (by decide)]
      | none => cases after keyHostname line <;> rfl

section

variable {nested : List Char → Bool} {line : List Char} {rest : List (List Char)}

theorem blocksFrom_lease {ip : List Char} (h : leaseIp line = some ip) (cur : Option (Block × Nat)) :
    blocksFrom nested cur (line :: rest) = blocksFrom nested (some (⟨ip, []⟩, 0)) rest := by
  rcases cur with _ | ⟨b, _ | depth⟩ <;> simp only [blocksFrom, h]

theorem blocksFrom_none (h : leaseIp line = none) :
    blocksFrom nested none (line :: rest) = blocksFrom nested none rest := by
  simp only [blocksFrom, h]

theorem blocksFrom_zero (h : leaseIp line = none) (b : Block) : blocksFrom nested (some (b, 0)) (line :: rest) =
    if line = ['}'] then b :: blocksFrom nested none rest
    else if nested line then blocksFrom nested (some (b, 1)) rest
    else blocksFrom nested (some (⟨b.ip, b.statements ++ [line]⟩, 0)) rest := by
  simp only [blocksFrom, h]

theorem blocksFrom_succ (h : leaseIp line = none) (b : Block) (depth : Nat) :
    blocksFrom nested (some (b, depth + 1)) (line :: rest) =
      if line = ['}'] then blocksFrom nested (some (b, depth)) rest
      else if nested line then blocksFrom nested (some (b, depth + 2)) rest
      else blocksFrom nested (some (b, depth + 1)) rest := by
  simp only [blocksFrom, h]

end

/-- The loop keeps the complete blocks, and the open one. -/
theorem foldl_iscLine : ∀ (ls : List (List Char)) (kept : Collections.Kept (List Char) IscLease) (cur : Option Block),
    (ls.foldl (iscLine parseDate) ⟨kept, cur.map (Block.lease parseDate)⟩).kept =
      ((blocksFrom (fun _ => false) (cur.map (·, 0)) (ls.map trim)).map (Block.lease parseDate)).foldl
        (fun m l => Collections.Kept.insert m l.ip l) kept := by
  intro ls
  induction ls with
  | nil =>
    intro kept cur
    cases cur <;> rfl
  | cons raw ls ih =>
    intro kept cur
    rw [foldl_cons, map_cons, iscLine]
    cases hlease : leaseIp (trim raw) with
    | some ip =>
      rw [blocksFrom_lease hlease]
      exact ih kept (some ⟨ip, []⟩)
    | none =>
      cases cur with
      | none =>
        simp only [Option.map_none, ite_self]
        rw [blocksFrom_none hlease]
        exact ih kept none
      | some b =>
        simp only [Option.map_some]
        rw [blocksFrom_zero hlease]
        simp only [Bool.false_eq_true, if_false]
        by_cases hclose : trim raw = ['}']
        · rw [if_pos hclose, if_pos hclose]
          exact ih _ none
        · rw [if_neg hclose, if_neg hclose, ← lease_concat]
          exact ih kept (some ⟨b.ip, b.statements ++ [trim raw]⟩)

/-- The parser returns the last block of each address, read up to its first closing line. -/
theorem parseIscLeases_eq (parseDate : List Char → Option Int) (text : List Char) :
    parseIscLeases parseDate text = (latest Block.ip (cutBlocks text)).map (Block.lease parseDate) := by
  have hloop := @foldl_iscLine parseDate (lines text) .empty none
  unfold parseIscLeases
  rw [Option.map_none] at hloop
  rw [hloop, Collections.collect_foldl IscLease.ip, latest_map]
  rfl

/-- Where no complete block holds a line that opens another, each is read to its end: a lease
that holds one is dropped by both readings, with the block inside it open or not. -/
theorem blocksFrom_plain {nested : List Char → Bool} : ∀ {ls : List (List Char)} (cur : Option Block),
    (∀ b ∈ blocksFrom (fun _ => false) (cur.map (·, 0)) ls, ∀ s ∈ b.statements, nested s = false) →
      blocksFrom (fun _ => false) (cur.map (·, 0)) ls = blocksFrom nested (cur.map (·, 0)) ls ∧
      ∀ b ∈ cur, (∃ s ∈ b.statements, nested s = true) → ∀ (b' : Block) (depth : Nat),
        blocksFrom (fun _ => false) (some (b, 0)) ls = blocksFrom nested (some (b', depth + 1)) ls := by
  intro ls
  induction ls with
  | nil =>
    intro cur _
    exact ⟨by cases cur <;> rfl, fun _ _ _ _ _ => rfl⟩
  | cons line ls ih =>
    intro cur h
    cases hlease : leaseIp line with
    | some ip =>
      rw [blocksFrom_lease hlease] at h
      have hrest := (ih (some ⟨ip, []⟩) h).1
      exact ⟨by rw [blocksFrom_lease hlease, blocksFrom_lease hlease]; exact hrest,
        fun _ _ _ _ _ => by rw [blocksFrom_lease hlease, blocksFrom_lease hlease]; exact hrest⟩
    | none =>
      cases cur with
      | none =>
        rw [Option.map_none, blocksFrom_none hlease] at h
        refine ⟨?_, fun b hb => nomatch hb⟩
        rw [Option.map_none, blocksFrom_none hlease, blocksFrom_none hlease]
        exact (ih none h).1
      | some b =>
        rw [Option.map_some, blocksFrom_zero hlease] at h
        simp only [Bool.false_eq_true, if_false] at h
        by_cases hclose : line = ['}']
        · rw [if_pos hclose] at h
          refine ⟨?_, fun c hc hnested => ?_⟩
          · rw [Option.map_some, blocksFrom_zero hlease, blocksFrom_zero hlease, if_pos hclose, if_pos hclose]
            exact congrArg (b :: ·) (ih none fun c hc => h c (mem_cons_of_mem _ hc)).1
          · -- the block would be complete
            obtain ⟨s, hs, hopen⟩ := hnested
            rw [← Option.some.inj hc] at hs
            exact absurd (h b mem_cons_self s hs) (by rw [hopen]; decide)
        · rw [if_neg hclose] at h
          obtain ⟨hplain, hinside⟩ := ih (some ⟨b.ip, b.statements ++ [line]⟩) h
          refine ⟨?_, fun c hc hnested b' depth => ?_⟩
          · rw [Option.map_some, blocksFrom_zero hlease, blocksFrom_zero hlease, if_neg hclose, if_neg hclose]
            simp only [Bool.false_eq_true, if_false]
            by_cases hopen : nested line = true
            · rw [if_pos hopen]
              exact hinside _ rfl ⟨line, by simp, hopen⟩ b 0
            · rw [if_neg hopen]
              exact hplain
          · rw [← Option.some.inj hc] at hnested ⊢
            obtain ⟨s, hs, hopen⟩ := hnested
            rw [blocksFrom_zero hlease, blocksFrom_succ hlease, if_neg hclose, if_neg hclose]
            simp only [Bool.false_eq_true, if_false]
            split
            · exact hinside _ rfl ⟨s, mem_append_left _ hs, hopen⟩ b' (depth + 1)
            · exact hinside _ rfl ⟨s, mem_append_left _ hs, hopen⟩ b' depth

theorem cutBlocks_plain {text : List Char} (h : ∀ b ∈ cutBlocks text, ∀ s ∈ b.statements, opensBlock s = false) :
    cutBlocks text = blocks text := by
  have hplain : blocksFrom (fun _ => false) none ((lines text).map trim) =
      blocksFrom opensBlock none ((lines text).map trim) :=
    (blocksFrom_plain none h).1
  exact hplain

/-! ## Kea: last rows -/

/-- The parser returns the last row of each address. -/
theorem parseKeaLeases_eq : parseKeaLeases text = latest KeaLease.ip (rows text) := by
  have hline : keaLine = fun kept raw => match keaRow (trim raw) with
      | some lease => Collections.Kept.insert kept lease.ip lease
      | none => kept := rfl
  unfold parseKeaLeases rows
  rw [← Collections.collect_foldl KeaLease.ip, foldl_filterMap, foldl_map, hline]
  congr 2
  funext kept raw
  cases keaRow (trim raw) <;> rfl

/-! ## What is reported -/

/-- The end time is `never`, or is read as an instant after now. -/
def Block.EndsAfter (parseDate : List Char → Option Int) (b : Block) (now : Int) : Prop :=
  ∃ v, b.said keyEnds = some v ∧ (v = never ∨ ∃ stop, parseIscTime parseDate v = some stop ∧ now < stop)

/-- The end time is `never`, or is read at all. -/
def Block.EndsStated (parseDate : List Char → Option Int) (b : Block) : Prop :=
  ∃ v, b.said keyEnds = some v ∧ (v = never ∨ (parseIscTime parseDate v).isSome)

/-- The leases are the last blocks, and one is active by its last block alone. -/
structure GroundedIsc (parseDate : List Char → Option Int) (text : List Char) (now : Int) : Prop where
  current : parseIscLeases parseDate text = (latest Block.ip (blocks text)).map (Block.lease parseDate)
  active : ∀ (ip : List Char) (source : String) (report : LeaseReport),
    leaseReportFor (parseIscLeases parseDate text) ip now source = some report → report.state = .active →
      ∃ b ∈ latest Block.ip (blocks text), b.ip = ip ∧ b.said keyBindingState = some "active".toList ∧
        b.EndsAfter parseDate now

/-- The leases are the last rows, and one is active by its last row alone. -/
structure GroundedKea (text : List Char) (now : Int) : Prop where
  current : parseKeaLeases text = latest KeaLease.ip (rows text)
  active : ∀ (ip : List Char) (source : String) (report : LeaseReport),
    keaLeaseReportFor (parseKeaLeases text) ip now source = some report → report.state = .active →
      ∃ r ∈ latest KeaLease.ip (rows text), r.ip = ip ∧ r.state = some 0 ∧ ∃ e, r.expire = some e ∧ now < e * 1000000000

theorem iscLeaseState_active {state : List Char} {ends : Option Int} :
    iscLeaseState state ends now = .active ↔ state = "active".toList ∧ ∀ stop ∈ ends, now < stop := by
  unfold iscLeaseState
  by_cases hactive : state = "active".toList
  · rw [if_pos hactive]
    cases ends with
    | none => simp [hactive]
    | some stop =>
      by_cases hle : stop ≤ now
      · simp [hle]
      · simp only [if_neg hle, Option.mem_def, Option.some.injEq, forall_eq', true_iff]
        exact ⟨hactive, by omega⟩
  · rw [if_neg hactive]
    refine ⟨fun h => ?_, fun h => absurd h.1 hactive⟩
    split at h
    · cases h
    · split at h <;> cases h

theorem keaLeaseState_active {state : Option Nat} {expire : Option Int} :
    keaLeaseState state expire now = .active ↔ state = some 0 ∧ ∀ e ∈ expire, now < e * 1000000000 := by
  have hsecond : ∀ e : Int, ¬e ≤ unixTimestamp now ↔ now < e * 1000000000 := by
    intro e
    unfold unixTimestamp
    omega
  unfold keaLeaseState
  simp only
  split
  · cases expire with
    | none => simp
    | some e =>
      have hse := hsecond e
      by_cases hle : e ≤ unixTimestamp now
      · rw [if_pos ⟨e, rfl, hle⟩]
        exact ⟨fun h => (nomatch h), fun h => absurd hle (hse.mpr (h.2 e rfl))⟩
      · rw [if_neg fun ⟨e', he', hle'⟩ => hle (Option.some.inj he' ▸ hle')]
        exact ⟨fun _ => ⟨rfl, fun e' he' => Option.some.inj he' ▸ hse.mp hle⟩, fun _ => rfl⟩
  · simp
  · simp
  · rename_i hzero _ _
    exact ⟨fun h => (nomatch h), fun h => absurd h.1 hzero⟩

theorem leaseReportFor_some {leases : List IscLease} (h : leaseReportFor leases ip now source = some report) :
    ∃ l ∈ leases, l.ip = ip ∧ report.state = iscLeaseState l.bindingState l.ends now := by
  obtain ⟨l, hfind, rfl⟩ := Option.map_eq_some_iff.mp h
  exact ⟨l, mem_of_find?_eq_some hfind, by simpa using find?_some hfind, rfl⟩

theorem keaLeaseReportFor_some {leases : List KeaLease} (h : keaLeaseReportFor leases ip now source = some report) :
    ∃ l ∈ leases, l.ip = ip ∧ report.state = keaLeaseState l.state l.expire now := by
  obtain ⟨l, hfind, rfl⟩ := Option.map_eq_some_iff.mp h
  exact ⟨l, mem_of_find?_eq_some hfind, by simpa using find?_some hfind, rfl⟩

theorem lease_bindingState : (b.lease parseDate).bindingState = "active".toList ↔
    b.said keyBindingState = some "active".toList := by
  unfold Block.lease
  cases b.said keyBindingState with
  | none => simp
  | some v => simp

/-- An end time that is stated is after now wherever the lease is active. -/
theorem endsAfter_of_active (hends : ∀ stop ∈ (b.lease parseDate).ends, now < stop) (h : b.EndsStated parseDate) :
    b.EndsAfter parseDate now := by
  obtain ⟨v, hv, hnever | hread⟩ := h
  · exact ⟨v, hv, .inl hnever⟩
  · obtain ⟨stop, hstop⟩ := Option.isSome_iff_exists.mp hread
    refine ⟨v, hv, .inr ⟨stop, hstop, hends stop ?_⟩⟩
    show (b.said keyEnds).bind (parseIscTime parseDate) = some stop
    rw [hv]
    exact hstop

/-- An end time that is not stated is none. -/
theorem ends_of_not_stated (h : ¬b.EndsStated parseDate) : (b.lease parseDate).ends = none := by
  show (b.said keyEnds).bind (parseIscTime parseDate) = none
  cases hv : b.said keyEnds with
  | none => rfl
  | some v =>
    cases hread : parseIscTime parseDate v with
    | none => exact hread
    | some stop => exact absurd ⟨v, hv, .inr (by rw [hread]; rfl)⟩ h

theorem groundedIsc_iff (parseDate : List Char → Option Int) (text : List Char)
    (now : Int) : GroundedIsc parseDate text now ↔
    (latest Block.ip (cutBlocks text)).map (Block.lease parseDate) =
      (latest Block.ip (blocks text)).map (Block.lease parseDate) ∧
    ∀ b ∈ latest Block.ip (blocks text), b.said keyBindingState = some "active".toList → b.EndsStated parseDate := by
  constructor
  · intro h
    refine ⟨(parseIscLeases_eq parseDate text).symm.trans h.current, fun b hb hactive => ?_⟩
    by_contra hstated
    -- it is reported active at every instant
    have hreport : leaseReportFor (parseIscLeases parseDate text) b.ip now "" = some
        ⟨(b.lease parseDate).hostname.filter (· ≠ []), b.ip, (b.lease parseDate).hardware,
          iscLeaseState (b.lease parseDate).bindingState (b.lease parseDate).ends now, ""⟩ := by
      have hfind : (parseIscLeases parseDate text).find? (fun l => l.ip = b.ip) = some (b.lease parseDate) := by
        rw [h.current]
        have hnodup : (((latest Block.ip (blocks text)).map (Block.lease parseDate)).map IscLease.ip).Nodup := by
          rw [map_map]
          exact Collections.latest_nodup Block.ip (blocks text)
        exact Collections.find?_of_nodup hnodup (mem_map_of_mem (f := Block.lease parseDate) hb)
      unfold leaseReportFor
      rw [hfind]
      rfl
    obtain ⟨b', hb', hip, -, v, hv, hafter⟩ := h.active b.ip "" _ hreport
      (iscLeaseState_active.mpr ⟨lease_bindingState.mpr hactive,
        by rw [ends_of_not_stated hstated]; exact fun _ hs => nomatch hs⟩)
    obtain rfl := latest_inj hb' hb hip
    refine hstated ⟨v, hv, hafter.imp_right ?_⟩
    rintro ⟨stop, hstop, -⟩
    rw [hstop]
    rfl
  · rintro ⟨hcut, hstated⟩
    refine ⟨(parseIscLeases_eq parseDate text).trans hcut, fun ip source report hreport hactive => ?_⟩
    obtain ⟨l, hl, rfl, hstate⟩ := leaseReportFor_some hreport
    rw [parseIscLeases_eq, hcut] at hl
    obtain ⟨b, hb, rfl⟩ := List.mem_map.mp hl
    obtain ⟨hbinding, hends⟩ := iscLeaseState_active.mp (hstate.symm.trans hactive)
    have hsaid := lease_bindingState.mp hbinding
    exact ⟨b, hb, rfl, hsaid, endsAfter_of_active hends (hstated b hb hsaid)⟩

theorem groundedKea_iff (now : Int) : GroundedKea text now ↔
    ∀ r ∈ latest KeaLease.ip (rows text), r.state = some 0 → r.expire.isSome := by
  constructor
  · intro h r hr hstate
    by_contra hnone
    rw [Option.not_isSome_iff_eq_none] at hnone
    have hreport : keaLeaseReportFor (parseKeaLeases text) r.ip now "" = some
        ⟨r.hostname.filter (· ≠ []), r.ip, r.mac, keaLeaseState r.state r.expire now, ""⟩ := by
      have hfind : (parseKeaLeases text).find? (fun l => l.ip = r.ip) = some r := by
        rw [h.current]
        exact Collections.find?_of_nodup (Collections.latest_nodup KeaLease.ip (rows text)) hr
      unfold keaLeaseReportFor
      rw [hfind]
      rfl
    obtain ⟨r', hr', hip, -, e, he, -⟩ := h.active r.ip "" _ hreport
      (keaLeaseState_active.mpr ⟨hstate, by rw [hnone]; exact fun _ hs => nomatch hs⟩)
    obtain rfl := latest_inj hr' hr hip
    rw [hnone] at he
    cases he
  · intro h
    refine ⟨parseKeaLeases_eq text, fun ip source report hreport hactive => ?_⟩
    obtain ⟨r, hr, rfl, hstate⟩ := keaLeaseReportFor_some hreport
    rw [parseKeaLeases_eq] at hr
    obtain ⟨hzero, hexpire⟩ := keaLeaseState_active.mp (hstate.symm.trans hactive)
    obtain ⟨e, he⟩ := Option.isSome_iff_exists.mp (h r hr hzero)
    exact ⟨r, hr, rfl, hzero, e, he, hexpire e he⟩

/-- Reports rest on what the files say exactly where blocks cut at their first closing line
read as the whole blocks do, active ISC leases state an end time and active Kea rows an
integer expiry. Blocks read alike where no complete one holds a line that opens another. -/
theorem grounded_iff (parseDate : List Char → Option Int) (text : List Char) (now : Int) :
    (GroundedIsc parseDate text now ↔
      (latest Block.ip (cutBlocks text)).map (Block.lease parseDate) =
        (latest Block.ip (blocks text)).map (Block.lease parseDate) ∧
      ∀ b ∈ latest Block.ip (blocks text), b.said keyBindingState = some "active".toList → b.EndsStated parseDate) ∧
    ((∀ b ∈ cutBlocks text, ∀ s ∈ b.statements, opensBlock s = false) → cutBlocks text = blocks text) ∧
    (GroundedKea text now ↔ ∀ r ∈ latest KeaLease.ip (rows text), r.state = some 0 → r.expire.isSome) :=
  ⟨groundedIsc_iff parseDate text now, cutBlocks_plain, groundedKea_iff text now⟩

/-! ## Three lease files -/

/-- One date of the format. -/
def dateOf (s : List Char) : Option Int := if s = "2026/06/24 02:00:00".toList then some 1782266400000000000 else none

def leaseFile (ends : String) : List Char :=
  ("lease 10.0.0.5 \x7b\n  ends " ++ ends ++ ";\n  binding state active;\n\x7d\n").toList

def leaseBlock (ends : String) : Block :=
  ⟨"10.0.0.5".toList, [("ends " ++ ends ++ ";").toList, "binding state active;".toList]⟩

def memfile : List Char := "10.0.0.2,08:00:27:00:00:02,,3600,1782750154,1,0,0,ok,0,\n".toList

/-- An end time written with dashes, a day later. -/
theorem an_unreadable_end_is_active :
    ((leaseReportFor (parseIscLeases dateOf (leaseFile "4 2026-06-24 02:00:00"))
      "10.0.0.5".toList 1782352800000000000 "").map
      LeaseReport.state = some .active) ∧
    ¬GroundedIsc dateOf (leaseFile "4 2026-06-24 02:00:00") 1782352800000000000 := by
  refine ⟨by decide +kernel, fun h => ?_⟩
  have hblocks : latest Block.ip (blocks (leaseFile "4 2026-06-24 02:00:00")) =
      [leaseBlock "4 2026-06-24 02:00:00"] := by
    decide +kernel
  obtain ⟨v, hv, hstated⟩ := ((groundedIsc_iff _ _ _).mp h).2 (leaseBlock "4 2026-06-24 02:00:00")
    (by rw [hblocks]; exact mem_singleton_self _) (by decide +kernel)
  have hsaid : (leaseBlock "4 2026-06-24 02:00:00").said keyEnds = some "4 2026-06-24 02:00:00".toList :=
    by decide +kernel
  rw [hsaid] at hv
  obtain rfl := Option.some.inj hv
  exact absurd hstated (by decide +kernel)

/-- An end time that can be read, a day before, and a row with an expiry. -/
theorem a_readable_end_is_grounded : GroundedIsc dateOf (leaseFile "4 2026/06/24 02:00:00") 1782180000000000000 ∧
    GroundedKea memfile 1782180000000000000 := by
  obtain ⟨hisc, hplain, _⟩ := grounded_iff dateOf (leaseFile "4 2026/06/24 02:00:00") 1782180000000000000
  obtain ⟨_, _, hkea⟩ := grounded_iff dateOf memfile 1782180000000000000
  have hcut : cutBlocks (leaseFile "4 2026/06/24 02:00:00") = [leaseBlock "4 2026/06/24 02:00:00"] := by decide +kernel
  have hblocks : latest Block.ip (blocks (leaseFile "4 2026/06/24 02:00:00")) =
      [leaseBlock "4 2026/06/24 02:00:00"] := by
    decide +kernel
  have hrows : (latest KeaLease.ip (rows memfile)).all fun r => r.expire.isSome := by decide +kernel
  refine ⟨hisc.mpr ⟨?_, fun b hb _ => ?_⟩, hkea.mpr fun r hr _ => all_eq_true.mp hrows r hr⟩
  · rw [hplain fun b hb s hs => ?_]
    rw [hcut, mem_singleton] at hb
    have hall : (leaseBlock "4 2026/06/24 02:00:00").statements.all fun s => !opensBlock s := by decide +kernel
    rw [hb] at hs
    simpa using all_eq_true.mp hall s hs
  · rw [hblocks, mem_singleton] at hb
    rw [hb]
    exact ⟨"4 2026/06/24 02:00:00".toList, by decide +kernel, .inr (by decide +kernel)⟩

end Nq.LeasePresence
