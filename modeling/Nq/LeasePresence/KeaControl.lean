/-
  Nq.LeasePresence.KeaControl — leases from Kea's control socket
  (`nq-monitor/src/kea_control.rs`).

  The answer to `lease4-get-all` is read into the leases of a memfile: the time a client was last
  heard of and the lifetime are added up to the expiry a row states. For the same leases the two
  backends return the same values, whatever the memfile said before and whichever empty fields the
  answer leaves out. The sum is one of two unbounded integers of 64 bits, and is not checked: the
  answers that are read without an overflow are those in which it fits (`kea_backends_iff`).

  - `a_lifetime_overflows`: the largest time, and a lifetime of one second.
-/

import Nq.LeasePresence.Leases

namespace Nq.LeasePresence

open Collections (latest mem_latest latest_inj latest_map)
open List
open Text (trim lines)

/-! ## The answer -/

inductive KeaControlError where
  | socketMissing
  | connectionRefused
  | timeout
  | io (detail : String)
  | malformedResponse (detail : String)
  | unsupportedCommand
  | keaResult (code : Int64) (text : List Char)
  deriving DecidableEq

structure ApiLease where
  ipAddress : List Char
  hwAddress : Option (List Char)
  hostname : Option (List Char)
  state : Option UInt8
  cltt : Option Int64
  validLft : Option Int64
  deriving DecidableEq

structure Lease4GetAllResponse where
  result : Int64
  text : Option (List Char)
  arguments : Option (List ApiLease)

/-- `c + v` on `i64`, where it does not overflow. -/
def addI64 (c v : Int64) : Option Int :=
  if -9223372036854775808 ≤ c.toInt + v.toInt ∧ c.toInt + v.toInt ≤ 9223372036854775807 then some (c.toInt + v.toInt)
    else none

/-- `cltt + valid-lft`, where both are there. -/
def ApiLease.expire (l : ApiLease) : Option (Option Int) :=
  match l.cltt, l.validLft with
  | some c, some v => (addI64 c v).map some
  | _, _ => some none

def ApiLease.toKea (l : ApiLease) : Option KeaLease :=
  l.expire.map fun expire =>
    ⟨l.ipAddress, l.hwAddress.filter (· ≠ []), expire, l.state.map UInt8.toNat, l.hostname.filter (· ≠ [])⟩

def Lease4GetAllResponse.leases (r : Lease4GetAllResponse) : List ApiLease := r.arguments.getD []

section

-- `serde_json::from_str`
variable (fromStr : String → Except String Lease4GetAllResponse)

/-- What the answer is read as; none where an addition overflows. -/
def parseLease4GetAll (json : String) : Option (Except KeaControlError (List KeaLease)) :=
  match fromStr json with
  | .error e => some (.error (.malformedResponse e))
  | .ok resp =>
    if resp.result = 0 ∨ resp.result = 3 then (resp.leases.mapM ApiLease.toKea).map .ok
    else if resp.result = 2 then some (.error .unsupportedCommand)
    else some (.error (.keaResult resp.result (resp.text.getD [])))

end

/-! ## Leases, in an answer and in a memfile -/

/-- A lease as Kea has it. -/
structure Lease where
  address : List Char
  hwaddr : List Char
  hostname : List Char
  state : UInt8
  cltt : UInt32
  validLft : UInt32

/-- A field of an answer, left out where it is empty, or not. -/
def Answers (field : Option (List Char)) (s : List Char) : Prop := field = some s ∨ s = [] ∧ field = none

/-- The answer's form of a lease. -/
structure Lease.InAnswer (l : Lease) (a : ApiLease) : Prop where
  address : a.ipAddress = l.address
  hwaddr : Answers a.hwAddress l.hwaddr
  hostname : Answers a.hostname l.hostname
  state : a.state = some l.state
  cltt : ∃ c : Int64, a.cltt = some c ∧ c.toInt = l.cltt.toNat
  validLft : ∃ v : Int64, a.validLft = some v ∧ v.toInt = l.validLft.toNat

def column (line : List Char) (i : Nat) : List Char := trim ((line.splitOn ',')[i]?.getD [])

/-- A line of ten columns or more with an address, and not a header. -/
def wellFormed (line : List Char) : Bool :=
  !decide ("address,".toList <+: line) && decide (10 ≤ (line.splitOn ',').length) && decide (column line 0 ≠ [])

def wellFormedRows (text : List Char) : List (List Char) := ((lines text).map trim).filter wellFormed

/-- A row that states a lease. -/
structure Lease.InRow (l : Lease) (line : List Char) : Prop where
  address : column line 0 = l.address
  hwaddr : column line 1 = l.hwaddr
  hostname : column line 8 = l.hostname
  state : parseU8 (column line 9) = some l.state.toNat
  expire : parseI64 (column line 4) = some ((l.cltt.toNat : Int) + l.validLft.toNat)

/-- The last well-formed row of each address states its lease. -/
structure LastRows (text : List Char) (leases : List Lease) : Prop where
  last : ∀ l ∈ leases, ∃ before line after, wellFormedRows text = before ++ line :: after ∧ l.InRow line ∧
    ∀ later ∈ after, column later 0 ≠ l.address
  only : ∀ line ∈ wellFormedRows text, ∃ l ∈ leases, l.address = column line 0

/-! ## Rows -/

def filled (s : List Char) : Option (List Char) := if s = [] then none else some s

/-- The lease of a well-formed row. -/
def rowLease (line : List Char) : KeaLease :=
  ⟨column line 0, filled (column line 1), parseI64 (column line 4), parseU8 (column line 9), filled (column line 8)⟩

/-- The columns a row is read from. -/
def columnsLease (cols : List (List Char)) : Option KeaLease :=
  match cols with
  | address :: hwaddr :: _ :: _ :: expire :: _ :: _ :: _ :: hostname :: state :: _ =>
    if trim address = [] then none
    else some ⟨trim address, nonEmpty hwaddr, parseI64 (trim expire), parseU8 (trim state), nonEmpty hostname⟩
  | _ => none

variable {cols : List (List Char)} {text : List Char} {a : ApiLease} {l : Lease}

theorem columnsLease_short (h : cols.length < 10) : columnsLease cols = none := by
  unfold columnsLease
  split
  · simp only [length_cons] at h
    omega
  · rfl

theorem columnsLease_long (h : 10 ≤ cols.length) : columnsLease cols =
    if trim (cols[0]?.getD []) = [] then none
    else some ⟨trim (cols[0]?.getD []), nonEmpty (cols[1]?.getD []), parseI64 (trim (cols[4]?.getD [])),
      parseU8 (trim (cols[9]?.getD [])), nonEmpty (cols[8]?.getD [])⟩ := by
  rcases cols with _ | ⟨_, _ | ⟨_, _ | ⟨_, _ | ⟨_, _ | ⟨_, _ | ⟨_, _ | ⟨_, _ | ⟨_, _ | ⟨_, _ | ⟨_, _⟩⟩⟩⟩⟩⟩⟩⟩⟩⟩
  on_goal 11 => rfl
  all_goals exact absurd h (by simp)

theorem keaRow_eq (line : List Char) : keaRow line = if wellFormed line then some (rowLease line) else none := by
  have hcolumns : keaRow line = if line = [] ∨ "address,".toList <+: line then none
      else columnsLease (line.splitOn ',') := rfl
  rw [hcolumns]
  unfold wellFormed
  by_cases hheader : "address,".toList <+: line
  · rw [if_pos (Or.inr hheader), decide_eq_true hheader]
    rfl
  · by_cases hempty : line = []
    · rw [if_pos (Or.inl hempty), hempty]
      rfl
    · rw [if_neg (not_or.mpr ⟨hempty, hheader⟩), decide_eq_false hheader]
      by_cases hlong : 10 ≤ (line.splitOn ',').length
      · rw [columnsLease_long hlong, decide_eq_true hlong]
        unfold rowLease column filled nonEmpty
        by_cases haddress : trim ((line.splitOn ',')[0]?.getD []) = []
        · simp only [haddress, if_true, ne_eq, not_true_eq_false, decide_false, Bool.and_false,
            Bool.false_eq_true, if_false]
        · simp only [haddress, if_false, ne_eq, not_false_eq_true, decide_true, Bool.not_false, Bool.and_true, if_true]
      · rw [columnsLease_short (by omega), decide_eq_false hlong]
        rfl

theorem rows_eq (text : List Char) : rows text = (wellFormedRows text).map rowLease := by
  unfold rows wellFormedRows
  generalize (lines text).map trim = ls
  rw [← filterMap_eq_map (f := rowLease), filterMap_filter]
  refine filterMap_congr fun line _ => ?_
  rw [keaRow_eq]
  rfl

theorem mem_parseKeaLeases {k : KeaLease} : k ∈ parseKeaLeases text ↔
    ∃ line ∈ latest (column · 0) (wellFormedRows text), rowLease line = k := by
  rw [parseKeaLeases_eq, rows_eq, latest_map, List.mem_map]
  rfl

/-! ## The same leases -/

theorem expire_in (h : l.InAnswer a) : a.expire = some (some ((l.cltt.toNat : Int) + l.validLft.toNat)) := by
  obtain ⟨c, hc, hcl⟩ := h.cltt
  obtain ⟨v, hv, hvl⟩ := h.validLft
  unfold ApiLease.expire addI64
  rw [hc, hv]
  dsimp only
  have hclt := l.cltt.toNat_lt
  have hvlt := l.validLft.toNat_lt
  rw [hcl, hvl, if_pos (by omega)]
  rfl

theorem filter_answers {field : Option (List Char)} {s : List Char}
    (h : Answers field s) : field.filter (· ≠ []) = filled s := by
  unfold filled
  rcases h with rfl | ⟨rfl, rfl⟩
  · by_cases hs : s = [] <;> simp [Option.filter, hs]
  · rfl

/-- The answer's form of a lease is read as a row that states it. -/
theorem toKea_eq {line : List Char} (ha : l.InAnswer a) (hrow : l.InRow line) : a.toKea = some (rowLease line) := by
  unfold ApiLease.toKea rowLease
  rw [expire_in ha, Option.map_some, filter_answers ha.hwaddr, filter_answers ha.hostname, ha.address, ha.state,
    hrow.address, hrow.hwaddr, hrow.hostname, hrow.state, hrow.expire]
  rfl

theorem mapM_toKea : ∀ {leases : List Lease} {answers : List ApiLease} {lineOf : Lease → List Char},
    List.Forall₂ Lease.InAnswer leases answers → (∀ l ∈ leases, l.InRow (lineOf l)) →
      answers.mapM ApiLease.toKea = some (leases.map fun l => rowLease (lineOf l)) := by
  intro leases answers lineOf h
  induction h with
  | nil => intro _; rfl
  | cons ha _ ih =>
    intro hrows
    rw [mapM_cons, toKea_eq ha (hrows _ mem_cons_self), ih fun l hl => hrows l (mem_cons_of_mem _ hl)]
    rfl

/-- What the answer is read as is what the memfile is read as. -/
theorem backends_agree {fromStr : String → Except String Lease4GetAllResponse} {json : String}
    {resp : Lease4GetAllResponse} {leases : List Lease} (hjson : fromStr json = .ok resp)
    (hresult : resp.result = 0 ∨ resp.result = 3) (hanswer : List.Forall₂ Lease.InAnswer leases resp.leases)
    (hrows : LastRows text leases) :
    ∃ found, parseLease4GetAll fromStr json = some (.ok found) ∧ ∀ k, k ∈ found ↔ k ∈ parseKeaLeases text := by
  have hlast : ∀ l ∈ leases, ∃ line ∈ latest (column · 0) (wellFormedRows text), l.InRow line := by
    intro l hl
    obtain ⟨before, line, after, hsplit, hrow, hafter⟩ := hrows.last l hl
    exact ⟨line, mem_latest.mpr ⟨before, after, hsplit, fun later hlater e =>
      hafter later hlater (e.trans hrow.address)⟩, hrow⟩
  choose! lineOf hline hrow using hlast
  refine ⟨leases.map fun l => rowLease (lineOf l), ?_, fun k => ?_⟩
  · unfold parseLease4GetAll
    rw [hjson]
    dsimp only
    rw [if_pos hresult, mapM_toKea hanswer hrow]
    rfl
  · rw [mem_parseKeaLeases, List.mem_map]
    constructor
    · rintro ⟨l, hl, rfl⟩
      exact ⟨lineOf l, hline l hl, rfl⟩
    · rintro ⟨line, hmem, rfl⟩
      obtain ⟨before, after, hsplit, _⟩ := mem_latest.mp hmem
      obtain ⟨l, hl, haddress⟩ := hrows.only line (by rw [hsplit]; simp)
      have hsame : lineOf l = line := latest_inj (hline l hl) hmem ((hrow l hl).address.trans haddress)
      exact ⟨l, hl, by rw [hsame]⟩

/-! ## Overflow -/

/-- The sum of a lease's two times, where it has both, is an `i64`. -/
def ApiLease.Fits (l : ApiLease) : Prop :=
  ∀ c ∈ l.cltt, ∀ v ∈ l.validLft, -9223372036854775808 ≤ c.toInt + v.toInt ∧ c.toInt + v.toInt ≤ 9223372036854775807

theorem toKea_isSome {l : ApiLease} : l.toKea.isSome ↔ l.Fits := by
  unfold ApiLease.toKea ApiLease.expire ApiLease.Fits addI64
  rw [Option.isSome_map]
  cases l.cltt with
  | none => simp
  | some c =>
    cases l.validLft with
    | none => simp
    | some v =>
      simp only [Option.mem_def, Option.some.injEq, forall_eq']
      split <;> simp_all

theorem mapM_isSome : ∀ {leases : List ApiLease}, (leases.mapM ApiLease.toKea).isSome ↔ ∀ l ∈ leases, l.Fits := by
  intro leases
  induction leases with
  | nil => simp
  | cons l rest ih =>
    rw [forall_mem_cons, ← toKea_isSome, ← ih, mapM_cons]
    cases l.toKea with
    | none => simp
    | some k => cases rest.mapM ApiLease.toKea <;> simp

/-- The two backends agree on the same leases; and a text is read without an overflow exactly where it is no answer with
    leases, or the two times of each of them add up to an `i64`. -/
theorem kea_backends_iff (fromStr : String → Except String Lease4GetAllResponse) :
    (∀ (json : String) (resp : Lease4GetAllResponse) (text : List Char) (leases : List Lease), fromStr json = .ok resp →
      (resp.result = 0 ∨ resp.result = 3) → List.Forall₂ Lease.InAnswer leases resp.leases → LastRows text leases →
        ∃ found, parseLease4GetAll fromStr json = some (.ok found) ∧ ∀ k, k ∈ found ↔ k ∈ parseKeaLeases text) ∧
    ∀ json, (∃ result, parseLease4GetAll fromStr json = some result) ↔
      ∀ resp, fromStr json = .ok resp → (resp.result = 0 ∨ resp.result = 3) → ∀ l ∈ resp.leases, l.Fits := by
  refine ⟨fun _ _ _ _ => backends_agree, fun json => ?_⟩
  rw [← Option.isSome_iff_exists]
  unfold parseLease4GetAll
  cases fromStr json with
  | error e => simp
  | ok resp =>
    simp only [Except.ok.injEq, forall_eq']
    by_cases hresult : resp.result = 0 ∨ resp.result = 3
    · rw [if_pos hresult, Option.isSome_map, mapM_isSome]
      exact ⟨fun h _ => h, fun h => h hresult⟩
    · rw [if_neg hresult]
      refine iff_of_true ?_ fun h => absurd h hresult
      split <;> rfl

/-! ## An answer that overflows -/

/-- An answer with one lease, as text. -/
def answerText (cltt : String) : String :=
  "\x7b\"result\":0,\"arguments\":\x7b\"leases\":[\x7b\"ip-address\":\"10.0.0.1\",\"cltt\":" ++ cltt ++
    ",\"valid-lft\":1\x7d]\x7d\x7d"

def answerWith (cltt : Int64) : Lease4GetAllResponse :=
  ⟨0, none, some [⟨"10.0.0.1".toList, none, none, none, some cltt, some 1⟩]⟩

/-- Reads that answer, with the largest time. -/
def readLargest (json : String) : Except String Lease4GetAllResponse :=
  if json = answerText "9223372036854775807" then .ok (answerWith 9223372036854775807)
    else .error "EOF while parsing a value"

theorem a_lifetime_overflows :
    ¬∃ result, parseLease4GetAll readLargest (answerText "9223372036854775807") = some result := by
  have hread : readLargest (answerText "9223372036854775807") = .ok (answerWith 9223372036854775807) := if_pos rfl
  have hnone : parseLease4GetAll readLargest (answerText "9223372036854775807") = none := by
    unfold parseLease4GetAll
    rw [hread]
    rfl
  rw [hnone]
  rintro ⟨_, h⟩
  cases h

/-- The answer for the memfile's lease. -/
def readOne (json : String) : Except String Lease4GetAllResponse :=
  if json = "\x7b\"result\":0,\"arguments\":\x7b\"leases\":[\x7b\"ip-address\":\"10.0.0.2\",\"hw-address\":\"08:00:27:00:00:02\"," ++
      "\"hostname\":\"ok\",\"state\":0,\"cltt\":1782746554,\"valid-lft\":3600\x7d]\x7d\x7d" then
    .ok ⟨0, none, some [⟨"10.0.0.2".toList, some "08:00:27:00:00:02".toList, some "ok".toList,
      some 0, some 1782746554, some 3600⟩]⟩
  else .error "EOF while parsing a value"

def oneLease : Lease := ⟨"10.0.0.2".toList, "08:00:27:00:00:02".toList, "ok".toList, 0, 1782746554, 3600⟩

/-- The memfile's lease behind a header and an older row of its address. -/
def history : List Char := "address,hwaddr,client_id\n10.0.0.2,,,3600,1782735754,1,0,0,old,1,\n\n".toList ++ memfile

/-- An older row is not returned, by either backend. -/
theorem a_lease_is_read_alike :
    ∃ json found, parseLease4GetAll readOne json = some (.ok found) ∧ ∀ k, k ∈ found ↔ k ∈ parseKeaLeases history := by
  have hrows : wellFormedRows history = ["10.0.0.2,,,3600,1782735754,1,0,0,old,1,".toList] ++
      "10.0.0.2,08:00:27:00:00:02,,3600,1782750154,1,0,0,ok,0,".toList :: [] := by decide +kernel
  have hlast : LastRows history [oneLease] := by
    refine ⟨fun l hl => ?_, fun line hline => ⟨oneLease, mem_singleton_self _, ?_⟩⟩
    · rw [mem_singleton.mp hl]
      exact ⟨_, _, _, hrows, ⟨by decide, by decide, by decide, by decide, by decide⟩,
        fun _ h => absurd h not_mem_nil⟩
    · rw [hrows] at hline
      rcases mem_append.mp hline with h | h
      · rw [mem_singleton.mp h]
        decide
      · rw [mem_singleton.mp h]
        decide
  have hanswer : List.Forall₂ Lease.InAnswer [oneLease]
      [⟨"10.0.0.2".toList, some "08:00:27:00:00:02".toList, some "ok".toList, some 0, some 1782746554, some 3600⟩] :=
    .cons ⟨rfl, .inl rfl, .inl rfl, rfl, ⟨_, rfl, rfl⟩, ⟨_, rfl, rfl⟩⟩ .nil
  exact ⟨_, (kea_backends_iff readOne).1 _ _ history [oneLease] (if_pos rfl) (.inl rfl) hanswer hlast⟩

end Nq.LeasePresence
