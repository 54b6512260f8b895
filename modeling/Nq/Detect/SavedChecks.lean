/-
  Nq.Detect.SavedChecks — what a saved check makes of the table of its query (`detect.rs`,
  `run_saved_checks`).

  A check reads a hundred rows as texts, and a column that is not a number as the first. A
  check for rows is right, and states their number up to a hundred; a threshold check is
  right exactly where what it reads agrees with the whole table (`savedCheck_iff`), as it
  does for a small table and an index (`agrees_of_few`).

  - `a_named_column_is_read_as_the_first`.
-/

import Nq.Detect.Distinct

namespace Nq

open List
open Sql (F64)

/-! ## Tables of a query -/

/-- `rusqlite::types::Value`; no REAL is NaN. -/
inductive SqlValue where
  | null
  | integer (i : Int)
  | real (f : F64) (h : f ≠ .nan)
  | text (s : String)
  | blob (bytes : List UInt8)

/-- The text of a cell, where `display` is `f64::to_string`. -/
def SqlValue.toText (display : F64 → String) : SqlValue → String
  | .null => ""
  | .integer i => toString i
  | .real f _ => display f
  | .text s => s
  | .blob _ => "<blob>"

structure ResultTable where
  columns : List String
  rows : List (List SqlValue)

/-- A number greater than the threshold. -/
def SqlValue.Exceeds (t : F64) : SqlValue → Prop
  | .integer i => F64.lt t (.fin i) = true
  | .real f _ => F64.lt t f = true
  | _ => False

namespace ResultTable

variable (table : ResultTable)

/-- Some row's value in the column is a number greater than the threshold. -/
def Exceeds (t : F64) (i : Nat) : Prop := ∃ row ∈ table.rows, ∃ v, row[i]? = some v ∧ v.Exceeds t

end ResultTable

/-- The index a column's text spells, as `str::parse::<usize>` reads it. -/
def columnIndex? (s : String) : Option Nat :=
  let digits := match s.toList with
    | '+' :: ds => ds
    | ds => ds
  if digits ≠ [] ∧ digits.all (fun c => '0' ≤ c ∧ c ≤ '9') then
    let n := digits.foldl (fun n c => n * 10 + (c.toNat - '0'.toNat)) 0
    if n < 2 ^ 64 then some n else none
  else none

/-- The column meant by an index or a name, if the table has it. -/
def ResultTable.column? (table : ResultTable) (c : String) : Option Nat :=
  match columnIndex? c with
  | some i => if i < table.columns.length then some i else none
  | none => table.columns.idxOf? c

theorem parseUsize_eq (c : String) : parseUsize c = (columnIndex? c).getD 0 := by
  unfold parseUsize columnIndex?
  generalize c.toList = s
  dsimp only
  rw [apply_ite (Option.getD · 0), apply_ite (Option.getD · 0)]
  rfl

/-! ## What a check reads -/

section

variable (env : Env) (display : F64 → String) (db : Db)

/-- The check's text is run, and gives the table. -/
structure Produces (q : SavedQuery) (table : ResultTable) : Prop where
  gate : ("SELECT".toList.isPrefixOf (env.checks.normalize q.sqlText).toList ||
    "WITH".toList.isPrefixOf (env.checks.normalize q.sqlText).toList) = true
  query : env.checks.query db q.sqlText = .ok (table.rows.map fun row => .ok (row.map (SqlValue.toText display)))

/-- What a cell is taken for: an integer for the nearest double, a text for the number it reads as. -/
def SqlValue.asDouble : SqlValue → Option F64
  | .integer i => some (env.arith.ofInt i)
  | .real f _ => some f
  | .text s => env.checks.parseF64 s
  | _ => none

/-- What `f64` does with the texts of cells, and with counts: a number is read back from its text, an integer as the
    nearest double, and nothing from the texts of NULL and of a blob; counts over a hundred are told from it. -/
structure ReadsCells (table : ResultTable) : Prop where
  cell : ∀ row ∈ table.rows, ∀ v ∈ row, env.checks.parseF64 (v.toText display) = v.asDouble env
  count : ∀ n : Nat, 100 < n → env.arith.ofInt n ≠ env.arith.ofInt 100

/-- A cell that is taken for a number greater than the threshold. -/
def SqlValue.Reads (t : F64) (v : SqlValue) : Prop := (v.asDouble env).any (F64.lt t) = true

/-- One of the first hundred rows has such a cell in the column. -/
def ResultTable.Reads (table : ResultTable) (t : F64) (i : Nat) : Prop :=
  ∃ row ∈ table.rows.take 100, ∃ v, row[i]? = some v ∧ v.Reads env t

/-- The finding is the one of the failed check. -/
def Emits (q : SavedQuery) (f : Finding) : Prop :=
  f ∈ runSavedChecks env db ∧ f.kind = "check_failed" ∧ f.subject = "#" ++ toString q.queryId

/-- The check judges the whole table. -/
def Judges (q : SavedQuery) (table : ResultTable) : CheckMode → Prop
  | .nonEmpty => ((∃ f, Emits env db q f) ↔ table.rows ≠ []) ∧ ∀ f, Emits env db q f →
      f.value = some (env.arith.ofInt table.rows.length)
  | .empty => ((∃ f, Emits env db q f) ↔ table.rows = []) ∧ ∀ f, Emits env db q f →
      f.value = some (env.arith.ofInt table.rows.length)
  | .threshold => ∀ t c, q.checkThreshold = some t → q.checkColumn = some c →
      (∀ i, table.column? c = some i → ((∃ f, Emits env db q f) ↔ table.Exceeds t i)) ∧
        (table.column? c = none → table.columns ≠ [] → parseUsize c ≠ 0)
  | .none_ => True

/-- What is read agrees with the table: for rows, there are at most a hundred; for a threshold, one of the first
    hundred rows is taken
    to exceed it in the column that is read where some row does in the column that is meant, and none where none does,
    and a column that the table does not have is spelled as a number. -/
def Agrees (q : SavedQuery) (table : ResultTable) : CheckMode → Prop
  | .nonEmpty => table.rows.length ≤ 100
  | .empty => True
  | .threshold => ∀ t c, q.checkThreshold = some t → q.checkColumn = some c →
      (∀ i, table.column? c = some i → (table.Exceeds t i → table.Reads env t ((columnIndex? c).getD 0)) ∧
        (¬table.Exceeds t i → ¬table.Reads env t ((columnIndex? c).getD 0))) ∧
        (table.column? c = none → table.columns ≠ [] → columnIndex? c ≠ none)
  | .none_ => True

end

/-! ## Running a check -/

section

variable {env : Env} {display : F64 → String} {db : Db} {q : SavedQuery} {table : ResultTable}

theorem readRows_ok : ∀ (n : Nat) (rows : List (List String)), readRows n (rows.map .ok) = .ok (rows.take n)
  | 0, _ => by rw [take_zero]; rfl
  | _ + 1, [] => rfl
  | n + 1, row :: rows => by
    rw [map_cons, readRows, take_succ_cons, readRows_ok n rows]
    rfl

theorem runCheckQuery_eq (h : Produces env display db q table) :
    runCheckQuery env.checks db q.sqlText = .ok ((table.rows.take 100).map fun row =>
      row.map (SqlValue.toText display)) := by
  have hread := readRows_ok 100 (table.rows.map fun row => row.map (SqlValue.toText display))
  rw [map_map] at hread
  unfold runCheckQuery
  dsimp only
  rw [if_pos h.gate, h.query, map_take]
  exact hread

/-- The threshold is exceeded in what is read. -/
theorem checkThresholdExceeded_iff (hcells : ReadsCells env display table) (t : F64) (c : String) :
    checkThresholdExceeded env.checks ((table.rows.take 100).map fun row =>
      row.map (SqlValue.toText display)) c t = true ↔
      table.Reads env t ((columnIndex? c).getD 0) := by
  unfold checkThresholdExceeded ResultTable.Reads
  rw [any_map, any_eq_true, parseUsize_eq]
  refine exists_congr fun row => and_congr_right fun hrow => ?_
  rw [Function.comp_apply, getElem?_map]
  cases hv : row[(columnIndex? c).getD 0]? with
  | none => simp
  | some v =>
    rw [Option.map_some, Option.any_some, hcells.cell row (mem_of_mem_take hrow) v (mem_of_getElem? hv)]
    simp [SqlValue.Reads]

variable {f : Finding} {mode : CheckMode}

/-- A failed check is found by its number. -/
theorem emits_iff (hq : q ∈ db.savedQueries.table.rows) :
    Emits env db q f ↔ savedCheck env db q = some f ∧ f.kind = "check_failed" := by
  unfold Emits runSavedChecks
  have hother : "check_error" ≠ "check_failed" := by decide
  constructor
  · rintro ⟨hmem, hkind, hsubject⟩
    obtain ⟨q', hq', hf⟩ := mem_filterMap.mp hmem
    have hid := savedCheck_id hf
    have hsame : q'.queryId = q.queryId := by
      rcases hid with hid | hid
      · exact absurd ((congrArg FindingId.kind hid).symm.trans hkind) hother
      · exact checkFailed_subject_inj ((congrArg FindingId.subject hid).symm.trans hsubject)
    rw [inj_on_of_nodup_map db.savedQueries.table.nodup hq' hq hsame] at hf
    exact ⟨hf, hkind⟩
  · rintro ⟨hf, hkind⟩
    refine ⟨mem_filterMap.mpr ⟨q, hq, hf⟩, hkind, ?_⟩
    rcases savedCheck_id hf with hid | hid
    · exact absurd ((congrArg FindingId.kind hid).symm.trans hkind) hother
    · exact congrArg FindingId.subject hid

/-- A check that runs is found exactly where what it reads fails it, with the number of rows it reads. -/
theorem emits_of_produces (hq : q ∈ db.savedQueries.table.rows) (h : Produces env display db q table)
    (hmode : q.checkMode = some mode) (hchecked : mode ≠ .none_) : Emits env db q f ↔
      mode.fails env.checks q ((table.rows.take 100).map fun row => row.map (SqlValue.toText display)) = true ∧
        f = checkFailed env mode q (min 100 table.rows.length) := by
  rw [emits_iff hq]
  have hsaved : savedCheck env db q =
      if mode.fails env.checks q ((table.rows.take 100).map fun row => row.map (SqlValue.toText display)) then
        some (checkFailed env mode q (min 100 table.rows.length)) else none := by
    unfold savedCheck
    rw [hmode, runCheckQuery_eq h]
    cases mode with
    | none_ => exact absurd rfl hchecked
    | _ => simp only [length_map, length_take]
  rw [hsaved]
  by_cases hfails : mode.fails env.checks q ((table.rows.take 100).map fun row =>
    row.map (SqlValue.toText display)) = true
  · rw [if_pos hfails]
    constructor
    · rintro ⟨heq, -⟩
      exact ⟨hfails, (Option.some.inj heq).symm⟩
    · rintro ⟨-, rfl⟩
      exact ⟨rfl, rfl⟩
  · rw [if_neg hfails]
    constructor
    · rintro ⟨hnone, -⟩
      cases hnone
    · exact fun h => absurd h.1 hfails

/-! ## The whole table -/

theorem exists_emits (hq : q ∈ db.savedQueries.table.rows) (h : Produces env display db q table)
    (hmode : q.checkMode = some mode) (hchecked : mode ≠ .none_) : (∃ f, Emits env db q f) ↔
      mode.fails env.checks q ((table.rows.take 100).map fun row => row.map (SqlValue.toText display)) = true := by
  simp only [emits_of_produces hq h hmode hchecked]
  exact ⟨fun ⟨_, hfails, _⟩ => hfails, fun hfails => ⟨_, hfails, rfl⟩⟩

theorem take_ne_nil {α : Type} {rows : List α} : 0 < (rows.take 100).length ↔ rows ≠ [] := by
  cases rows with
  | nil => simp
  | cons row rows => simp

/-- A check whose query gives a table judges the whole of it exactly where what it reads agrees with it. -/
theorem savedCheck_iff (hq : q ∈ db.savedQueries.table.rows)
    (h : Produces env display db q table) (hcells : ReadsCells env display table)
    {mode : CheckMode} (hmode : q.checkMode = some mode) : Judges env db q table mode ↔ Agrees env q table mode := by
  cases mode with
  | none_ => exact Iff.rfl
  | nonEmpty =>
    have hemits := exists_emits hq h hmode (by decide)
    have hvalue := fun f => emits_of_produces hq h hmode (by decide) (f := f)
    have hfails : CheckMode.nonEmpty.fails env.checks q ((table.rows.take 100).map fun row =>
      row.map (SqlValue.toText display)) = true ↔
        table.rows ≠ [] := by
      unfold CheckMode.fails
      rw [decide_eq_true_iff, length_map]
      exact take_ne_nil
    unfold Judges Agrees
    dsimp only
    rw [and_iff_right (hemits.trans hfails)]
    constructor
    · intro hcount
      by_contra hmany
      have hrows : table.rows ≠ [] := by
        rintro hnil
        rw [hnil] at hmany
        exact hmany (by decide)
      have heq := hcount _ ((hvalue _).mpr ⟨hfails.mpr hrows, rfl⟩)
      have hmin : min 100 table.rows.length = 100 := by omega
      have heq : some (env.arith.ofInt (min 100 table.rows.length : Nat)) =
          some (env.arith.ofInt table.rows.length) := heq
      rw [hmin] at heq
      exact hcells.count table.rows.length (by omega) (Option.some.inj heq).symm
    · intro hfew f hf
      obtain ⟨-, rfl⟩ := (hvalue f).mp hf
      have hmin : min 100 table.rows.length = table.rows.length := by omega
      show some (env.arith.ofInt (min 100 table.rows.length : Nat)) = _
      rw [hmin]
  | empty =>
    have hemits := exists_emits hq h hmode (by decide)
    have hvalue := fun f => emits_of_produces hq h hmode (by decide) (f := f)
    have hfails : CheckMode.empty.fails env.checks q ((table.rows.take 100).map fun row =>
      row.map (SqlValue.toText display)) = true ↔
        table.rows = [] := by
      unfold CheckMode.fails
      rw [decide_eq_true_iff, length_map, ← not_iff_not, ← Ne, ← Nat.pos_iff_ne_zero]
      exact take_ne_nil
    unfold Judges Agrees
    dsimp only
    refine iff_of_true ⟨hemits.trans hfails, fun f hf => ?_⟩ trivial
    obtain ⟨hempty, rfl⟩ := (hvalue f).mp hf
    show some (env.arith.ofInt (min 100 table.rows.length : Nat)) = _
    rw [hfails.mp hempty]
    rfl
  | threshold =>
    have hemits := exists_emits hq h hmode (by decide)
    unfold Judges Agrees
    refine forall_congr' fun t => forall_congr' fun c => forall_congr' fun ht => forall_congr' fun hc => ?_
    have hfails : CheckMode.threshold.fails env.checks q ((table.rows.take 100).map fun row =>
      row.map (SqlValue.toText display)) = true ↔
        table.Reads env t ((columnIndex? c).getD 0) := by
      unfold CheckMode.fails
      rw [ht, hc]
      exact checkThresholdExceeded_iff hcells t c
    refine and_congr (forall_congr' fun i => forall_congr' fun _ => ?_) (forall_congr' fun hnone =>
      forall_congr' fun hcolumns => ?_)
    · rw [hemits, hfails, not_imp_not]
      exact ⟨fun hiff => ⟨hiff.mpr, hiff.mp⟩, fun hboth => ⟨hboth.2, hboth.1⟩⟩
    · -- an index behind the last column is no zero
      rw [parseUsize_eq]
      cases hindex : columnIndex? c with
      | none => simp
      | some i =>
        unfold ResultTable.column? at hnone
        rw [hindex] at hnone
        have hle : ¬i < table.columns.length := fun hlt => by
          dsimp only at hnone
          rw [if_pos hlt] at hnone
          cases hnone
        have hpos := length_pos_of_ne_nil hcolumns
        have hne : i ≠ 0 := by omega
        simpa using hne

/-- A small table and an index of one of its columns: where no text of the column reads as a number greater than the
    threshold, and doubles keep its integers on their side of it, what is read agrees. -/
theorem agrees_of_few {t : F64} {c : String} {i : Nat} (ht : q.checkThreshold = some t) (hc : q.checkColumn = some c)
    (hindex : columnIndex? c = some i) (hi : i < table.columns.length) (hfew : table.rows.length ≤ 100)
    (hcolumn : ∀ row ∈ table.rows, ∀ v, row[i]? = some v →
      (v.Reads env t ↔ v.Exceeds t)) : Agrees env q table .threshold := by
  unfold Agrees
  intro t' c' ht' hc'
  obtain rfl : t = t' := Option.some.inj (ht.symm.trans ht')
  obtain rfl : c = c' := Option.some.inj (hc.symm.trans hc')
  have hmeant : table.column? c = some i := by
    unfold ResultTable.column?
    rw [hindex]
    exact if_pos hi
  have hreads : table.Reads env t i ↔ table.Exceeds t i := by
    unfold ResultTable.Reads ResultTable.Exceeds
    rw [take_of_length_le hfew]
    exact exists_congr fun row => and_congr_right fun hrow =>
      exists_congr fun v => and_congr_right fun hv => hcolumn row hrow v hv
  refine ⟨fun j hj => ?_, fun hnone => by rw [hmeant] at hnone; cases hnone⟩
  obtain rfl : i = j := Option.some.inj (hmeant.symm.trans hj)
  rw [hindex, Option.getD_some, hreads]
  exact ⟨id, id⟩

end

/-! ## A disk that is too full -/

def fullDisk : ResultTable := ⟨["host", "used"], [[.text "db-1", .integer 99]]⟩

def diskCheck (column : String) : SavedQuery :=
  { queryId := 1, name := "disk", sqlText := "SELECT host, used FROM disks", checkMode := some .threshold
    checkThreshold := some 95, checkColumn := some column }

def diskDb (column : String) : Db := { Db.init with savedQueries := ⟨⟨[diskCheck column], by simp⟩, by simp⟩ }

/-- Every query gives the disk, and the one number is read. -/
def diskEnv : Env :=
  { exactEnv with
    checks := { exactEnv.checks with
      query := fun _ _ => .ok (fullDisk.rows.map fun row => .ok (row.map (SqlValue.toText fun _ => "")))
      parseF64 := fun s => if s = "99" then some 99 else none } }

theorem disk_produces (column : String) :
    Produces diskEnv (fun _ => "") (diskDb column) (diskCheck column) fullDisk := by
  have hgate : "SELECT".toList.isPrefixOf (String.toUpper "SELECT host, used FROM disks").toList = true :=
    by decide +kernel
  exact ⟨Bool.or_eq_true_iff.mpr (.inl hgate), rfl⟩

theorem disk_cells : ReadsCells diskEnv (fun _ => "") fullDisk := by
  refine ⟨fun row hrow v hv => ?_, fun n hn h => ?_⟩
  · rw [mem_singleton.mp hrow] at hv
    rcases mem_cons.mp hv with rfl | hv
    · rfl
    · rw [mem_singleton.mp hv]
      rfl
  · have hcast : ((n : Int) : ℚ) = ((100 : Int) : ℚ) := F64.fin.inj h
    have := Int.cast_injective hcast
    omega

/-- The column is meant by its name, and the host is read in its place. -/
theorem a_named_column_is_read_as_the_first : ∃ env display db q table, q ∈ db.savedQueries.table.rows ∧
    Produces env display db q table ∧
    ReadsCells env display table ∧ q.checkMode = some .threshold ∧ q.checkColumn = some "used" ∧ table.column? "used" =
      some 1 ∧ table.Exceeds 95 1 ∧ ¬Judges env db q table .threshold := by
  have hexceeds : fullDisk.Exceeds 95 1 := ⟨_, mem_cons_self, .integer 99, rfl, by unfold SqlValue.Exceeds; decide⟩
  have hcolumn : fullDisk.column? "used" = some 1 := by decide
  refine ⟨diskEnv, fun _ => "", diskDb "used", diskCheck "used", fullDisk, mem_cons_self, disk_produces "used",
    disk_cells, rfl, rfl, hcolumn, hexceeds, fun h => ?_⟩
  obtain ⟨f, hf, -⟩ := ((h 95 "used" rfl rfl).1 1 hcolumn).mpr hexceeds
  have hnone : runSavedChecks diskEnv (diskDb "used") = [] := by decide +kernel
  rw [hnone] at hf
  cases hf

/-- Meant by its index, the column is judged. -/
theorem an_index_is_judged : Judges diskEnv (diskDb "1") (diskCheck "1") fullDisk .threshold := by
  have hcolumn : ∀ row ∈ fullDisk.rows, ∀ v, row[1]? = some v → (v.Reads diskEnv 95 ↔ v.Exceeds 95) := by
    intro row hrow v hv
    rw [mem_singleton.mp hrow] at hv
    cases hv
    exact Iff.rfl
  exact (savedCheck_iff mem_cons_self (disk_produces "1") disk_cells rfl).mpr
    (agrees_of_few rfl rfl (by decide) (by decide) (by decide) hcolumn)

end Nq
