/-
  Nq.Db.Startup — what a monitor does to the database it is started on
  (`nq-db/src/connect.rs`, `migrate.rs`, `schema_compatibility.rs`).

  A startup inspects the file, opens it for writing unless the inspection says to stop, and
  applies the migrations the file has not had, each in a transaction of its own that also sets
  `user_version`. It may fail or die between any two transactions (`fails`). Releases of the
  monitor share one list of migrations that only ever grows (`Series`), and a file may be
  started on by any of them in turn (`Reach`).

  - `reach_hasHad`: in every history a file of version v has had the first v migrations, each
    once and in order; `startup_version_le`: no startup lowers the version.
  - `report_predicts_startup`: on any file whatever, the report says beforehand whether a
    startup is refused, whether it creates the file and whether it migrates it; a refused
    startup leaves everything as it was.
  - `every_release_upgrades`: a file of any history of earlier releases comes out of an
    undisturbed startup with the whole schema.
-/

import Nq.Db.Migrations

namespace Nq.Migrate

open List hiding le_refl

/-! ## Files -/

/-- A SQLite file, as far as a startup looks at it; `user_version` is a signed integer. -/
structure SqliteFile where
  userVersion : Int
  schema : Schema
  deriving DecidableEq, Repr

/-- What is at the configured path. -/
inductive Place where
  | absent
  | notADatabase (error : String)
  | file (f : SqliteFile)
  deriving DecidableEq, Repr

/-- `read_schema_version`: a `u32`. -/
def readSchemaVersion : Place → Except String Nat
  | .absent => .ok 0
  | .notADatabase error => .error error
  | .file f =>
    if f.userVersion < 0 then .error ("Integer " ++ toString f.userVersion ++ " out of range at index 0")
      else .ok f.userVersion.toNat

/-- What a connection opened there holds; SQLite creates a file that is absent, with nothing in it. -/
def Place.contents : Place → SqliteFile
  | .file f => f
  | _ => ⟨0, []⟩

/-- `name LIKE 'sqlite_%'` -/
def internal (name : String) : Bool :=
  (name.toList.take 6).map Char.toLower = "sqlite".toList && 7 ≤ name.toList.length

def userObjectCount (s : Schema) : Nat := (s.filter fun o => !internal o.name).length

/-! ## The report -/

inductive SchemaCompatibilityState where
  | absent | uninitialized | current | upgradeRequired | unsupportedNewer | unrecognized
  deriving DecidableEq, Repr

structure SchemaCompatibilityReport where
  schema : String := "nq.sqlite.schema-compatibility.v1"
  databasePath : String
  state : SchemaCompatibilityState
  foundVersion : Option Nat
  supportedVersion : Nat
  startupCompatible : Bool
  startupWillCreateDatabase : Bool := false
  startupWillMigrateSchema : Bool
  evidenceDeletedByCheck : Bool := false
  summary : String
  nextAction : String
  deriving DecidableEq, Repr

def SchemaCompatibilityReport.requiresOperatorStop (r : SchemaCompatibilityReport) : Bool := !r.startupCompatible

section

variable (supported : Nat) (databasePath : String)

def reportForVersion : Option Nat → SchemaCompatibilityReport
  | none =>
    { databasePath, state := .absent, foundVersion := none, supportedVersion := supported
      startupCompatible := true, startupWillCreateDatabase := true, startupWillMigrateSchema := true
      summary := "No database exists at the requested path."
      nextAction := "Confirm the path is intentional. The first monitor startup will create a new database and initialize its schema; it will not recover evidence from another path." }
  | some 0 =>
    { databasePath, state := .uninitialized, foundVersion := some 0, supportedVersion := supported
      startupCompatible := true, startupWillMigrateSchema := true
      summary := "The existing SQLite file is empty and has no initialized NQ schema."
      nextAction := "Confirm this empty path is intentional. The first monitor startup will initialize the NQ schema; it will not recover evidence from another path." }
  | some version =>
    if version = supported then
      { databasePath, state := .current, foundVersion := some version, supportedVersion := supported
        startupCompatible := true, startupWillMigrateSchema := false
        summary := "Database schema version " ++ toString version ++ " matches this binary."
        nextAction := "No schema migration is required. Normal monitor startup can still append observations and coordination records." }
    else if version < supported then
      { databasePath, state := .upgradeRequired, foundVersion := some version, supportedVersion := supported
        startupCompatible := true, startupWillMigrateSchema := true
        summary := "Database schema version " ++ toString version ++ " is older than this binary's version " ++
          toString supported ++ "."
        nextAction := "Back up the durable database and its SQLite sidecars, then start the compatible binary to apply forward migrations. This check did not migrate or repair anything." }
    else
      { databasePath, state := .unsupportedNewer, foundVersion := some version, supportedVersion := supported
        startupCompatible := false, startupWillMigrateSchema := false
        summary := "Database schema version " ++ toString version ++ " is newer than this binary supports (through " ++
          toString supported ++ ")."
        nextAction := "Stop. Use a compatible or newer NQ binary; do not downgrade, reset, or delete the database to bypass this refusal." }

def unrecognizedReport (foundVersion : Nat) (reason : String) : SchemaCompatibilityReport :=
  { databasePath, state := .unrecognized, foundVersion := some foundVersion, supportedVersion := supported
    startupCompatible := false, startupWillMigrateSchema := false
    summary := "The file is not recognized as an NQ database: " ++ reason ++ "."
    nextAction := "Stop and verify the configured database path. Do not migrate, reset, or delete this file as an NQ recovery action." }

/-- It reads the file and leaves it. -/
def inspectSchemaCompatibility (p : Place) : Except String SchemaCompatibilityReport :=
  if p = .absent then .ok (reportForVersion supported databasePath none)
  else
    match readSchemaVersion p with
    | .error error =>
      .error ("cannot read the schema version from database '" ++ databasePath ++ "': " ++ error ++
        "; no migration was attempted")
    | .ok 0 =>
      if userObjectCount p.contents.schema = 0 then .ok (reportForVersion supported databasePath (some 0))
      else .ok (unrecognizedReport supported databasePath 0
        "schema version is zero but the database already contains user objects")
    | .ok version =>
      if version ≤ supported ∧ hasTable p.contents.schema "generations" = false then
        .ok (unrecognizedReport supported databasePath version "the NQ generation ledger is absent")
      else .ok (reportForVersion supported databasePath (some version))

end

/-! ## A startup -/

inductive StartupError where
  | refused (message : String)
  | newer (found supported : Nat)
  | sql (version : Nat) (error : SqlError)
  /-- The transaction failed for what is outside the model, or the process died. -/
  | outside (version : Nat)
  deriving DecidableEq, Repr

/-- `open_rw`: what the connection that is open for writing holds. -/
def openRw (supported : Nat) (databasePath : String) (p : Place) : Except StartupError SqliteFile :=
  if p = .absent then .ok p.contents
  else
    match inspectSchemaCompatibility supported databasePath p with
    | .error error => .error (.refused error)
    | .ok report =>
      if report.requiresOperatorStop then
        .error (.refused (report.summary ++ " " ++ report.nextAction ++ "; no write connection was opened"))
      else .ok p.contents

/-- The transactions, one after the other; the file keeps those that committed. -/
def applyPending (fails : Nat → Bool) : List Migration → SqliteFile → SqliteFile × Except StartupError Unit
  | [], f => (f, .ok ())
  | (version, sql) :: pending, f =>
    if fails version then (f, .error (.outside version))
    else
      match execAll sql f.schema with
      | .error e => (f, .error (.sql version e))
      | .ok schema => applyPending fails pending ⟨version, schema⟩

def migrate (release : List Migration) (fails : Nat → Bool) (f : SqliteFile) : SqliteFile × Except StartupError Unit :=
  if (release.length : Int) < f.userVersion then (f, .error (.newer f.userVersion.toNat release.length))
  else applyPending fails (release.filter fun m => f.userVersion < m.1) f

/-- What the monitor does first: `open_rw`, then `migrate`. -/
def startup (release : List Migration) (databasePath : String)
    (fails : Nat → Bool) (p : Place) : Place × Except StartupError Unit :=
  match openRw release.length databasePath p with
  | .error e => (p, .error e)
  | .ok f =>
    let out := migrate release fails f
    (.file out.1, out.2)

/-! ## Histories -/

/-- The migrations of all releases there are or will be: this one's come first, and none of a
    later release takes the generation ledger away. -/
structure Series where
  all : List Migration
  numbered : all.map Prod.fst = List.range' 1 all.length
  ours : migrations <+: all
  ledger : ∀ m ∈ all, ∀ d ∈ m.2, d.removes "generations" = false

/-- What startups of any releases, in any order, make of a path that had no file or an empty
    one. Nothing else changes the schema. -/
inductive Reach (series : Series) (databasePath : String) : Place → Prop
  | absent : Reach series databasePath .absent
  | empty : Reach series databasePath (.file ⟨0, []⟩)
  | startup {p} (n : Nat) (fails : Nat → Bool) : n ≤ series.all.length → Reach series databasePath p →
      Reach series databasePath (startup (series.all.take n) databasePath fails p).1

/-! ## What a startup leaves -/

/-- In a list numbered from one, the versions behind `v` are the rest of the list. -/
theorem filter_numbered (v : Nat) : ∀ {ms : List Migration} {s : Nat}, ms.map Prod.fst = List.range' (s + 1) ms.length →
    ms.filter (fun m => (v : Int) < m.1) = ms.drop (v - s) := by
  intro ms
  induction ms with
  | nil => intro s _; simp
  | cons m ms ih =>
    intro s h
    rw [map_cons, length_cons, range'_succ] at h
    obtain ⟨hm, hms⟩ := List.cons.inj h
    have hrest := ih hms
    by_cases hv : v < s + 1
    · have hall : v - s = 0 := by omega
      rw [filter_cons, hall, drop_zero, if_pos (by rw [hm]; simp; omega), hrest, show v - (s + 1) = 0 by omega,
        drop_zero]
    · rw [filter_cons, if_neg (by rw [hm]; simp; omega), hrest, show v - s = v - (s + 1) + 1 by omega, drop_succ_cons]

theorem drop_numbered {ms : List Migration} {n : Nat} (h : ms.map Prod.fst = List.range' 1 n) (v : Nat) :
    (ms.drop v).map Prod.fst = List.range' (v + 1) (ms.drop v).length := by
  have hlen : ms.length = n := by simpa using congrArg List.length h
  rw [map_drop, h, drop_range', length_drop, hlen, Nat.mul_one, Nat.add_comm]

/-- Some of the migrations are committed, those that come first; all of them when it returns. -/
theorem applyPending_spec (fails : Nat → Bool) : ∀ {pending : List Migration} {v : Nat} (schema : Schema),
    pending.map Prod.fst = List.range' (v + 1) pending.length →
    ∃ applied rest schema', pending = applied ++ rest ∧ execAll (statements applied) schema = .ok schema' ∧
      (applyPending fails pending ⟨v, schema⟩).1 = ⟨(v + applied.length : Nat), schema'⟩ ∧
      ((applyPending fails pending ⟨v, schema⟩).2 = .ok () ↔ rest = []) ∧
      ∀ msg, (applyPending fails pending ⟨v, schema⟩).2 ≠ .error (.refused msg) := by
  intro pending
  induction pending with
  | nil => exact fun schema _ => ⟨[], [], schema, rfl, rfl, rfl, by simp [applyPending], by simp [applyPending]⟩
  | cons m pending ih =>
    intro v schema hnum
    rw [map_cons, length_cons, range'_succ] at hnum
    obtain ⟨hm, hms⟩ := List.cons.inj hnum
    unfold applyPending
    by_cases hfail : fails m.1 = true
    · exact ⟨[], m :: pending, schema, rfl, rfl, by simp [hfail], by simp [hfail], by simp [hfail]⟩
    · rw [if_neg hfail]
      cases hexec : execAll m.2 schema with
      | error e => exact ⟨[], m :: pending, schema, rfl, rfl, by simp, by simp, by simp⟩
      | ok next =>
        obtain ⟨applied, rest, schema', rfl, hschema, hfile, hok, hmsg⟩ := ih next hms
        rw [hm]
        refine ⟨m :: applied, rest, schema', rfl, ?_, ?_, hok, hmsg⟩
        · rw [statements, flatMap_cons, execAll_append, hexec]
          exact hschema
        · rw [hfile, length_cons, show v + 1 + applied.length = v + (applied.length + 1) by omega]

section

variable {series : Series} {databasePath : String} {fails : Nat → Bool} {p : Place} {f : SqliteFile}
  {n : Nat}

theorem Series.take_numbered (series : Series) (hn : n ≤ series.all.length) :
    (series.all.take n).map Prod.fst = List.range' 1 n ∧ (series.all.take n).length = n := by
  refine ⟨?_, by simp [hn]⟩
  rw [map_take, series.numbered, take_range'_of_length_ge hn]

/-- The file has had the first `v` migrations of the series, and no others. -/
def HasHad (series : Series) (v : Nat) (f : SqliteFile) : Prop :=
  v ≤ series.all.length ∧ f.userVersion = v ∧ execAll (statements (series.all.take v)) [] = .ok f.schema

/-- What a startup of a release leaves of a file that its own kind made. -/
theorem migrate_hasHad {v : Nat} (hn : n ≤ series.all.length) (h : HasHad series v f) (fails : Nat → Bool) :
    ∃ k, v ≤ k ∧ HasHad series k (migrate (series.all.take n) fails f).1 ∧
      (v ≤ n → ((migrate (series.all.take n) fails f).2 = .ok () → k = n)) := by
  obtain ⟨hnum, hlen⟩ := series.take_numbered hn
  obtain ⟨hv, hversion, hschema⟩ := h
  unfold migrate
  rw [hlen, hversion]
  by_cases hnew : n < v
  · rw [if_pos (by omega)]
    exact ⟨v, le_refl v, ⟨hv, hversion, hschema⟩, by omega⟩
  · rw [if_neg (by omega), filter_numbered v (s := 0) (by rw [hnum, hlen]), Nat.sub_zero]
    obtain ⟨applied, rest, schema', hsplit, hexec, hfile, hok, -⟩ :=
      applyPending_spec fails f.schema (drop_numbered hnum v)
    have hf : f = ⟨(v : Nat), f.schema⟩ := by rw [← hversion]
    have hlength := congrArg List.length hsplit
    rw [length_drop, hlen, length_append] at hlength
    rw [hf]
    refine ⟨v + applied.length, by omega, ⟨by omega, ?_, ?_⟩, fun _ hdone => ?_⟩
    · rw [hfile]
    · have htake : series.all.take (v + applied.length) = series.all.take v ++ applied := by
        rw [take_add]
        congr 1
        have := congrArg (List.take applied.length) hsplit
        rw [take_left' rfl, drop_take, take_take] at this
        rw [show min applied.length (n - v) = applied.length by omega] at this
        exact this
      rw [hfile, htake, statements, flatMap_append, execAll_append]
      exact Sql.bind_ok.mpr ⟨_, hschema, hexec⟩
    · have := hok.mp hdone
      subst this
      simp only [length_nil, Nat.add_zero] at hlength
      omega

/-- Opening refuses, or opens what is there. -/
theorem openRw_cases (supported : Nat) (databasePath : String) (p : Place) :
    (∃ msg, openRw supported databasePath p = .error (.refused msg)) ∨
      openRw supported databasePath p = .ok p.contents := by
  unfold openRw
  split
  · exact .inr rfl
  · split
    · exact .inl ⟨_, rfl⟩
    · split
      · exact .inl ⟨_, rfl⟩
      · exact .inr rfl

/-- In every history of startups of any releases, a file of version `v` has had the first `v`
    migrations, each of them once and in their order. -/
theorem reach_hasHad (h : Reach series databasePath p) : ∃ v, HasHad series v p.contents := by
  induction h with
  | absent => exact ⟨0, Nat.zero_le _, rfl, rfl⟩
  | empty => exact ⟨0, Nat.zero_le _, rfl, rfl⟩
  | @startup p n fails hn _ ih =>
    obtain ⟨v, hv⟩ := ih
    unfold startup
    rcases openRw_cases (series.all.take n).length databasePath p with ⟨msg, hopen⟩ | hopen
    · rw [hopen]
      exact ⟨v, hv⟩
    · rw [hopen]
      obtain ⟨k, -, hk, -⟩ := migrate_hasHad hn hv fails
      exact ⟨k, hk⟩

end

/-! ## What the report says beforehand -/

/-- A report that lets the startup go on is for no file, an empty one, or an older or equal one. -/
theorem inspect_cases {supported : Nat} (hs : supported ≠ 0) (databasePath : String) (p : Place) :
    (∃ e, inspectSchemaCompatibility supported databasePath p = .error e ∧ p ≠ .absent) ∨
      ∃ r, inspectSchemaCompatibility supported databasePath p = .ok r ∧ (r.startupWillCreateDatabase = true ↔
        p = .absent) ∧ ((p ≠ .absent ∧ r.startupCompatible = false ∧ r.startupWillMigrateSchema = false) ∨
          r.startupCompatible = true ∧ ∃ v : Nat, p.contents.userVersion = v ∧ v ≤ supported ∧
            (r.startupWillMigrateSchema = true ↔ v ≠ supported)) := by
  unfold inspectSchemaCompatibility
  by_cases habsent : p = .absent
  · subst habsent
    exact .inr ⟨_, rfl, by simp [reportForVersion],
      .inr ⟨rfl, 0, rfl, Nat.zero_le _, by simp [reportForVersion, Ne.symm hs]⟩⟩
  · rw [if_neg habsent]
    cases p with
    | absent => exact absurd rfl habsent
    | notADatabase error => exact .inl ⟨_, rfl, habsent⟩
    | file f =>
      by_cases hneg : f.userVersion < 0
      · rw [show readSchemaVersion (.file f) = .error _ from if_pos hneg]
        exact .inl ⟨_, rfl, habsent⟩
      · right
        have hversion : (Place.file f).contents.userVersion = (f.userVersion.toNat : Int) := by
          show f.userVersion = _
          omega
        rw [show readSchemaVersion (.file f) = .ok f.userVersion.toNat from if_neg hneg]
        cases hv : f.userVersion.toNat with
        | zero =>
          by_cases hcount : userObjectCount (Place.file f).contents.schema = 0
          · refine ⟨_, if_pos hcount, by simp [reportForVersion], .inr ⟨rfl, 0, by omega, Nat.zero_le _, ?_⟩⟩
            simp [reportForVersion, Ne.symm hs]
          · exact ⟨_, if_neg hcount, by simp [unrecognizedReport], .inl ⟨habsent, rfl, rfl⟩⟩
        | succ v =>
          by_cases hledger : v + 1 ≤ supported ∧ hasTable (Place.file f).contents.schema "generations" = false
          · exact ⟨_, if_pos hledger, by simp [unrecognizedReport], .inl ⟨habsent, rfl, rfl⟩⟩
          · refine ⟨_, if_neg hledger, ?_⟩
            rcases Nat.lt_trichotomy (v + 1) supported with hlt | heq | hgt
            · refine ⟨?_, .inr ⟨?_, v + 1, by omega, by omega, ?_⟩⟩ <;> simp [reportForVersion, Nat.ne_of_lt hlt, hlt]
            · refine ⟨?_, .inr ⟨?_, v + 1, by omega, by omega, ?_⟩⟩ <;> simp [reportForVersion, heq]
            · refine ⟨?_, .inl ⟨habsent, ?_, ?_⟩⟩ <;> simp [reportForVersion, Nat.ne_of_gt hgt, Nat.lt_asymm hgt]

/-- What a report says of a startup, against what the startup does. -/
structure Predicts (databasePath : String) (fails : Nat → Bool) (p : Place) (r : SchemaCompatibilityReport) : Prop where
  stop : r.startupCompatible = false → ∃ msg, startup migrations databasePath fails p = (p, .error (.refused msg))
  go : r.startupCompatible = true → ∀ msg, (startup migrations databasePath fails p).2 ≠ .error (.refused msg)
  creates : r.startupWillCreateDatabase = true ↔ p = .absent
  idle : r.startupCompatible = true → r.startupWillMigrateSchema = false →
    startup migrations databasePath fails p = (p, .ok ())
  migrates : r.startupWillMigrateSchema = true → (startup migrations databasePath fails p).2 = .ok () →
    p.contents.userVersion < currentSchemaVersion ∧
      (startup migrations databasePath fails p).1.contents.userVersion = currentSchemaVersion

/-- Migrating a file of an older or equal version. -/
theorem migrate_older {v : Nat} {f : SqliteFile} (hf : f.userVersion = v) (hv : v ≤ currentSchemaVersion)
    (fails : Nat → Bool) :
    (∀ msg, (migrate migrations fails f).2 ≠ .error (.refused msg)) ∧
      (v = currentSchemaVersion → migrate migrations fails f = (f, .ok ())) ∧
      ((migrate migrations fails f).2 = .ok () →
        (migrate migrations fails f).1.userVersion = currentSchemaVersion) := by
  have hlen : migrations.length = currentSchemaVersion := rfl
  unfold migrate
  rw [hlen, hf, if_neg (by omega), filter_numbered v (s := 0) (by rw [migrations_numbered, hlen]), Nat.sub_zero]
  obtain ⟨applied, rest, schema', hsplit, -, hfile, hok, hmsg⟩ :=
    applyPending_spec fails f.schema (drop_numbered migrations_numbered v)
  have hsame : f = ⟨(v : Nat), f.schema⟩ := by rw [← hf]
  have hlength := congrArg List.length hsplit
  rw [length_drop, hlen, length_append] at hlength
  rw [hsame]
  refine ⟨hmsg, fun heq => ?_, fun hdone => ?_⟩
  · subst heq
    rfl
  · have := hok.mp hdone
    subst this
    rw [hfile]
    simp only [length_nil, Nat.add_zero] at hlength
    show ((v + applied.length : Nat) : Int) = currentSchemaVersion
    omega

/-- On any file whatever, and whether or not it fails between two migrations, the report tells
    beforehand what the startup does; where there is none, the startup is refused and leaves
    everything as it was. -/
theorem report_predicts_startup (databasePath : String) (fails : Nat → Bool) (p : Place) :
    match inspectSchemaCompatibility currentSchemaVersion databasePath p with
    | .error e => startup migrations databasePath fails p = (p, .error (.refused e))
    | .ok r => Predicts databasePath fails p r := by
  have hlen : migrations.length = currentSchemaVersion := rfl
  rcases @inspect_cases currentSchemaVersion (by decide) databasePath p with
    ⟨e, he, habsent⟩ | ⟨r, hr, hcreates, ⟨habsent, hstop, hidle⟩ | ⟨hgo, v, hversion, hv, hmigrates⟩⟩
  · simp only [he]
    simp [startup, openRw, hlen, habsent, he]
  · simp only [hr]
    have hrefused : ∃ msg, startup migrations databasePath fails p = (p, .error (.refused msg)) := by
      simp [startup, openRw, hlen, habsent, hr, SchemaCompatibilityReport.requiresOperatorStop, hstop]
    exact ⟨fun _ => hrefused, by simp [hstop], hcreates, by simp [hstop], by simp [hidle]⟩
  · simp only [hr]
    have hopen : openRw currentSchemaVersion databasePath p = .ok p.contents := by
      unfold openRw
      split
      · rfl
      · simp [hr, SchemaCompatibilityReport.requiresOperatorStop, hgo]
    have hstartup : startup migrations databasePath fails p =
        (.file (migrate migrations fails p.contents).1, (migrate migrations fails p.contents).2) := by
      unfold startup
      rw [hlen, hopen]
    obtain ⟨hmsg, hsame, hdone⟩ := migrate_older hversion hv fails
    refine ⟨by simp [hgo], fun _ => by rw [hstartup]; exact hmsg, hcreates, fun _ hidle => ?_, fun hmig hok => ?_⟩
    · have heq : v = currentSchemaVersion := by
        by_contra hne
        rw [hmigrates.mpr hne] at hidle
        cases hidle
      rw [hstartup, hsame heq]
      cases p with
      | file f => rfl
      | absent =>
        rw [heq] at hversion
        cases hversion
      | notADatabase error =>
        rw [heq] at hversion
        cases hversion
    · rw [hstartup] at hok ⊢
      refine ⟨?_, hdone hok⟩
      have := hmigrates.mp hmig
      omega

/-! ## Upgrades -/

/-- Transactions that nothing disturbs apply what executes. -/
theorem applyPending_undisturbed : ∀ {pending : List Migration} {v : Nat} {schema schema' : Schema},
    pending.map Prod.fst = List.range' (v + 1) pending.length → execAll (statements pending) schema = .ok schema' →
    applyPending (fun _ => false) pending ⟨v, schema⟩ = (⟨(v + pending.length : Nat), schema'⟩, .ok ()) := by
  intro pending
  induction pending with
  | nil =>
    intro v schema schema' _ h
    cases h
    rfl
  | cons m pending ih =>
    intro v schema schema' hnum h
    rw [map_cons, length_cons, range'_succ] at hnum
    obtain ⟨hm, hms⟩ := List.cons.inj hnum
    rw [statements, flatMap_cons, execAll_append] at h
    obtain ⟨next, hnext, h⟩ := Sql.bind_ok.mp h
    unfold applyPending
    rw [if_neg (by simp), hnext, hm]
    simp only
    rw [ih hms h, length_cons, show v + 1 + pending.length = v + (pending.length + 1) by omega]

section

variable {series : Series} {databasePath : String} {p : Place} {f : SqliteFile} {v : Nat}

theorem Series.take_ours (series : Series) (hv : v ≤ currentSchemaVersion) : series.all.take v = migrations.take v := by
  obtain ⟨later, hlater⟩ := series.ours
  rw [← hlater, take_append_of_le_length]
  exact hv

/-- A file that has had the first migration has the ledger, which no later one takes away. -/
theorem HasHad.ledger (h : HasHad series v f) (hv : 0 < v) : hasTable f.schema "generations" = true := by
  obtain ⟨later, hlater⟩ := series.ours
  obtain ⟨sql, hfirst⟩ := migrations_first
  obtain ⟨ms, hms⟩ := head?_eq_some_iff.mp hfirst
  have htake : series.all.take v = (1, .createTable "generations" :: sql) :: (ms ++ later).take (v - 1) := by
    rw [← hlater, hms, cons_append]
    conv_lhs => rw [show v = v - 1 + 1 by omega, take_succ_cons]
  have hexec := h.2.2
  rw [htake, statements, flatMap_cons, cons_append] at hexec
  obtain ⟨s₁, h₁, hexec⟩ := Sql.bind_ok.mp hexec
  have hledger : hasTable s₁ "generations" = true := by
    cases h₁
    rfl
  refine execAll_hasTable (fun d hd => ?_) hexec hledger
  have hall : ∀ m ∈ series.all.take v, ∀ d ∈ m.2, d.removes "generations" = false :=
    fun m hm => series.ledger m (mem_of_mem_take hm)
  rw [htake] at hall
  rcases mem_append.mp hd with hd | hd
  · exact hall _ mem_cons_self d (mem_cons_of_mem _ hd)
  · obtain ⟨m, hm, hd⟩ := mem_flatMap.mp hd
    exact hall m (mem_cons_of_mem _ hm) d hd

theorem Reach.isDatabase (h : Reach series databasePath p) : p = .absent ∨ ∃ f, p = .file f := by
  induction h with
  | absent => exact .inl rfl
  | empty => exact .inr ⟨_, rfl⟩
  | @startup p n fails _ _ ih =>
    unfold Migrate.startup
    rcases openRw_cases (series.all.take n).length databasePath p with ⟨msg, hopen⟩ | hopen
    · rw [hopen]
      exact ih
    · rw [hopen]
      exact .inr ⟨_, rfl⟩

theorem requiresOperatorStop_version (supported : Nat) (databasePath : String) (v : Nat) :
    (reportForVersion supported databasePath (some (v + 1))).requiresOperatorStop = decide (supported < v + 1) := by
  unfold SchemaCompatibilityReport.requiresOperatorStop
  rcases Nat.lt_trichotomy (v + 1) supported with hlt | heq | hgt
  · simp [reportForVersion, hlt, Nat.ne_of_lt hlt]
    omega
  · subst heq
    simp [reportForVersion]
  · simp [reportForVersion, Nat.ne_of_gt hgt, Nat.lt_asymm hgt]
    omega

/-- A file with such a history is opened, unless it is of a newer release. -/
theorem openRw_reach (h : Reach series databasePath p) (hv : HasHad series v p.contents) :
    openRw currentSchemaVersion databasePath p =
      if currentSchemaVersion < v then
        .error (.refused ((reportForVersion currentSchemaVersion databasePath (some v)).summary ++ " " ++
          (reportForVersion currentSchemaVersion databasePath (some v)).nextAction ++
            "; no write connection was opened"))
      else .ok p.contents := by
  rcases h.isDatabase with rfl | ⟨f, rfl⟩
  · have hzero : v = 0 := by
      have := hv.2.1
      simp only [Place.contents] at this
      omega
    subst hzero
    rfl
  · have hversion : f.userVersion = v := hv.2.1
    have hread : readSchemaVersion (.file f) = .ok v := by simp [readSchemaVersion, hversion]
    unfold openRw inspectSchemaCompatibility
    rw [if_neg (by simp), if_neg (by simp), hread]
    cases v with
    | zero =>
      have hempty : f.schema = [] := (Except.ok.inj (show Except.ok [] = Except.ok f.schema from hv.2.2)).symm
      simp [Place.contents, hempty, userObjectCount, reportForVersion, SchemaCompatibilityReport.requiresOperatorStop]
    | succ v =>
      have hledger : hasTable f.schema "generations" = true := hv.ledger (Nat.succ_pos v)
      have hstop := requiresOperatorStop_version currentSchemaVersion databasePath v
      simp only
      rw [if_neg (by simp [Place.contents, hledger])]
      simp only [hstop, decide_eq_true_eq]

/-- In every history of startups of any releases, an undisturbed startup gives the file the whole
    schema, whichever release wrote it last; a file of a newer release it leaves alone. -/
theorem every_release_upgrades (h : Reach series databasePath p) :
    (currentSchemaVersion < p.contents.userVersion ∧
        ∃ msg, startup migrations databasePath (fun _ => false) p = (p, .error (.refused msg))) ∨
      ∃ schema, execAll (statements migrations) [] = .ok schema ∧
        startup migrations databasePath (fun _ => false) p = (.file ⟨currentSchemaVersion, schema⟩, .ok ()) := by
  have hlen : migrations.length = currentSchemaVersion := rfl
  obtain ⟨v, hv⟩ := reach_hasHad h
  have hopen := openRw_reach h hv
  unfold startup
  rw [hlen, hopen]
  by_cases hnew : currentSchemaVersion < v
  · left
    rw [if_pos hnew, hv.2.1]
    exact ⟨by omega, _, rfl⟩
  · right
    rw [if_neg hnew]
    obtain ⟨schema, hschema⟩ := migrations_exec
    refine ⟨schema, hschema, ?_⟩
    have hrest : execAll (statements (migrations.drop v)) p.contents.schema = .ok schema :=
      execAll_drop hschema (series.take_ours (show v ≤ currentSchemaVersion by omega) ▸ hv.2.2)
    have hsame : p.contents = ⟨(v : Nat), p.contents.schema⟩ := by rw [← hv.2.1]
    simp only [migrate, hlen, hv.2.1]
    rw [if_neg (by omega), filter_numbered v (s := 0) (by rw [migrations_numbered, hlen]), Nat.sub_zero, hsame,
      applyPending_undisturbed (drop_numbered migrations_numbered v) hrest, length_drop,
        hlen, show v + (currentSchemaVersion - v) = currentSchemaVersion by omega]

end

/-! ## An old release that died on the way -/

def releases : Series := ⟨migrations, migrations_numbered, prefix_refl _, migrations_keep_ledger⟩

/-- A release of seven migrations, that died before its sixth. -/
def halfway : Place := (startup (releases.all.take 7) "/var/lib/nq/nq.db" (· = 6) .absent).1

theorem halfway_reach : Reach releases "/var/lib/nq/nq.db" halfway :=
  .startup 7 (· = 6) (by decide) .absent

theorem halfway_version : halfway.contents.userVersion = 5 := by decide +kernel

/-- It has had five of them. -/
theorem halfway_has_had_five : ∃ v : Nat, v = 5 ∧ HasHad releases v halfway.contents := by
  obtain ⟨v, hv⟩ := reach_hasHad halfway_reach
  have := hv.2.1
  rw [halfway_version] at this
  exact ⟨v, by omega, hv⟩

/-- And comes out of the next startup of this release with all of them. -/
theorem halfway_is_upgraded : ∃ schema, execAll (statements migrations) [] = .ok schema ∧
    startup migrations "/var/lib/nq/nq.db" (fun _ => false) halfway =
      (.file ⟨currentSchemaVersion, schema⟩, .ok ()) := by
  rcases every_release_upgrades halfway_reach with ⟨hnew, -⟩ | h
  · rw [halfway_version] at hnew
    cases hnew
  · exact h

end Nq.Migrate
