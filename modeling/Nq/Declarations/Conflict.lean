/-
  Nq.Declarations.Conflict — withdrawn hosts that are still observed (`declarations.rs`,
  `run_hygiene`; `publish.rs`, `insert_obs`).

  The detector counts every observation on the host whose text is not before that of the
  declaration, and what it emits is recorded as one more. So it reports activity of the host
  exactly while its own observations, and those before the declaration as instants, do not
  stand alone, and what is not before the declaration is not all before it as text
  (`conflict_iff`).

  - `a_quiet_host_is_still_reported`.
-/

import Nq.Declarations.Hygiene
import Nq.Detect.Checks
import Nq.Lifecycle.Lineage
import Nq.Lifecycle.Maintenance

namespace Nq

open List
open Sql (Table)

/-! ## Cycles -/

/-- A publish cycle from the declarations file to the lifecycle update. -/
structure WatchCycle where
  file : FileRead
  /-- The instants at which the declarations in force and the hygiene findings are asked for. -/
  activeAt : Int
  hygieneAt : Int
  /-- What the other detectors found. -/
  detected : List Finding
  generationId : Int
  escalation : EscalationConfig := {}
  clock : Clock
  before : Db
  after : Db

section

variable (rfc3339 : String → Except String Int) (arith : Arith)

namespace WatchCycle

variable (m : WatchCycle)

def valid : List Declaration := (loadDeclarations rfc3339 m.file).valid

def hygiene : List Finding := runHygiene rfc3339 arith m.before m.hygieneAt (loadDeclarations rfc3339 m.file)

def call : UpdateCall where
  generationId := m.generationId
  findings := m.detected ++ m.hygiene rfc3339 arith
  escalation := m.escalation
  active := activeDeclarations rfc3339 (loadDeclarations rfc3339 m.file) m.activeAt
  clock := m.clock

/-- The update commits what it is given, and no other detector reports the conflict. -/
structure Ran : Prop where
  run : (m.call rfc3339 arith).run m.before = .ok m.after
  others : ∀ f ∈ m.detected, f.kind ≠ "withdrawn_subject_active"

/-- The conflict is emitted for the declaration. -/
def Reports (d : Declaration) : Prop :=
  ∃ f ∈ m.hygiene rfc3339 arith, f.kind = "withdrawn_subject_active" ∧ f.subject = d.declarationId

/-- The conflict is among the observations of the generation. -/
def Records (d : Declaration) : Prop :=
  ∃ o ∈ m.after.findingObservations.rows,
    o.generationId = m.generationId ∧ o.detectorId = "withdrawn_subject_active" ∧ o.subject = d.declarationId

end WatchCycle

/-- Runs of the cycle on a database without observations, newest first, each under a generation of its own. Between
    two cycles retention deletes observations, and other writers record those of other kinds. -/
inductive HygieneRun : List WatchCycle → Db → Prop
  | start {db : Db} (h : db.findingObservations = .empty) : HygieneRun [] db
  | cycle {hist : List WatchCycle} {m : WatchCycle} (hprev : HygieneRun hist m.before)
      (hfresh : ∀ p ∈ hist, p.generationId ≠ m.generationId) (h : m.Ran rfc3339 arith) : HygieneRun (m :: hist) m.after
  | other {hist : List WatchCycle} {db db' : Db} (hprev : HygieneRun hist db)
      (h : ∀ o ∈ db'.findingObservations.rows,
        o ∈ db.findingObservations.rows ∨ o.detectorId ≠ "withdrawn_subject_active") : HygieneRun hist db'

/-! ## Activity -/

/-- The detector counts the observation. -/
def ObservationRow.Counted (o : ObservationRow) (d : Declaration) : Prop :=
  o.host = d.subjectId ∧ d.declaredAt ≤ o.observedAt

/-- The observation is on the host, and not before the declaration. -/
def ObservationRow.Since (o : ObservationRow) (d : Declaration) : Prop :=
  o.host = d.subjectId ∧ ∃ declared observed, rfc3339 d.declaredAt = .ok declared ∧
    rfc3339 o.observedAt = .ok observed ∧ declared ≤ observed

/-- The host was active since the declaration. -/
def Db.Active (db : Db) (d : Declaration) : Prop :=
  ∃ o ∈ db.findingObservations.rows, o.Since rfc3339 d ∧ o.detectorId ≠ "withdrawn_subject_active"

/-- The table tells activity of the host from the detector's own output. -/
structure Db.TellsActivity (db : Db) (d : Declaration) : Prop where
  /-- The detector's own observations, and those before the declaration, do not stand alone. -/
  accompanied : d.revokedAt = none → ∀ o ∈ db.findingObservations.rows, o.Counted d →
    o.detectorId = "withdrawn_subject_active" ∨ ¬o.Since rfc3339 d → db.Active rfc3339 d
  /-- Activity is not all before the declaration as text. -/
  seen : d.revokedAt = none → db.Active rfc3339 d → ∃ o ∈ db.findingObservations.rows, o.Counted d
  /-- A revoked declaration has no conflict. -/
  revoked : d.revokedAt.isSome = true → ¬db.Active rfc3339 d

/-- The host is reported, and the report recorded, exactly where it was active. -/
def WatchCycle.ReportsActivity (m : WatchCycle) (d : Declaration) : Prop :=
  (m.Reports rfc3339 arith d ↔ m.before.Active rfc3339 d) ∧ (m.Records d ↔ m.before.Active rfc3339 d)

end

/-! ## One cycle -/

section

variable {rfc3339 : String → Except String Int} {arith : Arith} {m : WatchCycle} {d : Declaration}

theorem observationsSince_pos {db : Db} : db.observationsSince d.subjectId d.declaredAt > 0 ↔
    ∃ o ∈ db.findingObservations.rows, o.Counted d := by
  unfold Db.observationsSince
  rw [gt_iff_lt, length_pos_iff_exists_mem]
  simp only [mem_filter, decide_eq_true_eq]
  rfl

variable {f : Finding}

theorem mem_declarationHygiene {db : Db} {now : Int} (hf : f ∈ declarationHygiene rfc3339 arith db now d)
    (hkind : f.kind = "withdrawn_subject_active") :
    d.revokedAt = none ∧ f.subject = d.declarationId ∧ ∃ o ∈ db.findingObservations.rows, o.Counted d := by
  unfold declarationHygiene at hf
  split at hf
  · cases hf
  · rename_i hrevoked
    refine ⟨by simpa using hrevoked, ?_⟩
    rcases mem_append.mp hf with hf | hf
    · rcases mem_append.mp hf with hf | hf
      · split at hf
        · rw [mem_singleton.mp hf] at hkind
          exact absurd hkind (by simp [expiredFinding])
        · cases hf
      · split at hf
        · rw [mem_singleton.mp hf] at hkind
          exact absurd hkind (by simp [persistentNoReviewFinding])
        · cases hf
    · split at hf
      · rename_i hcount
        rw [mem_singleton.mp hf]
        exact ⟨rfl, observationsSince_pos.mp hcount.2.2⟩
      · cases hf

theorem withdrawnActiveFinding_mem (hd : d ∈ m.valid rfc3339)
    (hrevoked : d.revokedAt = none) (hhost : d.subjectKind = .host)
    (hmode : d.mode = .withdrawn) (hcounted : ∃ o ∈ m.before.findingObservations.rows, o.Counted d) :
    withdrawnActiveFinding arith d (m.before.observationsSince d.subjectId d.declaredAt) ∈ m.hygiene rfc3339 arith := by
  refine mem_append_right _ (mem_flatMap.mpr ⟨d, hd, ?_⟩)
  unfold declarationHygiene
  rw [if_neg (by simp [hrevoked])]
  refine mem_append_right _ ?_
  rw [if_pos ⟨hhost, hmode, observationsSince_pos.mpr hcounted⟩]
  exact mem_singleton_self _

theorem reports_iff (hd : d ∈ m.valid rfc3339) (hhost : d.subjectKind = .host) (hmode : d.mode = .withdrawn) :
    m.Reports rfc3339 arith d ↔ d.revokedAt = none ∧ ∃ o ∈ m.before.findingObservations.rows, o.Counted d := by
  constructor
  · rintro ⟨f, hf, hkind, hsubject⟩
    rcases mem_append.mp hf with hf | hf
    · obtain ⟨subject, _, rfl⟩ := List.mem_map.mp hf
      exact absurd hkind (by simp [unreadableFinding])
    · obtain ⟨d', hd', hf⟩ := mem_flatMap.mp hf
      obtain ⟨hrevoked, hsubject', hcounted⟩ := mem_declarationHygiene hf hkind
      have hsame : d' = d := inj_on_of_nodup_map (nodup_valid m.file) hd' hd (hsubject'.symm.trans hsubject)
      exact hsame ▸ ⟨hrevoked, hcounted⟩
  · rintro ⟨hrevoked, hcounted⟩
    exact ⟨_, withdrawnActiveFinding_mem hd hrevoked hhost hmode hcounted, rfl, rfl⟩

theorem reports_iff_active (hd : d ∈ m.valid rfc3339) (hhost : d.subjectKind = .host) (hmode : d.mode = .withdrawn) :
    (m.Reports rfc3339 arith d ↔ m.before.Active rfc3339 d) ↔ m.before.TellsActivity rfc3339 d := by
  rw [reports_iff hd hhost hmode]
  constructor
  · intro h
    refine ⟨fun hrevoked o ho hcounted _ => h.mp ⟨hrevoked, o, ho, hcounted⟩,
      fun _ hactive => (h.mpr hactive).2, fun hrevoked hactive => ?_⟩
    have hnone := (h.mpr hactive).1
    rw [hnone] at hrevoked
    cases hrevoked
  · intro h
    constructor
    · rintro ⟨hrevoked, o, ho, hcounted⟩
      by_cases hown : o.detectorId = "withdrawn_subject_active" ∨ ¬o.Since rfc3339 d
      · exact h.accompanied hrevoked o ho hcounted hown
      · rw [not_or, not_not] at hown
        exact ⟨o, ho, hown.2, hown.1⟩
    · intro hactive
      cases hrevoked : d.revokedAt with
      | none => exact ⟨rfl, h.seen hrevoked hactive⟩
      | some at_ => exact absurd hactive (h.revoked (by rw [hrevoked]; rfl))

/-! ## Runs -/

variable {hist : List WatchCycle} {db : Db}

theorem Ran.mem_observations (h : m.Ran rfc3339 arith) {o : ObservationRow} (ho : o ∈ m.after.findingObservations.rows)
    (hkind : o.detectorId = "withdrawn_subject_active") :
    o ∈ m.before.findingObservations.rows ∨ o.generationId = m.generationId ∧ ∃ f ∈ m.hygiene rfc3339 arith,
      f.kind = "withdrawn_subject_active" ∧ f.subject = o.subject := by
  by_cases hbefore : o ∈ m.before.findingObservations.rows
  · exact .inl hbefore
  · have hadded : o ∈ addedObservations m.before m.after := mem_filter.mpr ⟨ho, by simpa using hbefore⟩
    obtain ⟨f, hf, rfl⟩ := (mem_addedObservations (run_updated h.run)).mp hadded
    refine .inr ⟨rfl, f, ?_, hkind, rfl⟩
    rcases mem_append.mp hf with hf | hf
    · rcases mem_append.mp hf with hf | hf
      · exact absurd hkind (h.others f hf)
      · exact hf
    · obtain ⟨p, _, rfl⟩ := List.mem_map.mp hf
      exact absurd hkind (by simp [observationOf, orphanHygieneFinding])

theorem Ran.records (h : m.Ran rfc3339 arith) (hf : f ∈ m.hygiene rfc3339 arith) :
    ∃ o ∈ m.after.findingObservations.rows, o.generationId = m.generationId ∧ o.detectorId = f.kind ∧ o.host = f.host ∧
      o.subject = f.subject ∧ o.observedAt = m.clock.lifecycle := by
  have hemitted : f ∈ (m.call rfc3339 arith).emitted m.before := mem_append_left _ (mem_append_right _ hf)
  have hadded := (mem_addedObservations (run_updated h.run)).mpr ⟨f, hemitted, rfl⟩
  exact ⟨_, (mem_filter.mp hadded).1, rfl, rfl, rfl, rfl, rfl⟩

/-- The detector's observations are of the generations of the run. -/
theorem HygieneRun.traced (h : HygieneRun rfc3339 arith hist db) : ∀ o ∈ db.findingObservations.rows,
    o.detectorId = "withdrawn_subject_active" → ∃ p ∈ hist, p.generationId = o.generationId := by
  induction h with
  | start h =>
    intro o ho
    rw [h] at ho
    cases ho
  | @cycle hist m _ _ h ih =>
    intro o ho hkind
    rcases Ran.mem_observations h ho hkind with ho | ⟨hgen, _⟩
    · obtain ⟨p, hp, hgen⟩ := ih o ho hkind
      exact ⟨p, mem_cons_of_mem _ hp, hgen⟩
    · exact ⟨m, mem_cons_self, hgen.symm⟩
  | other _ h ih =>
    intro o ho hkind
    rcases h o ho with ho | hne
    · exact ih o ho hkind
    · exact absurd hkind hne

/-- What is emitted in a cycle of a run is what its generation records. -/
theorem records_iff (hprev : HygieneRun rfc3339 arith hist m.before)
    (hfresh : ∀ p ∈ hist, p.generationId ≠ m.generationId)
    (h : m.Ran rfc3339 arith) : m.Records d ↔ m.Reports rfc3339 arith d := by
  constructor
  · rintro ⟨o, ho, hgen, hkind, hsubject⟩
    rcases Ran.mem_observations h ho hkind with ho | ⟨_, f, hf, hkind, hsame⟩
    · obtain ⟨p, hp, hp_gen⟩ := hprev.traced o ho hkind
      exact absurd (hp_gen.trans hgen) (hfresh p hp)
    · exact ⟨f, hf, hkind, hsame.trans hsubject⟩
  · rintro ⟨f, hf, hkind, hsubject⟩
    obtain ⟨o, ho, hgen, hdetector, _, hsame, _⟩ := Ran.records h hf
    exact ⟨o, ho, hgen, hdetector.trans hkind, hsame.trans hsubject⟩

/-- In every run, a withdrawn host is reported exactly where it was active in the cycles whose tables tell its
    activity from the detector's own output, and in no others. -/
theorem conflict_iff (h : HygieneRun rfc3339 arith hist db) : ∀ m ∈ hist, ∀ d ∈ m.valid rfc3339, d.subjectKind = .host →
    d.mode = .withdrawn → (m.ReportsActivity rfc3339 arith d ↔ m.before.TellsActivity rfc3339 d) := by
  induction h with
  | start _ => intro m hm; cases hm
  | @cycle hist m hprev hfresh h ih =>
    intro p hp
    rcases mem_cons.mp hp with rfl | hp
    · intro d hd hhost hmode
      unfold WatchCycle.ReportsActivity
      rw [records_iff hprev hfresh h, and_self, reports_iff_active hd hhost hmode]
    · exact ih p hp
  | other _ _ ih => exact ih

end

/-! ## A host that went quiet -/

def retiredHost : Declaration where
  declarationId := "d1"
  subjectKind := .host
  subjectId := "db-1"
  mode := .withdrawn
  durability := .transient
  reasonClass := "decommissioned"
  declaredBy := "operator"
  declaredAt := "2026-05-08T12:00:00Z"
  evidenceRefs := ["t"]

/-- RFC 3339, on noon and one o'clock. -/
def readHours (s : String) : Except String Int :=
  if s = "2026-05-08T12:00:00Z" then .ok noon.instant
  else if s = "2026-05-08T13:00:00Z" then .ok oneOClockUtc.instant
  else .error "the 'year' component could not be parsed"

/-- A cycle at one o'clock. -/
def cycleAtOne (g : Int) (detected : List Finding) (before after : Db) : WatchCycle where
  file := .parsed [retiredHost]
  activeAt := oneOClockUtc.instant
  hygieneAt := oneOClockUtc.instant
  detected
  generationId := g
  clock := ⟨"2026-05-08T13:00:00Z", "2026-05-08T13:00:00Z"⟩
  before
  after

def runCycle (g : Int) (detected : List Finding) (db : Db) : Except DbError Db :=
  ((cycleAtOne g detected db db).call readHours exactArith).run db

/-- Retention deletes the observations of the first generation. -/
def Db.pruneFirst (db : Db) : Db :=
  { db with findingObservations := db.findingObservations.delete (·.generationId = 1) }

theorem retiredHost_valid (m : WatchCycle) (h : m.file = .parsed [retiredHost]) : retiredHost ∈ m.valid readHours := by
  unfold WatchCycle.valid
  rw [h]
  decide +kernel

theorem cycleAtOne_ran {g : Int} {detected : List Finding} {db db' : Db} (h : runCycle g detected db = .ok db')
    (hothers : ∀ f ∈ detected, f.kind ≠ "withdrawn_subject_active") : (cycleAtOne g detected db db').Ran
      readHours exactArith :=
  ⟨h, hothers⟩

/-- The host is found once, and reported; when that observation is pruned and none follows, it is reported still. -/
theorem a_quiet_host_is_still_reported : ∃ hist db m d, HygieneRun readHours exactArith hist db ∧
    m ∈ hist ∧ d ∈ m.valid readHours ∧
    d.subjectKind = .host ∧ d.mode = .withdrawn ∧ m.Reports readHours exactArith d ∧
      ¬m.ReportsActivity readHours exactArith d := by
  have h : ((runCycle 1 [strayFinding] (Db.published 3)).toOption.bind fun db₁ =>
    (runCycle 2 [] db₁).toOption.bind fun db₂ =>
      (runCycle 3 [] db₂.pruneFirst).toOption.map fun _ => db₂.pruneFirst.findingObservations.rows.map fun o =>
        (o.host, o.detectorId, o.observedAt)) =
      some [("db-1", "withdrawn_subject_active", "2026-05-08T13:00:00Z")] := by decide +kernel
  obtain ⟨db₁, h₁, h⟩ := Option.bind_eq_some_iff.mp h
  obtain ⟨db₂, h₂, h⟩ := Option.bind_eq_some_iff.mp h
  obtain ⟨db₃, h₃, h⟩ := Option.map_eq_some_iff.mp h
  have hown : ∀ o ∈ db₂.pruneFirst.findingObservations.rows,
      (o.host, o.detectorId, o.observedAt) = ("db-1", "withdrawn_subject_active", "2026-05-08T13:00:00Z") := by
    intro o ho
    have hmem := mem_map_of_mem (f := fun o : ObservationRow => (o.host, o.detectorId, o.observedAt)) ho
    rw [h] at hmem
    exact mem_singleton.mp hmem
  have hfirst : HygieneRun readHours exactArith [cycleAtOne 1 [strayFinding] (Db.published 3) db₁] db₁ :=
    .cycle (m := cycleAtOne 1 [strayFinding] (Db.published 3) db₁) (.start rfl) (by simp)
      (cycleAtOne_ran (Sql.toOption_eq_some.mp h₁) (by decide))
  have hsecond : HygieneRun readHours exactArith [cycleAtOne 2 [] db₁ db₂,
      cycleAtOne 1 [strayFinding] (Db.published 3) db₁] db₂ :=
    .cycle (m := cycleAtOne 2 [] db₁ db₂) hfirst (by simp [cycleAtOne])
      (cycleAtOne_ran (Sql.toOption_eq_some.mp h₂) (by simp))
  have hpruned : HygieneRun readHours exactArith _ db₂.pruneFirst :=
    .other hsecond fun o ho => .inl (mem_filter.mp ho).1
  have hthird := HygieneRun.cycle (m := cycleAtOne 3 [] db₂.pruneFirst db₃) hpruned (by simp [cycleAtOne])
    (cycleAtOne_ran (Sql.toOption_eq_some.mp h₃) (by simp))
  have hvalid := retiredHost_valid (cycleAtOne 3 [] db₂.pruneFirst db₃) rfl
  have hreports : (cycleAtOne 3 [] db₂.pruneFirst db₃).Reports readHours exactArith retiredHost := by
    refine (reports_iff hvalid rfl rfl).mpr ⟨rfl, ?_⟩
    cases hrows : db₂.pruneFirst.findingObservations.rows with
    | nil =>
      rw [hrows] at h
      cases h
    | cons o rest =>
      have ho : o ∈ db₂.pruneFirst.findingObservations.rows := by
        rw [hrows]
        exact mem_cons_self
      have hread := hown o ho
      simp only [Prod.mk.injEq] at hread
      refine ⟨o, ho, hread.1, ?_⟩
      rw [hread.2.2]
      decide
  refine ⟨_, db₃, _, retiredHost, hthird, mem_cons_self, hvalid, rfl, rfl, hreports, fun hactivity => ?_⟩
  obtain ⟨o, ho, _, hne⟩ := hactivity.1.mp hreports
  have hread := hown o ho
  simp only [Prod.mk.injEq] at hread
  exact hne hread.2.1

theorem an_active_host_is_reported : ∃ hist db m d, HygieneRun readHours exactArith hist db ∧ m ∈ hist ∧ d ∈
    m.valid readHours ∧ m.Reports readHours exactArith d ∧ m.ReportsActivity readHours exactArith d := by
  have h : ((runCycle 1 [strayFinding] (Db.published 3)).toOption.bind fun db₁ =>
    (runCycle 2 [] db₁).toOption.map fun _ =>
      db₁.findingObservations.rows.map fun o => (o.host, o.detectorId, o.observedAt)) =
      some [("db-1", "wal_bloat", "2026-05-08T13:00:00Z")] := by decide +kernel
  obtain ⟨db₁, h₁, h⟩ := Option.bind_eq_some_iff.mp h
  obtain ⟨db₂, h₂, h⟩ := Option.map_eq_some_iff.mp h
  have hfirst : HygieneRun readHours exactArith [cycleAtOne 1 [strayFinding] (Db.published 3) db₁] db₁ :=
    .cycle (m := cycleAtOne 1 [strayFinding] (Db.published 3) db₁) (.start rfl) (by simp)
      (cycleAtOne_ran (Sql.toOption_eq_some.mp h₁) (by decide))
  have hsecond := HygieneRun.cycle (m := cycleAtOne 2 [] db₁ db₂) hfirst (by simp [cycleAtOne])
    (cycleAtOne_ran (Sql.toOption_eq_some.mp h₂) (by simp))
  have hvalid := retiredHost_valid (cycleAtOne 2 [] db₁ db₂) rfl
  have hseen : ∃ o ∈ db₁.findingObservations.rows, o.host = "db-1" ∧ o.detectorId = "wal_bloat" ∧
      o.observedAt = "2026-05-08T13:00:00Z" := by
    obtain ⟨o, ho, hread⟩ := List.mem_map.mp (h ▸ mem_singleton_self _)
    simp only [Prod.mk.injEq] at hread
    exact ⟨o, ho, hread⟩
  obtain ⟨o, ho, hhost, hkind, hat⟩ := hseen
  have hcounted : o.Counted retiredHost := ⟨hhost, by rw [hat]; decide⟩
  have hactive : db₁.Active readHours retiredHost := by
    refine ⟨o, ho, ⟨hhost, noon.instant, oneOClockUtc.instant, rfl, ?_, by decide⟩, by rw [hkind]; decide⟩
    rw [hat]
    rfl
  have hreports : (cycleAtOne 2 [] db₁ db₂).Reports readHours exactArith retiredHost :=
    (reports_iff hvalid rfl rfl).mpr ⟨rfl, o, ho, hcounted⟩
  refine ⟨_, db₂, _, retiredHost, hsecond, mem_cons_self, hvalid, hreports, ?_⟩
  exact (conflict_iff hsecond _ mem_cons_self _ hvalid rfl rfl).mpr
    ⟨fun _ _ _ _ _ => hactive, fun _ _ => ⟨o, ho, hcounted⟩, fun hrevoked => nomatch hrevoked⟩

end Nq
