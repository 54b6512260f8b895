/-
  Nq.Lifecycle.Provenance — whose testimony a row is.

  An import writes the five origin columns, on insert and on conflict. The native writers
  (detectors, coverage recorder, refusal and staleness findings) write none: an inserted
  row gets the defaults, which say `nq`, and an existing row keeps what it had. So in runs
  where no native write meets an imported row the columns name the last writer
  (`origin_names_the_last_writer`); where one does, the row goes on claiming to be the
  producer's (`a_redetected_import_stays_an_import`).
-/

import Nq.Lifecycle.Run

namespace Nq

open List
open Sql (Table)

structure Origin where
  source : OriginSource
  producerId : Option String
  extractionRunId : Option String
  producerExtractionTime : Option String
  importContractVersion : Option Int
  deriving DecidableEq, Repr

def WarningRow.origin (r : WarningRow) : Origin :=
  ⟨r.originSource, r.originProducerId, r.originExtractionRunId, r.originProducerExtractionTime,
    r.originImportContractVersion⟩

/-- Who wrote a row: ourselves, or an import of a manifest. -/
inductive Writer where
  | native
  | imported (m : FindingImportManifest)

/-- What the origin columns should then say. -/
def Writer.origin : Writer → Origin
  | .native => ⟨.nq, none, none, none, none⟩
  | .imported m => ⟨.import_, some m.producerId, some m.extractionRunId, some m.producerExtractionTime,
      some m.contractVersion⟩

section

variable (rfc3339 : String → Except String Int)

/-- The rows an ingest asserts, in order, and for whom. -/
def ingestWriters (read : ManifestRead) (now : String) (cfg : IngestConfig) : List (FindingId × Writer) :=
  match read with
  | .unparsable producerId extractionRunId _ =>
    [(⟨producerId.getD "unknown-producer", refusalFindingKind, extractionRunId.getD "unparseable"⟩, .native)]
  | .parsed m =>
    match refusalReason m with
    | some _ => [(⟨m.producerId, refusalFindingKind, m.extractionRunId⟩, .native)]
    | none =>
      m.findings.map (fun f => (f.id, .imported m)) ++
        ((extractionAge rfc3339 m now cfg).map fun _ =>
          (⟨m.producerId, "extraction_stale", m.extractionRunId⟩, Writer.native)).toList

end

/-- The last writer of each identity, after a list of assertions. -/
def lastWriters (w : FindingId → Writer) (ws : List (FindingId × Writer)) : FindingId → Writer :=
  ws.foldl (fun w p => Function.update w p.1 p.2) w

/-- Under a key there is no row, or a native one. -/
def WarningState.NativeAt (t : WarningState) (k : FindingId) : Prop :=
  ∀ r, t.get k = some r → r.originSource = .nq

/-! ## Runs -/

section

variable (rfc3339 : String → Except String Int)

/-- The steps that assert rows. -/
inductive Action where
  | update (u : UpdateCall)
  | coverage (c : CoverageCall)
  | ingest (read : ManifestRead) (generation : Int) (now : String) (cfg : IngestConfig)

def Action.run (db : Db) : Action → Except DbError Db
  | .update u => u.run db
  | .coverage c => (recordCoverageTestimonyAbsentFinding db c).map Prod.fst
  | .ingest read generation now cfg => .ok (ingestFindingImport rfc3339 db read generation now cfg).1

def Action.writers (db : Db) : Action → List (FindingId × Writer)
  | .update u => (u.emittedIds db).map (·, .native)
  | .coverage c => [(c.id, .native)]
  | .ingest read _ now cfg => ingestWriters rfc3339 read now cfg

/-- No native write of the step goes to a row with an imported origin, nor to an identity
    the same step imports. -/
def KeepsOrigins (a : Action) (db : Db) : Prop :=
  ∀ k, (k, Writer.native) ∈ a.writers rfc3339 db →
    db.warningState.NativeAt k ∧ ∀ m, (k, Writer.imported m) ∉ a.writers rfc3339 db

/-- Runs from an empty table, each step meeting `P`, with the last writer of each identity. -/
inductive Written (P : Action → Db → Prop) : (FindingId → Writer) → Db → Prop
  | start {db : Db} (h : db.warningState = .empty) : Written P (fun _ => .native) db
  | next {w : FindingId → Writer} {db db₁ db₂ : Db} {a : Action} (hprev : Written P w db)
      (hsame : db₁.warningState = db.warningState) (hP : P a db₁) (h : a.run rfc3339 db₁ = .ok db₂) :
      Written P (lastWriters w (a.writers rfc3339 db₁)) db₂

end

/-! ## Lists of writes -/

def WarningState.OriginsNamed (t : WarningState) (w : FindingId → Writer) : Prop :=
  ∀ k r, t.get k = some r → r.origin = (w k).origin

variable {r : WarningRow} {p : FindingId × Writer} {t : WarningState} {db db' : Db} {w : FindingId → Writer}
  (m : FindingImportManifest)

/-- A row that should name a writer and says `nq` was written natively. -/
theorem origin_native {w : Writer} (h : r.origin = w.origin) (hs : r.originSource = .nq) :
    r.origin = Writer.native.origin := by
  cases w with
  | native => exact h
  | imported m =>
    have : r.originSource = .import_ := congrArg Origin.source h
    rw [hs] at this
    cases this

/-- An upsert writes for a writer: an insert says so, a conflict only for an import. -/
structure RowWrite.For (w : RowWrite) (p : FindingId × Writer) : Prop where
  id : w.row.id = p.1
  row : w.row.origin = p.2.origin
  overwrite : ∀ r, (w.overwrite r).origin = match p.2 with
    | .native => r.origin
    | .imported m => (Writer.imported m).origin

theorem get_apply (w : RowWrite) (t : WarningState) (k : FindingId) :
    (w.apply t).get k = if k = w.row.id then some ((t.get k).elim w.row w.overwrite) else t.get k :=
  Table.get_upsert t w.row w.overwrite w.id_overwrite k

theorem apply_named {w : RowWrite} {ws : FindingId → Writer} (hw : w.For p) (h : t.OriginsNamed ws)
    (hnat : p.2 = .native → t.NativeAt p.1) : (w.apply t).OriginsNamed (Function.update ws p.1 p.2) := by
  intro k r hr
  rw [get_apply, hw.id] at hr
  split at hr
  · rename_i hk
    subst hk
    rw [Function.update_self]
    cases hget : t.get p.1 with
    | none => rw [hget] at hr; cases hr; exact hw.row
    | some old =>
      rw [hget] at hr
      cases hr
      refine (hw.overwrite old).trans ?_
      cases hp : p.2 with
      | imported m => rfl
      | native => exact origin_native (h p.1 old hget) (hnat hp old hget)
  · rename_i hk
    rw [Function.update_of_ne hk]
    exact h k r hr

theorem apply_nativeAt {w : RowWrite} (hw : w.For p) {k : FindingId}
    (hk : t.NativeAt k) (hp : p.1 = k → p.2 = .native) :
    (w.apply t).NativeAt k := by
  intro r hr
  rw [get_apply, hw.id] at hr
  split at hr
  · rename_i heq
    have hnat := hp heq.symm
    cases hget : t.get k with
    | none =>
      rw [hget] at hr
      cases hr
      have hrow := hw.row
      rw [hnat] at hrow
      exact congrArg Origin.source hrow
    | some old =>
      rw [hget] at hr
      cases hr
      have hover := hw.overwrite old
      rw [hnat] at hover
      exact (congrArg Origin.source hover).trans (hk old hget)
  · exact hk r hr

theorem applyWrites_named {ws : List RowWrite} {ps : List (FindingId × Writer)}
    (hws : List.Forall₂ RowWrite.For ws ps) :
    ∀ {t : WarningState} {w : FindingId → Writer}, t.OriginsNamed w →
      (∀ k, (k, Writer.native) ∈ ps → t.NativeAt k ∧ ∀ m, (k, Writer.imported m) ∉ ps) →
      (applyWrites t ws).OriginsNamed (lastWriters w ps) := by
  induction hws with
  | nil => intro t w h _; exact h
  | @cons rw p ws ps hw _ ih =>
    intro t w h hcond
    refine ih (apply_named hw h fun hp => ?_) ?_
    · have hmem : (p.1, Writer.native) ∈ p :: ps := by rw [← hp]; exact mem_cons_self
      exact (hcond p.1 hmem).1
    · intro k hk
      obtain ⟨hnat, himp⟩ := hcond k (mem_cons_of_mem _ hk)
      refine ⟨apply_nativeAt hw hnat ?_, fun m hm => himp m (mem_cons_of_mem _ hm)⟩
      intro hpk
      cases hp : p.2 with
      | native => rfl
      | imported m =>
        exact absurd (by rw [← hpk, ← hp]; exact mem_cons_self) (himp m)

/-! ## Each step -/

variable {rfc3339 : String → Except String Int}

theorem refusalWrite_for (producerId extractionRunId : String) (g : Int) (now : String) :
    (refusalWrite producerId extractionRunId g now).For (⟨producerId, refusalFindingKind, extractionRunId⟩, .native) :=
  ⟨rfl, rfl, fun _ => rfl⟩

theorem importWrite_for (f : ImportedFinding) (g : Int) (now : String) :
    (importWrite m f g now).For (f.id, .imported m) := ⟨rfl, rfl, fun _ => rfl⟩

theorem extractionStaleWrite_for (d g : Int) (now : String) :
    (extractionStaleWrite m d g now).For (⟨m.producerId, "extraction_stale", m.extractionRunId⟩, .native) :=
  ⟨rfl, rfl, fun _ => rfl⟩

theorem coverageWrite_for (c : CoverageCall) : (coverageWrite c).For (c.id, .native) := ⟨rfl, rfl, fun _ => rfl⟩

theorem ingestWrites_for (read : ManifestRead) (g : Int) (now : String) (cfg : IngestConfig) :
    List.Forall₂ RowWrite.For (ingestWrites rfc3339 read g now cfg) (ingestWriters rfc3339 read now cfg) := by
  cases read with
  | unparsable p x e => exact .cons (refusalWrite_for _ _ g now) .nil
  | parsed m =>
    simp only [ingestWrites, ingestWriters]
    cases refusalReason m with
    | some reason => exact .cons (refusalWrite_for _ _ g now) .nil
    | none =>
      have himports : List.Forall₂ RowWrite.For (m.findings.map fun f => importWrite m f g now)
          (m.findings.map fun f => (f.id, Writer.imported m)) := by
        rw [forall₂_map_left_iff, forall₂_map_right_iff, forall₂_same]
        intro f _
        exact importWrite_for m f g now
      refine rel_append himports ?_
      cases extractionAge rfc3339 m now cfg with
      | none => exact .nil
      | some d => exact .cons (extractionStaleWrite_for m d g now) .nil

theorem origin_of_core {r' : WarningRow} (h : r'.core = r.core) : r'.origin = r.origin := by
  have := congrArg WarningRow.origin h
  exact this

theorem origin_incAbsent (r : WarningRow) : r.incAbsent.origin = r.origin := rfl

theorem origin_emittedRow (c : Cycle) (prev : Option WarningRow) (f : Finding) (s : Stability) :
    ((emittedRow c prev f).setStability s).origin = prev.elim Writer.native.origin WarningRow.origin := by
  cases prev <;> rfl

theorem update_named {u : UpdateCall} (h : Updated u db db') (hinv : db.warningState.OriginsNamed w)
    (hnat : ∀ k ∈ u.emittedIds db, db.warningState.NativeAt k) :
    ∀ k r, db'.warningState.get k = some r →
      r.origin = if k ∈ u.emittedIds db then Writer.native.origin else (w k).origin := by
  intro k r' hr'
  rcases h.row_cases hr' with ⟨f, hf, rfl, s, hfin⟩ | ⟨hk, r, hr, hcase⟩
  · have hmem : f.id ∈ u.emittedIds db := mem_map_of_mem hf
    rw [if_pos hmem]
    rw [origin_of_core (finish_core hfin), origin_emittedRow]
    cases hprev : db.warningState.get f.id with
    | none => rfl
    | some r => exact origin_native (hinv f.id r hprev) (hnat f.id hmem r hprev)
  · rw [if_neg hk, ← hinv k r hr]
    rcases hcase with ⟨reason, _, hfin⟩ | ⟨_, _, hfin⟩
    · exact origin_of_core ((finish_core hfin).trans (core_suppress _ _ _))
    · exact (origin_of_core (finish_core hfin)).trans (origin_incAbsent r)

theorem lastWriters_natives (ids : List FindingId) (k : FindingId) :
    ∀ w : FindingId → Writer, lastWriters w (ids.map (·, .native)) k = if k ∈ ids then .native else w k := by
  induction ids with
  | nil => intro w; simp [lastWriters]
  | cons id ids ih =>
    intro w
    have h := ih (Function.update w id .native)
    unfold lastWriters at h ⊢
    rw [map_cons, foldl_cons, h]
    by_cases hk : k = id
    · simp [hk]
    · simp [hk]

theorem action_named {a : Action} (hinv : db.warningState.OriginsNamed w) (hP : KeepsOrigins rfc3339 a db)
    (h : a.run rfc3339 db = .ok db') : db'.warningState.OriginsNamed (lastWriters w (a.writers rfc3339 db)) := by
  cases a with
  | update u =>
    have hnat : ∀ k ∈ u.emittedIds db, db.warningState.NativeAt k := fun k hk => (hP k (mem_map_of_mem hk)).1
    intro k r hr
    rw [Action.writers, lastWriters_natives, update_named (run_updated h) hinv hnat k r hr]
    split <;> rfl
  | coverage c =>
    cases hrec : recordCoverageTestimonyAbsentFinding db c with
    | error e => rw [Action.run, hrec] at h; cases h
    | ok p =>
      rw [Action.run, hrec] at h
      cases h
      rw [(recordCoverage_ok hrec).1]
      exact applyWrites_named (.cons (coverageWrite_for c) .nil) hinv hP
  | ingest read g now cfg =>
    cases h
    rw [ingest_warningState]
    exact applyWrites_named (ingestWrites_for read g now cfg) hinv hP

/-- Every row's origin columns name the last writer that asserted it. -/
theorem origin_names_the_last_writer {w : FindingId → Writer} {db : Db}
    (h : Written rfc3339 (KeepsOrigins rfc3339) w db) {k : FindingId} {r : WarningRow}
    (hr : db.warningState.get k = some r) : r.origin = (w k).origin := by
  have hinv : db.warningState.OriginsNamed w := by
    clear hr
    induction h with
    | start h => intro k r hr; rw [h] at hr; cases hr
    | next _ hsame hP h ih => exact action_named (hsame ▸ ih) hP h
  exact hinv k r hr

/-- A producer's manifest with one finding, on an identity a detector also finds. -/
def strayManifest : FindingImportManifest :=
  { schema := importSchemaId, contractVersion := 1, producerId := "corpus", extractionRunId := "run-1"
    producerExtractionTime := "2026-01-01T00:00:00Z"
    findings := [{ host := "db-1", detector := "wal_bloat", subject := "/data/app.db", severity := "warning" }] }

def strayIngest : Action := .ingest (.parsed strayManifest) 1 "2026-01-01T00:00:00Z" {}

theorem an_import_names_its_manifest : ∃ w db r, Written (fun _ => .error "") (KeepsOrigins fun _ => .error "") w db ∧
    db.warningState.get strayFinding.id = some r ∧ r.origin = (Writer.imported strayManifest).origin := by
  have h : ((strayIngest.run (fun _ => .error "") (Db.published 1)).toOption.map fun db =>
      (db.warningState.get strayFinding.id).isSome) = some true := by decide +kernel
  obtain ⟨db, hrun, hsome⟩ := Sql.ok_of_toOption h
  obtain ⟨r, hr⟩ := Option.isSome_iff_exists.mp hsome
  have hkeeps : KeepsOrigins (fun _ => .error "") strayIngest (Db.published 1) := by
    intro k hk
    have hk' : (k, Writer.native) ∈ [(strayFinding.id, Writer.imported strayManifest)] := hk
    simp at hk'
  have hw := Written.next (.start rfl) rfl hkeeps hrun
  exact ⟨_, db, r, hw, hr, origin_names_the_last_writer hw hr⟩

/-- A detector finds an imported identity: the row still says it is the producer's. -/
theorem a_redetected_import_stays_an_import : ∃ w db r, Written (fun _ => .error "") (fun _ _ => True) w db ∧
    db.warningState.get strayFinding.id = some r ∧ (w strayFinding.id).origin = Writer.native.origin ∧
    r.origin = (Writer.imported strayManifest).origin ∧ r.lastSeenGen = 2 := by
  have h : ((strayIngest.run (fun _ => .error "") (Db.published 2) >>= (strayCall 2).run).toOption.map fun db =>
      (db.warningState.get strayFinding.id).map fun r => (r.origin, r.lastSeenGen)) =
      some (some ((Writer.imported strayManifest).origin, 2)) := by decide +kernel
  obtain ⟨db, hrun, hread⟩ := Sql.ok_of_toOption h
  obtain ⟨db₁, h₁, h₂⟩ := Sql.bind_ok.mp hrun
  obtain ⟨r, hr, horigin⟩ := Option.map_eq_some_iff.mp hread
  have hw₁ : Written (fun _ => .error "") (fun _ _ => True) _ db₁ := .next (.start rfl) rfl trivial h₁
  have hw : Written (fun _ => .error "") (fun _ _ => True) _ db :=
    .next hw₁ rfl trivial (a := .update (strayCall 2)) h₂
  refine ⟨_, db, r, hw, hr, ?_, congrArg Prod.fst horigin, congrArg Prod.snd horigin⟩
  rw [Action.writers, lastWriters_natives, if_pos]
  exact mem_map_of_mem (by simp [UpdateCall.emitted, strayCall])

end Nq
