/-
  Nq.Lifecycle.Reassertion — findings kept up from outside the detector path.

  A coverage finding, or an imported one, is asserted again in every generation after the
  update, which did not emit it. The update ages it, and the assertion does not take that
  back: its conflict arm leaves `absent_gens` alone. So from the first generation that
  does not mask the row its counters are off, and the third deletes it, however often it
  is asserted (`reasserted_four_times_and_new`). Only a row that is masked throughout
  is counted as asserted (`reasserted_iff_masked`).
-/

import Nq.Lifecycle.Outage

namespace Nq

open List hiding le_refl
open Sql (Table)

/-! ## Assertions -/

/-- The lifecycle counters of a row. -/
structure Counted (first last streak absent gone : Int) (r : WarningRow) : Prop where
  first : r.firstSeenGen = first
  last : r.lastSeenGen = last
  streak : r.consecutiveGens = streak
  absent : r.absentGens = absent
  gone : r.entityGoneGens = gone

/-- A write in generation `g` that starts a row's counters, or moves only the last
    generation and the count. -/
structure RowWrite.Asserting (g : Int) (w : RowWrite) : Prop where
  row : Counted g g 1 0 0 w.row
  overwrite : ∀ {first last streak absent gone : Int} {r : WarningRow}, Counted first last streak absent gone r →
    Counted first g (streak + 1) absent gone (w.overwrite r)

variable {absent first g gone g₀ last streak : Int} {db db' : Db} {k : FindingId} {n : Nat} {r : WarningRow}
  {masked : Bool} {u : UpdateCall}

theorem asserting_of_overwrite {w : RowWrite} (hrow : Counted g g 1 0 0 w.row)
    (hover : ∀ r, Counted r.firstSeenGen g (r.consecutiveGens + 1) r.absentGens r.entityGoneGens (w.overwrite r)) :
    w.Asserting g := by
  refine ⟨hrow, ?_⟩
  intro first last streak absent gone r hr
  have h := hover r
  exact ⟨h.first.trans hr.first, h.last, by rw [h.streak, hr.streak], h.absent.trans hr.absent, h.gone.trans hr.gone⟩

theorem coverageWrite_asserting (c : CoverageCall) : (coverageWrite c).Asserting c.generationId :=
  asserting_of_overwrite ⟨rfl, rfl, rfl, rfl, rfl⟩ fun _ => ⟨rfl, rfl, rfl, rfl, rfl⟩

theorem ingestWrites_asserting {rfc3339 : String → Except String Int} {m : FindingImportManifest}
    (hm : refusalReason m = none) (g : Int) (now : String) (cfg : IngestConfig) :
    ∀ w ∈ ingestWrites rfc3339 (.parsed m) g now cfg, w.Asserting g := by
  intro w hw
  simp only [ingestWrites, hm] at hw
  rcases mem_append.mp hw with hw | hw
  · obtain ⟨f, _, rfl⟩ := List.mem_map.mp hw
    exact asserting_of_overwrite ⟨rfl, rfl, rfl, rfl, rfl⟩ fun _ => ⟨rfl, rfl, rfl, rfl, rfl⟩
  · rw [Option.mem_toList, Option.map_eq_some_iff] at hw
    obtain ⟨d, _, rfl⟩ := hw
    exact asserting_of_overwrite ⟨rfl, rfl, rfl, rfl, rfl⟩ fun _ => ⟨rfl, rfl, rfl, rfl, rfl⟩

/-- `n` writes to one row: the count grows by `n`. -/
theorem asserted_row {ws : List RowWrite} (hws : ∀ w ∈ ws, w.Asserting g) :
    ∀ {first last streak absent gone : Int} {r : WarningRow}, Counted first last streak absent gone r → ∃ r',
      ws.foldl (fun old w => some (old.elim w.row w.overwrite)) (some r) = some r' ∧
        Counted first (if ws = [] then last else g) (streak + ws.length) absent gone r' := by
  induction ws with
  | nil =>
    intro first last streak absent gone r hr
    exact ⟨r, rfl, hr.first, hr.last, by rw [hr.streak]; simp, hr.absent, hr.gone⟩
  | cons w ws ih =>
    intro first last streak absent gone r hr
    have hw := (hws w (by simp)).overwrite hr
    obtain ⟨r', hr', hc⟩ := ih (fun w' hw' => hws w' (mem_cons_of_mem _ hw')) hw
    refine ⟨r', hr', hc.first, ?_, ?_, hc.absent, hc.gone⟩
    · rw [hc.last]; split <;> simp
    · rw [hc.streak, length_cons]; push_cast; omega

section

variable (rfc3339 : String → Except String Int)

/-- `n` assertions of `k` in generation `g`: by the coverage recorder, or by an import of an
    accepted manifest that contains it, once for each row of `k` the import writes. -/
inductive Asserts (k : FindingId) (g : Int) : Nat → Db → Db → Prop
  | coverage {db db' : Db} {key : String} (c : CoverageCall) (hk : c.id = k) (hg : c.generationId = g)
      (h : recordCoverageTestimonyAbsentFinding db c = .ok (db', key)) : Asserts k g 1 db db'
  | ingest {db : Db} (m : FindingImportManifest) (now : String) (cfg : IngestConfig) (hm : refusalReason m = none)
      (hk : k ∈ m.findings.map ImportedFinding.id) :
      Asserts k g ((ingestWrites rfc3339 (.parsed m) g now cfg).filter (·.row.id = k)).length db
        (ingestFindingImport rfc3339 db (.parsed m) g now cfg).1

end

variable {rfc3339 : String → Except String Int}

/-- An assertion is at least one write to the row, each starting or moving its counters. -/
theorem Asserts.writes (h : Asserts rfc3339 k g n db db') :
    ∃ ws : List RowWrite, ws ≠ [] ∧ ws.length = n ∧ (∀ w ∈ ws, w.Asserting g) ∧
      db'.warningState.get k = ws.foldl (fun old w => some (old.elim w.row w.overwrite)) (db.warningState.get k) := by
  cases h with
  | coverage c hk hg h =>
    subst hk hg
    refine ⟨[coverageWrite c], by simp, rfl, ?_, ?_⟩
    · intro w hw
      rw [mem_singleton] at hw
      exact hw ▸ coverageWrite_asserting c
    · rw [(recordCoverage_ok h).1]
      refine (get_applyWrites [coverageWrite c] c.id db.warningState).trans ?_
      have hid : (coverageWrite c).row.id = c.id := rfl
      simp [writesEffect, hid]
  | ingest m now cfg hm hk =>
    refine ⟨(ingestWrites rfc3339 (.parsed m) g now cfg).filter (·.row.id = k), ?_, rfl, ?_, ?_⟩
    · obtain ⟨f, hf, hid⟩ := List.mem_map.mp hk
      have hmem : importWrite m f g now ∈ ingestWrites rfc3339 (.parsed m) g now cfg := by
        simp only [ingestWrites, hm]
        exact mem_append_left _ (mem_map_of_mem hf)
      exact ne_nil_of_mem (mem_filter.mpr ⟨hmem, decide_eq_true hid⟩)
    · intro w hw
      exact ingestWrites_asserting hm g now cfg w (mem_filter.mp hw).1
    · rw [ingest_warningState, get_applyWrites]
      rfl

theorem Asserts.fresh (h : Asserts rfc3339 k g n db db') (hnone : db.warningState.get k = none) :
    ∃ r, db'.warningState.get k = some r ∧ Counted g g n 0 0 r := by
  obtain ⟨ws, hne, hlen, hws, hget⟩ := h.writes
  rw [hnone] at hget
  cases ws with
  | nil => exact absurd rfl hne
  | cons w ws =>
    obtain ⟨r, hr, hc⟩ := asserted_row (fun w' hw' => hws w' (mem_cons_of_mem _ hw')) (hws w (by simp)).row
    refine ⟨r, hget.trans hr, hc.first, ?_, ?_, hc.absent, hc.gone⟩
    · rw [hc.last]; split <;> rfl
    · rw [hc.streak, ← hlen, length_cons]; push_cast; omega

theorem Asserts.again (h : Asserts rfc3339 k g n db db') (hr : db.warningState.get k = some r)
    (hc : Counted first last streak absent gone r) :
    ∃ r', db'.warningState.get k = some r' ∧ Counted first g (streak + n) absent gone r' := by
  obtain ⟨ws, hne, hlen, hws, hget⟩ := h.writes
  obtain ⟨r', hr', hc'⟩ := asserted_row hws hc
  rw [hr] at hget
  refine ⟨r', hget.trans hr', hc'.first, ?_, ?_, hc'.absent, hc'.gone⟩
  · rw [hc'.last, if_neg hne]
  · rw [hc'.streak, hlen]

/-! ## Runs -/

section

variable (rfc3339 : String → Except String Int)

/-- `k`, first asserted in generation `g₀`, asserted again in every generation up to `g`,
    each time after an update that does not emit it: `n` assertions so far; `masked`: every
    one of those updates masked its row. Between an assertion and the next update anything
    may happen to the other rows. -/
inductive Reasserted (k : FindingId) (g₀ : Int) : Int → Nat → Bool → Db → Prop
  | first {n : Nat} {db db' : Db} (hnone : db.warningState.get k = none) (ha : Asserts rfc3339 k g₀ n db db') :
      Reasserted k g₀ g₀ n true db'
  | next {g : Int} {n n' : Nat} {masked : Bool} {db db₁ db₂ db₃ : Db} {u : UpdateCall}
      (hprev : Reasserted k g₀ g n masked db) (hsame : db₁.warningState.get k = db.warningState.get k)
      (hu : u.run db₁ = .ok db₂) (hg : u.generationId = g + 1) (hk : k ∉ u.emittedIds db₁)
      (ha : Asserts rfc3339 k (g + 1) n' db₂ db₃) :
      Reasserted k g₀ (g + 1) (n + n') (masked && (u.masked db₁ k.host k.kind).isSome) db₃

/-- `j` further updates that neither emit nor mask `k`, and no assertions. -/
inductive Quiet (k : FindingId) (db₀ : Db) : Nat → Db → Prop
  | refl : Quiet k db₀ 0 db₀
  | next {j : Nat} {db db₁ db₂ : Db} {u : UpdateCall} (hprev : Quiet k db₀ j db)
      (hsame : db₁.warningState.get k = db.warningState.get k) (hu : u.run db₁ = .ok db₂)
      (hk : k ∉ u.emittedIds db₁) (hm : u.masked db₁ k.host k.kind = none) : Quiet k db₀ (j + 1) db₂

end

theorem Reasserted.le (h : Reasserted rfc3339 k g₀ g n masked db) : g₀ ≤ g := by
  induction h with
  | first => exact le_refl _
  | next _ _ _ _ _ _ ih => omega

/-! ## Masked throughout -/

/-- An update that masks the row moves none of its counters. -/
theorem masked_counted {reason : SuppressionReason} (h : u.run db = .ok db') (hk : k ∉ u.emittedIds db)
    (hm : u.masked db k.host k.kind = some reason) (hr : db.warningState.get k = some r)
    (hc : Counted first last streak absent 0 r) :
    ∃ r', db'.warningState.get k = some r' ∧ Counted first last streak absent 0 r' := by
  obtain ⟨r', hr', hfin⟩ := masked_row_stays (run_updated h) hk hm hr (by rw [hc.gone]; decide)
  have hcore := (finish_core hfin).trans (core_suppress _ _ _)
  refine ⟨r', hr', (congrArg (·.firstSeenGen) hcore).trans hc.first, (congrArg (·.lastSeenGen) hcore).trans hc.last,
    (congrArg (·.consecutiveGens) hcore).trans hc.streak, (congrArg (·.absentGens) hcore).trans hc.absent, ?_⟩
  rw [finish_gone hfin, goneAfter_suppress, hc.gone]
  split <;> rfl

theorem Reasserted.counted (h : Reasserted rfc3339 k g₀ g n masked db) : masked = true →
      ∃ r, db.warningState.get k = some r ∧ Counted g₀ g n 0 0 r := by
  induction h with
  | first hnone ha => intro _; exact ha.fresh hnone
  | next _ hsame hu _ hk ha ih =>
    intro hmask
    rw [Bool.and_eq_true] at hmask
    obtain ⟨r, hr, hc⟩ := ih hmask.1
    obtain ⟨reason, hreason⟩ := Option.isSome_iff_exists.mp hmask.2
    obtain ⟨r₂, hr₂, hc₂⟩ := masked_counted hu hk hreason (hsame.trans hr) hc
    obtain ⟨r₃, hr₃, hc₃⟩ := ha.again hr₂ hc₂
    exact ⟨r₃, hr₃, hc₃.first, hc₃.last, by rw [hc₃.streak]; push_cast; rfl, hc₃.absent, hc₃.gone⟩

/-- An unmasked update that does not emit the row, in its first or second absence. -/
theorem aged_counted (h : u.run db = .ok db') (hk : k ∉ u.emittedIds db) (hm : u.masked db k.host k.kind = none)
    (hr : db.warningState.get k = some r) (hc : Counted first last streak absent gone r)
    (ha : absent + 1 < recoveryWindow) (hg : 0 ≤ gone ∧ gone + 1 ≤ entityGcThreshold) :
    ∃ r' gone', db'.warningState.get k = some r' ∧ Counted first last streak (absent + 1) gone' r' ∧
      0 ≤ gone' ∧ gone' ≤ gone + 1 := by
  have hbound : 0 ≤ db.goneAfter r.incAbsent ∧ db.goneAfter r.incAbsent ≤ gone + 1 := by
    have hgone : r.incAbsent.entityGoneGens = gone := hc.gone
    unfold Db.goneAfter
    rw [hgone]
    split
    · omega
    · split <;> omega
  obtain ⟨r', hr', hfin⟩ := (run_updated h).aged hk hm hr (by rw [hc.absent]; exact ha) (by omega)
  have hcore := finish_core hfin
  refine ⟨r', _, hr', ⟨(congrArg (·.firstSeenGen) hcore).trans hc.first, (congrArg (·.lastSeenGen) hcore).trans hc.last,
    (congrArg (·.consecutiveGens) hcore).trans hc.streak, ?_, finish_gone hfin⟩, hbound⟩
  have habsent : r'.absentGens = r.absentGens + 1 := congrArg (·.absentGens) hcore
  rw [habsent, hc.absent]

/-- Once the assertions stop the row is absent once, twice, and gone. -/
theorem Quiet.counted {db₀ : Db} {r₀ : WarningRow} {j : Nat} (h : Quiet k db₀ j db)
    (hr₀ : db₀.warningState.get k = some r₀) (hc₀ : Counted first last streak 0 0 r₀) :
    (j < 3 → ∃ r gone, db.warningState.get k = some r ∧ Counted first last streak j gone r ∧ 0 ≤ gone ∧ gone ≤ j) ∧
      (3 ≤ j → db.warningState.get k = none) := by
  induction h with
  | refl => exact ⟨fun _ => ⟨r₀, 0, hr₀, hc₀, by omega, by omega⟩, fun h => by omega⟩
  | @next j db db₁ db₂ u _ hsame hu hk hm ih =>
    have hwindow : recoveryWindow = 3 := rfl
    have hgc : entityGcThreshold = 10 := rfl
    refine ⟨fun hj => ?_, fun hj => ?_⟩
    · obtain ⟨r, gone, hr, hc, hg⟩ := ih.1 (by omega)
      obtain ⟨r', gone', hr', hc', hg'⟩ := aged_counted hu hk hm (hsame.trans hr) hc (by omega) (by omega)
      exact ⟨r', gone', hr', by push_cast; exact hc', by push_cast; omega⟩
    · by_cases hlast : j = 2
      · subst hlast
        obtain ⟨r, _, hr, hc, _⟩ := ih.1 (by omega)
        exact (run_updated hu).cleared hk hm (hsame.trans hr) (by rw [hc.absent]; decide)
      · have hnone : db₁.warningState.get k = none := hsame.trans (ih.2 (by omega))
        rw [(run_updated hu).absent k hk, hnone]
        rfl

/-! ## One unmasked generation -/

/-- An unmasked update leaves an absence that no assertion takes back, or a row that
    starts again later. -/
theorem Reasserted.off (h : Reasserted rfc3339 k g₀ g n masked db) :
    ∃ r, db.warningState.get k = some r ∧ 0 ≤ r.absentGens ∧
      (masked = false → 1 ≤ r.absentGens ∨ g₀ < r.firstSeenGen) := by
  induction h with
  | first hnone ha =>
    obtain ⟨r, hr, hc⟩ := ha.fresh hnone
    exact ⟨r, hr, by rw [hc.absent], fun h => nomatch h⟩
  | @next g n n' masked db db₁ db₂ db₃ u hprev hsame hu hg hk ha ih =>
    cases hget : db₂.warningState.get k with
    | none =>
      obtain ⟨r, hr, hc⟩ := ha.fresh hget
      have := hprev.le
      exact ⟨r, hr, by rw [hc.absent], fun _ => .inr (by rw [hc.first]; omega)⟩
    | some r₂ =>
      obtain ⟨r₃, hr₃, hc⟩ := ha.again hget ⟨rfl, rfl, rfl, rfl, rfl⟩
      refine ⟨r₃, hr₃, ?_⟩
      rw [hc.absent, hc.first]
      obtain ⟨r, hr, habsent, hoff⟩ := ih
      rcases (run_updated hu).row_cases hget with ⟨f, hf, hid, _⟩ | ⟨_, r₁, hr₁, hcase⟩
      · exact absurd (hid ▸ mem_map_of_mem hf) hk
      · rw [hsame, hr] at hr₁
        cases hr₁
        rcases hcase with ⟨reason, hm, hfin⟩ | ⟨hm, _, hfin⟩
        · have hcore := (finish_core hfin).trans (core_suppress _ _ _)
          have hab : r₂.absentGens = r.absentGens := congrArg (·.absentGens) hcore
          have hfirst : r₂.firstSeenGen = r.firstSeenGen := congrArg (·.firstSeenGen) hcore
          rw [hab, hfirst, hm]
          refine ⟨habsent, fun hmask => hoff ?_⟩
          simpa using hmask
        · have hcore := finish_core hfin
          have hab : r₂.absentGens = r.absentGens + 1 := congrArg (·.absentGens) hcore
          rw [hab]
          exact ⟨by omega, fun _ => .inl (by omega)⟩

/-- The counters of the last assertion (a row that was deleted in between starts later
    than `g₀`), and the recovery count that begins when the assertions stop. -/
structure NeverAgesOut (k : FindingId) (g₀ g : Int) (n : Nat) (db : Db) : Prop where
  row : ∃ r, db.warningState.get k = some r ∧
    r.firstSeenGen = g₀ ∧ r.consecutiveGens = n ∧ r.absentGens = 0 ∧ r.lastSeenGen = g
  recovery : ∀ j db', Quiet k db j db' →
    if j < 3 then ∃ r, db'.warningState.get k = some r ∧ r.absentGens = j else db'.warningState.get k = none

/-- In a run of assertions, one after each update, the row's counters are those of the
    assertions exactly when every one of the updates masked it. -/
theorem reasserted_iff_masked {k : FindingId} {g₀ g : Int} {n : Nat} {masked : Bool} {db : Db}
    (h : Reasserted rfc3339 k g₀ g n masked db) : NeverAgesOut k g₀ g n db ↔ masked = true := by
  constructor
  · intro hage
    obtain ⟨r, hr, _, hoff⟩ := h.off
    obtain ⟨r', hr', hfirst, _, habsent, _⟩ := hage.row
    rw [hr] at hr'
    cases hr'
    cases masked with
    | true => rfl
    | false => have := hoff rfl; omega
  · intro hmask
    obtain ⟨r, hr, hc⟩ := h.counted hmask
    refine ⟨⟨r, hr, hc.first, hc.streak, hc.absent, hc.last⟩, ?_⟩
    intro j db' hq
    have hcount := hq.counted hr hc
    split
    · rename_i hj
      obtain ⟨r', _, hr', hc', _⟩ := hcount.1 hj
      exact ⟨r', hr', hc'.absent⟩
    · rename_i hj
      exact hcount.2 (by omega)

/-! ## Traces -/

/-- A component on `db-1` that never testified, as found in generation `g`. -/
def absentCall (g : Int) : CoverageCall where
  componentId := "db-1"
  subjectId := "backup"
  claimKind := "liveness"
  classification := .neverObserved 1 "hash" "2025-01-01T00:00:00Z" "resolver" "ops"
  generationId := g
  observedAt := "2025-01-01T00:00:00Z"
  coverageStart := none
  evaluationEngineId := "engine"

/-- One generation of the serve loop: the update, then the coverage evaluation. -/
def coveredCycle (u : UpdateCall) (db : Db) : Except DbError Db := do
  let db ← u.run db
  let (db, _) ← recordCoverageTestimonyAbsentFinding db (absentCall u.generationId)
  return db

theorem coveredCycle_ok (h : coveredCycle u db = .ok db') :
    ∃ db₁, u.run db = .ok db₁ ∧ Asserts rfc3339 (absentCall 1).id u.generationId 1 db₁ db' := by
  obtain ⟨db₁, h₁, h⟩ := Sql.bind_ok.mp h
  obtain ⟨⟨db₂, key⟩, h₂, h⟩ := Sql.bind_ok.mp h
  cases h
  exact ⟨db₁, h₁, .coverage (absentCall u.generationId) rfl rfl h₂⟩

theorem Reasserted.covered (hprev : Reasserted rfc3339 (absentCall 1).id 1 g n masked db) (hg : u.generationId = g + 1)
    (hk : (absentCall 1).id ∉ u.emittedIds db) (h : coveredCycle u db = .ok db') :
    Reasserted rfc3339 (absentCall 1).id 1 (g + 1) (n + 1) (masked &&
      (u.masked db "db-1" kindCoverageTestimonyAbsent).isSome)
      db' := by
  obtain ⟨db₁, h₁, ha⟩ := coveredCycle_ok h
  exact .next hprev rfl h₁ hg hk (hg ▸ ha)

theorem not_mem_emittedIds_quietCall (g : Int) (k : FindingId) (db : Db) : k ∉ (quietCall g).emittedIds db := by
  rw [UpdateCall.emittedIds, emitted_eq_findings (by simp [quietCall])]
  simp [quietCall]

/-- Four assertions, the fourth of a row that the fourth update has just deleted. -/
theorem reasserted_four_times_and_new :
    ∃ masked db r, Reasserted (fun _ => .error "") (absentCall 1).id 1 4 4 masked db ∧
    db.warningState.get (absentCall 1).id = some r ∧ r.firstSeenGen = 4 ∧ r.consecutiveGens = 1 ∧
    ¬ NeverAgesOut (absentCall 1).id 1 4 4 db := by
  have h : (coveredCycle (quietCall 1) (Db.published 4)).toOption.bind (fun db₁ =>
      (coveredCycle (quietCall 2) db₁).toOption.bind fun db₂ =>
        (coveredCycle (quietCall 3) db₂).toOption.bind fun db₃ =>
          (coveredCycle (quietCall 4) db₃).toOption.map fun db₄ =>
            (db₄.warningState.get (absentCall 1).id).map fun r => (r.firstSeenGen, r.consecutiveGens)) =
      some (some (4, 1)) := by decide +kernel
  obtain ⟨db₁, h₁, h⟩ := Option.bind_eq_some_iff.mp h
  obtain ⟨db₂, h₂, h⟩ := Option.bind_eq_some_iff.mp h
  obtain ⟨db₃, h₃, h⟩ := Option.bind_eq_some_iff.mp h
  obtain ⟨db₄, h₄, h⟩ := Sql.ok_of_toOption h
  obtain ⟨r, hr, hread⟩ := Option.map_eq_some_iff.mp h
  obtain ⟨hfirst, hstreak⟩ := Prod.mk.inj hread
  obtain ⟨db₀, h₀, ha⟩ := coveredCycle_ok (Sql.toOption_eq_some.mp h₁)
  have hnone : db₀.warningState.get (absentCall 1).id = none := by
    rw [(run_updated h₀).absent _ (not_mem_emittedIds_quietCall _ _ _)]
    rfl
  have hrun₁ : Reasserted (fun _ => .error "") (absentCall 1).id 1 1 1 true db₁ := .first hnone ha
  have hrun₂ := hrun₁.covered rfl (not_mem_emittedIds_quietCall _ _ _) (Sql.toOption_eq_some.mp h₂)
  have hrun₃ := hrun₂.covered rfl (not_mem_emittedIds_quietCall _ _ _) (Sql.toOption_eq_some.mp h₃)
  have hrun₄ := hrun₃.covered rfl (not_mem_emittedIds_quietCall _ _ _) h₄
  refine ⟨_, db₄, r, hrun₄, hr, hfirst, hstreak, ?_⟩
  intro hage
  obtain ⟨r', hr', hfirst', _⟩ := hage.row
  rw [hr] at hr'
  cases hr'
  omega

/-- The same component on a host that is stale in generation 2: the row is held, and
    counted as asserted. -/
theorem reasserted_on_a_stale_host : ∃ db, Reasserted (fun _ => .error "") (absentCall 1).id 1 2 2 true db ∧
    NeverAgesOut (absentCall 1).id 1 2 2 db := by
  have h : (coveredCycle (quietCall 1) (Db.published 2)).toOption.bind (fun db₁ =>
      (coveredCycle (staleCall 2) db₁).toOption.map fun _ => ()) = some () := by decide +kernel
  obtain ⟨db₁, h₁, h⟩ := Option.bind_eq_some_iff.mp h
  obtain ⟨db₂, h₂, _⟩ := Sql.ok_of_toOption h
  obtain ⟨db₀, h₀, ha⟩ := coveredCycle_ok (Sql.toOption_eq_some.mp h₁)
  have hnone : db₀.warningState.get (absentCall 1).id = none := by
    rw [(run_updated h₀).absent _ (not_mem_emittedIds_quietCall _ _ _)]
    rfl
  have hrun₁ : Reasserted (fun _ => .error "") (absentCall 1).id 1 1 1 true db₁ := .first hnone ha
  have hk : (absentCall 1).id ∉ (staleCall 2).emittedIds db₁ := by
    rw [UpdateCall.emittedIds, emitted_staleCall]
    decide
  have hmask : ((staleCall 2).masked db₁ "db-1" kindCoverageTestimonyAbsent).isSome = true := by
    unfold UpdateCall.masked UpdateCall.hasParent
    rw [emitted_staleCall]
    rfl
  have hrun₂ := hrun₁.covered rfl hk h₂
  rw [hmask] at hrun₂
  exact ⟨db₂, hrun₂, (reasserted_iff_masked hrun₂).mpr rfl⟩

end Nq
