/-
  Nq.Lifecycle.Persistence — how long a finding has lasted.

  The streak is computed in Rust for the severity and in SQL for the stored counter; the
  two agree, for a missing row, for unknown rule hashes on either side and for a revived
  row alike (`newGens_eq_stored`, `stored_severity_matches_stored_streak`).

  An emitted row is upserted and then still passes the entity collector, which looks at
  four tables and not at whether the row was just emitted. It stays exactly when the
  collector spares its host (`emitted_row_lasts_iff_spared`); a finding whose host is in
  none of the four tables is deleted in its eleventh generation, while it is being
  emitted (`emitted_for_eleven_generations_and_gone`).
-/

import Nq.Lifecycle.Run

namespace Nq

open Sql (Table)

/-! ## One streak, computed twice -/

variable {db db' first : Db} {r : WarningRow} {u : UpdateCall} {g : Int} {hash : Option String} {k : FindingId}
  {n : Nat} {f : Finding} (c : Cycle) (prev : Option WarningRow)

theorem newGens_eq_stored (f : Finding) : newGens prev c.generationId f = (emittedRow c prev f).consecutiveGens := by
  rw [consecutiveGens_emittedRow]
  cases prev with
  | none => cases f.ruleHash <;> simp [newGens, hashChanged]
  | some r =>
    have hhash : hashChanged f.ruleHash r.ruleHash = true ↔
        f.ruleHash ≠ none ∧ r.ruleHash ≠ none ∧ sqlNe r.ruleHash f.ruleHash = some true := by
      cases f.ruleHash with
      | none => simp [hashChanged]
      | some new =>
        cases r.ruleHash with
        | none => simp [hashChanged]
        | some old =>
          simp only [hashChanged, sqlNe, bne_iff_ne, ne_eq, reduceCtorEq,
            not_false_eq_true, Option.some.injEq, true_and]
          exact ⟨Ne.symm, Ne.symm⟩
    simp only [newGens, Option.map_some, Option.getD_some, Option.elim_some, caseConsecutive, hhash, decide_eq_true_eq]

theorem severity_emittedRow (f : Finding) : (emittedRow c prev f).severity = severityOf c prev f := by
  cases prev <;> rfl

/-- The severity written to both tables is that of the streak the upsert stores; both are
    still there when the transaction commits. -/
theorem stored_severity_matches_stored_streak {u : UpdateCall} {db db' : Db} (h : u.run db = .ok db') {f : Finding}
    (hf : f ∈ u.emitted db) :
    ∃ db₁ row obs, recordFindings (u.cycle db) db (u.emitted db) = .ok db₁ ∧
      db₁.warningState.get f.id = some row ∧
      row.consecutiveGens =
        (db.warningState.get f.id).elim 1 (caseConsecutive · u.generationId f.ruleHash) ∧
      row.severity = computeSeverity f.kind f.stateKind row.consecutiveGens u.escalation ∧
      db'.findingObservations.get (u.generationId, f.key) = some obs ∧ obs.severity = row.severity ∧
      ∀ r, db'.warningState.get f.id = some r →
        r.severity = row.severity ∧ r.consecutiveGens = row.consecutiveGens := by
  obtain ⟨_, db₁, h₁, _⟩ := run_eq_ok.mp h
  have hrec := recordFindings_recorded h₁
  have hupd := run_updated h
  have hfind := find_id hrec.nodup hf
  have hfindKey : (u.emitted db).find? (fun f' => (u.generationId, f'.key) = (u.generationId, f.key)) = some f := by
    refine Eq.trans (congrArg (List.find? · (u.emitted db)) (funext fun f' => ?_)) hfind
    simp [Finding.key_eq_iff]
  refine ⟨db₁, emittedRow (u.cycle db) (db.warningState.get f.id) f,
    observationOf (u.cycle db) f (severityOf (u.cycle db) (db.warningState.get f.id) f), h₁, ?_, ?_, ?_, ?_, ?_, ?_⟩
  · rw [hrec.rows, hfind]; rfl
  · exact consecutiveGens_emittedRow _ _ _
  · rw [severity_emittedRow, ← newGens_eq_stored]; rfl
  · rw [hupd.observations, hfindKey]; rfl
  · exact (severity_emittedRow _ _ _).symm
  · intro r hr
    obtain ⟨s, hs⟩ := hupd.emitted f hf
    have hcore := finish_core (hs.symm.trans hr)
    exact ⟨congrArg (·.severity) hcore, congrArg (·.consecutiveGens) hcore⟩

def strayCalls (n : Nat) : List UpdateCall := (List.range n).map fun i : Nat => strayCall (i + 1)

/-- The first emission of a finding, on a fresh database. -/
theorem stored_severity_of_a_first_emission : ∃ db', (strayCall 1).run (Db.published 1) = .ok db' ∧
    ∃ (row : WarningRow) (obs : ObservationRow), row.consecutiveGens = 1 ∧
      row.severity = computeSeverity "wal_bloat" .degradation row.consecutiveGens {} ∧
    db'.findingObservations.get (1, strayFinding.key) = some obs ∧ obs.severity = row.severity := by
  have h : (((strayCall 1).run (Db.published 1)).toOption.map fun _ => ()) = some () := by decide +kernel
  obtain ⟨db', hrun, _⟩ := Sql.ok_of_toOption h
  obtain ⟨_, row, obs, _, _, hstreak, hsev, hobs, hsame, _⟩ :=
    stored_severity_matches_stored_streak hrun (f := strayFinding) (by simp [UpdateCall.emitted, strayCall])
  exact ⟨db', hrun, row, obs, hstreak, hsev, hobs, hsame⟩

/-! ## The collector and emitted rows -/

/-- The collector does not delete the identity's row in the update that emits it. -/
def Db.Spares (db : Db) (k : FindingId) : Prop :=
  k.host = "" ∨ k.host ∈ db.knownHosts ∨ (db.warningState.get k).elim 0 WarningRow.entityGoneGens < entityGcThreshold

instance (db : Db) (k : FindingId) : Decidable (db.Spares k) := inferInstanceAs (Decidable (_ ∨ _ ∨ _))

theorem mem_knownHosts_of_present {host : String} (h : host ∈ db.presentHosts) : host ∈ db.knownHosts := by
  unfold Db.presentHosts at h
  unfold Db.knownHosts
  rw [List.append_assoc]
  exact List.mem_append_left _ h

theorem goneAfter_observed_le_iff (hv : r.visibilityState = .observed) (hg : r.entityGoneGens ≤ entityGcThreshold) :
    db.goneAfter r ≤ entityGcThreshold ↔
      r.host = "" ∨ r.host ∈ db.knownHosts ∨ r.entityGoneGens < entityGcThreshold := by
  unfold Db.goneAfter
  by_cases hhost : r.host = ""
  · simp [hhost, hg]
  by_cases hknown : r.host ∈ db.knownHosts
  · by_cases hp : r.host ∈ db.presentHosts
    · simp [hhost, hknown, hp, entityGcThreshold]
    · simp [hhost, hknown, hp, hg]
  · have hp : r.host ∉ db.presentHosts := fun h => hknown (mem_knownHosts_of_present h)
    simp only [hhost, hknown, hp, hv, ne_eq, not_false_eq_true, and_false, and_self, if_false, if_true, false_or]
    omega

theorem spares_iff (hinv : db.RowsInv) (f : Finding) (s : Stability) :
    (u.finish db ((emittedRow (u.cycle db) (db.warningState.get f.id) f).setStability s)).isSome = true ↔
      db.Spares f.id := by
  have hid : (emittedRow (u.cycle db) (db.warningState.get f.id) f).id = f.id := id_emittedRow
  have hgone := entityGoneGens_emittedRow (u.cycle db) (db.warningState.get f.id) f
  have hvis := visibilityState_emittedRow (u.cycle db) (db.warningState.get f.id) f
  have hle : (emittedRow (u.cycle db) (db.warningState.get f.id) f).entityGoneGens ≤ entityGcThreshold := by
    rw [hgone]
    cases hprev : db.warningState.get f.id with
    | none => decide
    | some r => exact (hinv f.id r hprev).gone
  generalize emittedRow (u.cycle db) (db.warningState.get f.id) f = e at hid hgone hvis hle ⊢
  have hhost : e.host = f.id.host := congrArg FindingId.host hid
  have hiff : db.goneAfter (e.setStability s) ≤ entityGcThreshold ↔ _ := goneAfter_observed_le_iff hvis hle
  rw [finish_isSome, hiff, Db.Spares, ← hgone, ← hhost]
  rfl

/-! ## Runs of consecutive generations -/

variable (rfc3339 : String → Except String Int)

/-- `n + 1` consecutive generations, the last of them `g`, that each emit `k` under the rule
    `hash`, the collector sparing it each time; `first` is the database after the first of
    them, and between two updates everything but `warning_state` may change. -/
inductive Streak (k : FindingId) (hash : Option String) : Nat → Int → Db → Db → Prop
  | start {u : UpdateCall} {db db' : Db} {f : Finding} (hr : Reach rfc3339 db) (h : u.run db = .ok db')
      (hf : f ∈ u.emitted db) (hk : f.id = k) (hh : f.ruleHash = hash) (hs : db.Spares k) :
      Streak k hash 0 u.generationId db' db'
  | next {n : Nat} {g : Int} {first db db₁ db₂ : Db} {u : UpdateCall} {f : Finding} (hprev : Streak k hash n g first db)
      (hsame : db₁.warningState = db.warningState) (h : u.run db₁ = .ok db₂) (hg : u.generationId = g + 1)
      (hf : f ∈ u.emitted db₁) (hk : f.id = k) (hh : f.ruleHash = hash) (hs : db₁.Spares k) :
      Streak k hash (n + 1) (g + 1) first db₂

variable {rfc3339}

theorem Streak.reach (h : Streak rfc3339 k hash n g first db) : Reach rfc3339 db := by
  induction h with
  | start hr h => exact .step hr (.update _ h)
  | next _ hsame h _ _ _ _ _ ih => exact .step (.step ih (.elsewhere hsame)) (.update _ h)

/-- A spared emission leaves the upserted row, its core untouched. -/
theorem spared_row (hinv : db.RowsInv) (h : u.run db = .ok db') (hf : f ∈ u.emitted db) (hs : db.Spares f.id) :
    ∃ s r, db'.warningState.get f.id = some r ∧
      r.core = ((emittedRow (u.cycle db) (db.warningState.get f.id) f).setStability s).core := by
  obtain ⟨s, hget⟩ := (run_updated h).emitted f hf
  obtain ⟨r, hr⟩ := Option.isSome_iff_exists.mp ((spares_iff hinv f s).mpr hs)
  exact ⟨s, r, hget.trans hr, finish_core hr⟩

structure Lasting (g first streak : Int) (hash : Option String) (r : WarningRow) : Prop where
  lastSeen : r.lastSeenGen = g
  absent : r.absentGens = 0
  firstSeen : r.firstSeenGen = first
  streak : r.consecutiveGens = streak
  ruleHash : r.ruleHash = hash

/-- The next generation of a streak: the same first generation, one more in the count. -/
theorem lasting_next {first streak : Int} (hinv : db.RowsInv) (h : u.run db = .ok db') (hf : f ∈ u.emitted db)
    (hh : f.ruleHash = hash) (hs : db.Spares f.id) (hg : u.generationId = g + 1)
    (hr : db.warningState.get f.id = some r) (hl : Lasting g first streak hash r) :
    ∃ r', db'.warningState.get f.id = some r' ∧ Lasting (g + 1) first (streak + 1) hash r' := by
  obtain ⟨s, r', hr', hcore⟩ := spared_row hinv h hf hs
  rw [hr] at hcore
  have hcount : caseConsecutive r u.generationId f.ruleHash = streak + 1 := by
    have hsame : sqlNe r.ruleHash f.ruleHash ≠ some true := by
      rw [hl.ruleHash, hh]
      cases hash <;> simp [sqlNe]
    unfold caseConsecutive
    rw [if_neg (fun hc => hsame hc.2.2), hl.lastSeen, hg, hl.streak]
    simp
  refine ⟨r', hr', ?_, ?_, ?_, ?_, ?_⟩
  · exact (congrArg (·.lastSeenGen) hcore).trans hg
  · exact congrArg (·.absentGens) hcore
  · exact (congrArg (·.firstSeenGen) hcore).trans hl.firstSeen
  · exact (congrArg (·.consecutiveGens) hcore).trans hcount
  · exact (congrArg (·.ruleHash) hcore).trans hh

theorem Streak.lasting {r₀ : WarningRow} (h : Streak rfc3339 k hash n g first db)
    (hr₀ : first.warningState.get k = some r₀) :
    ∃ r, db.warningState.get k = some r ∧ Lasting g r₀.firstSeenGen (r₀.consecutiveGens + n) hash r := by
  induction h with
  | start hr h hf hk hh hs =>
    subst hk
    obtain ⟨s, r, hr', hcore⟩ := spared_row (reach_rowInv hr) h hf hs
    have hsame : r₀ = r := by rw [hr₀] at hr'; exact Option.some.inj hr'
    subst hsame
    refine ⟨r₀, hr₀, ?_, ?_, rfl, by simp, ?_⟩
    · exact (congrArg (·.lastSeenGen) hcore).trans (lastSeenGen_emittedRow _ _ _)
    · exact (congrArg (·.absentGens) hcore).trans (absentGens_emittedRow _ _ _)
    · exact ((congrArg (·.ruleHash) hcore).trans (ruleHash_emittedRow _ _ _)).trans hh
  | next hprev hsame h hg hf hk hh hs ih =>
    subst hk
    obtain ⟨r, hr, hl⟩ := ih hr₀
    have hinv := reach_rowInv (.step hprev.reach (.elsewhere hsame))
    obtain ⟨r', hr', hl'⟩ := lasting_next hinv h hf hh hs hg (hsame ▸ hr) hl
    refine ⟨r', hr', hl'.lastSeen, hl'.absent, hl'.firstSeen, ?_, hl'.ruleHash⟩
    rw [hl'.streak]
    push_cast
    omega

theorem Streak.first_row (h : Streak rfc3339 k hash n g first db) : ∃ r₀, first.warningState.get k = some r₀ := by
  induction h with
  | start hr h hf hk hh hs =>
    subst hk
    obtain ⟨_, r, hget, _⟩ := spared_row (reach_rowInv hr) h hf hs
    exact ⟨r, hget⟩
  | next _ _ _ _ _ _ _ _ ih => exact ih

/-- An emitted finding keeps its row exactly when the collector spares its host, and as
    long as it does, the first generation stays and the count grows by one each time. -/
theorem emitted_row_lasts_iff_spared :
    (∀ {u : UpdateCall} {db db' : Db}, Reach rfc3339 db → u.run db = .ok db' → ∀ f ∈ u.emitted db,
      ((∃ r, db'.warningState.get f.id = some r ∧ r.lastSeenGen = u.generationId ∧ r.absentGens = 0) ↔
        db.Spares f.id)) ∧
    ∀ {k : FindingId} {hash : Option String} {n : Nat} {g : Int} {first db : Db},
      Streak rfc3339 k hash n g first db → ∃ r₀ r, first.warningState.get k = some r₀ ∧ db.warningState.get k = some r ∧
        r.lastSeenGen = g ∧ r.absentGens = 0 ∧ r.firstSeenGen = r₀.firstSeenGen ∧
        r.consecutiveGens = r₀.consecutiveGens + n := by
  constructor
  · intro u db db' hr h f hf
    constructor
    · rintro ⟨r, hget, _⟩
      obtain ⟨s, hs⟩ := (run_updated h).emitted f hf
      exact (spares_iff (reach_rowInv hr) f s).mp (by rw [← hs, hget]; rfl)
    · intro hs
      obtain ⟨s, r, hget, hcore⟩ := spared_row (reach_rowInv hr) h hf hs
      exact ⟨r, hget, (congrArg (·.lastSeenGen) hcore).trans (lastSeenGen_emittedRow _ _ _),
        (congrArg (·.absentGens) hcore).trans (absentGens_emittedRow _ _ _)⟩
  · intro k hash n g first db h
    obtain ⟨r₀, hr₀⟩ := h.first_row
    obtain ⟨r, hr, hl⟩ := h.lasting hr₀
    exact ⟨r₀, r, hr₀, hr, hl.lastSeen, hl.absent, hl.firstSeen, hl.streak⟩

/-- After ten generations of being emitted, the eleventh emission deletes the row. -/
theorem emitted_for_eleven_generations_and_gone :
    ∃ db db', Reach (fun _ => .error "") db ∧ (strayCall 11).run db = .ok db' ∧
      strayFinding ∈ (strayCall 11).findings ∧ db'.warningState.get strayFinding.id = none := by
  have h : ((replay (Db.published 11) (strayCalls 10) >>= (strayCall 11).run).toOption.map
      (·.warningState.get strayFinding.id)) = some none := by decide +kernel
  obtain ⟨db', hrun, hnone⟩ := Sql.ok_of_toOption h
  obtain ⟨db, hdb, hlast⟩ := Sql.bind_ok.mp hrun
  exact ⟨db, db', reach_replay (.init rfl) hdb, hlast, by simp [strayCall], hnone⟩

/-- Two generations in a row, on a fresh database. -/
theorem emitted_twice_lasts : ∃ first db r₀ r, Streak (fun _ => .error "") strayFinding.id none 1 2 first db ∧
    first.warningState.get strayFinding.id = some r₀ ∧ db.warningState.get strayFinding.id = some r ∧
    r.lastSeenGen = 2 ∧ r.absentGens = 0 ∧ r.firstSeenGen = r₀.firstSeenGen ∧
      r.consecutiveGens = r₀.consecutiveGens + 1 ∧
    ∃ r', first.warningState.get strayFinding.id = some r' ∧ r'.lastSeenGen = 1 ∧ r'.absentGens = 0 := by
  have h : (((strayCall 1).run (Db.published 2) >>= (strayCall 2).run).toOption.map fun _ => ()) = some () := by
    decide +kernel
  obtain ⟨db, hrun, _⟩ := Sql.ok_of_toOption h
  obtain ⟨first, h₁, h₂⟩ := Sql.bind_ok.mp hrun
  have hreach : Reach (fun _ => .error "") (Db.published 2) := .init rfl
  have hspares : (Db.published 2).Spares strayFinding.id := .inr (.inr (by decide))
  have hmem : ∀ g db, strayFinding ∈ (strayCall g).emitted db := fun g db => by simp [UpdateCall.emitted, strayCall]
  have hstart : Streak (fun _ => .error "") strayFinding.id none 0 1 first first :=
    .start hreach h₁ (hmem 1 _) rfl rfl hspares
  have hfirst := (emitted_row_lasts_iff_spared.1 hreach h₁ _ (hmem 1 _)).mpr hspares
  have hgone : (((strayCall 1).run (Db.published 2)).toOption.map fun db => decide (db.Spares strayFinding.id)) =
      some true := by decide +kernel
  rw [h₁] at hgone
  have hspares₂ : first.Spares strayFinding.id := of_decide_eq_true (Option.some.inj hgone)
  have hstreak : Streak (fun _ => .error "") strayFinding.id none 1 2 first db :=
    .next hstart rfl h₂ rfl (hmem 2 _) rfl rfl hspares₂
  obtain ⟨r₀, r, h⟩ := emitted_row_lasts_iff_spared.2 hstreak
  exact ⟨first, db, r₀, r, hstreak, h.1, h.2.1, h.2.2.1, h.2.2.2.1, h.2.2.2.2.1, h.2.2.2.2.2, hfirst⟩

end Nq
