/-
  Nq.Detect.Edges — the four detectors that compare a subject's two newest history rows
  (`nq-db/src/detect.rs`): error counters of a vdev, reallocated sectors of a device, the
  state of a pool, the activation of a spare.

  In a generation that recorded the subject, the newest row is of that generation, so what
  is compared is that row with the one before it. One finding is raised when a covered
  subject crossed its edge between the two, and none otherwise
  (`edges_raised_where_recorded`). A counter that is NULL counts as 0 on either side
  (`signed_delta`), and a NULL state is a state of its own. The difference of two counters is
  a wrapping one: its sign is their order unless one of them is negative
  (`countersRose_of_count`).
-/

import Nq.Detect.Checks
import Nq.Publish.Histories

namespace Nq

open List

/-! ## Edges -/

def ZfsVdev.counters (v : ZfsVdev) : List (Option Int) := [v.readErrors, v.writeErrors, v.checksumErrors]

def SmartDevice.counters (d : SmartDevice) : List (Option Int) := [d.reallocatedSectorCount]

/-- By the sign of their 64-bit differences some counter rose and none fell, a missing one
    counting as 0. -/
def CountersRose (prior latest : List (Option Int)) : Prop :=
  (∃ c ∈ prior.zip latest, 0 < signedDelta c.2 c.1) ∧ ∀ c ∈ prior.zip latest, 0 ≤ signedDelta c.2 c.1

/-- What a counter counts: never negative, and it fits its column. -/
def Counts (counters : List (Option Int)) : Prop := ∀ c ∈ counters, 0 ≤ c.getD 0 ∧ Sql.FitsI64 (c.getD 0)

/-- Of the counters known on both sides some rose and none fell. -/
def KnownCountersRose (prior latest : List (Option Int)) : Prop :=
  (∃ c ∈ prior.zip latest, c.1.isSome = true ∧ c.2.isSome = true ∧ c.1.getD 0 < c.2.getD 0) ∧
    ∀ c ∈ prior.zip latest, c.1.isSome = true → c.2.isSome = true → c.1.getD 0 ≤ c.2.getD 0

instance (prior latest : List (Option Int)) : Decidable (CountersRose prior latest) :=
  inferInstanceAs (Decidable (_ ∧ _))

instance (prior latest : List (Option Int)) : Decidable (KnownCountersRose prior latest) :=
  inferInstanceAs (Decidable (_ ∧ _))

/-- Neither of two counts being negative, their difference does not wrap. -/
theorem signedDelta_of_count {current prior : Option Int} (hc : 0 ≤ current.getD 0) (hc' : Sql.FitsI64 (current.getD 0))
    (hp : 0 ≤ prior.getD 0) (hp' : Sql.FitsI64 (prior.getD 0)) :
    signedDelta current prior = current.getD 0 - prior.getD 0 := by
  refine Sql.wrapI64_of_fits ?_
  unfold Sql.FitsI64 at *
  omega

theorem countersRose_of_count {prior latest : List (Option Int)} (hprior : Counts prior) (hlatest : Counts latest) :
    CountersRose prior latest ↔
      (∃ c ∈ prior.zip latest, c.1.getD 0 < c.2.getD 0) ∧ ∀ c ∈ prior.zip latest, c.1.getD 0 ≤ c.2.getD 0 := by
  have hdelta : ∀ c ∈ prior.zip latest, signedDelta c.2 c.1 = c.2.getD 0 - c.1.getD 0 := by
    intro c hc
    obtain ⟨hp, hp'⟩ := hprior c.1 (of_mem_zip hc).1
    obtain ⟨hl, hl'⟩ := hlatest c.2 (of_mem_zip hc).2
    exact signedDelta_of_count hl hl' hp hp'
  unfold CountersRose
  refine and_congr ?_ ?_
  · refine exists_congr fun c => and_congr_right fun hc => ?_
    rw [hdelta c hc, Int.sub_pos]
  · refine forall₂_congr fun c hc => ?_
    rw [hdelta c hc, Int.sub_nonneg]

theorem vdev_countersRose (prior v : ZfsVdev) : CountersRose prior.counters v.counters ↔
    ¬(signedDelta v.readErrors prior.readErrors < 0 ∨ signedDelta v.writeErrors prior.writeErrors < 0 ∨
      signedDelta v.checksumErrors prior.checksumErrors < 0) ∧
    ¬(signedDelta v.readErrors prior.readErrors = 0 ∧ signedDelta v.writeErrors prior.writeErrors = 0 ∧
      signedDelta v.checksumErrors prior.checksumErrors = 0) := by
  simp only [CountersRose, ZfsVdev.counters, zip_cons_cons, zip_nil_right, mem_cons,
    not_mem_nil, or_false, exists_eq_or_imp, exists_eq_left, forall_eq_or_imp, forall_eq]
  omega

theorem device_countersRose (prior d : SmartDevice) : CountersRose prior.counters d.counters ↔
    ¬signedDelta d.reallocatedSectorCount prior.reallocatedSectorCount ≤ 0 := by
  simp only [CountersRose, SmartDevice.counters, zip_cons_cons, zip_nil_right, mem_cons,
    not_mem_nil, or_false, exists_eq_left, forall_eq]
  omega

/-- How many findings are about a subject of a host. -/
def raised (fs : List Finding) (host subject : String) : Nat :=
  (fs.filter fun f => f.host = host ∧ f.subject = subject).length

section

variable {α : Type} (subject : α → String)

/-- The row before `h` of the same subject. -/
def previous (rows : List (History α)) (h : History α) : Option (History α) :=
  Sql.lag (historyKey subject) History.generationId rows h

/-- Between the row before it and `h` the subject crossed an edge. -/
def crossed (edge : α → α → Bool) (rows : List (History α)) (h : History α) : Bool :=
  (previous subject rows h).any fun prior => edge prior.row h.row

/-! ## Comparing the two newest rows -/

variable {subject}

theorem raised_filterMap {ps : List (History α × History α)} {emit : History α × History α → Option Finding}
    (hemit : ∀ p f, emit p = some f → f.host = p.1.host ∧ f.subject = subject p.1.row) (h : History α) :
    raised (ps.filterMap emit) h.host (subject h.row) =
      ((ps.filter fun p => historyKey subject p.1 = historyKey subject h).filterMap emit).length := by
  unfold raised
  refine congrArg _ ?_
  induction ps with
  | nil => rfl
  | cons p ps ih =>
    by_cases hk : historyKey subject p.1 = historyKey subject h
    · rw [filter_cons_of_pos (by simpa using hk)]
      cases he : emit p with
      | none => simpa [he] using ih
      | some f =>
        obtain ⟨hhost, hsubject⟩ := hemit p f he
        simp only [historyKey, Prod.mk.injEq] at hk
        rw [filterMap_cons_some he, filterMap_cons_some he, filter_cons_of_pos, ih]
        simp [hhost, hsubject, hk]
    · rw [filter_cons_of_neg (by simpa using hk)]
      cases he : emit p with
      | none => simpa [he] using ih
      | some f =>
        obtain ⟨hhost, hsubject⟩ := hemit p f he
        rw [filterMap_cons_some he, filter_cons_of_neg, ih]
        simpa [hhost, hsubject, historyKey] using hk

variable {rows : List (History α)} {covers : History α → Bool} {edge : α → α → Bool}
  {emit : History α × History α → Option Finding} {latest : History α}

/-- A detector over the two newest rows of each covered subject, at a subject's newest row. -/
theorem raised_lastTwo (hn : (rows.map fun h => (h.generationId, historyKey subject h)).Nodup)
    (hcovers : ∀ h, historyKey subject h = historyKey subject latest → covers h = covers latest)
    (hemit : ∀ p f, emit p = some f → f.host = p.1.host ∧ f.subject = subject p.1.row)
    (hedge : ∀ prior, (emit (latest, prior)).isSome = edge prior.row latest.row)
    (hlatest : latest ∈ rows) (hnewest : ∀ h ∈ rows, h.generationId ≤ latest.generationId) :
    raised ((Sql.lastTwo (historyKey subject) History.generationId (rows.filter covers)).filterMap emit)
      latest.host (subject latest.row) = if covers latest && crossed subject edge rows latest then 1 else 0 := by
  rw [raised_filterMap hemit]
  by_cases hc : covers latest = true
  · have hmem : latest ∈ rows.filter covers := mem_filter.mpr ⟨hlatest, hc⟩
    rw [Sql.lastTwo_newest (((filter_sublist (p := covers)).map _).nodup hn) hmem
      (fun h hh _ => hnewest h (mem_filter.mp hh).1), Sql.lag_filter fun h hh => (hcovers h hh).trans hc]
    rw [hc, Bool.true_and]
    unfold crossed previous
    cases hlag : Sql.lag (historyKey subject) History.generationId rows latest with
    | none => rfl
    | some prior =>
      have he := hedge prior
      cases hemitted : emit (latest, prior) with
      | none =>
        rw [hemitted] at he
        simp [hemitted, ← he]
      | some f =>
        rw [hemitted] at he
        simp [hemitted, ← he]
  · -- no row of the subject is read
    have hnone : (Sql.lastTwo (historyKey subject) History.generationId (rows.filter covers)).filter
        (fun p => historyKey subject p.1 = historyKey subject latest) = [] := by
      refine filter_eq_nil_iff.mpr fun p hp hk => hc ?_
      obtain ⟨r, hr, hp⟩ := mem_filterMap.mp hp
      obtain ⟨_, _, e⟩ := Option.map_eq_some_iff.mp hp
      have hmem := (mem_filter.mp (mem_filter.mp hr).1).2
      have hkey : historyKey subject r = historyKey subject latest := by simpa [← e] using hk
      rw [← hcovers r hkey]
      exact hmem
    rw [hnone]
    simp [hc]

end

/-! ## The four detectors -/

section

variable {db : Db} {env : Env} {g : Int} (hnewest : ∀ x ∈ db.recorded, x ≤ g)
include hnewest

theorem raised_zfsErrorCountIncreased {latest : History ZfsVdev} (hlatest : latest ∈ db.zfsVdevErrorsHistory.rows)
    (hg : latest.generationId = g) :
    raised (detectZfsErrorCountIncreased env db) latest.host latest.row.subject =
      if decide (db.zfsCovers "vdev_state" latest.host ∧ db.zfsCovers "vdev_error_counters" latest.host) &&
        crossed ZfsVdev.subject (fun prior v =>
          CountersRose prior.counters v.counters) db.zfsVdevErrorsHistory.rows latest
      then 1 else 0 := by
  refine raised_lastTwo db.zfsVdevErrorsHistory.nodup ?_ ?_ ?_ hlatest ?_
  · intro h hk
    have hhost : h.host = latest.host := congrArg Prod.fst hk
    rw [hhost]
  · intro p f hf
    dsimp only at hf
    split at hf
    · cases hf
    · split at hf
      · cases hf
      · cases hf
        exact ⟨rfl, rfl⟩
  · intro prior
    rw [Bool.eq_iff_iff, decide_eq_true_eq, vdev_countersRose]
    dsimp only
    split
    · rename_i hfell
      simp [hfell]
    · rename_i hfell
      split
      · rename_i hsame
        simp [hsame]
      · rename_i hsame
        simp only [Option.isSome_some, hfell, hsame, not_false_eq_true, and_self]
  · intro h hh
    rw [hg]
    refine hnewest h.generationId ?_
    simp only [Db.recorded, mem_append, mem_map_of_mem hh, true_or, or_true]

theorem raised_smartReallocatedSectorsRising {latest : History SmartDevice}
    (hlatest : latest ∈ db.smartReallocatedHistory.rows) (hg : latest.generationId = g) :
    raised (detectSmartReallocatedSectorsRising env db) latest.host latest.row.subject =
      if db.smartCovers "ata_smart_attributes" latest.host latest.row.subject &&
        crossed SmartDevice.subject (fun prior d => CountersRose prior.counters d.counters)
          db.smartReallocatedHistory.rows latest
      then 1 else 0 := by
  refine raised_lastTwo db.smartReallocatedHistory.nodup ?_ ?_ ?_ hlatest ?_
  · intro h hk
    have hhost : h.host = latest.host := congrArg Prod.fst hk
    have hsubject : h.row.subject = latest.row.subject := congrArg Prod.snd hk
    rw [hhost, hsubject]
  · intro p f hf
    dsimp only at hf
    split at hf
    · cases hf
    · cases hf
      exact ⟨rfl, rfl⟩
  · intro prior
    rw [Bool.eq_iff_iff, decide_eq_true_eq, device_countersRose]
    dsimp only
    split
    · rename_i hle
      simp [hle]
    · rename_i hgt
      simp only [Option.isSome_some, hgt, not_false_eq_true]
  · intro h hh
    rw [hg]
    refine hnewest h.generationId ?_
    simp only [Db.recorded, mem_append, mem_map_of_mem hh, or_true]

theorem raised_zfsPoolHealthChanged {latest : History ZfsPool} (hlatest : latest ∈ db.zfsPoolsHistory.rows)
    (hg : latest.generationId = g) :
    raised (detectZfsPoolHealthChanged env db) latest.host latest.row.pool =
      if db.zfsCovers "pool_state" latest.host &&
        crossed ZfsPool.pool (fun prior p => prior.state ≠ p.state) db.zfsPoolsHistory.rows latest
      then 1 else 0 := by
  refine raised_lastTwo db.zfsPoolsHistory.nodup ?_ ?_ ?_ hlatest ?_
  · intro h hk
    have hhost : h.host = latest.host := congrArg Prod.fst hk
    rw [hhost]
  · intro p f hf
    dsimp only at hf
    split at hf
    · cases hf
    · cases hf
      exact ⟨rfl, rfl⟩
  · intro prior
    dsimp only
    split
    · rename_i heq
      simp [heq]
    · rename_i hne
      simpa using Ne.symm hne
  · intro h hh
    rw [hg]
    refine hnewest h.generationId ?_
    simp only [Db.recorded, mem_append, mem_map_of_mem hh, true_or, or_true]

theorem raised_zfsSpareActivated {latest : History ZfsSpare} (hlatest : latest ∈ db.zfsSparesHistory.rows)
    (hg : latest.generationId = g) :
    raised (detectZfsSpareActivated db) latest.host latest.row.subject =
      if db.zfsCovers "spare_state" latest.host &&
        crossed ZfsSpare.subject (fun prior s => !prior.isActive && s.isActive) db.zfsSparesHistory.rows latest
      then 1 else 0 := by
  refine raised_lastTwo db.zfsSparesHistory.nodup ?_ ?_ ?_ hlatest ?_
  · intro h hk
    have hhost : h.host = latest.host := congrArg Prod.fst hk
    rw [hhost]
  · intro p f hf
    dsimp only at hf
    split at hf
    · cases hf
      exact ⟨rfl, rfl⟩
    · cases hf
  · intro prior
    dsimp only
    cases prior.row.isActive <;> cases latest.row.isActive <;> rfl
  · intro h hh
    rw [hg]
    refine hnewest h.generationId ?_
    simp only [Db.recorded, mem_append, mem_map_of_mem hh, true_or, or_true]

end

variable {rfc3339 : String → Except String Int}

/-- In the generation that recorded a subject, its edge is raised once if it crossed one
    against the row before, and not at all otherwise; counters cross one where some rose and none
    fell, as far as none of them is negative. -/
theorem edges_raised_where_recorded {db db' : Db} {b : Batch} {res : PublishResult} (hs : Served rfc3339 db)
    (h : publishBatch db b = .ok (db', res)) (env : Env) :
    (∀ latest ∈ db'.zfsVdevErrorsHistory.rows, latest.generationId = res.generationId →
      raised (detectZfsErrorCountIncreased env db') latest.host latest.row.subject =
        if decide (db'.zfsCovers "vdev_state" latest.host ∧ db'.zfsCovers "vdev_error_counters" latest.host) &&
          crossed ZfsVdev.subject (fun prior v => CountersRose prior.counters v.counters)
            db'.zfsVdevErrorsHistory.rows latest
        then 1 else 0) ∧
    (∀ latest ∈ db'.smartReallocatedHistory.rows, latest.generationId = res.generationId →
      raised (detectSmartReallocatedSectorsRising env db') latest.host latest.row.subject =
        if db'.smartCovers "ata_smart_attributes" latest.host latest.row.subject &&
          crossed SmartDevice.subject (fun prior d => CountersRose prior.counters d.counters)
            db'.smartReallocatedHistory.rows latest
        then 1 else 0) ∧
    (∀ latest ∈ db'.zfsPoolsHistory.rows, latest.generationId = res.generationId →
      raised (detectZfsPoolHealthChanged env db') latest.host latest.row.pool =
        if db'.zfsCovers "pool_state" latest.host &&
          crossed ZfsPool.pool (fun prior p => prior.state ≠ p.state) db'.zfsPoolsHistory.rows latest
        then 1 else 0) ∧
    (∀ latest ∈ db'.zfsSparesHistory.rows, latest.generationId = res.generationId →
      raised (detectZfsSpareActivated db') latest.host latest.row.subject =
        if db'.zfsCovers "spare_state" latest.host &&
          crossed ZfsSpare.subject (fun prior s => !prior.isActive && s.isActive) db'.zfsSparesHistory.rows latest
        then 1 else 0) ∧
    (∀ prior latest : List (Option Int), Counts prior → Counts latest → (CountersRose prior latest ↔
      (∃ c ∈ prior.zip latest, c.1.getD 0 < c.2.getD 0) ∧ ∀ c ∈ prior.zip latest, c.1.getD 0 ≤ c.2.getD 0)) := by
  have hnewest : ∀ x ∈ db'.recorded, x ≤ res.generationId :=
    fun x hx => publish_newest (served_linked hs) (publishBatch_published h) (publishBatch_gained h) hx
  refine ⟨?_, ?_, ?_, ?_, fun _ _ => countersRose_of_count⟩
  · intro latest hl hg
    exact raised_zfsErrorCountIncreased hnewest hl hg
  · intro latest hl hg
    exact raised_smartReallocatedSectorsRising hnewest hl hg
  · intro latest hl hg
    exact raised_zfsPoolHealthChanged hnewest hl hg
  · intro latest hl hg
    exact raised_zfsSpareActivated hnewest hl hg

/-- A vdev with this count of read errors. -/
def vdev (readErrors : Option Int) : ZfsVdev where
  subject := "tank/sda"
  pool := "tank"
  state := some "ONLINE"
  readErrors
  writeErrors := some 0
  checksumErrors := some 0

/-- A ZFS report on one vdev. -/
def vdevBatch (readErrors : Option Int) : Batch :=
  { zfsWitnessRows :=
      [{ host := "nas", collectedAt := "", witnessId := "zfs.local", witnessStatus := "ok"
         coverage := ⟨["vdev_state", "vdev_error_counters"], []⟩
         observations := [.vdev (vdev readErrors)] }] }

theorem a_rise_is_raised_once : ∃ db₁ res₁ db₂ res₂, publishBatch Db.init (vdevBatch (some 3)) = .ok (db₁, res₁) ∧
    publishBatch db₁ (vdevBatch (some 5)) = .ok (db₂, res₂) ∧
    raised (detectZfsErrorCountIncreased exactEnv db₂) "nas" "tank/sda" = 1 := by
  have h : ((publishBatch Db.init (vdevBatch (some 3))).toOption.bind fun p₁ =>
      (publishBatch p₁.1 (vdevBatch (some 5))).toOption.map fun p₂ =>
        p₂.1.zfsVdevErrorsHistory.rows.filter (fun latest => latest.generationId = p₂.2.generationId &&
          latest.host = "nas" && latest.row.subject = "tank/sda" && p₂.1.zfsCovers "vdev_state" latest.host &&
          p₂.1.zfsCovers "vdev_error_counters" latest.host &&
          crossed ZfsVdev.subject (fun prior v => CountersRose prior.counters v.counters) p₂.1.zfsVdevErrorsHistory.rows
            latest)) = some [⟨2, "nas", vdev (some 5)⟩] := by
    decide +kernel
  obtain ⟨⟨db₁, res₁⟩, h₁, h⟩ := Option.bind_eq_some_iff.mp h
  obtain ⟨⟨db₂, res₂⟩, h₂, h⟩ := Sql.ok_of_toOption h
  have h₁ := Sql.toOption_eq_some.mp h₁
  refine ⟨db₁, res₁, db₂, res₂, h₁, h₂, ?_⟩
  have hmem := mem_singleton_self (⟨2, "nas", vdev (some 5)⟩ : History ZfsVdev)
  rw [← h, mem_filter] at hmem
  simp only [Bool.and_eq_true, decide_eq_true_eq] at hmem
  obtain ⟨hrow, ⟨⟨⟨⟨hg, _⟩, _⟩, hstate⟩, hcounters⟩, hcrossed⟩ := hmem
  have hserved : Served (fun _ => .ok 0) db₁ := .publish _ (.init ⟨.empty, nodup_nil⟩ .empty) h₁
  have hraised := (edges_raised_where_recorded hserved h₂ exactEnv).1 _ hrow hg
  change raised _ "nas" "tank/sda" = _ at hraised
  rw [hraised, hcrossed, Bool.and_true, if_pos (by simp [hstate, hcounters])]

/-- A counter that was missing counts as a rise from 0, and while the witness is silent the
    same two rows are compared again. -/
theorem a_missing_counter_rises_and_is_raised_twice : ∃ db₁ res₁ db₂ res₂ db₃ res₃,
    publishBatch Db.init (vdevBatch none) = .ok (db₁, res₁) ∧ publishBatch db₁ (vdevBatch (some 5)) = .ok (db₂, res₂) ∧
    publishBatch db₂ {} = .ok (db₃, res₃) ∧
    (raised (detectZfsErrorCountIncreased exactEnv db₂) "nas" "tank/sda" = 1 ∧
      ∀ latest ∈ db₂.zfsVdevErrorsHistory.rows, ∀ prior ∈ db₂.zfsVdevErrorsHistory.rows,
        ¬KnownCountersRose prior.row.counters latest.row.counters) ∧
    (raised (detectZfsErrorCountIncreased exactEnv db₃) "nas" "tank/sda" = 1 ∧
      ∀ h ∈ db₃.zfsVdevErrorsHistory.rows, h.generationId ≠ res₃.generationId) := by
  have h : ((publishBatch Db.init (vdevBatch none)).toOption.bind fun p₁ =>
      (publishBatch p₁.1 (vdevBatch (some 5))).toOption.bind fun p₂ => (publishBatch p₂.1 {}).toOption.map fun p₃ =>
        (raised (detectZfsErrorCountIncreased exactEnv p₂.1) "nas" "tank/sda",
          p₂.1.zfsVdevErrorsHistory.rows.all (fun latest => p₂.1.zfsVdevErrorsHistory.rows.all fun prior =>
            decide ¬KnownCountersRose prior.row.counters latest.row.counters),
          raised (detectZfsErrorCountIncreased exactEnv p₃.1) "nas" "tank/sda",
          p₃.1.zfsVdevErrorsHistory.rows.all fun h => decide (h.generationId ≠ p₃.2.generationId))) =
      some (1, true, 1, true) := by
    decide +kernel
  obtain ⟨⟨db₁, res₁⟩, h₁, h⟩ := Option.bind_eq_some_iff.mp h
  obtain ⟨⟨db₂, res₂⟩, h₂, h⟩ := Option.bind_eq_some_iff.mp h
  obtain ⟨⟨db₃, res₃⟩, h₃, h⟩ := Sql.ok_of_toOption h
  simp only [Prod.mk.injEq, all_eq_true, decide_eq_true_eq] at h
  obtain ⟨hrose, hknown, hagain, hsilent⟩ := h
  exact ⟨db₁, res₁, db₂, res₂, db₃, res₃, Sql.toOption_eq_some.mp h₁, Sql.toOption_eq_some.mp h₂, h₃,
    ⟨hrose, hknown⟩, hagain, hsilent⟩

end Nq
