/-
  Nq.Coverage.Reconcile — what one reconciliation does to the table.

  - `Accepted.valid`: what the loader's lists satisfy.
  - `reconcile_rows`: the rows a committed call leaves: the old ones, those whose rule
    changed or went away ended at the call's time, then one new row for each declared
    rule that no open row carried.
  - `reconcile_commits_iff`: when a call commits.
  - `reconcile_idle`: a call that finds an open row for each declared rule and no other
    open row does nothing.
-/

import Nq.Coverage.Rules

namespace Nq.Coverage

open List hiding le_antisymm le_refl le_trans
open Sql (F64 Table)

/-! ## Accepted lists -/

section Accepted

variable {rfc3339 : String → Except String Int}

/-- What validation establishes, as far as the table and its readers rely on it. -/
structure CoverageRuleDecl.Valid (rfc3339 : String → Except String Int) (d : CoverageRuleDecl) : Prop where
  interval : d.expectedIntervalS ≠ 0
  multiplier : d.graceMultiplier.ge 1 = true
  window : ∃ start, rfc3339 d.coverageStart = .ok start ∧
    ∀ vu, d.validUntil = some vu → ∃ u, rfc3339 vu = .ok u ∧ start < u

variable {d : CoverageRuleDecl}

theorem valid_of_validate (h : validate rfc3339 d = .ok ()) : d.Valid rfc3339 := by
  unfold validate at h
  simp only [bind, Except.bind, pure, Except.pure, throw, throwThe, MonadExceptOf.throw] at h
  obtain ⟨-, h⟩ := Sql.ite_error_ok.mp h
  obtain ⟨-, h⟩ := Sql.ite_error_ok.mp h
  obtain ⟨-, h⟩ := Sql.ite_error_ok.mp h
  obtain ⟨hinterval, h⟩ := Sql.ite_error_ok.mp h
  obtain ⟨hmultiplier, h⟩ := Sql.ite_error_ok.mp h
  obtain ⟨-, h⟩ := Sql.ite_error_ok.mp h
  obtain ⟨-, h⟩ := Sql.ite_error_ok.mp h
  obtain ⟨-, h⟩ := Sql.ite_error_ok.mp h
  obtain ⟨start, hstart, h⟩ := Sql.bind_ok.mp h
  obtain ⟨_, _, h⟩ := Sql.bind_ok.mp h
  refine ⟨hinterval, ?_, start, Sql.mapError_ok.mp hstart, ?_⟩
  · simp only [Bool.not_eq_true, Bool.not_eq_false', Bool.and_eq_true] at hmultiplier
    exact hmultiplier.2
  · intro vu hvu
    simp only [hvu] at h
    obtain ⟨u, hu, h⟩ := Sql.bind_ok.mp h
    exact ⟨u, Sql.mapError_ok.mp hu, by have := (Sql.ite_error_ok.mp h).1; omega⟩

theorem sortRules_valid (seen : List RuleKey) (ds : List CoverageRuleDecl) :
    (((sortRules rfc3339 seen ds).1).map (·.key)).Nodup ∧
      ∀ d ∈ (sortRules rfc3339 seen ds).1, d.key ∉ seen ∧ d.Valid rfc3339 := by
  induction ds generalizing seen with
  | nil => simp [sortRules]
  | cons d ds ih =>
    unfold sortRules
    by_cases hd : d.key ∈ seen
    · simp only [hd, if_true]
      exact ih seen
    · simp only [hd, if_false]
      obtain ⟨hnodup, hmem⟩ := ih (d.key :: seen)
      have hrest : ∀ d' ∈ (sortRules rfc3339 (d.key :: seen) ds).1, d'.key ∉ seen ∧ d'.Valid rfc3339 :=
        fun d' hd' => ⟨fun hs => (hmem d' hd').1 (mem_cons_of_mem _ hs), (hmem d' hd').2⟩
      cases hv : validate rfc3339 d with
      | error reason => exact ⟨hnodup, hrest⟩
      | ok _ =>
        refine ⟨?_, ?_⟩
        · show (d.key :: ((sortRules rfc3339 (d.key :: seen) ds).1).map (·.key)).Nodup
          refine nodup_cons.mpr ⟨?_, hnodup⟩
          intro hk
          obtain ⟨d', hd', hk⟩ := List.mem_map.mp hk
          exact (hmem d' hd').1 (hk ▸ mem_cons_self)
        · intro d' hd'
          rcases mem_cons.mp hd' with rfl | hd'
          · exact ⟨hd, valid_of_validate hv⟩
          · exact hrest d' hd'

/-- The loader returns rules with distinct keys, each of them valid. -/
theorem Accepted.valid {decls : List CoverageRuleDecl} (h : Accepted rfc3339 decls) :
    (decls.map (·.key)).Nodup ∧ ∀ d ∈ decls, d.Valid rfc3339 := by
  obtain ⟨ds, invalid, h⟩ := h
  have hs : (sortRules rfc3339 [] ds).1 = decls := by
    simp only [loadCoverageRules, LoadOutcome.loaded.injEq] at h
    exact h.1
  obtain ⟨hnodup, hmem⟩ := @sortRules_valid rfc3339 [] ds
  exact hs ▸ ⟨hnodup, fun d hd => (hmem d hd).2⟩

theorem CoverageRuleDecl.Valid.check_iff (h : d.Valid rfc3339) :
    d.check = true ↔ ∀ vu, d.validUntil = some vu → d.coverageStart < vu := by
  have hpos : 0 < d.expectedIntervalS := UInt32.pos_iff_ne_zero.mpr h.interval
  unfold CoverageRuleDecl.check
  cases d.validUntil with
  | none => simp [hpos, h.multiplier]
  | some vu => simp [hpos, h.multiplier]

end Accepted

/-! ## The statements -/

variable {id : Int} {e : RuleEntry} {r r' : CoverageRow} {decls : List CoverageRuleDecl} {act : List RuleKey}
  {es : List RuleEntry}

theorem check_endKey {t : CoverageRules} {iso : String} :
    (∀ r ∈ t.rows.map (endKey id iso), r.rule.check = true) ↔
      ∀ r ∈ t.rows, r.coverageRuleId = id → r.rule.coverageStart < iso := by
  rw [forall_mem_map]
  refine forall₂_congr fun r hr => ?_
  have hold := t.checked r hr
  by_cases e : r.coverageRuleId = id
  · simp only [CoverageRuleDecl.check, Bool.and_eq_true] at hold
    simp [endKey, e, CoverageRow.endAt, CoverageRuleDecl.check, hold.1.2, hold.1.1]
  · simp [endKey, e, hold]

theorem setValidUntil_commits {t : CoverageRules} {iso : String}
    (h : ∀ r ∈ t.rows, r.coverageRuleId = id → r.rule.coverageStart < iso) : ∃ t', setValidUntil t id iso = .ok t' := by
  unfold setValidUntil
  rw [dif_pos (check_endKey.mpr h)]
  exact ⟨_, rfl⟩

theorem setValidUntil_ok {t t' : CoverageRules} {iso : String} (h : setValidUntil t id iso = .ok t') :
    (∀ r ∈ t.rows, r.coverageRuleId = id → r.rule.coverageStart < iso) ∧ t'.rows = t.rows.map (endKey id iso) := by
  unfold setValidUntil at h
  split at h
  · rename_i hc
    cases h
    exact ⟨check_endKey.mp hc, rfl⟩
  · cases h

theorem insertRule_commits {t : CoverageRules} (hc : e.decl.check = true)
    (hu : e.decl.validUntil = none → ∀ r ∈ t.rows, r.isOpen = true → r.key ≠ e.key) :
    ∃ t', insertRule t e = .ok t' := by
  unfold insertRule
  rw [dif_pos hc, dif_pos hu]
  exact ⟨_, rfl⟩

theorem insertRule_ok {t t' : CoverageRules} (h : insertRule t e = .ok t') :
    e.decl.check = true ∧ (e.decl.validUntil = none → ∀ r ∈ t.rows, r.isOpen = true → r.key ≠ e.key) ∧
      t'.rows = t.rows ++ [e.row t.table.nextRowid] := by
  unfold insertRule at h
  split at h
  · rename_i hc
    split at h
    · rename_i hu
      cases h
      exact ⟨hc, hu, rfl⟩
    · cases h
  · cases h

/-- Two open rows for one key are one row. -/
theorem CoverageRules.open_unique (t : CoverageRules) (hr : r ∈ t.rows) (hr' : r' ∈ t.rows) (ho : r.isOpen = true)
    (ho' : r'.isOpen = true) (hk : r.key = r'.key) : r = r' :=
  inj_on_of_nodup_map t.unique (mem_filter.mpr ⟨hr, ho⟩) (mem_filter.mpr ⟨hr', ho'⟩) hk

theorem CoverageRules.id_unique (t : CoverageRules) (hr : r ∈ t.rows) (hr' : r' ∈ t.rows)
    (hk : r.coverageRuleId = r'.coverageRuleId) : r = r' :=
  inj_on_of_nodup_map t.table.nodup hr hr' hk

/-! ## The declared map -/

variable {hash : CoverageRuleHashable → Except String String}

/-- The entries of the `declared` map of a list with distinct keys. -/
structure Declares (hash : CoverageRuleHashable → Except String String) (decls : List CoverageRuleDecl)
    (m : List RuleEntry) : Prop where
  decls : m.map RuleEntry.decl = decls
  hashed : ∀ e ∈ m, hash e.decl.toCoverageRuleHashable = .ok e.hash

theorem Declares.mem_iff {m : List RuleEntry} (h : Declares hash decls m) {d : CoverageRuleDecl} :
    d ∈ decls ↔ ∃ e ∈ m, e.decl = d := by
  rw [← h.decls]; exact List.mem_map

theorem Declares.nodup {m : List RuleEntry} (h : Declares hash decls m) (hn : (decls.map (·.key)).Nodup) :
    (m.map RuleEntry.key).Nodup := by
  have : m.map RuleEntry.key = decls.map (·.key) := by
    rw [← h.decls, map_map]; rfl
  rw [this]; exact hn

theorem Declares.ext {m m' : List RuleEntry} (h : Declares hash decls m) (h' : Declares hash decls m') : m = m' := by
  induction decls generalizing m m' with
  | nil => rw [map_eq_nil_iff.mp h.decls, map_eq_nil_iff.mp h'.decls]
  | cons d ds ih =>
    obtain ⟨e, es, rfl, he, hes⟩ := map_eq_cons_iff.mp h.decls
    obtain ⟨e', es', rfl, he', hes'⟩ := map_eq_cons_iff.mp h'.decls
    have hhash : e.hash = e'.hash := by
      have h₁ := h.hashed e mem_cons_self
      have h₂ := h'.hashed e' mem_cons_self
      rw [he] at h₁
      rw [he'] at h₂
      exact Except.ok.inj (h₁.symm.trans h₂)
    have hhead : e = e' := by
      cases e; cases e'
      simp_all
    rw [hhead, ih ⟨hes, fun x hx => h.hashed x (mem_cons_of_mem _ hx)⟩
      ⟨hes', fun x hx => h'.hashed x (mem_cons_of_mem _ hx)⟩]

theorem declaredGet_eq_some {m : List RuleEntry} (hn : (m.map RuleEntry.key).Nodup) {k : RuleKey} :
    declaredGet m k = some e ↔ e ∈ m ∧ e.key = k :=
  Table.get_eq_some (t := ⟨m, hn⟩)

theorem declaredInserts : ∀ {m₀ m : List RuleEntry}, (decls.map (·.key)).Nodup →
    (∀ e ∈ m₀, e.key ∉ decls.map (·.key)) → decls.foldlM (declaredInsert hash) m₀ = .ok m →
      ∃ es, m = m₀ ++ es ∧ Declares hash decls es := by
  induction decls with
  | nil => intro m₀ m _ _ h; cases h; exact ⟨[], by simp, rfl, fun _ h => (nomatch h)⟩
  | cons d ds ih =>
    intro m₀ m hn hnew h
    rw [map_cons, nodup_cons] at hn
    rw [foldlM_cons] at h
    obtain ⟨m₁, h₁, h₂⟩ := Sql.bind_ok.mp h
    obtain ⟨x, hx, h₁⟩ := Sql.bind_ok.mp h₁
    have hkeep : m₀.filter (·.key ≠ d.key) = m₀ := by
      refine filter_eq_self.mpr fun e he => ?_
      have := hnew e he
      simp only [map_cons, mem_cons, not_or] at this
      simpa using this.1
    rw [hkeep] at h₁
    cases h₁
    have hnew' : ∀ e ∈ m₀ ++ [⟨d, x⟩], e.key ∉ ds.map (·.key) := by
      intro e he
      rcases mem_append.mp he with he | he
      · have := hnew e he
        simp only [map_cons, mem_cons, not_or] at this
        exact this.2
      · rw [mem_singleton.mp he]; exact hn.1
    obtain ⟨es, rfl, hes⟩ := ih hn.2 hnew' h₂
    refine ⟨⟨d, x⟩ :: es, by simp, by simp [hes.decls], ?_⟩
    intro e he
    rcases mem_cons.mp he with rfl | he
    · exact Sql.mapError_ok.mp hx
    · exact hes.hashed e he

theorem declaredInserts_commits (hh : ∀ d ∈ decls, ∃ x, hash d.toCoverageRuleHashable = .ok x) :
    ∀ m₀ : List RuleEntry, ∃ m, decls.foldlM (declaredInsert hash) m₀ = .ok m := by
  induction decls with
  | nil => intro m₀; exact ⟨m₀, rfl⟩
  | cons d ds ih =>
    intro m₀
    obtain ⟨x, hx⟩ := hh d mem_cons_self
    obtain ⟨m, hm⟩ := ih (fun d' hd' => hh d' (mem_cons_of_mem _ hd')) (m₀.filter (·.key ≠ d.key) ++ [⟨d, x⟩])
    refine ⟨m, ?_⟩
    rw [foldlM_cons]
    exact Sql.bind_ok.mpr ⟨_, Sql.bind_ok.mpr ⟨x, Sql.mapError_ok.mpr hx, rfl⟩, hm⟩

/-- Without a key twice, the declared rules are what the loop over them makes. -/
theorem Declares.inserts (h : Declares hash decls m) (hn : (decls.map (·.key)).Nodup) :
    decls.foldlM (declaredInsert hash) [] = .ok m := by
  have hh : ∀ d ∈ decls, ∃ x, hash d.toCoverageRuleHashable = .ok x := by
    intro d hd
    obtain ⟨e, he, rfl⟩ := h.mem_iff.mp hd
    exact ⟨e.hash, h.hashed e he⟩
  obtain ⟨m', hm'⟩ := declaredInserts_commits hh []
  obtain ⟨es, rfl, h'⟩ := declaredInserts hn (by simp) hm'
  exact h'.ext h ▸ hm'

/-! ## The loops -/

/-- The declared rule for the row's key has the row's hash. -/
def CoverageRow.carried (m : List RuleEntry) (r : CoverageRow) : Bool :=
  (declaredGet m r.key).any (·.hash = r.coverageRuleHash)

/-- The declared rule that takes over from the row. -/
def replacement (m : List RuleEntry) (r : CoverageRow) : Option RuleEntry :=
  (declaredGet m r.key).filter (·.hash ≠ r.coverageRuleHash)

/-- What a call makes of a row of the table. -/
def endRow (m : List RuleEntry) (iso : String) (r : CoverageRow) : CoverageRow :=
  if r.isOpen = true ∧ r.carried m = false then r.endAt iso else r

def CoverageRow.entry (r : CoverageRow) : RuleEntry := ⟨r.rule, r.coverageRuleHash⟩

/-- A row whose end passes the CHECK clause, and so does its replacement. -/
def CoverageRow.Replaceable (m : List RuleEntry) (iso : String) (r : CoverageRow) : Prop :=
  r.carried m = false → r.rule.coverageStart < iso ∧ ∀ e, replacement m r = some e → e.decl.check = true

variable {m : List RuleEntry} {iso : String}

theorem nextRowid_le_of_ids {t t' : CoverageRules}
    (h : ∀ r ∈ t.rows, ∃ r' ∈ t'.rows, r'.coverageRuleId = r.coverageRuleId) :
    t.table.nextRowid ≤ t'.table.nextRowid := by
  refine Table.nextRowid_le t'.table.nextRowid_pos fun r hr => ?_
  obtain ⟨r', hr', e⟩ := h r hr
  exact e ▸ Table.lt_nextRowid hr'

theorem nextRowid_endKey {t t' : CoverageRules} (h : t'.rows = t.rows.map (endKey id iso)) :
    t'.table.nextRowid = t.table.nextRowid := by
  refine le_antisymm (nextRowid_le_of_ids ?_) (nextRowid_le_of_ids ?_)
  · intro r hr
    rw [h] at hr
    obtain ⟨r₀, hr₀, rfl⟩ := List.mem_map.mp hr
    exact ⟨r₀, hr₀, (endKey_id id iso r₀).symm⟩
  · intro r hr
    exact ⟨endKey id iso r, h ▸ mem_map_of_mem hr, endKey_id id iso r⟩

/-- Once the open row of a key has ended, the key is free in the partial index. -/
theorem free_of_ended {t : CoverageRules} (hr : r ∈ t.rows) (ho : r.isOpen = true) :
    ∀ r' ∈ t.rows.map (endKey r.coverageRuleId iso), r'.isOpen = true → r'.key ≠ r.key := by
  intro r' hr' ho' hk
  obtain ⟨r₀, hr₀, rfl⟩ := List.mem_map.mp hr'
  rw [endKey_key] at hk
  have e : r₀ = r := t.open_unique hr₀ hr (isOpen_of_endKey ho') ho hk
  subst e
  simp [endKey, CoverageRow.endAt, CoverageRow.isOpen] at ho'

/-- One turn of the first loop, at an open row of the table. -/
theorem reconcileRow_ok {t t' : CoverageRules} {s s' : ReconcileSummary} (hr : r ∈ t.rows)
    (h : reconcileRow m iso (t, s) r = .ok (t', s')) :
    r.Replaceable m iso ∧
      (r.carried m = true ∧ t' = t ∨
        r.carried m = false ∧
          t'.rows = t.rows.map (endKey r.coverageRuleId iso) ++
            ((replacement m r).map (·.row t.table.nextRowid)).toList) := by
  unfold reconcileRow at h
  unfold CoverageRow.Replaceable CoverageRow.carried replacement
  cases hget : declaredGet m r.key with
  | none =>
    simp only [hget] at h
    obtain ⟨t₁, h₁, h⟩ := Sql.bind_ok.mp h
    cases h
    obtain ⟨hlt, hrows⟩ := setValidUntil_ok (Sql.mapError_ok.mp h₁)
    exact ⟨fun _ => ⟨hlt r hr rfl, by simp⟩, .inr ⟨by simp, by simpa using hrows⟩⟩
  | some e =>
    simp only [hget] at h
    by_cases hh : e.hash = r.coverageRuleHash
    · simp only [hh, if_true] at h
      cases h
      exact ⟨by simp [hh], .inl ⟨by simp [hh], rfl⟩⟩
    · simp only [hh, if_false] at h
      obtain ⟨t₁, h₁, h⟩ := Sql.bind_ok.mp h
      obtain ⟨t₂, h₂, h⟩ := Sql.bind_ok.mp h
      cases h
      obtain ⟨hlt, hrows₁⟩ := setValidUntil_ok (Sql.mapError_ok.mp h₁)
      obtain ⟨hcheck, -, hrows₂⟩ := insertRule_ok (Sql.mapError_ok.mp h₂)
      rw [hrows₁, nextRowid_endKey hrows₁] at hrows₂
      exact ⟨fun _ => ⟨hlt r hr rfl, by simpa [Option.filter, hh] using hcheck⟩,
        .inr ⟨by simp [hh], by simpa [Option.filter, hh] using hrows₂⟩⟩

theorem reconcileRow_commits {t : CoverageRules} {s : ReconcileSummary} (hr : r ∈ t.rows) (ho : r.isOpen = true)
    (hrep : r.Replaceable m iso) : ∃ st, reconcileRow m iso (t, s) r = .ok st := by
  have hid : r.rule.coverageStart < iso →
      ∀ r' ∈ t.rows, r'.coverageRuleId = r.coverageRuleId → r'.rule.coverageStart < iso :=
    fun h r' hr' e => by rw [t.id_unique hr' hr e]; exact h
  unfold CoverageRow.Replaceable CoverageRow.carried replacement at hrep
  unfold reconcileRow
  cases hget : declaredGet m r.key with
  | none =>
    rw [hget] at hrep
    obtain ⟨t₁, h₁⟩ := setValidUntil_commits (hid (hrep (by simp)).1)
    exact ⟨_, Sql.bind_ok.mpr ⟨t₁, Sql.mapError_ok.mpr h₁, rfl⟩⟩
  | some e =>
    by_cases hh : e.hash = r.coverageRuleHash
    · simp only [hh, if_true]
      exact ⟨_, rfl⟩
    · rw [hget] at hrep
      obtain ⟨hlt, hcheck⟩ := hrep (by simp [hh])
      have hk : e.key = r.key := by simpa using find?_some hget
      obtain ⟨t₁, h₁⟩ := setValidUntil_commits (hid hlt)
      have hrows₁ := (setValidUntil_ok h₁).2
      have hfree : e.decl.validUntil = none → ∀ r' ∈ t₁.rows, r'.isOpen = true → r'.key ≠ e.key := by
        intro _
        rw [hrows₁, hk]
        exact free_of_ended hr ho
      obtain ⟨t₂, h₂⟩ := insertRule_commits (hcheck e (by simp [Option.filter, hh])) hfree
      simp only [hh, if_false]
      exact ⟨_, Sql.bind_ok.mpr ⟨t₁, Sql.mapError_ok.mpr h₁, Sql.bind_ok.mpr ⟨t₂, Sql.mapError_ok.mpr h₂, rfl⟩⟩⟩

theorem replacement_of_carried (h : r.carried m = true) : replacement m r = none := by
  unfold CoverageRow.carried at h
  unfold replacement
  cases hget : declaredGet m r.key with
  | none => rfl
  | some e => rw [hget] at h; simpa [Option.filter] using h

theorem entry_row (e : RuleEntry) (id : Int) : (e.row id).entry = e := rfl

/-- What the turn at `r` leaves of the rows still to come. -/
theorem mem_after_turn {t t' : CoverageRules} (hne : r'.coverageRuleId ≠ r.coverageRuleId) (hr' : r' ∈ t.rows)
    (h : t' = t ∨ ∃ new, t'.rows = t.rows.map (endKey r.coverageRuleId iso) ++ new) : r' ∈ t'.rows := by
  rcases h with rfl | ⟨new, h⟩
  · exact hr'
  · rw [h]
    refine mem_append_left _ (List.mem_map.mpr ⟨r', hr', ?_⟩)
    simp [endKey, hne]

/-- The first loop commits exactly when each of its rows is replaceable. -/
theorem reconcileRows_commits {as : List CoverageRow} : ∀ {t : CoverageRules} {s : ReconcileSummary},
    (as.map CoverageRow.coverageRuleId).Nodup → (∀ r ∈ as, r ∈ t.rows ∧ r.isOpen = true) →
      ((∃ st, as.foldlM (reconcileRow m iso) (t, s) = .ok st) ↔ ∀ r ∈ as, r.Replaceable m iso) := by
  induction as with
  | nil => intro t s _ _; simp [pure, Except.pure]
  | cons r as ih =>
    intro t s hn has
    rw [map_cons, nodup_cons] at hn
    obtain ⟨hr, ho⟩ := has r mem_cons_self
    have hrest : ∀ {t' : CoverageRules}, (t' = t ∨ ∃ new, t'.rows = t.rows.map (endKey r.coverageRuleId iso) ++ new) →
        ∀ r' ∈ as, r' ∈ t'.rows ∧ r'.isOpen = true := by
      intro t' h r' hr'
      have hne : r'.coverageRuleId ≠ r.coverageRuleId := fun e => hn.1 (e ▸ mem_map_of_mem hr')
      exact ⟨mem_after_turn hne (has r' (mem_cons_of_mem _ hr')).1 h, (has r' (mem_cons_of_mem _ hr')).2⟩
    have hturn : ∀ {t' : CoverageRules} {s' : ReconcileSummary}, reconcileRow m iso (t, s) r = .ok (t', s') →
        t' = t ∨ ∃ new, t'.rows = t.rows.map (endKey r.coverageRuleId iso) ++ new := by
      intro t' s' h
      rcases (reconcileRow_ok hr h).2 with ⟨-, e⟩ | ⟨-, e⟩
      · exact .inl e
      · exact .inr ⟨_, e⟩
    rw [foldlM_cons, forall_mem_cons]
    constructor
    · rintro ⟨st, h⟩
      obtain ⟨⟨t₁, s₁⟩, h₁, h₂⟩ := Sql.bind_ok.mp h
      exact ⟨(reconcileRow_ok hr h₁).1, (ih hn.2 (hrest (hturn h₁))).mp ⟨st, h₂⟩⟩
    · rintro ⟨hrep, hreps⟩
      obtain ⟨⟨t₁, s₁⟩, h₁⟩ := reconcileRow_commits (s := s) hr ho hrep
      obtain ⟨st, h₂⟩ := (ih hn.2 (hrest (hturn h₁))).mpr hreps
      exact ⟨st, Sql.bind_ok.mpr ⟨(t₁, s₁), h₁, h₂⟩⟩

/-- The rows the first loop leaves. -/
theorem reconcileRows_rows {as : List CoverageRow} : ∀ {t : CoverageRules} {s : ReconcileSummary}
    {st : CoverageRules × ReconcileSummary}, (as.map CoverageRow.coverageRuleId).Nodup →
      (∀ r ∈ as, r ∈ t.rows ∧ r.isOpen = true) → as.foldlM (reconcileRow m iso) (t, s) = .ok st →
        ∃ fresh, st.1.rows = t.rows.map (fun r => if r ∈ as then endRow m iso r else r) ++ fresh ∧
          fresh.map CoverageRow.entry = as.filterMap (replacement m) ∧
          ∀ r ∈ fresh, t.table.nextRowid ≤ r.coverageRuleId := by
  induction as with
  | nil => intro t s st _ _ h; cases h; exact ⟨[], by simp⟩
  | cons r as ih =>
    intro t s st hn has h
    rw [map_cons, nodup_cons] at hn
    obtain ⟨hr, ho⟩ := has r mem_cons_self
    have hne : ∀ r' ∈ as, r'.coverageRuleId ≠ r.coverageRuleId := fun r' hr' e => hn.1 (e ▸ mem_map_of_mem hr')
    rw [foldlM_cons] at h
    obtain ⟨⟨t₁, s₁⟩, h₁, h₂⟩ := Sql.bind_ok.mp h
    rcases (reconcileRow_ok hr h₁).2 with ⟨hcar, rfl⟩ | ⟨hcar, hrows₁⟩
    · -- a carried row stays as it is
      obtain ⟨fresh, hrows, hfresh, hids⟩ := ih hn.2 (fun r' hr' => has r' (mem_cons_of_mem _ hr')) h₂
      refine ⟨fresh, ?_, by rw [filterMap_cons, replacement_of_carried hcar]; exact hfresh, hids⟩
      rw [hrows]
      congr 1
      refine map_congr_left fun x _ => ?_
      by_cases e : x = r
      · subst e
        simp [endRow, hcar]
      · simp [e]
    · have has₁ : ∀ r' ∈ as, r' ∈ t₁.rows ∧ r'.isOpen = true := fun r' hr' =>
        ⟨mem_after_turn (hne r' hr') (has r' (mem_cons_of_mem _ hr')).1 (.inr ⟨_, hrows₁⟩),
          (has r' (mem_cons_of_mem _ hr')).2⟩
      obtain ⟨fresh, hrows, hfresh, hids⟩ := ih hn.2 has₁ h₂
      have hnext : t.table.nextRowid ≤ t₁.table.nextRowid := by
        refine nextRowid_le_of_ids fun x hx => ⟨endKey r.coverageRuleId iso x, ?_, endKey_id _ _ x⟩
        rw [hrows₁]
        exact mem_append_left _ (mem_map_of_mem hx)
      refine ⟨((replacement m r).map (·.row t.table.nextRowid)).toList ++ fresh, ?_, ?_, ?_⟩
      · rw [hrows, hrows₁, map_append, map_map, append_assoc]
        congr 1
        · refine map_congr_left fun x hx => ?_
          by_cases e : x = r
          · subst e
            have hout : x.endAt iso ∉ as := fun hm => by
              have := (has _ (mem_cons_of_mem _ hm)).2
              simp [CoverageRow.isOpen, CoverageRow.endAt] at this
            simp [endKey, endRow, ho, hcar, hout]
          · have : x.coverageRuleId ≠ r.coverageRuleId := fun h => e (t.id_unique hx hr h)
            simp [endKey, this, e]
        · congr 1
          cases replacement m r with
          | none => rfl
          | some e =>
            have hout : e.row t.table.nextRowid ∉ as := fun hm => by
              have := Table.lt_nextRowid (has _ (mem_cons_of_mem _ hm)).1
              simp [RuleEntry.row] at this
            simp [hout]
      · rw [map_append, hfresh, filterMap_cons]
        cases replacement m r <;> rfl
      · intro x hx
        rcases mem_append.mp hx with hx | hx
        · cases hrep : replacement m r with
          | none => rw [hrep] at hx; cases hx
          | some e =>
            rw [hrep] at hx
            rw [mem_singleton.mp hx]
            exact le_refl _
        · exact hnext.trans (hids x hx)

/-- The second loop. -/
theorem insertMissings_ok : ∀ {t : CoverageRules} {s : ReconcileSummary}
    {st : CoverageRules × ReconcileSummary}, es.foldlM (insertMissing act) (t, s) = .ok st →
      (∀ e ∈ es, e.key ∉ act → e.decl.check = true) ∧
        ∃ fresh, st.1.rows = t.rows ++ fresh ∧ fresh.map CoverageRow.entry = es.filter (·.key ∉ act) ∧
          ∀ r ∈ fresh, t.table.nextRowid ≤ r.coverageRuleId := by
  induction es with
  | nil => intro t s st h; cases h; exact ⟨fun _ h => (nomatch h), [], by simp⟩
  | cons e es ih =>
    intro t s st h
    rw [foldlM_cons] at h
    obtain ⟨⟨t₁, s₁⟩, h₁, h₂⟩ := Sql.bind_ok.mp h
    unfold insertMissing at h₁
    obtain ⟨hchecks, fresh, hrows, hfresh, hids⟩ := ih h₂
    by_cases hk : e.key ∈ act
    · rw [if_pos hk] at h₁
      cases h₁
      refine ⟨?_, fresh, hrows, by simpa [hk] using hfresh, hids⟩
      intro e' he' hk'
      rcases mem_cons.mp he' with rfl | he'
      · exact absurd hk hk'
      · exact hchecks e' he' hk'
    · rw [if_neg hk] at h₁
      obtain ⟨t₂, hins, e₂⟩ := Sql.bind_ok.mp h₁
      cases e₂
      obtain ⟨hcheck, -, hrows₁⟩ := insertRule_ok (Sql.mapError_ok.mp hins)
      have hnext : t.table.nextRowid ≤ t₁.table.nextRowid :=
        nextRowid_le_of_ids fun x hx => ⟨x, hrows₁ ▸ mem_append_left _ hx, rfl⟩
      refine ⟨?_, e.row t.table.nextRowid :: fresh, ?_, by simpa [hk, entry_row] using hfresh, ?_⟩
      · intro e' he' hk'
        rcases mem_cons.mp he' with rfl | he'
        · exact hcheck
        · exact hchecks e' he' hk'
      · rw [hrows, hrows₁, append_assoc]
        rfl
      · intro x hx
        rcases mem_cons.mp hx with rfl | hx
        · exact le_refl _
        · exact hnext.trans (hids x hx)

theorem insertMissings_commits : ∀ {t : CoverageRules}
    {s : ReconcileSummary}, (es.map RuleEntry.key).Nodup →
      (∀ r ∈ t.rows, r.isOpen = true → r.key ∈ act ∨ r.key ∉ es.map RuleEntry.key) →
        (∀ e ∈ es, e.key ∉ act → e.decl.check = true) → ∃ st, es.foldlM (insertMissing act) (t, s) = .ok st := by
  induction es with
  | nil => intro t s _ _ _; exact ⟨_, rfl⟩
  | cons e es ih =>
    intro t s hn hfree hchecks
    rw [map_cons, nodup_cons] at hn
    have hchecks' : ∀ e' ∈ es, e'.key ∉ act → e'.decl.check = true :=
      fun e' he' => hchecks e' (mem_cons_of_mem _ he')
    have hfree' : ∀ r ∈ t.rows, r.isOpen = true → r.key ∈ act ∨ r.key ∉ es.map RuleEntry.key := by
      intro r hr ho
      rcases hfree r hr ho with h | h
      · exact .inl h
      · exact .inr fun hm => h (mem_cons_of_mem _ hm)
    rw [foldlM_cons]
    by_cases hk : e.key ∈ act
    · obtain ⟨st, h⟩ := ih (s := s) hn.2 hfree' hchecks'
      exact ⟨st, Sql.bind_ok.mpr ⟨(t, s), by simp [insertMissing, hk], h⟩⟩
    · have hopen : e.decl.validUntil = none → ∀ r ∈ t.rows, r.isOpen = true → r.key ≠ e.key := by
        intro _ r hr ho e'
        rcases hfree r hr ho with h | h
        · exact hk (e' ▸ h)
        · exact h (by rw [e']; exact mem_cons_self)
      obtain ⟨t₁, h₁⟩ := insertRule_commits (hchecks e mem_cons_self hk) hopen
      have hrows₁ := (insertRule_ok h₁).2.2
      have hfree₁ : ∀ r ∈ t₁.rows, r.isOpen = true → r.key ∈ act ∨ r.key ∉ es.map RuleEntry.key := by
        intro r hr ho
        rw [hrows₁] at hr
        rcases mem_append.mp hr with hr | hr
        · exact hfree' r hr ho
        · rw [mem_singleton.mp hr]; exact .inr hn.1
      obtain ⟨st, h⟩ := ih (s := { s with inserted := s.inserted + 1 }) hn.2 hfree₁ hchecks'
      refine ⟨st, Sql.bind_ok.mpr ⟨_, ?_, h⟩⟩
      rw [insertMissing, if_neg hk]
      exact Sql.bind_ok.mpr ⟨t₁, Sql.mapError_ok.mpr h₁, rfl⟩

/-! ## The call -/

/-- An open row of the table carries the declared rule. -/
def CoverageRules.Carries (t : CoverageRules) (e : RuleEntry) : Prop :=
  ∃ r ∈ t.rows, r.isOpen = true ∧ r.key = e.key ∧ r.coverageRuleHash = e.hash

variable {fmt : Int → Except String String} {t t' : CoverageRules} {c : ReconcileCall} {s : ReconcileSummary}

/-- What a committed call did: `m` is the declared map, `iso` the call's time. -/
structure Reconciled (hash : CoverageRuleHashable → Except String String) (fmt : Int → Except String String)
    (t : CoverageRules) (c : ReconcileCall) (t' : CoverageRules) (m : List RuleEntry) (iso : String)
    (fresh : List CoverageRow) : Prop where
  declares : Declares hash c.decls m
  formatted : fmt c.now = .ok iso
  rows : t'.rows = t.rows.map (endRow m iso) ++ fresh
  ids : ∀ r ∈ fresh, t.table.nextRowid ≤ r.coverageRuleId
  entries : ∀ e, e ∈ fresh.map CoverageRow.entry ↔ e ∈ m ∧ ¬t.Carries e
  keys : (fresh.map CoverageRow.key).Nodup

/-- The CHECK clauses of everything the call writes. -/
structure Admits (m : List RuleEntry) (iso : String) (t : CoverageRules) : Prop where
  ends : ∀ r ∈ t.rows, r.isOpen = true → r.carried m = false → r.rule.coverageStart < iso
  inserts : ∀ e ∈ m, ¬t.Carries e → e.decl.check = true

theorem carried_iff (hn : (m.map RuleEntry.key).Nodup) :
    r.carried m = true ↔ ∃ e ∈ m, e.key = r.key ∧ e.hash = r.coverageRuleHash := by
  unfold CoverageRow.carried
  rw [Option.any_eq_true]
  simp only [decide_eq_true_eq, declaredGet_eq_some hn]
  exact ⟨fun ⟨e, ⟨he, hk⟩, hh⟩ => ⟨e, he, hk, hh⟩, fun ⟨e, he, hk, hh⟩ => ⟨e, ⟨he, hk⟩, hh⟩⟩

theorem replacement_iff (hn : (m.map RuleEntry.key).Nodup) :
    replacement m r = some e ↔ e ∈ m ∧ e.key = r.key ∧ e.hash ≠ r.coverageRuleHash := by
  unfold replacement
  rw [Option.filter_eq_some_iff, declaredGet_eq_some hn]
  simp [and_assoc]

theorem key_of_replacements (hn : (m.map RuleEntry.key).Nodup) (as : List CoverageRow) :
    List.Sublist ((as.filterMap (replacement m)).map RuleEntry.key) (as.map CoverageRow.key) := by
  induction as with
  | nil => exact List.Sublist.slnil
  | cons r as ih =>
    rw [filterMap_cons, map_cons]
    cases h : replacement m r with
    | none => exact ih.cons _
    | some e =>
      rw [map_cons, ((replacement_iff hn).mp h).2.1]
      exact ih.cons_cons _

/-- The active snapshot: the open rows, each once. -/
theorem mem_active : r ∈ c.activeOrder.list (t.rows.filter CoverageRow.isOpen) ↔
    r ∈ t.rows ∧ r.isOpen = true := by
  rw [(c.activeOrder.perm _).mem_iff, mem_filter]

theorem nodup_active_ids (t : CoverageRules) (c : ReconcileCall) :
    ((c.activeOrder.list (t.rows.filter CoverageRow.isOpen)).map CoverageRow.coverageRuleId).Nodup :=
  ((c.activeOrder.perm _).map _).nodup_iff.mpr ((filter_sublist.map _).nodup t.table.nodup)

theorem nodup_active_keys (t : CoverageRules) (c : ReconcileCall) :
    ((c.activeOrder.list (t.rows.filter CoverageRow.isOpen)).map CoverageRow.key).Nodup :=
  ((c.activeOrder.perm _).map _).nodup_iff.mpr t.unique

/-- What is declared and not carried is inserted: by the first loop where an open row
    holds the key, by the second elsewhere. -/
theorem mem_inserted_iff (order : ScanOrder RuleEntry) (hn : (m.map RuleEntry.key).Nodup) {as : List CoverageRow}
    (has : ∀ r, r ∈ as ↔ r ∈ t.rows ∧ r.isOpen = true) :
    e ∈ as.filterMap (replacement m) ++ (order.list m).filter (·.key ∉ as.map CoverageRow.key) ↔
      e ∈ m ∧ ¬t.Carries e := by
  rw [mem_append, mem_filterMap, mem_filter, (order.perm m).mem_iff]
  constructor
  · rintro (⟨r, hr, hrep⟩ | ⟨he, hk⟩)
    · obtain ⟨he, hk, hh⟩ := (replacement_iff hn).mp hrep
      obtain ⟨hrt, hro⟩ := (has r).mp hr
      refine ⟨he, ?_⟩
      rintro ⟨r', hr', ho', hk', hh'⟩
      have : r' = r := t.open_unique hr' hrt ho' hro (hk'.trans hk)
      exact hh (this ▸ hh'.symm)
    · refine ⟨he, ?_⟩
      rintro ⟨r, hr, ho, hk', -⟩
      simp only [decide_eq_true_eq] at hk
      exact hk (hk' ▸ mem_map_of_mem ((has r).mpr ⟨hr, ho⟩))
  · rintro ⟨he, hcar⟩
    by_cases hk : e.key ∈ as.map CoverageRow.key
    · obtain ⟨r, hr, hrk⟩ := List.mem_map.mp hk
      obtain ⟨hrt, hro⟩ := (has r).mp hr
      refine .inl ⟨r, hr, (replacement_iff hn).mpr ⟨he, hrk.symm, fun hh => hcar ⟨r, hrt, hro, hrk, hh.symm⟩⟩⟩
    · exact .inr ⟨he, by simpa using hk⟩

section Loops

variable {as : List CoverageRow} {order : ScanOrder RuleEntry} {t₁ : CoverageRules} {s₀ s₁ : ReconcileSummary}

/-- The two loops, run over the open rows `as` and the declared map `m`. -/
theorem loops_rows (hn : (m.map RuleEntry.key).Nodup) (has : ∀ r, r ∈ as ↔ r ∈ t.rows ∧ r.isOpen = true)
    (hids : (as.map CoverageRow.coverageRuleId).Nodup) (hopen : (as.map CoverageRow.key).Nodup)
    (h₁ : as.foldlM (reconcileRow m iso) (t, s₀) = .ok (t₁, s₁))
    (h₂ : (order.list m).foldlM (insertMissing (as.map CoverageRow.key)) (t₁, s₁) = .ok (t', s)) :
    ∃ fresh, t'.rows = t.rows.map (endRow m iso) ++ fresh ∧
      (∀ r ∈ fresh, t.table.nextRowid ≤ r.coverageRuleId) ∧
      (∀ e, e ∈ fresh.map CoverageRow.entry ↔ e ∈ m ∧ ¬t.Carries e) ∧ (fresh.map CoverageRow.key).Nodup := by
  obtain ⟨fresh₁, hrows₁, hfresh₁, hids₁⟩ := reconcileRows_rows hids (fun r hr => (has r).mp hr) h₁
  obtain ⟨-, fresh₂, hrows₂, hfresh₂, hids₂⟩ := insertMissings_ok h₂
  have hentries : (fresh₁ ++ fresh₂).map CoverageRow.entry =
      as.filterMap (replacement m) ++ (order.list m).filter (·.key ∉ as.map CoverageRow.key) := by
    rw [map_append, hfresh₁, hfresh₂]
  have hrowkeys : (fresh₁ ++ fresh₂).map CoverageRow.key =
      ((fresh₁ ++ fresh₂).map CoverageRow.entry).map RuleEntry.key := by
    rw [map_map]; rfl
  refine ⟨fresh₁ ++ fresh₂, ?_, ?_, ?_, ?_⟩
  · rw [hrows₂, hrows₁, append_assoc]
    congr 1
    refine map_congr_left fun r hr => ?_
    by_cases ho : r.isOpen = true
    · rw [if_pos ((has r).mpr ⟨hr, ho⟩)]
    · rw [if_neg fun hm => ho ((has r).mp hm).2]
      simp [endRow, ho]
  · intro r hr
    rcases mem_append.mp hr with hr | hr
    · exact hids₁ r hr
    · refine le_trans (nextRowid_le_of_ids fun x hx => ?_) (hids₂ r hr)
      refine ⟨if x ∈ as then endRow m iso x else x, ?_, ?_⟩
      · show _ ∈ t₁.rows
        rw [hrows₁]
        exact mem_append_left _ (mem_map_of_mem hx)
      · unfold endRow
        split
        · split <;> rfl
        · rfl
  · intro e
    rw [hentries]
    exact mem_inserted_iff order hn has
  · -- the first loop's keys are active ones, the second's are not
    rw [hrowkeys, hentries, map_append, nodup_append]
    refine ⟨(key_of_replacements hn as).nodup hopen, ?_, ?_⟩
    · exact (filter_sublist.map _).nodup (((order.perm m).map _).nodup_iff.mpr hn)
    · intro a ha b hb hab
      obtain ⟨e, he, rfl⟩ := List.mem_map.mp hb
      have hk := (mem_filter.mp he).2
      simp only [decide_eq_true_eq] at hk
      exact hk (hab ▸ (key_of_replacements hn as).subset ha)

theorem loops_commit (order : ScanOrder RuleEntry) (s₀ : ReconcileSummary)
    (hn : (m.map RuleEntry.key).Nodup) (has : ∀ r, r ∈ as ↔ r ∈ t.rows ∧ r.isOpen = true)
    (hids : (as.map CoverageRow.coverageRuleId).Nodup) :
    (∃ st, (as.foldlM (reconcileRow m iso) (t, s₀) >>= fun st =>
        (order.list m).foldlM (insertMissing (as.map CoverageRow.key)) st) = .ok st) ↔ Admits m iso t := by
  have hins : ∀ e, e ∈ m → ¬t.Carries e →
      (∃ r ∈ as, replacement m r = some e) ∨ e ∈ order.list m ∧ e.key ∉ as.map CoverageRow.key := by
    intro e he hcar
    have := (mem_inserted_iff order hn has).mpr ⟨he, hcar⟩
    rw [mem_append, mem_filterMap, mem_filter] at this
    simpa using this
  constructor
  · rintro ⟨⟨t₂, s₂⟩, h⟩
    obtain ⟨⟨t₁, s₁⟩, h₁, h₂⟩ := Sql.bind_ok.mp h
    have hreps := (reconcileRows_commits hids fun r hr => (has r).mp hr).mp ⟨_, h₁⟩
    have hchecks := (insertMissings_ok h₂).1
    refine ⟨fun r hr ho hcar => (hreps r ((has r).mpr ⟨hr, ho⟩) hcar).1, fun e he hcar => ?_⟩
    rcases hins e he hcar with ⟨r, hr, hrep⟩ | ⟨he, hk⟩
    · refine (hreps r hr ?_).2 e hrep
      cases hc : r.carried m with
      | false => rfl
      | true => rw [replacement_of_carried hc] at hrep; cases hrep
    · exact hchecks e he hk
  · intro hadm
    have hreps : ∀ r ∈ as, r.Replaceable m iso := by
      intro r hr hcar
      obtain ⟨hrt, hro⟩ := (has r).mp hr
      refine ⟨hadm.ends r hrt hro hcar, fun e hrep => ?_⟩
      have := (mem_inserted_iff order hn has).mp
        (mem_append_left _ (mem_filterMap.mpr ⟨r, hr, hrep⟩))
      exact hadm.inserts e this.1 this.2
    obtain ⟨⟨t₁, s₁⟩, h₁⟩ := (reconcileRows_commits (s := s₀) hids fun r hr => (has r).mp hr).mpr hreps
    obtain ⟨fresh, hrows, hfresh, -⟩ := reconcileRows_rows hids (fun r hr => (has r).mp hr) h₁
    have hfree : ∀ r ∈ t₁.rows, r.isOpen = true → r.key ∈ as.map CoverageRow.key ∨
        r.key ∉ (order.list m).map RuleEntry.key := by
      intro r hr ho
      left
      rw [show t₁.rows = _ from hrows] at hr
      rcases mem_append.mp hr with hr | hr
      · obtain ⟨x, hx, rfl⟩ := List.mem_map.mp hr
        by_cases hm : x ∈ as
        · have : (if x ∈ as then endRow m iso x else x).key = x.key := by
            rw [if_pos hm]; unfold endRow; split <;> rfl
          rw [this]
          exact mem_map_of_mem hm
        · rw [if_neg hm] at ho ⊢
          exact absurd ((has x).mpr ⟨hx, ho⟩) hm
      · have he : r.entry ∈ as.filterMap (replacement m) := hfresh ▸ mem_map_of_mem hr
        exact (key_of_replacements hn as).subset (mem_map_of_mem he)
    have hchecks : ∀ e ∈ order.list m, e.key ∉ as.map CoverageRow.key → e.decl.check = true := by
      intro e he hk
      have := (mem_inserted_iff order hn has).mp
        (mem_append_right _ (mem_filter.mpr ⟨he, by simpa using hk⟩))
      exact hadm.inserts e this.1 this.2
    obtain ⟨st, h₂⟩ := insertMissings_commits (s := s₁) (((order.perm m).map _).nodup_iff.mpr hn) hfree hchecks
    exact ⟨st, Sql.bind_ok.mpr ⟨(t₁, s₁), h₁, h₂⟩⟩

end Loops

/-- What a committed call leaves. -/
theorem reconcile_rows (hn : (c.decls.map (·.key)).Nodup) (h : reconcileCoverageRules hash fmt t c = .ok (t', s)) :
    ∃ m iso fresh, Reconciled hash fmt t c t' m iso fresh := by
  unfold reconcileCoverageRules at h
  obtain ⟨m, hm, h⟩ := Sql.bind_ok.mp h
  obtain ⟨iso, hiso, h⟩ := Sql.bind_ok.mp h
  obtain ⟨⟨t₁, s₁⟩, h₁, h₂⟩ := Sql.bind_ok.mp h
  obtain ⟨es, rfl, hdecl⟩ := declaredInserts hn (by simp) hm
  obtain ⟨fresh, hrows, hids, hentries, hkeys⟩ := loops_rows (hdecl.nodup hn) (fun r => mem_active)
    (nodup_active_ids t c) (nodup_active_keys t c) h₁ h₂
  exact ⟨m, iso, fresh, hdecl, Sql.mapError_ok.mp hiso, hrows, hids, hentries, hkeys⟩

/-- A call commits exactly when its clock reading has a text, its rules have hashes,
    and everything it writes passes the CHECK clauses. -/
theorem reconcile_commits_iff (hn : (c.decls.map (·.key)).Nodup) :
    (∃ st, reconcileCoverageRules hash fmt t c = .ok st) ↔
      ∃ m iso, Declares hash c.decls m ∧ fmt c.now = .ok iso ∧ Admits m iso t := by
  unfold reconcileCoverageRules
  constructor
  · rintro ⟨st, h⟩
    obtain ⟨m, hm, h⟩ := Sql.bind_ok.mp h
    obtain ⟨iso, hiso, h⟩ := Sql.bind_ok.mp h
    obtain ⟨es, rfl, hdecl⟩ := declaredInserts hn (by simp) hm
    exact ⟨m, iso, hdecl, Sql.mapError_ok.mp hiso,
      (loops_commit c.declaredOrder {} (hdecl.nodup hn) (fun r => mem_active) (nodup_active_ids t c)).mp ⟨st, h⟩⟩
  · rintro ⟨m, iso, hdecl, hiso, hadm⟩
    obtain ⟨st, h⟩ := (loops_commit c.declaredOrder {} (hdecl.nodup hn) (fun r => mem_active)
      (nodup_active_ids t c)).mpr hadm
    exact ⟨st, Sql.bind_ok.mpr ⟨m, hdecl.inserts hn, Sql.bind_ok.mpr ⟨iso, Sql.mapError_ok.mpr hiso, h⟩⟩⟩

theorem reconcileRows_idle {as : List CoverageRow} : ∀ {s : ReconcileSummary}, (∀ r ∈ as, r.carried m = true) →
    as.foldlM (reconcileRow m iso) (t, s) = .ok (t, { s with unchanged := s.unchanged + as.length }) := by
  induction as with
  | nil => intro s _; rfl
  | cons r as ih =>
    intro s h
    have hturn : reconcileRow m iso (t, s) r = .ok (t, { s with unchanged := s.unchanged + 1 }) := by
      obtain ⟨e, he, hh⟩ := (Option.any_eq_true _ _).mp (h r mem_cons_self)
      simp only [decide_eq_true_eq] at hh
      simp [reconcileRow, he, hh]
    rw [foldlM_cons, hturn]
    show as.foldlM (reconcileRow m iso) _ = _
    rw [ih fun r' hr' => h r' (mem_cons_of_mem _ hr'), length_cons, Nat.add_assoc, Nat.add_comm 1]

theorem insertMissings_idle {st : CoverageRules × ReconcileSummary} (h : ∀ e ∈ es, e.key ∈ act) :
    es.foldlM (insertMissing act) st = .ok st := by
  induction es with
  | nil => rfl
  | cons e es ih =>
    rw [foldlM_cons]
    refine Sql.bind_ok.mpr ⟨st, ?_, ih fun e' he' => h e' (mem_cons_of_mem _ he')⟩
    simp [insertMissing, h e mem_cons_self]

/-- A call that finds its rules carried, and no other open row, does nothing. -/
theorem reconcile_idle (hn : (c.decls.map (·.key)).Nodup) (hdecl : Declares hash c.decls m) (hiso : fmt c.now = .ok iso)
    (hopen : ∀ r ∈ t.rows, r.isOpen = true → r.carried m = true) (hm : ∀ e ∈ m, t.Carries e) :
    ∃ s, reconcileCoverageRules hash fmt t c = .ok (t, s) ∧ s.inserted = 0 ∧ s.retired = 0 ∧ s.superseded = 0 := by
  have h₁ : (c.activeOrder.list (t.rows.filter CoverageRow.isOpen)).foldlM (reconcileRow m iso) (t, {}) =
      .ok (t, { unchanged := 0 + (c.activeOrder.list (t.rows.filter CoverageRow.isOpen)).length }) :=
    reconcileRows_idle fun r hr => hopen r (mem_active.mp hr).1 (mem_active.mp hr).2
  have hkeys : ∀ e ∈ c.declaredOrder.list m,
      e.key ∈ (c.activeOrder.list (t.rows.filter CoverageRow.isOpen)).map CoverageRow.key := by
    intro e he
    obtain ⟨r, hr, ho, hk, -⟩ := hm e ((c.declaredOrder.perm m).mem_iff.mp he)
    exact hk ▸ mem_map_of_mem (mem_active.mpr ⟨hr, ho⟩)
  exact ⟨_, Sql.bind_ok.mpr ⟨m, hdecl.inserts hn, Sql.bind_ok.mpr ⟨iso, Sql.mapError_ok.mpr hiso,
    Sql.bind_ok.mpr ⟨_, h₁, insertMissings_idle hkeys⟩⟩⟩, rfl, rfl, rfl⟩

end Nq.Coverage
