/-
  Nq.Coverage.Converge — reconciliation over whole histories.

  A history lists the calls made on an empty table, newest first (`CoverageRun`); a
  failed call leaves the table as it was. `Converges` is what a call owes: it returns
  Ok, a repeated list changes nothing, each declared rule has exactly one row in force,
  and old rows only ever end.

  - `origin_of_run`: every row is a declared rule, in force as declared or ended by a
    later call.
  - `converges_iff_sound`: the calls of a history all converge exactly when each finds
    no row for the bounded rules it declares, their windows are ordered as texts, and
    every row it ends had started as a text.
  - `repeating_a_bounded_rule_inserts_again`: a bounded rule is inserted on every call.
-/

import Nq.Coverage.Reconcile

namespace Nq.Coverage

open List

/-- One call of `reconcile_coverage_rules`: the table it found and what it returned. -/
structure Reconciliation where
  call : ReconcileCall
  before : CoverageRules
  result : Except ReconcileError (CoverageRules × ReconcileSummary)

namespace Reconciliation

def after (x : Reconciliation) : CoverageRules :=
  match x.result with
  | .ok (t, _) => t
  | .error _ => x.before

end Reconciliation

section Run

variable (rfc3339 : String → Except String Int) (hash : CoverageRuleHashable → Except String String)
  (fmt : Int → Except String String)

/-- The calls of a history, newest first, and the table after them. -/
inductive CoverageRun : List Reconciliation → CoverageRules → Prop
  | init : CoverageRun [] .empty
  | call {hist : List Reconciliation} {t : CoverageRules} (h : CoverageRun hist t) (c : ReconcileCall)
      (hacc : Accepted rfc3339 c.decls) :
      CoverageRun (⟨c, t, reconcileCoverageRules hash fmt t c⟩ :: hist)
        (Reconciliation.after ⟨c, t, reconcileCoverageRules hash fmt t c⟩)

end Run

def declaredIn (hist : List Reconciliation) : List CoverageRuleDecl := hist.flatMap (·.call.decls)

/-- Hashing the rules of a history neither fails nor takes two rules for one. -/
def Collisionless (hash : CoverageRuleHashable → Except String String) (ds : List CoverageRuleDecl) : Prop :=
  ∀ d ∈ ds, ∃ x, hash d.toCoverageRuleHashable = .ok x ∧
    ∀ d' ∈ ds, hash d'.toCoverageRuleHashable = .ok x → d'.toCoverageRuleHashable = d.toCoverageRuleHashable

/-- The row has been superseded or retired: an earlier call found it with another `valid_until`. -/
def Ended (hist : List Reconciliation) (r : CoverageRow) : Prop :=
  ∃ x ∈ hist, ∃ r' ∈ x.before.rows, r'.coverageRuleId = r.coverageRuleId ∧ r'.rule.validUntil ≠ r.rule.validUntil

/-- The row carries the declared rule. -/
def CoverageRow.Of (hash : CoverageRuleHashable → Except String String)
    (r : CoverageRow) (d : CoverageRuleDecl) : Prop :=
  r.key = d.key ∧ hash d.toCoverageRuleHashable = .ok r.coverageRuleHash

/-- What a call owes, after the calls `earlier`. -/
structure Reconciliation.Converges (hash : CoverageRuleHashable → Except String String)
    (fmt : Int → Except String String) (earlier : List Reconciliation) (x : Reconciliation) : Prop where
  returns : ∃ st, x.result = .ok st
  idle : ∀ p rest, earlier = p :: rest → p.call.decls = x.call.decls →
    ∃ s, x.result = .ok (x.before, s) ∧ s.inserted = 0 ∧ s.retired = 0 ∧ s.superseded = 0
  declared : ∀ d ∈ x.call.decls, ∃! r, r ∈ x.after.rows ∧ r.Of hash d ∧ ¬Ended (x :: earlier) r
  kept : ∀ r ∈ x.before.rows, r ∈ x.after.rows ∨
    (r.isOpen = true ∧ ∀ d ∈ x.call.decls, ¬r.Of hash d) ∧
      ∃ iso, fmt x.call.now = .ok iso ∧ r.endAt iso ∈ x.after.rows

/-- The rows a call ends had started, and the windows it inserts are ordered, as texts. -/
structure Reconciliation.Writable (hash : CoverageRuleHashable → Except String String)
    (fmt : Int → Except String String) (x : Reconciliation) : Prop where
  started : ∃ iso, fmt x.call.now = .ok iso ∧
    ∀ r ∈ x.before.rows, r.isOpen = true → (∀ d ∈ x.call.decls, ¬r.Of hash d) → r.rule.coverageStart < iso
  ordered : ∀ d ∈ x.call.decls, ∀ vu, d.validUntil = some vu → d.coverageStart < vu

/-- Writable, and new to the table as far as its rules are bounded. -/
structure Reconciliation.Sound (hash : CoverageRuleHashable → Except String String)
    (fmt : Int → Except String String) (x : Reconciliation) : Prop extends x.Writable hash fmt where
  unseen : ∀ d ∈ x.call.decls, d.validUntil.isSome = true → ∀ r ∈ x.before.rows, ¬r.Of hash d

/-- `P` holds at every call of the history, given the calls before it. -/
def Throughout (P : List Reconciliation → Reconciliation → Prop) (hist : List Reconciliation) : Prop :=
  ∀ later x earlier, hist = later ++ x :: earlier → P earlier x

variable {rfc3339 : String → Except String Int} {hash : CoverageRuleHashable → Except String String}
  {fmt : Int → Except String String} {hist earlier : List Reconciliation} {t : CoverageRules} {x : Reconciliation}

/-! ## Where rows come from -/

/-- The rule a row was inserted for, and whether a later call ended it. -/
def Origin (hash : CoverageRuleHashable → Except String String) (hist : List Reconciliation) (r : CoverageRow) : Prop :=
  ∃ d ∈ declaredIn hist, r.Of hash d ∧
    (r.rule = d ∧ ¬Ended hist r ∨ d.validUntil = none ∧ r.isOpen = false ∧ Ended hist r)

structure RunInv (hash : CoverageRuleHashable → Except String String) (hist : List Reconciliation)
    (t : CoverageRules) : Prop where
  origin : ∀ r ∈ t.rows, Origin hash hist r
  ids : ∀ x ∈ hist, ∀ r ∈ x.before.rows, ∃ r' ∈ t.rows, r'.coverageRuleId = r.coverageRuleId

variable {r : CoverageRow} {ds : List CoverageRuleDecl} {d : CoverageRuleDecl}

/-- A row the newest call found as it is now has ended only if it had before. -/
theorem ended_cons_iff (h : r ∈ x.before.rows) : Ended (x :: hist) r ↔ Ended hist r := by
  constructor
  · rintro ⟨y, hy, r', hr', hid, hne⟩
    rcases mem_cons.mp hy with rfl | hy
    · exact absurd (congrArg (·.rule.validUntil) (y.before.id_unique hr' h hid)) hne
    · exact ⟨y, hy, r', hr', hid, hne⟩
  · rintro ⟨y, hy, h⟩
    exact ⟨y, mem_cons_of_mem _ hy, h⟩

theorem Origin.cons {r : CoverageRow} (hr : r ∈ x.before.rows)
    (h : Origin hash hist r) : Origin hash (x :: hist) r := by
  obtain ⟨d, hd, hof, h⟩ := h
  refine ⟨d, mem_flatMap.mpr ?_, hof, ?_⟩
  · obtain ⟨y, hy, hdy⟩ := mem_flatMap.mp hd
    exact ⟨y, mem_cons_of_mem _ hy, hdy⟩
  · rw [ended_cons_iff hr]
    exact h

theorem endRow_cases (m : List RuleEntry) (iso : String) (r : CoverageRow) :
    endRow m iso r = r ∧ (r.isOpen = true → r.carried m = true) ∨
      endRow m iso r = r.endAt iso ∧ r.isOpen = true ∧ r.carried m = false := by
  unfold endRow
  by_cases h : r.isOpen = true ∧ r.carried m = false
  · exact .inr ⟨if_pos h, h⟩
  · refine .inl ⟨if_neg h, fun ho => ?_⟩
    cases hc : r.carried m with
    | false => exact absurd ⟨ho, hc⟩ h
    | true => rfl

theorem endRow_id (m : List RuleEntry) (iso : String) (r : CoverageRow) :
    (endRow m iso r).coverageRuleId = r.coverageRuleId := by
  unfold endRow; split <;> rfl

theorem runInv_step {c : ReconcileCall} {t' : CoverageRules} {m : List RuleEntry} {iso : String}
    {fresh : List CoverageRow} (hinv : RunInv hash hist t) (hx : x.call = c) (hb : x.before = t)
    (h : Reconciled hash fmt t c t' m iso fresh) : RunInv hash (x :: hist) t' := by
  subst hx hb
  refine ⟨?_, ?_⟩
  · intro r hr
    rw [h.rows] at hr
    rcases mem_append.mp hr with hr | hr
    · obtain ⟨r₀, hr₀, rfl⟩ := List.mem_map.mp hr
      rcases endRow_cases m iso r₀ with ⟨e, -⟩ | ⟨e, ho, -⟩
      · rw [e]
        exact (hinv.origin r₀ hr₀).cons hr₀
      · rw [e]
        obtain ⟨d, hd, hof, ⟨hrule, -⟩ | ⟨-, hclosed, -⟩⟩ := hinv.origin r₀ hr₀
        · refine ⟨d, ?_, hof, .inr ⟨?_, rfl, ?_⟩⟩
          · obtain ⟨y, hy, hdy⟩ := mem_flatMap.mp hd
            exact mem_flatMap.mpr ⟨y, mem_cons_of_mem _ hy, hdy⟩
          · rw [← hrule]
            simpa [CoverageRow.isOpen] using ho
          · refine ⟨x, mem_cons_self, r₀, hr₀, rfl, ?_⟩
            have : r₀.rule.validUntil = none := by simpa [CoverageRow.isOpen] using ho
            simp [this, CoverageRow.endAt]
        · rw [hclosed] at ho
          cases ho
    · have he := (h.entries r.entry).mp (mem_map_of_mem hr)
      have hd : r.rule ∈ x.call.decls := h.declares.mem_iff.mpr ⟨r.entry, he.1, rfl⟩
      refine ⟨r.rule, mem_flatMap.mpr ⟨x, mem_cons_self, hd⟩, ⟨rfl, h.declares.hashed r.entry he.1⟩,
        .inl ⟨rfl, ?_⟩⟩
      -- the row is new: no earlier call found its id
      rintro ⟨y, hy, r', hr', hid, -⟩
      have hold : ∃ r'' ∈ x.before.rows, r''.coverageRuleId = r.coverageRuleId := by
        rcases mem_cons.mp hy with rfl | hy
        · exact ⟨r', hr', hid⟩
        · obtain ⟨r'', hr'', e⟩ := hinv.ids y hy r' hr'
          exact ⟨r'', hr'', e.trans hid⟩
      obtain ⟨r'', hr'', e⟩ := hold
      have hlt : r''.coverageRuleId < x.before.table.nextRowid := Sql.Table.lt_nextRowid hr''
      have := h.ids r hr
      omega
  · intro y hy r hr
    have hkeep : ∀ r₀ ∈ x.before.rows, ∃ r' ∈ t'.rows, r'.coverageRuleId = r₀.coverageRuleId := by
      intro r₀ hr₀
      refine ⟨endRow m iso r₀, ?_, endRow_id m iso r₀⟩
      rw [h.rows]
      exact mem_append_left _ (mem_map_of_mem hr₀)
    rcases mem_cons.mp hy with rfl | hy
    · exact hkeep r hr
    · obtain ⟨r₀, hr₀, e₀⟩ := hinv.ids y hy r hr
      obtain ⟨r', hr', e'⟩ := hkeep r₀ hr₀
      exact ⟨r', hr', e'.trans e₀⟩

theorem runInv (h : CoverageRun rfc3339 hash fmt hist t) : RunInv hash hist t := by
  induction h with
  | init => exact ⟨fun r hr => (nomatch hr), fun x hx => (nomatch hx)⟩
  | @call hist t hprev c hacc ih =>
    cases hres : reconcileCoverageRules hash fmt t c with
    | error e =>
      refine ⟨fun r hr => (ih.origin r hr).cons hr, fun y hy r hr => ?_⟩
      rcases mem_cons.mp hy with rfl | hy
      · exact ⟨r, hr, rfl⟩
      · exact ih.ids y hy r hr
    | ok st =>
      obtain ⟨t', s⟩ := st
      obtain ⟨m, iso, fresh, hrec⟩ := reconcile_rows hacc.valid.1 hres
      exact runInv_step ih rfl rfl hrec

/-! ## One call -/

theorem CoverageRun.last {p : Reconciliation} {rest : List Reconciliation}
    (h : CoverageRun rfc3339 hash fmt (p :: rest) t) : t = p.after := by
  cases h; rfl

/-- Each call of a history was made on the table the earlier calls left. -/
theorem CoverageRun.split (h : CoverageRun rfc3339 hash fmt hist t) : ∀ {later : List Reconciliation},
    hist = later ++ x :: earlier → CoverageRun rfc3339 hash fmt earlier x.before ∧
      Accepted rfc3339 x.call.decls ∧ x.result = reconcileCoverageRules hash fmt x.before x.call := by
  induction h with
  | init => intro later e; simp at e
  | call hprev c hacc ih =>
    intro later e
    cases later with
    | nil =>
      rw [nil_append, List.cons.injEq] at e
      obtain ⟨rfl, rfl⟩ := e
      exact ⟨hprev, hacc, rfl⟩
    | cons y later =>
      rw [cons_append, List.cons.injEq] at e
      exact ih e.2

theorem Collisionless.mono {ds' : List CoverageRuleDecl} (h : Collisionless hash ds) (hs : ds' ⊆ ds) :
    Collisionless hash ds' := by
  intro d hd
  obtain ⟨y, hy, hinj⟩ := h d (hs hd)
  exact ⟨y, hy, fun d' hd' => hinj d' (hs hd')⟩

theorem Collisionless.eq (h : Collisionless hash ds) {d' : CoverageRuleDecl} (hd : d ∈ ds) (hd' : d' ∈ ds)
    (hr : r.Of hash d) (hr' : r.Of hash d') : d'.toCoverageRuleHashable = d.toCoverageRuleHashable := by
  obtain ⟨y, hy, hinj⟩ := h d hd
  have : y = r.coverageRuleHash := Except.ok.inj (hy.symm.trans hr.2)
  exact hinj d' hd' (this ▸ hr'.2)

theorem Origin.of (h : Origin hash hist r) (hc : Collisionless hash ds) (hs : declaredIn hist ⊆ ds) (hd : d ∈ ds)
    (hof : r.Of hash d) :
    r.rule.toCoverageRuleHashable = d.toCoverageRuleHashable ∧ ¬Ended hist r ∨
      d.validUntil = none ∧ r.isOpen = false ∧ Ended hist r := by
  obtain ⟨d₀, hd₀, hof₀, hcases⟩ := h
  have e : d₀.toCoverageRuleHashable = d.toCoverageRuleHashable := hc.eq hd (hs hd₀) hof hof₀
  rcases hcases with ⟨hrule, hnot⟩ | ⟨hopen, hclosed, hended⟩
  · exact .inl ⟨hrule ▸ e, hnot⟩
  · refine .inr ⟨?_, hclosed, hended⟩
    rw [← hopen]
    exact congrArg (·.validUntil) e.symm

theorem exists_declares {decls : List CoverageRuleDecl} (hn : (decls.map (·.key)).Nodup)
    (hc : Collisionless hash decls) : ∃ m, Declares hash decls m := by
  obtain ⟨m, hm⟩ := declaredInserts_commits (fun d hd => (hc d hd).imp fun _ h => h.1) []
  obtain ⟨es, rfl, hdecl⟩ := declaredInserts hn (by simp) hm
  exact ⟨m, hdecl⟩

section Call

variable {m : List RuleEntry} {decls : List CoverageRuleDecl} {e : RuleEntry} {r : CoverageRow}

theorem of_iff_hash (hdecl : Declares hash decls m) (he : e ∈ m) :
    r.Of hash e.decl ↔ r.key = e.key ∧ r.coverageRuleHash = e.hash := by
  unfold CoverageRow.Of
  rw [hdecl.hashed e he]
  exact and_congr_right fun _ => ⟨fun h => (Except.ok.inj h).symm, fun h => by rw [h]⟩

theorem carried_iff_of (hn : (decls.map (·.key)).Nodup) (hdecl : Declares hash decls m) :
    r.carried m = true ↔ ∃ d ∈ decls, r.Of hash d := by
  rw [carried_iff (hdecl.nodup hn)]
  constructor
  · rintro ⟨e, he, hk, hh⟩
    exact ⟨e.decl, hdecl.mem_iff.mpr ⟨e, he, rfl⟩, (of_iff_hash hdecl he).mpr ⟨hk.symm, hh.symm⟩⟩
  · rintro ⟨d, hd, hof⟩
    obtain ⟨e, he, rfl⟩ := hdecl.mem_iff.mp hd
    obtain ⟨hk, hh⟩ := (of_iff_hash hdecl he).mp hof
    exact ⟨e, he, hk.symm, hh.symm⟩

theorem carries_iff_of (hdecl : Declares hash decls m) (he : e ∈ m) :
    t.Carries e ↔ ∃ r ∈ t.rows, r.isOpen = true ∧ r.Of hash e.decl := by
  unfold CoverageRules.Carries
  simp only [of_iff_hash hdecl he]

end Call

/-- A call of a history, in the context its proofs need. -/
structure Called (rfc3339 : String → Except String Int) (hash : CoverageRuleHashable → Except String String)
    (fmt : Int → Except String String) (earlier : List Reconciliation) (x : Reconciliation) : Prop where
  run : CoverageRun rfc3339 hash fmt earlier x.before
  accepted : Accepted rfc3339 x.call.decls
  result : x.result = reconcileCoverageRules hash fmt x.before x.call
  collisionless : Collisionless hash (declaredIn (x :: earlier))

namespace Called

theorem nodup (h : Called rfc3339 hash fmt earlier x) : (x.call.decls.map (·.key)).Nodup := h.accepted.valid.1

variable {d : CoverageRuleDecl} {r : CoverageRow}

theorem mem_declared (_ : Called rfc3339 hash fmt earlier x) (hd : d ∈ x.call.decls) :
    d ∈ declaredIn (x :: earlier) := mem_flatMap.mpr ⟨x, mem_cons_self, hd⟩

theorem mem_earlier (_ : Called rfc3339 hash fmt earlier x) {d : CoverageRuleDecl} (hd : d ∈ declaredIn earlier) :
    d ∈ declaredIn (x :: earlier) := by
  obtain ⟨y, hy, hdy⟩ := mem_flatMap.mp hd
  exact mem_flatMap.mpr ⟨y, mem_cons_of_mem _ hy, hdy⟩

theorem invAfter (h : Called rfc3339 hash fmt earlier x) : RunInv hash (x :: earlier) x.after := by
  have hinv := runInv (CoverageRun.call h.run x.call h.accepted)
  rw [← h.result] at hinv
  exact hinv

/-- A row found for a declared rule was inserted for it: in force as declared, or open
    once and ended since. -/
theorem found (h : Called rfc3339 hash fmt earlier x) (hd : d ∈ x.call.decls) (hr : r ∈ x.before.rows)
    (hof : r.Of hash d) :
    r.rule.toCoverageRuleHashable = d.toCoverageRuleHashable ∧ ¬Ended earlier r ∨
      d.validUntil = none ∧ r.isOpen = false ∧ Ended earlier r :=
  ((runInv h.run).origin r hr).of h.collisionless (fun _ hd => h.mem_earlier hd) (h.mem_declared hd) hof

theorem left (h : Called rfc3339 hash fmt earlier x) (hd : d ∈ x.call.decls)
    (hr : r ∈ x.after.rows) (hof : r.Of hash d) :
    r.rule.toCoverageRuleHashable = d.toCoverageRuleHashable ∧ ¬Ended (x :: earlier) r ∨
      d.validUntil = none ∧ r.isOpen = false ∧ Ended (x :: earlier) r :=
  (h.invAfter.origin r hr).of h.collisionless (List.Subset.refl _) (h.mem_declared hd) hof

/-- No open row carries a bounded rule. -/
theorem not_carries_bounded (h : Called rfc3339 hash fmt earlier x) {m : List RuleEntry}
    (hdecl : Declares hash x.call.decls m) {e : RuleEntry} (he : e ∈ m)
    {vu : String} (hvu : e.decl.validUntil = some vu) :
    ¬x.before.Carries e := by
  rw [carries_iff_of hdecl he]
  rintro ⟨r, hr, ho, hof⟩
  rcases h.found (hdecl.mem_iff.mpr ⟨e, he, rfl⟩) hr hof with ⟨hval, -⟩ | ⟨hnone, -⟩
  · simp [CoverageRow.isOpen, hval, hvu] at ho
  · rw [hvu] at hnone
    cases hnone

theorem writable_of_commits (h : Called rfc3339 hash fmt earlier x) (hok : ∃ st, x.result = .ok st) :
    x.Writable hash fmt := by
  rw [h.result, reconcile_commits_iff h.nodup] at hok
  obtain ⟨m, iso, hdecl, hiso, hadm⟩ := hok
  refine ⟨⟨iso, hiso, fun r hr ho hnone => hadm.ends r hr ho ?_⟩, fun d hd vu hvu => ?_⟩
  · cases hcar : r.carried m with
    | false => rfl
    | true =>
      obtain ⟨d, hd, hof⟩ := (carried_iff_of h.nodup hdecl).mp hcar
      exact absurd hof (hnone d hd)
  · obtain ⟨e, he, rfl⟩ := hdecl.mem_iff.mp hd
    have hcheck := hadm.inserts e he (h.not_carries_bounded hdecl he hvu)
    exact ((h.accepted.valid.2 e.decl hd).check_iff.mp hcheck) vu hvu

/-- What a committed call left. -/
theorem reconciled (h : Called rfc3339 hash fmt earlier x) (hok : ∃ st, x.result = .ok st) :
    ∃ m iso fresh, Reconciled hash fmt x.before x.call x.after m iso fresh := by
  obtain ⟨⟨t', s⟩, hok⟩ := hok
  have hafter : x.after = t' := by unfold Reconciliation.after; rw [hok]
  rw [h.result] at hok
  rw [hafter]
  exact reconcile_rows h.nodup hok

theorem commits_of_writable (h : Called rfc3339 hash fmt earlier x) (hs : x.Writable hash fmt) :
    ∃ st, x.result = .ok st := by
  obtain ⟨m, hdecl⟩ := exists_declares h.nodup (h.collisionless.mono fun d hd => h.mem_declared hd)
  obtain ⟨iso, hiso, hstarted⟩ := hs.started
  have hadm : Admits m iso x.before := by
    refine ⟨fun r hr ho hcar => hstarted r hr ho fun d hd hof => ?_, fun e he _ => ?_⟩
    · rw [(carried_iff_of h.nodup hdecl).mpr ⟨d, hd, hof⟩] at hcar
      cases hcar
    · have hd := hdecl.mem_iff.mpr ⟨e, he, rfl⟩
      exact (h.accepted.valid.2 e.decl hd).check_iff.mpr (hs.ordered e.decl hd)
  rw [h.result]
  exact (reconcile_commits_iff h.nodup).mpr ⟨m, iso, hdecl, hiso, hadm⟩

end Called

/-! ## Convergence -/

namespace Called

variable {c : ReconcileCall} {fresh : List CoverageRow} {iso : String} {t' : CoverageRules} {r : CoverageRow}

/-- The row a call has inserted for a declared rule no open row carried. -/
theorem inserted {m : List RuleEntry} (hrec : Reconciled hash fmt t c t' m iso fresh) {e : RuleEntry} (he : e ∈ m)
    (hcar : ¬t.Carries e) : ∃ r ∈ fresh, r ∈ t'.rows ∧ r.Of hash e.decl := by
  obtain ⟨r, hr, hre⟩ := List.mem_map.mp ((hrec.entries e).mpr ⟨he, hcar⟩)
  refine ⟨r, hr, ?_, ?_⟩
  · rw [hrec.rows]; exact mem_append_right _ hr
  · rw [← hre]; exact ⟨rfl, hrec.declares.hashed r.entry (hre ▸ he)⟩

/-- An open row that carries a declared rule stays. -/
theorem stays {m : List RuleEntry} (hrec : Reconciled hash fmt t c t' m iso fresh) (hr : r ∈ t.rows)
    (hcar : r.isOpen = true → r.carried m = true) : r ∈ t'.rows := by
  have hkeep : endRow m iso r = r := by
    rcases endRow_cases m iso r with ⟨e, -⟩ | ⟨-, ho, hnot⟩
    · exact e
    · rw [hcar ho] at hnot; cases hnot
  rw [hrec.rows, ← hkeep]
  exact mem_append_left _ (mem_map_of_mem hr)

/-- After a call whose bounded rules were new, two rows in force for one rule are one. -/
theorem unique (h : Called rfc3339 hash fmt earlier x) (hs : x.Sound hash fmt) {m : List RuleEntry}
    (hrec : Reconciled hash fmt x.before x.call x.after m iso fresh) {d : CoverageRuleDecl} (hd : d ∈ x.call.decls)
    {r' : CoverageRow} (hr : r ∈ x.after.rows) (hr' : r' ∈ x.after.rows) (hof : r.Of hash d) (hof' : r'.Of hash d)
    (hin : ¬Ended (x :: earlier) r) (hin' : ¬Ended (x :: earlier) r') : r = r' := by
  have hval : ∀ {r : CoverageRow}, r ∈ x.after.rows → r.Of hash d → ¬Ended (x :: earlier) r →
      r.rule.validUntil = d.validUntil := by
    intro r hr hof hin
    rcases h.left hd hr hof with ⟨hv, -⟩ | ⟨-, -, hended⟩
    · exact congrArg (·.validUntil) hv
    · exact absurd hended hin
  cases hvu : d.validUntil with
  | none =>
    have hopen : ∀ {r : CoverageRow}, r ∈ x.after.rows → r.Of hash d → ¬Ended (x :: earlier) r → r.isOpen = true := by
      intro r hr hof hin
      simp [CoverageRow.isOpen, hval hr hof hin, hvu]
    exact x.after.open_unique hr hr' (hopen hr hof hin) (hopen hr' hof' hin') (hof.1.trans hof'.1.symm)
  | some vu =>
    have hfresh : ∀ {r : CoverageRow}, r ∈ x.after.rows → r.Of hash d → r ∈ fresh := by
      intro r hr hof
      rw [hrec.rows] at hr
      rcases mem_append.mp hr with hr | hr
      · obtain ⟨r₀, hr₀, rfl⟩ := List.mem_map.mp hr
        refine absurd ?_ (hs.unseen d hd (by simp [hvu]) r₀ hr₀)
        rcases endRow_cases m iso r₀ with ⟨e, -⟩ | ⟨e, -⟩
        · rwa [e] at hof
        · rw [e] at hof; exact hof
      · exact hr
    exact inj_on_of_nodup_map hrec.keys (hfresh hr hof) (hfresh hr' hof') (hof.1.trans hof'.1.symm)

theorem declared_of_sound (h : Called rfc3339 hash fmt earlier x) (hs : x.Sound hash fmt) :
    ∀ d ∈ x.call.decls, ∃! r, r ∈ x.after.rows ∧ r.Of hash d ∧ ¬Ended (x :: earlier) r := by
  obtain ⟨m, iso, fresh, hrec⟩ := h.reconciled (h.commits_of_writable hs.toWritable)
  intro d hd
  obtain ⟨e, he, rfl⟩ := hrec.declares.mem_iff.mp hd
  have hex : ∃ r ∈ x.after.rows, r.Of hash e.decl ∧ ¬Ended (x :: earlier) r := by
    by_cases hcar : x.before.Carries e
    · obtain ⟨r, hr, ho, hof⟩ := (carries_iff_of hrec.declares he).mp hcar
      refine ⟨r, stays hrec hr fun _ => (carried_iff_of h.nodup hrec.declares).mpr ⟨e.decl, hd, hof⟩, hof, ?_⟩
      rw [ended_cons_iff hr]
      rcases h.found hd hr hof with ⟨-, hnot⟩ | ⟨-, hclosed, -⟩
      · exact hnot
      · rw [hclosed] at ho; cases ho
    · obtain ⟨r, hr, hafter, hof⟩ := inserted hrec he hcar
      refine ⟨r, hafter, hof, ?_⟩
      rcases h.left hd hafter hof with ⟨-, hnot⟩ | ⟨hnone, hclosed, -⟩
      · exact hnot
      · have hentry : r.entry ∈ m := ((hrec.entries r.entry).mp (mem_map_of_mem hr)).1
        have hrule : r.rule = e.decl := by
          have := inj_on_of_nodup_map (hrec.declares.nodup h.nodup) hentry he hof.1
          exact congrArg RuleEntry.decl this
        simp [CoverageRow.isOpen, hrule, hnone] at hclosed
  obtain ⟨r, hr, hof, hin⟩ := hex
  exact ⟨r, ⟨hr, hof, hin⟩, fun r' ⟨hr', hof', hin'⟩ => h.unique hs hrec hd hr' hr hof' hof hin' hin⟩

theorem kept_of_sound (h : Called rfc3339 hash fmt earlier x) (hs : x.Sound hash fmt) :
    ∀ r ∈ x.before.rows, r ∈ x.after.rows ∨
      (r.isOpen = true ∧ ∀ d ∈ x.call.decls, ¬r.Of hash d) ∧
        ∃ iso, fmt x.call.now = .ok iso ∧ r.endAt iso ∈ x.after.rows := by
  obtain ⟨m, iso, fresh, hrec⟩ := h.reconciled (h.commits_of_writable hs.toWritable)
  intro r hr
  rcases endRow_cases m iso r with ⟨-, hcar⟩ | ⟨e, ho, hcar⟩
  · exact .inl (stays hrec hr hcar)
  · refine .inr ⟨⟨ho, fun d hd hof => ?_⟩, iso, hrec.formatted, ?_⟩
    · rw [(carried_iff_of h.nodup hrec.declares).mpr ⟨d, hd, hof⟩] at hcar
      cases hcar
    · rw [hrec.rows, ← e]
      exact mem_append_left _ (mem_map_of_mem hr)

/-- A sound call that repeats the list of the sound call before it does nothing. -/
theorem idle_of_sound {p : Reconciliation} {rest : List Reconciliation}
    (h : Called rfc3339 hash fmt (p :: rest) x) (hs : x.Sound hash fmt) (hp : Called rfc3339 hash fmt rest p)
    (hps : p.Sound hash fmt) (hsame : p.call.decls = x.call.decls) :
    ∃ s, x.result = .ok (x.before, s) ∧ s.inserted = 0 ∧ s.retired = 0 ∧ s.superseded = 0 := by
  obtain ⟨m, iso, fresh, hrec⟩ := hp.reconciled (hp.commits_of_writable hps.toWritable)
  obtain ⟨iso', hiso', -⟩ := hs.started
  have hbefore : x.before = p.after := h.run.last
  have hdecl : Declares hash x.call.decls m := hsame ▸ hrec.declares
  have hpresent : ∀ e ∈ m, ∃ r ∈ x.before.rows, r.Of hash e.decl ∧ (r.isOpen = true ∨ r ∈ fresh) := by
    intro e he
    rw [hbefore]
    by_cases hcar : p.before.Carries e
    · obtain ⟨r, hr, ho, hof⟩ := (carries_iff_of hrec.declares he).mp hcar
      have hd := hrec.declares.mem_iff.mpr ⟨e, he, rfl⟩
      exact ⟨r, stays hrec hr fun _ => (carried_iff_of hp.nodup hrec.declares).mpr ⟨e.decl, hd, hof⟩, hof, .inl ho⟩
    · obtain ⟨r, hr, hafter, hof⟩ := inserted hrec he hcar
      exact ⟨r, hafter, hof, .inr hr⟩
  rw [h.result]
  refine reconcile_idle h.nodup hdecl hiso' ?_ ?_
  · intro r hr ho
    rw [hbefore, hrec.rows] at hr
    rcases mem_append.mp hr with hr | hr
    · obtain ⟨r₀, hr₀, rfl⟩ := List.mem_map.mp hr
      rcases endRow_cases m iso r₀ with ⟨e, hcar⟩ | ⟨e, -, -⟩
      · rw [e] at ho ⊢
        exact hcar ho
      · rw [e] at ho
        simp [CoverageRow.isOpen, CoverageRow.endAt] at ho
    · have he := ((hrec.entries r.entry).mp (mem_map_of_mem hr)).1
      exact (carried_iff (hdecl.nodup h.nodup)).mpr ⟨r.entry, he, rfl, rfl⟩
  · intro e he
    obtain ⟨r, hr, hof, hopen⟩ := hpresent e he
    have hd := hdecl.mem_iff.mpr ⟨e, he, rfl⟩
    refine (carries_iff_of hdecl he).mpr ⟨r, hr, ?_, hof⟩
    -- a bounded rule cannot be here: the call would find its row
    cases hvu : e.decl.validUntil with
    | some vu => exact absurd hof (hs.unseen e.decl hd (by simp [hvu]) r hr)
    | none =>
      rcases hopen with ho | hr
      · exact ho
      · have hentry := ((hrec.entries r.entry).mp (mem_map_of_mem hr)).1
        have hrule : r.rule = e.decl :=
          congrArg RuleEntry.decl (inj_on_of_nodup_map (hdecl.nodup h.nodup) hentry he hof.1)
        simp [CoverageRow.isOpen, hrule, hvu]

theorem sound_of_converges (h : Called rfc3339 hash fmt earlier x) (hc : x.Converges hash fmt earlier) :
    x.Sound hash fmt := by
  refine ⟨h.writable_of_commits hc.returns, fun d hd hsome r hr hof => ?_⟩
  obtain ⟨vu, hvu⟩ := Option.isSome_iff_exists.mp hsome
  obtain ⟨m, iso, fresh, hrec⟩ := h.reconciled hc.returns
  -- the row found and the row inserted are both in force
  obtain ⟨e, he, rfl⟩ := hrec.declares.mem_iff.mp hd
  obtain ⟨new, hnew, hnew', hofnew⟩ := inserted hrec he (h.not_carries_bounded hrec.declares he hvu)
  have hclosed : r.isOpen = false ∧ ¬Ended (x :: earlier) r := by
    rw [ended_cons_iff hr]
    rcases h.found hd hr hof with ⟨hv, hnot⟩ | ⟨hnone, -⟩
    · exact ⟨by simp [CoverageRow.isOpen, hv, hvu], hnot⟩
    · rw [hvu] at hnone; cases hnone
  have hold : r ∈ x.after.rows := stays hrec hr fun ho => by rw [hclosed.1] at ho; cases ho
  have hnewin : ¬Ended (x :: earlier) new := by
    rcases h.left hd hnew' hofnew with ⟨-, hnot⟩ | ⟨hnone, -⟩
    · exact hnot
    · rw [hvu] at hnone; cases hnone
  have hsame : r = new := (hc.declared e.decl hd).unique ⟨hold, hof, hclosed.2⟩ ⟨hnew', hofnew, hnewin⟩
  have hlt : r.coverageRuleId < x.before.table.nextRowid := Sql.Table.lt_nextRowid hr
  have := hrec.ids new hnew
  rw [← hsame] at this
  omega

end Called

theorem called_of_run (h : CoverageRun rfc3339 hash fmt hist t) (hc : Collisionless hash (declaredIn hist))
    {later : List Reconciliation} (e : hist = later ++ x :: earlier) : Called rfc3339 hash fmt earlier x := by
  obtain ⟨hrun, hacc, hres⟩ := h.split e
  refine ⟨hrun, hacc, hres, hc.mono fun d hd => ?_⟩
  obtain ⟨y, hy, hdy⟩ := mem_flatMap.mp hd
  exact mem_flatMap.mpr ⟨y, by rw [e]; exact mem_append_right _ hy, hdy⟩

/-- Every call of a history converges exactly when every call is sound. -/
theorem converges_iff_sound (h : CoverageRun rfc3339 hash fmt hist t) (hc : Collisionless hash (declaredIn hist)) :
    Throughout (Reconciliation.Converges hash fmt) hist ↔ Throughout (fun _ x => x.Sound hash fmt) hist := by
  constructor
  · intro hall later x earlier e
    exact (called_of_run h hc e).sound_of_converges (hall later x earlier e)
  · intro hall later x earlier e
    have hx := called_of_run h hc e
    have hs := hall later x earlier e
    refine ⟨hx.commits_of_writable hs.toWritable, ?_, hx.declared_of_sound hs, hx.kept_of_sound hs⟩
    rintro p rest rfl hsame
    have e' : hist = (later ++ [x]) ++ p :: rest := by rw [e]; simp
    exact hx.idle_of_sound hs (called_of_run h hc e') (hall _ p rest e') hsame

/-! ## Traces -/

/-- The open rule of a loop heartbeat. -/
def loopRule : CoverageRuleDecl :=
  { componentId := "nq.local", subjectId := "observation_loop"
    claimKind := "component_testimony_observation_loop_alive", expectedIntervalS := 60, graceMultiplier := 2
    coverageStart := "2026-01-01T00:00:00Z", validUntil := none, standingResolverId := "nq.operator"
    escalationTarget := "operator", declaredBy := "config-file", declaredAt := "2026-01-01T00:00:00Z" }

def boundedRule : CoverageRuleDecl := { loopRule with validUntil := some "2027-01-01T00:00:00Z" }

def traceInstant : String → Except String Int
  | "2026-01-01T00:00:00Z" => .ok 1767225600
  | "2027-01-01T00:00:00Z" => .ok 1798761600
  | s => .error s

def traceFmt : Int → Except String String
  | 1772323200 => .ok "2026-03-01T00:00:00Z"
  | 1772323260 => .ok "2026-03-01T00:01:00Z"
  | _ => .error "year out of range"

/-- The hashes of `loopRule` and `boundedRule`. -/
def traceHash (f : CoverageRuleHashable) : Except String String :=
  if f.validUntil = none then .ok "sha256:856402e4f7cb9267f239c320845c664a665e8507a12d8702e41c7b4ab5bdd6c1"
  else .ok "sha256:3bb71b5ba0993cead357a826167cd485eb2ce758340bb917ba2e9a3c98467207"

/-- One rule declared twice, a minute apart. -/
def traceCall (d : CoverageRuleDecl) (t : CoverageRules) (now : Int) : Reconciliation :=
  ⟨{ decls := [d], now }, t, reconcileCoverageRules traceHash traceFmt t { decls := [d], now }⟩

def traceFirst (d : CoverageRuleDecl) : Reconciliation := traceCall d .empty 1772323200

def traceHist (d : CoverageRuleDecl) : List Reconciliation :=
  [traceCall d (traceFirst d).after 1772323260, traceFirst d]

theorem accepted_singleton (h : validate rfc3339 d = .ok ()) : Accepted rfc3339 [d] := by
  refine ⟨[d], [], ?_⟩
  simp [loadCoverageRules, sortRules, h]

theorem traceRun (h : validate traceInstant d = .ok ()) :
    CoverageRun traceInstant traceHash traceFmt (traceHist d)
      (traceCall d (traceFirst d).after 1772323260).after :=
  .call (.call .init { decls := [d], now := 1772323200 } (accepted_singleton h)) { decls := [d], now := 1772323260 }
    (accepted_singleton h)

theorem collisionless_traceHist (d : CoverageRuleDecl) : Collisionless traceHash (declaredIn (traceHist d)) := by
  have hone : ∀ d' ∈ declaredIn (traceHist d), d' = d := by
    intro d' hd'
    simpa [declaredIn, traceHist, traceFirst, traceCall] using hd'
  have hhash : ∃ h, traceHash d.toCoverageRuleHashable = .ok h := by
    unfold traceHash
    split <;> exact ⟨_, rfl⟩
  intro d' hd'
  obtain ⟨h, hh⟩ := hhash
  rw [hone d' hd']
  exact ⟨h, hh, fun d'' hd'' _ => by rw [hone d'' hd'']⟩

/-- Declaring a bounded rule twice inserts it twice, so its history does not converge. -/
theorem repeating_a_bounded_rule_inserts_again :
    CoverageRun traceInstant traceHash traceFmt (traceHist boundedRule)
        (traceCall boundedRule (traceFirst boundedRule).after 1772323260).after ∧
      Collisionless traceHash (declaredIn (traceHist boundedRule)) ∧
      (traceHist boundedRule).Pairwise (fun newer older => older.call.now < newer.call.now) ∧
      ¬Throughout (Reconciliation.Converges traceHash traceFmt) (traceHist boundedRule) := by
  refine ⟨traceRun (by decide +kernel), collisionless_traceHist _, ?_, fun hall => ?_⟩
  · simp [traceHist, traceFirst, traceCall]
  · have hagain : (traceCall boundedRule (traceFirst boundedRule).after 1772323260).result.toOption.map
        (fun st => st.2.inserted) = some 1 := by decide +kernel
    obtain ⟨st, hst, hone⟩ := Sql.ok_of_toOption hagain
    obtain ⟨s, hs, hzero, -⟩ := (hall [] _ _ rfl).idle (traceFirst boundedRule) [] rfl rfl
    rw [hst] at hs
    cases hs
    rw [hzero] at hone
    cases hone

theorem loopRule_sound : Throughout (fun _ x => x.Sound traceHash traceFmt) (traceHist loopRule) := by
  have hrows : (traceFirst loopRule).after.rows =
      [⟨1, loopRule, "sha256:856402e4f7cb9267f239c320845c664a665e8507a12d8702e41c7b4ab5bdd6c1"⟩] := by decide +kernel
  intro later x earlier e
  have hx : x = traceCall loopRule (traceFirst loopRule).after 1772323260 ∨ x = traceFirst loopRule := by
    have : x ∈ traceHist loopRule := by rw [e]; simp
    simpa [traceHist] using this
  have hopen : ∀ d ∈ x.call.decls, d.validUntil = none := by
    intro d hd
    have : d = loopRule := by rcases hx with rfl | rfl <;> simpa [traceFirst, traceCall] using hd
    rw [this]
    rfl
  refine ⟨⟨?_, fun d hd vu hvu => ?_⟩, fun d hd hsome => ?_⟩
  · rcases hx with rfl | rfl
    · refine ⟨_, rfl, fun r hr _ hnone => absurd ?_ (hnone loopRule (by simp [traceCall]))⟩
      rw [show (traceCall loopRule (traceFirst loopRule).after 1772323260).before.rows = _ from hrows] at hr
      rw [mem_singleton.mp hr]
      exact ⟨rfl, rfl⟩
    · exact ⟨_, rfl, fun r hr => (nomatch hr)⟩
  · rw [hopen d hd] at hvu
    cases hvu
  · rw [hopen d hd] at hsome
    cases hsome

/-- An open rule declared twice: the second call changes nothing. -/
theorem repeating_an_open_rule_converges :
    CoverageRun traceInstant traceHash traceFmt (traceHist loopRule)
        (traceCall loopRule (traceFirst loopRule).after 1772323260).after ∧
      Throughout (Reconciliation.Converges traceHash traceFmt) (traceHist loopRule) :=
  ⟨traceRun (by decide +kernel),
    (converges_iff_sound (traceRun (by decide +kernel)) (collisionless_traceHist loopRule)).mpr loopRule_sound⟩

end Nq.Coverage
