/-
  Nq.Export.Admissibility — what an exported finding says of its own standing.

  `admissibility` is derived at reading time from the suppression columns, with the
  exporter's own copy of the masking rules. After a lifecycle update
  (`admissibility_after_update`): a finding on a withdrawn host is suppressed by the
  declaration; another one is suppressed by an ancestor when it was not emitted and is
  masked, or was exported so before, since an ancestor's recovery lifts nothing until the
  finding is observed again; every other finding is observable. The ancestor it names is an
  observed row of the parent kind of the rule, named whenever there is one.

  So a finding outlives its ancestor (`a_cleared_parent_leaves_its_child_suppressed`). A row
  left under a declaration whose id is reused is left out (`LeftUnder`).
-/

import Nq.Export.Snapshot
import Nq.Lifecycle.Gaps
import Nq.Lifecycle.Suppression

namespace Nq.Export

open List
open Sql (Table)
open Preflight (AdmissibilityState admissibilityState ancestorKind resolveAncestorFindingKey)

/-! ## The exporter's rules -/

theorem not_smart_of_zfs {kind : String} (h : startsWith kind "zfs_" = true) : startsWith kind "smart_" = false := by
  have hz : "zfs_".toList = ['z', 'f', 's', '_'] := by simp
  have hs : "smart_".toList = ['s', 'm', 'a', 'r', 't', '_'] := by simp
  unfold startsWith at h ⊢
  rw [hz] at h
  rw [hs]
  cases hk : kind.toList with
  | nil => rfl
  | cons c cs =>
    rw [hk, isPrefixOf_cons_cons, Bool.and_eq_true, beq_iff_eq] at h
    rw [isPrefixOf_cons_cons, ← h.1]
    rfl

variable {rule : MaskingRule} {reason : SuppressionReason} {r r' : WarningRow} {u : UpdateCall} {db' : Db}
  {rfc3339 : String → Except String Int} {k : FindingId}

/-- The exporter's table names the parent kind of the rule. -/
theorem ancestorKind_of_rule (hr : rule ∈ maskingRules) {kind : String} (hc : rule.covers kind = true) :
    ancestorKind kind rule.suppressionReason = some rule.parentKind := by
  simp only [maskingRules, mem_cons, not_mem_nil, or_false] at hr
  rcases hr with rfl | rfl | rfl | rfl
  · rfl
  · rfl
  · have hsmart : startsWith kind "smart_" = true := hc
    simp [ancestorKind, hsmart]
  · have hzfs : startsWith kind "zfs_" = true := hc
    have hsmart : startsWith kind "smart_" = false := not_smart_of_zfs hzfs
    simp [ancestorKind, hzfs, hsmart]

theorem rule_of_ancestorKind {kind parentKind : String} (h : ancestorKind kind reason = some parentKind) :
    ∃ rule ∈ maskingRules, rule.covers kind = true ∧ rule.suppressionReason = reason ∧
      rule.parentKind = parentKind := by
  cases reason with
  | hostUnreachable => cases h; exact ⟨⟨"stale_host", .hostUnreachable, none⟩, by simp [maskingRules], rfl, rfl, rfl⟩
  | sourceUnreachable => cases h; exact ⟨⟨"source_error", .sourceUnreachable, none⟩,
      by simp [maskingRules], rfl, rfl, rfl⟩
  | witnessUnobservable =>
    unfold ancestorKind at h
    dsimp only at h
    split at h
    · cases h
      exact ⟨⟨"smart_witness_silent", .witnessUnobservable, some "smart_"⟩, by simp [maskingRules], ‹_›, rfl, rfl⟩
    · split at h
      · cases h
        exact ⟨⟨"zfs_witness_silent", .witnessUnobservable, some "zfs_"⟩, by simp [maskingRules], ‹_›, rfl, rfl⟩
      · cases h

/-- An observed row of the rule's parent kind on the host. -/
def Parent (db : Db) (rule : MaskingRule) (host : String) (p : WarningRow) : Prop :=
  p ∈ db.warningState.rows ∧ p.host = host ∧ p.isParent rule = true

theorem parent_congr {db : Db} {rule' : MaskingRule} (h : rule.parentKind = rule'.parentKind) {host : String}
    {p : WarningRow} : Parent db rule host p ↔ Parent db rule' host p := by
  unfold Parent WarningRow.isParent
  rw [h]

section

variable {db : Db} {host kind : String}

theorem resolve_some {reason : SuppressionReason} {key : String}
    (h : resolveAncestorFindingKey db.warningState host kind reason = some key) :
    ∃ rule ∈ maskingRules, rule.covers kind = true ∧ rule.suppressionReason = reason ∧
      ∃ p, Parent db rule host p ∧ key = p.id.key := by
  obtain ⟨parentKind, hkind, h⟩ := Option.bind_eq_some_iff.mp h
  obtain ⟨p, hfirst, h⟩ := Option.bind_eq_some_iff.mp h
  cases h
  obtain ⟨rule, hrule, hcovers, hreason, rfl⟩ := rule_of_ancestorKind hkind
  have hmem := Sql.firstBy_mem hfirst
  obtain ⟨hrow, hp⟩ := mem_filter.mp hmem
  simp only [Bool.and_eq_true, decide_eq_true_eq] at hp
  obtain ⟨⟨rfl, hpk⟩, hv⟩ := hp
  refine ⟨rule, hrule, hcovers, hreason, p, ⟨hrow, rfl, ?_⟩, ?_⟩
  · simp [WarningRow.isParent, hpk, hv]
  · show computeFindingKey "local" p.host rule.parentKind p.subject = computeFindingKey "local" p.host p.kind p.subject
    rw [hpk]

variable {rule : MaskingRule}

theorem resolve_isSome (hr : rule ∈ maskingRules) (hc : rule.covers kind = true) {p : WarningRow}
    (hp : Parent db rule host p) :
    (resolveAncestorFindingKey db.warningState host kind rule.suppressionReason).isSome = true := by
  obtain ⟨hrow, rfl, hparent⟩ := hp
  simp only [WarningRow.isParent, Bool.decide_and, Bool.and_eq_true, decide_eq_true_eq] at hparent
  unfold resolveAncestorFindingKey
  rw [ancestorKind_of_rule hr hc, Option.bind_eq_bind, Option.bind_some]
  cases hfirst : Sql.firstBy (fun a b : WarningRow => decide (a.subject < b.subject))
      (db.warningState.rows.filter fun r =>
        r.host = p.host && r.kind = rule.parentKind && r.visibilityState = .observed) with
  | some q => rfl
  | none =>
    have hnil := Sql.firstBy_eq_none hfirst
    have hmem : p ∈ db.warningState.rows.filter fun r =>
        r.host = p.host && r.kind = rule.parentKind && r.visibilityState = .observed := by
      rw [mem_filter]
      exact ⟨hrow, by simp [hparent.1, hparent.2]⟩
    rw [hnil] at hmem
    cases hmem

/-- The key is that of a parent of the rule, and is there whenever one is. -/
theorem resolve_spec (hr : rule ∈ maskingRules) (hc : rule.covers kind = true) :
    ((resolveAncestorFindingKey db.warningState host kind rule.suppressionReason).isSome = true ↔
      ∃ p, Parent db rule host p) ∧
    ∀ key, resolveAncestorFindingKey db.warningState host kind rule.suppressionReason = some key →
      ∃ p, Parent db rule host p ∧ key = p.id.key := by
  have hkey : ∀ key, resolveAncestorFindingKey db.warningState host kind rule.suppressionReason = some key →
      ∃ p, Parent db rule host p ∧ key = p.id.key := by
    intro key h
    obtain ⟨rule', hr', hc', hreason, p, hp, hid⟩ := resolve_some h
    have hkind : some rule'.parentKind = some rule.parentKind := by
      rw [← ancestorKind_of_rule hr' hc', hreason, ancestorKind_of_rule hr hc]
    exact ⟨p, (parent_congr (Option.some.inj hkind)).mp hp, hid⟩
  refine ⟨⟨fun h => ?_, fun ⟨p, hp⟩ => resolve_isSome hr hc hp⟩, hkey⟩
  obtain ⟨key, hsome⟩ := Option.isSome_iff_exists.mp h
  obtain ⟨p, hp, -⟩ := hkey key hsome
  exact ⟨p, hp⟩

end

/-! ## Why a row is suppressed -/

/-- A row that no declaration suppresses carries the reason of a rule that covers its kind. -/
def Reasoned (kind : String) (m : Marks) : Prop :=
  m.visibility = .suppressed → m.kind ≠ some .operatorDeclaration →
    ∃ rule ∈ maskingRules, rule.covers kind = true ∧ m.reason = some rule.suppressionReason

def RowsReasoned (db : Db) : Prop := ∀ k r, db.warningState.get k = some r → Reasoned k.kind r.marks

theorem reasoned_of_observed {kind : String} {m : Marks} (h : m.visibility = .observed) : Reasoned kind m := by
  intro hs
  rw [h] at hs
  cases hs

theorem reasoned_revoke {kind : String} {ids : List String} (h : Reasoned kind r.marks) :
    Reasoned kind (r.revoke ids).marks := by
  unfold WarningRow.revoke
  split
  · exact reasoned_of_observed rfl
  · exact h

theorem masked_rule {db : Db} {host kind : String} (h : u.masked db host kind = some reason) :
    ∃ rule ∈ maskingRules, rule.covers kind = true ∧ u.hasParent db host rule = true ∧
      rule.suppressionReason = reason := by
  unfold UpdateCall.masked at h
  split at h
  · obtain ⟨rule, hrule, rfl⟩ := Option.map_eq_some_iff.mp h
    have hp := find?_some hrule
    rw [Bool.and_eq_true] at hp
    exact ⟨rule, mem_of_find?_eq_some hrule, hp.1, hp.2, rfl⟩
  · cases h

/-- What a pass after the recovery loop leaves of a row that no declaration withdraws. -/
theorem finish_reasoned {db : Db} {kind : String} (h : u.finish db r = some r') (hr : Reasoned kind r.marks) :
    Reasoned kind r'.marks := by
  rcases finish_marks h with ⟨d, -, -, hm⟩ | ⟨-, hm⟩
  · rw [hm]
    exact fun _ hne => absurd rfl hne
  · rw [hm]
    exact reasoned_revoke hr

theorem update_reasoned {db : Db} (h : Updated u db db') (hinv : RowsReasoned db) : RowsReasoned db' := by
  intro k r' hr'
  rcases h.row_cases hr' with ⟨f, -, rfl, s, hfin⟩ | ⟨-, r, hr, ⟨reason, hm, hfin⟩ | ⟨-, -, hfin⟩⟩
  · refine finish_reasoned hfin (reasoned_of_observed ?_)
    exact congrArg Marks.visibility (marks_emittedRow (u.cycle db) (db.warningState.get f.id) f)
  · refine finish_reasoned hfin fun _ _ => ?_
    obtain ⟨rule, hrule, hcovers, -, rfl⟩ := masked_rule hm
    exact ⟨rule, hrule, hcovers, rfl⟩
  · exact finish_reasoned hfin (hinv k r hr)

/-- A write that inserts an observed row, or leaves the suppression columns alone. -/
structure Unmarking (w : RowWrite) : Prop where
  row : w.row.visibilityState = .observed
  overwrite : ∀ r, (w.overwrite r).marks = r.marks

theorem ingestWrites_unmarking (rfc3339 : String → Except String Int) (read : ManifestRead) (g : Int) (now : String)
    (cfg : IngestConfig) : ∀ w ∈ ingestWrites rfc3339 read g now cfg, Unmarking w := by
  intro w hw
  rcases mem_ingestWrites hw with ⟨p, x, rfl⟩ | ⟨m, f, rfl⟩ | ⟨m, d, rfl⟩ <;> exact ⟨rfl, fun _ => rfl⟩

theorem applyWrites_reasoned {ws : List RowWrite} (hws : ∀ w ∈ ws, Unmarking w) : ∀ {t : WarningState},
    (∀ k r, t.get k = some r → Reasoned k.kind r.marks) →
      ∀ k r, (applyWrites t ws).get k = some r → Reasoned k.kind r.marks := by
  induction ws with
  | nil => intro t h; exact h
  | cons w ws ih =>
    intro t h
    refine ih (fun w' hw' => hws w' (mem_cons_of_mem _ hw')) ?_
    intro k r hr
    have hw := hws w (by simp)
    rw [RowWrite.apply, Table.get_upsert] at hr
    split at hr
    · cases hget : t.get k with
      | none => rw [hget] at hr; cases hr; exact reasoned_of_observed hw.row
      | some old =>
        rw [hget] at hr
        cases hr
        show Reasoned k.kind (w.overwrite old).marks
        rw [hw.overwrite]
        exact h k old hget
    · exact h k r hr

theorem reach_reasoned {db : Db} (h : Reach rfc3339 db) : RowsReasoned db := by
  induction h with
  | init h => intro k r hr; rw [h] at hr; cases hr
  | step _ h ih =>
    cases h with
    | update u h => exact update_reasoned (run_updated h) ih
    | ingest read g now cfg =>
      intro k r hr
      rw [ingest_warningState] at hr
      exact applyWrites_reasoned (ingestWrites_unmarking rfc3339 read g now cfg) ih k r hr
    | coverage c h =>
      intro k r hr
      rw [(recordCoverage_ok h).1] at hr
      have hws : ∀ w ∈ [coverageWrite c], Unmarking w := by
        intro w hw
        rw [mem_singleton] at hw
        exact hw ▸ ⟨rfl, fun _ => rfl⟩
      exact applyWrites_reasoned hws ih k r hr
    | operator f hf h =>
      intro k r hr
      rw [h, Table.get_update, Option.map_eq_some_iff] at hr
      obtain ⟨r₀, hr₀, rfl⟩ := hr
      rw [hf r₀]
      exact ih k r₀ hr₀
    | elsewhere h =>
      intro k r hr
      rw [h] at hr
      exact ih k r hr

/-! ## After an update -/

theorem state_declared_iff : admissibilityState r = .suppressedByDeclaration ↔ r.declaredAway := by
  unfold admissibilityState WarningRow.declaredAway
  split
  · rename_i h
    exact ⟨fun h => (nomatch h), fun hd => absurd hd.1 h⟩
  · rename_i h
    have hs : r.visibilityState = .suppressed := not_not.mp h
    split
    · exact ⟨fun _ => ⟨hs, ‹_›⟩, fun _ => rfl⟩
    · rename_i hk
      exact ⟨fun h => (nomatch h), fun hd => absurd hd.2 hk⟩

theorem state_ancestor_iff : admissibilityState r = .suppressedByAncestor ↔
    r.marks.visibility = .suppressed ∧ r.marks.kind ≠ some .operatorDeclaration := by
  show _ ↔ r.visibilityState = .suppressed ∧ r.suppressionKind ≠ some .operatorDeclaration
  unfold admissibilityState
  split
  · rename_i h
    exact ⟨fun h => (nomatch h), fun hd => absurd hd.1 h⟩
  · rename_i h
    have hs : r.visibilityState = .suppressed := not_not.mp h
    split
    · rename_i hk
      exact ⟨fun h => (nomatch h), fun hd => absurd hk hd.2⟩
    · exact ⟨fun _ => ⟨hs, ‹_›⟩, fun _ => rfl⟩

/-- The row of the finding is exported as suppressed by an ancestor. -/
def ByAncestor (db : Db) (k : FindingId) : Prop :=
  ∃ r, db.warningState.get k = some r ∧ admissibilityState r = .suppressedByAncestor

/-- What an exported finding says after the update `u` on `db`. -/
structure Told (u : UpdateCall) (db db' : Db) (k : FindingId) (a : AdmissibilityExport) : Prop where
  declared : a.state = .suppressedByDeclaration ↔ u.withdrawn k.host = true
  declaration : u.withdrawn k.host = true → ∃ d ∈ u.active, d.withdraws k.host = true ∧
    a.declarationId = some d.declarationId
  ancestor : a.state = .suppressedByAncestor ↔ u.withdrawn k.host = false ∧ k ∉ u.emittedIds db ∧
    ((u.masked db k.host k.kind).isSome = true ∨ ByAncestor db k)
  observable : a.state = .observable ↔ u.withdrawn k.host = false ∧
    (k ∈ u.emittedIds db ∨ (u.masked db k.host k.kind = none ∧ ¬ByAncestor db k))
  /-- Of the rule that masks it now, or else of the one that did. -/
  key : a.state = .suppressedByAncestor → ∃ rule ∈ maskingRules, rule.covers k.kind = true ∧
    (∀ reason, u.masked db k.host k.kind = some reason → rule.suppressionReason = reason) ∧
    (a.ancestorFindingKey.isSome = true ↔ ∃ p, Parent db' rule k.host p) ∧
    ∀ key, a.ancestorFindingKey = some key → ∃ p, Parent db' rule k.host p ∧ key = p.id.key

theorem ancestor_of_update {db : Db} (h : Updated u db db') (hr' : db'.warningState.get k = some r') :
    admissibilityState r' = .suppressedByAncestor ↔
      u.withdrawn k.host = false ∧ k ∉ u.emittedIds db ∧
        ((u.masked db k.host k.kind).isSome = true ∨ ByAncestor db k) := by
  rw [state_ancestor_iff]
  have hleft : ∀ {r : WarningRow}, u.finish db r = some r' → r.host = k.host →
      (r'.marks.visibility = .suppressed ∧ r'.marks.kind ≠ some .operatorDeclaration ↔ u.withdrawn k.host = false ∧
        (r.revoke u.activeIds).marks.visibility = .suppressed ∧
          (r.revoke u.activeIds).marks.kind ≠ some .operatorDeclaration) := by
    intro r hfin hhost
    rcases finish_marks hfin with ⟨d, hd, hw, hm⟩ | ⟨hnone, hm⟩
    · have hwith : u.withdrawn k.host = true := any_eq_true.mpr ⟨d, hd, hhost ▸ hw⟩
      rw [hm, hwith]
      exact ⟨fun h => absurd rfl h.2, fun h => by cases h.1⟩
    · rw [hm, withdrawn_false (hhost ▸ hnone)]
      exact ⟨fun h => ⟨rfl, h⟩, fun h => h.2⟩
  rcases h.row_cases hr' with ⟨f, hf, rfl, s, hfin⟩ | ⟨hk, r, hr, ⟨reason, hm, hfin⟩ | ⟨hm, -, hfin⟩⟩
  · have hid : (emittedRow (u.cycle db) (db.warningState.get f.id) f).id = f.id := id_emittedRow
    rw [hleft hfin (congrArg FindingId.host hid)]
    have hmem : f.id ∈ u.emittedIds db := mem_map_of_mem hf
    have hobserved : ((emittedRow (u.cycle db) (db.warningState.get f.id) f).setStability
        s).marks.visibility = .observed :=
      congrArg Marks.visibility (marks_emittedRow (u.cycle db) (db.warningState.get f.id) f)
    constructor
    · rintro ⟨-, hv, -⟩
      exfalso
      unfold WarningRow.revoke at hv
      split at hv
      · cases hv
      · rw [hobserved] at hv
        cases hv
    · exact fun h => absurd hmem h.2.1
  · have hid : r.id = k := Table.key_of_get hr
    rw [hleft hfin (congrArg FindingId.host hid), revoke_suppress, hm]
    constructor
    · exact fun h => ⟨h.1, hk, .inl rfl⟩
    · exact fun h => ⟨h.1, rfl, fun hkind => by cases hkind⟩
  · have hid : r.id = k := Table.key_of_get hr
    rw [hleft hfin (congrArg FindingId.host hid), hm]
    have hrevoked : ((r.incAbsent.revoke u.activeIds).marks.visibility = .suppressed ∧
        (r.incAbsent.revoke u.activeIds).marks.kind ≠ some .operatorDeclaration) ↔ ByAncestor db k := by
      constructor
      · intro hv
        refine ⟨r, hr, state_ancestor_iff.mpr ?_⟩
        unfold WarningRow.revoke at hv
        split at hv
        · cases hv.1
        · exact hv
      · rintro ⟨r₀, hr₀, hstate⟩
        rw [hr] at hr₀
        cases hr₀
        have hv := state_ancestor_iff.mp hstate
        have hkept : ¬r.incAbsent.isOrphan u.activeIds = true := by
          intro ho
          have hkind : r.suppressionKind ≠ some .operatorDeclaration := hv.2
          have ho' : (decide (r.suppressionKind = some .operatorDeclaration) &&
            (u.activeIds.isEmpty || r.suppressionDeclarationId.any (· ∉ u.activeIds))) = true := ho
          rw [decide_eq_false hkind] at ho'
          cases ho'
        rw [WarningRow.revoke, if_neg hkept]
        exact hv
    rw [hrevoked]
    constructor
    · exact fun h => ⟨h.1, hk, .inr h.2⟩
    · rintro ⟨hw, -, hmask | hby⟩
      · cases hmask
      · exact ⟨hw, hby⟩

/-- A row masked by the call carries the reason of the rule that masks it. -/
theorem reason_of_masked {db : Db} (h : Updated u db db') (hr' : db'.warningState.get k = some r')
    (hstate : admissibilityState r' = .suppressedByAncestor) (hm : u.masked db k.host k.kind = some reason) :
    r'.suppressionReason = some reason := by
  obtain ⟨hwith, hk, -⟩ := (ancestor_of_update h hr').mp hstate
  rcases h.row_cases hr' with ⟨f, hf, rfl, s, hfin⟩ | ⟨-, r, hr, ⟨reason', hm', hfin⟩ | ⟨hm', -, hfin⟩⟩
  · exact absurd (mem_map_of_mem hf) hk
  · rw [hm] at hm'
    cases hm'
    have hid : r.id = k := Table.key_of_get hr
    rcases finish_marks hfin with ⟨d, hd, hw, -⟩ | ⟨-, hmarks⟩
    · have hw' : d.withdraws k.host = true := hid ▸ hw
      have : u.withdrawn k.host = true := any_eq_true.mpr ⟨d, hd, hw'⟩
      rw [hwith] at this
      cases this
    · rw [revoke_suppress] at hmarks
      exact congrArg Marks.reason hmarks
  · rw [hm] at hm'
    cases hm'

/-- The row is left suppressed by a declaration whose id is in the list while nothing in
    the list withdraws the host. -/
def LeftUnder (u : UpdateCall) (db : Db) (k : FindingId) : Prop :=
  ∃ r, db.warningState.get k = some r ∧ k ∉ u.emittedIds db ∧ u.masked db k.host k.kind = none ∧ r.declaredAway ∧
    r.suppressionDeclarationId.any (· ∈ u.activeIds) = true ∧ u.withdrawn k.host = false

theorem told_of_row {db : Db} (hreach : Reach rfc3339 db) (h : u.run db = .ok db')
    (hr' : db'.warningState.get k = some r') (hleft : ¬LeftUnder u db k) :
    Told u db db' k (buildAdmissibility db'.warningState r') := by
  have hup := run_updated h
  have hid : r'.id = k := Table.key_of_get hr'
  have hwithdrawn : u.withdrawn k.host = true ↔ ∃ d ∈ u.active, d.withdraws k.host = true := any_eq_true
  have hexact := row_exact (reach_rowInv hreach) hup hr' fun r hr hk hm _ hd hids => by
    cases hw : u.withdrawn k.host with
    | true => rfl
    | false => exact absurd ⟨r, hr, hk, hm, hd, hids, hw⟩ hleft
  rw [← hwithdrawn] at hexact
  have hdecl : admissibilityState r' = .suppressedByDeclaration ↔ u.withdrawn k.host = true :=
    state_declared_iff.trans hexact.1
  have hanc := ancestor_of_update hup hr'
  refine ⟨hdecl, ?_, hanc, ?_, ?_⟩
  · intro hw
    have hstate := hdecl.mpr hw
    obtain ⟨d, hd, hwd, hdid⟩ := hexact.2 (hexact.1.mpr hw)
    refine ⟨d, hd, hwd, ?_⟩
    unfold buildAdmissibility Preflight.buildAdmissibility
    dsimp only
    rw [hstate]
    exact hdid
  · show admissibilityState r' = .observable ↔ _
    constructor
    · intro ho
      rw [ho] at hdecl hanc
      have hw : u.withdrawn k.host = false := by
        cases hw : u.withdrawn k.host with
        | false => rfl
        | true => exact absurd (hdecl.mpr hw) (fun h => by cases h)
      refine ⟨hw, ?_⟩
      by_cases hk : k ∈ u.emittedIds db
      · exact .inl hk
      · refine .inr ⟨?_, fun hby => absurd (hanc.mpr ⟨hw, hk, .inr hby⟩) (fun h => by cases h)⟩
        cases hm : u.masked db k.host k.kind with
        | none => rfl
        | some reason => exact absurd (hanc.mpr ⟨hw, hk, .inl (by rw [hm]; rfl)⟩) (fun h => by cases h)
    · rintro ⟨hw, hcase⟩
      cases hstate : admissibilityState r' with
      | observable => rfl
      | suppressedByDeclaration =>
        rw [hdecl.mp hstate] at hw
        cases hw
      | suppressedByAncestor =>
        obtain ⟨-, hk, hcause⟩ := hanc.mp hstate
        rcases hcase with hem | ⟨hm, hby⟩
        · exact absurd hem hk
        · rcases hcause with hmask | hby'
          · rw [hm] at hmask
            cases hmask
          · exact absurd hby' hby
  · intro hstate
    obtain ⟨rule, hrule, hcovers, hreason⟩ := reach_reasoned (.step hreach (.update u h)) k r' hr'
      (state_ancestor_iff.mp hstate).1 (state_ancestor_iff.mp hstate).2
    have hrow : r'.suppressionReason = some rule.suppressionReason := hreason
    have hkey : (buildAdmissibility db'.warningState r').ancestorFindingKey =
        resolveAncestorFindingKey db'.warningState k.host k.kind rule.suppressionReason := by
      have hst : admissibilityState r' = .suppressedByAncestor := hstate
      unfold buildAdmissibility Preflight.buildAdmissibility
      dsimp only
      rw [hst, hrow, ← hid]
      rfl
    refine ⟨rule, hrule, hcovers, fun reason hm => ?_, ?_⟩
    · have := reason_of_masked hup hr' hstate hm
      rw [hrow] at this
      exact Option.some.inj this
    · rw [hkey]
      exact resolve_spec hrule hcovers

/-- Every row is exported when the suppressed ones are asked for, and each export of a row
    says how it stands after the update, whatever the filter. -/
theorem admissibility_after_update {rfc3339 : String → Except String Int} {u : UpdateCall} {db db' : Db}
    (hreach : Reach rfc3339 db) (h : u.run db = .ok db') :
    (∀ r ∈ db'.warningState.rows, ∃ s ∈ exportFindings db' { includeSuppressed := true }, s.identity = r.id) ∧
    ∀ filter, ∀ s ∈ exportFindings db' filter, ¬LeftUnder u db s.identity →
      Told u db db' s.identity s.admissibility := by
  constructor
  · intro r hr
    have hstreak := (reach_rowInv (.step hreach (.update u h)) r.id r (Table.get_of_mem hr)).streak
    exact ⟨_, mem_exportRows.mpr ⟨r, hr, by simp [ExportFilter.selects, hstreak], rfl⟩, rfl⟩
  · intro filter s hs hleft
    obtain ⟨r, hr, -, rfl⟩ := mem_exportRows.mp hs
    exact told_of_row hreach h (Table.get_of_mem hr) hleft

/-- A finding masked by its stale host. -/
theorem a_masked_finding_names_its_host : ∃ db db' s, (staleCall 2).run db = .ok db' ∧
    s ∈ exportFindings db' { includeSuppressed := true } ∧ s.identity = strayFinding.id ∧
    s.admissibility.state = .suppressedByAncestor ∧ Told (staleCall 2) db db' s.identity s.admissibility := by
  have h : ((replay (Db.published 2) [strayCall 1]).toOption.bind fun db =>
    ((staleCall 2).run db).toOption.map fun db' =>
      (decide (strayFinding.id ∈ db'.warningState.rows.map WarningRow.id), (staleCall 2).withdrawn "db-1",
        decide (strayFinding.id ∈ (staleCall 2).emittedIds db), ((staleCall 2).masked db "db-1" "wal_bloat").isSome)) =
      some (true, false, false, true) := by decide +kernel
  obtain ⟨db, hdb, h⟩ := Option.bind_eq_some_iff.mp h
  obtain ⟨db', hrun, hread⟩ := Sql.ok_of_toOption h
  simp only [Prod.mk.injEq, decide_eq_true_eq, decide_eq_false_iff_not] at hread
  obtain ⟨hrow, hw, hk, hm⟩ := hread
  have hreach : Reach (fun _ => .error "") db := reach_replay (.init rfl) (Sql.toOption_eq_some.mp hdb)
  obtain ⟨hall, htold⟩ := admissibility_after_update hreach hrun
  obtain ⟨r, hr, hid⟩ := List.mem_map.mp hrow
  obtain ⟨s, hs, hs'⟩ := hall r hr
  rw [hid] at hs'
  have hleft : ¬LeftUnder (staleCall 2) db s.identity := by
    rintro ⟨_, _, _, hnone, _⟩
    rw [hs'] at hnone
    have hm' : ((staleCall 2).masked db strayFinding.id.host strayFinding.id.kind).isSome = true := hm
    rw [hnone] at hm'
    cases hm'
  have ht := htold _ s hs hleft
  refine ⟨db, db', s, hrun, hs, hs', ht.ancestor.mpr ?_, ht⟩
  rw [hs']
  exact ⟨hw, hk, .inl hm⟩

/-- The stale host has recovered and its row is gone; nothing masks the finding, which still
    names an ancestor's loss, and no ancestor. -/
theorem a_cleared_parent_leaves_its_child_suppressed : ∃ db db' s, Reach (fun _ => .error "") db ∧
    (quietCall 6).run db = .ok db' ∧ s ∈ exportFindings db' { includeSuppressed := true } ∧
    s.admissibility.state = .suppressedByAncestor ∧ s.admissibility.ancestorFindingKey = none ∧
    (quietCall 6).masked db s.identity.host s.identity.kind = none ∧
      ∀ r ∈ db'.warningState.rows, r.id = s.identity := by
  have h : ((replay (Db.published 6) maskedThenAbsent).toOption.bind fun db =>
    ((quietCall 6).run db).toOption.map fun db' =>
      ((db'.warningState.get strayFinding.id).map (buildAdmissibility db'.warningState),
        (quietCall 6).masked db "db-1" "wal_bloat", db'.warningState.rows.map WarningRow.id)) =
      some (some ⟨.suppressedByAncestor, .testimonyDependency, none, none⟩, none, [strayFinding.id]) :=
        by decide +kernel
  obtain ⟨db, hdb, h⟩ := Option.bind_eq_some_iff.mp h
  obtain ⟨db', hrun, hread⟩ := Sql.ok_of_toOption h
  simp only [Prod.mk.injEq] at hread
  obtain ⟨hget, hm, hids⟩ := hread
  obtain ⟨r, hr, ha⟩ := Option.map_eq_some_iff.mp hget
  have hreach : Reach (fun _ => .error "") db := reach_replay (.init rfl) (Sql.toOption_eq_some.mp hdb)
  have hrow := Table.mem_of_get hr
  have hid : r.id = strayFinding.id := Table.key_of_get hr
  have hstreak := (reach_rowInv (.step hreach (.update _ hrun)) _ r hr).streak
  refine ⟨db, db', snapshot db'.warningState (generationContext db') { includeSuppressed := true } r, hreach, hrun,
    mem_exportRows.mpr ⟨r, hrow, by simp [ExportFilter.selects, hstreak], rfl⟩, congrArg AdmissibilityExport.state ha,
    congrArg AdmissibilityExport.ancestorFindingKey ha, ?_, ?_⟩
  · show (quietCall 6).masked db r.id.host r.id.kind = none
    rw [hid]
    exact hm
  · intro r' hr'
    have hmem : r'.id ∈ db'.warningState.rows.map WarningRow.id := mem_map_of_mem hr'
    rw [hids, mem_singleton] at hmem
    rw [hmem]
    exact hid.symm

end Nq.Export
