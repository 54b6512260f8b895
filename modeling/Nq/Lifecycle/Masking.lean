/-
  Nq.Lifecycle.Masking — rows that were not emitted (`publish.rs`, `MASKING_RULES` and
  the recovery loop of `update_warning_state_inner`).

  An observed parent row says that its host, or one witness on it, can no longer be
  seen. A row that was not emitted is then suppressed with its state kept; without a
  parent it ages, and goes at the third absence in a row.

  - `maskingReason_buildMasking`: the first rule, in `MASKING_RULES` order, that covers
    the kind and has an observed parent on the host gives the reason;
  - `get_recoverAbsent`: the loop acts on each row by itself (`recovered`).
-/

import Nq.Lifecycle.Upsert

namespace Nq

open Sql (Table)

/-! ## The rules -/

structure MaskingRule where
  parentKind : String
  suppressionReason : SuppressionReason
  childKindPrefix : Option String
  deriving DecidableEq, Repr

def maskingRules : List MaskingRule :=
  [⟨"stale_host", .hostUnreachable, none⟩,
   ⟨"source_error", .sourceUnreachable, none⟩,
   ⟨"smart_witness_silent", .witnessUnobservable, some "smart_"⟩,
   ⟨"zfs_witness_silent", .witnessUnobservable, some "zfs_"⟩]

def startsWith (s p : String) : Bool := p.toList.isPrefixOf s.toList

def MaskingRule.covers (rule : MaskingRule) (kind : String) : Bool :=
  match rule.childKindPrefix with
  | none => true
  | some p => startsWith kind p

def isParentKind (kind : String) : Bool := maskingRules.any (·.parentKind = kind)

/-! ## The masking map -/

def WarningRow.isParent (rule : MaskingRule) (r : WarningRow) : Bool :=
  r.kind = rule.parentKind ∧ r.visibilityState = .observed

/-- The map from hosts to their active rules, as its pushes in order. -/
abbrev Masking := List (String × MaskingRule)

def buildMasking (t : WarningState) : Masking :=
  maskingRules.flatMap fun rule => (t.rows.filter (·.isParent rule)).map fun r => (r.host, rule)

def Masking.rulesOn (m : Masking) (host : String) : List MaskingRule := (m.filter (·.1 = host)).map (·.2)

/-- Why a row that was not emitted is masked, if it is. A parent kind never is. -/
def maskingReason (m : Masking) (host kind : String) : Option SuppressionReason :=
  if host ≠ "" ∧ ¬ isParentKind kind then
    ((m.rulesOn host).find? (·.covers kind)).map MaskingRule.suppressionReason
  else none

/-- A row of the rule's parent kind is observed on the host. -/
def WarningState.hasParent (t : WarningState) (host : String) (rule : MaskingRule) : Bool :=
  t.rows.any fun r => r.host = host ∧ r.isParent rule

/-- The pushes of one rule: as many copies of it as it has parents on the host. -/
theorem find_rulesOn_pushes (rows : List WarningRow) (rule : MaskingRule) (host : String) (p : MaskingRule → Bool) :
    (Masking.rulesOn ((rows.filter (·.isParent rule)).map fun r => (r.host, rule)) host).find? p =
      if p rule && rows.any (fun r => r.host = host ∧ r.isParent rule) then some rule else none := by
  induction rows with
  | nil => simp [Masking.rulesOn]
  | cons r rows ih =>
    unfold Masking.rulesOn at ih ⊢
    by_cases hr : r.isParent rule = true
    · by_cases hh : r.host = host
      · by_cases hp : p rule = true
        · simp [hr, hh, hp]
        · simp [hr, hh, hp]
      · simpa [hr, hh] using ih
    · simpa [hr] using ih

variable (t : WarningState) (active : List FindingId) (m : Masking)

theorem find_rulesOn (host : String) (p : MaskingRule → Bool) (rules : List MaskingRule) :
    (Masking.rulesOn (rules.flatMap fun rule => (t.rows.filter (·.isParent rule)).map fun r =>
      (r.host, rule)) host).find? p =
      rules.find? fun rule => p rule && t.hasParent host rule := by
  induction rules with
  | nil => rfl
  | cons rule rules ih =>
    have hsplit : ∀ m m' : Masking, Masking.rulesOn (m ++ m') host = m.rulesOn host ++ m'.rulesOn host := by
      intro m m'; simp [Masking.rulesOn]
    have hpush := find_rulesOn_pushes t.rows rule host p
    change _ = if p rule && t.hasParent host rule then some rule else none at hpush
    rw [List.flatMap_cons, hsplit, List.find?_append, hpush, ih, List.find?_cons]
    cases p rule && t.hasParent host rule <;> rfl

theorem maskingReason_buildMasking (host kind : String) :
    maskingReason (buildMasking t) host kind =
      if host ≠ "" ∧ ¬ isParentKind kind then
        (maskingRules.find? fun rule => rule.covers kind && t.hasParent host rule).map MaskingRule.suppressionReason
      else none := by
  unfold maskingReason buildMasking
  rw [find_rulesOn]

/-! ## Recovery -/

def recoveryWindow : Int := 3

def WarningRow.suppress (reason : SuppressionReason) (generationId : Int) (r : WarningRow) : WarningRow :=
  { r with
    visibilityState := .suppressed
    suppressionKind := some .ancestorLoss
    suppressionReason := some reason
    suppressedSinceGen := some (r.suppressedSinceGen.getD generationId) }

def WarningRow.incAbsent (r : WarningRow) : WarningRow :=
  { r with absentGens := r.absentGens + 1, stability := some .recovering }

theorem id_suppress (reason : SuppressionReason) (g : Int) (r : WarningRow) : (r.suppress reason g).id = r.id := rfl
theorem id_incAbsent (r : WarningRow) : r.incAbsent.id = r.id := rfl

/-- One turn of the loop, for the row `e` of the snapshot. -/
def recoverRow (active : List FindingId) (m : Masking) (generationId : Int) (t : WarningState) (e : WarningRow) :
    WarningState :=
  if e.id ∈ active then t
  else match maskingReason m e.host e.kind with
    | some reason => t.updateKey e.id (·.suppress reason generationId) (id_suppress reason generationId)
    | none =>
      if e.absentGens + 1 ≥ recoveryWindow then t.deleteKey e.id
      else t.updateKey e.id WarningRow.incAbsent id_incAbsent

def recoverAbsent (active : List FindingId) (m : Masking) (generationId : Int) (t : WarningState) : WarningState :=
  t.rows.foldl (recoverRow active m generationId) t

/-- What the loop makes of one row. -/
def recovered (active : List FindingId) (m : Masking) (generationId : Int) (r : WarningRow) : Option WarningRow :=
  if r.id ∈ active then some r
  else match maskingReason m r.host r.kind with
    | some reason => some (r.suppress reason generationId)
    | none => if r.absentGens + 1 ≥ recoveryWindow then none else some r.incAbsent

/-- What the turn of `e` makes of what stands under its key. -/
def recoverEffect (active : List FindingId) (m : Masking) (generationId : Int) (e : WarningRow)
    (old : Option WarningRow) :
    Option WarningRow :=
  if e.id ∈ active then old
  else match maskingReason m e.host e.kind with
    | some reason => old.map (·.suppress reason generationId)
    | none => if e.absentGens + 1 ≥ recoveryWindow then none else old.map WarningRow.incAbsent

theorem get_recoverRow (g : Int) (t : WarningState) (e : WarningRow) (k : FindingId) :
    (recoverRow active m g t e).get k =
      if k = e.id then recoverEffect active m g e (t.get k) else t.get k := by
  unfold recoverRow recoverEffect
  by_cases ha : e.id ∈ active
  · simp [ha]
  · rw [if_neg ha, if_neg ha]
    cases maskingReason m e.host e.kind with
    | some reason => simp only [Table.get_updateKey]
    | none =>
      by_cases hd : e.absentGens + 1 ≥ recoveryWindow
      · simp only [hd, if_true, Table.get_deleteKey]
      · simp only [hd, if_false, Table.get_updateKey]

theorem get_recoverAbsent (g : Int) (t : WarningState) (k : FindingId) :
    (recoverAbsent active m g t).get k = (t.get k).bind (recovered active m g) := by
  have h := Table.get_foldl_keyed WarningRow.id (recoverRow active m g) (recoverEffect active m g)
    (get_recoverRow active m g) k t.rows t t.nodup
  refine h.trans ?_
  show (t.get k).elim (t.get k) (fun e => recoverEffect active m g e (t.get k)) = _
  cases t.get k with
  | none => rfl
  | some r =>
    simp only [Option.elim_some, Option.bind_some, recoverEffect, recovered, Option.map_some]

end Nq
