/-
  Nq.Lifecycle.Maintenance — declared maintenance windows and the rows they cover
  (`publish.rs`, `apply_maintenance_overlay`; `cmd/maintenance.rs`).

  The overlay compares the texts of the stamps, and a declaration stores each stamp with the
  offset it was given in. So a row shows what its declarations say as instants exactly when the
  texts pick the same declaration for it (`maintenance_iff`), as they do where all stamps are in
  UTC and no fraction is another cut short (`alike_of_utc`).

  - `a_window_ending_in_another_offset_is_overrun`.
-/

import Mathlib.Data.List.MinMax
import Mathlib.Data.Prod.Lex
import Nq.LeasePresence.Leases
import Nq.Lifecycle.Run
import Nq.Text.Rfc3339

namespace Nq

open List hiding le_antisymm not_lt
open Sql (Table)
open Text (Zoned)

/-! ## Declaring -/

/-- What the command asks of `time`. -/
structure TimeCrate where
  /-- `OffsetDateTime::parse(_, &Rfc3339)` -/
  parse : String → Option Zoned
  /-- `now + dur`, in nanoseconds, where the result has a text. -/
  add : Zoned → Int → Option Zoned

structure MaintenanceDeclareCmd where
  host : String
  kind : String
  subject : Option String
  start : String
  end_ : String
  deriving DecidableEq, Repr

inductive DeclareError where
  | emptyDuration
  | badDurationNumber (numStr : String)
  | unknownDurationUnit (unit : Char)
  /-- `now + dur` has no text. -/
  | outOfRange
  | badTime (input : String)
  | pastDated
  | endNotAfterStart
  /-- The identifier is taken. -/
  | insert
  deriving DecidableEq, Repr

def secondsOfUnit : Char → Option Int
  | 's' => some 1
  | 'm' => some 60
  | 'h' => some 3600
  | 'd' => some 86400
  | _ => none

/-- A duration in seconds. -/
def parseDuration (s : List Char) : Except DeclareError Int :=
  match s.getLast? with
  | none => .error .emptyDuration
  | some unit =>
    match LeasePresence.parseI64 s.dropLast with
    | none => .error (.badDurationNumber (String.ofList s.dropLast))
    | some n =>
      match secondsOfUnit unit with
      | none => .error (.unknownDurationUnit unit)
      | some perUnit => .ok (n * perUnit)

section

variable (crate : TimeCrate)

def parseTime (input : String) (now : Zoned) : Except DeclareError Zoned :=
  if input = "now" then .ok now
  else if "now+".toList <+: input.toList then do
    let seconds ← parseDuration (input.toList.drop 4)
    match crate.add now (seconds * 1000000000) with
    | some t => .ok t
    | none => .error .outOfRange
  else
    match crate.parse input with
    | some t => .ok t
    | none => .error (.badTime input)

def declaredRow (cmd : MaintenanceDeclareCmd) (id : String) (now start end_ : Zoned) : MaintenanceDeclaration where
  maintenanceId := id
  declaredAt := now.text
  startAt := start.text
  endAt := end_.text
  host := cmd.host
  kind := cmd.kind
  subject := cmd.subject

def declare (t : Table MaintenanceDeclaration.maintenanceId) (cmd : MaintenanceDeclareCmd) (id : String) (now : Zoned) :
    Except DeclareError (Table MaintenanceDeclaration.maintenanceId) := do
  let start ← parseTime crate cmd.start now
  let end_ ← parseTime crate cmd.end_ now
  if start.instant < now.instant - 1000000000 then .error .pastDated
  else if end_.instant ≤ start.instant then .error .endNotAfterStart
  else
    match t.insert? (declaredRow cmd id now start end_) with
    | some t' => .ok t'
    | none => .error .insert

/-- A declaration the command accepted, with its stamps. -/
structure Accepted where
  cmd : MaintenanceDeclareCmd
  id : String
  now : Zoned
  start : Zoned
  end_ : Zoned
  parse_start : parseTime crate cmd.start now = .ok start
  parse_end : parseTime crate cmd.end_ now = .ok end_
  notPast : now.instant - 1000000000 ≤ start.instant
  ordered : start.instant < end_.instant

end

variable {crate : TimeCrate}

def Accepted.row (a : Accepted crate) : MaintenanceDeclaration := declaredRow a.cmd a.id a.now a.start a.end_

/-- The declaration is about the finding. -/
def Accepted.concerns (a : Accepted crate) (k : FindingId) : Bool :=
  a.cmd.host = k.host && a.cmd.kind = k.kind && a.cmd.subject.all (· = k.subject)

variable {t : Table MaintenanceDeclaration.maintenanceId} (g : Int)

theorem declare_eq_ok {t' : Table MaintenanceDeclaration.maintenanceId} {cmd : MaintenanceDeclareCmd} {id : String}
    {now : Zoned} :
    declare crate t cmd id now = .ok t' ↔ ∃ a : Accepted crate, a.cmd = cmd ∧
      a.id = id ∧ a.now = now ∧ t.insert? a.row = some t' := by
  unfold declare
  constructor
  · intro h
    obtain ⟨start, hstart, h⟩ := Sql.bind_ok.mp h
    obtain ⟨end_, hend, h⟩ := Sql.bind_ok.mp h
    split at h
    · cases h
    · split at h
      · cases h
      · rename_i hpast hordered
        refine ⟨⟨cmd, id, now, start, end_, hstart, hend, by omega, by omega⟩, rfl, rfl, rfl, ?_⟩
        split at h
        · rename_i hinsert
          cases h
          exact hinsert
        · cases h
  · rintro ⟨a, rfl, rfl, rfl, hinsert⟩
    have hpast := a.notPast
    have hordered := a.ordered
    unfold Accepted.row at hinsert
    rw [a.parse_start, a.parse_end]
    refine (if_neg (by omega)).trans ((if_neg (by omega)).trans ?_)
    rw [hinsert]

/-- The tables of declarations the command leaves, run after run. -/
inductive Declared : List (Accepted crate) → Table MaintenanceDeclaration.maintenanceId → Prop
  | init : Declared [] .empty
  | declare {log : List (Accepted crate)} {t t' : Table MaintenanceDeclaration.maintenanceId} (a : Accepted crate)
      (hd : Declared log t) (h : declare crate t a.cmd a.id a.now = .ok t') : Declared (log ++ [a]) t'

theorem Declared.rows {log : List (Accepted crate)} (h : Declared log t) : t.rows = log.map Accepted.row := by
  induction h with
  | init => rfl
  | @declare log t t' a hd h ih =>
    obtain ⟨b, hcmd, hid, hnow, hinsert⟩ := declare_eq_ok.mp h
    have hstart : a.start = b.start :=
      Except.ok.inj (a.parse_start.symm.trans (by rw [← hcmd, ← hnow]; exact b.parse_start))
    have hend : a.end_ = b.end_ := Except.ok.inj (a.parse_end.symm.trans (by rw [← hcmd, ← hnow]; exact b.parse_end))
    have hrow : b.row = a.row := by
      unfold Accepted.row
      rw [hcmd, hid, hnow, hstart, hend]
    rw [Table.rows_insert? hinsert, ih, hrow, map_append]
    rfl

theorem Declared.id_inj {log : List (Accepted crate)} (h : Declared log t) {a b : Accepted crate} (ha : a ∈ log)
    (hb : b ∈ log) (he : a.id = b.id) : a = b := by
  have hnodup := t.nodup
  rw [h.rows, map_map] at hnodup
  exact inj_on_of_nodup_map hnodup ha hb he

/-! ## Readings of a declaration -/

/-- What a declaration's stamps are compared by. -/
structure Reading (δ β : Type) where
  id : δ → String
  declared : δ → β
  starts : δ → β
  ends : δ → β
  now : β

namespace Reading

section

variable {δ β : Type} [LinearOrder β] (v : Reading δ β) (log : List δ)

def InForce (d : δ) : Prop := v.starts d ≤ v.now ∧ v.now ≤ v.ends d

def Past (d : δ) : Prop := v.ends d < v.now

instance (d : δ) : Decidable (v.InForce d) := inferInstanceAs (Decidable (_ ∧ _))

instance (d : δ) : Decidable (v.Past d) := inferInstanceAs (Decidable (_ < _))

def declaredKey (d : δ) : Lex (β × String) := toLex (v.declared d, v.id d)

def endedKey (d : δ) : Lex (β × Lex (β × String)) := toLex (v.ends d, v.declaredKey d)

/-- The last declared of the declarations in force. -/
def Covers (d : δ) : Prop := d ∈ log ∧ v.InForce d ∧ ∀ e ∈ log, v.InForce e → v.declaredKey e ≤ v.declaredKey d

/-- The last to end of the declarations that are over, none being in force. -/
def Overruns (d : δ) : Prop :=
  (∀ e ∈ log, ¬v.InForce e) ∧ d ∈ log ∧ v.Past d ∧ ∀ e ∈ log, v.Past e → v.endedKey e ≤ v.endedKey d

def Clear : Prop := ∀ e ∈ log, ¬v.InForce e ∧ ¬v.Past e

/-- A row shows what the declarations about it say. -/
structure Annotates (r : WarningRow) : Prop where
  covered : r.maintenanceState = .covered ↔ ∃ d ∈ log, v.InForce d
  overrun : r.maintenanceState = .overrun ↔ (∀ d ∈ log, ¬v.InForce d) ∧ ∃ d ∈ log, v.Past d
  clear : v.Clear log → r.maintenanceState = .none_ ∧ r.maintenanceId = none
  lastDeclared : ∀ d, v.Covers log d → r.maintenanceId = some (v.id d)
  lastEnded : ∀ d, v.Overruns log d → r.maintenanceId = some (v.id d)

/-- Every reading picks a declaration, or is clear. -/
theorem cases : (∃ d, v.Covers log d) ∨ (∃ d, v.Overruns log d) ∨ v.Clear log := by
  have hgreatest : ∀ (p : δ → Prop) [DecidablePred p] {γ : Type} [LinearOrder γ] (key : δ → γ), (∃ d ∈ log, p d) →
      ∃ d ∈ log, p d ∧ ∀ e ∈ log, p e → key e ≤ key d := by
    intro p _ γ _ key hsome
    obtain ⟨d, hd, hpd⟩ := hsome
    have hmem : d ∈ log.filter (p ·) := mem_filter.mpr ⟨hd, by simpa using hpd⟩
    cases hmax : (log.filter (p ·)).argmax key with
    | none =>
      rw [argmax_eq_none.mp hmax] at hmem
      exact absurd hmem not_mem_nil
    | some m =>
      obtain ⟨hm, hpm⟩ := mem_filter.mp (argmax_mem hmax)
      exact ⟨m, hm, by simpa using hpm, fun e he hpe => le_of_mem_argmax (mem_filter.mpr ⟨he, by simpa using hpe⟩) hmax⟩
  by_cases hforce : ∃ d ∈ log, v.InForce d
  · obtain ⟨d, hd⟩ := hgreatest v.InForce v.declaredKey hforce
    exact .inl ⟨d, hd⟩
  · have hnone : ∀ e ∈ log, ¬v.InForce e := fun e he hin => hforce ⟨e, he, hin⟩
    by_cases hpast : ∃ d ∈ log, v.Past d
    · obtain ⟨d, hd⟩ := hgreatest v.Past v.endedKey hpast
      exact .inr (.inl ⟨d, hnone, hd⟩)
    · exact .inr (.inr fun e he => ⟨hnone e he, fun hp => hpast ⟨e, he, hp⟩⟩)

variable {v log} {d : δ}

theorem Annotates.of_covers {r : WarningRow} (hinj : ∀ d ∈ log, ∀ e ∈ log, v.id d = v.id e → d = e)
    (hd : v.Covers log d) : v.Annotates log r ↔ r.maintenanceState = .covered ∧ r.maintenanceId = some (v.id d) := by
  have hunique : ∀ e, v.Covers log e → e = d := by
    intro e he
    have hsame : v.declaredKey e = v.declaredKey d := le_antisymm (hd.2.2 e he.1 he.2.1) (he.2.2 d hd.1 hd.2.1)
    exact hinj e he.1 d hd.1 (congrArg (fun key => (ofLex key).2) hsame)
  constructor
  · intro h
    exact ⟨h.covered.mpr ⟨d, hd.1, hd.2.1⟩, h.lastDeclared d hd⟩
  · rintro ⟨hstate, hid⟩
    refine ⟨⟨fun _ => ⟨d, hd.1, hd.2.1⟩, fun _ => hstate⟩, ⟨fun h => ?_, fun h => absurd hd.2.1 (h.1 d hd.1)⟩,
      fun h => ?_, fun e he => ?_, fun e he => ?_⟩
    · rw [hstate] at h
      cases h
    · exact absurd hd.2.1 (h d hd.1).1
    · rw [hid, hunique e he]
    · exact absurd hd.2.1 (he.1 d hd.1)

theorem Annotates.of_overruns {r : WarningRow} (hinj : ∀ d ∈ log, ∀ e ∈ log, v.id d = v.id e → d = e)
    (hd : v.Overruns log d) : v.Annotates log r ↔ r.maintenanceState = .overrun ∧ r.maintenanceId = some (v.id d) := by
  obtain ⟨hnone, hmem, hpast, hlast⟩ := hd
  have hunique : ∀ e, v.Overruns log e → e = d := by
    intro e he
    have hsame : v.endedKey e = v.endedKey d := le_antisymm (hlast e he.2.1 he.2.2.1) (he.2.2.2 d hmem hpast)
    exact hinj e he.2.1 d hmem (congrArg (fun key => (ofLex (ofLex key).2).2) hsame)
  constructor
  · intro h
    exact ⟨h.overrun.mpr ⟨hnone, d, hmem, hpast⟩, h.lastEnded d ⟨hnone, hmem, hpast, hlast⟩⟩
  · rintro ⟨hstate, hid⟩
    refine ⟨⟨fun h => ?_, fun ⟨e, he, hin⟩ => absurd hin (hnone e he)⟩,
      ⟨fun _ => ⟨hnone, d, hmem, hpast⟩, fun _ => hstate⟩, fun h => ?_, fun e he => ?_, fun e he => ?_⟩
    · rw [hstate] at h
      cases h
    · exact absurd hpast (h d hmem).2
    · exact absurd he.2.1 (hnone e he.1)
    · rw [hid, hunique e he]

theorem Annotates.of_clear {r : WarningRow} (h : v.Clear log) :
    v.Annotates log r ↔ r.maintenanceState = .none_ ∧ r.maintenanceId = none := by
  constructor
  · intro ha
    exact ha.clear h
  · rintro ⟨hstate, hid⟩
    refine ⟨⟨fun hs => ?_, fun ⟨e, he, hin⟩ => absurd hin (h e he).1⟩,
      ⟨fun hs => ?_, fun ⟨_, e, he, hp⟩ => absurd hp (h e he).2⟩,
      fun _ => ⟨hstate, hid⟩, fun e he => absurd he.2.1 (h e he.1).1, fun e he => absurd he.2.2.1 (h e he.2.1).2⟩
    · rw [hstate] at hs
      cases hs
    · rw [hstate] at hs
      cases hs

end

/-! ## Two readings -/

section

variable {δ β γ : Type} [LinearOrder β] [LinearOrder γ] (v : Reading δ β) (w : Reading δ γ) (log : List δ)

/-- Both readings pick one declaration in force, or none being in force in either one that is over, or none in either.
    -/
def PicksAs : Prop :=
  (∃ d, v.Covers log d ∧ w.Covers log d) ∨ (∃ d, v.Overruns log d ∧ w.Overruns log d) ∨ v.Clear log ∧ w.Clear log

variable {v w log}

theorem annotates_iff (hid : v.id = w.id) (hinj : ∀ d ∈ log, ∀ e ∈ log, v.id d = v.id e → d = e) {r : WarningRow}
    (h : v.Annotates log r) : w.Annotates log r ↔ v.PicksAs w log := by
  have hinj' : ∀ d ∈ log, ∀ e ∈ log, w.id d = w.id e → d = e := hid ▸ hinj
  constructor
  · intro h'
    rcases cases v log with ⟨d, hd⟩ | ⟨d, hd⟩ | hclear
    · obtain ⟨hstate, hrow⟩ := (Annotates.of_covers hinj hd).mp h
      rcases cases w log with ⟨e, he⟩ | ⟨e, he⟩ | hclear
      · obtain ⟨_, hrow'⟩ := (Annotates.of_covers hinj' he).mp h'
        have hsame : d = e := hinj d hd.1 e he.1 (by rw [hid] at hrow ⊢; exact Option.some.inj (hrow.symm.trans hrow'))
        exact .inl ⟨d, hd, hsame ▸ he⟩
      · have hstate' := ((Annotates.of_overruns hinj' he).mp h').1
        rw [hstate] at hstate'
        cases hstate'
      · have hstate' := ((Annotates.of_clear hclear).mp h').1
        rw [hstate] at hstate'
        cases hstate'
    · obtain ⟨hstate, hrow⟩ := (Annotates.of_overruns hinj hd).mp h
      rcases cases w log with ⟨e, he⟩ | ⟨e, he⟩ | hclear
      · have hstate' := ((Annotates.of_covers hinj' he).mp h').1
        rw [hstate] at hstate'
        cases hstate'
      · obtain ⟨_, hrow'⟩ := (Annotates.of_overruns hinj' he).mp h'
        have hsame : d = e :=
          hinj d hd.2.1 e he.2.1 (by rw [hid] at hrow ⊢; exact Option.some.inj (hrow.symm.trans hrow'))
        exact .inr (.inl ⟨d, hd, hsame ▸ he⟩)
      · have hstate' := ((Annotates.of_clear hclear).mp h').1
        rw [hstate] at hstate'
        cases hstate'
    · have hstate := ((Annotates.of_clear hclear).mp h).1
      refine .inr (.inr ⟨hclear, fun e he => ⟨fun hin => ?_, fun hp => ?_⟩⟩)
      · have hstate' := h'.covered.mpr ⟨e, he, hin⟩
        rw [hstate] at hstate'
        cases hstate'
      · by_cases hforce : ∃ d ∈ log, w.InForce d
        · have hstate' := h'.covered.mpr hforce
          rw [hstate] at hstate'
          cases hstate'
        · have hstate' := h'.overrun.mpr ⟨fun d hd hin => hforce ⟨d, hd, hin⟩, e, he, hp⟩
          rw [hstate] at hstate'
          cases hstate'
  · rintro (⟨d, hd, hd'⟩ | ⟨d, hd, hd'⟩ | ⟨hclear, hclear'⟩)
    · rw [Annotates.of_covers hinj' hd', ← hid]
      exact (Annotates.of_covers hinj hd).mp h
    · rw [Annotates.of_overruns hinj' hd', ← hid]
      exact (Annotates.of_overruns hinj hd).mp h
    · exact (Annotates.of_clear hclear').mpr ((Annotates.of_clear hclear).mp h)

theorem eq_congr {a b : β} {a' b' : γ} (h : a < b ↔ a' < b') (h' : b < a ↔ b' < a') : a = b ↔ a' = b' := by
  rw [eq_iff_le_not_lt, eq_iff_le_not_lt, ← not_lt, ← not_lt, h, h']

/-- The two readings compare the stamps of the declarations alike. -/
structure SortsAs (v : Reading δ β) (w : Reading δ γ) (log : List δ) : Prop where
  id : v.id = w.id
  starts : ∀ d ∈ log, v.now < v.starts d ↔ w.now < w.starts d
  ends : ∀ d ∈ log, v.ends d < v.now ↔ w.ends d < w.now
  declared : ∀ d ∈ log, ∀ e ∈ log, v.declared d < v.declared e ↔ w.declared d < w.declared e
  ended : ∀ d ∈ log, ∀ e ∈ log, v.ends d < v.ends e ↔ w.ends d < w.ends e

theorem SortsAs.picksAs (h : v.SortsAs w log) : v.PicksAs w log := by
  have hforce : ∀ d ∈ log, (v.InForce d ↔ w.InForce d) := by
    intro d hd
    unfold InForce
    rw [← not_lt, ← not_lt, h.starts d hd, h.ends d hd, not_lt, not_lt]
  have hpast : ∀ d ∈ log, (v.Past d ↔ w.Past d) := h.ends
  have hdeclared : ∀ d ∈ log, ∀ e ∈ log, (v.declaredKey d ≤ v.declaredKey e ↔ w.declaredKey d ≤ w.declaredKey e) := by
    intro d hd e he
    unfold declaredKey
    rw [Prod.Lex.toLex_le_toLex, Prod.Lex.toLex_le_toLex, h.id]
    exact or_congr (h.declared d hd e he) (and_congr (eq_congr (h.declared d hd e he) (h.declared e he d hd)) Iff.rfl)
  have hended : ∀ d ∈ log, ∀ e ∈ log, (v.endedKey d ≤ v.endedKey e ↔ w.endedKey d ≤ w.endedKey e) := by
    intro d hd e he
    unfold endedKey
    rw [Prod.Lex.toLex_le_toLex, Prod.Lex.toLex_le_toLex]
    exact or_congr (h.ended d hd e he)
      (and_congr (eq_congr (h.ended d hd e he) (h.ended e he d hd)) (hdeclared d hd e he))
  rcases cases v log with ⟨d, hmem, hin, hlast⟩ | ⟨d, hnone, hmem, hover, hlast⟩ | hclear
  · refine .inl ⟨d, ⟨hmem, hin, hlast⟩, hmem, (hforce d hmem).mp hin, fun e he hin' => ?_⟩
    exact (hdeclared e he d hmem).mp (hlast e he ((hforce e he).mpr hin'))
  · refine .inr (.inl ⟨d, ⟨hnone, hmem, hover, hlast⟩, fun e he hin => hnone e he ((hforce e he).mpr hin), hmem,
      (hpast d hmem).mp hover, fun e he hover' => ?_⟩)
    exact (hended e he d hmem).mp (hlast e he ((hpast e he).mpr hover'))
  · refine .inr (.inr ⟨hclear, fun e he => ⟨fun hin => ?_, fun hover => ?_⟩⟩)
    · exact (hclear e he).1 ((hforce e he).mpr hin)
    · exact (hclear e he).2 ((hpast e he).mpr hover)

end

end Reading

/-! ## The annotation of a row -/

def WarningRow.notice (r : WarningRow) : MaintenanceState × Option String := (r.maintenanceState, r.maintenanceId)

/-- A row without a state names no declaration. -/
def WarningRow.Annotated (r : WarningRow) : Prop := r.maintenanceState = .none_ → r.maintenanceId = none

theorem WarningRow.Annotated.congr {r r' : WarningRow} (h : r.Annotated)
    (he : r'.notice = r.notice) : r'.Annotated := by
  intro hstate
  exact (congrArg Prod.snd he).trans (h ((congrArg Prod.fst he).symm.trans hstate))

@[simp] theorem notice_expireWork (now : String) (r : WarningRow) : (r.expireWork now).notice = r.notice := by
  unfold WarningRow.expireWork; split <;> rfl
@[simp] theorem notice_countGone (known : List String) (r : WarningRow) : (r.countGone known).notice = r.notice := by
  unfold WarningRow.countGone; split <;> rfl
@[simp] theorem notice_resetGone (present : List String)
    (r : WarningRow) : (r.resetGone present).notice = r.notice := by
  unfold WarningRow.resetGone; split <;> rfl
@[simp] theorem notice_revoke (ids : List String) (r : WarningRow) : (r.revoke ids).notice = r.notice := by
  unfold WarningRow.revoke; split <;> rfl
@[simp] theorem notice_withdraw (d : Declaration) (r : WarningRow) : (r.withdraw g d).notice = r.notice := by
  unfold WarningRow.withdraw; split <;> rfl

theorem notice_overlaid (active : List Declaration) (r : WarningRow) : (overlaid g active r).notice = r.notice := by
  have hloop : ∀ (ds : List Declaration) (r : WarningRow), (ds.foldl (WarningRow.declared g) r).notice = r.notice := by
    intro ds
    induction ds with
    | nil => intro r; rfl
    | cons d ds ih =>
      intro r
      rw [foldl_cons, ih]
      unfold WarningRow.declared
      split <;> simp
  exact (hloop active _).trans (notice_revoke _ r)

theorem annotated_emittedRow {c : Cycle} {prev : Option WarningRow} {f : Finding}
    (h : ∀ r, prev = some r → r.Annotated) :
    (emittedRow c prev f).Annotated := by
  cases prev with
  | none => exact fun _ => rfl
  | some r => exact h r rfl

theorem annotated_maintain {decls : List MaintenanceDeclaration} {now : String} {r : WarningRow} (h : r.Annotated) :
    (r.maintain decls now).Annotated := by
  unfold WarningRow.maintain
  split
  · exact fun hstate => nomatch hstate
  · split
    · exact fun hstate => nomatch hstate
    · split
      · exact fun _ => rfl
      · exact h

section

variable {u : UpdateCall} {db db' : Db} {r' : WarningRow}

/-- What the maintenance overlay is handed under a key. -/
theorem finish_maintain {r : WarningRow} (h : u.finish db r = some r') (hr : r.Annotated) :
    ∃ r₀ : WarningRow, r₀.id = r.id ∧ r₀.Annotated ∧
      r' = r₀.maintain db.maintenanceDeclarations.rows u.clock.maintenance := by
  have hid : r'.core.id = r.core.id := congrArg WarningRow.id (finish_core h)
  obtain ⟨_, rfl⟩ := finish_eq_some h
  refine ⟨_, (id_maintain _ _ _).symm.trans hid, hr.congr ?_, rfl⟩
  rw [notice_overlaid, notice_resetGone, notice_countGone, notice_expireWork]

/-- The row of an update under a key is one the overlay was handed. -/
theorem Updated.maintained (h : Updated u db db') (hdb : ∀ k r, db.warningState.get k = some r → r.Annotated)
    {k : FindingId} (hr' : db'.warningState.get k = some r') :
    ∃ r₀ : WarningRow, r₀.id = k ∧ r₀.Annotated ∧
      r' = r₀.maintain db.maintenanceDeclarations.rows u.clock.maintenance := by
  have hfinish : ∀ r : WarningRow, r.id = k → r.Annotated → u.finish db r = some r' →
      ∃ r₀ : WarningRow, r₀.id = k ∧ r₀.Annotated ∧
        r' = r₀.maintain db.maintenanceDeclarations.rows u.clock.maintenance := by
    intro r hid hr hfin
    obtain ⟨r₀, hid₀, hr₀⟩ := finish_maintain hfin hr
    exact ⟨r₀, hid₀.trans hid, hr₀⟩
  rcases h.row_cases hr' with ⟨f, _, hid, s, hfin⟩ | ⟨_, r, hr, ⟨reason, _, hfin⟩ | ⟨_, _, hfin⟩⟩
  · subst hid
    have hrow : (emittedRow (u.cycle db) (db.warningState.get f.id) f).Annotated := annotated_emittedRow (hdb f.id)
    exact hfinish _ ((id_setStability s _).trans id_emittedRow) (hrow.congr rfl) hfin
  · exact hfinish _ ((id_suppress _ _ r).trans (Table.key_of_get hr)) ((hdb k r hr).congr rfl) hfin
  · exact hfinish _ ((id_incAbsent r).trans (Table.key_of_get hr)) ((hdb k r hr).congr rfl) hfin

variable {rfc3339 : String → Except String Int}

theorem step_annotated (hdb : ∀ k r, db.warningState.get k = some r → r.Annotated) (h : Step rfc3339 db db') :
    ∀ k r, db'.warningState.get k = some r → r.Annotated := by
  cases h with
  | update u h =>
    intro k r hr
    obtain ⟨r₀, _, hr₀, rfl⟩ := (run_updated h).maintained hdb hr
    exact annotated_maintain hr₀
  | ingest read g now cfg =>
    rw [ingest_warningState]
    refine applyWrites_all (fun w hw => ?_) (fun w hw r hr => ?_) hdb
    · rcases mem_ingestWrites hw with ⟨p, x, rfl⟩ | ⟨m, f, rfl⟩ | ⟨m, d, rfl⟩ <;> exact fun _ => rfl
    · rcases mem_ingestWrites hw with ⟨p, x, rfl⟩ | ⟨m, f, rfl⟩ | ⟨m, d, rfl⟩ <;> exact hr
  | coverage c h =>
    rw [(recordCoverage_ok h).1]
    have hrow : ∀ w ∈ [coverageWrite c], w.row.Annotated := fun w hw => by
      rw [mem_singleton.mp hw]
      exact fun _ => rfl
    have hover : ∀ w ∈ [coverageWrite c], ∀ r, r.Annotated → (w.overwrite r).Annotated := fun w hw r hr => by
      rw [mem_singleton.mp hw]
      exact hr
    exact applyWrites_all hrow hover hdb
  | operator f hf h =>
    intro k r hr
    rw [h, Table.get_update, Option.map_eq_some_iff] at hr
    obtain ⟨r₀, hr₀, rfl⟩ := hr
    rw [hf r₀]
    exact hdb k r₀ hr₀
  | elsewhere h =>
    intro k r hr
    rw [h] at hr
    exact hdb k r hr

theorem reach_annotated (h : Reach rfc3339 db) : ∀ k r, db.warningState.get k = some r → r.Annotated := by
  induction h with
  | init h => intro k r hr; rw [h] at hr; cases hr
  | step _ h ih => exact step_annotated ih h

end

/-! ## The overlay -/

/-- The stamps as they are stored. -/
def texts (now : Zoned) : Reading (Accepted crate) String where
  id := Accepted.id
  declared a := a.now.text
  starts a := a.start.text
  ends a := a.end_.text
  now := now.text

def instants (now : Zoned) : Reading (Accepted crate) Int where
  id := Accepted.id
  declared a := a.now.instant
  starts a := a.start.instant
  ends a := a.end_.instant
  now := now.instant

theorem inScope_row (a : Accepted crate) (r : WarningRow) : a.row.inScope r = a.concerns r.id := rfl

section

variable {log : List (Accepted crate)} {now : Zoned} {r : WarningRow}
  {a : Accepted crate} {m : MaintenanceDeclaration}

theorem mem_inForce (ha : a ∈ log) :
    a.row ∈ (log.map Accepted.row).filter (fun m =>
      m.inScope r && decide (m.startAt ≤ now.text) && decide (now.text ≤ m.endAt)) ↔
      a ∈ log.filter (·.concerns r.id) ∧ (texts now).InForce a := by
  rw [mem_filter, mem_filter, Bool.and_eq_true, Bool.and_eq_true, decide_eq_true_iff, decide_eq_true_iff, inScope_row,
    and_assoc, and_assoc]
  exact and_congr_left fun _ => ⟨fun _ => ha, fun _ => mem_map_of_mem ha⟩

theorem mem_past (ha : a ∈ log) :
    a.row ∈ (log.map Accepted.row).filter (fun m => m.inScope r && decide (m.endAt < now.text)) ↔
      a ∈ log.filter (·.concerns r.id) ∧ (texts now).Past a := by
  rw [mem_filter, mem_filter, Bool.and_eq_true, decide_eq_true_iff, inScope_row, and_assoc]
  exact and_congr_left fun _ => ⟨fun _ => ha, fun _ => mem_map_of_mem ha⟩

theorem activeMaintenance_eq_some (h : activeMaintenance (log.map Accepted.row) now.text r = some m) :
    ∃ a, (texts now).Covers (log.filter (·.concerns r.id)) a ∧ m = a.row := by
  have hlater : ∀ m m' : MaintenanceDeclaration,
      decide (m'.declaredAt < m.declaredAt ∨ m'.declaredAt = m.declaredAt ∧ m'.maintenanceId < m.maintenanceId) = true ↔
        toLex (m'.declaredAt, m'.maintenanceId) < toLex (m.declaredAt, m.maintenanceId) := fun m m' => by
    rw [decide_eq_true_iff, Prod.Lex.toLex_lt_toLex]
  obtain ⟨hm, hlast⟩ := Sql.firstBy_greatest hlater h
  obtain ⟨a, ha, rfl⟩ := List.mem_map.mp (mem_filter.mp hm).1
  obtain ⟨hscope, hforce⟩ := (mem_inForce ha).mp hm
  exact ⟨a, ⟨hscope, hforce, fun e he hin => hlast e.row ((mem_inForce (mem_filter.mp he).1).mpr ⟨he, hin⟩)⟩, rfl⟩

theorem activeMaintenance_eq_none (h : activeMaintenance (log.map Accepted.row) now.text r = none) :
    ∀ a ∈ log.filter (·.concerns r.id), ¬(texts now).InForce a := by
  intro a ha hin
  have hmem := (mem_inForce (mem_filter.mp ha).1).mpr ⟨ha, hin⟩
  rw [Sql.firstBy_eq_none h] at hmem
  exact not_mem_nil hmem

theorem expiredMaintenance_eq_some (h : expiredMaintenance (log.map Accepted.row) now.text r = some m)
    (hnone : ∀ a ∈ log.filter (·.concerns r.id), ¬(texts now).InForce a) :
    ∃ a, (texts now).Overruns (log.filter (·.concerns r.id)) a ∧ m = a.row := by
  have hlater : ∀ m m' : MaintenanceDeclaration,
      decide (m'.endAt < m.endAt ∨ m'.endAt = m.endAt ∧
        (m'.declaredAt < m.declaredAt ∨ m'.declaredAt = m.declaredAt ∧ m'.maintenanceId < m.maintenanceId)) = true ↔
        toLex (m'.endAt, toLex (m'.declaredAt, m'.maintenanceId)) <
          toLex (m.endAt, toLex (m.declaredAt, m.maintenanceId)) :=
    fun m m' => by rw [decide_eq_true_iff, Prod.Lex.toLex_lt_toLex, Prod.Lex.toLex_lt_toLex]
  obtain ⟨hm, hlast⟩ := Sql.firstBy_greatest hlater h
  obtain ⟨a, ha, rfl⟩ := List.mem_map.mp (mem_filter.mp hm).1
  obtain ⟨hscope, hpast⟩ := (mem_past ha).mp hm
  exact ⟨a, ⟨hnone, hscope, hpast, fun e he hover =>
    hlast e.row ((mem_past (mem_filter.mp he).1).mpr ⟨he, hover⟩)⟩, rfl⟩

theorem expiredMaintenance_eq_none (h : expiredMaintenance (log.map Accepted.row) now.text r = none) :
    ∀ a ∈ log.filter (·.concerns r.id), ¬(texts now).Past a := by
  intro a ha hover
  have hmem := (mem_past (mem_filter.mp ha).1).mpr ⟨ha, hover⟩
  rw [Sql.firstBy_eq_none h] at hmem
  exact not_mem_nil hmem

/-- A row shows what its declarations say as texts. -/
theorem maintain_annotates (hinj : ∀ a ∈ log, ∀ b ∈ log, a.id = b.id → a = b) (hr : r.Annotated) :
    (texts now).Annotates (log.filter (·.concerns r.id)) (r.maintain (log.map Accepted.row) now.text) := by
  have hinj' : ∀ a ∈ log.filter (·.concerns r.id), ∀ b ∈ log.filter (·.concerns r.id),
      (texts now).id a = (texts now).id b → a = b :=
    fun a ha b hb => hinj a (mem_filter.mp ha).1 b (mem_filter.mp hb).1
  unfold WarningRow.maintain
  cases hactive : activeMaintenance (log.map Accepted.row) now.text r with
  | some m =>
    obtain ⟨a, ha, rfl⟩ := activeMaintenance_eq_some hactive
    exact (Reading.Annotates.of_covers hinj' ha).mpr ⟨rfl, rfl⟩
  | none =>
    have hnone := activeMaintenance_eq_none hactive
    cases hexpired : expiredMaintenance (log.map Accepted.row) now.text r with
    | some m =>
      obtain ⟨a, ha, rfl⟩ := expiredMaintenance_eq_some hexpired hnone
      exact (Reading.Annotates.of_overruns hinj' ha).mpr ⟨rfl, rfl⟩
    | none =>
      have hover := expiredMaintenance_eq_none hexpired
      refine (Reading.Annotates.of_clear fun a ha => ⟨hnone a ha, hover a ha⟩).mpr ?_
      dsimp only
      by_cases hstate : r.maintenanceState = .none_
      · rw [if_neg (by simp [hstate])]
        exact ⟨hstate, hr hstate⟩
      · rw [if_pos hstate]
        exact ⟨rfl, rfl⟩

end

/-- A committed update leaves a row showing what the declarations about it say as instants exactly when their texts
    pick the same declaration. -/
theorem maintenance_iff {rfc3339 : String → Except String Int}
    {log : List (Accepted crate)} {now : Zoned} {u : UpdateCall} {db db' : Db}
    (hreach : Reach rfc3339 db) (hdeclared : Declared log db.maintenanceDeclarations)
    (hnow : u.clock.maintenance = now.text)
    (h : u.run db = .ok db') {k : FindingId} {r : WarningRow} (hr : db'.warningState.get k = some r) :
    (instants now).Annotates (log.filter (·.concerns k)) r ↔
      (texts now).PicksAs (instants now) (log.filter (·.concerns k)) := by
  obtain ⟨r₀, rfl, hr₀, rfl⟩ := (run_updated h).maintained (reach_annotated hreach) hr
  have hinj : ∀ a ∈ log, ∀ b ∈ log, a.id = b.id → a = b := fun a ha b hb => hdeclared.id_inj ha hb
  have hinj' : ∀ a ∈ log.filter (·.concerns r₀.id), ∀ b ∈ log.filter (·.concerns r₀.id),
      (texts now).id a = (texts now).id b → a = b :=
    fun a ha b hb => hinj a (mem_filter.mp ha).1 b (mem_filter.mp hb).1
  rw [hdeclared.rows, hnow]
  have hid : (texts now : Reading (Accepted crate) String).id = (instants now).id := rfl
  exact Reading.annotates_iff hid hinj' (maintain_annotates hinj hr₀)

/-- Stamps in UTC, no fraction another cut short: the texts pick as the instants do. -/
theorem picksAs_of_utc {log : List (Accepted crate)} {now : Zoned}
    (hutc : ∀ a ∈ log, ∀ t ∈ [a.now, a.start, a.end_, now], t.isUtc = true)
    (hnow : ∀ a ∈ log, a.start.Unlike now ∧ a.end_.Unlike now)
    (hunlike : ∀ a ∈ log, ∀ b ∈ log, a.now.Unlike b.now ∧
      a.end_.Unlike b.end_) : (texts now).PicksAs (instants now) log := by
  have hmem : ∀ a ∈ log, a.now.isUtc = true ∧ a.start.isUtc = true ∧ a.end_.isUtc = true ∧ now.isUtc = true :=
    fun a ha => by
    simpa using hutc a ha
  refine Reading.SortsAs.picksAs ⟨rfl, fun a ha => ?_, fun a ha => ?_, fun a ha b hb => ?_, fun a ha b hb => ?_⟩
  · obtain ⟨_, hstart, _, hutc⟩ := hmem a ha
    exact Zoned.text_lt_iff hutc hstart (hnow a ha).1.symm
  · obtain ⟨_, _, hend, hutc⟩ := hmem a ha
    exact Zoned.text_lt_iff hend hutc (hnow a ha).2
  · exact Zoned.text_lt_iff (hmem a ha).1 (hmem b hb).1 (hunlike a ha b hb).1
  · exact Zoned.text_lt_iff (hmem a ha).2.2.1 (hmem b hb).2.2.1 (hunlike a ha b hb).2

/-! ## A window of an hour -/

/-- An hour of 2026-05-08. -/
def hourOfTheEighth (hour : Nat) (offset : Text.Offset)
    (h : hour < 24 ∧ (offset.minutes = 0 → offset = .z)) : Zoned where
  spelling := .ofFields 2026 5 8 hour 0 0 9 0 offset ⟨by decide, by decide, by decide, h.1,
    by decide, by decide, by decide⟩
  places_eq := rfl
  utc_of_zero := h.2

def noon : Zoned := hourOfTheEighth 12 .z ⟨by decide, fun _ => rfl⟩

def oneOClockUtc : Zoned := hourOfTheEighth 13 .z ⟨by decide, fun _ => rfl⟩

def oneOClockWest : Zoned := hourOfTheEighth 9 (.numeric true 4 0) ⟨by decide, by decide⟩

/-- `time`, on the two spellings of one o'clock. -/
def spelledHours : TimeCrate where
  parse s :=
    if s = "2026-05-08T13:00:00Z" then some oneOClockUtc
    else if s = "2026-05-08T09:00:00-04:00" then some oneOClockWest
    else none
  add _ _ := none

/-- A window from noon, on the finding of `strayCall`. -/
def fromNoon (end_ : String) : MaintenanceDeclareCmd :=
  { host := "db-1", kind := "wal_bloat", subject := none, start := "now", end_ }

def toOneUtc : Accepted spelledHours where
  cmd := fromNoon "2026-05-08T13:00:00Z"
  id := "maint_1"
  now := noon
  start := noon
  end_ := oneOClockUtc
  parse_start := rfl
  parse_end := rfl
  notPast := by decide
  ordered := by decide

def toOneWest : Accepted spelledHours where
  cmd := fromNoon "2026-05-08T09:00:00-04:00"
  id := "maint_1"
  now := noon
  start := noon
  end_ := oneOClockWest
  parse_start := rfl
  parse_end := rfl
  notPast := by decide
  ordered := by decide

/-- A fresh database in which one window is declared. -/
def Db.declaring (a : Accepted spelledHours) : Db :=
  { Db.published 1 with maintenanceDeclarations := ⟨[a.row], nodup_singleton _⟩ }

theorem declared_declaring (a : Accepted spelledHours) : Declared [a] (Db.declaring a).maintenanceDeclarations :=
  .declare a .init (declare_eq_ok.mpr ⟨a, rfl, rfl, rfl, rfl⟩)

def noonCall : UpdateCall := { strayCall 1 with clock := { (strayCall 1).clock with maintenance := noon.text } }

/-- The window is in force, and the row is marked as overrunning it. -/
theorem a_window_ending_in_another_offset_is_overrun :
    ∃ (log : List (Accepted spelledHours)) (db db' : Db) (r : WarningRow),
    Reach (fun _ => .error "") db ∧ Declared log db.maintenanceDeclarations ∧ noonCall.run db = .ok db' ∧
      db'.warningState.get strayFinding.id = some r ∧ r.maintenanceState = .overrun ∧
        ¬(instants noon).Annotates (log.filter (·.concerns strayFinding.id)) r := by
  have h : (noonCall.run (Db.declaring toOneWest)).toOption.map (fun db' =>
      (db'.warningState.get strayFinding.id).map WarningRow.maintenanceState) =
        some (some .overrun) := by decide +kernel
  obtain ⟨db', hrun, hread⟩ := Sql.ok_of_toOption h
  obtain ⟨r, hr, hstate⟩ := Option.map_eq_some_iff.mp hread
  refine ⟨[toOneWest], _, db', r, .init rfl, declared_declaring _, hrun, hr, hstate, fun hshows => ?_⟩
  have hcovered := hshows.covered.mpr ⟨toOneWest, mem_filter.mpr ⟨mem_singleton_self _, by decide⟩, by decide⟩
  rw [hstate] at hcovered
  cases hcovered

theorem a_window_in_utc_covers : ∃ db' r, noonCall.run (Db.declaring toOneUtc) = .ok db' ∧
    db'.warningState.get strayFinding.id = some r ∧
      (instants noon).Annotates ([toOneUtc].filter (·.concerns strayFinding.id)) r := by
  have h : (noonCall.run (Db.declaring toOneUtc)).toOption.map (fun db' =>
      (db'.warningState.get strayFinding.id).isSome) = some true := by decide +kernel
  obtain ⟨db', hrun, hread⟩ := Sql.ok_of_toOption h
  obtain ⟨r, hr⟩ := Option.isSome_iff_exists.mp hread
  have hreach : Reach (fun _ => .error "") (Db.declaring toOneUtc) := .init rfl
  refine ⟨db', r, hrun, hr, (maintenance_iff hreach (declared_declaring toOneUtc) rfl hrun hr).mpr ?_⟩
  have hone : ∀ a ∈ [toOneUtc].filter (·.concerns strayFinding.id), a = toOneUtc :=
    fun a ha => mem_singleton.mp (mem_filter.mp ha).1
  refine picksAs_of_utc (fun a ha => ?_) (fun a ha => ?_) (fun a ha b hb => ?_)
  · rw [hone a ha]
    decide
  · rw [hone a ha]
    exact ⟨fun _ hne => absurd rfl hne, fun _ hne => absurd rfl hne⟩
  · rw [hone a ha, hone b hb]
    exact ⟨fun _ hne => absurd rfl hne, fun _ hne => absurd rfl hne⟩

end Nq
