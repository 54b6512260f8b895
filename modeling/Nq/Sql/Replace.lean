/-
  Nq.Sql.Replace — rows that belong to an owner, replaced as a whole.

  A loop over entries deletes the rows of the entry's owner and inserts the entry's own.
  After it an owner with entries holds the rows of its last one, and every other owner
  what it held before (`Replaced`, `replaced_foldlM`). A loop of INSERT OR REPLACE leaves
  the last row written under each key (`rows_foldl_replace`). Of a loop over many tables,
  what it does to one of them is read off its turns (`foldlM_reads`, `foldlM_adds`).
-/

import Nq.Sql.Table

namespace Nq.Sql

open List

variable {ρ κ α β ε : Type} [DecidableEq κ]

/-! ## Whole-owner replacement -/

/-- The last entry of an owner. -/
def lastOf (owner : α → κ) (as : List α) (k : κ) : Option α := as.reverse.find? (owner · = k)

/-- After the loop over `as`, an owner holds the rows of its last entry, or what it held. -/
def Replaced (ownerOf : ρ → κ) (owner : α → κ) (new : α → List ρ) (as : List α) (before after : List ρ) : Prop :=
  ∀ k, after.filter (ownerOf · = k) = (lastOf owner as k).elim (before.filter (ownerOf · = k)) new

theorem lastOf_cons (owner : α → κ) (a : α) (as : List α) (k : κ) :
    lastOf owner (a :: as) k = (lastOf owner as k).or (if owner a = k then some a else none) := by
  unfold lastOf
  rw [reverse_cons, find?_append]
  by_cases h : owner a = k
  · simp [h]
  · simp [h]

section

variable {ownerOf : ρ → κ} {owner : α → κ} {new : α → List ρ}

/-- What one turn of the loop does to each owner. -/
def ReplacedBy (ownerOf : ρ → κ) (owner : α → κ) (new : α → List ρ) (a : α) (before after : List ρ) : Prop :=
  ∀ k, after.filter (ownerOf · = k) = if k = owner a then new a else before.filter (ownerOf · = k)

theorem replaced_nil (rows : List ρ) : Replaced ownerOf owner new [] rows rows := fun _ => rfl

variable {a : α} {after before : List ρ}

theorem replaced_cons {as : List α} {between : List ρ} (h : ReplacedBy ownerOf owner new a before between)
    (h' : Replaced ownerOf owner new as between after) : Replaced ownerOf owner new (a :: as) before after := by
  intro k
  rw [h' k, h k, lastOf_cons]
  cases lastOf owner as k with
  | some b => rfl
  | none =>
    by_cases e : owner a = k
    · simp [e]
    · simp [e, Ne.symm e]

theorem replaced_foldlM {f : β → α → Except ε β} {read : β → List ρ}
    (hstep : ∀ b a b', f b a = .ok b' → ReplacedBy ownerOf owner new a (read b) (read b')) :
    ∀ {as : List α} {b b' : β}, as.foldlM f b = .ok b' → Replaced ownerOf owner new as (read b) (read b') := by
  intro as
  induction as with
  | nil =>
    intro b b' h
    cases h
    exact replaced_nil _
  | cons a as ih =>
    intro b b' h
    rw [foldlM_cons] at h
    obtain ⟨b₁, h₁, h₂⟩ := bind_ok.mp h
    exact replaced_cons (hstep b a b₁ h₁) (ih h₂)

/-- The entries seen through a map. -/
theorem replaced_map {γ : Type} {f : γ → α} {as : List γ} :
    Replaced ownerOf owner new (as.map f) before after ↔
      Replaced ownerOf (fun c => owner (f c)) (fun c => new (f c)) as before after := by
  have hlast : ∀ k, lastOf owner (as.map f) k = (lastOf (fun c => owner (f c)) as k).map f := by
    intro k
    unfold lastOf
    rw [← map_reverse, find?_map]
    rfl
  have hsame : ∀ k, (lastOf owner (as.map f) k).elim (before.filter (ownerOf · = k)) new =
      (lastOf (fun c => owner (f c)) as k).elim (before.filter (ownerOf · = k)) fun c => new (f c) := by
    intro k
    rw [hlast k]
    cases lastOf (fun c => owner (f c)) as k <;> rfl
  constructor
  · intro h k
    rw [h k, hsame k]
  · intro h k
    rw [h k, ← hsame k]

/-- DELETE … WHERE owner = k, then the new rows. -/
theorem replacedBy_delete {rows : List ρ} (hnew : ∀ r ∈ new a, ownerOf r = owner a) :
    ReplacedBy ownerOf owner new a rows (rows.filter (fun r => !decide (ownerOf r = owner a)) ++ new a) := by
  intro k
  rw [filter_append, filter_filter]
  by_cases e : k = owner a
  · have hnone : rows.filter (fun r => decide (ownerOf r = k) && !decide (ownerOf r = owner a)) = [] := by
      refine filter_eq_nil_iff.mpr fun r _ hr => ?_
      simp [e] at hr
    have hall : (new a).filter (ownerOf · = k) = new a :=
      filter_eq_self.mpr fun r hr => by simp [e, hnew r hr]
    rw [hnone, hall, if_pos e, nil_append]
  · have hnone : (new a).filter (ownerOf · = k) = [] := by
      refine filter_eq_nil_iff.mpr fun r hr hk => e ?_
      rw [← hnew r hr]
      exact (of_decide_eq_true hk).symm
    have hsame : rows.filter (fun r => decide (ownerOf r = k) && !decide (ownerOf r = owner a)) =
        rows.filter (ownerOf · = k) := by
      refine filter_congr fun r _ => ?_
      by_cases hr : ownerOf r = k
      · simp [hr, e]
      · simp [hr]
    rw [hnone, hsame, if_neg e, append_nil]

end

/-! ## INSERT OR REPLACE -/

/-- The last row under each key, in the order of these last rows. -/
def lastPerKey (key : ρ → κ) : List ρ → List ρ
  | [] => []
  | r :: rs => if key r ∈ rs.map key then lastPerKey key rs else r :: lastPerKey key rs

theorem lastPerKey_cons (key : ρ → κ) (r : ρ) (rs : List ρ) :
    lastPerKey key (r :: rs) = if key r ∈ rs.map key then lastPerKey key rs else r :: lastPerKey key rs := rfl

variable {key : ρ → κ} {f : β → α → Except ε β} (t : Table key)

theorem mem_lastPerKey {r : ρ} : ∀ {rs : List ρ}, r ∈ lastPerKey key rs → r ∈ rs := by
  intro rs
  induction rs with
  | nil => intro h; exact h
  | cons a rs ih =>
    intro h
    rw [lastPerKey_cons] at h
    split at h
    · exact mem_cons_of_mem _ (ih h)
    · rcases mem_cons.mp h with e | h
      · rw [e]; exact mem_cons_self
      · exact mem_cons_of_mem _ (ih h)

theorem rows_replace (r : ρ) : (t.replace r).rows = t.rows.filter (fun r' => !decide (key r' = key r)) ++ [r] := rfl

theorem get_replace (r : ρ) (k : κ) : (t.replace r).get k = if k = key r then some r else t.get k := by
  unfold Table.replace
  rw [Table.get_append, Table.get_deleteKey]
  by_cases e : k = key r <;> simp [e]

theorem rows_foldl_replace : ∀ {rs : List ρ} {t : Table key},
    (rs.foldl Table.replace t).rows = t.rows.filter (fun r => !decide (key r ∈ rs.map key)) ++ lastPerKey key rs := by
  intro rs
  induction rs with
  | nil => intro t; simp [lastPerKey]
  | cons r rs ih =>
    intro t
    rw [foldl_cons, ih, rows_replace, filter_append, filter_filter]
    have hold : t.rows.filter (fun r' => !decide (key r' ∈ rs.map key) && !decide (key r' = key r)) =
        t.rows.filter fun r' => !decide (key r' ∈ (r :: rs).map key) := by
      refine filter_congr fun r' _ => ?_
      rw [Bool.eq_iff_iff]
      simp only [Bool.and_eq_true, Bool.not_eq_true', decide_eq_false_iff_not, map_cons, mem_cons, not_or]
      exact and_comm
    rw [hold, append_assoc]
    refine congrArg _ ?_
    rw [lastPerKey_cons]
    by_cases h : key r ∈ rs.map key
    · simp only [filter_cons, h, decide_true, Bool.not_true, Bool.false_eq_true, if_false, filter_nil,
        nil_append, if_true]
    · simp only [filter_cons, h, decide_false, Bool.not_false, if_true, filter_nil, if_false, cons_append,
        nil_append]

/-- DELETE … WHERE owner = k, then a loop of INSERT OR REPLACE. -/
theorem replacedBy_replace {κ' : Type} [DecidableEq κ'] {ownerOf : ρ → κ'} {owner : α → κ'} {rows : α → List ρ} {a : α}
    {t : Table key} (hkey : ∀ r r', key r = key r' → ownerOf r = ownerOf r')
    (hnew : ∀ r ∈ rows a, ownerOf r = owner a) :
    ReplacedBy ownerOf owner (fun a => lastPerKey key (rows a)) a t.rows
      ((rows a).foldl Table.replace (t.delete (ownerOf · = owner a))).rows := by
  have hfree : ((t.delete (ownerOf · = owner a)).rows).filter (fun r => !decide (key r ∈ (rows a).map key)) =
      t.rows.filter fun r => !decide (ownerOf r = owner a) := by
    rw [Table.rows_delete]
    refine filter_eq_self.mpr fun r hr => ?_
    have hother := (mem_filter.mp hr).2
    rw [Bool.not_eq_true', decide_eq_false_iff_not] at hother ⊢
    intro hmem
    obtain ⟨r', hr', e⟩ := List.mem_map.mp hmem
    exact hother ((hkey r r' e.symm).trans (hnew r' hr'))
  rw [rows_foldl_replace, hfree]
  exact replacedBy_delete fun r hr => hnew r (mem_lastPerKey hr)

/-! ## Loops over many tables -/

/-- A loop seen through what it does to one table. -/
theorem foldlM_reads {γ : Type} {read : β → γ} {eff : γ → α → γ}
    (hstep : ∀ b a b', f b a = .ok b' → read b' = eff (read b) a) :
    ∀ {as : List α} {b b' : β}, as.foldlM f b = .ok b' → read b' = as.foldl eff (read b) := by
  intro as
  induction as with
  | nil =>
    intro b b' h
    cases h
    rfl
  | cons a as ih =>
    intro b b' h
    rw [foldlM_cons] at h
    obtain ⟨b₁, h₁, h₂⟩ := bind_ok.mp h
    rw [ih h₂, hstep b a b₁ h₁, foldl_cons]

/-- Each turn adds the row it has, if any, at the end. -/
theorem foldlM_adds {read : β → List ρ} {row? : α → Option ρ}
    (hstep : ∀ b a b', f b a = .ok b' → read b' = read b ++ (row? a).toList) {as : List α} {b b' : β}
    (h : as.foldlM f b = .ok b') : read b' = read b ++ as.filterMap row? := by
  have hloop : ∀ {as : List α} {rows : List ρ},
      as.foldl (fun rows a => rows ++ (row? a).toList) rows = rows ++ as.filterMap row? := by
    intro as
    induction as with
    | nil => intro rows; simp
    | cons a as ih =>
      intro rows
      rw [foldl_cons, ih, append_assoc, filterMap_cons]
      cases row? a <;> rfl
  have hread : read b' = as.foldl (fun rows a => rows ++ (row? a).toList) (read b) := foldlM_reads hstep h
  rw [hread, hloop]

end Nq.Sql
