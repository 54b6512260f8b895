/-
  Nq.Sql.Table — a table with a primary key, and what the statements of a
  transaction do to it.

  A table is its rows, no two under one key (`Table.nodup`), so a state that breaks
  the key constraint cannot be built. `get` reads the row under a key; each statement
  has one lemma saying what `get` answers after it:
  - `update`     UPDATE t SET … (a WHERE clause is an `if` in the row function);
  - `updateKey`  UPDATE t SET … WHERE key = k;
  - `delete`     DELETE FROM t WHERE …;
  - `deleteKey`  DELETE FROM t WHERE key = k;
  - `insert?`    INSERT INTO t, refused on a taken key;
  - `insertAll`  a loop of them, and `nextRowid` the key SQLite gives a new row;
  - `replace`    INSERT OR REPLACE INTO t;
  - `upsert`     INSERT INTO t … ON CONFLICT(key) DO UPDATE SET ….
  A loop whose every turn touches only its own element's key acts key by key
  (`get_foldl_keyed`).
  A transaction is a computation in `Except`: it commits what all its statements made,
  or nothing (`bind_ok`).
-/

import Mathlib.Data.Int.Order.Basic
import Mathlib.Data.List.Nodup
import Mathlib.Order.Lattice

namespace Nq.Sql

open List hiding le_antisymm le_of_lt le_trans not_lt

structure Table {ρ κ : Type} (key : ρ → κ) where
  rows : List ρ
  nodup : (rows.map key).Nodup

namespace Table

variable {ρ κ : Type} {key : ρ → κ}

def empty : Table key := ⟨[], nodup_nil⟩

def update (t : Table key) (f : ρ → ρ) (hf : ∀ r, key (f r) = key r) : Table key :=
  ⟨t.rows.map f, by
    have : (t.rows.map f).map key = t.rows.map key := by
      simp only [map_map]; exact map_congr_left fun r _ => hf r
    rw [this]; exact t.nodup⟩

def delete (t : Table key) (p : ρ → Bool) : Table key :=
  ⟨t.rows.filter (!p ·), (filter_sublist.map key).nodup t.nodup⟩

variable {r : ρ} {t' : Table key} (t : Table key) (p : ρ → Bool) (k : κ) (f : ρ → ρ) (k' : κ)

@[simp] theorem rows_update (hf : ∀ r, key (f r) = key r) : (t.update f hf).rows = t.rows.map f := rfl
@[simp] theorem rows_delete : (t.delete p).rows = t.rows.filter (!p ·) := rfl

theorem update_eq_self (hf : ∀ r, key (f r) = key r) (h : ∀ r ∈ t.rows, f r = r) : t.update f hf = t := by
  obtain ⟨rows, nodup⟩ := t
  have : rows.map f = rows := (map_congr_left h).trans (map_id rows)
  simp [update, this]

theorem delete_congr {t : Table key} {p q : ρ → Bool} (h : ∀ r ∈ t.rows, p r = q r) : t.delete p = t.delete q := by
  have : t.rows.filter (!p ·) = t.rows.filter (!q ·) := filter_congr fun r hr => by rw [h r hr]
  simp only [delete, this]

theorem delete_eq_self {t : Table key} {p : ρ → Bool} (h : ∀ r ∈ t.rows, p r = false) : t.delete p = t := by
  obtain ⟨rows, nodup⟩ := t
  have : rows.filter (!p ·) = rows := filter_eq_self.mpr fun r hr => by rw [h r hr]; rfl
  simp only [delete, this]

variable [DecidableEq κ]

def get (t : Table key) (k : κ) : Option ρ := t.rows.find? (key · = k)

def updateKey (t : Table key) (k : κ) (f : ρ → ρ) (hf : ∀ r, key (f r) = key r) : Table key :=
  t.update (fun r => if key r = k then f r else r) (fun r => by split <;> simp [hf])

def deleteKey (t : Table key) (k : κ) : Table key := t.delete (key · = k)

theorem not_mem_keys {t : Table key} {k : κ} (h : t.get k = none) : k ∉ t.rows.map key := by
  rintro hk
  obtain ⟨r, hr, rfl⟩ := List.mem_map.mp hk
  have := find?_eq_none.mp h r hr
  simp at this

/-- A row under a key no row holds yet. -/
def append (t : Table key) (r : ρ) (h : t.get (key r) = none) : Table key :=
  ⟨t.rows ++ [r], by
    rw [map_append, nodup_append]
    refine ⟨t.nodup, by simp, ?_⟩
    intro a ha b hb e
    simp only [map_cons, map_nil, mem_singleton] at hb
    exact not_mem_keys h (hb ▸ e ▸ ha)⟩

def insert? (t : Table key) (r : ρ) : Option (Table key) :=
  if h : t.get (key r) = none then some (t.append r h) else none

theorem get_deleteKey_self : (t.deleteKey k).get k = none := by
  refine find?_eq_none.mpr fun r hr => ?_
  simpa using (mem_filter.mp hr).2

/-- INSERT OR REPLACE: the row in the way goes first. -/
def replace (t : Table key) (r : ρ) : Table key := (t.deleteKey (key r)).append r (get_deleteKey_self t (key r))

def upsert (t : Table key) (new : ρ) (f : ρ → ρ) (hf : ∀ r, key (f r) = key r) : Table key :=
  if h : t.get (key new) = none then t.append new h else t.updateKey (key new) f hf

/-! ## Reading -/

theorem get_eq_some {t : Table key} {k : κ} : t.get k = some r ↔ r ∈ t.rows ∧ key r = k := by
  constructor
  · intro h
    exact ⟨mem_of_find?_eq_some h, by simpa using find?_some h⟩
  · rintro ⟨hr, rfl⟩
    cases h : t.get (key r) with
    | none => exact absurd (mem_map_of_mem hr) (not_mem_keys h)
    | some r' =>
      have hr' : r' ∈ t.rows := mem_of_find?_eq_some h
      have hk : key r' = key r := by simpa using find?_some h
      exact congrArg some (inj_on_of_nodup_map t.nodup hr' hr hk)

theorem get_of_mem {t : Table key} (h : r ∈ t.rows) : t.get (key r) = some r := get_eq_some.mpr ⟨h, rfl⟩

theorem mem_of_get {t : Table key} {k : κ} (h : t.get k = some r) : r ∈ t.rows := (get_eq_some.mp h).1

theorem key_of_get {t : Table key} {k : κ} (h : t.get k = some r) : key r = k := (get_eq_some.mp h).2

theorem filter_key : t.rows.filter (key · = k) = (t.get k).toList := by
  have h : ∀ rs : List ρ, (rs.map key).Nodup → rs.filter (key · = k) = (rs.find? (key · = k)).toList := by
    intro rs
    induction rs with
    | nil => intro _; rfl
    | cons r rs ih =>
      intro hn
      rw [map_cons, nodup_cons] at hn
      by_cases e : key r = k
      · have hnone : rs.filter (key · = k) = [] := by
          refine filter_eq_nil_iff.mpr fun r' hr' hk => hn.1 ?_
          have : key r' = key r := by simp [e, of_decide_eq_true hk]
          exact this ▸ mem_map_of_mem hr'
        simp [e, hnone]
      · simp [e, ih hn.2]
  exact h t.rows t.nodup

/-- The rows a WHERE clause selects, under one key. -/
theorem filter_where_key : (t.rows.filter p).filter (key · = k) = ((t.get k).filter p).toList := by
  rw [filter_comm, filter_key]
  cases t.get k with
  | none => rfl
  | some r => by_cases hp : p r = true <;> simp [Option.filter, hp]

/-! ## Writing -/

theorem get_update (hf : ∀ r, key (f r) = key r) (k : κ) : (t.update f hf).get k = (t.get k).map f := by
  unfold get
  rw [rows_update, find?_map]
  congr 2
  funext r
  simp [hf]

theorem get_updateKey (f : ρ → ρ) (hf : ∀ r, key (f r) = key r) (k : κ) :
    (t.updateKey k' f hf).get k = if k = k' then (t.get k).map f else t.get k := by
  unfold updateKey
  rw [get_update]
  cases h : t.get k with
  | none => simp
  | some r =>
    have hk := key_of_get h
    by_cases e : k = k'
    · simp [hk, e]
    · simp [hk, e]

theorem get_delete : (t.delete p).get k = (t.get k).filter (!p ·) := by
  cases h : t.get k with
  | none =>
    cases h' : (t.delete p).get k with
    | none => rfl
    | some r =>
      have hm := (get_eq_some.mp h').1
      rw [rows_delete, mem_filter] at hm
      rw [get_eq_some.mpr ⟨hm.1, key_of_get h'⟩] at h
      cases h
  | some r =>
    by_cases e : p r = true
    · have hnone : (t.delete p).get k = none := by
        cases h' : (t.delete p).get k with
        | none => rfl
        | some r' =>
          have hm := (get_eq_some.mp h').1
          rw [rows_delete, mem_filter] at hm
          rw [get_eq_some.mpr ⟨hm.1, key_of_get h'⟩] at h
          cases h
          simp [e] at hm
      rw [hnone]; simp [Option.filter, e]
    · have : (t.delete p).get k = some r := by
        refine get_eq_some.mpr ⟨?_, key_of_get h⟩
        rw [rows_delete, mem_filter]
        exact ⟨mem_of_get h, by simpa using e⟩
      rw [this]; simp [Option.filter, e]

theorem get_deleteKey (k : κ) : (t.deleteKey k').get k = if k = k' then none else t.get k := by
  unfold deleteKey
  rw [get_delete]
  cases h : t.get k with
  | none => simp
  | some r => by_cases e : k = k' <;> simp [Option.filter, key_of_get h, e]

theorem get_append (r : ρ) (h : t.get (key r) = none) (k : κ) :
    (t.append r h).get k = if k = key r then some r else t.get k := by
  by_cases e : k = key r
  · subst e
    rw [if_pos rfl]
    exact get_eq_some.mpr ⟨mem_append_right _ (mem_singleton.mpr rfl), rfl⟩
  · have : ¬ key r = k := fun h => e h.symm
    simp only [get, append, find?_append, e, if_false]
    cases t.rows.find? (key · = k) <;> simp [this]

theorem insert?_eq_some {t : Table key} (h : t.insert? r = some t') :
    t.get (key r) = none ∧ ∀ k, t'.get k = if k = key r then some r else t.get k := by
  unfold insert? at h
  split at h
  · rename_i hn
    cases h
    exact ⟨hn, fun k => get_append t r hn k⟩
  · cases h

theorem insert?_isSome {t : Table key} : (t.insert? r).isSome = true ↔ t.get (key r) = none := by
  unfold insert?; split <;> simp_all

def insertAll (t : Table key) (rs : List ρ) : Option (Table key) := rs.foldlM insert? t

theorem rows_insert? {t : Table key} (h : t.insert? r = some t') : t'.rows = t.rows ++ [r] := by
  unfold insert? at h
  split at h
  · cases h; rfl
  · cases h

theorem rows_insertAll {rs : List ρ} : ∀ {t t' : Table key}, t.insertAll rs = some t' → t'.rows = t.rows ++ rs := by
  induction rs with
  | nil => intro t t' h; cases h; simp
  | cons r rs ih =>
    intro t t' h
    unfold insertAll at h
    rw [foldlM_cons] at h
    obtain ⟨t₁, h₁, h₂⟩ := Option.bind_eq_some_iff.mp h
    rw [ih h₂, rows_insert? h₁, append_assoc]
    rfl

theorem get_upsert (new : ρ) (f : ρ → ρ) (hf : ∀ r, key (f r) = key r) (k : κ) :
    (t.upsert new f hf).get k = if k = key new then some ((t.get k).elim new f) else t.get k := by
  unfold upsert
  split
  · rename_i h
    rw [get_append]
    by_cases e : k = key new
    · subst e; simp [h]
    · simp [e]
  · rename_i h
    rw [get_updateKey]
    by_cases e : k = key new
    · subst e
      obtain ⟨r, hr⟩ := Option.ne_none_iff_exists'.mp h
      simp [hr]
    · simp [e]

/-! ## Loops -/

variable {α : Type}

/-- A loop over elements with distinct keys, each turn touching only its own key: what
    it leaves under `k` is what `k`'s own turn makes of it. -/
theorem get_foldl_keyed (keyOf : α → κ) (step : Table key → α → Table key) (eff : α → Option ρ → Option ρ)
    (hstep : ∀ t a k, (step t a).get k = if k = keyOf a then eff a (t.get k) else t.get k) (k : κ) :
    ∀ (as : List α) (t : Table key), (as.map keyOf).Nodup →
      (as.foldl step t).get k = (as.find? (keyOf · = k)).elim (t.get k) (eff · (t.get k)) := by
  intro as
  induction as with
  | nil => intro t _; rfl
  | cons a as ih =>
    intro t hn
    rw [map_cons, nodup_cons] at hn
    rw [foldl_cons, ih _ hn.2, hstep]
    by_cases e : k = keyOf a
    · subst e
      have hnone : as.find? (keyOf · = keyOf a) = none := by
        refine find?_eq_none.mpr fun b hb hbk => hn.1 ?_
        have : keyOf b = keyOf a := by simpa using hbk
        exact this ▸ mem_map_of_mem hb
      simp [hnone]
    · have : ¬ keyOf a = k := fun h => e h.symm
      simp [e, this]

end Table

/-! ## Rowids -/

/-- The next INTEGER PRIMARY KEY: one above the largest, 1 in an empty table. -/
def Table.nextRowid {ρ : Type} {key : ρ → Int} (t : Table key) : Int := (t.rows.map key).foldr max 0 + 1

theorem Table.lt_nextRowid {ρ : Type} {key : ρ → Int} {t : Table key} {r : ρ} (h : r ∈ t.rows) :
    key r < t.nextRowid := by
  have hle : ∀ ks : List Int, ∀ k ∈ ks, k ≤ ks.foldr max 0 := by
    intro ks
    induction ks with
    | nil => intro k hk; cases hk
    | cons k' ks ih =>
      intro k hk
      rw [foldr_cons]
      rcases mem_cons.mp hk with rfl | hk
      · omega
      · have := ih k hk; omega
  have := hle (t.rows.map key) (key r) (mem_map_of_mem h)
  unfold nextRowid
  omega

/-- The next rowid is the least positive number above every key. -/
theorem Table.nextRowid_le {ρ : Type} {key : ρ → Int} {t : Table key} {n : Int} (hn : 0 < n)
    (h : ∀ r ∈ t.rows, key r < n) : t.nextRowid ≤ n := by
  have hle : ∀ ks : List Int, (∀ k ∈ ks, k < n) → ks.foldr max 0 < n := by
    intro ks
    induction ks with
    | nil => intro _; simpa using hn
    | cons k ks ih =>
      intro hks
      have hhead := hks k mem_cons_self
      have htail := ih fun k' hk' => hks k' (mem_cons_of_mem _ hk')
      rw [foldr_cons]
      omega
  have := hle (t.rows.map key) (by simpa using h)
  unfold nextRowid
  omega

theorem Table.nextRowid_pos {ρ : Type} {key : ρ → Int} (t : Table key) : 0 < t.nextRowid := by
  have hle : ∀ ks : List Int, 0 ≤ ks.foldr max 0 := by
    intro ks
    induction ks with
    | nil => simp
    | cons k ks ih => rw [foldr_cons]; omega
  have := hle (t.rows.map key)
  unfold nextRowid
  omega

theorem Table.get_nextRowid {ρ : Type} {key : ρ → Int} (t : Table key) : t.get t.nextRowid = none := by
  refine find?_eq_none.mpr fun r hr => ?_
  have := lt_nextRowid hr
  simp only [decide_eq_true_eq]
  omega

/-! ## Queries -/

/-- `ORDER BY … LIMIT 1`: the first row in an order, `none` when there is none. -/
def firstBy {ρ : Type} (before : ρ → ρ → Bool) : List ρ → Option ρ
  | [] => none
  | r :: rs =>
    match firstBy before rs with
    | none => some r
    | some r' => some (if before r' r then r' else r)

/-- The last row is the first in an order that puts it before all others. -/
theorem firstBy_append_last {ρ : Type} {before : ρ → ρ → Bool} {last : ρ} :
    ∀ {rows : List ρ}, (∀ r ∈ rows, before last r = true) → firstBy before (rows ++ [last]) = some last := by
  intro rows
  induction rows with
  | nil => intro _; rfl
  | cons r rows ih =>
    intro h
    have hrest := ih fun r' hr' => h r' (mem_cons_of_mem _ hr')
    rw [cons_append, firstBy, hrest]
    simp [h r mem_cons_self]

theorem firstBy_eq_none {ρ : Type} {before : ρ → ρ → Bool} :
    ∀ {rows : List ρ}, firstBy before rows = none → rows = [] := by
  intro rows h
  cases rows with
  | nil => rfl
  | cons r rows =>
    unfold firstBy at h
    cases hrest : firstBy before rows <;> simp [hrest] at h

theorem firstBy_mem {ρ : Type} {before : ρ → ρ → Bool} :
    ∀ {rows : List ρ} {r : ρ}, firstBy before rows = some r → r ∈ rows := by
  intro rows
  induction rows with
  | nil => intro r h; cases h
  | cons a rows ih =>
    intro r h
    unfold firstBy at h
    cases hrest : firstBy before rows with
    | none =>
      rw [hrest] at h
      cases h
      exact mem_cons_self
    | some b =>
      rw [hrest] at h
      dsimp only at h
      split at h
      · cases h
        exact mem_cons_of_mem _ (ih hrest)
      · cases h
        exact mem_cons_self

variable {β ε : Type} {b : β}

/-- The first row of ORDER BY … DESC has the greatest value. -/
theorem firstBy_greatest {ρ : Type} [LinearOrder β] {ord : ρ → β} {before : ρ → ρ → Bool}
    (hbefore : ∀ a b, before a b = true ↔ ord b < ord a) : ∀ {rows : List ρ} {r : ρ},
    firstBy before rows = some r → r ∈ rows ∧ ∀ r' ∈ rows, ord r' ≤ ord r := by
  intro rows
  induction rows with
  | nil => intro r h; cases h
  | cons a rows ih =>
    intro r h
    unfold firstBy at h
    cases hrest : firstBy before rows with
    | none =>
      simp only [hrest, Option.some.injEq] at h
      subst h
      rw [firstBy_eq_none hrest]
      simp
    | some b =>
      obtain ⟨hb, hmax⟩ := ih hrest
      simp only [hrest, Option.some.injEq, hbefore] at h
      by_cases hlt : ord a < ord b
      · simp only [hlt, if_true] at h
        subst h
        refine ⟨mem_cons_of_mem _ hb, ?_⟩
        intro r' hr'
        rcases mem_cons.mp hr' with e | hr'
        · rw [e]; exact le_of_lt hlt
        · exact hmax r' hr'
      · simp only [hlt, if_false] at h
        subst h
        refine ⟨mem_cons_self, ?_⟩
        intro r' hr'
        rcases mem_cons.mp hr' with e | hr'
        · rw [e]
        · exact le_trans (hmax r' hr') (not_lt.mp hlt)

theorem firstBy_desc {ρ : Type} {ord : ρ → Int} {rows : List ρ} {r : ρ}
    (h : firstBy (fun a b => ord b < ord a) rows = some r) : r ∈ rows ∧ ∀ r' ∈ rows, ord r' ≤ ord r :=
  firstBy_greatest (fun _ _ => decide_eq_true_iff) h

/-- The first row stays the first among those that are left with it. -/
theorem firstBy_filter {ρ : Type} [LinearOrder β] {ord : ρ → β} {before : ρ → ρ → Bool}
    (hbefore : ∀ a b, before a b = true ↔ ord b < ord a) {rows : List ρ}
    (hord : ∀ a ∈ rows, ∀ b ∈ rows, ord a = ord b → a = b) {r : ρ} (h : firstBy before rows = some r) {p : ρ → Bool}
    (hp : p r = true) : firstBy before (rows.filter p) = some r := by
  obtain ⟨hr, hmax⟩ := firstBy_greatest hbefore h
  have hmem : r ∈ rows.filter p := mem_filter.mpr ⟨hr, hp⟩
  cases hfirst : firstBy before (rows.filter p) with
  | none =>
    rw [firstBy_eq_none hfirst] at hmem
    cases hmem
  | some a =>
    obtain ⟨ha, hamax⟩ := firstBy_greatest hbefore hfirst
    have ha' := (mem_filter.mp ha).1
    rw [hord a ha' r hr (le_antisymm (hmax a ha') (hamax r hmem))]

/-! ## Transactions -/

/-- A transaction whose statements all succeed has run each of them. -/
theorem bind_ok {α : Type} {x : Except ε α} {f : α → Except ε β} : x >>= f = .ok b ↔ ∃ a, x = .ok a ∧ f a = .ok b := by
  cases x with
  | error e => exact ⟨fun h => (nomatch h), fun ⟨_, h, _⟩ => (nomatch h)⟩
  | ok a => exact ⟨fun h => ⟨a, rfl, h⟩, fun ⟨_, h, h'⟩ => by cases h; exact h'⟩

/-- A refused precondition, an error text rewritten on the way out. -/
theorem ite_error_ok {α : Type} {p : Prop} [Decidable p] {e : ε} {x : Except ε α} {a : α} :
    (if p then .error e else x) = .ok a ↔ ¬p ∧ x = .ok a := by
  by_cases hp : p <;> simp [hp]

theorem mapError_ok {ε' α : Type} {x : Except ε α} {f : ε → ε'} {a : α} : x.mapError f = .ok a ↔ x = .ok a := by
  cases x with
  | error e => simp [Except.mapError]
  | ok b => simp [Except.mapError]

theorem toOption_eq_some {α : Type} {x : Except ε α} {a : α} : x.toOption = some a ↔ x = .ok a := by
  cases x with
  | error e => exact ⟨fun h => (nomatch h), fun h => (nomatch h)⟩
  | ok b => exact ⟨fun h => congrArg _ (Option.some.inj h), fun h => by cases h; rfl⟩

/-- A loop of statements, each of which keeps what `p` reads. -/
theorem foldlM_keeps {α γ : Type} {f : β → α → Except ε β} {p : β → γ} (h : ∀ b a b', f b a = .ok b' → p b' = p b) :
    ∀ {as : List α} {b b' : β}, as.foldlM f b = .ok b' → p b' = p b := by
  intro as
  induction as with
  | nil => intro b b' hf; cases hf; rfl
  | cons a as ih =>
    intro b b' hf
    rw [foldlM_cons] at hf
    obtain ⟨b₁, h₁, h₂⟩ := bind_ok.mp hf
    exact (ih h₂).trans (h b a b₁ h₁)

/-- A loop of statements, each of which relates the state before it to the state after. -/
theorem foldlM_rel {α : Type} {f : β → α → Except ε β} {R : β → β → Prop} (hrefl : ∀ b, R b b)
    (htrans : ∀ {a b c}, R a b → R b c → R a c) (h : ∀ b a b', f b a = .ok b' → R b b') :
    ∀ {as : List α} {b b' : β}, as.foldlM f b = .ok b' → R b b' := by
  intro as
  induction as with
  | nil => intro b b' hf; cases hf; exact hrefl b
  | cons a as ih =>
    intro b b' hf
    rw [foldlM_cons] at hf
    obtain ⟨b₁, h₁, h₂⟩ := bind_ok.mp hf
    exact htrans (h b a b₁ h₁) (ih h₂)

/-- A transaction evaluated: what it commits and what one reads there. -/
theorem ok_of_toOption {α : Type} {x : Except ε α} {read : α → β} (h : x.toOption.map read = some b) :
    ∃ a, x = .ok a ∧ read a = b := by
  obtain ⟨a, ha, hb⟩ := Option.map_eq_some_iff.mp h
  exact ⟨a, toOption_eq_some.mp ha, hb⟩

end Nq.Sql
