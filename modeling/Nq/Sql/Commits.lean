/-
  Nq.Sql.Commits — which transactions go through.

  A chain of statements commits when each one does on what the ones before it left
  (`commits_bind`). A loop of turns, each of which commits under a condition on its own
  entry, commits when every entry meets it (`foldlM_commits`). A loop of plain INSERTs
  commits exactly when it writes distinct keys that are free (`insertAll_isSome`); after a
  DELETE of an owner's rows, every key of that owner is (`insertAll_delete`).
-/

import Nq.Sql.Table

namespace Nq.Sql

open List

variable {ρ κ α β ε : Type}

/-! ## Statements -/

def Commits (x : Except ε α) : Prop := ∃ a, x = .ok a

theorem commits_pure (a : α) : Commits (pure a : Except ε α) := ⟨a, rfl⟩

variable {f : α → Except ε β} {x : Except ε α} {κ' : Type} {key : ρ → κ} {t : Table key} {rs : List ρ}

theorem commits_bind : Commits (x >>= f) ↔ ∃ a, x = .ok a ∧ Commits (f a) := by
  constructor
  · intro h
    obtain ⟨b, h⟩ := h
    obtain ⟨a, ha, hb⟩ := bind_ok.mp h
    exact ⟨a, ha, b, hb⟩
  · intro h
    obtain ⟨a, ha, b, hb⟩ := h
    exact ⟨b, bind_ok.mpr ⟨a, ha, hb⟩⟩

theorem commits_bind_of (hx : Commits x) (hf : ∀ a, x = .ok a → Commits (f a)) : Commits (x >>= f) := by
  obtain ⟨a, ha⟩ := hx
  exact commits_bind.mpr ⟨a, ha, hf a ha⟩

/-- The turns of a loop, under what the loop so far has left for the entries to come. -/
theorem foldlM_commits {f : β → α → Except ε β} {P : α → Prop} (left : List α → β → Prop)
    (hstep : ∀ a as b, left (a :: as) b → (Commits (f b a) ↔ P a) ∧ ∀ b', f b a = .ok b' → left as b') :
    ∀ {as : List α} {b : β}, left as b → (Commits (as.foldlM f b) ↔ ∀ a ∈ as, P a) := by
  intro as
  induction as with
  | nil =>
    intro b _
    exact ⟨fun _ _ ha => (nomatch ha), fun _ => commits_pure b⟩
  | cons a as ih =>
    intro b hb
    obtain ⟨hturn, hkeeps⟩ := hstep a as b hb
    rw [foldlM_cons, commits_bind, forall_mem_cons]
    constructor
    · intro h
      obtain ⟨b', hb', h⟩ := h
      exact ⟨hturn.mp ⟨b', hb'⟩, (ih (hkeeps b' hb')).mp h⟩
    · intro h
      obtain ⟨b', hb'⟩ := hturn.mpr h.1
      exact ⟨b', hb', (ih (hkeeps b' hb')).mpr h.2⟩

/-! ## INSERT -/

/-- The keys of different owners, distinct for each of them. -/
theorem nodup_flatMap_owned (ownerOf : κ → κ') {owner : α → κ'} {keys : α → List κ} {as : List α}
    (howned : ∀ a, ∀ k ∈ keys a, ownerOf k = owner a) (howners : (as.map owner).Nodup)
    (hkeys : ∀ a ∈ as, (keys a).Nodup) : (as.flatMap keys).Nodup := by
  refine nodup_flatMap.mpr ⟨hkeys, ?_⟩
  refine (pairwise_map.mp howners).imp ?_
  intro a b hne k ha hb
  exact hne ((howned a k ha).symm.trans (howned b k hb))

variable [DecidableEq κ]

theorem Table.get_eq_none {k : κ} : t.get k = none ↔ k ∉ t.rows.map key := by
  constructor
  · exact Table.not_mem_keys
  · intro h
    refine find?_eq_none.mpr fun r hr hk => h ?_
    exact of_decide_eq_true hk ▸ mem_map_of_mem hr

theorem Table.insertAll_cons (t : Table key) (r : ρ) (rs : List ρ) :
    t.insertAll (r :: rs) = (t.insert? r).bind (·.insertAll rs) := by
  unfold Table.insertAll
  rw [foldlM_cons]
  rfl

theorem Table.insertAll_cons_isSome {r : ρ} :
    (t.insertAll (r :: rs)).isSome = true ↔ ∃ t', t.insert? r = some t' ∧ (t'.insertAll rs).isSome = true := by
  rw [insertAll_cons]
  cases t.insert? r <;> simp

theorem Table.insertAll_append (t : Table key) (rs rs' : List ρ) :
    t.insertAll (rs ++ rs') = (t.insertAll rs).bind (·.insertAll rs') := foldlM_append

theorem Table.insertAll_singleton (t : Table key) (r : ρ) : t.insertAll [r] = t.insert? r := by
  rw [insertAll_cons]
  cases t.insert? r <;> rfl

theorem Table.insertAll_isSome : ∀ {rs : List ρ} {t : Table key},
    (t.insertAll rs).isSome = true ↔ (rs.map key).Nodup ∧ ∀ r ∈ rs, key r ∉ t.rows.map key := by
  intro rs
  induction rs with
  | nil => intro t; simp [Table.insertAll]
  | cons r rs ih =>
    intro t
    rw [insertAll_cons, map_cons, nodup_cons]
    cases h : t.insert? r with
    | none =>
      have htaken : key r ∈ t.rows.map key := by
        by_contra hfree
        have := Table.insert?_isSome.mpr (Table.get_eq_none.mpr hfree)
        rw [h] at this
        cases this
      constructor
      · intro hs; cases hs
      · intro hs; exact absurd htaken (hs.2 r mem_cons_self)
    | some t' =>
      have hfree : key r ∉ t.rows.map key := Table.get_eq_none.mp (Table.insert?_eq_some h).1
      rw [Option.bind_some, ih, Table.rows_insert? h, map_append, map_singleton]
      constructor
      · intro hs
        refine ⟨⟨fun hmem => ?_, hs.1⟩, fun r' hr' hmem => ?_⟩
        · obtain ⟨r', hr', e⟩ := List.mem_map.mp hmem
          exact hs.2 r' hr' (mem_append_right _ (mem_singleton.mpr e))
        · rcases mem_cons.mp hr' with e | hr'
          · exact hfree (e ▸ hmem)
          · exact hs.2 r' hr' (mem_append_left _ hmem)
      · intro hs
        refine ⟨hs.1.2, fun r' hr' hmem => ?_⟩
        rcases mem_append.mp hmem with hmem | hmem
        · exact hs.2 r' (mem_cons_of_mem _ hr') hmem
        · exact hs.1.1 (mem_singleton.mp hmem ▸ mem_map_of_mem hr')

/-- After a DELETE of an owner's rows, new rows of that owner only have to differ. -/
theorem Table.insertAll_delete [DecidableEq κ'] {ownerOf : ρ → κ'} {owner : κ'}
    (hkey : ∀ r r', key r = key r' → ownerOf r = ownerOf r') (hrs : ∀ r ∈ rs, ownerOf r = owner) :
    ((t.delete (ownerOf · = owner)).insertAll rs).isSome = true ↔ (rs.map key).Nodup := by
  rw [insertAll_isSome]
  refine and_iff_left ?_
  intro r hr hmem
  obtain ⟨r', hr', e⟩ := List.mem_map.mp hmem
  have hother := (mem_filter.mp hr').2
  rw [Bool.not_eq_true', decide_eq_false_iff_not] at hother
  exact hother ((hkey r' r e).trans (hrs r hr))

/-- New rows are under a part of the key that no old row has. -/
theorem Table.insertAll_new (part : κ → κ') {k : κ'} (hold : ∀ r ∈ t.rows, part (key r) ≠ k)
    (hnew : ∀ r ∈ rs, part (key r) = k) : (t.insertAll rs).isSome = true ↔ (rs.map key).Nodup := by
  rw [insertAll_isSome]
  refine and_iff_left ?_
  intro r hr hmem
  obtain ⟨r', hr', e⟩ := List.mem_map.mp hmem
  exact hold r' hr' (e ▸ hnew r hr)

end Nq.Sql
