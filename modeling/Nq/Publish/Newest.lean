/-
  Nq.Publish.Newest — the newest generation.

  A publication makes a newer one; an update and a retention sweep keep it.
-/

import Nq.Detect.Fresh
import Nq.Publish.Serve

namespace Nq

open Sql (Table)

structure Newest (db : Db) (g : Int) : Prop where
  present : (db.generations.get g).isSome = true
  last : ∀ g', (db.generations.get g').isSome = true → g' ≤ g

variable {db db' : Db} {g : Int} {b : Batch}

theorem maxGeneration_eq_some : db.maxGeneration = some g ↔ Newest db g := by
  unfold Db.maxGeneration
  rw [Option.map_eq_some_iff]
  constructor
  · rintro ⟨row, hrow, rfl⟩
    obtain ⟨hmem, hmax⟩ := Sql.firstBy_desc hrow
    refine ⟨by rw [Table.get_of_mem hmem]; rfl, ?_⟩
    intro g' hg'
    obtain ⟨row', hrow'⟩ := Option.isSome_iff_exists.mp hg'
    rw [← Table.key_of_get hrow']
    exact hmax row' (Table.mem_of_get hrow')
  · intro h
    obtain ⟨row, hrow⟩ := Option.isSome_iff_exists.mp h.present
    cases hlatest : db.latestGeneration with
    | none =>
      have hnil : db.generations.rows = [] := Sql.firstBy_eq_none hlatest
      have hmem := Table.mem_of_get hrow
      rw [hnil] at hmem
      cases hmem
    | some latest =>
      obtain ⟨hmem, hmax⟩ := Sql.firstBy_desc hlatest
      have hle := h.last latest.generationId (by rw [Table.get_of_mem hmem]; rfl)
      have hge := hmax row (Table.mem_of_get hrow)
      rw [Table.key_of_get hrow] at hge
      exact ⟨latest, rfl, Int.le_antisymm hle hge⟩

theorem Published.newest (h : Published b db db' g) : Newest db' g :=
  maxGeneration_eq_some.mp h.maxGeneration

theorem Published.newer {m : Int} (h : Published b db db' g) (hm : Newest db m) : m < g := by
  obtain ⟨row, hrow⟩ := Option.isSome_iff_exists.mp hm.present
  have hlt := Table.lt_nextRowid (Table.mem_of_get hrow)
  rw [Table.key_of_get hrow] at hlt
  rw [h.fresh]
  exact hlt

theorem Updated.newest_iff {u : UpdateCall} (h : Updated u db db') : Newest db' g ↔ Newest db g := by
  constructor
  · exact fun hn => ⟨h.generations g ▸ hn.present, fun g' hg' => hn.last g' (h.generations g' ▸ hg')⟩
  · exact fun hn => ⟨h.generations g ▸ hn.present, fun g' hg' => hn.last g' (h.generations g' ▸ hg')⟩

/-- A sweep keeps the newest generation. -/
theorem prune_newest_iff {maxGenerations : Nat} (hmax : 0 < maxGenerations) :
    Newest (db.prune maxGenerations) g ↔ Newest db g := by
  have hget : ∀ g, ((db.prune maxGenerations).generations.get g).isSome = true →
      (db.generations.get g).isSome = true := by
    intro g hg
    have hdelete : ((db.generations.delete _).get g).isSome = true := hg
    rw [Table.get_delete] at hdelete
    exact Option.isSome_of_isSome_filter _ _ hdelete
  have hkeep : ∀ g, Newest db g → ((db.prune maxGenerations).generations.get g).isSome = true := by
    intro g hg
    obtain ⟨row, hrow⟩ := Option.isSome_iff_exists.mp hg.present
    have hnone : db.generations.rows.filter (g < ·.generationId) = [] := by
      refine List.filter_eq_nil_iff.mpr fun row' hrow' => ?_
      have hle := hg.last row'.generationId (by rw [Table.get_of_mem hrow']; rfl)
      simp only [decide_eq_true_eq]
      omega
    show ((db.generations.delete _).get g).isSome = true
    have hid : row.generationId = g := Table.key_of_get hrow
    have hkept : (!decide (maxGenerations ≤ (db.generations.rows.filter (row.generationId < ·.generationId)).length)) =
        true := by
      rw [hid, hnone]
      simpa using hmax.ne'
    rw [Table.get_delete, hrow, Option.filter_some, if_pos hkept]
    rfl
  constructor
  · intro hn
    cases hmax' : db.maxGeneration with
    | none =>
      obtain ⟨row, hrow⟩ := Option.isSome_iff_exists.mp (hget g hn.present)
      have hlatest : db.latestGeneration = none := Option.map_eq_none_iff.mp hmax'
      have hnil : db.generations.rows = [] := Sql.firstBy_eq_none hlatest
      have hmem := Table.mem_of_get hrow
      rw [hnil] at hmem
      cases hmem
    | some m =>
      have hm := maxGeneration_eq_some.mp hmax'
      have hge := hn.last m (hkeep m hm)
      have hle := hm.last g (hget g hn.present)
      obtain rfl : g = m := Int.le_antisymm hle hge
      exact hm
  · exact fun hn => ⟨hkeep g hn, fun g' hg' => hn.last g' (hget g' hg')⟩

end Nq
