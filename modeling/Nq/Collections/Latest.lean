/-
  Nq.Collections.Latest — the first and the last elements of their keys.

  `latest` is what an append-only history says last of each key: one element a key, the last
  of the list (`mem_latest`), in the order in which the keys first appear (`latest_keys`). A map
  that later elements overwrite, beside the keys in the order in which they came, holds just
  that in the end (`collect_foldl`).

  `firstsOn` keeps an element whose key it has not seen, and every element without a key. What
  is kept is a sublist in which keys are distinct (`firstsOn_keys_nodup`), and it has every
  key (`exists_mem_firstsOn`).
-/

import Mathlib.Data.List.Induction
import Mathlib.Data.List.Nodup
import Mathlib.Logic.Function.Basic

namespace Nq.Collections

variable {α κ : Type} [DecidableEq κ]

/-! ## A map and its keys -/

/-- A `HashMap` and the keys in the order in which they came. -/
structure Kept (κ α : Type) where
  order : List κ
  byKey : κ → Option α

def Kept.empty : Kept κ α := ⟨[], fun _ => none⟩

/-- A later value overwrites an earlier one and keeps its place. -/
def Kept.insert (m : Kept κ α) (k : κ) (a : α) : Kept κ α where
  order := if (m.byKey k).isSome then m.order else m.order ++ [k]
  byKey := Function.update m.byKey k (some a)

/-- `keys.into_iter().filter_map(|k| map.remove(&k))`. -/
def drain : List κ → (κ → Option α) → List α
  | [], _ => []
  | k :: ks, m =>
    match m k with
    | some a => a :: drain ks (Function.update m k none)
    | none => drain ks m

def Kept.collect (m : Kept κ α) : List α := drain m.order m.byKey

/-! ## The last of each key -/

def lastOf (key : α → κ) (l : List α) (k : κ) : Option α := l.reverse.find? fun a => key a = k

/-- The last element of each key, in the order in which the keys first appear. -/
def latest (key : α → κ) (l : List α) : List α := (l.map key).eraseDups.filterMap (lastOf key l)

variable {key : α → κ} {l : List α}

theorem lastOf_concat (l : List α) (a : α)
    (k : κ) : lastOf key (l ++ [a]) k = if key a = k then some a else lastOf key l k := by
  unfold lastOf
  rw [List.reverse_append, List.reverse_singleton, List.singleton_append, List.find?_cons]
  by_cases h : key a = k
  · simp [h]
  · simp [h]

variable {a : α} {k : κ}

/-- The last element of a key has no other of it behind. -/
theorem lastOf_eq_some : lastOf key l k = some a ↔
    key a = k ∧ ∃ before after, l = before ++ a :: after ∧ ∀ b ∈ after, key b ≠ k := by
  induction l using List.reverseRecOn with
  | nil => simp [lastOf]
  | append_singleton l b ih =>
    rw [lastOf_concat]
    by_cases h : key b = k
    · rw [if_pos h]
      constructor
      · intro he
        cases he
        exact ⟨h, l, [], rfl, fun _ hb => (List.not_mem_nil hb).elim⟩
      · rintro ⟨_, before, after, hl, hafter⟩
        rcases List.eq_nil_or_concat after with rfl | ⟨after, c, rfl⟩
        · rw [(List.append_inj' hl rfl).2 |> List.singleton_inj.mp]
        · rw [List.concat_eq_append, ← List.cons_append, ← List.append_assoc] at hl
          have hc : b = c := List.singleton_inj.mp (List.append_inj' hl rfl).2
          exact absurd (hc ▸ h) (hafter c (by simp))
    · rw [if_neg h, ih]
      refine and_congr_right fun _ => ?_
      constructor
      · rintro ⟨before, after, rfl, hafter⟩
        refine ⟨before, after ++ [b], by simp, fun c hc => ?_⟩
        rcases List.mem_append.mp hc with hc | hc
        · exact hafter c hc
        · rw [List.mem_singleton.mp hc]
          exact h
      · rintro ⟨before, after, hl, hafter⟩
        rcases List.eq_nil_or_concat after with rfl | ⟨after, c, rfl⟩
        · have hab : b = a := List.singleton_inj.mp (List.append_inj' hl rfl).2
          exact absurd (hab ▸ ‹key a = k›) h
        · rw [List.concat_eq_append, ← List.cons_append, ← List.append_assoc] at hl
          exact ⟨before, after, (List.append_inj' hl rfl).1, fun d hd => hafter d (by simp [hd])⟩

theorem lastOf_isSome : (lastOf key l k).isSome ↔ k ∈ l.map key := by
  unfold lastOf
  rw [List.find?_isSome]
  simp

theorem eraseDups_concat (l : List κ) (k : κ) :
    (l ++ [k]).eraseDups = if k ∈ l then l.eraseDups else l.eraseDups ++ [k] := by
  rw [List.eraseDups_append]
  by_cases h : k ∈ l
  · simp [List.removeAll, h]
  · simp [List.removeAll, h, List.eraseDups_cons]

theorem nodup_eraseDups (l : List κ) : l.eraseDups.Nodup := by
  induction l using List.reverseRecOn with
  | nil => exact List.nodup_nil
  | append_singleton l k ih =>
    rw [eraseDups_concat]
    split
    · exact ih
    · rename_i hk
      exact List.nodup_append.mpr ⟨ih, List.nodup_singleton k, fun a ha b hb hab =>
        hk (List.mem_eraseDups.mp (List.mem_singleton.mp hb ▸ hab ▸ ha))⟩

/-- The keys, each once, in the order in which they first appear. -/
theorem latest_keys (key : α → κ) (l : List α) : (latest key l).map key = (l.map key).eraseDups := by
  unfold latest
  rw [List.map_filterMap]
  calc (l.map key).eraseDups.filterMap _ = (l.map key).eraseDups.filterMap some := List.filterMap_congr fun k hk => by
        obtain ⟨a, ha⟩ := Option.isSome_iff_exists.mp (lastOf_isSome.mpr (List.mem_eraseDups.mp hk))
        rw [ha, Option.map_some, (lastOf_eq_some.mp ha).1]
    _ = (l.map key).eraseDups := List.filterMap_some

theorem latest_nodup (key : α → κ) (l : List α) : ((latest key l).map key).Nodup := by
  rw [latest_keys]
  exact nodup_eraseDups _

theorem mem_latest : a ∈ latest key l ↔ ∃ before after, l = before ++ a :: after ∧ ∀ b ∈ after, key b ≠ key a := by
  unfold latest
  rw [List.mem_filterMap]
  constructor
  · rintro ⟨k, _, h⟩
    obtain ⟨rfl, h⟩ := lastOf_eq_some.mp h
    exact h
  · rintro ⟨before, after, rfl, hafter⟩
    exact ⟨key a, List.mem_eraseDups.mpr (List.mem_map_of_mem (by simp)),
      lastOf_eq_some.mpr ⟨rfl, before, after, rfl, hafter⟩⟩

/-- Elements of `latest` with one key are one. -/
theorem latest_inj {b : α} (ha : a ∈ latest key l) (hb : b ∈ latest key l) (h : key a = key b) : a = b :=
  List.inj_on_of_nodup_map (latest_nodup key l) ha hb h

theorem find?_of_nodup (h : (l.map key).Nodup) (ha : a ∈ l) : l.find? (fun b => key b = key a) = some a := by
  cases hfind : l.find? fun b => key b = key a with
  | none => exact absurd (List.find?_eq_none.mp hfind a ha) (by simp)
  | some b =>
    have hkey : key b = key a := by simpa using List.find?_some hfind
    rw [List.inj_on_of_nodup_map h (List.mem_of_find?_eq_some hfind) ha hkey]

theorem latest_map {β : Type} (f : β → α) (l : List β) : latest key (l.map f) = (latest (key ∘ f) l).map f := by
  unfold latest
  rw [List.map_map, List.map_filterMap]
  refine List.filterMap_congr fun k _ => ?_
  unfold lastOf
  rw [← List.map_reverse, List.find?_map]
  rfl

/-! ## What the map holds in the end -/

theorem drain_eq {ks : List κ} : ∀ {m : κ → Option α}, ks.Nodup → drain ks m = ks.filterMap m := by
  induction ks with
  | nil =>
    intro m _
    rfl
  | cons k ks ih =>
    intro m hnodup
    obtain ⟨hk, hks⟩ := List.nodup_cons.mp hnodup
    unfold drain
    cases h : m k with
    | none =>
      rw [List.filterMap_cons_none h]
      exact ih hks
    | some a =>
      rw [List.filterMap_cons_some h, ih hks]
      refine congrArg (a :: ·) (List.filterMap_congr fun k' hk' => ?_)
      have hne : k' ≠ k := fun he => hk (he ▸ hk')
      rw [Function.update_of_ne hne]

theorem foldl_insert (key : α → κ) (l : List α) :
    l.foldl (fun m a => Kept.insert m (key a) a) Kept.empty = ⟨(l.map key).eraseDups, lastOf key l⟩ := by
  induction l using List.reverseRecOn with
  | nil => rfl
  | append_singleton l a ih =>
    rw [List.foldl_concat, ih, List.map_append, List.map_singleton, eraseDups_concat]
    unfold Kept.insert
    congr 1
    · simp only [lastOf_isSome]
    · funext k
      rw [lastOf_concat]
      by_cases h : key a = k
      · rw [if_pos h, ← h, Function.update_self]
      · rw [if_neg h, Function.update_of_ne (Ne.symm h)]

/-- The map is drained into the last element of each key. -/
theorem collect_foldl (key : α → κ) (l : List α) :
    (l.foldl (fun m a => Kept.insert m (key a) a) Kept.empty).collect = latest key l := by
  rw [foldl_insert]
  exact drain_eq (nodup_eraseDups _)

end Nq.Collections

/-! ## The first of each key -/

namespace Nq.Collections

variable {α κ : Type} [DecidableEq κ] (key : α → Option κ)

/-- The elements of a list whose keys are none of `seen` and none before them. -/
def firstsOn (seen : List κ) : List α → List α
  | [] => []
  | a :: rest =>
    match key a with
    | none => a :: firstsOn seen rest
    | some k => if k ∈ seen then firstsOn seen rest else a :: firstsOn (k :: seen) rest

variable {key} {seen : List κ}

theorem firstsOn_sublist : ∀ (l : List α) (seen : List κ), (firstsOn key seen l).Sublist l := by
  intro l
  induction l with
  | nil =>
    intro seen
    exact .slnil
  | cons a rest ih =>
    intro seen
    unfold firstsOn
    split
    · exact (ih seen).cons_cons a
    · split
      · exact (ih seen).cons a
      · exact (ih _).cons_cons a

theorem firstsOn_new : ∀ {l : List α} {seen : List κ} {a : α} {k : κ}, a ∈ firstsOn key seen l →
    key a = some k → k ∉ seen := by
  intro l
  induction l with
  | nil =>
    intro seen a k ha
    cases ha
  | cons b rest ih =>
    intro seen a k ha hk
    unfold firstsOn at ha
    split at ha
    · rename_i hb
      rcases List.mem_cons.mp ha with e | ha
      · rw [e, hb] at hk
        cases hk
      · exact ih ha hk
    · rename_i k' hb
      split at ha
      · exact ih ha hk
      · rename_i hnew
        rcases List.mem_cons.mp ha with e | ha
        · rw [e, hb] at hk
          cases hk
          exact hnew
        · exact fun hseen => ih ha hk (List.mem_cons_of_mem _ hseen)

/-- Two elements that are kept do not share a key. -/
theorem firstsOn_keys_nodup :
    ∀ (l : List α) (seen : List κ), (firstsOn key seen l).Pairwise fun a b => ∀ k, key a = some k → key b ≠ some k := by
  intro l
  induction l with
  | nil =>
    intro seen
    exact .nil
  | cons a rest ih =>
    intro seen
    unfold firstsOn
    split
    · rename_i ha
      refine List.pairwise_cons.mpr ⟨fun b _ k hk => ?_, ih seen⟩
      rw [ha] at hk
      cases hk
    · rename_i k ha
      split
      · exact ih seen
      · refine List.pairwise_cons.mpr ⟨fun b hb k' hk hkb => ?_, ih _⟩
        rw [ha] at hk
        cases hk
        exact firstsOn_new hb hkb List.mem_cons_self

variable (key) in
/-- Every key that was not seen is kept. -/
theorem exists_mem_firstsOn : ∀ {l : List α} {seen : List κ} {a : α} {k : κ}, a ∈ l → key a = some k → k ∉ seen →
    ∃ b ∈ firstsOn key seen l, key b = some k := by
  intro l
  induction l with
  | nil =>
    intro seen a k ha
    cases ha
  | cons b rest ih =>
    intro seen a k ha hk hnew
    unfold firstsOn
    rcases List.mem_cons.mp ha with e | ha
    · subst e
      rw [hk]
      dsimp only
      rw [if_neg hnew]
      exact ⟨a, List.mem_cons_self, hk⟩
    · split
      · obtain ⟨c, hc, hck⟩ := ih ha hk hnew
        exact ⟨c, List.mem_cons_of_mem _ hc, hck⟩
      · rename_i k' hb
        split
        · exact ih ha hk hnew
        · by_cases e : k = k'
          · exact ⟨b, List.mem_cons_self, e ▸ hb⟩
          · have hnew' : k ∉ k' :: seen := fun h => (List.mem_cons.mp h).elim e hnew
            obtain ⟨c, hc, hck⟩ := ih ha hk hnew'
            exact ⟨c, List.mem_cons_of_mem _ hc, hck⟩

end Nq.Collections
