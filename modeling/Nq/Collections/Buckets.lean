/-
  Nq.Collections.Buckets — a sorted map of vectors that is filled by key.

  `buckets` puts each element behind the others of its key, as
  `map.entry(key(a)).or_default().push(a)` does for a `BTreeMap`. The keys come out in their
  order (`buckets_sorted`), a bucket holds elements of its key alone and at least one of them
  (`mem_buckets`), and together they hold what was put in (`buckets_perm`).
-/

import Mathlib.Data.List.Induction
import Mathlib.Data.List.Perm.Basic
import Mathlib.Order.Lattice

namespace Nq.Collections

open List hiding lt_trans not_lt

variable {α κ : Type} [LinearOrder κ]

/-- `entry(k).or_default().push(a)`. -/
def push (k : κ) (a : α) : List (κ × List α) → List (κ × List α)
  | [] => [(k, [a])]
  | (k', as) :: rest =>
    if k < k' then (k, [a]) :: (k', as) :: rest
    else if k = k' then (k', as ++ [a]) :: rest
    else (k', as) :: push k a rest

def buckets (key : α → κ) (l : List α) : List (κ × List α) := l.foldl (fun m a => push (key a) a m) []

/-! ## One element -/

section

variable {k : κ} {a : α} {m : List (κ × List α)}

theorem push_perm (k : κ) (a : α) (m : List (κ × List α)) :
    ((push k a m).flatMap Prod.snd).Perm (a :: m.flatMap Prod.snd) := by
  induction m with
  | nil => exact List.Perm.refl _
  | cons b rest ih =>
    obtain ⟨k', as⟩ := b
    unfold push
    split
    · exact List.Perm.refl _
    · split
      · show ((as ++ [a]) ++ rest.flatMap Prod.snd).Perm (a :: (as ++ rest.flatMap Prod.snd))
        rw [append_assoc]
        exact perm_middle
      · show (as ++ (push k a rest).flatMap Prod.snd).Perm (a :: (as ++ rest.flatMap Prod.snd))
        exact (ih.append_left as).trans perm_middle

theorem push_keys {x : κ} (hx : x ∈ (push k a m).map Prod.fst) : x = k ∨ x ∈ m.map Prod.fst := by
  induction m with
  | nil => exact .inl (mem_singleton.mp hx)
  | cons b rest ih =>
    obtain ⟨k', as⟩ := b
    unfold push at hx
    split at hx
    · exact (mem_cons.mp hx).imp_right id
    · split at hx
      · exact .inr hx
      · rcases mem_cons.mp hx with e | hx
        · exact .inr (mem_cons.mpr (.inl e))
        · exact (ih hx).imp_right (mem_cons_of_mem _)

theorem push_sorted (h : (m.map Prod.fst).Pairwise (· < ·)) : ((push k a m).map Prod.fst).Pairwise (· < ·) := by
  induction m with
  | nil => exact pairwise_singleton _ _
  | cons b rest ih =>
    obtain ⟨k', as⟩ := b
    have hrest := pairwise_cons.mp h
    unfold push
    split
    · rename_i hlt
      refine pairwise_cons.mpr ⟨fun x hx => ?_, h⟩
      rcases mem_cons.mp hx with e | hx
      · exact e ▸ hlt
      · exact lt_trans hlt (hrest.1 x hx)
    · split
      · exact h
      · rename_i hnot hne
        refine pairwise_cons.mpr ⟨fun x hx => ?_, ih hrest.2⟩
        rcases push_keys hx with e | hx
        · exact e ▸ lt_of_le_of_ne (not_lt.mp hnot) fun e' => hne e'.symm
        · exact hrest.1 x hx

/-- A bucket of one key, with something in it. -/
structure Holds (key : α → κ) (b : κ × List α) : Prop where
  alike : ∀ a ∈ b.2, key a = b.1
  filled : b.2 ≠ []

theorem push_holds {key : α → κ} (h : ∀ b ∈ m, Holds key b) (a : α) : ∀ b ∈ push (key a) a m, Holds key b := by
  have hnew : Holds key (key a, [a]) := ⟨fun x hx => by rw [mem_singleton.mp hx], cons_ne_nil _ _⟩
  induction m with
  | nil =>
    intro b hb
    rw [mem_singleton.mp hb]
    exact hnew
  | cons c rest ih =>
    obtain ⟨k', as⟩ := c
    have hrest := forall_mem_cons.mp h
    unfold push
    split
    · exact forall_mem_cons.mpr ⟨hnew, h⟩
    · split
      · rename_i heq
        refine forall_mem_cons.mpr ⟨⟨fun x hx => ?_, append_ne_nil_of_right_ne_nil _ (cons_ne_nil _ _)⟩, hrest.2⟩
        rcases mem_append.mp hx with hx | hx
        · exact hrest.1.alike x hx
        · rw [mem_singleton.mp hx]
          exact heq
      · exact forall_mem_cons.mpr ⟨hrest.1, ih hrest.2⟩

end

/-! ## All of them -/

section

variable (key : α → κ) (l : List α)

/-- What holds of the empty map and is kept by every push holds of the buckets. -/
theorem buckets_induction {P : List α → List (κ × List α) → Prop} (hnil : P [] [])
    (hpush : ∀ l a m, P l m → P (l ++ [a]) (push (key a) a m)) : P l (buckets key l) := by
  unfold buckets
  induction l using List.reverseRecOn with
  | nil => exact hnil
  | append_singleton l a ih =>
    rw [foldl_append]
    exact hpush l a _ ih

theorem buckets_sorted : ((buckets key l).map Prod.fst).Pairwise (· < ·) :=
  buckets_induction key l (P := fun _ m =>
    (m.map Prod.fst).Pairwise (· < ·)) List.Pairwise.nil fun _ _ _ h => push_sorted h

theorem mem_buckets : ∀ b ∈ buckets key l, Holds key b :=
  buckets_induction key l (P := fun _ m => ∀ b ∈ m, Holds key b) (fun _ h => (nomatch h)) fun _ a _ h => push_holds h a

theorem buckets_perm : ((buckets key l).flatMap Prod.snd).Perm l := by
  refine buckets_induction key l (P := fun l m => (m.flatMap Prod.snd).Perm l) (List.Perm.refl _) fun l a m h => ?_
  exact (push_perm (key a) a m).trans ((h.cons a).trans (perm_append_singleton a l).symm)

end

end Nq.Collections
