/-
  Nq.Collections.Ordered — vectors put in order, and sets kept in order.

  `sort` forgets the order a vector came in (`sort_congr`), and `sortDedup` also how often it
  holds each element: what is left is the strictly increasing list of its elements
  (`sortDedup_congr`). A `BTreeSet` is such a list, so two of them that hold the same
  elements are equal (`BTreeSet.ext_mem`), and a proper subset is smaller (`card_lt`).

  In a set whose every element but the last has another at most `d` after it (`Spaced`), something
  lies within `d` after every place between two elements (`Spaced.crossing`), and there are as
  many elements as the distance has room for (`Spaced.lt_card`).
-/

import Mathlib.Algebra.Order.Group.Basic
import Mathlib.Data.Finset.Max
import Mathlib.Data.List.Destutter
import Mathlib.Data.List.Nodup
import Mathlib.Data.List.Sort

namespace Nq.Collections

open List hiding le_antisymm le_of_lt le_refl lt_of_le_of_lt not_le not_lt

section

variable {α : Type} [LinearOrder α]

/-! ## Sorting -/

def sort (l : List α) : List α := l.insertionSort (· ≤ ·)

/-- Sorted, then without adjacent duplicates. -/
def sortDedup (l : List α) : List α := (sort l).destutter (· ≠ ·)

variable {l l' : List α}

theorem sort_perm (l : List α) : (sort l).Perm l := perm_insertionSort _ l

variable {a : α}

@[simp] theorem mem_sort : a ∈ sort l ↔ a ∈ l := (sort_perm l).mem_iff

@[simp] theorem length_sort (l : List α) : (sort l).length = l.length := (sort_perm l).length_eq

theorem sort_pairwise (l : List α) : (sort l).Pairwise (· ≤ ·) := pairwise_insertionSort _ l

theorem sort_congr (h : l.Perm l') : sort l = sort l' :=
  List.Perm.eq_of_pairwise' (sort_pairwise l) (sort_pairwise l') (((sort_perm l).trans h).trans (sort_perm l').symm)

theorem sort_of_sorted (h : l.Pairwise (· ≤ ·)) : sort l = l := List.Pairwise.insertionSort_eq h

theorem sort_sort (l : List α) : sort (sort l) = sort l := sort_of_sorted (sort_pairwise l)

theorem sort_nodup (h : l.Nodup) : (sort l).Nodup := (sort_perm l).nodup_iff.mpr h

/-! ## Without duplicates -/

theorem mem_destutter_ne : ∀ {l : List α}, a ∈ l.destutter (· ≠ ·) ↔ a ∈ l := by
  have hcons : ∀ (l : List α) (b : α), a ∈ l.destutter' (· ≠ ·) b ↔ a = b ∨ a ∈ l := by
    intro l
    induction l with
    | nil => intro b; simp
    | cons c l ih =>
      intro b
      by_cases h : b ≠ c
      · rw [destutter'_cons_pos _ h, mem_cons, ih, mem_cons]
      · rw [destutter'_cons_neg _ h, ih, mem_cons, not_not.mp h]
        exact ⟨Or.imp_right Or.inr, fun h => h.elim Or.inl id⟩
  intro l
  cases l with
  | nil => rfl
  | cons b l => rw [destutter_cons', hcons, mem_cons]

@[simp] theorem mem_sortDedup : a ∈ sortDedup l ↔ a ∈ l := by
  unfold sortDedup
  rw [mem_destutter_ne, mem_sort]

theorem sortDedup_pairwise (l : List α) : (sortDedup l).Pairwise (· < ·) := by
  have hle : (sortDedup l).Pairwise (· ≤ ·) := (sort_pairwise l).sublist (destutter_sublist _ _)
  have hne : (sortDedup l).IsChain (· ≠ ·) := isChain_destutter _ _
  refine isChain_iff_pairwise.mp ?_
  refine isChain_iff_getElem.mpr fun i hi => ?_
  exact lt_of_le_of_ne (isChain_iff_getElem.mp (isChain_iff_pairwise.mpr hle) i hi)
    (isChain_iff_getElem.mp hne i hi)

theorem sortDedup_nodup (l : List α) : (sortDedup l).Nodup := (sortDedup_pairwise l).imp ne_of_lt

theorem sortDedup_congr (h : ∀ a, a ∈ l ↔ a ∈ l') : sortDedup l = sortDedup l' :=
  List.Pairwise.eq_of_mem_iff (sortDedup_pairwise l) (sortDedup_pairwise l') fun a => by
    rw [mem_sortDedup, mem_sortDedup, h a]

theorem sortDedup_of_nodup (h : l.Nodup) : sortDedup l = sort l :=
  destutter_of_isChain _ _ (List.Pairwise.isChain (sort_nodup h))

theorem length_sortDedup_le_one : (sortDedup l).length ≤ 1 ↔ ∀ a ∈ l, ∀ b ∈ l, a = b := by
  have hmem : ∀ a, a ∈ sortDedup l ↔ a ∈ l := fun a => mem_sortDedup
  have hn := sortDedup_nodup l
  generalize sortDedup l = d at hmem hn
  constructor
  · intro h a ha b hb
    rw [← hmem] at ha hb
    match d with
    | [] => cases ha
    | [c] => rw [mem_singleton.mp ha, mem_singleton.mp hb]
    | _ :: _ :: _ => simp at h
  · intro h
    match d with
    | [] => exact Nat.zero_le _
    | [_] => exact Nat.le_refl _
    | a :: b :: d =>
      have hab : a = b := h a ((hmem a).mp (by simp)) b ((hmem b).mp (by simp))
      simp [hab] at hn

theorem sort_sortDedup (l : List α) : sort (sortDedup l) = sortDedup l :=
  sort_of_sorted ((sortDedup_pairwise l).imp le_of_lt)

end

/-! ## By a key -/

section

variable {α κ : Type} [LinearOrder κ]

/-- Sorted by a key, then without adjacent repetitions of it. -/
def sortDedupOn (key : α → κ) (l : List α) : List α :=
  (l.insertionSort fun a b => key a ≤ key b).destutter fun a b => key a ≠ key b

variable {key : α → κ} {l l' : List α}

@[simp] theorem sortDedupOn_singleton (a : α) : sortDedupOn key [a] = [a] := rfl

theorem map_sort_on : (l.insertionSort fun a b => key a ≤ key b).map key = sort (l.map key) :=
  map_insertionSort _ _ key l fun _ _ _ _ => Iff.rfl

theorem sortOn_pairwise (l : List α) :
    (l.insertionSort fun a b => key a ≤ key b).Pairwise fun a b => key a ≤ key b := by
  have hle := sort_pairwise (l.map key)
  rw [← map_sort_on] at hle
  exact pairwise_map.mp hle

/-- Nothing is dropped where no key is repeated. -/
theorem sortDedupOn_of_nodup (h : (l.map key).Nodup) :
    sortDedupOn key l = l.insertionSort fun a b => key a ≤ key b := by
  refine destutter_of_isChain _ _ ?_
  have hne : (sort (l.map key)).IsChain (· ≠ ·) := List.Pairwise.isChain (sort_nodup h)
  rw [← map_sort_on] at hne
  exact (isChain_map key).mp hne

theorem sortDedupOn_perm (h : (l.map key).Nodup) : (sortDedupOn key l).Perm l :=
  sortDedupOn_of_nodup h ▸ perm_insertionSort _ l

theorem map_sortDedupOn (h : (l.map key).Nodup) : (sortDedupOn key l).map key = sort (l.map key) :=
  sortDedupOn_of_nodup h ▸ map_sort_on

theorem sortDedupOn_congr (h : (l.map key).Nodup) (hp : l.Perm l') : sortDedupOn key l = sortDedupOn key l' := by
  have h' : (l'.map key).Nodup := (hp.map key).nodup_iff.mp h
  have hperm := ((sortDedupOn_perm h).trans hp).trans (sortDedupOn_perm h').symm
  have hsorted : ∀ {m : List α}, (m.map key).Nodup → (sortDedupOn key m).Pairwise fun a b => key a ≤ key b := by
    intro m hm
    rw [sortDedupOn_of_nodup hm]
    exact sortOn_pairwise m
  refine List.Perm.eq_of_pairwise (fun a b ha hb hab hba => ?_) (hsorted h) (hsorted h') hperm
  exact inj_on_of_nodup_map h ((sortDedupOn_perm h).mem_iff.mp ha)
    (hp.mem_iff.mpr ((sortDedupOn_perm h').mem_iff.mp hb)) (le_antisymm hab hba)

/-- Where no key is repeated, sorting by it forgets the order. -/
theorem sortOn_congr (h : (l.map key).Nodup) (hp : l.Perm l') :
    (l.insertionSort fun a b => key a ≤ key b) = l'.insertionSort fun a b => key a ≤ key b := by
  rw [← sortDedupOn_of_nodup h, ← sortDedupOn_of_nodup ((hp.map key).nodup_iff.mp h)]
  exact sortDedupOn_congr h hp

end

theorem exists_of_forall₂ {α β : Type} {R : α → β → Prop} {l : List α} {l' : List β} (h : List.Forall₂ R l l') :
    (∀ a ∈ l, ∃ b ∈ l', R a b) ∧ ∀ b ∈ l', ∃ a ∈ l, R a b := by
  induction h with
  | nil => exact ⟨fun _ h => (nomatch h), fun _ h => (nomatch h)⟩
  | cons hab _ ih =>
    constructor
    · intro a ha
      rcases mem_cons.mp ha with e | ha
      · exact ⟨_, mem_cons_self, e ▸ hab⟩
      · obtain ⟨b, hb, hr⟩ := ih.1 a ha
        exact ⟨b, mem_cons_of_mem _ hb, hr⟩
    · intro b hb
      rcases mem_cons.mp hb with e | hb
      · exact ⟨_, mem_cons_self, e ▸ hab⟩
      · obtain ⟨a, ha, hr⟩ := ih.2 b hb
        exact ⟨a, mem_cons_of_mem _ ha, hr⟩

/-! ## Sets -/

/-- A set as the increasing list of its elements. -/
structure BTreeSet (α : Type) [LinearOrder α] where
  toList : List α
  sorted : toList.Pairwise (· < ·)
  deriving DecidableEq

namespace BTreeSet

variable {α : Type} [LinearOrder α] {s t u : BTreeSet α}

instance : Membership α (BTreeSet α) := ⟨fun s a => a ∈ s.toList⟩

instance (a : α) (s : BTreeSet α) : Decidable (a ∈ s) := inferInstanceAs (Decidable (a ∈ s.toList))

instance : HasSubset (BTreeSet α) := ⟨fun s t => ∀ a ∈ s.toList, a ∈ t.toList⟩

instance (s t : BTreeSet α) : Decidable (s ⊆ t) := inferInstanceAs (Decidable (∀ a ∈ s.toList, a ∈ t.toList))

instance : HasSSubset (BTreeSet α) := ⟨fun s t => s ⊆ t ∧ s ≠ t⟩

def empty : BTreeSet α := ⟨[], List.Pairwise.nil⟩

/-- The set of what a vector holds. -/
def ofList (l : List α) : BTreeSet α := ⟨sortDedup l, sortDedup_pairwise l⟩

def card (s : BTreeSet α) : Nat := s.toList.length

theorem nodup (s : BTreeSet α) : s.toList.Nodup := s.sorted.imp ne_of_lt

variable {a : α}

theorem mem_iff : a ∈ s ↔ a ∈ s.toList := Iff.rfl

@[simp] theorem mem_ofList {l : List α} : a ∈ ofList l ↔ a ∈ l := mem_sortDedup

theorem ext_mem (h : ∀ a, a ∈ s ↔ a ∈ t) : s = t := by
  obtain ⟨l, hl⟩ := s
  obtain ⟨l', hl'⟩ := t
  have hlist : l = l' := List.Pairwise.eq_of_mem_iff hl hl' h
  subst hlist
  rfl

theorem ofList_congr {l l' : List α} (h : ∀ a, a ∈ l ↔ a ∈ l') : ofList l = ofList l' :=
  ext_mem fun a => by rw [mem_ofList, mem_ofList, h a]

theorem toList_ofList_of_nodup {l : List α} (h : l.Nodup) : (ofList l).toList = sort l := sortDedup_of_nodup h

theorem card_ofList_of_nodup {l : List α} (h : l.Nodup) : (ofList l).card = l.length := by
  unfold card
  rw [toList_ofList_of_nodup h, length_sort]

theorem subset_refl (s : BTreeSet α) : s ⊆ s := fun _ h => h

theorem subset_trans (h : s ⊆ t) (h' : t ⊆ u) : s ⊆ u := fun a ha => h' a (h a ha)

theorem subset_antisymm (h : s ⊆ t) (h' : t ⊆ s) : s = t := ext_mem fun a => ⟨h a, h' a⟩

theorem card_le (h : s ⊆ t) : s.card ≤ t.card := (subperm_of_subset s.nodup h).length_le

theorem ssubset_of_ssubset_of_subset (h : s ⊂ t) (h' : t ⊆ u) : s ⊂ u :=
  ⟨subset_trans h.1 h', fun e => h.2 (subset_antisymm h.1 (e ▸ h'))⟩

theorem ssubset_of_subset_of_ssubset (h : s ⊆ t) (h' : t ⊂ u) : s ⊂ u :=
  ⟨subset_trans h h'.1, fun e => h'.2 (subset_antisymm h'.1 (e ▸ h))⟩

/-- A proper subset is smaller. -/
theorem card_lt (h : s ⊂ t) : s.card < t.card := by
  refine lt_of_le_of_ne (card_le h.1) ?_
  intro hcard
  have hperm := (subperm_of_subset s.nodup h.1).perm_of_length_le (Nat.le_of_eq hcard.symm)
  exact h.2 (ext_mem fun a => hperm.mem_iff)

end BTreeSet

/-! ## Without a wide gap -/

variable {α : Type} [AddCommGroup α] [LinearOrder α] [IsOrderedAddMonoid α]

/-- Every element but the last has another at most `d` after it. -/
def Spaced (d : α) (s : Finset α) : Prop := ∀ a ∈ s, ∀ b ∈ s, a < b → ∃ c ∈ s, a < c ∧ c ≤ a + d

variable {d : α} {s : Finset α} {b : α}

theorem Spaced.crossing (h : Spaced d s) {a x : α} (ha : a ∈ s) (hax : a ≤ x) (hb : b ∈ s) (hxb : x < b) :
    ∃ c ∈ s, x < c ∧ c ≤ x + d := by
  -- the last element up to `x`
  obtain ⟨m, hm, hmax⟩ := (s.filter (· ≤ x)).exists_max_image id ⟨a, Finset.mem_filter.mpr ⟨ha, hax⟩⟩
  obtain ⟨hms, hmx⟩ := Finset.mem_filter.mp hm
  obtain ⟨c, hc, hmc, hcd⟩ := h m hms b hb (lt_of_le_of_lt hmx hxb)
  refine ⟨c, hc, ?_, hcd.trans (add_le_add_left hmx d)⟩
  by_contra hcx
  exact absurd (hmax c (Finset.mem_filter.mpr ⟨hc, not_lt.mp hcx⟩)) (not_le.mpr hmc)

theorem Spaced.lt_card (h : Spaced d s) (hd : 0 ≤ d) (hb : b ∈ s) :
    ∀ (n : Nat) {a : α}, a ∈ s → a + n • d < b → n < (s.filter (a ≤ ·)).card := by
  intro n
  induction n with
  | zero =>
    intro a ha _
    exact Finset.card_pos.mpr ⟨a, Finset.mem_filter.mpr ⟨ha, le_refl a⟩⟩
  | succ n ih =>
    intro a ha hab
    have hlt : a < b := lt_of_le_of_lt (le_add_of_nonneg_right (nsmul_nonneg hd (n + 1))) hab
    obtain ⟨c, hc, hac, hcd⟩ := h a ha b hb hlt
    have hcb : c + n • d < b := by
      rw [succ_nsmul', ← add_assoc] at hab
      exact lt_of_le_of_lt (add_le_add_left hcd _) hab
    -- what comes from `c` on comes from `a` on, and `a` besides
    refine lt_of_le_of_lt (ih hc hcb) (Finset.card_lt_card ?_)
    refine Finset.ssubset_iff_subset_ne.mpr ⟨fun x hx => ?_, fun e => ?_⟩
    · obtain ⟨hx, hcx⟩ := Finset.mem_filter.mp hx
      exact Finset.mem_filter.mpr ⟨hx, hac.le.trans hcx⟩
    · have ha' : a ∈ s.filter (c ≤ ·) := e ▸ Finset.mem_filter.mpr ⟨ha, le_refl a⟩
      exact absurd (Finset.mem_filter.mp ha').2 (not_le.mpr hac)

end Nq.Collections
