/-
  Nq.Collections.Checks — validations: checks in a row, each of which may refuse with a text.

  A row of checks passes exactly when each of them does (`check_ok`). A loop that checks its
  elements and refuses a repeated key passes exactly when every element does and the keys are
  distinct (`checkDistinct_ok`).
-/

import Mathlib.Data.List.Nodup
import Nq.Sql.Table

namespace Nq.Collections

open List

variable {α β κ : Type}

/-! ## Checks in a row -/

/-- `if bad { return Err(text) }`. -/
def rejectIf (bad : Bool) (text : String) : Except String Unit := if bad then .error text else .ok ()

/-- `ok_or_else`. -/
def okOr (o : Option α) (text : String) : Except String α :=
  match o with
  | some a => .ok a
  | none => .error text

variable {text : String} {b : β} {ε : Type} {as : List α} {f : α → Except ε β} {bs : List β}

@[simp] theorem rejectIf_ok {bad : Bool} {u : Unit} : rejectIf bad text = .ok u ↔ bad = false := by
  unfold rejectIf
  cases bad <;> simp

@[simp] theorem okOr_ok {o : Option α} {a : α} : okOr o text = .ok a ↔ o = some a := by
  cases o <;> simp [okOr]

theorem check_ok {x : Except ε Unit} {f : Unit → Except ε β} : x >>= f = .ok b ↔ x = .ok () ∧ f () = .ok b := by
  rw [Sql.bind_ok]
  exact ⟨fun ⟨_, h⟩ => h, fun h => ⟨(), h⟩⟩

/-! ## Loops of checks -/

theorem forM_ok {check : α → Except String Unit} : as.forM check = .ok () ↔ ∀ a ∈ as, check a = .ok () := by
  induction as with
  | nil => exact ⟨fun _ _ h => (not_mem_nil h).elim, fun _ => rfl⟩
  | cons a as ih =>
    show (check a >>= fun _ => as.forM check) = _ ↔ _
    rw [check_ok, ih, forall_mem_cons]

section

variable [DecidableEq κ] (check : α → Except String Unit) (key : α → κ) (repeated : α → String)

/-- Checks each element, and that its key is none of those before it. -/
def checkDistinct (seen : List κ) : List α → Except String Unit
  | [] => .ok ()
  | a :: as => do
    check a
    rejectIf (key a ∈ seen) (repeated a)
    checkDistinct (key a :: seen) as

variable {check key repeated}

theorem checkDistinct_seen : ∀ {as : List α} {seen : List κ}, checkDistinct check key repeated seen as = .ok () ↔
    (∀ a ∈ as, check a = .ok ()) ∧ (as.map key).Nodup ∧ ∀ a ∈ as, key a ∉ seen := by
  intro as
  induction as with
  | nil => intro seen; simp [checkDistinct]
  | cons a as ih =>
    intro seen
    show (check a >>= _) = _ ↔ _
    rw [check_ok, check_ok, rejectIf_ok, decide_eq_false_iff_not, ih, map_cons, nodup_cons, forall_mem_cons,
      forall_mem_cons]
    constructor
    · intro h
      obtain ⟨ha, hseen, has, hn, hrest⟩ := h
      refine ⟨⟨ha, has⟩, ⟨?_, hn⟩, hseen, fun b hb hmem => hrest b hb (mem_cons_of_mem _ hmem)⟩
      intro hmem
      obtain ⟨b, hb, e⟩ := List.mem_map.mp hmem
      exact hrest b hb (e ▸ mem_cons_self)
    · intro h
      obtain ⟨⟨ha, has⟩, ⟨hfresh, hn⟩, hseen, hrest⟩ := h
      refine ⟨ha, hseen, has, hn, fun b hb hmem => ?_⟩
      rcases mem_cons.mp hmem with e | hmem
      · exact hfresh (e ▸ mem_map_of_mem hb)
      · exact hrest b hb hmem

theorem checkDistinct_ok {as : List α} {u : Unit} : checkDistinct check key repeated [] as = .ok u ↔
    (∀ a ∈ as, check a = .ok ()) ∧ (as.map key).Nodup := by
  cases u
  rw [checkDistinct_seen]
  exact ⟨fun h => ⟨h.1, h.2.1⟩, fun h => ⟨h.1, h.2, fun _ _ hmem => nomatch hmem⟩⟩

end

/-! ## Loops that answer -/

theorem mapM_ok :
    ∀ {as : List α} {bs : List β}, as.mapM f = .ok bs ↔ List.Forall₂ (fun a b => f a = .ok b) as bs := by
  intro as
  induction as with
  | nil =>
    intro bs
    cases bs with
    | nil => exact ⟨fun _ => .nil, fun _ => rfl⟩
    | cons b bs => exact ⟨fun h => (nomatch h), fun h => (nomatch h)⟩
  | cons a as ih =>
    intro bs
    rw [mapM_cons, Sql.bind_ok]
    constructor
    · intro h
      obtain ⟨b, hb, h⟩ := h
      obtain ⟨bs', hbs, h⟩ := Sql.bind_ok.mp h
      cases h
      exact .cons hb (ih.mp hbs)
    · intro h
      cases h with
      | cons hb hbs => exact ⟨_, hb, Sql.bind_ok.mpr ⟨_, ih.mpr hbs, rfl⟩⟩

/-- What such a loop answers are the answers to its elements. -/
theorem mem_of_mapM (h : as.mapM f = .ok bs) : b ∈ bs ↔ ∃ a ∈ as, f a = .ok b := by
  have hall := mapM_ok.mp h
  clear h
  induction hall with
  | nil => simp
  | cons hab _ ih =>
    rw [mem_cons, exists_mem_cons_iff]
    refine or_congr ?_ ih
    rw [hab, Except.ok.injEq, eq_comm]

/-- It answers if each of its elements has an answer. -/
theorem mapM_answers : (∃ bs, as.mapM f = .ok bs) ↔ ∀ a ∈ as, ∃ b, f a = .ok b := by
  constructor
  · rintro ⟨bs, h⟩
    have hall := mapM_ok.mp h
    clear h
    induction hall with
    | nil => simp
    | cons hab _ ih => exact forall_mem_cons.mpr ⟨⟨_, hab⟩, ih⟩
  · intro h
    induction as with
    | nil => exact ⟨[], rfl⟩
    | cons a as ih =>
      obtain ⟨⟨b, hb⟩, h⟩ := forall_mem_cons.mp h
      obtain ⟨bs, hbs⟩ := ih h
      exact ⟨b :: bs, mapM_ok.mpr (.cons hb (mapM_ok.mp hbs))⟩

/-- A loop that refuses bad elements and turns the others into texts. -/
theorem mapM_guard {bad : α → Bool} {refusal : α → ε} {f : α → β} :
    (as.mapM fun a => if bad a = true then Except.error (refusal a) else .ok (f a)) = .ok bs ↔
      (∀ a ∈ as, bad a = false) ∧ bs = as.map f := by
  rw [mapM_ok]
  induction as generalizing bs with
  | nil => simp
  | cons a as ih =>
    rw [forall_mem_cons, map_cons, forall₂_cons_left_iff]
    constructor
    · rintro ⟨b, bs, hb, hbs, rfl⟩
      obtain ⟨hall, rfl⟩ := ih.mp hbs
      split at hb
      · cases hb
      · rename_i hgood
        exact ⟨⟨by simpa using hgood, hall⟩, by rw [Except.ok.inj hb]⟩
    · rintro ⟨⟨hgood, hall⟩, rfl⟩
      exact ⟨f a, as.map f, by rw [if_neg (by simp [hgood])], ih.mpr ⟨hall, rfl⟩, rfl⟩

theorem exists_of_mem_right {R : α → β → Prop} (h : List.Forall₂ R as bs) (hb : b ∈ bs) : ∃ a ∈ as, R a b := by
  induction h with
  | nil => exact absurd hb not_mem_nil
  | cons hr _ ih =>
    rcases mem_cons.mp hb with e | hb
    · exact ⟨_, mem_cons_self, e ▸ hr⟩
    · obtain ⟨a, ha, hr⟩ := ih hb
      exact ⟨a, mem_cons_of_mem _ ha, hr⟩

end Nq.Collections
