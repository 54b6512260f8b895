/-
  Nq.Codes.Delimited — codes whose words end by themselves.

  A word of such a code is read the same whatever follows it, so a stream of them is taken
  apart in one way only.

  - `Delimited.prod`, `Delimited.of_injective`, `Delimited.flatMap`: pairs, images and
    lists of a known length.
-/

import Mathlib.Data.List.Basic

namespace Nq.Codes

open List

variable {α β γ : Type}

def Delimited (encode : α → List γ) : Prop := ∀ a b r s, encode a ++ r = encode b ++ s → a = b ∧ r = s

variable {encode : α → List γ}

/-- Words of one length. -/
theorem delimited_of_length {n : Nat} (hlen : ∀ a, (encode a).length = n) (hinj : ∀ a b, encode a = encode b → a = b) :
    Delimited encode := by
  intro a b r s h
  obtain ⟨hab, hrs⟩ := append_inj h ((hlen a).trans (hlen b).symm)
  exact ⟨hinj a b hab, hrs⟩

theorem Delimited.prod {f : α → List γ} {g : β → List γ} (hf : Delimited f) (hg : Delimited g) :
    Delimited fun p : α × β => f p.1 ++ g p.2 := by
  intro p q r s h
  rw [append_assoc, append_assoc] at h
  obtain ⟨h₁, h⟩ := hf _ _ _ _ h
  obtain ⟨h₂, h⟩ := hg _ _ _ _ h
  exact ⟨Prod.ext h₁ h₂, h⟩

/-- A value coded by its parts. -/
theorem Delimited.of_injective {encode : β → List γ} (h : Delimited encode) {p : α → β}
    (hinj : ∀ a b, p a = p b → a = b) : Delimited fun a => encode (p a) := by
  intro a b r s e
  obtain ⟨hab, hrs⟩ := h _ _ _ _ e
  exact ⟨hinj a b hab, hrs⟩

/-- Lists of one length. -/
theorem Delimited.flatMap (h : Delimited encode) : ∀ {as bs : List α} {r s : List γ},
    as.length = bs.length → as.flatMap encode ++ r = bs.flatMap encode ++ s → as = bs ∧ r = s := by
  intro as
  induction as with
  | nil =>
    intro bs r s hlen e
    cases bs with
    | nil => exact ⟨rfl, e⟩
    | cons b bs => cases hlen
  | cons a as ih =>
    intro bs r s hlen e
    cases bs with
    | nil => cases hlen
    | cons b bs =>
      rw [flatMap_cons, flatMap_cons, append_assoc, append_assoc] at e
      obtain ⟨hab, etail⟩ := h _ _ _ _ e
      obtain ⟨habs, hrs⟩ := ih (Nat.succ.inj hlen) etail
      exact ⟨by rw [hab, habs], hrs⟩

end Nq.Codes
