/-
  Nq.Inquiry.Reseal — a sealed receipt does not depend on the order of its parts
  (`nq-core/src/inquiry.rs`).

  Sealing sorts coverage, refusals and observations before it verifies and digests them.
  Observations are sorted by their targets alone, which would keep the order of two of one
  target; but a receipt that verifies has no two of one target (`verifyEnvelope_distinct`),
  so rearranged receipts are the same once sorted (`Rearranged.sorted`). A rearranged receipt
  therefore seals to the same receipt, and a sealed one to itself (`seal_canonical`).
-/

import Nq.Inquiry.Sealing

namespace Nq.Inquiry

open Collections
open List

/-! ## Rearrangements -/

/-- The same observation, its refusals in another order or repeated. -/
structure TlsObservation.Rearranged (o o' : TlsObservation) : Prop where
  rest : o' = { o with refusals := o'.refusals }
  refusals : ∀ x, x ∈ o'.refusals ↔ x ∈ o.refusals

/-- The same receipt, whatever digest it carries, its vectors in another order and its
refusals repeated or not. -/
structure Receipt.Rearranged (r r' : Receipt) : Prop where
  rest : r' = { r with
    coverage := r'.coverage, cannotTestify := r'.cannotTestify, tlsObservations := r'.tlsObservations
    receiptDigest := r'.receiptDigest }
  coverage : r'.coverage.Perm r.coverage
  cannotTestify : ∀ x, x ∈ r'.cannotTestify ↔ x ∈ r.cannotTestify
  tlsObservations : ∃ l, l.Perm r.tlsObservations ∧ List.Forall₂ TlsObservation.Rearranged l r'.tlsObservations

def Receipt.canonicalBytes (env : Env) (r : Receipt) : Except String (List UInt8) :=
  (env.toVec (.receipt r)).mapError ("JCS canonicalization failed: " ++ ·)

section

variable {env : Env} {r r' s : Receipt}

/-! ## What verifies has one observation a target -/

theorem verifyEnvelope_distinct (h : r.verifyEnvelope env = .ok ()) :
    (r.tlsObservations.map TlsObservation.target).Nodup := by
  unfold Receipt.verifyEnvelope at h
  split at h
  · unfold Receipt.verifyReportEnvelope at h
    simp only [Sql.bind_ok, rejectIf_ok, Bool.or_eq_false_iff, Bool.not_eq_false', List.isEmpty_iff] at h
    obtain ⟨_, ⟨⟨⟨⟨_, hnone⟩, _⟩, _⟩, _⟩, _⟩ := h
    rw [hnone]
    exact nodup_nil
  · obtain ⟨plan, acquisition, _, hshape⟩ := verifyTlsEnvelope_ok.mp h
    rcases hshape with hs | hs
    · exact hs.2.distinct
    · rw [hs.2.2.2.unobserved]
      exact nodup_nil

/-! ## Sorted alike -/

theorem TlsObservation.Rearranged.normalized {o o' : TlsObservation} (h : o.Rearranged o') :
    ({ o' with refusals := sortDedup o'.refusals } : TlsObservation) = { o with refusals := sortDedup o.refusals } := by
  rw [sortDedup_congr h.refusals, h.rest]

theorem Receipt.Rearranged.normalized (h : r.Rearranged r') :
    (r'.tlsObservations.map fun o => { o with refusals := sortDedup o.refusals }).Perm
      (r.tlsObservations.map fun o => { o with refusals := sortDedup o.refusals }) := by
  obtain ⟨l, hperm, hl⟩ := h.tlsObservations
  have hmap : (r'.tlsObservations.map fun o => ({ o with refusals := sortDedup o.refusals } : TlsObservation)) =
      l.map fun o => { o with refusals := sortDedup o.refusals } := by
    clear hperm
    generalize r'.tlsObservations = l' at hl
    induction hl with
    | nil => rfl
    | cons ho _ ih => rw [map_cons, map_cons, ho.normalized, ih]
  rw [hmap]
  exact hperm.map _

theorem Receipt.Rearranged.sorted (h : r.Rearranged r')
    (hn : (r.sorted.tlsObservations.map TlsObservation.target).Nodup) :
    r'.sorted = { r.sorted with receiptDigest := r'.receiptDigest } := by
  have hnormal : ((r.tlsObservations.map fun o => ({ o with refusals := sortDedup o.refusals } : TlsObservation)).map
      TlsObservation.target).Nodup :=
    ((perm_insertionSort _ _).map TlsObservation.target).nodup_iff.mp hn
  unfold Receipt.sorted
  rw [sort_congr h.coverage, sortDedup_congr h.cannotTestify, ← sortOn_congr hnormal h.normalized.symm]
  conv_lhs => rw [h.rest]

/-- A receipt and what sealing leaves of it. -/
theorem rearranged_sorted (r : Receipt) (d : Option String) : r.Rearranged { r.sorted with receiptDigest := d } where
  rest := rfl
  coverage := sort_perm r.coverage
  cannotTestify _ := mem_sortDedup
  tlsObservations := by
    have hl : List.Forall₂ TlsObservation.Rearranged r.tlsObservations
        (r.tlsObservations.map fun o => { o with refusals := sortDedup o.refusals }) := by
      rw [forall₂_map_right_iff, forall₂_same]
      exact fun o _ => ⟨rfl, fun _ => mem_sortDedup⟩
    have hcomp : Relation.Comp (List.Forall₂ TlsObservation.Rearranged)
        List.Perm r.tlsObservations r.sorted.tlsObservations :=
      ⟨_, hl, (perm_insertionSort _ _).symm⟩
    rw [forall₂_comp_perm_eq_perm_comp_forall₂] at hcomp
    obtain ⟨l, hperm, hall⟩ := hcomp
    exact ⟨l, hperm.symm, hall⟩

/-! ## Sealed alike -/

theorem rearranged_seals (h : r.seal env = .ok s) (hr : r.Rearranged r') : r'.seal env = .ok s := by
  obtain ⟨hschema, hrequest, hverified, d, hdigest, e⟩ := seal_ok.mp h
  have hsorted := hr.sorted (verifyEnvelope_distinct hverified)
  have hunsealed : ({ r'.sorted with receiptDigest := none } : Receipt) =
      { r.sorted with receiptDigest := none } := by rw [hsorted]
  refine seal_ok.mpr ⟨?_, ?_, ?_, d, ?_, ?_⟩
  · rw [hr.rest]
    exact hschema
  · rw [hr.rest]
    exact hrequest
  · rw [hsorted]
    exact hverified
  · rw [hunsealed]
    exact hdigest
  · rw [e, hsorted]

/-- A sealed receipt seals to itself, and so does every rearrangement of it, or of the
receipt it was sealed from: to the same digest and the same bytes. -/
theorem seal_canonical (env : Env) {r s : Receipt} (h : r.seal env = .ok s) : s.seal env = .ok s ∧
    ∀ r', r.Rearranged r' ∨ s.Rearranged r' → ∃ s', r'.seal env = .ok s' ∧ s'.receiptDigest = s.receiptDigest ∧
      s'.canonicalBytes env = s.canonicalBytes env ∧ s' = s := by
  have hself : s.seal env = .ok s := by
    obtain ⟨_, _, _, d, _, e⟩ := seal_ok.mp h
    refine rearranged_seals h ?_
    rw [e]
    exact rearranged_sorted r (some d)
  refine ⟨hself, fun r' hr' => ⟨s, ?_, rfl, rfl, rfl⟩⟩
  rcases hr' with hr' | hr'
  · exact rearranged_seals h hr'
  · exact rearranged_seals hself hr'

end

/-- A receipt read backwards, with every refusal told twice. -/
def Receipt.toldTwice (r : Receipt) : Receipt :=
  { r with
    coverage := r.coverage.reverse
    cannotTestify := r.cannotTestify ++ r.cannotTestify
    tlsObservations := (r.tlsObservations.map fun o => { o with refusals := o.refusals ++ o.refusals }).reverse }

theorem toldTwice_rearranged (r : Receipt) : r.Rearranged r.toldTwice where
  rest := rfl
  coverage := reverse_perm r.coverage
  cannotTestify x := by
    show x ∈ r.cannotTestify ++ r.cannotTestify ↔ _
    rw [mem_append, or_self]
  tlsObservations := by
    refine ⟨r.tlsObservations.reverse, reverse_perm _, ?_⟩
    show List.Forall₂ _ _ (List.reverse _)
    rw [← map_reverse, forall₂_map_right_iff, forall₂_same]
    exact fun o _ => ⟨rfl, fun x => by rw [mem_append, or_self]⟩

/-- A receipt of an acquisition that refused its bound. -/
theorem a_receipt_told_twice_seals_alike : ∃ r s, Receipt.seal canonicalEnv r = .ok s ∧ s.seal canonicalEnv = .ok s ∧
    r.toldTwice.seal canonicalEnv = .ok s := by
  obtain ⟨r, s, hseal, _⟩ := refused_bound_seals
  obtain ⟨hself, hsame⟩ := seal_canonical canonicalEnv hseal
  obtain ⟨s', hs', _, _, e⟩ := hsame _ (Or.inl (toldTwice_rearranged r))
  rw [e] at hs'
  exact ⟨r, s, hseal, hself, hs'⟩

end Nq.Inquiry
