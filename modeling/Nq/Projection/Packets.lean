/-
  Nq.Projection.Packets — when the packet of a projection is valid, and when it is built.

  The wire checks of an external projection come down to its texts (`validate_external_ok`);
  what the two builders fill in themselves always passes, so a packet is built exactly where
  its premises can be rendered, its subject and path are not blank and its times are times
  (`Docket.buildPacket_ok`, `Continuity.buildPacket_ok`).
-/

import Nq.Projection.Dossier
import Nq.Projection.Record

namespace Nq.Projection

open List
open Receipts (Json WitnessPacket)

/-! ## The wire checks -/

variable {c : Char} {s : String} {p : WitnessPacket}

theorem blank_eq_false (hc : Text.isWhitespace c = false) (h : c ∈ s.toList) : blank s = false :=
  decide_eq_false (ne_nil_of_mem ((Text.mem_trim_iff hc).mpr h))

theorem blank_append (hc : Text.isWhitespace c = false) (h : c ∈ s.toList) (r : String) : blank (s ++ r) = false :=
  blank_eq_false hc (by rw [String.toList_append]; exact mem_append_left _ h)

theorem eachIndexed_ok_iff {α : Type} {check : Nat → α → Except String Unit} {good : α → Prop}
    (h : ∀ i a, check i a = .ok () ↔ good a) : ∀ {rows : List α} {index : Nat},
    Receipts.eachIndexed check index rows = .ok () ↔ ∀ a ∈ rows, good a := by
  intro rows
  induction rows with
  | nil => intro index; exact ⟨fun _ _ ha => (nomatch ha), fun _ => rfl⟩
  | cons a rest ih =>
    intro index
    show (check index a >>= fun _ => _) = _ ↔ _
    rw [Collections.check_ok, h, ih, forall_mem_cons]

/-- An observation without the two keys of claims. -/
def NamesNoClaim (o : Json) : Prop := o.get "claim" = none ∧ o.get "supports" = none

theorem checkObservation_ok {codec : Receipts.Codec} {index : Nat} {o : Json} :
    Receipts.checkObservation codec index o = .ok () ↔ NamesNoClaim o := by
  unfold Receipts.checkObservation NamesNoClaim Json.get
  cases o.asObject with
  | none => simp
  | some fields =>
    dsimp only
    rw [Collections.check_ok, Collections.rejectIf_ok, Collections.rejectIf_ok]
    simp

/-- What the wire checks ask of an external projection. -/
structure WireValid (codec : Receipts.Codec) (p : WitnessPacket) : Prop where
  schema : p.schema = Receipts.witnessSchema
  filled : ∀ s ∈ [p.witnessType, p.subject, p.accessPath, p.observedAt, p.generatedAt], blank s = false
  observedAt : ∃ t, codec.rfc3339 p.observedAt = .ok t
  generatedAt : ∃ t, codec.rfc3339 p.generatedAt = .ok t
  observations : ∀ o ∈ p.observations, NamesNoClaim o
  source : blank (p.sourceFindingRef.getD "") = false
  limits : (∀ l ∈ p.projectionLimits, blank l = false) ∧
    Receipts.projectionLimitNativeWitnessCustody ∈ p.projectionLimits

theorem validate_external_ok {codec : Receipts.Codec}
    (hc : p.custodyBasis = some Receipts.custodyBasisExternalProjection) :
    p.validate codec = .ok () ↔ WireValid codec p := by
  have hnonempty : ∀ field s, Receipts.requireNonempty field s = .ok () ↔
      blank s = false := fun field s => Collections.rejectIf_ok
  have htime : ∀ field s, Receipts.parseRfc3339 codec s field = .ok () ↔ ∃ t, codec.rfc3339 s = .ok t := by
    intro field s
    unfold Receipts.parseRfc3339
    cases codec.rfc3339 s <;> simp
  have hlimits : ∀ {index : Nat} {ls : List String}, Receipts.eachIndexed (fun index limit => Collections.rejectIf
      (decide (Text.trim limit.toList = []))
      ("projection_limits[" ++ toString index ++ "] is empty")) index ls = .ok () ↔
      ∀ l ∈ ls, blank l = false := by
    intro index ls
    have hlimit : ∀ (index : Nat) (limit : String), Collections.rejectIf (decide (Text.trim limit.toList = []))
        ("projection_limits[" ++ toString index ++ "] is empty") = .ok () ↔ blank limit = false :=
          fun _ _ => Collections.rejectIf_ok
    exact eachIndexed_ok_iff hlimit
  have hcustody : p.validateCustody codec = p.validateProjection codec Receipts.custodyBasisExternalProjection := by
    unfold WitnessPacket.validateCustody
    rw [hc]
    rfl
  have hobservations : ∀ {index : Nat} {os : List Json},
    Receipts.eachIndexed (Receipts.checkObservation codec) index os = .ok () ↔
      ∀ o ∈ os, NamesNoClaim o := by
    intro index os
    have hobservation : ∀ (index : Nat) (o : Json), Receipts.checkObservation codec index o = .ok () ↔ NamesNoClaim o :=
      fun _ _ => checkObservation_ok
    exact eachIndexed_ok_iff hobservation
  unfold WitnessPacket.validate
  rw [hcustody]
  unfold WitnessPacket.validateProjection
  simp only [Collections.check_ok, hnonempty, htime, Collections.rejectIf_ok, hlimits, hobservations,
    decide_eq_false_iff_not, ne_eq, not_not]
  constructor
  · intro h
    obtain ⟨hschema, h₁, h₂, h₃, h₄, h₅, ho, hg, hobs, hsource, hne, hl, hn⟩ := h
    refine ⟨hschema, ?_, ho, hg, hobs, decide_eq_false hsource, hl, hn⟩
    simp only [forall_mem_cons, not_mem_nil, false_implies, implies_true, and_true]
    exact ⟨h₁, h₂, h₃, h₄, h₅⟩
  · intro h
    have hfilled := h.filled
    simp only [forall_mem_cons, not_mem_nil, false_implies, implies_true, and_true] at hfilled
    obtain ⟨h₁, h₂, h₃, h₄, h₅⟩ := hfilled
    exact ⟨h.schema, h₁, h₂, h₃, h₄, h₅, h.observedAt, h.generatedAt, h.observations, of_decide_eq_false h.source,
      ne_nil_of_mem h.limits.2, h.limits.1, h.limits.2⟩

theorem namesNoClaim_json {fields : List (String × Json)} (hn : (fields.map Prod.fst).Nodup)
    (hclaim : Json.field fields "claim" = none)
    (hsupports : Json.field fields "supports" = none) : NamesNoClaim (json fields) :=
  ⟨(get_json hn _).trans hclaim, (get_json hn _).trans hsupports⟩

/-- What a packet's texts need that are not the builder's own. -/
structure Stamped (codec : Receipts.Codec) (subject accessPath observedAt generatedAt : String) : Prop where
  filled : ∀ s ∈ [subject, accessPath, observedAt, generatedAt], blank s = false
  observedAt : ∃ t, codec.rfc3339 observedAt = .ok t
  generatedAt : ∃ t, codec.rfc3339 generatedAt = .ok t

/-- What a builder fills in itself. -/
structure Prepared (p : WitnessPacket) : Prop where
  schema : p.schema = Receipts.witnessSchema
  basis : p.custodyBasis = some Receipts.custodyBasisExternalProjection
  witnessType : blank p.witnessType = false
  observations : ∀ o ∈ p.observations, NamesNoClaim o
  source : blank (p.sourceFindingRef.getD "") = false
  limits : p.projectionLimits = [Receipts.projectionLimitNativeWitnessCustody,
    "source assertions not independently verified"]

theorem Prepared.valid_iff {codec : Receipts.Codec} (h : Prepared p) :
    p.validate codec = .ok () ↔ Stamped codec p.subject p.accessPath p.observedAt p.generatedAt := by
  rw [validate_external_ok h.basis]
  constructor
  · intro hw
    exact ⟨fun s hs => hw.filled s (mem_cons_of_mem _ hs), hw.observedAt, hw.generatedAt⟩
  · intro hs
    have hlimits : (∀ l ∈ p.projectionLimits, blank l = false) ∧
        Receipts.projectionLimitNativeWitnessCustody ∈ p.projectionLimits := by
      rw [h.limits]
      exact ⟨by decide, mem_cons_self⟩
    exact ⟨h.schema, forall_mem_cons.mpr ⟨h.witnessType, hs.filled⟩, hs.observedAt, hs.generatedAt, h.observations,
      h.source, hlimits⟩

/-! ## Dossiers -/

namespace Docket

theorem witnessType_filled : blank witnessType = false := by decide

variable {codec : Codec} {d : Dossier} {sourcePath rawDigest coreDigest generatedAt : String}
  {coverage : List String} {packet : WitnessPacket}

/-- What holds of every kind of observation holds of each. -/
theorem forall_observations {P : Json → Prop} (hidentity : P (sourceIdentity d rawDigest coreDigest))
    (hauthorization : ∀ a : Authorization, P a.toJson) (hcore : P (attemptCore d)) (hauthority : P d.authority.toJson)
    (hsettlement : P (settlementEvidence d)) (hrecord : ∀ r : ObservationRecord, P r.toJson)
    (hadmission : ∀ a : RelianceAdmission, P a.toJson) (hrefusal : ∀ r : RelianceRefusal, P r.toJson)
    (hresidual : ∀ r : ResidualObligation, P r.toJson) (hreconciliation : ∀ r : Reconciliation, P r.toJson) :
    ∀ o ∈ observationsOf d rawDigest coreDigest, P o := by
  intro o h
  unfold observationsOf at h
  simp only [mem_append, mem_cons, List.mem_map, Option.mem_toList, Option.map_eq_some_iff, not_mem_nil,
    or_false] at h
  rcases h with ((((((rfl | ⟨a, _, rfl⟩) | rfl | rfl | rfl) | ⟨r, _, rfl⟩) | ⟨a, _, rfl⟩) |
    ⟨r, _, rfl⟩) | ⟨r, _, rfl⟩) |
    ⟨r, _, rfl⟩
  exacts [hidentity, hauthorization a, hcore, hauthority, hsettlement, hrecord r, hadmission a, hrefusal r, hresidual r,
    hreconciliation r]

theorem observations_nameNoClaim : ∀ o ∈ observationsOf d rawDigest coreDigest, NamesNoClaim o := by
  have hcore : NamesNoClaim (attemptCore d) := by
    unfold attemptCore Dossier.repositoryFields
    split <;> exact namesNoClaim_json (by simp) (by simp [Json.field]) (by simp [Json.field])
  refine forall_observations ?_ (fun _ => ?_) hcore ?_ ?_ (fun _ => ?_) (fun _ => ?_) (fun _ =>
    ?_) (fun _ => ?_) (fun _ => ?_) <;>
    exact namesNoClaim_json (by simp) (by simp [Json.field]) (by simp [Json.field])

theorem packetOf_prepared : Prepared (packetOf codec d sourcePath rawDigest coreDigest generatedAt coverage) where
  schema := rfl
  basis := rfl
  witnessType := witnessType_filled
  observations := observations_nameNoClaim
  source := by
    show blank ("docket:attempt:" ++ d.attempt ++ "@v" ++ toString d.version ++ " dossier=" ++ d.dossierFormat ++ " " ++
      rawDigest) = false
    simp only [String.append_assoc]
    exact blank_append (show Text.isWhitespace 'd' = false by decide) (by simp) _
  limits := rfl

/-- A dossier's packet is built exactly where its premises can be rendered and its texts and times are there. -/
theorem buildPacket_ok : buildPacket codec d sourcePath rawDigest coreDigest generatedAt = .ok packet ↔
    ∃ coverage, premiseCoverage codec d = .ok coverage ∧
      Stamped codec.toCodec d.subject sourcePath (msToRfc3339 codec d.observedAtMs) generatedAt ∧
      packet = packetOf codec d sourcePath rawDigest coreDigest generatedAt coverage := by
  unfold buildPacket
  simp only [Sql.bind_ok, Sql.mapError_ok]
  constructor
  · intro h
    obtain ⟨coverage, hcoverage, _, hvalid, e⟩ := h
    cases e
    exact ⟨coverage, hcoverage, packetOf_prepared.valid_iff.mp hvalid, rfl⟩
  · intro h
    obtain ⟨coverage, hcoverage, hstamped, e⟩ := h
    exact ⟨coverage, hcoverage, (), packetOf_prepared.valid_iff.mpr hstamped, e ▸ rfl⟩

end Docket

/-! ## Records -/

namespace Continuity

theorem witnessType_filled : blank witnessType = false := by decide

variable {codec : Codec} {r : RelyRecord} {sourcePath rawDigest coreDigest generatedAt : String}
  {coverage : List String} {packet : WitnessPacket}

/-- What holds of every kind of observation holds of each. -/
theorem forall_observations {P : Json → Prop} (hidentity : P (sourceIdentity r rawDigest coreDigest))
    (hresult : P (relyResult r)) (hpremise : ∀ p : Premise, P p.toJson) :
    ∀ o ∈ observationsOf r rawDigest coreDigest, P o := by
  intro o h
  unfold observationsOf at h
  simp only [mem_append, mem_cons, List.mem_map, not_mem_nil, or_false] at h
  rcases h with (rfl | rfl) | ⟨p, _, rfl⟩
  exacts [hidentity, hresult, hpremise p]

theorem observations_nameNoClaim : ∀ o ∈ observationsOf r rawDigest coreDigest, NamesNoClaim o := by
  refine forall_observations ?_ ?_ (fun _ => ?_) <;>
    exact namesNoClaim_json (by simp) (by simp [Json.field]) (by simp [Json.field])

theorem packetOf_prepared : Prepared (packetOf r sourcePath rawDigest coreDigest generatedAt coverage) where
  schema := rfl
  basis := rfl
  witnessType := witnessType_filled
  observations := observations_nameNoClaim
  source := by
    show blank ("continuity:memory:" ++ r.subject.memoryId ++ "@" ++ r.evaluationTime ++ " export=" ++ r.schema ++
      " " ++ rawDigest) = false
    simp only [String.append_assoc]
    exact blank_append (show Text.isWhitespace 'c' = false by decide) (by simp) _
  limits := rfl

/-- A record's packet is built exactly where its premises can be rendered and its texts and times are there. -/
theorem buildPacket_ok : buildPacket codec r sourcePath rawDigest coreDigest generatedAt = .ok packet ↔
    ∃ coverage, premiseCoverage r = .ok coverage ∧
      Stamped codec.toCodec r.subject.scope sourcePath r.evaluationTime generatedAt ∧
      packet = packetOf r sourcePath rawDigest coreDigest generatedAt coverage := by
  unfold buildPacket
  simp only [Sql.bind_ok, Sql.mapError_ok]
  constructor
  · intro h
    obtain ⟨coverage, hcoverage, _, hvalid, e⟩ := h
    cases e
    exact ⟨coverage, hcoverage, packetOf_prepared.valid_iff.mp hvalid, rfl⟩
  · intro h
    obtain ⟨coverage, hcoverage, hstamped, e⟩ := h
    exact ⟨coverage, hcoverage, (), packetOf_prepared.valid_iff.mpr hstamped, e ▸ rfl⟩

end Continuity

end Nq.Projection
