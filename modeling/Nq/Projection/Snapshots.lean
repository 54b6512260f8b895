/-
  Nq.Projection.Snapshots — the packets of a store and what a scan reads of them
  (`nq-monitor/src/docket_dossier.rs`, `continuity_record.rs`).

  An entry is a packet with the import it comes from (`Entry.Built`). A scan reads its own
  source's packets back with the key, the digest of the bytes and the digest of the core they were
  built with, and refuses those of the other source: that is what makes a profile `Lawful`
  (`docket_lawful`, `continuity_lawful`).
-/

import Nq.Projection.Testimony
import Nq.Projection.Decode

namespace Nq.Projection

open Files (Path PathBuf Tree)
open List
open Receipts (Json Number WitnessPacket)

/-! ## Entries -/

/-- What tells the snapshots of a name apart: a version, or an evaluation time. -/
abbrev Key := Nat ⊕ String

/-- A packet with the import it comes from. -/
structure Entry where
  system : ProjectionSourceSystem
  call : Call
  name : String
  key : Key
  file : String
  core : String
  value : Json
  packet : WitnessPacket

namespace Entry

def raw (codec : Codec) (e : Entry) : String := sha256Hex codec e.call.bytes

end Entry

section

variable {κ δ : Type} (codec : Codec) (profile : Profile κ δ) (tag : κ → Key)

def entryOf (c : Call) (a : Accepted δ) (packet : WitnessPacket) : Entry where
  system := profile.system
  call := c
  name := profile.directory a.doc
  key := tag (profile.key a.doc)
  file := fileName profile a.doc (sha256Hex codec c.bytes)
  core := a.core
  value := a.value
  packet := packet

/-- A call builds this packet for an accepted document. -/
def Builds (c : Call) (a : Accepted δ) (packet : WitnessPacket) : Prop :=
  Accepts codec profile c.bytes a ∧
    profile.build codec a.doc c.sourcePath (sha256Hex codec c.bytes) a.core c.generatedAt = .ok packet

/-- The entry is what its call builds. -/
def Entry.Built (e : Entry) : Prop :=
  ∃ a packet, Builds codec profile e.call a packet ∧ e = entryOf codec profile tag e.call a packet

end

/-- The entry is what its call builds, in one of the two imports. -/
def Entry.Made (codec : Codec) (docketSource continuitySource : List UInt8) (e : Entry) : Prop :=
  e.Built codec (docket docketSource) Sum.inl ∨ e.Built codec (continuity continuitySource) Sum.inr

/-- What the store relies on in a profile. -/
structure Lawful {κ δ : Type} (codec : Codec) (docketSource continuitySource : List UInt8)
    (profile : Profile κ δ) (tag : κ → Key) :
    Prop where
  injective : Function.Injective tag
  made : ∀ e : Entry, e.Built codec profile tag → e.Made codec docketSource continuitySource
  built : ∀ e : Entry, e.Made codec docketSource continuitySource →
    e.system = profile.system → e.Built codec profile tag
  own : ∀ e : Entry, e.Built codec profile tag → ∀ v, Rereads (packetValue e.packet) v → ∀ display, ∃ key, tag key =
    e.key ∧ profile.stored display v = .ok (key, e.raw codec, e.core)
  other : ∀ e : Entry, e.Made codec docketSource continuitySource → e.system ≠ profile.system → ∀ v,
    Rereads (packetValue e.packet) v → ∀ display, ∃ detail, profile.stored display v = .error detail

/-! ## Observations that are read back -/

variable {p packet : WitnessPacket} {v : Json} {ys : List Json} {c : Call} {source : List UInt8}

theorem reread_items (h : Rereads (packetValue p) v) :
    ∃ ys, v.get "observations" = some (.array ys) ∧ List.Forall₂ Rereads p.observations ys := by
  rcases h.get "observations" with ⟨hnone, _⟩ | ⟨x, y, hx, hy, hxy⟩
  · rw [packetValue_observations] at hnone
    cases hnone
  · rw [packetValue_observations] at hx
    cases hx
    cases hxy with
    | array hlen hitems => exact ⟨_, hy, Agree.items hlen hitems⟩

theorem observationOf_eq (h : v.get "observations" = some (.array ys)) (type : String) :
    observationOf v type = ys.find? fun o => (o.get "type").bind Json.asStr = some type := by
  unfold observationOf
  rw [h]
  rfl

/-- The first observation of a type is found again. -/
theorem reread_observation (type : String) (h : Rereads (packetValue p) v) :
    (p.observations.find? (fun o => typeOf o = some type) = none ∧ observationOf v type = none) ∨
      ∃ x y, p.observations.find? (fun o => typeOf o = some type) = some x ∧
        observationOf v type = some y ∧ Rereads x y := by
  obtain ⟨ys, hys, hall⟩ := reread_items h
  rw [observationOf_eq hys]
  refine Agree.find? (fun x y hxy => ?_) hall
  have := hxy.texts "type"
  unfold typeOf
  rw [this]

theorem textOf_reread {x y : Json} (h : Rereads x y) (key : String) : textOf y key = textOf x key := (h.texts key).symm

theorem findSome?_agree {α : Type} {N : Number → Number → Prop} {f : Json → Option α}
    (hf : ∀ x y, Agree N x y → f x = f y) {xs : List Json} (h : List.Forall₂ (Agree N) xs ys) :
    xs.findSome? f = ys.findSome? f := by
  induction h with
  | nil => rfl
  | cons hxy _ ih => rw [findSome?_cons, findSome?_cons, hf _ _ hxy, ih]

theorem find?_observation_none {items : List Json} {type : String} (h : ∀ o ∈ items, typeOf o ≠ some type) :
    items.find? (fun o => typeOf o = some type) = none :=
  find?_eq_none.mpr fun o ho => by simpa using h o ho

/-! ## Dossiers -/

namespace Docket

theorem version_lt {codec : Codec} {source : List UInt8} {bytes : List UInt8} {a : Accepted Dossier}
    (h : Accepts codec (docket source) bytes a) : a.doc.version < 2 ^ 64 := by
  have hbind : ∀ {α β : Type} {x : Option α} {f : α → Option β} {b : β}, (x >>= f) = some b →
      ∃ a, x = some a ∧ f a = some b :=
    fun h => Option.bind_eq_some_iff.mp h
  have hdecode : Dossier.decode a.value = some a.doc := h.decoded
  unfold Dossier.decode at hdecode
  obtain ⟨fields, _, hdecode⟩ := hbind hdecode
  obtain ⟨_, _, hdecode⟩ := hbind hdecode
  obtain ⟨_, _, hdecode⟩ := hbind hdecode
  obtain ⟨_, _, hdecode⟩ := hbind hdecode
  obtain ⟨version, hversion, hdecode⟩ := hbind hdecode
  have hlt : version < 2 ^ 64 := by
    obtain ⟨j, _, hj⟩ := Option.bind_eq_some_iff.mp hversion
    unfold decodeU64 at hj
    split at hj
    · split at hj
      · cases hj
        omega
      · cases hj
    · cases hj
  have hdoc : a.doc.version = version := by
    obtain ⟨_, _, hdecode⟩ := hbind hdecode
    obtain ⟨_, _, hdecode⟩ := hbind hdecode
    obtain ⟨_, _, hdecode⟩ := hbind hdecode
    obtain ⟨_, _, hdecode⟩ := hbind hdecode
    obtain ⟨_, _, hdecode⟩ := hbind hdecode
    obtain ⟨_, _, hdecode⟩ := hbind hdecode
    obtain ⟨_, _, hdecode⟩ := hbind hdecode
    obtain ⟨_, _, hdecode⟩ := hbind hdecode
    rw [← Option.some.inj hdecode]
  rw [hdoc]
  exact hlt

theorem decodeU64_jsonNat {n : Nat} (h : n < 2 ^ 64) : decodeU64 (jsonNat n) = some n := by
  unfold jsonNat decodeU64
  have hrange : 0 ≤ (n : Int) ∧ (n : Int) < 2 ^ 64 := ⟨by omega, by omega⟩
  simp only [if_pos hrange, Int.toNat_natCast]

theorem find?_sourceIdentity (d : Dossier) (raw core : String) :
    (observationsOf d raw core).find? (fun o => typeOf o = some "docket_source_identity") =
      some (sourceIdentity d raw core) := by
  unfold observationsOf
  simp only [append_assoc, cons_append, nil_append]
  exact find?_cons_of_pos (decide_eq_true typeOf_sourceIdentity)

variable {core raw : String} {d : Dossier}

theorem stored_reread (hversion : d.version < 2 ^ 64) {p : WitnessPacket}
    (hp : p.observations = observationsOf d raw core) {v : Json} (h : Rereads (packetValue p) v) (display : String) :
    stored display v = .ok (d.version, raw, core) := by
  rcases reread_observation "docket_source_identity" h with ⟨hnone, _⟩ | ⟨x, y, hx, hy, hxy⟩
  · rw [hp, find?_sourceIdentity] at hnone
    cases hnone
  · rw [hp, find?_sourceIdentity] at hx
    cases hx
    have hraw : textOf y "raw_source_digest" = some raw := by
      rw [textOf_reread hxy]
      unfold textOf sourceIdentity
      rw [get_json (by simp)]
      simp [Json.field, Json.asStr]
    have hcore : textOf y "core_consistency_digest" = some core := by
      rw [textOf_reread hxy]
      unfold textOf sourceIdentity
      rw [get_json (by simp)]
      simp [Json.field, Json.asStr]
    have hget : (sourceIdentity d raw core).get "docket_version" = some (jsonNat d.version) := by
      unfold sourceIdentity
      rw [get_json (by simp)]
      simp [Json.field]
    have hnumber : (y.get "docket_version").bind decodeU64 = some d.version := by
      rcases hxy.get "docket_version" with ⟨hnone, _⟩ | ⟨n, m, hn, hm, hnm⟩
      · rw [hget] at hnone
        cases hnone
      · rw [hget] at hn
        cases hn
        rw [hm, Option.bind_some]
        cases hnm with
        | @number _ k hk =>
          cases k with
          | int b =>
            cases (show (d.version : Int) = b from hk)
            have hread := decodeU64_jsonNat hversion
            unfold jsonNat at hread
            exact hread
          | float _ => cases hk
    unfold stored
    rw [hy]
    show (Except.ok _ : Except String _) = _
    rw [hnumber, hraw, hcore]
    rfl

theorem types_other {o : Json} (h : o ∈ observationsOf d raw core) : typeOf o ≠ some "continuity_source_identity" := by
  have hother : ∀ {o : Json} {type : String}, typeOf o = some type → type ≠ "continuity_source_identity" →
      typeOf o ≠ some "continuity_source_identity" := fun ht hne e => hne (Option.some.inj (ht.symm.trans e))
  refine forall_observations (P := fun o =>
    typeOf o ≠ some "continuity_source_identity") (hother typeOf_sourceIdentity ?_)
    (fun a => hother (typeOf_authorization a) ?_) (hother (attemptCore_fields d).1 ?_) (hother (typeOf_authority _) ?_)
    (hother typeOf_settlementEvidence ?_) (fun r => hother (typeOf_observationRecord r) ?_)
    (fun a => hother (typeOf_relianceAdmission a) ?_) (fun r => hother (typeOf_relianceRefusal r) ?_)
    (fun r => hother (typeOf_residualObligation r) ?_) (fun r => hother (typeOf_reconciliation r) ?_) o h <;> decide

end Docket

/-! ## Records -/

namespace Continuity

theorem find?_sourceIdentity (r : RelyRecord) (raw core : String) :
    (observationsOf r raw core).find? (fun o => typeOf o = some "continuity_source_identity") =
      some (sourceIdentity r raw core) := by
  unfold observationsOf
  exact find?_cons_of_pos (decide_eq_true typeOf_sourceIdentity)

variable {core raw : String} {p : WitnessPacket} {r : RelyRecord} {v : Json}

theorem storedEvaluationTime_reread (hp : p.observations = observationsOf r raw core) (h : Rereads (packetValue p) v) :
    storedEvaluationTime v = some r.evaluationTime := by
  obtain ⟨ys, hys, hall⟩ := reread_items h
  have hrespects : ∀ x y, Rereads x y →
      (if (x.get "type").bind Json.asStr = some "continuity_rely_result" then textOf x "evaluation_time" else none) =
      (if (y.get "type").bind Json.asStr = some "continuity_rely_result" then textOf y "evaluation_time"
        else none) := by
    intro x y hxy
    rw [hxy.texts "type", textOf_reread hxy]
  have hsame := findSome?_agree hrespects hall
  unfold storedEvaluationTime
  rw [hys]
  show ys.findSome? _ = _
  rw [← hsame, hp]
  unfold observationsOf
  have hfirst : (if ((sourceIdentity r raw core).get "type").bind Json.asStr = some "continuity_rely_result" then
      textOf (sourceIdentity r raw core) "evaluation_time" else none) = none := by
    have hidentity : typeOf (sourceIdentity r raw core) = some "continuity_source_identity" := typeOf_sourceIdentity
    rw [if_neg]
    intro e
    exact absurd (hidentity.symm.trans e) (by decide)
  have hsecond : (if ((relyResult r).get "type").bind Json.asStr = some "continuity_rely_result" then
      textOf (relyResult r) "evaluation_time" else none) = some r.evaluationTime := by
    have htype : ((relyResult r).get "type").bind Json.asStr = some "continuity_rely_result" := (relyResult_fields r).1
    rw [if_pos htype]
    unfold textOf relyResult
    rw [get_json (by simp)]
    simp [Json.field, Json.asStr]
  rw [cons_append, findSome?_cons, hfirst]
  dsimp only
  rw [singleton_append, findSome?_cons, hsecond]

theorem stored_reread (hp : p.observations = observationsOf r raw core) (h : Rereads (packetValue p) v)
    (display : String) : stored display v = .ok (r.evaluationTime, raw, core) := by
  rcases reread_observation "continuity_source_identity" h with ⟨hnone, _⟩ | ⟨x, y, hx, hy, hxy⟩
  · rw [hp, find?_sourceIdentity] at hnone
    cases hnone
  · rw [hp, find?_sourceIdentity] at hx
    cases hx
    have hraw : textOf y "raw_source_digest" = some raw := by
      rw [textOf_reread hxy]
      unfold textOf sourceIdentity
      rw [get_json (by simp)]
      simp [Json.field, Json.asStr]
    have hcore : textOf y "core_consistency_digest" = some core := by
      rw [textOf_reread hxy]
      unfold textOf sourceIdentity
      rw [get_json (by simp)]
      simp [Json.field, Json.asStr]
    unfold stored
    rw [hy, storedEvaluationTime_reread hp h]
    show (Collections.okOr (textOf y "raw_source_digest") _ >>= _) = _
    rw [hraw]
    show (Collections.okOr (textOf y "core_consistency_digest") _ >>= _) = _
    rw [hcore]
    rfl

theorem types_other {o : Json} (h : o ∈ observationsOf r raw core) : typeOf o ≠ some "docket_source_identity" := by
  have hother : ∀ {o : Json} {type : String}, typeOf o = some type → type ≠ "docket_source_identity" →
      typeOf o ≠ some "docket_source_identity" := fun ht hne e => hne (Option.some.inj (ht.symm.trans e))
  exact forall_observations (P := fun o => typeOf o ≠ some "docket_source_identity")
    (hother typeOf_sourceIdentity (by decide)) (hother (relyResult_fields r).1 (by decide))
    (fun p => hother (typeOf_premise p) (by decide)) o h

end Continuity

/-! ## The two profiles -/

theorem docket_packet {codec : Codec} {a : Accepted Docket.Dossier} (h : Builds codec (docket source) c a packet) :
    packet.observations = Docket.observationsOf a.doc (sha256Hex codec c.bytes) a.core := by
  obtain ⟨_, _, _, e⟩ := Docket.buildPacket_ok.mp h.2
  rw [e]
  rfl

theorem continuity_packet {codec : Codec} {a : Accepted Continuity.RelyRecord}
    (h : Builds codec (continuity source) c a packet) :
    packet.observations = Continuity.observationsOf a.doc (sha256Hex codec c.bytes) a.core := by
  obtain ⟨_, _, _, e⟩ := Continuity.buildPacket_ok.mp h.2
  rw [e]
  rfl

theorem docket_lawful (codec : Codec) (docketSource continuitySource : List UInt8) :
    Lawful codec docketSource continuitySource (docket docketSource) Sum.inl where
  injective := Sum.inl_injective
  made := fun _ h => Or.inl h
  built := by
    intro e h hs
    rcases h with h | ⟨a, packet, _, he⟩
    · exact h
    · rw [he] at hs
      cases hs
  own := by
    intro e h v hv display
    obtain ⟨a, packet, hbuilds, he⟩ := h
    rw [he] at hv ⊢
    exact ⟨a.doc.version, rfl, Docket.stored_reread (Docket.version_lt hbuilds.1) (docket_packet hbuilds) hv display⟩
  other := by
    intro e h hs v hv display
    rcases h with ⟨a, packet, _, he⟩ | ⟨a, packet, hbuilds, he⟩
    · exact absurd (congrArg Entry.system he) hs
    · rw [he] at hv
      have hnone : observationOf v "docket_source_identity" = none := by
        rcases reread_observation "docket_source_identity" hv with ⟨_, h⟩ | ⟨x, _, hx, _, _⟩
        · exact h
        · have hno : ∀ o ∈ packet.observations, typeOf o ≠ some "docket_source_identity" := fun o ho =>
            Continuity.types_other (continuity_packet hbuilds ▸ ho)
          cases (find?_observation_none hno).symm.trans hx
      refine ⟨"stored packet " ++ display ++ " carries no docket_source_identity observation", ?_⟩
      show Docket.stored display v = _
      unfold Docket.stored
      rw [hnone]
      rfl

theorem continuity_lawful (codec : Codec) (docketSource continuitySource : List UInt8) :
    Lawful codec docketSource continuitySource (continuity continuitySource) Sum.inr where
  injective := Sum.inr_injective
  made := fun _ h => Or.inr h
  built := by
    intro e h hs
    rcases h with ⟨a, packet, _, he⟩ | h
    · rw [he] at hs
      cases hs
    · exact h
  own := by
    intro e h v hv display
    obtain ⟨a, packet, hbuilds, he⟩ := h
    rw [he] at hv ⊢
    exact ⟨a.doc.evaluationTime, rfl, Continuity.stored_reread (continuity_packet hbuilds) hv display⟩
  other := by
    intro e h hs v hv display
    rcases h with ⟨a, packet, hbuilds, he⟩ | ⟨a, packet, _, he⟩
    · rw [he] at hv
      have hnone : observationOf v "continuity_source_identity" = none := by
        rcases reread_observation "continuity_source_identity" hv with ⟨_, h⟩ | ⟨x, _, hx, _, _⟩
        · exact h
        · have hno : ∀ o ∈ packet.observations, typeOf o ≠ some "continuity_source_identity" := fun o ho =>
            Docket.types_other (docket_packet hbuilds ▸ ho)
          cases (find?_observation_none hno).symm.trans hx
      refine ⟨"stored packet " ++ display ++ " carries no continuity_source_identity", ?_⟩
      show Continuity.stored display v = _
      unfold Continuity.stored
      rw [hnone]
      rfl
    · exact absurd (congrArg Entry.system he) hs

end Nq.Projection
