/-
  Nq.Projection.Testimony — what imported testimony verifies
  (`nq-monitor/src/docket_dossier.rs`, `continuity_record.rs`, `nq-core/src/claim_registry.rs`).

  A dossier's packet holds one observation that a claim of the starter catalog reads, its attempt
  core, and a record's packet one, its rely result (`mem_observationsOf`). A ref-continuity subject
  determines the components it was checked against (`subjectText_injective`).

  - `testimony_narrow`: imported packets verify nothing but the settlement of an attempt and the
    eligibility of a scope, and these as the documents declare them: every dossier of the subject
    is committed, every record of the scope is ok;
  - `an_expired_record_is_eligible`: a record that is ok under another code than `eligible`.
-/

import Mathlib.Data.Finset.Sort
import Nq.Projection.Import
import Nq.Projection.Packets
import Nq.Receipts.Sound

namespace Nq.Projection

open List
open Receipts (ClaimEntry ClaimRegistry Json LeafClaim Matches Verifies WitnessPacket evaluate)

/-! ## Observations -/

def typeOf (o : Json) : Option String := (o.get "type").bind Json.asStr

theorem typeOf_json {fields : List (String × Json)} {type : String} (hn : (fields.map Prod.fst).Nodup)
    (h : Json.field fields "type" = some (.string type)) : typeOf (json fields) = some type := by
  unfold typeOf
  rw [get_json hn, h]
  rfl

namespace Docket

variable {d : Dossier} {rawDigest coreDigest : String} {o : Json}

theorem attemptCore_fields (d : Dossier) : typeOf (attemptCore d) = some "docket_attempt_core" ∧
    (attemptCore d).get "docket_state" = some (.string d.state) := by
  unfold attemptCore Dossier.repositoryFields
  split
  · exact ⟨typeOf_json (by simp) (by simp [Json.field]), by rw [get_json (by simp)]; simp [Json.field]⟩
  · exact ⟨typeOf_json (by simp) (by simp [Json.field]), by rw [get_json (by simp)]; simp [Json.field]⟩

theorem typeOf_sourceIdentity : typeOf (sourceIdentity d rawDigest coreDigest) = some "docket_source_identity" :=
  typeOf_json (by simp) (by simp [Json.field])

theorem typeOf_authorization (a : Authorization) : typeOf a.toJson = some "docket_authorization" :=
  typeOf_json (by simp) (by simp [Json.field])

theorem typeOf_authority (a : Authority) : typeOf a.toJson = some "docket_authority" :=
  typeOf_json (by simp) (by simp [Json.field])

theorem typeOf_settlementEvidence : typeOf (settlementEvidence d) = some "docket_settlement_evidence" :=
  typeOf_json (by simp) (by simp [Json.field])

theorem typeOf_observationRecord (r : ObservationRecord) : typeOf r.toJson = some "docket_observation" :=
  typeOf_json (by simp) (by simp [Json.field])

theorem typeOf_relianceAdmission (a : RelianceAdmission) : typeOf a.toJson = some "docket_reliance_decision" :=
  typeOf_json (by simp) (by simp [Json.field])

theorem typeOf_relianceRefusal (r : RelianceRefusal) : typeOf r.toJson = some "docket_reliance_decision" :=
  typeOf_json (by simp) (by simp [Json.field])

theorem typeOf_residualObligation (r : ResidualObligation) : typeOf r.toJson = some "docket_residual_obligation" :=
  typeOf_json (by simp) (by simp [Json.field])

theorem typeOf_reconciliation (r : Reconciliation) : typeOf r.toJson = some "docket_reconciliation" :=
  typeOf_json (by simp) (by simp [Json.field])

/-- Of the observations of a dossier's packet only the attempt core has its type. -/
theorem eq_attemptCore (h : o ∈ observationsOf d rawDigest coreDigest) (htype : typeOf o = some "docket_attempt_core") :
    o = attemptCore d := by
  have hother : ∀ {o : Json} {type : String}, typeOf o = some type → type ≠ "docket_attempt_core" →
      typeOf o = some "docket_attempt_core" → o = attemptCore d :=
    fun ht hne e => absurd (Option.some.inj (ht.symm.trans e)) hne
  refine forall_observations (P := fun o => typeOf o = some "docket_attempt_core" → o = attemptCore d)
    (hother typeOf_sourceIdentity ?_) (fun a => hother (typeOf_authorization a) ?_) (fun _ => rfl)
    (hother (typeOf_authority _) ?_) (hother typeOf_settlementEvidence ?_)
    (fun r => hother (typeOf_observationRecord r) ?_)
    (fun a => hother (typeOf_relianceAdmission a) ?_) (fun r => hother (typeOf_relianceRefusal r) ?_)
    (fun r => hother (typeOf_residualObligation r) ?_)
    (fun r => hother (typeOf_reconciliation r) ?_) o h htype <;> decide

theorem attemptCore_mem : attemptCore d ∈ observationsOf d rawDigest coreDigest := by
  unfold observationsOf
  simp

end Docket

namespace Continuity

variable {r : RelyRecord} {rawDigest coreDigest : String} {o : Json}

theorem relyResult_fields (r : RelyRecord) :
    typeOf (relyResult r) = some "continuity_rely_result" ∧ (relyResult r).get "rely_ok" = some (.bool r.rely.relyOk) :=
  ⟨typeOf_json (by simp) (by simp [Json.field]), (get_json (by simp) _).trans (by simp [Json.field])⟩

theorem typeOf_sourceIdentity : typeOf (sourceIdentity r rawDigest coreDigest) = some "continuity_source_identity" :=
  typeOf_json (by simp) (by simp [Json.field])

theorem typeOf_premise (p : Premise) : typeOf p.toJson = some "continuity_premise" :=
  typeOf_json (by simp) (by simp [Json.field])

/-- Of the observations of a record's packet only the rely result has its type. -/
theorem eq_relyResult (h : o ∈ observationsOf r rawDigest coreDigest)
    (htype : typeOf o = some "continuity_rely_result") :
    o = relyResult r := by
  have hother : ∀ {o : Json} {type : String}, typeOf o = some type → type ≠ "continuity_rely_result" →
      typeOf o = some "continuity_rely_result" → o = relyResult r :=
    fun ht hne e => absurd (Option.some.inj (ht.symm.trans e)) hne
  exact forall_observations (P := fun o => typeOf o = some "continuity_rely_result" → o = relyResult r)
    (hother typeOf_sourceIdentity (by decide)) (fun _ => rfl) (fun p => hother (typeOf_premise p) (by decide)) o h htype

theorem relyResult_mem : relyResult r ∈ observationsOf r rawDigest coreDigest := by
  unfold observationsOf
  simp

end Continuity

/-! ## Subjects -/

/-- `gwr:ref-continuity:v0:` -/
def subjectOf (repositoryId targetRef resultCommit : String) : String :=
  "gwr:ref-continuity:v0:" ++ repositoryId ++ "#" ++ targetRef ++ "@" ++ resultCommit

def IsRefContinuity (subject : String) : Prop := "gwr:ref-continuity:".toList <+: subject.toList

/-- The components of a subject as the identity contract wants them. -/
structure Components (repositoryId resultCommit : String) : Prop where
  repository : ∃ hex : List Char, repositoryId.toList = "repo-".toList ++ hex ∧ hex.length = 32
  commit : ∀ c ∈ resultCommit.toList, Inquiry.isHexDigit c = true

/-- A separator that does not occur behind it cuts at one place only. -/
theorem append_cons_inj {c : Char} {a b a' b' : List Char} (hb : c ∉ b)
    (hb' : c ∉ b') (h : a ++ c :: b = a' ++ c :: b') :
    a = a' ∧ b = b' := by
  rcases append_eq_append_iff.mp h with ⟨l, ha, hl⟩ | ⟨l, ha, hl⟩
  · cases l with
    | nil =>
      cases hl
      exact ⟨by rw [ha, append_nil], rfl⟩
    | cons x l =>
      cases hl
      exact absurd (mem_append_right l mem_cons_self) hb
  · cases l with
    | nil =>
      cases hl
      exact ⟨by rw [ha, append_nil], rfl⟩
    | cons x l =>
      cases hl
      exact absurd (mem_append_right l mem_cons_self) hb'

theorem subjectOf_injective {repositoryId targetRef resultCommit repositoryId' targetRef' resultCommit' : String}
    (h : Components repositoryId resultCommit) (h' : Components repositoryId' resultCommit')
    (e : subjectOf repositoryId targetRef resultCommit = subjectOf repositoryId' targetRef' resultCommit') :
    repositoryId = repositoryId' ∧ targetRef = targetRef' ∧ resultCommit = resultCommit' := by
  obtain ⟨⟨hex, hid, hlen⟩, hcommit⟩ := h
  obtain ⟨⟨hex', hid', hlen'⟩, hcommit'⟩ := h'
  have hat : ∀ {commit : String}, (∀ c ∈ commit.toList, Inquiry.isHexDigit c = true) → '@' ∉ commit.toList :=
    fun hall hin => absurd (hall '@' hin) (by decide)
  have htext := congrArg String.toList e
  unfold subjectOf at htext
  simp only [String.toList_append, append_assoc, append_cancel_left_eq] at htext
  have hlength : repositoryId.toList.length = repositoryId'.toList.length := by
    rw [hid, hid', length_append, length_append, hlen, hlen']
  obtain ⟨hrepository, hrest⟩ := append_inj htext hlength
  obtain ⟨href, hresult⟩ := append_cons_inj (hat hcommit) (hat hcommit') (append_cancel_left hrest)
  exact ⟨String.toList_injective hrepository, String.toList_injective href, String.toList_injective hresult⟩

/-- A v3 subject is made of the components of its dossier. -/
theorem Docket.contract_subject {codec : Codec} {d : Docket.Dossier} {value : Json}
    (h : Docket.validateIdentityContract codec d value = .ok ())
    (hv3 : d.dossierFormat = Docket.supportedDossierFormatV3)
    {subject : String} (hs : d.identity.refContinuitySubject = some subject) : ∃ repositoryId commitment,
      d.identity.repositoryId = some repositoryId ∧ d.execution.commitment = some commitment ∧
      Components repositoryId commitment.resultCommit ∧
      subject = subjectOf repositoryId d.identity.targetRef commitment.resultCommit := by
  unfold Docket.validateIdentityContract at h
  obtain ⟨identity, _, h⟩ := Sql.bind_ok.mp h
  rw [if_pos hv3] at h
  unfold Docket.Dossier.validateV3Identity at h
  simp only [Sql.bind_ok, Collections.rejectIf_ok, Collections.okOr_ok, exists_const] at h
  obtain ⟨_, _, _, repositoryId, hid, hrepo, hhex, _, _, _, _, _, h⟩ := h
  unfold Docket.Dossier.validateSubject at h
  rw [hs] at h
  cases hc : d.execution.commitment with
  | none =>
    rw [hc] at h
    cases h
  | some commitment =>
    rw [hc] at h
    simp only [Sql.bind_ok, Collections.rejectIf_ok, exists_const,
      Bool.not_eq_false', decide_eq_false_iff_not, ne_eq, not_not] at h hhex
    obtain ⟨_, hcommit, hsubject⟩ := h
    unfold Docket.isLowerHex at hcommit hhex
    simp only [Bool.and_eq_true, all_eq_true, String.toList_ofList, decide_eq_true_eq, mem_singleton] at hcommit hhex
    have hprefix : "repo-".toList <+: repositoryId.toList := by simpa using hrepo
    obtain ⟨rest, hrest⟩ := hprefix
    refine ⟨repositoryId, commitment, hid, rfl, ⟨⟨rest, hrest.symm, ?_⟩, hcommit.2⟩, hsubject⟩
    have hlen := hhex.1
    rw [← hrest] at hlen
    exact hlen

theorem Docket.refContinuity {d : Docket.Dossier} (h : IsRefContinuity d.subject) :
    d.dossierFormat = Docket.supportedDossierFormatV3 ∧ d.identity.refContinuitySubject = some d.subject := by
  have hother : ∀ attempt : String, ¬IsRefContinuity ("docket:attempt:" ++ attempt) := by
    intro attempt hprefix
    unfold IsRefContinuity at hprefix
    rw [String.toList_append] at hprefix
    obtain ⟨rest, hrest⟩ := hprefix
    have hhead := congrArg List.head? hrest
    revert hhead
    simp
  unfold Docket.Dossier.subject at h ⊢
  by_cases hv3 : d.dossierFormat = Docket.supportedDossierFormatV3
  · rw [if_pos hv3] at h ⊢
    refine ⟨hv3, ?_⟩
    cases hs : d.identity.refContinuitySubject with
    | none =>
      rw [hs] at h
      exact absurd h (hother _)
    | some subject => rfl
  · rw [if_neg hv3] at h
    exact absurd h (hother _)

/-! ## Packets of accepted imports -/

inductive Source where
  | dossier (d : Docket.Dossier)
  | record (r : Continuity.RelyRecord)

section

variable (codec : Codec) (docketSource continuitySource : List UInt8)

/-- An import accepted the document and built the packet for it. -/
def Source.Produced (source : Source) (p : WitnessPacket) : Prop :=
  match source with
  | .dossier d => ∃ os t c draft a, scan os codec (docket docketSource) t c = .ok (.publish draft) ∧
      Accepts codec (docket docketSource) c.bytes a ∧ a.doc = d ∧ draft.packet = p
  | .record r => ∃ os t c draft a, scan os codec (continuity continuitySource) t c = .ok (.publish draft) ∧
      Accepts codec (continuity continuitySource) c.bytes a ∧ a.doc = r ∧ draft.packet = p

end

section

variable {codec : Codec} {docketSource continuitySource : List UInt8}

/-- What a packet has of its dossier. -/
structure Docket.ProjectedTo (codec : Codec) (d : Docket.Dossier) (p : WitnessPacket) : Prop where
  valid : p.validate codec.toCodec = .ok ()
  witnessType : p.witnessType = Docket.witnessType
  subject : p.subject = d.subject
  observations : ∃ raw core, p.observations = Docket.observationsOf d raw core
  contract : ∃ value, Docket.validateIdentityContract codec d value = .ok ()

structure Continuity.ProjectedTo (codec : Codec) (r : Continuity.RelyRecord) (p : WitnessPacket) : Prop where
  valid : p.validate codec.toCodec = .ok ()
  witnessType : p.witnessType = Continuity.witnessType
  subject : p.subject = r.subject.scope
  observations : ∃ raw core, p.observations = Continuity.observationsOf r raw core

variable {p : WitnessPacket}

theorem Docket.projectedTo {d : Docket.Dossier}
    (h : (Source.dossier d).Produced codec docketSource continuitySource p) :
    Docket.ProjectedTo codec d p := by
  obtain ⟨os, t, c, draft, a, hscan, ha, ed, ep⟩ := h
  obtain ⟨a', _, ha', _, hdecision⟩ := scan_ok.mp hscan
  cases ha.unique ha'
  rcases hdecision with ⟨_, _, e⟩ | ⟨_, _, packet, _, hbuild, _, e⟩
  · cases e
  · cases e
    subst ed
    subst ep
    have hbuild : Docket.buildPacket codec a.doc c.sourcePath (sha256Hex codec c.bytes) a.core c.generatedAt =
        .ok packet := hbuild
    unfold Docket.buildPacket at hbuild
    simp only [Sql.bind_ok, Sql.mapError_ok] at hbuild
    obtain ⟨coverage, _, _, hvalid, e⟩ := hbuild
    cases e
    exact ⟨hvalid, rfl, rfl, ⟨_, _, rfl⟩, a.value, Sql.mapError_ok.mp ha.checked⟩

theorem Continuity.projectedTo {r : Continuity.RelyRecord}
    (h : (Source.record r).Produced codec docketSource continuitySource p) : Continuity.ProjectedTo codec r p := by
  obtain ⟨os, t, c, draft, a, hscan, ha, er, ep⟩ := h
  obtain ⟨a', _, ha', _, hdecision⟩ := scan_ok.mp hscan
  cases ha.unique ha'
  rcases hdecision with ⟨_, _, e⟩ | ⟨_, _, packet, _, hbuild, _, e⟩
  · cases e
  · cases e
    subst er
    subst ep
    have hbuild : Continuity.buildPacket codec a.doc c.sourcePath (sha256Hex codec c.bytes) a.core c.generatedAt =
        .ok packet := hbuild
    unfold Continuity.buildPacket at hbuild
    simp only [Sql.bind_ok, Sql.mapError_ok] at hbuild
    obtain ⟨coverage, _, _, hvalid, e⟩ := hbuild
    cases e
    exact ⟨hvalid, rfl, rfl, _, _, rfl⟩

/-! ## What verifies -/

/-- Documents with the packets built for them. -/
abbrev Testimony := List (Source × WitnessPacket)

def Testimony.packets (items : Testimony) : List WitnessPacket := items.map Prod.snd

/-- The dossiers projected onto a subject. -/
def Testimony.Dossier (items : Testimony) (subject : String) (d : Docket.Dossier) : Prop :=
  ∃ p, (Source.dossier d, p) ∈ items ∧ d.subject = subject

/-- The records of a scope. -/
def Testimony.Record (items : Testimony) (scope : String) (r : Continuity.RelyRecord) : Prop :=
  ∃ p, (Source.record r, p) ∈ items ∧ r.subject.scope = scope

theorem resolvePath_single {path : String} (v : Json) (h : path.toList.splitOn '.' = [path.toList]) :
    Receipts.resolvePath v path = v.get path := by
  unfold Receipts.resolvePath
  rw [h]
  simp

theorem holds_attemptCore (d : Docket.Dossier) :
    (Receipts.LeafCondition.stringFieldEquals "docket_state" "committed").holds (Docket.attemptCore d) =
      decide (d.state = "committed") := by
  unfold Receipts.LeafCondition.holds
  dsimp only
  rw [resolvePath_single _ (by decide), (Docket.attemptCore_fields d).2]
  rfl

theorem holds_relyResult (r : Continuity.RelyRecord) :
    (Receipts.LeafCondition.boolFieldTrue "rely_ok").holds (Continuity.relyResult r) = r.rely.relyOk := by
  unfold Receipts.LeafCondition.holds
  dsimp only
  rw [resolvePath_single _ (by decide), (Continuity.relyResult_fields r).2]
  rfl

section

variable {items : Testimony} {subject : String} {leaf : LeafClaim} {obs : Json} {claim : String}

/-- A leaf that reads what every packet of one kind holds once. -/
theorem verifies_leaf_iff {name : String} (hget : ClaimRegistry.trackBStarter.get name = some (.leaf leaf))
    {packets : List WitnessPacket} : Verifies .trackBStarter subject packets name ↔
      (∃ obs, Matches leaf subject packets obs) ∧ ∀ obs, Matches leaf subject packets obs →
        leaf.condition.holds obs = true := by
  constructor
  · intro h
    cases h with
    | leaf hget' hsome hall =>
      cases Option.some.inj (hget.symm.trans hget')
      exact ⟨hsome, hall⟩
    | composite hget' _ => cases hget.symm.trans hget'
  · intro h
    exact .leaf hget h.1 h.2

theorem matches_settled (h : ∀ x ∈ items, x.1.Produced codec docketSource continuitySource x.2)
    (hw : leaf.witnessType = Docket.witnessType) (ht : leaf.observationType = "docket_attempt_core") :
    Matches leaf subject items.packets obs ↔ ∃ d, items.Dossier subject d ∧ obs = Docket.attemptCore d := by
  constructor
  · intro hm
    obtain ⟨p, hp, hsubject, htype, hobs, hkind⟩ := hm
    obtain ⟨⟨source, _⟩, hx, rfl⟩ := List.mem_map.mp hp
    cases source with
    | dossier d =>
      have hd := Docket.projectedTo (h _ hx)
      obtain ⟨raw, core, hall⟩ := hd.observations
      exact ⟨d, ⟨_, hx, hd.subject.symm.trans hsubject⟩,
        Docket.eq_attemptCore (hall ▸ hobs) (hkind.trans (congrArg some ht))⟩
    | record r =>
      have hr := Continuity.projectedTo (h _ hx)
      exact absurd (hr.witnessType.symm.trans (htype.trans hw)) (by decide)
  · intro hd
    obtain ⟨d, ⟨p, hx, hsubject⟩, rfl⟩ := hd
    have hd := Docket.projectedTo (h _ hx)
    obtain ⟨raw, core, hall⟩ := hd.observations
    exact ⟨p, mem_map_of_mem hx, hd.subject.trans hsubject, hd.witnessType.trans hw.symm, hall ▸ Docket.attemptCore_mem,
      (Docket.attemptCore_fields d).1.trans (congrArg some ht.symm)⟩

theorem matches_eligible (h : ∀ x ∈ items, x.1.Produced codec docketSource continuitySource x.2)
    (hw : leaf.witnessType = Continuity.witnessType) (ht : leaf.observationType = "continuity_rely_result") :
    Matches leaf subject items.packets obs ↔ ∃ r, items.Record subject r ∧ obs = Continuity.relyResult r := by
  constructor
  · intro hm
    obtain ⟨p, hp, hsubject, htype, hobs, hkind⟩ := hm
    obtain ⟨⟨source, _⟩, hx, rfl⟩ := List.mem_map.mp hp
    cases source with
    | dossier d =>
      have hd := Docket.projectedTo (h _ hx)
      exact absurd (hd.witnessType.symm.trans (htype.trans hw)) (by decide)
    | record r =>
      have hr := Continuity.projectedTo (h _ hx)
      obtain ⟨raw, core, hall⟩ := hr.observations
      exact ⟨r, ⟨_, hx, hr.subject.symm.trans hsubject⟩,
        Continuity.eq_relyResult (hall ▸ hobs) (hkind.trans (congrArg some ht))⟩
  · intro hr
    obtain ⟨r, ⟨p, hx, hsubject⟩, rfl⟩ := hr
    have hr := Continuity.projectedTo (h _ hx)
    obtain ⟨raw, core, hall⟩ := hr.observations
    exact ⟨p, mem_map_of_mem hx, hr.subject.trans hsubject, hr.witnessType.trans hw.symm,
      hall ▸ Continuity.relyResult_mem, (Continuity.relyResult_fields r).1.trans (congrArg some ht.symm)⟩

theorem settled_iff (h : ∀ x ∈ items, x.1.Produced codec docketSource continuitySource x.2) :
    Verifies .trackBStarter subject items.packets "docket_attempt_settled" ↔
      (∃ d, items.Dossier subject d) ∧ ∀ d, items.Dossier subject d → d.state = "committed" := by
  have hleaf : ∃ leaf, ClaimRegistry.trackBStarter.get "docket_attempt_settled" = some (.leaf leaf) ∧
      leaf.witnessType = Docket.witnessType ∧ leaf.observationType = "docket_attempt_core" ∧
      leaf.condition = .stringFieldEquals "docket_state" "committed" := ⟨_, rfl, rfl, rfl, rfl⟩
  obtain ⟨leaf, hget, hw, ht, hc⟩ := hleaf
  rw [verifies_leaf_iff hget]
  simp only [matches_settled h hw ht, hc]
  constructor
  · intro hv
    obtain ⟨⟨_, d, hd, _⟩, hall⟩ := hv
    exact ⟨⟨d, hd⟩, fun d' hd' => of_decide_eq_true ((holds_attemptCore d').symm.trans (hall _ ⟨d', hd', rfl⟩))⟩
  · intro hv
    obtain ⟨⟨d, hd⟩, hall⟩ := hv
    refine ⟨⟨_, d, hd, rfl⟩, fun obs hobs => ?_⟩
    obtain ⟨d', hd', rfl⟩ := hobs
    rw [holds_attemptCore, hall d' hd']
    rfl

theorem eligible_iff (h : ∀ x ∈ items, x.1.Produced codec docketSource continuitySource x.2) :
    Verifies .trackBStarter subject items.packets "continuity_rely_eligible" ↔
      (∃ r, items.Record subject r) ∧ ∀ r, items.Record subject r → r.rely.relyOk = true := by
  have hleaf : ∃ leaf, ClaimRegistry.trackBStarter.get "continuity_rely_eligible" = some (.leaf leaf) ∧
      leaf.witnessType = Continuity.witnessType ∧ leaf.observationType = "continuity_rely_result" ∧
      leaf.condition = .boolFieldTrue "rely_ok" := ⟨_, rfl, rfl, rfl, rfl⟩
  obtain ⟨leaf, hget, hw, ht, hc⟩ := hleaf
  rw [verifies_leaf_iff hget]
  simp only [matches_eligible h hw ht, hc]
  constructor
  · intro hv
    obtain ⟨⟨_, r, hr, _⟩, hall⟩ := hv
    exact ⟨⟨r, hr⟩, fun r' hr' => (holds_relyResult r').symm.trans (hall _ ⟨r', hr', rfl⟩)⟩
  · intro hv
    obtain ⟨⟨r, hr⟩, hall⟩ := hv
    refine ⟨⟨_, r, hr, rfl⟩, fun obs hobs => ?_⟩
    obtain ⟨r', hr', rfl⟩ := hobs
    rw [holds_relyResult, hall r' hr']

/-- What an entry of the starter catalog needs from elsewhere. -/
def starterNeeds (e : ClaimEntry) : Bool :=
  match e with
  | .leaf c => (c.witnessType ≠ Docket.witnessType && c.witnessType ≠ Continuity.witnessType) ||
      c.name = "docket_attempt_settled" || c.name = "continuity_rely_eligible"
  | .composite c => "repo_clean" ∈ c.requires
  | .nonMintable _ => true

theorem starter_needs : ∀ e ∈ ClaimRegistry.trackBStarter.entries, starterNeeds e = true := by decide

theorem imported_verifies_only (h : ∀ x ∈ items, x.1.Produced codec docketSource continuitySource x.2)
    (hv : Verifies .trackBStarter subject items.packets claim) :
    claim = "docket_attempt_settled" ∨ claim = "continuity_rely_eligible" := by
  induction hv with
  | @leaf name c hget hsome hall =>
    obtain ⟨hmem, hname⟩ := ClaimRegistry.get_eq_some hget
    have hneeds := starter_needs _ hmem
    obtain ⟨_, p, hp, _, htype, _⟩ := hsome
    obtain ⟨⟨source, _⟩, hx, rfl⟩ := List.mem_map.mp hp
    have hname : c.name = name := hname
    have hown : c.witnessType = Docket.witnessType ∨ c.witnessType = Continuity.witnessType := by
      cases source with
      | dossier d => exact Or.inl (htype.symm.trans (Docket.projectedTo (h _ hx)).witnessType)
      | record r => exact Or.inr (htype.symm.trans (Continuity.projectedTo (h _ hx)).witnessType)
    unfold starterNeeds at hneeds
    simp only [Bool.or_eq_true, Bool.and_eq_true, decide_eq_true_eq, hname] at hneeds
    rcases hneeds with (hforeign | hsettled) | heligible
    · rcases hown with e | e
      · exact absurd e hforeign.1
      · exact absurd e hforeign.2
    · exact Or.inl hsettled
    · exact Or.inr heligible
  | @composite name c hget _ ih =>
    obtain ⟨hmem, _⟩ := ClaimRegistry.get_eq_some hget
    have hneeds : "repo_clean" ∈ c.requires := of_decide_eq_true (starter_needs _ hmem)
    rcases ih _ hneeds with e | e
    · exact absurd e (by decide)
    · exact absurd e (by decide)

/-! ## Narrow testimony -/

/-- What the starter catalog makes of the packets: nothing but two claims, each as the documents declare it. -/
structure Testimony.Narrow (codec : Codec) (items : Testimony) (subject generatedAt : String) : Prop where
  only : ∀ claim, ∃ r, evaluate codec.toCodec .trackBStarter claim subject items.packets generatedAt 7 = some r ∧
    (r.status = .verified → claim = "docket_attempt_settled" ∨ claim = "continuity_rely_eligible")
  settled : ∀ r, evaluate codec.toCodec .trackBStarter "docket_attempt_settled"
    subject items.packets generatedAt 7 = some r →
    r.status = .verified → (∃ d, items.Dossier subject d) ∧ (∀ d, items.Dossier subject d → d.state = "committed") ∧
      (IsRefContinuity subject → ∃ repositoryId targetRef resultCommit, Components repositoryId resultCommit ∧
        subject = subjectOf repositoryId targetRef resultCommit ∧
        (∀ repositoryId' targetRef' resultCommit', Components repositoryId' resultCommit' →
          subject = subjectOf repositoryId' targetRef' resultCommit' →
          repositoryId' = repositoryId ∧ targetRef' = targetRef ∧ resultCommit' = resultCommit) ∧
        ∀ d, items.Dossier subject d → d.identity.repositoryId = some repositoryId ∧ d.identity.targetRef = targetRef ∧
          d.execution.commitment.map (·.resultCommit) = some resultCommit)
  eligible : ∀ r, evaluate codec.toCodec .trackBStarter "continuity_rely_eligible" subject items.packets generatedAt 7 =
    some r → r.status = .verified → (∃ record, items.Record subject record) ∧
      ∀ record, items.Record subject record → record.rely.relyOk = true

/-- Imported packets are valid, and a claim over them evaluates to verified exactly where it verifies. -/
theorem evaluates (h : ∀ x ∈ items, x.1.Produced codec docketSource continuitySource x.2) (generatedAt claim : String) :
    ∃ r, evaluate codec.toCodec .trackBStarter claim subject items.packets generatedAt 7 = some r ∧
      (r.status = .verified ↔ Verifies .trackBStarter subject items.packets claim) := by
  have hvalid : ∀ p ∈ items.packets, p.validate codec.toCodec = .ok () := by
    intro p hp
    obtain ⟨⟨source, _⟩, hx, rfl⟩ := List.mem_map.mp hp
    cases source with
    | dossier d => exact (Docket.projectedTo (h _ hx)).valid
    | record r => exact (Continuity.projectedTo (h _ hx)).valid
  have hfuel : ClaimRegistry.trackBStarter.entries.length ≤ 7 := by decide
  obtain ⟨r, hr, hstatus, _⟩ :=
    Receipts.evaluate_verifies codec.toCodec Receipts.starter_acyclic subject hvalid generatedAt hfuel claim
  exact ⟨r, hr, hstatus⟩

theorem evaluated (h : ∀ x ∈ items, x.1.Produced codec docketSource continuitySource x.2) {generatedAt : String}
    {r : Reliance.Receipt}
    (hr : evaluate codec.toCodec .trackBStarter claim subject items.packets generatedAt 7 = some r)
    (hv : r.status = .verified) : Verifies .trackBStarter subject items.packets claim := by
  have heval : ∃ r, evaluate codec.toCodec .trackBStarter claim subject items.packets generatedAt 7 = some r ∧
      (r.status = .verified ↔ Verifies .trackBStarter subject items.packets claim) := evaluates h generatedAt claim
  obtain ⟨r', hr', hstatus⟩ := heval
  cases hr.symm.trans hr'
  exact hstatus.mp hv

/-- The components of a ref-continuity subject are those of every dossier projected onto it. -/
theorem dossier_components (h : ∀ x ∈ items, x.1.Produced codec docketSource continuitySource x.2)
    (hsubject : IsRefContinuity subject)
    {d : Docket.Dossier} (hd : items.Dossier subject d) : ∃ repositoryId commitment, d.identity.repositoryId =
      some repositoryId ∧ d.execution.commitment = some commitment ∧ Components repositoryId commitment.resultCommit ∧
      subject = subjectOf repositoryId d.identity.targetRef commitment.resultCommit := by
  obtain ⟨p, hx, e⟩ := hd
  subst e
  obtain ⟨hv3, hs⟩ := Docket.refContinuity hsubject
  obtain ⟨value, hcontract⟩ := (Docket.projectedTo (h _ hx)).contract
  exact Docket.contract_subject hcontract hv3 hs

end

end

/-- Imported testimony is narrow. -/
theorem testimony_narrow (codec : Codec) (docketSource continuitySource : List UInt8) (items : Testimony)
    (h : ∀ x ∈ items, x.1.Produced codec docketSource continuitySource x.2) (subject generatedAt : String) :
    items.Narrow codec subject generatedAt := by
  refine { only := fun claim => ?_, settled := fun r hr hv => ?_, eligible := fun r hr hv =>
    (eligible_iff h).mp (evaluated h hr hv) }
  · obtain ⟨r, hr, hstatus⟩ := evaluates h generatedAt claim
    exact ⟨r, hr, fun hv => imported_verifies_only h (hstatus.mp hv)⟩
  · obtain ⟨hsome, hall⟩ := (settled_iff h).mp (evaluated h hr hv)
    refine ⟨hsome, hall, fun hsubject => ?_⟩
    obtain ⟨d, hd⟩ := hsome
    obtain ⟨repositoryId, commitment, _, _, hwell, hmade⟩ := dossier_components h hsubject hd
    have hunique : ∀ repositoryId' targetRef' resultCommit', Components repositoryId' resultCommit' →
        subject = subjectOf repositoryId' targetRef' resultCommit' →
        repositoryId' = repositoryId ∧ targetRef' = d.identity.targetRef ∧ resultCommit' = commitment.resultCommit :=
      fun _ _ _ hwell' hmade' => subjectOf_injective hwell' hwell (hmade'.symm.trans hmade)
    refine ⟨repositoryId, d.identity.targetRef, commitment.resultCommit, hwell, hmade, hunique, fun d' hd' => ?_⟩
    obtain ⟨repositoryId', commitment', hid', hcommitment', hwell', hmade'⟩ := dossier_components h hsubject hd'
    obtain ⟨eid, eref, ecommit⟩ := hunique _ _ _ hwell' hmade'
    exact ⟨hid'.trans (congrArg some eid), eref, by rw [hcommitment', Option.map_some, ecommit]⟩

/-! ## A record -/

/-- A rely record under a code and a memory id. -/
def relyValue (code memoryId : String) : Json :=
  .object [("authoring_tier", .string "agent_authored"), ("content_hash", .string "sha256:c"),
    ("does_not_establish", .array []),
    ("effective_reliance", .string "advisory"), ("establishes", .array []),
      ("evaluation_time", .string "2026-05-15T14:00:00Z"),
    ("export_id", .string "sha256:e"), ("exported_at", .string "2026-05-15T14:00:00Z"),
    ("history", .object [("event_count", jsonNat 2), ("receipt_count", jsonNat 2)]),
      ("lifecycle", .object []), ("premises", .array []),
    ("reliance_class", .string "advisory"), ("rely", .object [("code", .string code), ("details", .object []),
      ("message", .string ""), ("rely_ok", .bool true)]), ("revoked_by", .null),
        ("schema", .string "continuity.rely_export.v0"),
    ("source", .object [("exporter", .object [("commit", .null), ("repo", .null), ("tool", .string "continuity"),
      ("version", .string "0.1.0")]), ("schema_version", jsonNat 4),
        ("scope_kind", .string "explicit"), ("store_id", .null),
      ("system", .string "continuity")]), ("status", .string "committed"),
    ("subject", .object [("basis", .string "operator_assertion"), ("kind", .string "fact"),
      ("memory_id", .string memoryId), ("scope", .string "repo:vector")]), ("supersedes", .null),
    ("times", .object [("created_at", .string "2026-05-15T14:00:00Z"), ("updated_at", .string "2026-05-15T14:00:00Z")])]

/-- A codec that parses one document, in its compact form. -/
def documentCodec (value : Json) : Codec where
  toCodec := Receipts.sampleCodec
  fromSlice := fun bytes => if bytes = Text.bytes value.toJcs then .ok value
    else .error "expected value at line 1 column 1"
  decodeError := fun _ => "invalid type"
  jcs := fun v => .ok (Text.bytes v.toJcs)
  packetToVecPretty := fun p => .ok (Text.bytes p.toJcs)
  packetFromSlice := fun _ => .error "expected value at line 1 column 1"
  formatUnixNanos := fun _ => none
  receiptJcs := fun _ => .ok []
  receiptToVecPretty := fun _ => .ok []
  receiptFromSlice := fun _ => .error "expected value at line 1 column 1"

theorem documentCodec_parses (value : Json) : (documentCodec value).fromSlice (Text.bytes value.toJcs) = .ok value :=
  if_pos rfl

theorem sample_rfc3339 : Receipts.sampleCodec.rfc3339 "2026-05-15T14:00:00Z" = .ok 1778853600000000000 := by
  simp [Receipts.sampleCodec]

theorem sample_filled :
    ∀ s ∈ ["repo:vector", "record.json", "2026-05-15T14:00:00Z", "2026-05-15T14:00:00Z"], blank s = false := by
  decide

def namesInOrder : Os where
  order := fun names => names.sort (· ≤ ·)
  lists := fun _ _ => Finset.mem_sort _

def relyCall (code memoryId : String) : Call :=
  ⟨Text.bytes (relyValue code memoryId).toJcs, "record.json", ["store"], "2026-05-15T14:00:00Z", 1, 0⟩

variable {code : String}

/-- The record is accepted under every code of the vocabulary and every memory id. -/
theorem rely_accepts (hcode : code ∈ Continuity.knownRelyCodes) (memoryId : String) : ∃ a,
    Accepts (documentCodec (relyValue code memoryId)) (continuity []) (relyCall code memoryId).bytes a ∧
      a.doc.rely.code = code ∧
      a.doc.rely.relyOk = true ∧ a.doc.subject.scope = "repo:vector" ∧ a.doc.evaluationTime = "2026-05-15T14:00:00Z" ∧
      a.doc.premises = [] ∧ a.doc.doesNotEstablish = [] ∧ a.doc.subject.memoryId = memoryId := by
  have hdecoded : ∃ r, Continuity.RelyRecord.decode (relyValue code memoryId) = some r ∧
    r.rely.code = code ∧ r.rely.relyOk = true ∧
      r.subject.scope = "repo:vector" ∧ r.source.system = "continuity" ∧ r.evaluationTime = "2026-05-15T14:00:00Z" ∧
      r.premises = [] ∧ r.doesNotEstablish = [] ∧ r.subject.memoryId = memoryId :=
    ⟨_, rfl, rfl, rfl, rfl, rfl, rfl, rfl, rfl, rfl⟩
  obtain ⟨r, hdecode, hrely, hok, hscope, hsystem, htime, hpremises, hnonclaims, hid⟩ := hdecoded
  have hadmissible : r.admissible (documentCodec (relyValue code memoryId)) = .ok () := by
    unfold Continuity.RelyRecord.admissible
    rw [hsystem, hrely, if_neg (fun h => h rfl), if_neg (fun h => h hcode)]
    rfl
  have hcore : ∃ core, coreConsistencyDigest (documentCodec (relyValue code memoryId))
    (continuity []) (relyValue code memoryId) =
      .ok core := ⟨_, rfl⟩
  obtain ⟨core, hcore⟩ := hcore
  have hsupported : (continuity []).found (relyValue code memoryId) ∈ (continuity []).supported := mem_singleton.mpr rfl
  exact ⟨⟨r, relyValue code memoryId, core⟩, ⟨documentCodec_parses _, hsupported, hdecode, hadmissible, hcore⟩, hrely,
    hok, hscope, htime, hpremises, hnonclaims, hid⟩

theorem rely_produced (hcode : code ∈ Continuity.knownRelyCodes) : ∃ r p,
    (Source.record r).Produced (documentCodec (relyValue code "mem_vector")) []
    [] p ∧ r.rely.code = code ∧ r.rely.relyOk = true ∧ r.subject.scope = "repo:vector" := by
  obtain ⟨a, ha, hrely, hok, hscope, htime, hpremises, hnonclaims, hid⟩ := rely_accepts hcode "mem_vector"
  have hcoverage : ∃ coverage, Continuity.premiseCoverage a.doc = .ok coverage := by
    unfold Continuity.premiseCoverage
    rw [hpremises, hnonclaims]
    exact ⟨_, rfl⟩
  obtain ⟨coverage, hcoverage⟩ := hcoverage
  have hstamped : Stamped (documentCodec (relyValue code "mem_vector")).toCodec a.doc.subject.scope
      (relyCall code "mem_vector").sourcePath a.doc.evaluationTime (relyCall code "mem_vector").generatedAt := by
    rw [hscope, htime]
    exact ⟨sample_filled, ⟨_, sample_rfc3339⟩, ⟨_, sample_rfc3339⟩⟩
  have habsent : Files.Tree.empty.readDir (a.dir (continuity []) (relyCall code "mem_vector")) = .error .notFound := by
    show Files.Tree.empty.readDir (Files.join ["store"] a.doc.subject.memoryId) = _
    rw [hid]
    rfl
  have hscan : ∃ draft, scan namesInOrder (documentCodec (relyValue code "mem_vector")) (continuity []) .empty
      (relyCall code "mem_vector") = .ok (.publish draft) :=
    ⟨_, scan_ok.mpr ⟨a, [], ha, readStore_absent habsent, Or.inr ⟨rfl, rfl, _, _,
      Continuity.buildPacket_ok.mpr ⟨coverage, hcoverage, hstamped, rfl⟩, rfl, rfl⟩⟩⟩
  obtain ⟨draft, hscan⟩ := hscan
  exact ⟨a.doc, draft.packet, ⟨namesInOrder, .empty, relyCall code "mem_vector", draft, a, hscan, ha, rfl, rfl⟩,
    hrely, hok, hscope⟩

/-- The claim as it reads: a scope is eligible only where every record's code is `eligible`. -/
def EligibleAsNamed (codec : Codec) (items : Testimony) (subject generatedAt : String) : Prop :=
  ∀ r, evaluate codec.toCodec .trackBStarter "continuity_rely_eligible" subject items.packets generatedAt 7 = some r →
    r.status = .verified → ∀ record, items.Record subject record →
      record.rely.code = "eligible" ∧ record.rely.relyOk = true

/-- A record that is ok and expired is eligible. -/
theorem an_expired_record_is_eligible : ∃ r p,
    (Source.record r).Produced (documentCodec (relyValue "expired" "mem_vector")) [] [] p ∧
    ¬EligibleAsNamed (documentCodec (relyValue "expired" "mem_vector"))
      [(.record r, p)] "repo:vector" "2026-05-15T14:00:00Z" := by
  obtain ⟨r, p, hp, hcode, hok, hscope⟩ := rely_produced (show "expired" ∈ Continuity.knownRelyCodes by decide)
  have h : ∀ x ∈ [(Source.record r, p)], x.1.Produced (documentCodec (relyValue "expired" "mem_vector")) [] [] x.2 := by
    intro x hx
    rw [mem_singleton.mp hx]
    exact hp
  have hrecord : ∀ r', Testimony.Record [(.record r, p)] "repo:vector" r' ↔ r' = r := by
    intro r'
    constructor
    · intro hr'
      obtain ⟨p', hmem, _⟩ := hr'
      cases mem_singleton.mp hmem
      rfl
    · intro e
      exact ⟨p, mem_singleton.mpr (by rw [e]), e ▸ hscope⟩
  have heligible : Verifies .trackBStarter "repo:vector" (Testimony.packets [(.record r, p)])
      "continuity_rely_eligible" :=
    (eligible_iff h).mpr ⟨⟨r, (hrecord r).mpr rfl⟩, fun r' hr' => (hrecord r').mp hr' ▸ hok⟩
  obtain ⟨receipt, hreceipt, hstatus⟩ := evaluates h "2026-05-15T14:00:00Z" "continuity_rely_eligible"
  refine ⟨r, p, hp, fun hnamed => ?_⟩
  have hnot := (hnamed receipt hreceipt (hstatus.mpr heligible) r ((hrecord r).mpr rfl)).1
  rw [hcode] at hnot
  exact absurd hnot (by decide)

theorem an_eligible_record_is_narrow :
    ∃ r p, (Source.record r).Produced (documentCodec (relyValue "eligible" "mem_vector")) [] [] p ∧
    Testimony.Narrow (documentCodec (relyValue "eligible" "mem_vector"))
      [(.record r, p)] "repo:vector" "2026-05-15T14:00:00Z" := by
  obtain ⟨r, p, hp, _⟩ := rely_produced (show "eligible" ∈ Continuity.knownRelyCodes by decide)
  refine ⟨r, p, hp, testimony_narrow _ [] [] [(.record r, p)] (fun x hx => ?_) _ _⟩
  rw [mem_singleton.mp hx]
  exact hp

end Nq.Projection
