/-
  Nq.Receipts.Honest — the replay of receipts that were minted by the evaluator.

  A minted receipt is genuine and keeps the fields replay asks for. It replays from every list
  of its packets exactly when no packet of its subject shares its digest with another of them,
  itself included (`honest_receipts_replay_iff`): the mint names each packet it was given, and
  replay names each digest once.
-/

import Mathlib.Data.List.Perm.Basic
import Nq.Receipts.Replay

namespace Nq.Receipts

open Collections (firstsOn)
open List
open Reliance (Receipt)

variable {codec : Codec} {registry : ClaimRegistry} {claim subject generatedAt : String}
  {packets supplied witnesses : List WitnessPacket}
  {fuel : Nat} {r : Receipt}

/-- JCS fails on nothing. -/
structure Codec.Canonicalizes (codec : Codec) : Prop where
  packet : ∀ p, ∃ bytes, codec.packetToVec p = .ok bytes
  receipt : ∀ r, ∃ bytes, codec.receiptToVec r = .ok bytes

/-! ## What is minted -/

/-- What a receipt is about. -/
structure About (r : Receipt) (claim subject generatedAt : String) : Prop where
  schema : r.schema = receiptSchema
  claim : r.claim = claim
  subject : r.subject = subject
  generatedAt : r.generatedAt = generatedAt

theorem resolve_about {entry : ClaimEntry}
    (h : resolve codec registry subject witnesses generatedAt fuel entry = some r) :
    About r entry.name subject generatedAt := by
  cases fuel with
  | zero => cases h
  | succ fuel =>
    unfold resolve at h
    dsimp only at h
    cases entry with
    | leaf leaf =>
      cases h
      unfold resolveLeaf
      dsimp only
      split
      · exact ⟨rfl, rfl, rfl, rfl⟩
      · split <;> exact ⟨rfl, rfl, rfl, rfl⟩
    | composite comp =>
      obtain ⟨t, _, e⟩ := Option.map_eq_some_iff.mp h
      subst e
      unfold Tally.receipt
      dsimp only
      split
      · exact ⟨rfl, rfl, rfl, rfl⟩
      · split <;> exact ⟨rfl, rfl, rfl, rfl⟩
    | nonMintable nm =>
      obtain ⟨t, _, e⟩ := Option.map_eq_some_iff.mp h
      subst e
      exact ⟨rfl, rfl, rfl, rfl⟩

theorem resolveClaim_about (h : resolveClaim codec registry claim subject witnesses generatedAt fuel = some r) :
    About r claim subject generatedAt := by
  unfold resolveClaim at h
  cases hget : registry.get claim with
  | none =>
    rw [hget] at h
    cases h
    exact ⟨rfl, rfl, rfl, rfl⟩
  | some entry =>
    rw [hget] at h
    obtain ⟨hschema, hclaim, hsubject, hgenerated⟩ := resolve_about h
    exact ⟨hschema, hclaim.trans (ClaimRegistry.get_eq_some hget).2, hsubject, hgenerated⟩

variable (codec witnesses) in
theorem witnessed_about (h : About r claim subject generatedAt) :
    About (witnessed codec witnesses r) claim subject generatedAt := by
  unfold witnessed
  obtain ⟨hash, e⟩ := sealed_eq codec { r with
    witnesses := witnesses.map (witnessRef codec)
    observedAtMin := (witnesses.map (·.observedAt)).min?
    observedAtMax := (witnesses.map (·.observedAt)).max? }
  rw [e]
  exact ⟨h.schema, h.claim, h.subject, h.generatedAt⟩

theorem witnessed_refs (r : Receipt) : (witnessed codec witnesses r).witnesses = witnesses.map (witnessRef codec) ∧
    (witnessed codec witnesses r).evaluator = some ⟨"claim_registry", evaluatorVersion⟩ := by
  unfold witnessed
  obtain ⟨hash, e⟩ := sealed_eq codec { r with
    witnesses := witnesses.map (witnessRef codec)
    observedAtMin := (witnesses.map (·.observedAt)).min?
    observedAtMax := (witnesses.map (·.observedAt)).max? }
  rw [e]
  exact ⟨rfl, rfl⟩

theorem sealed_genuine (hcodec : codec.Canonicalizes) (r : Receipt) : (sealed codec r).Genuine codec.hashing := by
  unfold sealed
  cases h : Receipt.seal codec.hashing r ⟨"claim_registry", evaluatorVersion⟩ with
  | ok s => exact Reliance.seal_genuine h
  | error e =>
    unfold Receipt.seal Receipt.computeContentHash at h
    obtain ⟨bytes, hbytes⟩ := hcodec.receipt { r with
      evaluator := some ⟨"claim_registry", evaluatorVersion⟩
      contentHash := none }
    have hvec : codec.hashing.toVec = codec.receiptToVec := rfl
    simp [hvec, hbytes, bind, Except.bind, pure, Except.pure] at h

theorem witnessed_genuine (hcodec : codec.Canonicalizes)
    (r : Receipt) : (witnessed codec witnesses r).Genuine codec.hashing :=
  sealed_genuine hcodec _

/-- The mint of a starter claim over valid packets. -/
theorem exists_minted (subject claim generatedAt : String) (hvalid : ∀ p ∈ packets, p.validate codec = .ok ()) : ∃ base,
    resolveClaim codec .trackBStarter claim subject (applicable subject packets)
      generatedAt ClaimRegistry.trackBStarter.entries.length =
      some base ∧
    evaluate codec .trackBStarter claim subject packets generatedAt ClaimRegistry.trackBStarter.entries.length =
      some (witnessed codec (applicable subject packets) base) := by
  rw [evaluate_valid hvalid]
  unfold resolveClaim
  cases hget : ClaimRegistry.trackBStarter.get claim with
  | none => exact ⟨_, rfl, rfl⟩
  | some entry =>
    obtain ⟨base, hbase⟩ := resolve_total codec subject generatedAt (applicable subject packets) starter_acyclic
      ClaimRegistry.trackBStarter.entries.length [] hget nodup_nil (fun _ h => (nomatch h)) (Nat.le_add_right _ _)
    exact ⟨base, hbase, by dsimp only; rw [hbase]; rfl⟩

theorem resolveClaim_congr {witnesses' : List WitnessPacket} (h : ∀ w, w ∈ witnesses ↔ w ∈ witnesses') :
    resolveClaim codec registry claim subject witnesses generatedAt fuel =
      resolveClaim codec registry claim subject witnesses' generatedAt fuel := by
  unfold resolveClaim
  rw [resolve_congr h]

/-! ## Packets by their digest -/

variable {p : WitnessPacket}

theorem mem_deduped (h : p ∈ deduped codec packets) : p ∈ packets := by
  unfold deduped at h
  rw [dedupeByDigest_eq] at h
  exact (Collections.firstsOn_sublist _ _).subset h

theorem mem_applicable : p ∈ applicable subject packets ↔ p ∈ packets ∧ p.subject = subject := by
  unfold applicable
  rw [mem_filter, decide_eq_true_eq]

theorem exists_digest (hcodec : codec.Canonicalizes) (p : WitnessPacket) : ∃ d, p.digest codec = .ok d := by
  obtain ⟨bytes, h⟩ := hcodec.packet p
  unfold WitnessPacket.digest
  rw [h]
  exact ⟨_, rfl⟩

theorem exists_mem_deduped {d : String} (hp : p ∈ packets) (hd : p.digest codec = .ok d) :
    ∃ q ∈ deduped codec packets, q.digest codec = .ok d := by
  unfold deduped
  rw [dedupeByDigest_eq]
  obtain ⟨q, hq, hqd⟩ := Collections.exists_mem_firstsOn (fun p : WitnessPacket => (p.digest codec).toOption) hp
    (toOption_eq_some.mpr hd) not_mem_nil
  exact ⟨q, hq, toOption_eq_some.mp hqd⟩

theorem deduped_digests_nodup (hcodec : codec.Canonicalizes) (packets : List WitnessPacket) :
    ((deduped codec packets).map fun p => (p.digest codec).toOption).Nodup := by
  unfold deduped
  rw [dedupeByDigest_eq, List.Nodup, pairwise_map]
  refine (Collections.firstsOn_keys_nodup packets []).imp fun {p q} h e => ?_
  obtain ⟨d, hd⟩ := exists_digest hcodec p
  exact h d (toOption_eq_some.mpr hd) (e ▸ toOption_eq_some.mpr hd)

/-- No packet of a subject shares its digest with another of a list. -/
def Unrepeated (codec : Codec) (subject : String) (packets : List WitnessPacket) : Prop :=
  packets.Pairwise fun p q => p.digest codec = q.digest codec → p.subject ≠ subject ∧ q.subject ≠ subject

/-- Unrepeated packets of the subject are what replay evaluates, whatever list they come in. -/
theorem Unrepeated.applicable_perm (h : Unrepeated codec subject packets) (hcodec : codec.Canonicalizes)
    (hsame : ∀ p, p ∈ supplied ↔ p ∈ packets) :
    (applicable subject packets).Perm (applicable subject (deduped codec supplied)) := by
  have hunique : ∀ p ∈ packets, ∀ q ∈ packets, p.digest codec = q.digest codec → p.subject = subject → p = q := by
    intro p hp q hq hd hs
    by_contra hne
    have hsymm : Std.Symm fun p q : WitnessPacket => p.digest codec = q.digest codec →
        p.subject ≠ subject ∧ q.subject ≠ subject :=
      ⟨fun p q hpq e => (hpq e.symm).symm⟩
    exact (List.Pairwise.forall h hp hq hne hd).1 hs
  have hleft : (applicable subject packets).Nodup := by
    refine (h.sublist filter_sublist).imp_of_mem fun {p q} hp _ hpq e => ?_
    exact (hpq (e ▸ rfl)).1 (mem_applicable.mp hp).2
  have hright : (applicable subject (deduped codec supplied)).Nodup :=
    (List.Nodup.of_map _ (deduped_digests_nodup hcodec supplied)).sublist filter_sublist
  refine (perm_ext_iff_of_nodup hleft hright).mpr fun p => ?_
  rw [mem_applicable, mem_applicable]
  constructor
  · intro hp
    obtain ⟨d, hd⟩ := exists_digest hcodec p
    obtain ⟨q, hq, hqd⟩ := exists_mem_deduped ((hsame p).mpr hp.1) hd
    have e := hunique p hp.1 q ((hsame q).mp (mem_deduped hq)) (hd.trans hqd.symm) hp.2
    exact ⟨e ▸ hq, hp.2⟩
  · intro hp
    exact ⟨(hsame p).mp (mem_deduped hp.1), hp.2⟩

/-! ## Honest receipts -/

/-- A minted receipt replays where the packets replay evaluates are those it was minted from. -/
theorem minted_replays (hcodec : codec.Canonicalizes) (hvalid : ∀ p ∈ packets, p.validate codec = .ok ())
    (hsame : ∀ p, p ∈ supplied ↔ p ∈ packets) (h : Unrepeated codec subject packets)
    (hr : evaluate codec .trackBStarter claim subject packets
      generatedAt ClaimRegistry.trackBStarter.entries.length = some r) :
    Replays codec r supplied := by
  obtain ⟨base, hbase, he⟩ := exists_minted subject claim generatedAt hvalid
  rw [he] at hr
  cases hr
  have hperm := h.applicable_perm hcodec hsame
  have habout := witnessed_about codec (applicable subject packets) (resolveClaim_about hbase)
  have hvalid' : ∀ p ∈ deduped codec supplied, p.validate codec = .ok () :=
    fun p hp => hvalid p ((hsame p).mp (mem_deduped hp))
  refine ⟨Or.inr (witnessed_genuine hcodec base), habout.schema, (witnessed_refs base).2, fun w hw d hd => ?_, ?_⟩
  · rw [(witnessed_refs base).1] at hw
    obtain ⟨p, hp, e⟩ := List.mem_map.mp hw
    subst e
    exact exists_mem_deduped ((hsame p).mpr (mem_applicable.mp hp).1) (toOption_eq_some.mp hd)
  · obtain ⟨base', hbase', he'⟩ := exists_minted subject claim generatedAt hvalid'
    rw [← resolveClaim_congr fun w => hperm.mem_iff, hbase] at hbase'
    cases hbase'
    refine ⟨_, ?_, witnessed_same (hperm.map _) (fun w => hperm.mem_iff) base⟩
    unfold replayed
    rw [habout.claim, habout.subject, habout.generatedAt]
    exact he'

/-- Where a minted receipt replays, the digests of its packets are those replay evaluates. -/
theorem replays_digests (hvalid : ∀ p ∈ packets, p.validate codec = .ok ()) (hsame : ∀ p, p ∈ supplied ↔ p ∈ packets)
    (hr : evaluate codec .trackBStarter claim subject packets
      generatedAt ClaimRegistry.trackBStarter.entries.length = some r)
    (h : Replays codec r supplied) :
    ((applicable subject packets).map fun p => (p.digest codec).toOption).Perm
      ((applicable subject (deduped codec supplied)).map fun p => (p.digest codec).toOption) := by
  obtain ⟨base, hbase, he⟩ := exists_minted subject claim generatedAt hvalid
  rw [he] at hr
  cases hr
  have habout := witnessed_about codec (applicable subject packets) (resolveClaim_about hbase)
  obtain ⟨again, hagain, hdecision⟩ := h.decision
  unfold replayed at hagain
  rw [habout.claim, habout.subject, habout.generatedAt] at hagain
  obtain ⟨base', _, he'⟩ := exists_minted subject claim generatedAt fun p hp => hvalid p ((hsame p).mp (mem_deduped hp))
  rw [he'] at hagain
  cases hagain
  have hkeys := hdecision.witnesses
  rw [(witnessed_refs base).1, (witnessed_refs base').1, map_map, map_map] at hkeys
  have hdigests := hkeys.map fun k => (ofLex (ofLex k).2).1
  rw [map_map, map_map] at hdigests
  have hordered : ∀ l : List WitnessPacket, l.map ((fun k => (ofLex (ofLex k).2).1) ∘ witnessKey ∘ witnessRef codec) =
      (l.map fun p => (p.digest codec).toOption).map ordered := by
    intro l
    rw [map_map]
    rfl
  rw [hordered, hordered] at hdigests
  exact (map_perm_map_iff ordered_injective).mp hdigests

/-- A minted receipt replays from every list of its packets exactly when none of its subject
    shares its digest with another of them. -/
theorem honest_receipts_replay_iff (codec : Codec) (hcodec : codec.Canonicalizes) (claim subject generatedAt : String)
    (packets : List WitnessPacket) (hvalid : ∀ p ∈ packets, p.validate codec = .ok ()) (opts : ReplayOptions) :
    ∃ r, evaluate codec .trackBStarter claim subject packets
      generatedAt ClaimRegistry.trackBStarter.entries.length = some r ∧
      ((∀ supplied, (∀ p, p ∈ supplied ↔ p ∈ packets) → ∃ report, replayReceipt codec r supplied opts = some report ∧
          report.status = .ok ∧ report.comparison = some []) ↔
        Unrepeated codec subject packets) := by
  obtain ⟨base, _, hr⟩ := exists_minted subject claim generatedAt hvalid
  refine ⟨_, hr, fun h => ?_, fun h supplied hsame => replay_of_replays (minted_replays hcodec hvalid hsame h hr) opts⟩
  have hreplays : ∀ supplied, (∀ p, p ∈ supplied ↔ p ∈ packets) →
      ((applicable subject packets).map fun p => (p.digest codec).toOption).Perm
        ((applicable subject (deduped codec supplied)).map fun p => (p.digest codec).toOption) := by
    intro supplied hsame
    obtain ⟨report, hreport, hok, _⟩ := h supplied hsame
    exact replays_digests hvalid hsame hr (replay_ok hreport hok)
  -- a packet of the subject is lost behind one of another subject with its digest
  have hlost : ∀ p ∈ packets, ∀ q ∈ packets, p.digest codec = q.digest codec → p.subject = subject →
      q.subject = subject := by
    intro p hp q hq hd hs
    by_contra hne
    obtain ⟨d, hpd⟩ := exists_digest hcodec p
    have hqd : q.digest codec = .ok d := hd ▸ hpd
    have hperm := hreplays (q :: packets) fun x => by
      rw [mem_cons]
      exact ⟨fun h => h.elim (fun e => e ▸ hq) id, Or.inr⟩
    have hmem := hperm.mem_iff.mp (List.mem_map.mpr ⟨p, mem_applicable.mpr ⟨hp, hs⟩, rfl⟩)
    obtain ⟨x, hx, hxd⟩ := List.mem_map.mp hmem
    obtain ⟨hx, hxs⟩ := mem_applicable.mp hx
    unfold deduped at hx
    rw [dedupeByDigest_eq, firstsOn, toOption_eq_some.mpr hqd] at hx
    dsimp only at hx
    rw [if_neg not_mem_nil] at hx
    rcases mem_cons.mp hx with e | hx
    · exact hne (e ▸ hxs)
    · exact Collections.firstsOn_new hx (hxd.trans (toOption_eq_some.mpr hpd)) mem_cons_self
  have hnodup : ((applicable subject packets).map fun p => (p.digest codec).toOption).Nodup := by
    rw [(hreplays packets fun _ => Iff.rfl).nodup_iff]
    exact (deduped_digests_nodup hcodec packets).sublist (filter_sublist.map _)
  unfold Unrepeated
  rw [pairwise_iff_forall_sublist]
  intro p q hpq hd
  have hp : p ∈ packets := hpq.subset mem_cons_self
  have hq : q ∈ packets := hpq.subset (mem_cons_of_mem _ mem_cons_self)
  have hboth : p.subject = subject → q.subject = subject → False := by
    intro hps hqs
    have hsub := (hpq.filter (·.subject = subject)).map fun p => (p.digest codec).toOption
    rw [filter_cons_of_pos (by simpa using hps), filter_cons_of_pos (by simpa using hqs)] at hsub
    have hpair := hnodup.sublist hsub
    simp [hd] at hpair
  exact ⟨fun hps => hboth hps (hlost p hp q hq hd hps), fun hqs => hboth (hlost q hq p hp hd.symm hqs) hqs⟩

theorem sampleCodec_canonicalizes : sampleCodec.Canonicalizes := ⟨fun _ => ⟨_, rfl⟩, fun _ => ⟨_, rfl⟩⟩

/-- A packet that is given twice is minted twice, and replayed once. -/
theorem a_packet_given_twice_does_not_replay : ∃ r,
    evaluate sampleCodec .trackBStarter "tests_passed" "repo:." [pytestPacket 0, pytestPacket 0] "2026-05-15T14:00:00Z"
      ClaimRegistry.trackBStarter.entries.length = some r ∧
    ∀ report, replayReceipt sampleCodec r [pytestPacket 0, pytestPacket 0] ⟨false, false, none⟩ = some report →
      report.status ≠ .ok := by
  have hvalid : ∀ p ∈ [pytestPacket 0, pytestPacket 0], p.validate sampleCodec = .ok () := by
    intro p hp
    have e : p = pytestPacket 0 := by simpa using hp
    exact e ▸ pytestPacket_valid
  obtain ⟨base, _, hr⟩ := exists_minted "repo:." "tests_passed" "2026-05-15T14:00:00Z" hvalid
  refine ⟨_, hr, fun report hreport hok => ?_⟩
  have hperm := replays_digests hvalid (fun _ => Iff.rfl) hr (replay_ok hreport hok)
  have hnodup := hperm.nodup_iff.mpr
    ((deduped_digests_nodup sampleCodec_canonicalizes _).sublist (filter_sublist.map _))
  exact not_nodup_cons_of_mem mem_cons_self hnodup

theorem a_packet_given_once_replays : ∃ r,
    evaluate sampleCodec .trackBStarter "tests_passed" "repo:." [pytestPacket 0] "2026-05-15T14:00:00Z"
      ClaimRegistry.trackBStarter.entries.length = some r ∧
    ∃ report, replayReceipt sampleCodec r [pytestPacket 0, pytestPacket 0] ⟨false, false, none⟩ = some report ∧
      report.status = .ok ∧ report.comparison = some [] := by
  have hvalid : ∀ p ∈ [pytestPacket 0], p.validate sampleCodec = .ok () :=
    fun p hp => mem_singleton.mp hp ▸ pytestPacket_valid
  obtain ⟨r, hr, hiff⟩ :=
    honest_receipts_replay_iff sampleCodec sampleCodec_canonicalizes "tests_passed" "repo:." "2026-05-15T14:00:00Z"
    [pytestPacket 0] hvalid ⟨false, false, none⟩
  exact ⟨r, hr, hiff.mpr (pairwise_singleton _ _) _ fun p => by simp⟩

end Nq.Receipts
