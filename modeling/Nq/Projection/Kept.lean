/-
  Nq.Projection.Kept — what an import keeps of a dossier, in every run
  (`nq-monitor/src/docket_dossier.rs`, `import_dossier`, `projection_receipt`).

  A run imports dossiers, and other programs change the files, but that they do not make packets
  of dossiers (`Run`). So every packet of a dossier in the store is one that a call of the run
  built (`run_sourced`), and an accepted import ends with the packet of its own bytes, which its
  receipt is made of (`accepted_packet`).

  - `kept_iff`: an accepted import keeps all that its dossier says exactly where every upstream
    obligation is listed under the status that has it read, and no text is mistaken for a
    disagreement;
  - `a_discharged_obligation_is_lost`: an obligation marked discharged under another status.
-/

import Nq.Files.Contents
import Nq.Files.Lexical
import Nq.Projection.Premises
import Nq.Projection.Snapshots

namespace Nq.Projection

open Files (PathBuf Tree)
open List
open Receipts (Json WitnessPacket)

/-! ## Runs -/

section

variable (codec : Codec) (source : List UInt8)

/-- What a store relies on: what was printed is read again. -/
structure Prints (calls : List Call) : Prop where
  value : ∀ c ∈ calls, ∀ a p content v, Builds codec (docket source) c a p → codec.packetToVecPretty p = .ok content →
    codec.fromSlice content = .ok v → Rereads (packetValue p) v
  packet : ∀ c ∈ calls, ∀ a p content, Builds codec (docket source) c a p → codec.packetToVecPretty p = .ok content →
    codec.packetFromSlice content = .ok p
  receipt : ∀ r content v, codec.receiptToVecPretty r = .ok content →
    codec.fromSlice content = .ok v → v.get "observations" = none

/-- The contents are no packet of a dossier. -/
def NoDossier (content : List UInt8) : Prop :=
  ∀ v, codec.fromSlice content = .ok v → observationOf v "docket_source_identity" = none

/-- Calls that imported dossiers, the last first, and the files then. -/
inductive Run : List Call → Tree → Prop
  | start {t : Tree} : t.All (NoDossier codec) → Run [] t
  | imported {calls : List Call} {t : Tree} (os : Os) (c : Call) : Run calls t →
      Run (c :: calls) (importDossierWithReceipt os codec source t c).1
  | changed {calls : List Call} {t t' : Tree} : Run calls t → (∀ q bytes, t'.node q = some (.file bytes) →
      (∃ q', t.node q' = some (.file bytes)) ∨ NoDossier codec bytes) → Run calls t'

/-- What reads as a packet of a dossier is one that a call built. -/
def Sourced (calls : List Call) (content : List UInt8) : Prop :=
  ∀ v, codec.fromSlice content = .ok v → observationOf v "docket_source_identity" ≠ none →
    ∃ c ∈ calls, ∃ a p, Builds codec (docket source) c a p ∧ codec.packetToVecPretty p = .ok content

end

section

variable {codec : Codec} {source : List UInt8} {calls : List Call} {c : Call} {t : Tree}
  {content : List UInt8}

theorem Sourced.of_none (h : NoDossier codec content) : Sourced codec source calls content :=
  fun v hv hsome => absurd (h v hv) hsome

theorem Sourced.later (h : Sourced codec source calls content) : Sourced codec source (c :: calls) content := by
  intro v hv hsome
  obtain ⟨b, hb, a, p, hbuilds, hprint⟩ := h v hv hsome
  exact ⟨b, mem_cons_of_mem _ hb, a, p, hbuilds, hprint⟩

end

section

variable {κ δ : Type} [DecidableEq κ] {codec : Codec} {profile : Profile κ δ} {P : List UInt8 → Prop} {t : Tree}

omit [DecidableEq κ] in
/-- What holds of all files, and of the packet that is to be published. -/
theorem Draft.install_all {d : Draft}
    (hd : ∀ content, codec.packetToVecPretty d.packet = .ok content → P content) (h : t.All P) :
    (d.install codec t : Tree × Except (ImportRefusal κ) ImportOutcome).1.All P := by
  have hwrite : (d.write codec t : Tree × Except (ImportRefusal κ) Unit).1.All P := by
    have hdir := h.createDirAll d.dir
    unfold Draft.write
    split
    · rename_i heq
      rwa [heq] at hdir
    · rename_i heq
      rw [heq] at hdir
      split
      · exact hdir
      · rename_i rendered hrendered
        split
        · exact hdir
        · exact hdir.write (hd rendered hrendered) ‹_›
  unfold Draft.install
  split
  · rename_i heq
    rwa [heq] at hwrite
  · rename_i heq
    rw [heq] at hwrite
    unfold Draft.publish
    split
    · exact hwrite
    · exact hwrite.rename ‹_›

theorem discard_all {p : PathBuf} (h : t.All P) : (discard t p).All P := by
  unfold discard
  cases hremove : t.removeFile p with
  | error e => exact h
  | ok t' => exact h.removeFile hremove

theorem persist_all {c : Call} {r : ProjectionReceipt}
    (hr : ∀ content, codec.receiptToVecPretty r = .ok content → P content)
    (h : t.All P) : (persistProjectionReceipt codec t c r).1.All P := by
  have hunless : ∀ {next : Tree → Tree × Except String (Option ProjectionReceipt)} {t : Tree}, t.All P →
    (next t).1.All P → (unlessStored codec c r next t).1.All P := by
    intro next t ht hnext
    unfold unlessStored
    split
    · exact ht
    · exact hnext
  have hwrite : ∀ {t : Tree}, t.All P → (writeReceipt codec c r t).1.All P := by
    intro t ht
    unfold writeReceipt
    split
    · exact ht
    · rename_i rendered hrendered
      split
      · exact ht
      · exact ht.writeNew (hr rendered hrendered) ‹_›
  have hcreate : ∀ {t : Tree}, t.All P → (createReceiptDir codec c r t).1.All P := by
    intro t ht
    have hdir := ht.createDirAll (receiptDir c.store)
    unfold createReceiptDir
    split
    · rename_i heq
      rwa [heq] at hdir
    · rename_i heq
      rw [heq] at hdir
      exact hunless hdir (hwrite hdir)
  have hstage : (stageReceipt codec t c r).1.All P := by
    unfold stageReceipt
    split
    · exact h
    · exact hunless h (hcreate h)
  unfold persistProjectionReceipt
  split
  · rename_i heq
    rwa [heq] at hstage
  · rename_i heq
    rwa [heq] at hstage
  · rename_i heq
    rw [heq] at hstage
    unfold linkReceipt
    split
    · exact discard_all (hstage.hardLink ‹_›)
    · exact discard_all hstage

/-- An import adds its packet and its receipt. -/
theorem import_all {os : Os} {c : Call} (hr : ∀ r content, codec.receiptToVecPretty r = .ok content → P content)
    (hp : ∀ d content, scan os codec profile t c = .ok (.publish d) →
      codec.packetToVecPretty d.packet = .ok content → P content)
    (h : t.All P) : (importWithReceipt os codec profile t c).1.All P := by
  have hpacket : (importPacket os codec profile t c).1.All P := by
    unfold importPacket conclude
    split
    · exact h
    · exact h
    · exact Draft.install_all (fun content => hp _ content ‹_›) h
  unfold importWithReceipt
  split
  rename_i heq
  rw [heq] at hpacket
  unfold receipted
  split
  · exact hpacket
  · exact persist_all (hr _) hpacket

end

section

variable {codec : Codec} {source : List UInt8} {calls : List Call} {c : Call} {t t' : Tree} {os : Os} {d : Draft}

/-- What is published is built of the call's document. -/
theorem scan_builds (h : scan os codec (docket source) t c = .ok (.publish d)) :
    ∃ a, Builds codec (docket source) c a d.packet := by
  obtain ⟨a, _, ha, _, hdecision⟩ := scan_ok.mp h
  rcases hdecision with ⟨_, _, e⟩ | ⟨_, _, packet, _, hbuild, _, e⟩
  · cases e
  · cases e
    exact ⟨a, ha, hbuild⟩

variable {content : List UInt8} {r receipt : ProjectionReceipt} {packet : WitnessPacket} {outcome : ImportOutcome}

theorem receipt_noDossier {source : List UInt8} {calls : List Call} (hprints : Prints codec source calls)
    (h : codec.receiptToVecPretty r = .ok content) : NoDossier codec content := by
  intro v hv
  unfold observationOf
  rw [hprints.receipt r content v h hv]
  rfl

/-- In every run, the packets of dossiers are those that its calls built. -/
theorem run_sourced (hprints : Prints codec source calls)
    (h : Run codec source calls t) : t.All (Sourced codec source calls) := by
  induction h with
  | start hnone => exact hnone.mono fun _ => Sourced.of_none
  | @imported calls t os c _ ih =>
    have hearlier : Prints codec source calls :=
      ⟨fun b hb => hprints.value b (mem_cons_of_mem _ hb), fun b hb =>
        hprints.packet b (mem_cons_of_mem _ hb), hprints.receipt⟩
    refine import_all (fun r content hr =>
      Sourced.of_none (receipt_noDossier hprints hr)) (fun d content hscan hcontent => ?_)
      ((ih hearlier).mono fun _ => Sourced.later)
    obtain ⟨a, hbuilds⟩ := scan_builds hscan
    exact fun v _ _ => ⟨c, mem_cons_self, a, d.packet, hbuilds, hcontent⟩
  | changed _ hchanged ih =>
    intro q bytes hq
    rcases hchanged q bytes hq with ⟨q', hq'⟩ | hnone
    · exact ih hprints q' bytes hq'
    · exact Sourced.of_none hnone

/-! ## The packet of an accepted import -/

/-- The packet is built of the bytes, for a call with them. -/
def BuiltOf (codec : Codec) (bytes : List UInt8) (a : Accepted Docket.Dossier) (packet : WitnessPacket) : Prop :=
  ∃ sourcePath generatedAt, Docket.buildPacket codec a.doc sourcePath
    (sha256Hex codec bytes) a.core generatedAt = .ok packet

theorem BuiltOf.valid {bytes : List UInt8} {a : Accepted Docket.Dossier} (h : BuiltOf codec bytes a packet) :
    packet.validate codec.toCodec = .ok () := by
  obtain ⟨sourcePath, generatedAt, hbuild⟩ := h
  obtain ⟨coverage, _, hstamped, rfl⟩ := Docket.buildPacket_ok.mp hbuild
  exact Docket.packetOf_prepared.valid_iff.mpr hstamped

/-- What is printed at the path of an outcome is its packet. -/
theorem emittedPacket_ok (hread : t.read outcome.packetPath = .ok content)
    (hpacket : codec.packetFromSlice content = .ok packet) (hvalid : packet.validate codec.toCodec = .ok ()) :
    emittedPacket codec t (.ok outcome : Except (ImportRefusal Nat) ImportOutcome) = .ok (some packet) := by
  refine Sql.bind_ok.mpr ⟨content, Sql.mapError_ok.mpr hread, ?_⟩
  exact Sql.bind_ok.mpr ⟨packet, Sql.mapError_ok.mpr hpacket, Sql.bind_ok.mpr ⟨(), Sql.mapError_ok.mpr hvalid, rfl⟩⟩

/-- What a published draft leaves at its path. -/
theorem install_ok (h : (d.install codec t : Tree × Except (ImportRefusal Nat) ImportOutcome) = (t', .ok outcome)) :
    outcome = d.outcome ∧ ∃ content, codec.packetToVecPretty d.packet = .ok content ∧
      t'.read d.final = .ok content := by
  unfold Draft.install at h
  split at h
  · cases h
  · rename_i u hwrite
    have hcontent : ∃ content, codec.packetToVecPretty d.packet = .ok content ∧ u.read d.tmp = .ok content := by
      unfold Draft.write at hwrite
      split at hwrite
      · cases hwrite
      · split at hwrite
        · cases hwrite
        · rename_i rendered hrendered
          split at hwrite
          · cases hwrite
          · cases hwrite
            exact ⟨rendered, hrendered, Tree.read_of_write ‹_›⟩
    obtain ⟨content, hprint, hread⟩ := hcontent
    unfold Draft.publish at h
    split at h
    · cases h
    · cases h
      exact ⟨rfl, content, hprint, Tree.read_of_rename hread ‹_›⟩

/-- A snapshot with the digest of the call's bytes is a packet that was built of them. -/
theorem snapshot_builtOf (hprints : Prints codec source calls) (hrun : Run codec source calls t)
    (hdistinct : ∀ b ∈ calls, sha256Hex codec b.bytes = sha256Hex codec c.bytes → b.bytes = c.bytes)
    {path : PathBuf} {s : StoredSnapshot Nat} (hs : readSnapshot codec (docket source) t path = .ok s)
    (hraw : s.rawSourceDigest = sha256Hex codec c.bytes) : ∃ a packet content, Accepts codec (docket source) c.bytes a ∧
      BuiltOf codec c.bytes a packet ∧ t.read s.path = .ok content ∧ codec.packetFromSlice content = .ok packet := by
  obtain ⟨content, v, hread, hparse, hstored, hpath⟩ := readSnapshot_ok.mp hs
  have hstored : Docket.stored path.display v = .ok (s.key, s.rawSourceDigest, s.coreConsistencyDigest) := hstored
  have hsome : observationOf v "docket_source_identity" ≠ none := by
    intro hnone
    unfold Docket.stored at hstored
    rw [hnone] at hstored
    cases hstored
  obtain ⟨b, hb, a, packet, hbuilds, hprint⟩ := (run_sourced hprints hrun).read hread v hparse hsome
  have hreread := Docket.stored_reread (Docket.version_lt hbuilds.1) (docket_packet hbuilds)
    (hprints.value b hb a packet content v hbuilds hprint hparse) path.display
  have hdigest : s.rawSourceDigest = sha256Hex codec b.bytes :=
    congrArg (fun x : Nat × String × String => x.2.1) (Except.ok.inj (hstored.symm.trans hreread))
  have hbytes : b.bytes = c.bytes := hdistinct b hb (hdigest.symm.trans hraw)
  obtain ⟨haccepts, hbuild⟩ := hbuilds
  rw [hbytes] at haccepts hbuild
  exact ⟨a, packet, content, haccepts, ⟨_, _, hbuild⟩, hpath ▸ hread, hprints.packet b hb a packet content
    ⟨by rw [hbytes]; exact haccepts, by rw [hbytes]; exact hbuild⟩ hprint⟩

/-- An accepted import ends with a packet of its own bytes at the path it names. -/
theorem accepted_packet (hprints : Prints codec source (c :: calls)) (hrun : Run codec source calls t)
    (hdistinct : ∀ b ∈ calls, sha256Hex codec b.bytes = sha256Hex codec c.bytes → b.bytes = c.bytes)
    (h : importDossierPacket os codec source t c = (t', .ok outcome)) :
    ∃ a packet, Accepts codec (docket source) c.bytes a ∧
      BuiltOf codec c.bytes a packet ∧
      emittedPacket codec t' (.ok outcome : Except (ImportRefusal Nat) ImportOutcome) = .ok (some packet) := by
  have hearlier : Prints codec source calls :=
    ⟨fun b hb => hprints.value b (mem_cons_of_mem _ hb), fun b hb =>
      hprints.packet b (mem_cons_of_mem _ hb), hprints.receipt⟩
  unfold importDossierPacket importPacket conclude at h
  split at h
  · cases h
  · rename_i path raw hscan
    cases h
    obtain ⟨_, stored, _, hstored, hdecision⟩ := scan_ok.mp hscan
    rcases hdecision with ⟨dup, hdup, e⟩ | ⟨_, _, _, _, _, _, e⟩
    · cases e
      obtain ⟨_, name, _, _, _, hsnapshot⟩ := readStore_mem hstored (mem_of_find?_eq_some hdup)
      have hraw : dup.rawSourceDigest = sha256Hex codec c.bytes := by simpa using find?_some hdup
      obtain ⟨a, packet, content, haccepts, hbuilt, hread, hpacket⟩ :=
        snapshot_builtOf hearlier hrun hdistinct hsnapshot hraw
      exact ⟨a, packet, haccepts, hbuilt, emittedPacket_ok hread hpacket hbuilt.valid⟩
    · cases e
  · rename_i d hscan
    obtain ⟨a, hbuilds⟩ := scan_builds hscan
    obtain ⟨rfl, content, hprint, hread⟩ := install_ok h
    have hbuilt : BuiltOf codec c.bytes a d.packet := ⟨_, _, hbuilds.2⟩
    exact ⟨a, d.packet, hbuilds.1, hbuilt,
      emittedPacket_ok hread (hprints.packet c mem_cons_self a _ content hbuilds hprint) hbuilt.valid⟩

theorem seal_contradictionStatus (h : r.seal codec = .ok receipt) :
    receipt.contradictionStatus = r.contradictionStatus := by
  unfold ProjectionReceipt.seal at h
  cases hid : r.computeReceiptId codec with
  | error e =>
    rw [hid] at h
    cases h
  | ok id =>
    rw [hid] at h
    rw [← Except.ok.inj h]

/-- The receipt takes the contradiction status of the packet. -/
theorem receipt_contradictionStatus {importedAt : String}
    (hpacket : emittedPacket codec t (.ok outcome : Except (ImportRefusal Nat) ImportOutcome) = .ok (some packet))
    (h : projectionReceipt codec (docket source) t c.bytes
      (.ok outcome : Except (ImportRefusal Nat) ImportOutcome) importedAt =
      .ok receipt) : receipt.contradictionStatus = (docket source).contradictionStatus packet := by
  unfold projectionReceipt at h
  obtain ⟨found, hfound, h⟩ := Sql.bind_ok.mp h
  obtain ⟨digest, hdigest, h⟩ := Sql.bind_ok.mp h
  obtain ⟨_, _, h⟩ := Sql.bind_ok.mp h
  obtain rfl := Except.ok.inj (hpacket.symm.trans hfound)
  have hdigest := Sql.mapError_ok.mp hdigest
  cases hd : packet.digest codec.toCodec with
  | error e =>
    rw [hd] at hdigest
    cases hdigest
  | ok text =>
    rw [hd] at hdigest
    obtain rfl := Except.ok.inj hdigest
    exact seal_contradictionStatus (Sql.mapError_ok.mp h)

end

/-- What an accepted import keeps of its dossier, after any run: everything exactly where every upstream obligation is
    listed under the status that has it read, and no text of the source is mistaken for a disagreement. -/
theorem kept_iff {codec : Codec} {source : List UInt8} {calls : List Call}
    {c : Call} {t t' : Tree} {os : Os} {outcome : ImportOutcome}
    {receipt : ProjectionReceipt} (hprints : Prints codec source (c :: calls)) (hrun : Run codec source calls t)
    (hdistinct : ∀ b ∈ calls, sha256Hex codec b.bytes = sha256Hex codec c.bytes → b.bytes = c.bytes)
    (himport : importDossierPacket os codec source t c = (t', .ok outcome))
    (hreceipt : projectionReceipt codec (docket source) t' c.bytes
      (.ok outcome : Except (ImportRefusal Nat) ImportOutcome) c.generatedAt =
      .ok receipt) : ∃ a packet, Accepts codec (docket source) c.bytes a ∧
      emittedPacket codec t' (.ok outcome : Except (ImportRefusal Nat) ImportOutcome) = .ok (some packet) ∧
      (Docket.Kept a.doc packet receipt.contradictionStatus ↔ a.doc.ResidualsRead ∧ a.doc.Unmistaken) := by
  obtain ⟨a, packet, haccepts, ⟨sourcePath, generatedAt, hbuild⟩, hpacket⟩ :=
    accepted_packet hprints hrun hdistinct himport
  refine ⟨a, packet, haccepts, hpacket, ?_⟩
  rw [receipt_contradictionStatus hpacket hreceipt]
  exact Docket.packet_kept_iff source hbuild

/-! ## A dossier -/

variable {content : List UInt8} {own : Files.Path} {discharged : Bool} {status tag : String} (value : Json)

/-- A draft is installed in a store that holds nothing. -/
theorem Draft.install_empty {codec : Codec} {d : Draft} (hown : d.dir = Files.Path.buf own)
    (hprint : codec.packetToVecPretty d.packet = .ok content)
    (hdir : (Tree.empty.createDirAll (Files.Path.buf own)).2 = .ok ()) (htmp : Tree.Nulless (own ++ [tmpName]))
    (hfinal : Tree.Nulless (own ++ [d.fileName])) :
    ∃ t', (d.install codec .empty : Tree × Except (ImportRefusal Nat) ImportOutcome) = (t', .ok d.outcome) := by
  have hfree : ∀ name, (Tree.empty.createDirAll (Files.Path.buf own)).1.Free (own ++ [name]) := by
    intro name
    refine ⟨by simp, by rw [dropLast_concat]; exact Tree.createDirAll_dir hdir, fun hmade => ?_⟩
    rcases Tree.createDirAll_grown .empty own (own ++ [name]) with h | ⟨hbelow, _⟩
    · rw [hmade] at h
      exact absurd h.symm (by simp [Files.Tree.node, Files.nodeAt, Files.Tree.empty, Sql.Table.empty, Sql.Table.get])
    · have hlen := hbelow.length_le
      rw [length_append, length_singleton] at hlen
      omega
  have htmpPath : d.tmp = Files.Path.buf (own ++ [tmpName]) := by
    unfold Draft.tmp
    rw [hown, Files.child_buf]
  have hfinalPath : d.final = Files.Path.buf (own ++ [d.fileName]) := by
    unfold Draft.final
    rw [hown, Files.child_buf]
  obtain ⟨u, hwrite⟩ :
      ∃ u, (Tree.empty.createDirAll (Files.Path.buf own)).1.write (Files.Path.buf (own ++ [tmpName])) content = .ok u :=
    Tree.write_of_free htmp (hfree _)
  have hnode := (Tree.write_ok hwrite).2
  have hfinalFree : u.Free (own ++ [d.fileName]) := by
    refine ⟨by simp, ?_, ?_⟩
    · have hne : own ≠ own ++ [tmpName] := by simp
      rw [dropLast_concat, hnode, if_neg hne]
      exact Tree.createDirAll_dir hdir
    · rw [hnode]
      split
      · exact nofun
      · exact (hfree _).2.2
  obtain ⟨t', hrename⟩ :
      ∃ t', u.rename (Files.Path.buf (own ++ [tmpName])) (Files.Path.buf (own ++ [d.fileName])) = .ok t' :=
    Tree.rename_of_free htmp hfinal (by rw [hnode, if_pos rfl]) hfinalFree
  refine ⟨t', ?_⟩
  have hmade : Tree.empty.createDirAll d.dir = ((Tree.empty.createDirAll (Files.Path.buf own)).1, .ok ()) := by
    rw [hown]
    exact Prod.ext rfl hdir
  have hwritten : (d.write codec .empty : Tree × Except (ImportRefusal Nat) Unit) = (u, .ok ()) := by
    unfold Draft.write
    rw [hmade]
    dsimp only
    rw [hprint]
    dsimp only
    rw [htmpPath, hwrite]
  unfold Draft.install
  rw [hwritten]
  dsimp only
  unfold Draft.publish
  rw [htmpPath, hfinalPath, hrename]

/-- The first import of a dossier into an empty store, with its receipt. -/
theorem import_empty (os : Os) {codec : Codec} {source : List UInt8} {c : Call} {a : Accepted Docket.Dossier}
    {packet : WitnessPacket} {digest : String} (hbuilds : Builds codec (docket source) c a packet)
    (hprint : codec.packetToVecPretty packet = .ok content) (hread : codec.packetFromSlice content = .ok packet)
    (hdigest : packet.digest codec.toCodec = .ok digest) (hjcs : ∀ r, ∃ bytes, codec.receiptJcs r = .ok bytes)
    (hown : a.dir (docket source) c = Files.Path.buf own)
    (habsent : Tree.empty.readDir (Files.Path.buf own) = .error .notFound)
    (hdir : (Tree.empty.createDirAll (Files.Path.buf own)).2 = .ok ()) (htmp : Tree.Nulless (own ++ [tmpName]))
    (hfinal : Tree.Nulless (own ++ [fileName (docket source) a.doc (sha256Hex codec c.bytes)])) : ∃ t' outcome receipt,
      importDossierPacket os codec source .empty c = (t', .ok outcome) ∧
      projectionReceipt codec (docket source) t' c.bytes
        (.ok outcome : Except (ImportRefusal Nat) ImportOutcome) c.generatedAt =
        .ok receipt := by
  obtain ⟨d, hd⟩ : ∃ d : Draft, d = ⟨a.dir (docket source) c, fileName (docket source) a.doc (sha256Hex codec c.bytes),
    packet, digest, sha256Hex codec c.bytes, a.core⟩ := ⟨_, rfl⟩
  have hscan : scan os codec (docket source) .empty c = .ok (.publish d) :=
    scan_ok.mpr ⟨a, [], hbuilds.1, readStore_absent (hown ▸ habsent),
      .inr ⟨rfl, rfl, packet, digest, hbuilds.2, hdigest, by rw [hd]⟩⟩
  obtain ⟨t', hinstall⟩ : ∃ t', (d.install codec .empty : Tree × Except (ImportRefusal Nat) ImportOutcome) =
      (t', .ok d.outcome) :=
    Draft.install_empty (by rw [hd]; exact hown) (by rw [hd]; exact hprint) hdir htmp (by rw [hd]; exact hfinal)
  have himport : importDossierPacket os codec source .empty c = (t', .ok d.outcome) := by
    unfold importDossierPacket importPacket
    rw [hscan]
    exact hinstall
  obtain ⟨_, found, hprinted, hfound⟩ := install_ok hinstall
  have hsame : found = content := by
    rw [hd] at hprinted
    exact Except.ok.inj (hprinted.symm.trans hprint)
  have hemitted : emittedPacket codec t' (.ok d.outcome : Except (ImportRefusal Nat) ImportOutcome) =
      .ok (some packet) :=
    emittedPacket_ok (hsame ▸ hfound) hread (show BuiltOf codec c.bytes a packet from ⟨_, _, hbuilds.2⟩).valid
  have hrecomputed : emittedDigest codec (some packet) = .ok (some digest) := by
    unfold emittedDigest
    dsimp only
    rw [hdigest]
    rfl
  have hchecked : checkEmitted (.ok d.outcome : Except (ImportRefusal Nat) ImportOutcome) (some digest) = .ok () := by
    rw [hd]
    exact Collections.rejectIf_ok.mpr (by simp)
  have hsealed : ∀ r : ProjectionReceipt, ∃ receipt, r.seal codec = .ok receipt := by
    intro r
    obtain ⟨bytes, hbytes⟩ := hjcs r.content
    refine ⟨{ r with receiptId := sha256Hex codec bytes }, ?_⟩
    unfold ProjectionReceipt.seal ProjectionReceipt.computeReceiptId
    rw [hbytes]
    rfl
  obtain ⟨receipt, hreceipt⟩ :=
    hsealed (receiptOf codec (docket source) c.bytes (.ok d.outcome : Except (ImportRefusal Nat) ImportOutcome)
    c.generatedAt (some (packet, digest)))
  refine ⟨t', d.outcome, receipt, himport, ?_⟩
  exact Sql.bind_ok.mpr ⟨_, hemitted,
    Sql.bind_ok.mpr ⟨_, hrecomputed, Sql.bind_ok.mpr ⟨_, hchecked, Sql.mapError_ok.mpr hreceipt⟩⟩⟩

/-- An issuance with a premise and an obligation. -/
def issuanceOf (status : String) (discharged : Bool) : Docket.Issuance where
  issuanceId := "iss-1"
  decisionId := "dec-1"
  issuerPrincipal := "office"
  issuerKeyId := "key-1"
  targetId := "target-1"
  requestRawSha256 := "a1"
  requestUpstreamDigest := "a2"
  preparedAttemptDigest := "a3"
  requestedActor := "agent"
  issuedAtMs := 1
  expiresAtMs := 9
  acceptedAtMs := 2
  upstreamPremises := [⟨"policy", "the fixture policy applies"⟩]
  upstreamPremisesMeaning := "asserted"
  upstreamResidualStatus := status
  upstreamResiduals :=
    [⟨"office", "obl-1", "the change", "human_review_before_publication", "a human reviews it", discharged⟩]
  consumptionLedger := "ledger"
  consumptionUseDigest := "a4"
  establishes := "the office authorized the work"
  doesNotEstablish := "that the work was done"

/-- A dossier of the second format with a settlement premise, and what is in its issuance. -/
def dossierValue (tag status : String) (discharged : Bool) : Json :=
  .object [("dossier_format", .string "gwr:attempt-dossier:v2"), ("attempt", .string "e1e1e1e1"),
    ("state", .string "committed"), ("version", jsonNat 4), ("settlement", .string "normal"),
    ("identity", .object [("work_request", .string "abab"), ("goal", .string "apply the change"),
      ("repository", .string "/governed/repo"),
      ("target_ref", .string "refs/gwr/target"), ("basis", .string "1a1a"),
        ("effect_class", .string "git-ref-update:v1"),
      ("settlement_premises", .array [.string tag]), ("allowed_paths", .array []), ("candidate", .string "acac"),
      ("candidate_digest", .string "d1d1"), ("patch_digest", .string "d1d1"), ("preparation_run", .string "adad"),
      ("candidate_ingested_at_ms", jsonNat 1000), ("prepared_attempt_digest", .string "d0d0"),
      ("observation_plan", .object [("argv", .array [.string "true"]), ("environment", .string "fixture")]),
      ("request_created_at_ms", jsonNat 900), ("admitted_at_ms", jsonNat 1778853600000)]),
    ("authority", .object []), ("timeline", .array []),
    ("execution", .object [("settlement", .string "normal"), ("recovery_facts", .array [])]),
    ("observation", .object [("observations", .array []), ("reliance_admissions", .array []),
      ("reliance_refusals", .array []),
      ("residual_obligations",
        .array [.object [("obligation", .string "bebe"), ("kind", .string "human_review_before_merge"),
        ("recorded_at_ms", jsonNat 1620)]])]),
    ("authorization", .object [("source", .string "upstream"), ("issuance", .object [("issuance_id", .string "iss-1"),
      ("decision_id", .string "dec-1"), ("issuer_principal", .string "office"), ("issuer_key_id", .string "key-1"),
      ("target_id", .string "target-1"), ("request_raw_sha256", .string "a1"),
        ("request_upstream_digest", .string "a2"),
      ("prepared_attempt_digest", .string "a3"), ("requested_actor", .string "agent"), ("issued_at_ms", jsonNat 1),
      ("expires_at_ms", jsonNat 9), ("accepted_at_ms", jsonNat 2),
      ("upstream_premises",
        .array [.object [("kind", .string "policy"), ("statement", .string "the fixture policy applies")]]),
      ("upstream_premises_meaning", .string "asserted"), ("upstream_residual_status", .string status),
      ("upstream_residuals", .array [.object [("source_system", .string "office"), ("obligation_id", .string "obl-1"),
        ("subject", .string "the change"), ("kind", .string "human_review_before_publication"),
        ("statement", .string "a human reviews it"), ("discharged", .bool discharged)]]),
      ("consumption_ledger", .string "ledger"), ("consumption_use_digest", .string "a4"),
      ("establishes", .string "the office authorized the work"),
        ("does_not_establish", .string "that the work was done")])])]

def ProjectionReceipt.toJcs (r : ProjectionReceipt) : String :=
  Text.object [("schema", some (Text.quoted r.schema)),
    ("source", some (Text.object [("system", some (Text.quoted (match r.source.system with
        | .docket => "docket"
        | .continuity => "continuity"))),
      ("schema", r.source.schema.map Text.quoted), ("snapshot_identity", r.source.snapshotIdentity.map Text.quoted),
      ("raw_digest", some (Text.quoted r.source.rawDigest)), ("core_digest", r.source.coreDigest.map Text.quoted),
      ("record_ref", r.source.recordRef.map Text.quoted)])),
    ("mapping", some (Text.object [("profile", some (Text.quoted (match r.mapping.profile with
        | .docketDossier => "docket_dossier"
        | .continuityRecord => "continuity_record"))),
            ("profile_version", some (Text.quoted r.mapping.profileVersion))])),
    ("custody_basis", some (Text.quoted r.custodyBasis)),
    ("packet", r.packet.map fun p => Text.object [("digest", some (Text.quoted p.digest)),
      ("witness_type", some (Text.quoted p.witnessType)), ("subject", some (Text.quoted p.subject))]),
    ("premises_as_coverage", some (Text.array (r.premisesAsCoverage.map Text.quoted))),
    ("projection_limits", some (Text.array (r.projectionLimits.map Text.quoted))),
    ("replay", some (Text.object [("outcome", some (Text.quoted r.replay.outcome)),
      ("substitution", r.replay.substitution.map fun s =>
      Text.object [("existing_core_digest", some (Text.quoted s.existingCoreDigest)),
        ("presented_core_digest", some (Text.quoted s.presentedCoreDigest))])])),
    ("contradiction_status", r.contradictionStatus.map fun _ => Text.quoted "retained"),
    ("establishes", some (Text.quoted r.establishes)),
    ("does_not_establish", some (Text.array (r.doesNotEstablish.map Text.quoted)))]

/-- The text of the document, on a line of its own. -/
def dossierText (value : Json) : String := "\n" ++ value.toJcs

/-- A codec that parses one document, and reads one packet back. -/
def dossierCodec (value : Json) (packet : Option WitnessPacket) : Codec :=
  { documentCodec value with
    fromSlice := fun bytes => if bytes = Text.bytes (dossierText value) then .ok value
      else .error "expected value at line 1 column 1"
    formatUnixNanos := fun nanos => if nanos = 1778853600000000000 then some "2026-05-15T14:00:00Z" else none
    packetFromSlice := fun bytes => match packet with
      | some p => if bytes = Text.bytes p.toJcs then .ok p else .error "expected value at line 1 column 1"
      | none => .error "expected value at line 1 column 1"
    receiptJcs := fun r => .ok (Text.bytes r.toJcs) }

theorem dossierCodec_parses (packet : Option WitnessPacket) :
    (dossierCodec value packet).fromSlice (Text.bytes (dossierText value)) = .ok value := if_pos rfl

theorem dossierCodec_reads (p : WitnessPacket) :
    (dossierCodec value (some p)).packetFromSlice (Text.bytes p.toJcs) = .ok p := by
  unfold dossierCodec
  dsimp only
  rw [if_pos rfl]

/-- What was printed is not the document. -/
theorem dossierCodec_printed {value v : Json} {packet : Option WitnessPacket}
    {text : String} (h : ∀ c ∈ text.toList.head?, c ≠ '\n') :
    (dossierCodec value packet).fromSlice (Text.bytes text) ≠ .ok v := by
  intro hparse
  have htext : Text.bytes text = Text.bytes (dossierText value) := by
    by_contra hne
    have hrefused : (dossierCodec value packet).fromSlice (Text.bytes text) =
        .error "expected value at line 1 column 1" := if_neg hne
    cases hrefused.symm.trans hparse
  rw [Text.bytes_injective htext] at h
  unfold dossierText at h
  rw [String.toList_append] at h
  exact h '\n' rfl rfl

def dossierCall (tag status : String) (discharged : Bool) : Call :=
  ⟨Text.bytes (dossierText (dossierValue tag status discharged)),
    "dossier.json", ["store"], "2026-05-15T14:00:00Z", 1, 0⟩

/-- What is read of the document. -/
structure DossierRead (tag status : String) (discharged : Bool) (d : Docket.Dossier) : Prop where
  attempt : d.attempt = "e1e1e1e1"
  version : d.version = 4
  premises : d.identity.settlementPremises = [tag]
  issuance : d.issuance = some (issuanceOf status discharged)
  qualification : d.qualification = none
  subject : d.subject = "docket:attempt:e1e1e1e1"
  observedAtMs : d.observedAtMs = 1778853600000

theorem dossier_accepts (tag status : String) (discharged : Bool) :
    ∃ a, DossierRead tag status discharged a.doc ∧ ∀ packet,
    Accepts (dossierCodec (dossierValue tag status discharged) packet)
      (docket []) (dossierCall tag status discharged).bytes a := by
  have hdecoded : ∃ d, Docket.Dossier.decode (dossierValue tag status discharged) = some d ∧
    DossierRead tag status discharged d ∧
      d.dossierFormat = "gwr:attempt-dossier:v2" ∧ d.identity.repository = some "/governed/repo" :=
    ⟨_, rfl, ⟨rfl, rfl, rfl, rfl, rfl, rfl, rfl⟩, rfl, rfl⟩
  obtain ⟨d, hdecode, hread, hformat, hrepository⟩ := hdecoded
  have hcontract : ∀ packet, Docket.validateIdentityContract
    (dossierCodec (dossierValue tag status discharged) packet) d
      (dossierValue tag status discharged) = .ok () := by
    intro packet
    have hold : ¬d.dossierFormat = Docket.supportedDossierFormatV3 := by
      rw [hformat]
      decide
    refine Sql.bind_ok.mpr ⟨_, rfl, ?_⟩
    rw [if_neg hold]
    unfold Docket.Dossier.validateLegacyIdentity
    rw [hrepository]
    rfl
  have hsupported : (docket []).found (dossierValue tag status discharged) ∈ (docket []).supported := by
    show "gwr:attempt-dossier:v2" ∈ _
    decide
  have hcore : ∀ packet, coreConsistencyDigest (dossierCodec (dossierValue tag status discharged) packet) (docket [])
      (dossierValue tag status discharged) =
        .ok (Inquiry.digestText
          (Text.sha256 (Text.bytes (coreOf (docket []) (dossierValue tag status discharged)).toJcs))) :=
    fun _ => rfl
  exact ⟨⟨d, dossierValue tag status discharged, _⟩, hread, fun packet =>
    ⟨dossierCodec_parses _ _, hsupported, hdecode, Sql.mapError_ok.mpr (hcontract packet), hcore packet⟩⟩

theorem dossier_coverage {codec : Codec} {d : Docket.Dossier} (hread : DossierRead tag status discharged d)
    (htag : blank tag = false) (hstatus : status = "unrepresented" ∨ status = "present" ∧ discharged = false) :
    ∃ limits, Docket.premiseCoverage codec d = .ok limits := by
  rw [Docket.premiseCoverage_eq, hread.premises, hread.issuance, hread.qualification]
  have hissuance : ∃ limits, (issuanceOf status discharged).coverage codec = .ok limits := by
    rcases hstatus with rfl | ⟨rfl, rfl⟩
    · exact ⟨_, rfl⟩
    · exact ⟨_, rfl⟩
  obtain ⟨limits, hlimits⟩ := hissuance
  exact ⟨_, Sql.bind_ok.mpr ⟨_, Collections.mapM_guard.mpr ⟨fun t ht => mem_singleton.mp ht ▸ htag, rfl⟩,
    Sql.bind_ok.mpr ⟨limits, hlimits, Sql.bind_ok.mpr ⟨_, rfl, rfl⟩⟩⟩⟩

/-- The packet of the document. -/
theorem dossier_builds (htag : blank tag = false)
    (hstatus : status = "unrepresented" ∨ status = "present" ∧ discharged = false) :
    ∃ a packet, DossierRead tag status discharged a.doc ∧
      ∀ read, Builds (dossierCodec (dossierValue tag status discharged) read)
        (docket []) (dossierCall tag status discharged) a packet := by
  obtain ⟨a, hread, haccepts⟩ := dossier_accepts tag status discharged
  obtain ⟨limits, hlimits⟩ : ∃ limits, ∀ read,
      Docket.premiseCoverage (dossierCodec (dossierValue tag status discharged) read) a.doc = .ok limits := by
    obtain ⟨limits, hlimits⟩ : ∃ limits,
        Docket.premiseCoverage (dossierCodec (dossierValue tag status discharged) none) a.doc = .ok limits :=
      dossier_coverage hread htag hstatus
    exact ⟨limits, fun _ => hlimits⟩
  have htime : ∀ read, Docket.msToRfc3339 (dossierCodec (dossierValue tag status discharged) read) a.doc.observedAtMs =
      "2026-05-15T14:00:00Z" := by
    intro read
    rw [hread.observedAtMs]
    rfl
  have hstamped : ∀ read, Stamped (dossierCodec (dossierValue tag status discharged) read).toCodec
    a.doc.subject "dossier.json"
      (Docket.msToRfc3339 (dossierCodec (dossierValue tag status discharged) read) a.doc.observedAtMs)
        "2026-05-15T14:00:00Z" := by
    intro read
    rw [hread.subject, htime]
    exact ⟨by decide, ⟨_, sample_rfc3339⟩, ⟨_, sample_rfc3339⟩⟩
  exact ⟨a, Docket.packetOf (dossierCodec (dossierValue tag status discharged) none) a.doc "dossier.json"
    (Inquiry.digestText (Text.sha256 (dossierCall tag status discharged).bytes))
      a.core "2026-05-15T14:00:00Z" limits, hread,
    fun read => ⟨haccepts read, Docket.buildPacket_ok.mpr ⟨limits, hlimits read, hstamped read, rfl⟩⟩⟩

theorem nulless_fileName {d : Docket.Dossier} (hread : DossierRead tag status discharged d) (hash) :
    '\x00' ∉ (fileName (docket []) d (Inquiry.digestText hash)).toList := by
  have htail : '\x00' ∉ (digestTail (Inquiry.digestText hash)).toList := by
    intro hmem
    unfold digestTail Inquiry.digestText at hmem
    rw [String.toList_ofList, String.toList_ofList] at hmem
    have hhex : '\x00' ∈ Inquiry.hexEncode hash.toList := mem_of_mem_take hmem
    exact absurd (Inquiry.isHexDigit_hexEncode hhex) (by decide)
  have hstem : (docket []).fileStem d = "v4" := by
    show "v" ++ toString d.version = _
    rw [hread.version]
    rfl
  unfold fileName
  rw [hstem]
  simp only [String.toList_append, mem_append, not_or]
  exact ⟨⟨⟨by decide, by decide⟩, htail⟩, by decide⟩

/-- The document is imported into an empty store, with its receipt. -/
theorem dossier_imported (htag : blank tag = false)
    (hstatus : status = "unrepresented" ∨ status = "present" ∧ discharged = false) : ∃ codec t' outcome receipt,
      Prints codec [] [dossierCall tag status discharged] ∧ Run codec [] [] .empty ∧
      (∃ a, DossierRead tag status discharged a.doc ∧
        Accepts codec (docket []) (dossierCall tag status discharged).bytes a) ∧
      importDossierPacket namesInOrder codec [] .empty (dossierCall tag status discharged) = (t', .ok outcome) ∧
      projectionReceipt codec (docket []) t' (dossierCall tag status discharged).bytes
        (.ok outcome : Except (ImportRefusal Nat) ImportOutcome)
        (dossierCall tag status discharged).generatedAt = .ok receipt := by
  obtain ⟨a, packet, hread, hbuilds⟩ := dossier_builds htag hstatus
  have hbuilds := hbuilds (some packet)
  have hprints : Prints (dossierCodec (dossierValue tag status discharged) (some packet))
      [] [dossierCall tag status discharged] := by
    have hown : ∀ c ∈ [dossierCall tag status discharged], ∀ b p,
      Builds (dossierCodec (dossierValue tag status discharged) (some packet))
        (docket []) c b p → p = packet := by
      intro c hc b p hp
      rw [mem_singleton.mp hc] at hp
      rw [hp.1.unique hbuilds.1] at hp
      exact Except.ok.inj (hp.2.symm.trans hbuilds.2)
    refine ⟨fun c hc b p content v hp hprint hparse => ?_, fun c hc b p content hp hprint =>
      ?_, fun r content v hprint hparse => ?_⟩
    · rw [← Except.ok.inj hprint] at hparse
      exact absurd hparse (dossierCodec_printed (by simp [WitnessPacket.toJcs, Text.object]))
    · rw [hown c hc b p hp] at hprint ⊢
      rw [← Except.ok.inj hprint]
      exact dossierCodec_reads _ packet
    · have hempty : content = Text.bytes "" := (Except.ok.inj hprint).symm
      rw [hempty] at hparse
      exact absurd hparse (dossierCodec_printed (by simp))
  have hown : a.dir (docket []) (dossierCall tag status discharged) = Files.Path.buf ["store", "e1e1e1e1"] := by
    show Files.join ["store"] a.doc.attempt = _
    rw [hread.attempt]
    rfl
  have hfinal : Tree.Nulless (["store", "e1e1e1e1"] ++ [fileName (docket []) a.doc
      (sha256Hex (dossierCodec (dossierValue tag status discharged) (some packet))
        (dossierCall tag status discharged).bytes)]) := by
    intro s hs
    simp only [cons_append, nil_append, mem_cons, not_mem_nil, or_false] at hs
    rcases hs with rfl | rfl | rfl
    · decide
    · decide
    · exact nulless_fileName hread _
  obtain ⟨t', outcome, receipt, himport, hreceipt⟩ :=
    import_empty namesInOrder hbuilds rfl (dossierCodec_reads _ packet) rfl
    (fun r => ⟨_, rfl⟩) hown rfl rfl (by decide) hfinal
  exact ⟨_, t', outcome, receipt, hprints, .start fun q bytes hq => absurd hq (Files.empty_onlyDirs q bytes),
    ⟨a, hread, hbuilds.1⟩, himport, hreceipt⟩

theorem DossierRead.residualsRead_iff {d : Docket.Dossier} (h : DossierRead tag status discharged d) :
    d.ResidualsRead ↔ status = "present" := by
  unfold Docket.Dossier.ResidualsRead
  rw [h.issuance]
  constructor
  · intro hread
    exact (hread _ rfl).resolve_right nofun
  · intro hstatus i hi
    cases Option.some.inj hi
    exact .inl hstatus

theorem DossierRead.sourceTexts_eq {d : Docket.Dossier} (h : DossierRead tag "present" discharged d) :
    d.sourceTexts = [tag, "policy", "the fixture policy applies", "that the work was done", "obl-1",
      "human_review_before_publication", "the change", "a human reviews it"] := by
  unfold Docket.Dossier.sourceTexts
  rw [h.premises, h.issuance, h.qualification]
  rfl

theorem an_undischarged_obligation_is_kept :
    ∃ (codec : Codec) (t' : Tree) (outcome : ImportOutcome) (receipt : ProjectionReceipt)
    (a : Accepted Docket.Dossier) (packet : WitnessPacket),
    importDossierPacket namesInOrder codec [] .empty (dossierCall "inspectable_endpoint" "present" false) =
      (t', .ok outcome) ∧
    projectionReceipt codec (docket []) t' (dossierCall "inspectable_endpoint" "present" false).bytes
      (.ok outcome : Except (ImportRefusal Nat) ImportOutcome) "2026-05-15T14:00:00Z" = .ok receipt ∧
    DossierRead "inspectable_endpoint" "present" false a.doc ∧
    emittedPacket codec t' (.ok outcome : Except (ImportRefusal Nat) ImportOutcome) = .ok (some packet) ∧
    Docket.Kept a.doc packet receipt.contradictionStatus := by
  obtain ⟨codec, t', outcome, receipt, hprints, hrun, ⟨b, hread, hb⟩, himport, hreceipt⟩ :=
    dossier_imported (show blank "inspectable_endpoint" = false by decide) (.inr ⟨rfl, rfl⟩ : _ ∨
      "present" = "present" ∧ false = false)
  obtain ⟨a, packet, ha, hpacket, hkept⟩ := kept_iff hprints hrun (fun _ h => absurd h not_mem_nil) himport hreceipt
  rw [hb.unique ha] at hread
  refine ⟨codec, t', outcome, receipt, a, packet, himport, hreceipt, hread, hpacket,
    hkept.mpr ⟨hread.residualsRead_iff.mpr rfl, .inr ?_⟩⟩
  rw [hread.sourceTexts_eq]
  have hlack : ∀ s ∈ ["inspectable_endpoint", "policy", "the fixture policy applies", "that the work was done", "obl-1",
      "human_review_before_publication", "the change", "a human reviews it"],
        ¬Docket.phrase <:+: s.toList := by decide +kernel
  intro htext
  obtain ⟨s, hs, hphrase⟩ := htext
  exact hlack s hs hphrase

/-- An import of the document with the packet and the receipt of it, after no other import. -/
structure DossierImport (tag status : String) (discharged : Bool) (codec : Codec) (t' : Tree) (outcome : ImportOutcome)
    (receipt : ProjectionReceipt) (a : Accepted Docket.Dossier) (packet : WitnessPacket) : Prop where
  prints : Prints codec [] [dossierCall tag status discharged]
  run : Run codec [] [] .empty
  imported : importDossierPacket namesInOrder codec [] .empty (dossierCall tag status discharged) = (t', .ok outcome)
  receipt : projectionReceipt codec (docket []) t' (dossierCall tag status discharged).bytes
    (.ok outcome : Except (ImportRefusal Nat) ImportOutcome) "2026-05-15T14:00:00Z" = .ok receipt
  accepted : Accepts codec (docket []) (dossierCall tag status discharged).bytes a
  emitted : emittedPacket codec t' (.ok outcome : Except (ImportRefusal Nat) ImportOutcome) = .ok (some packet)
  read : DossierRead tag status discharged a.doc

theorem dossier_kept_iff (htag : blank tag = false)
    (hstatus : status = "unrepresented" ∨ status = "present" ∧ discharged = false) :
    ∃ codec t' outcome receipt a packet,
      DossierImport tag status discharged codec t' outcome receipt a packet ∧
      (receipt.contradictionStatus = some .retained ↔ a.doc.Disagrees ∨ Docket.HasPhrase a.doc.sourceTexts) ∧
      (Docket.Kept a.doc packet receipt.contradictionStatus ↔ a.doc.ResidualsRead ∧ a.doc.Unmistaken) := by
  obtain ⟨codec, t', outcome, receipt, hprints, hrun, ⟨b, hread, hb⟩, himport, hreceipt⟩ :=
    dossier_imported htag hstatus
  obtain ⟨a, packet, ha, ⟨sourcePath, generatedAt, hbuild⟩, hpacket⟩ :=
    accepted_packet hprints hrun (fun _ h => absurd h not_mem_nil) himport
  rw [hb.unique ha] at hread
  refine ⟨codec, t', outcome, receipt, a, packet, ⟨hprints, hrun, himport, hreceipt, ha, hpacket, hread⟩, ?_⟩
  rw [receipt_contradictionStatus hpacket hreceipt]
  exact ⟨Docket.packet_contradiction_iff [] hbuild, Docket.packet_kept_iff [] hbuild⟩

/-- An upstream obligation that is marked discharged is accepted, and lost, where the status says that the office
    represents none. -/
theorem a_discharged_obligation_is_lost : ∃ codec t' outcome receipt a packet,
    DossierImport "inspectable_endpoint" "unrepresented" true codec t' outcome receipt a packet ∧
    ¬Docket.Kept a.doc packet receipt.contradictionStatus := by
  obtain ⟨codec, t', outcome, receipt, a, packet, himport, _, hkept⟩ :
      ∃ codec t' outcome receipt a packet,
        DossierImport "inspectable_endpoint" "unrepresented" true codec t' outcome receipt a packet ∧
        _ ∧ (Docket.Kept a.doc packet receipt.contradictionStatus ↔ _) := dossier_kept_iff (by decide) (.inl rfl)
  refine ⟨codec, t', outcome, receipt, a, packet, himport, fun h => ?_⟩
  exact absurd (himport.read.residualsRead_iff.mp (hkept.mp h).1) (by decide)

end Nq.Projection
