/-
  Nq.Projection.Confinement — where an import reads and writes
  (`nq-monitor/src/docket_dossier.rs`, `continuity_record.rs`, `projection_import.rs`).

  A document's directory is its attempt, or its memory id, joined to the store. Where that is a
  plain name the import stays in the directory of that name (`import_staysIn`); where it holds a
  NUL nothing is read or made; and every other text leads out of the store, into the receipts, or
  into the directory of another plain name (`strays`).

  - `import_confined_iff`: an import stays inside its own place exactly for the names of the
    first two kinds;
  - `a_parent_is_not_confined`: a record with the memory id `..`.
-/

import Nq.Files.Lexical
import Nq.Projection.Testimony

namespace Nq.Projection

open Files (IoError IsName Path PathBuf StaysIn Tree child_buf join_name)
open List
open Receipts (Json WitnessPacket)

/-! ## Places -/

/-- A text that is one component, and not the directory of the receipts. -/
structure Plain (name : String) : Prop where
  isName : IsName name
  receipts : name ≠ receiptStoreDir

/-- A place of its own for the documents of a name: strictly below the store, outside of the receipts and of the
    directory of every other plain name. -/
structure Place (store : Path) (name : String) (own : Path) : Prop where
  below : store <+: own ∧ own ≠ store
  receipts : ¬store ++ [receiptStoreDir] <+: own
  others : ∀ other, Plain other → other ≠ name → ¬store ++ [other] <+: own

/-- A text with a NUL, of which the system makes no path. -/
def HasNul (name : String) : Prop := '\x00' ∈ name.toList

instance (name : String) : Decidable (HasNul name) := inferInstanceAs (Decidable (_ ∈ _))

variable {store : Path} {name : String}

theorem name_of_child {x y : String} (h : store ++ [x] <+: store ++ [y]) : x = y := by
  have hxy : [x] <+: [y] := (prefix_append_right_inj store).mp h
  exact (cons_prefix_cons.mp hxy).1

theorem place_of_name (h : name ≠ receiptStoreDir) : Place store name (store ++ [name]) where
  below := ⟨prefix_append _ _, fun e => by simpa using congrArg List.length e⟩
  receipts := fun hp => h (name_of_child hp).symm
  others := fun _ _ hne hp => hne (name_of_child hp)

/-- A text that is neither plain nor holds a NUL leads out of every place of its own. -/
theorem strays {own : Path} (hplace : Place store name own) (hplain : ¬Plain name) :
    ¬own <+: Files.landing [] (Files.join store name) := by
  intro h
  obtain ⟨⟨rest, hown⟩, hne⟩ := hplace.below
  cases rest with
  | nil => exact hne (hown.symm.trans (append_nil _))
  | cons x rest =>
    have hx : store ++ [x] <+: own := ⟨rest, by rw [← hown, append_assoc]; rfl⟩
    obtain ⟨hmem, hup⟩ := Files.join_below (hx.trans h)
    obtain ⟨hfilled, hhere, hslash⟩ := Files.mem_components hmem
    by_cases hreceipts : x = receiptStoreDir
    · exact hplace.receipts (hreceipts ▸ hx)
    · have hxplain : Plain x := ⟨⟨hfilled, hhere, hup, hslash⟩, hreceipts⟩
      by_cases e : x = name
      · exact hplain (e ▸ hxplain)
      · exact hplace.others x hxplain e hx

/-! ## A packet's import -/

section

variable {κ δ : Type} [DecidableEq κ] {os : Os} {codec : Codec} {profile : Profile κ δ}

/-- The directory that the scan of a call lists. -/
def DirectoryRead (codec : Codec) (profile : Profile κ δ) (t : Tree) (c : Call) (q : Path) : Prop :=
  ∃ a, Accepts codec profile c.bytes a ∧ t.resolve (a.dir profile c) = .ok q ∧ t.node q = some .dir

variable {c : Call} {t t' : Tree} {own q store : Path} {name x y : String}

theorem scan_congr (h : ∀ a, Accepts codec profile c.bytes a →
    readStore os codec profile t (a.dir profile c) = readStore os codec profile t' (a.dir profile c)) :
    scan os codec profile t c = scan os codec profile t' c := by
  unfold scan
  cases ha : accept codec profile c.bytes with
  | error e => rfl
  | ok a =>
    have := h a (accept_ok.mp ha)
    unfold Accepted.dir at this
    simp only [bind, Except.bind]
    rw [this]

omit [DecidableEq κ] in
theorem readStore_same {R : Files.Region} {t t' : Tree} (h : Tree.SameOn R t t') {own : Path} (hown : R.has own)
    (hc : ∀ name, R.has (own ++ [name])) :
    readStore os codec profile t (Path.buf own) = readStore os codec profile t' (Path.buf own) := by
  have hread : ∀ name, readSnapshot codec profile t (PathBuf.child (Path.buf own) name) =
      readSnapshot codec profile t' (PathBuf.child (Path.buf own) name) := by
    intro name
    unfold readSnapshot
    rw [child_buf, Tree.read_same h (hc name)]
  unfold readStore
  rw [Tree.readDir_same h hown hc]
  simp only [hread]

theorem scan_publish_dir {d : Draft} (h : scan os codec profile t c = .ok (.publish d)) :
    ∃ a, Accepts codec profile c.bytes a ∧ d.dir = a.dir profile c := by
  obtain ⟨a, _, ha, _, hdecision⟩ := scan_ok.mp h
  rcases hdecision with ⟨_, _, e⟩ | ⟨_, _, _, _, _, _, e⟩
  · cases e
  · cases e
    exact ⟨a, ha, rfl⟩

/-- What a draft does once its directory is there, or is not. -/
def Draft.writeIn (codec : Codec) (d : Draft) (made : Except IoError Unit)
    (t : Tree) : Tree × Except (ImportRefusal κ) Unit :=
  match made with
  | .error e => (t, .error (.store ("creating " ++ d.dir.display ++ ": " ++ e.text)))
  | .ok () =>
    match codec.packetToVecPretty d.packet with
    | .error e => (t, .error (.store ("serializing packet: " ++ e)))
    | .ok rendered =>
      match t.write d.tmp rendered with
      | .error e => (t, .error (.store ("writing " ++ d.tmp.display ++ ": " ++ e.text)))
      | .ok t => (t, .ok ())

/-- What the storing of a receipt leaves, once it is built. -/
def storeProjectionReceipt (codec : Codec) (c : Call) (outcome : Except (ImportRefusal κ) ImportOutcome)
    (receipt : Except String ProjectionReceipt) (t : Tree) : Tree × Except String (ReceiptedImport κ) :=
  match receipt with
  | .error e => (t, .error e)
  | .ok receipt => ((persistProjectionReceipt codec t c receipt).1,
      (persistProjectionReceipt codec t c receipt).2.map fun stored =>
      ⟨outcome, stored, receiptPath c.store receipt⟩)

omit [DecidableEq κ] in
/-- The temporary file of a draft is written below its directory. -/
theorem Draft.write_staysIn {d : Draft} {own : Path} (hd : d.dir = Path.buf own) :
    StaysIn (· = own) (d.write codec : Tree → Tree × Except (ImportRefusal κ) Unit) := by
  have htmp : d.tmp = Path.buf (own ++ [tmpName]) := by
    unfold Draft.tmp
    rw [hd, child_buf]
  have hfile : ∀ made : Except IoError Unit, (∃ t : Tree, (t.createDirAll (Path.buf own)).2 = made) →
      StaysIn (· = own) (d.writeIn codec made : Tree → Tree × Except (ImportRefusal κ) Unit) := by
    intro made _
    unfold Draft.writeIn
    cases made with
    | error e => exact .looking fun _ _ _ => rfl
    | ok _ =>
      dsimp only
      cases codec.packetToVecPretty d.packet with
      | error e => exact .looking fun _ _ _ => rfl
      | ok rendered =>
        have hwrite : StaysIn (· = own) (StaysIn.attempt (·.write (Path.buf (own ++ [tmpName])) rendered)) :=
          .write rfl (prefix_append _ _)
        refine (hwrite.map (store ("writing " ++ d.tmp.display))).congr fun t => ?_
        rw [htmp]
        unfold StaysIn.attempt
        dsimp only
        cases t.write (Path.buf (own ++ [tmpName])) rendered <;> rfl
  have hcreate : StaysIn (· = own) fun t => t.createDirAll (Path.buf own) := .createDirAll rfl
  have hboth := hcreate.andThen hfile
  refine hboth.congr fun t => ?_
  unfold Draft.write Draft.writeIn
  rw [hd]
  rcases t.createDirAll (Path.buf own) with ⟨u, _ | _⟩ <;> rfl

omit [DecidableEq κ] in
theorem Draft.publish_staysIn {d : Draft} {own : Path} (hd : d.dir = Path.buf own) :
    StaysIn (· = own) (d.publish : Tree → Tree × Except (ImportRefusal κ) ImportOutcome) := by
  have htmp : d.tmp = Path.buf (own ++ [tmpName]) := by
    unfold Draft.tmp
    rw [hd, child_buf]
  have hfinal : d.final = Path.buf (own ++ [d.fileName]) := by
    unfold Draft.final
    rw [hd, child_buf]
  have hrename : StaysIn (· = own)
      (StaysIn.attempt (·.rename (Path.buf (own ++ [tmpName])) (Path.buf (own ++ [d.fileName])))) :=
    .rename rfl (prefix_append _ _) (prefix_append _ _)
  refine (hrename.map fun r => (store ("publishing " ++ d.final.display) r).map fun _ => d.outcome).congr fun t => ?_
  unfold Draft.publish StaysIn.attempt
  rw [htmp, hfinal]
  dsimp only
  cases t.rename (Path.buf (own ++ [tmpName])) (Path.buf (own ++ [d.fileName])) <;> rfl

omit [DecidableEq κ] in
theorem Draft.install_staysIn {d : Draft} {own : Path} (hd : d.dir = Path.buf own) :
    StaysIn (· = own) (d.install codec : Tree → Tree × Except (ImportRefusal κ) ImportOutcome) := by
  have hpublish : ∀ x : Except (ImportRefusal κ) Unit, (∃ t, (d.write codec t).2 = x) → StaysIn (· = own) fun t =>
      match x with
      | .error refusal => (t, (.error refusal : Except (ImportRefusal κ) ImportOutcome))
      | .ok () => d.publish t := by
    intro x _
    cases x with
    | error refusal => exact .looking fun _ _ _ => rfl
    | ok _ => exact Draft.publish_staysIn hd
  have hboth := (Draft.write_staysIn hd).andThen hpublish
  refine hboth.congr fun t => ?_
  unfold Draft.install
  rcases d.write codec t with ⟨u, _ | _⟩ <;> rfl

/-- Where the directory is a path of names, the import of the packet stays in it. -/
theorem importPacket_staysIn (hdir : ∀ a, Accepts codec profile c.bytes a → a.dir profile c = Path.buf own) :
    StaysIn (· = own) fun t => importPacket os codec profile t c := by
  have hscan : ∀ t t', Tree.SameOn (.about (· = own)) t t' →
      scan os codec profile t c = scan os codec profile t' c := by
    intro t t' h
    refine scan_congr fun a ha => ?_
    rw [hdir a ha]
    exact readStore_same h ⟨own, rfl, Or.inl (prefix_refl _)⟩ fun name => ⟨own, rfl, Or.inr (prefix_append _ _)⟩
  have hlook : StaysIn (· = own) fun t => (t, scan os codec profile t c) := .looking hscan
  refine hlook.andThen fun decision hd => ?_
  obtain ⟨t, hd⟩ := hd
  cases decision with
  | error refusal => exact .looking fun _ _ _ => rfl
  | ok decision =>
    cases decision with
    | duplicate path raw => exact .looking fun _ _ _ => rfl
    | publish d =>
      obtain ⟨a, ha, hd⟩ := scan_publish_dir hd
      exact Draft.install_staysIn (hd.trans (hdir a ha))

/-- A packet that an import names lies in the document's directory. -/
theorem importPacket_path {o : ImportOutcome} (h : (importPacket os codec profile t c).2 = .ok o) :
    ∃ a name, Accepts codec profile c.bytes a ∧ o.packetPath = PathBuf.child (a.dir profile c) name := by
  unfold importPacket conclude at h
  cases hscan : scan os codec profile t c with
  | error refusal =>
    rw [hscan] at h
    cases h
  | ok decision =>
    obtain ⟨a, stored, ha, hstored, hdecision⟩ := scan_ok.mp hscan
    rw [hscan] at h
    rcases hdecision with ⟨dup, hdup, e⟩ | ⟨_, _, packet, packetDigest, _, _, e⟩
    · rw [e] at h
      cases h
      obtain ⟨_, name, _, _, _, hread⟩ := readStore_mem hstored (mem_of_find?_eq_some hdup)
      obtain ⟨_, _, _, _, _, hpath⟩ := readSnapshot_ok.mp hread
      exact ⟨a, name, ha, hpath⟩
    · rw [e] at h
      dsimp only at h
      unfold Draft.install at h
      split at h
      · cases h
      · unfold Draft.publish at h
        split at h
        · cases h
        · cases h
          exact ⟨a, _, ha, rfl⟩

/-! ## The receipt -/

theorem receiptDir_buf (store : Path) : receiptDir store = Path.buf (store ++ [receiptStoreDir]) :=
  join_name ⟨by decide, by decide, by decide, by decide⟩

theorem readExisting_same {R : Files.Region} (h : Tree.SameOn R t t') {p : Path} (hp : R.has p) (id : String) :
    readExisting codec t (Path.buf p) id = readExisting codec t' (Path.buf p) id := by
  unfold readExisting
  rw [Tree.read_same h hp]

theorem receiptPath_buf (store : Path) (r : ProjectionReceipt) :
    receiptPath store r = Path.buf (store ++ [receiptStoreDir] ++ [receiptHex r ++ ".projection-receipt.json"]) := by
  unfold receiptPath
  rw [receiptDir_buf, child_buf]

theorem receiptTmp_buf (c : Call) (r : ProjectionReceipt) :
    ∃ name, receiptTmp c r = Path.buf (c.store ++ [receiptStoreDir] ++ [name]) := by
  unfold receiptTmp
  rw [receiptDir_buf, child_buf]
  exact ⟨_, rfl⟩

theorem discard_eq (t : Tree) (p : PathBuf) : discard t p = (StaysIn.attempt (·.removeFile p) t).1 := by
  unfold discard StaysIn.attempt
  dsimp only
  cases t.removeFile p <;> rfl

theorem linkReceipt_staysIn (c : Call) (r : ProjectionReceipt) :
    StaysIn (· = c.store ++ [receiptStoreDir]) fun t => linkReceipt codec t c r := by
  obtain ⟨name, htmp⟩ := receiptTmp_buf c r
  have hremove : StaysIn (· = c.store ++ [receiptStoreDir]) (StaysIn.attempt (·.removeFile (receiptTmp c r))) := by
    rw [htmp]
    exact .removeFile rfl (prefix_append _ _)
  have hlink : StaysIn (· = c.store ++ [receiptStoreDir])
      (StaysIn.attempt (·.hardLink (receiptTmp c r) (receiptPath c.store r))) := by
    rw [htmp, receiptPath_buf]
    exact .hardLink rfl (prefix_append _ _) (prefix_append _ _)
  have hrest : ∀ result : Except IoError Unit, StaysIn (· = c.store ++ [receiptStoreDir]) fun t =>
      (discard t (receiptTmp c r), linked codec result (discard t (receiptTmp c r)) c r) := by
    intro result
    have hanswer : StaysIn (· = c.store ++ [receiptStoreDir]) fun t => (t, linked codec result t c r) := by
      refine .looking fun t t' h => ?_
      have hsame : readExisting codec t (receiptPath c.store r) r.receiptId =
          readExisting codec t' (receiptPath c.store r) r.receiptId := by
        rw [receiptPath_buf]
        exact readExisting_same h ⟨_, rfl, Or.inr (prefix_append _ _)⟩ _
      unfold linked
      rw [hsame]
    refine (hremove.andThen fun _ _ => hanswer).congr fun t => ?_
    rw [discard_eq]
  refine (hlink.andThen fun result _ => hrest result).congr fun t => ?_
  unfold linkReceipt StaysIn.attempt
  dsimp only
  cases t.hardLink (receiptTmp c r) (receiptPath c.store r) <;> rfl

theorem unlessStored_staysIn (c : Call) (r : ProjectionReceipt)
    {next : Tree → Tree × Except String (Option ProjectionReceipt)}
    (h : StaysIn (· = c.store ++ [receiptStoreDir]) next) :
    StaysIn (· = c.store ++ [receiptStoreDir]) (unlessStored codec c r next) := by
  have hin : ∀ name, (Files.Region.about (· = c.store ++ [receiptStoreDir])).has (c.store ++ [receiptStoreDir] ++
      [name]) :=
    fun name => ⟨_, rfl, Or.inr (prefix_append _ _)⟩
  have hlook : StaysIn (· = c.store ++ [receiptStoreDir]) fun t => (t, t.pathExists (receiptPath c.store r)) := by
    refine .looking fun t t' hs => ?_
    rw [receiptPath_buf, Tree.pathExists_same hs (hin _)]
  have hexisting : StaysIn (· = c.store ++ [receiptStoreDir]) fun t =>
      (t, (readExisting codec t (receiptPath c.store r) r.receiptId).map some) := by
    refine .looking fun t t' hs => ?_
    rw [receiptPath_buf, readExisting_same hs (hin _)]
  have hrest : ∀ there : Bool, (∃ t : Tree, t.pathExists (receiptPath c.store r) = there) →
      StaysIn (· = c.store ++ [receiptStoreDir]) fun t =>
        if there then (t, (readExisting codec t (receiptPath c.store r) r.receiptId).map some) else next t := by
    intro there _
    cases there with
    | true => exact hexisting
    | false => exact h
  exact hlook.andThen hrest

theorem writeReceipt_staysIn (c : Call) (r : ProjectionReceipt) :
    StaysIn (· = c.store ++ [receiptStoreDir]) (writeReceipt codec c r) := by
  obtain ⟨name, htmp⟩ := receiptTmp_buf c r
  cases hr : codec.receiptToVecPretty r with
  | error e =>
    have hfail : StaysIn (· = c.store ++ [receiptStoreDir]) fun t =>
        (t, (.error ("serializing projection receipt: " ++ e) : Except String (Option ProjectionReceipt))) :=
          .looking fun _ _ _ => rfl
    refine hfail.congr fun t => ?_
    unfold writeReceipt
    rw [hr]
  | ok rendered =>
    have hnew : StaysIn (· = c.store ++ [receiptStoreDir])
        (StaysIn.attempt (·.writeNew (receiptTmp c r) rendered)) := by
      rw [htmp]
      exact .writeNew rfl (prefix_append _ _)
    refine (hnew.map fun x => match x with
      | .error e => .error ("creating " ++ (receiptTmp c r).display ++ ": " ++ e.text)
      | .ok () => .ok none).congr fun t => ?_
    unfold writeReceipt StaysIn.attempt
    rw [hr]
    dsimp only
    cases t.writeNew (receiptTmp c r) rendered <;> rfl

theorem createReceiptDir_staysIn (c : Call) (r : ProjectionReceipt) :
    StaysIn (· = c.store ++ [receiptStoreDir]) (createReceiptDir codec c r) := by
  have hcreate : StaysIn (· = c.store ++ [receiptStoreDir]) fun t => t.createDirAll (receiptDir c.store) := by
    rw [receiptDir_buf]
    exact .createDirAll rfl
  have hrest : ∀ made : Except IoError Unit, (∃ t : Tree, (t.createDirAll (receiptDir c.store)).2 = made) →
      StaysIn (· = c.store ++ [receiptStoreDir]) fun t =>
        match made with
        | .error e => (t, .error ("creating " ++ (receiptDir c.store).display ++ ": " ++ e.text))
        | .ok () => unlessStored codec c r (writeReceipt codec c r) t := by
    intro made _
    cases made with
    | error e => exact .looking fun _ _ _ => rfl
    | ok _ => exact unlessStored_staysIn c r (writeReceipt_staysIn c r)
  refine (hcreate.andThen hrest).congr fun t => ?_
  unfold createReceiptDir
  rcases t.createDirAll (receiptDir c.store) with ⟨u, _ | _⟩ <;> rfl

/-- Storing a receipt stays in the directory of the receipts. -/
theorem persist_staysIn (c : Call) (r : ProjectionReceipt) :
    StaysIn (· = c.store ++ [receiptStoreDir]) fun t => persistProjectionReceipt codec t c r := by
  have hstage : StaysIn (· = c.store ++ [receiptStoreDir]) fun t => stageReceipt codec t c r := by
    unfold stageReceipt
    cases r.validate codec with
    | error e => exact .looking fun _ _ _ => rfl
    | ok _ => exact unlessStored_staysIn c r (createReceiptDir_staysIn c r)
  have hrest : ∀ staged : Except String (Option ProjectionReceipt), (∃ t, (stageReceipt codec t c r).2 = staged) →
      StaysIn (· = c.store ++ [receiptStoreDir]) fun t =>
        match staged with
        | .error e => (t, .error e)
        | .ok (some existing) => (t, .ok existing)
        | .ok none => linkReceipt codec t c r := by
    intro staged _
    cases staged with
    | error e => exact .looking fun _ _ _ => rfl
    | ok stored =>
      cases stored with
      | some existing => exact .looking fun _ _ _ => rfl
      | none => exact linkReceipt_staysIn c r
  refine (hstage.andThen hrest).congr fun t => ?_
  unfold persistProjectionReceipt
  rcases stageReceipt codec t c r with ⟨u, _ | _ | _⟩ <;> rfl

/-- The places of an import: the document's, and that of the receipts. -/
def Places (store own : Path) (p : Path) : Prop := p = own ∨ p = store ++ [receiptStoreDir]

/-- An outcome names no packet but one of a place. -/
def NamedIn (own : Path) (outcome : Except (ImportRefusal κ) ImportOutcome) : Prop :=
  ∀ o, outcome = .ok o → ∃ p, o.packetPath = Path.buf p ∧ own <+: p

omit [DecidableEq κ] in
theorem receipted_staysIn {c : Call} {own : Path} {outcome : Except (ImportRefusal κ) ImportOutcome}
    (h : NamedIn own outcome) :
    StaysIn (Places c.store own) fun t => receipted codec profile outcome t c := by
  have hlook : StaysIn (Places c.store own) fun t =>
      (t, projectionReceipt codec profile t c.bytes outcome c.generatedAt) := by
    refine .looking fun t t' hs => ?_
    have hemitted : emittedPacket codec t outcome = emittedPacket codec t' outcome := by
      cases outcome with
      | error _ => rfl
      | ok o =>
        obtain ⟨p, hp, hown⟩ := h o rfl
        unfold emittedPacket
        dsimp only
        rw [hp, Tree.read_same hs ⟨own, Or.inl rfl, Or.inr hown⟩]
    unfold projectionReceipt
    rw [hemitted]
  have hrest : ∀ receipt : Except String ProjectionReceipt,
      (∃ t, projectionReceipt codec profile t c.bytes outcome c.generatedAt = receipt) →
        StaysIn (Places c.store own) (storeProjectionReceipt codec c outcome receipt) := by
    intro receipt _
    unfold storeProjectionReceipt
    cases receipt with
    | error e => exact .looking fun _ _ _ => rfl
    | ok receipt =>
      have hpersist : StaysIn (Places c.store own) fun t => persistProjectionReceipt codec t c receipt :=
        (persist_staysIn c receipt).wider fun _ hp => Or.inr hp
      exact hpersist.map _
  refine (hlook.andThen hrest).congr fun t => ?_
  cases h : projectionReceipt codec profile t c.bytes outcome c.generatedAt <;>
    simp only [receipted, storeProjectionReceipt, h]

theorem importPacket_namedIn (hdir : ∀ a, Accepts codec profile c.bytes a → a.dir profile c = Path.buf own) (t : Tree) :
    NamedIn own (importPacket os codec profile t c).2 := by
  intro o ho
  obtain ⟨a, name, ha, hpath⟩ := importPacket_path ho
  exact ⟨own ++ [name], by rw [hpath, hdir a ha, child_buf], prefix_append _ _⟩

/-- Where the packet's part stays in a place, the whole stays there and in the receipts. -/
theorem import_staysIn (hin : StaysIn (· = own) fun t => importPacket os codec profile t c)
    (hnamed : ∀ t, NamedIn own (importPacket os codec profile t c).2) :
    StaysIn (Places c.store own) fun t => importOnly os codec profile t c := by
  have hpacket : StaysIn (Places c.store own) fun t => importPacket os codec profile t c :=
    hin.wider fun _ hp => Or.inl hp
  have hreceipted : ∀ outcome, (∃ t, (importPacket os codec profile t c).2 = outcome) →
      StaysIn (Places c.store own) fun t => receipted codec profile outcome t c := by
    intro outcome ho
    obtain ⟨t, ht⟩ := ho
    exact receipted_staysIn (ht ▸ hnamed t)
  have hall := hpacket.andThen hreceipted
  refine (hall.map fun x => match x with
    | .ok imported => imported.outcome
    | .error e => .error (.store ("projection receipt store error: " ++ e))).congr fun t => ?_
  unfold importOnly importWithReceipt
  rcases importPacket os codec profile t c with ⟨u, outcome⟩
  dsimp only
  rcases receipted codec profile outcome u c with ⟨w, _ | _⟩ <;> rfl

/-! ## Texts that are not names -/

theorem Plain.dir (h : Plain name) (store : Path) :
    Files.join store name = Path.buf (store ++ [name]) := join_name h.isName

theorem nul_mem_components (h : HasNul name) : ∃ c ∈ Files.components name, HasNul c := by
  obtain ⟨part, hpart, hnul⟩ := Files.exists_mem_splitOn (show '\x00' ≠ '/' by decide) h
  refine ⟨String.ofList part, mem_filter.mpr ⟨mem_map_of_mem hpart, decide_eq_true ⟨fun e => ?_, fun e => ?_⟩⟩, ?_⟩
  · have : part = [] := by
      have := congrArg String.toList e
      rwa [String.toList_ofList] at this
    rw [this] at hnul
    exact not_mem_nil hnul
  · have : part = ['.'] := by
      have := congrArg String.toList e
      rwa [String.toList_ofList] at this
    rw [this] at hnul
    exact absurd hnul (by decide)
  · unfold HasNul
    rwa [String.toList_ofList]

theorem step_nul {c : String} : (Files.step c).nul = true ↔ HasNul c := by
  unfold Files.step HasNul
  split
  · rename_i e
    rw [e]
    exact ⟨fun h => (nomatch h), fun h => absurd h (by decide)⟩
  · simp [Files.Step.nul]

/-- A path with a NUL is refused by the system. -/
theorem resolve_nul (h : HasNul name) (more : PathBuf) :
    t.resolve (Files.join store name ++ more) = .error .invalidInput := by
  obtain ⟨c, hc, hnul⟩ := nul_mem_components h
  have hstep : Files.step c ∈ Files.join store name ++ more := by
    unfold Files.join
    split
    · exact mem_append_left _ (mem_map_of_mem hc)
    · exact mem_append_left _ (mem_append_right _ (mem_map_of_mem hc))
  unfold Tree.resolve
  rw [if_pos (any_eq_true.mpr ⟨_, hstep, step_nul.mpr hnul⟩)]

/-- Of a document whose name holds a NUL nothing is read or made. -/
theorem importPacket_nul (h : ∀ a, Accepts codec profile c.bytes a → HasNul (profile.directory a.doc)) :
    ∃ refusal, ∀ t, importPacket os codec profile t c = (t, .error refusal) := by
  have hread : ∀ (a : Accepted δ) (t : Tree), Accepts codec profile c.bytes a →
      t.readDir (a.dir profile c) = .error .invalidInput := by
    intro a t ha
    have hresolve : t.resolve (Files.join c.store (profile.directory a.doc) ++ []) = .error .invalidInput :=
      resolve_nul (h a ha) []
    rw [append_nil] at hresolve
    unfold Tree.readDir Accepted.dir
    rw [hresolve]
    rfl
  cases ha : accept codec profile c.bytes with
  | error refusal =>
    refine ⟨refusal, fun t => ?_⟩
    unfold importPacket scan
    rw [ha]
    rfl
  | ok a =>
    refine ⟨.store ("reading " ++ (a.dir profile c).display ++ ": " ++ IoError.invalidInput.text), fun t => ?_⟩
    have hstored : readStore os codec profile t (a.dir profile c) =
        .error (.store ("reading " ++ (a.dir profile c).display ++ ": " ++ IoError.invalidInput.text)) := by
      unfold readStore
      rw [hread a t (accept_ok.mp ha)]
    have hscan : scan os codec profile t c = .error (.store ("reading " ++ (a.dir profile c).display ++ ": " ++
        IoError.invalidInput.text)) := by
      unfold scan
      rw [ha]
      unfold Accepted.dir at hstored
      simp only [bind, Except.bind]
      rw [hstored]
      rfl
    unfold importPacket
    rw [hscan]
    rfl

/-! ## Confinement -/

/-- An import of a document stays inside a place: it lists no directory outside of it, the packet's part depends on
    nothing else and changes nothing else, and the whole changes the receipts besides. What is imported under
    another plain name comes out as it would without it. -/
structure ConfinedTo (os : Os) (codec : Codec) (profile : Profile κ δ) (c : Call) (own : Path) : Prop where
  lists : ∀ t q, DirectoryRead codec profile t c q → own <+: q
  packet : StaysIn (· = own) fun t => importPacket os codec profile t c
  whole : StaysIn (Places c.store own) fun t => importOnly os codec profile t c
  others : ∀ c' : Call, c'.store = c.store → ∀ a', Accepts codec profile c'.bytes a' →
    Plain (profile.directory a'.doc) →
    (∀ a, Accepts codec profile c.bytes a → profile.directory a'.doc ≠ profile.directory a.doc) → ∀ t : Tree,
    t.node c.store = some .dir →
    (importPacket os codec profile (importOnly os codec profile t c).1 c').2 = (importPacket os codec profile t c').2

/-- The import stays inside a place that is the document's own. -/
def Confined (os : Os) (codec : Codec) (profile : Profile κ δ) (c : Call) : Prop :=
  ∃ own, (∀ a, Accepts codec profile c.bytes a → Place c.store (profile.directory a.doc) own) ∧
    ConfinedTo os codec profile c own

theorem import_staysIn_of_nul (os : Os) (h : ∀ a, Accepts codec profile c.bytes a → HasNul (profile.directory a.doc))
    (own : Path) :
    StaysIn (· = own) (fun t => importPacket os codec profile t c) ∧
      StaysIn (Places c.store own) fun t => importOnly os codec profile t c := by
  obtain ⟨refusal, hrefused⟩ : ∃ refusal, ∀ t, importPacket os codec profile t c = (t, .error refusal) :=
    importPacket_nul h
  have hpacket : StaysIn (· = own) fun t => importPacket os codec profile t c := by
    have hlook : StaysIn (· = own) fun t => (t, (.error refusal : Except (ImportRefusal κ) ImportOutcome)) :=
      .looking fun _ _ _ => rfl
    exact hlook.congr fun t => (hrefused t).symm
  exact ⟨hpacket, import_staysIn hpacket fun t o ho => by rw [hrefused] at ho; cases ho⟩

/-- The directories of two names lie apart. -/
theorem names_apart (hne : x ≠ y) (hq : q <+: store ++ [y] ∨ store ++ [y] <+: q) : ¬store ++ [x] <+: q := by
  intro hx
  rcases hq with hq | hq
  · exact hne (name_of_child (hx.trans hq))
  · rcases prefix_or_prefix_of_prefix hx hq with h | h
    · exact hne (name_of_child h)
    · exact hne (name_of_child h).symm

/-- What leads to the directories of two names is the store and what leads there. -/
theorem names_meet (hne : x ≠ y) (hx : q <+: store ++ [x]) (hq : q <+: store ++ [y] ∨ store ++ [y] <+: q) :
    q <+: store := by
  rcases prefix_concat_iff.mp hx with e | h
  · exact absurd (e ▸ prefix_refl _) (names_apart hne hq)
  · exact h

theorem confinedTo_of_name (hname : ∀ other, Plain other →
      (∀ a, Accepts codec profile c.bytes a → other ≠ profile.directory a.doc) → name ≠ other)
    (hlists : ∀ t q, DirectoryRead codec profile t c q → c.store ++ [name] <+: q)
    (hpacket : StaysIn (· = c.store ++ [name]) fun t => importPacket os codec profile t c)
    (hwhole : StaysIn (Places c.store (c.store ++ [name])) fun t => importOnly os codec profile t c) :
    ConfinedTo os codec profile c (c.store ++ [name]) := by
  refine ⟨hlists, hpacket, hwhole, fun c' hstore a' ha' hplain hne t ht => ?_⟩
  have hother : StaysIn (· = c.store ++ [profile.directory a'.doc]) fun t => importPacket os codec profile t c' := by
    refine importPacket_staysIn fun b hb => ?_
    rw [hb.unique ha', ← hstore]
    exact hplain.dir c'.store
  have hplaces : ∀ p, Places c.store (c.store ++ [name]) p →
      ∃ x, p = c.store ++ [x] ∧ x ≠ profile.directory a'.doc := by
    intro p hp
    rcases hp with e | e
    · exact ⟨name, e, hname _ hplain hne⟩
    · exact ⟨receiptStoreDir, e, hplain.receipts.symm⟩
  refine hwhole.independent hother (fun p p' q hp hp' hq => ?_) fun p p' q hp hp' hqp hq => ?_
  · obtain ⟨x, rfl, hx⟩ := hplaces p hp
    subst hp'
    exact names_apart hx hq
  · obtain ⟨x, rfl, hx⟩ := hplaces p hp
    subst hp'
    have hqs := names_meet hx hqp hq
    by_cases e : q = c.store
    · rw [e, ht]
      exact Option.some_ne_none _
    · rw [Tree.dir_of_prefix (by rw [ht]; exact Option.some_ne_none _) hqs e]
      exact Option.some_ne_none _

theorem plain_or_nul_of_confined (hstore : Tree.Nulless c.store) (h : Confined os codec profile c) {a : Accepted δ}
    (ha : Accepts codec profile c.bytes a) : Plain (profile.directory a.doc) ∨ HasNul (profile.directory a.doc) := by
  obtain ⟨own, hplace, hconfined⟩ := h
  by_contra hnot
  obtain ⟨hplain, hnul⟩ := not_or.mp hnot
  have hno : (a.dir profile c).any Files.Step.nul = false := by
    rw [Bool.eq_false_iff]
    intro hany
    obtain ⟨step, hmem, hstep⟩ := any_eq_true.mp hany
    have htexts : ∀ {cs : List String}, step ∈ cs.map Files.step → ∃ x ∈ cs, HasNul x := by
      intro cs hmem
      obtain ⟨x, hx, e⟩ := List.mem_map.mp hmem
      exact ⟨x, hx, step_nul.mp (e ▸ hstep)⟩
    have hcomponents : step ∈ (Files.components (profile.directory a.doc)).map Files.step → False := by
      intro hmem
      obtain ⟨x, hx, hxnul⟩ := htexts hmem
      exact hnul (Files.nul_of_components hx hxnul)
    unfold Accepted.dir Files.join at hmem
    split at hmem
    · exact hcomponents hmem
    · rcases mem_append.mp hmem with hmem | hmem
      · exact Tree.buf_nul.mp (any_eq_true.mpr ⟨step, hmem, hstep⟩) hstore
      · exact hcomponents hmem
  obtain ⟨t, hresolve, hdir⟩ := Files.exists_landing hno
  exact strays (hplace a ha) hplain (hconfined.lists t _ ⟨a, ha, hresolve, hdir⟩)

theorem confined_of_plain_or_nul
    (h : ∀ a, Accepts codec profile c.bytes a → Plain (profile.directory a.doc) ∨ HasNul (profile.directory a.doc)) :
    Confined os codec profile c := by
  cases hacc : accept codec profile c.bytes with
  | error refusal =>
    have hnone : ∀ a, ¬Accepts codec profile c.bytes a := by
      intro a ha
      rw [accept_ok.mpr ha] at hacc
      cases hacc
    obtain ⟨hpacket, hwhole⟩ :=
      import_staysIn_of_nul os (fun a ha => absurd ha (hnone a)) (c.store ++ [receiptStoreDir])
    exact ⟨_, fun a ha => absurd ha (hnone a), confinedTo_of_name (fun _ hplain _ => hplain.receipts.symm)
      (fun t q hq => absurd hq.choose_spec.1 (hnone _)) hpacket hwhole⟩
  | ok a =>
    have ha := accept_ok.mp hacc
    have hname : ∀ other, Plain other → (∀ b, Accepts codec profile c.bytes b → other ≠ profile.directory b.doc) →
        profile.directory a.doc ≠ other := fun other _ hne => (hne a ha).symm
    rcases h a ha with hplain | hnul
    · have hdir : ∀ b, Accepts codec profile c.bytes b →
          b.dir profile c = Path.buf (c.store ++ [profile.directory a.doc]) := by
        intro b hb
        rw [hb.unique ha]
        exact hplain.dir c.store
      refine ⟨_, fun b hb => (by rw [hb.unique ha]; exact place_of_name hplain.receipts),
        confinedTo_of_name hname (fun t q hq => ?_)
        (importPacket_staysIn hdir) (import_staysIn (importPacket_staysIn hdir) (importPacket_namedIn hdir))⟩
      obtain ⟨b, hb, hresolve, _⟩ := hq
      rw [hdir b hb] at hresolve
      rw [Tree.resolve_buf_eq hresolve]
    · have hall : ∀ b, Accepts codec profile c.bytes b → HasNul (profile.directory b.doc) :=
        fun b hb => hb.unique ha ▸ hnul
      obtain ⟨hpacket, hwhole⟩ := import_staysIn_of_nul os hall (c.store ++ [profile.directory a.doc])
      have hreceipts : profile.directory a.doc ≠ receiptStoreDir := by
        intro e
        unfold HasNul at hnul
        rw [e] at hnul
        exact absurd hnul (by decide)
      refine ⟨_, fun b hb => (by rw [hb.unique ha]; exact place_of_name hreceipts),
        confinedTo_of_name hname (fun t q hq => ?_) hpacket hwhole⟩
      obtain ⟨b, hb, hresolve, _⟩ := hq
      have hrefused : t.resolve (Files.join c.store (profile.directory b.doc) ++ []) = .error .invalidInput :=
        resolve_nul (hall b hb) []
      rw [append_nil] at hrefused
      cases hresolve.symm.trans hrefused

end

/-- An import stays inside its document's own place exactly where the document's name is one component and not that
    of the receipts, or holds a NUL. -/
theorem import_confined_iff (os : Os) (codec : Codec) (source : List UInt8) (c : Call) (hstore : Tree.Nulless c.store) :
    (Confined os codec (docket source) c ↔ ∀ a, Accepts codec (docket source) c.bytes a →
      Plain a.doc.attempt ∨ HasNul a.doc.attempt) ∧
    (Confined os codec (continuity source) c ↔ ∀ a, Accepts codec (continuity source) c.bytes a →
      Plain a.doc.subject.memoryId ∨ HasNul a.doc.subject.memoryId) :=
  ⟨⟨fun h _ ha => plain_or_nul_of_confined hstore h ha, confined_of_plain_or_nul⟩,
    ⟨fun h _ ha => plain_or_nul_of_confined hstore h ha, confined_of_plain_or_nul⟩⟩

theorem a_named_record_is_confined :
    Confined namesInOrder (documentCodec (relyValue "eligible" "mem_vector")) (continuity [])
    (relyCall "eligible" "mem_vector") := by
  refine (import_confined_iff namesInOrder (documentCodec (relyValue "eligible" "mem_vector"))
    [] (relyCall "eligible" "mem_vector")
    (by decide)).2.mpr fun a ha => Or.inl ?_
  obtain ⟨b, hb, _, _, _, _, _, _, hid⟩ :=
    rely_accepts (show "eligible" ∈ Continuity.knownRelyCodes by decide) "mem_vector"
  rw [ha.unique hb, hid]
  exact ⟨⟨by decide, by decide, by decide, by decide⟩, by decide⟩

/-- A record with the memory id `..` is imported into the directory of the store. -/
theorem a_parent_is_not_confined :
    ¬Confined namesInOrder (documentCodec (relyValue "eligible" "..")) (continuity []) (relyCall "eligible" "..") := by
  intro h
  obtain ⟨a, ha, _, _, _, _, _, _, hid⟩ := rely_accepts (show "eligible" ∈ Continuity.knownRelyCodes by decide) ".."
  have hnames : Plain a.doc.subject.memoryId ∨ HasNul a.doc.subject.memoryId :=
    plain_or_nul_of_confined (by decide) h ha
  rw [hid] at hnames
  rcases hnames with hplain | hnul
  · exact hplain.isName.up rfl
  · exact absurd hnul (by decide)

end Nq.Projection
