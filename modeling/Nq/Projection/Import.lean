/-
  Nq.Projection.Import — importing a source document into a packet store, with a receipt
  (`nq-monitor/src/docket_dossier.rs`, `continuity_record.rs`, `projection_import.rs`).

  The two importers do the same but for what a `Profile` holds: how a document is read and
  checked, the directory it goes to, and what of it tells snapshots apart. An import scans its
  directory, writes a temporary file and renames it; then a receipt is made of what came of it
  and linked into the store.
-/

import Nq.Files.Tree
import Nq.Projection.Dossier
import Nq.Projection.Record

namespace Nq.Projection

open Files (IoError PathBuf Tree)
open Receipts (Json WitnessPacket)

/-! ## The profiles -/

structure StoredSnapshot (κ : Type) where
  path : PathBuf
  key : κ
  rawSourceDigest : String
  coreConsistencyDigest : String

structure Profile (κ δ : Type) where
  /-- The schema a document declares. -/
  found : Json → String
  supported : List String
  decode : Json → Option δ
  /-- What is checked of a document that could be read. -/
  check : Codec → δ → Json → Except (ImportRefusal κ) Unit
  coreKeys : List String
  directory : δ → String
  key : δ → κ
  build : Codec → δ → (sourcePath rawDigest coreDigest generatedAt : String) → Except (ImportRefusal κ) WitnessPacket
  fileStem : δ → String
  unparseable : String
  /-- The snapshot of a stored packet, with its path as it is displayed, or the detail of the refusal. -/
  stored : (display : String) → Json → Except String (κ × String × String)
  system : ProjectionSourceSystem
  mapping : ProjectionMappingProfile
  /-- The file that defines the profile. -/
  source : List UInt8
  sourceSchema : Json → Option String
  snapshotIdentity : Json → Option String
  contradictionStatus : WitnessPacket → Option ProjectionContradictionStatus

/-- The first observation of a type. -/
def observationOf (packet : Json) (type : String) : Option Json :=
  ((packet.get "observations").bind fun
    | .array items => some items
    | _ => none).bind fun items => items.find? fun o => (o.get "type").bind Json.asStr = some type

def textOf (v : Json) (key : String) : Option String := (v.get key).bind Json.asStr

def Docket.stored (display : String) (packet : Json) : Except String (Nat × String × String) := do
  let identity ← Collections.okOr (observationOf packet "docket_source_identity")
    ("stored packet " ++ display ++ " carries no docket_source_identity observation")
  return (((identity.get "docket_version").bind decodeU64).getD 0, (textOf identity "raw_source_digest").getD "",
    (textOf identity "core_consistency_digest").getD "")

/-- The source file, `include_bytes!("docket_dossier.rs")`, is a parameter. -/
def docket (source : List UInt8) : Profile Nat Docket.Dossier where
  found := fun value => (textOf value "dossier_format").getD ((textOf value "schema").getD "(absent)")
  supported := [Docket.supportedDossierFormat, Docket.supportedDossierFormatV2, Docket.supportedDossierFormatV3]
  decode := Docket.Dossier.decode
  check := fun codec d value => (Docket.validateIdentityContract codec d value).mapError .malformed
  coreKeys := ["dossier_format", "attempt", "version", "state", "settlement", "identity", "authority", "timeline",
    "execution", "qualification"]
  directory := (·.attempt)
  key := (·.version)
  build := Docket.buildPacket
  fileStem := fun d => "v" ++ toString d.version
  unparseable := " unparseable: "
  stored := Docket.stored
  system := .docket
  mapping := .docketDossier
  source := source
  sourceSchema := fun value => (textOf value "dossier_format").or (textOf value "schema")
  snapshotIdentity := fun value => do
    let attempt ← textOf value "attempt"
    let version ← (value.get "version").bind decodeU64
    return attempt ++ "@" ++ toString version
  contradictionStatus := fun packet =>
    if packet.coverageLimits.any (Text.contains · "retained evidence disagrees") then some .retained else none

/-- The evaluation time of the first rely result that has one. -/
def Continuity.storedEvaluationTime (packet : Json) : Option String :=
  ((packet.get "observations").bind fun
    | .array items => some items
    | _ => none).bind fun items => items.findSome? fun o =>
      if (o.get "type").bind Json.asStr = some "continuity_rely_result" then textOf o "evaluation_time" else none

def Continuity.stored (display : String) (packet : Json) : Except String (String × String × String) := do
  let identity ← Collections.okOr (observationOf packet "continuity_source_identity")
    ("stored packet " ++ display ++ " carries no continuity_source_identity")
  let evaluationTime ← Collections.okOr (Continuity.storedEvaluationTime packet)
    ("stored packet " ++ display ++ " lacks a rely-result evaluation_time")
  let get (k : String) : Except String String :=
    Collections.okOr (textOf identity k) ("stored packet " ++ display ++ " lacks " ++ k)
  let raw ← get "raw_source_digest"
  let core ← get "core_consistency_digest"
  return (evaluationTime, raw, core)

/-- `include_bytes!("continuity_record.rs")` is a parameter. -/
def continuity (source : List UInt8) : Profile String Continuity.RelyRecord where
  found := fun value => (textOf value "schema").getD "(absent)"
  supported := [Continuity.supportedRecordSchema]
  decode := Continuity.RelyRecord.decode
  check := fun codec r _ => r.admissible codec
  coreKeys := ["schema", "subject", "content_hash", "status", "supersedes", "revoked_by", "authoring_tier",
    "reliance_class", "effective_reliance", "evaluation_time", "rely", "premises"]
  directory := (·.subject.memoryId)
  key := (·.evaluationTime)
  build := Continuity.buildPacket
  fileStem := fun r => "e" ++ String.ofList (r.evaluationTime.toList.map fun c =>
    if c.isAlphanum then c else '-')
  unparseable := " is not JSON: "
  stored := Continuity.stored
  system := .continuity
  mapping := .continuityRecord
  source := source
  sourceSchema := (textOf · "schema")
  snapshotIdentity := fun value => do
    let memoryId ← (value.get "subject").bind (textOf · "memory_id")
    let evaluationTime ← textOf value "evaluation_time"
    return memoryId ++ "@" ++ evaluationTime
  contradictionStatus := fun _ => none

/-! ## Reading the store -/

/-- The order in which a directory lists its names. -/
structure Os where
  order : Finset String → List String
  lists : ∀ names name, name ∈ order names ↔ name ∈ names

/-- A call of an import. -/
structure Call where
  bytes : List UInt8
  sourcePath : String
  store : Files.Path
  generatedAt : String
  pid : Nat
  sequence : Nat

/-- `extension() == Some("json")` -/
def isJson (name : String) : Bool := ".json".toList.isSuffixOf name.toList && name.toList.length > 5

section

variable {κ δ : Type} [DecidableEq κ] (os : Os) (codec : Codec) (profile : Profile κ δ)

def store {α : Type} (detail : String) (x : Except IoError α) : Except (ImportRefusal κ) α :=
  x.mapError fun e => .store (detail ++ ": " ++ e.text)

def readSnapshot (t : Tree) (path : PathBuf) : Except (ImportRefusal κ) (StoredSnapshot κ) := do
  let bytes ← store ("reading " ++ path.display) (t.read path)
  let packet ← (codec.fromSlice bytes).mapError fun e =>
    .store ("stored packet " ++ path.display ++ profile.unparseable ++ e)
  let (key, raw, core) ← (profile.stored path.display packet).mapError .store
  return ⟨path, key, raw, core⟩

/-- `read_store` -/
def readStore (t : Tree) (dir : PathBuf) : Except (ImportRefusal κ) (List (StoredSnapshot κ)) :=
  match t.readDir dir with
  | .error .notFound => .ok []
  | .error e => .error (.store ("reading " ++ dir.display ++ ": " ++ e.text))
  | .ok names => ((os.order names).filter isJson).mapM fun name => readSnapshot codec profile t (dir.child name)

/-! ## The packet -/

/-- The core of a value. -/
def coreOf (value : Json) : Json := json (profile.coreKeys.map fun key => (key, (value.get key).getD .null))

/-- `core_consistency_digest` -/
def coreConsistencyDigest (value : Json) : Except String String :=
  match codec.jcs (coreOf profile value) with
  | .error e => .error ("core canonicalization failed: " ++ e)
  | .ok bytes => .ok (sha256Hex codec bytes)

/-- A document that passed its checks. -/
structure Accepted (δ : Type) where
  doc : δ
  value : Json
  core : String

def probe (value : Json) : Except (ImportRefusal κ) Unit :=
  if profile.found value ∈ profile.supported then .ok () else .error (.unsupportedSchema (profile.found value))

/-- `serde_json::from_value` -/
def fromValue (value : Json) : Except (ImportRefusal κ) δ :=
  match profile.decode value with
  | some doc => .ok doc
  | none => .error (.malformed (codec.decodeError value))

def accept (bytes : List UInt8) : Except (ImportRefusal κ) (Accepted δ) := do
  let value ← (codec.fromSlice bytes).mapError fun e => .malformed ("not JSON: " ++ e)
  probe profile value
  let doc ← fromValue codec profile value
  profile.check codec doc value
  let core ← (coreConsistencyDigest codec profile value).mapError .malformed
  return ⟨doc, value, core⟩

inductive ImportOutcome where
  | imported (packetPath : PathBuf) (packetDigest rawSourceDigest coreConsistencyDigest : String)
  | duplicate (packetPath : PathBuf) (rawSourceDigest : String)
  deriving DecidableEq

def ImportOutcome.packetPath : ImportOutcome → PathBuf
  | .imported p _ _ _ => p
  | .duplicate p _ => p

/-- A packet that is to be published in a directory. -/
structure Draft where
  dir : PathBuf
  fileName : String
  packet : WitnessPacket
  packetDigest : String
  raw : String
  core : String

inductive Decision where
  | duplicate (path : PathBuf) (raw : String)
  | publish (draft : Draft)

def tmpName : String := ".tmp-import"

/-- Sixteen digits of a digest. -/
def digestTail (raw : String) : String := String.ofList ((raw.toList.drop 7).take 16)

def fileName (doc : δ) (raw : String) : String := profile.fileStem doc ++ "-" ++ digestTail raw ++ ".packet.json"

/-- From the bytes to the packet: all that is read of the store is the document's directory. -/
def scan (t : Tree) (c : Call) : Except (ImportRefusal κ) Decision := do
  let raw := sha256Hex codec c.bytes
  let a ← accept codec profile c.bytes
  let dir := Files.join c.store (profile.directory a.doc)
  let stored ← readStore os codec profile t dir
  match stored.find? (·.rawSourceDigest = raw) with
  | some dup => return .duplicate dup.path raw
  | none =>
    match stored.find? fun s => s.key = profile.key a.doc ∧ s.coreConsistencyDigest ≠ a.core with
    | some conflict => throw (.snapshotSubstitution (profile.directory a.doc)
        (profile.key a.doc) conflict.coreConsistencyDigest a.core)
    | none =>
      let packet ← profile.build codec a.doc c.sourcePath raw a.core c.generatedAt
      let packetDigest ← (packet.digest codec.toCodec).mapError fun e => .malformed ("packet digest: " ++ e)
      return .publish ⟨dir, fileName profile a.doc raw, packet, packetDigest, raw, a.core⟩

def Draft.final (d : Draft) : PathBuf := d.dir.child d.fileName
def Draft.tmp (d : Draft) : PathBuf := d.dir.child tmpName

/-- The directory and the temporary file. -/
def Draft.write (d : Draft) (t : Tree) : Tree × Except (ImportRefusal κ) Unit :=
  match t.createDirAll d.dir with
  | (t, .error e) => (t, .error (.store ("creating " ++ d.dir.display ++ ": " ++ e.text)))
  | (t, .ok ()) =>
    match codec.packetToVecPretty d.packet with
    | .error e => (t, .error (.store ("serializing packet: " ++ e)))
    | .ok rendered =>
      match t.write d.tmp rendered with
      | .error e => (t, .error (.store ("writing " ++ d.tmp.display ++ ": " ++ e.text)))
      | .ok t => (t, .ok ())

def Draft.outcome (d : Draft) : ImportOutcome := .imported d.final d.packetDigest d.raw d.core

def Draft.publish (d : Draft) (t : Tree) : Tree × Except (ImportRefusal κ) ImportOutcome :=
  match t.rename d.tmp d.final with
  | .error e => (t, .error (.store ("publishing " ++ d.final.display ++ ": " ++ e.text)))
  | .ok t => (t, .ok d.outcome)

def Draft.install (d : Draft) (t : Tree) : Tree × Except (ImportRefusal κ) ImportOutcome :=
  match d.write codec t with
  | (t, .error refusal) => (t, .error refusal)
  | (t, .ok ()) => d.publish t

/-- What is done about a scan. -/
def conclude (decision : Except (ImportRefusal κ) Decision)
    (t : Tree) : Tree × Except (ImportRefusal κ) ImportOutcome :=
  match decision with
  | .error refusal => (t, .error refusal)
  | .ok (.duplicate path raw) => (t, .ok (.duplicate path raw))
  | .ok (.publish d) => d.install codec t

def importPacket (t : Tree) (c : Call) : Tree × Except (ImportRefusal κ) ImportOutcome :=
  conclude codec (scan os codec profile t c) t

/-! ## The receipt -/

def ImportRefusal.outcome : ImportRefusal κ → String
  | .unsupportedSchema _ => "refused:unsupported_schema"
  | .malformed _ => "refused:malformed"
  | .missingPremise _ => "refused:missing_premise"
  | .unknownRelyCode _ => "refused:unknown_rely_code"
  | .unenforceablePremise _ => "refused:unenforceable_premise"
  | .snapshotSubstitution .. => "refused:snapshot_substitution"
  | .store _ => "refused:store"

def ImportRefusal.substitution : ImportRefusal κ → Option ProjectionReceiptSubstitution
  | .snapshotSubstitution _ _ existing presented => some ⟨existing, presented⟩
  | _ => none

def replayOf : Except (ImportRefusal κ) ImportOutcome → ProjectionReceiptReplay
  | .ok (.imported ..) => ⟨"imported", none⟩
  | .ok (.duplicate ..) => ⟨"duplicate", none⟩
  | .error refusal => ⟨refusal.outcome, refusal.substitution⟩

/-- The packet an outcome names, read back. -/
def emittedPacket (t : Tree) : Except (ImportRefusal κ) ImportOutcome → Except String (Option WitnessPacket)
  | .error _ => .ok none
  | .ok outcome => do
    let path := outcome.packetPath
    let bytes ← (t.read path).mapError fun e => "reading emitted packet " ++ path.display ++ " for receipt: " ++ e.text
    let packet ← (codec.packetFromSlice bytes).mapError fun e =>
      "parsing emitted packet " ++ path.display ++ " for receipt: " ++ e
    (packet.validate codec.toCodec).mapError fun e =>
      "validating emitted packet " ++ path.display ++ " for receipt: " ++ e
    return some packet

def emittedDigest (packet : Option WitnessPacket) : Except String (Option String) :=
  match packet with
  | none => .ok none
  | some p => ((p.digest codec.toCodec).map some).mapError fun e => "digesting emitted packet for receipt: " ++ e

/-- The digest an import reported is the one of the packet read back. -/
def checkEmitted (outcome : Except (ImportRefusal κ) ImportOutcome) (digest : Option String) : Except String Unit :=
  match outcome, digest with
  | .ok (.imported _ emitted _ _), some recomputed => Collections.rejectIf (emitted ≠ recomputed)
      ("emitted packet digest mismatch: outcome " ++ emitted ++ ", recomputed " ++ recomputed)
  | _, _ => .ok ()

/-- A receipt that is not sealed yet. -/
def receiptOf (bytes : List UInt8) (outcome : Except (ImportRefusal κ) ImportOutcome) (importedAt : String)
    (packet : Option (WitnessPacket × String)) : ProjectionReceipt :=
  let value := (codec.fromSlice bytes).toOption
  let sourceSchema := value.bind profile.sourceSchema
  { schema := projectionReceiptSchema
    receiptId := ""
    source := {
      system := profile.system
      schema := sourceSchema
      snapshotIdentity := value.bind profile.snapshotIdentity
      rawDigest := sha256Hex codec bytes
      coreDigest := value.bind fun value =>
        if sourceSchema.any (· ∈ profile.supported) then (coreConsistencyDigest codec profile value).toOption else none
      recordRef := packet.bind (·.1.sourceFindingRef) }
    mapping := ⟨profile.mapping, sha256Hex codec profile.source⟩
    custodyBasis := Receipts.custodyBasisExternalProjection
    packet := packet.map fun p => ⟨p.2, p.1.witnessType, p.1.subject⟩
    premisesAsCoverage := (packet.map (·.1.coverageLimits)).getD []
    projectionLimits := (packet.map (·.1.projectionLimits)).getD []
    replay := replayOf outcome
    contradictionStatus := packet.bind (profile.contradictionStatus ·.1)
    importedAt := importedAt
    establishes := projectionReceiptEstablishes
    doesNotEstablish := projectionReceiptDoesNotEstablish }

def projectionReceipt (t : Tree) (bytes : List UInt8) (outcome : Except (ImportRefusal κ) ImportOutcome)
    (importedAt : String) :
    Except String ProjectionReceipt := do
  let packet ← emittedPacket codec t outcome
  let digest ← emittedDigest codec packet
  checkEmitted outcome digest
  let emitted := packet.bind fun p => digest.map fun d => (p, d)
  ((receiptOf codec profile bytes outcome importedAt emitted).seal codec).mapError ("sealing projection receipt: " ++ ·)

/-! ## Its store -/

def receiptStoreDir : String := ".projection-receipts"

def receiptDir (store : Files.Path) : PathBuf := Files.join store receiptStoreDir

def receiptHex (r : ProjectionReceipt) : String := String.ofList (r.receiptId.toList.drop 7)

def receiptPath (store : Files.Path) (r : ProjectionReceipt) : PathBuf :=
  (receiptDir store).child (receiptHex r ++ ".projection-receipt.json")

def receiptTmp (c : Call) (r : ProjectionReceipt) : PathBuf :=
  (receiptDir c.store).child ("." ++ receiptHex r ++ "." ++ toString c.pid ++ "." ++ toString c.sequence ++ ".tmp")

def readExisting (t : Tree) (path : PathBuf) (expectedId : String) : Except String ProjectionReceipt := do
  let bytes ← (t.read path).mapError fun e => "reading existing " ++ path.display ++ ": " ++ e.text
  let receipt ← (codec.receiptFromSlice bytes).mapError fun e =>
    "existing " ++ path.display ++ " is not a strict receipt: " ++ e
  (receipt.validate codec).mapError fun e => "existing " ++ path.display ++ " is invalid: " ++ e
  Collections.rejectIf (receipt.receiptId ≠ expectedId) ("existing " ++ path.display ++ " has receipt_id " ++
    Receipts.debug codec.toCodec receipt.receiptId ++ ", expected " ++ Receipts.debug codec.toCodec expectedId)
  return receipt

/-- `if final_path.exists() { return read_existing(..) }` before what is next. -/
def unlessStored (c : Call) (r : ProjectionReceipt)
    (next : Tree → Tree × Except String (Option ProjectionReceipt)) (t : Tree) :
    Tree × Except String (Option ProjectionReceipt) :=
  if t.pathExists (receiptPath c.store r) then (t, (readExisting codec t (receiptPath c.store r) r.receiptId).map some)
    else next t

def writeReceipt (c : Call) (r : ProjectionReceipt) (t : Tree) : Tree × Except String (Option ProjectionReceipt) :=
  match codec.receiptToVecPretty r with
  | .error e => (t, .error ("serializing projection receipt: " ++ e))
  | .ok rendered =>
    match t.writeNew (receiptTmp c r) rendered with
    | .error e => (t, .error ("creating " ++ (receiptTmp c r).display ++ ": " ++ e.text))
    | .ok t => (t, .ok none)

def createReceiptDir (c : Call) (r : ProjectionReceipt) (t : Tree) : Tree × Except String (Option ProjectionReceipt) :=
  match t.createDirAll (receiptDir c.store) with
  | (t, .error e) => (t, .error ("creating " ++ (receiptDir c.store).display ++ ": " ++ e.text))
  | (t, .ok ()) => unlessStored codec c r (writeReceipt codec c r) t

/-- A receipt that is not in the store yet is validated and written to a temporary file. -/
def stageReceipt (t : Tree) (c : Call) (r : ProjectionReceipt) : Tree × Except String (Option ProjectionReceipt) :=
  match r.validate codec with
  | .error e => (t, .error ("refusing invalid receipt: " ++ e))
  | .ok () => unlessStored codec c r (createReceiptDir codec c r) t

/-- `fs::remove_file`, of which a failure is ignored. -/
def discard (t : Tree) (p : PathBuf) : Tree := ((t.removeFile p).toOption).getD t

/-- What comes of a link that was tried, once the temporary file is gone. -/
def linked (result : Except IoError Unit) (t : Tree) (c : Call)
    (r : ProjectionReceipt) : Except String ProjectionReceipt :=
  match result with
  | .ok () => .ok r
  | .error .alreadyExists => readExisting codec t (receiptPath c.store r) r.receiptId
  | .error e => .error ("publishing immutable " ++ (receiptPath c.store r).display ++ ": " ++ e.text)

/-- The temporary file is linked to the receipt's path, and removed. -/
def linkReceipt (t : Tree) (c : Call) (r : ProjectionReceipt) : Tree × Except String ProjectionReceipt :=
  match t.hardLink (receiptTmp c r) (receiptPath c.store r) with
  | .ok t => (discard t (receiptTmp c r), linked codec (.ok ()) (discard t (receiptTmp c r)) c r)
  | .error e => (discard t (receiptTmp c r), linked codec (.error e) (discard t (receiptTmp c r)) c r)

/-- `persist_projection_receipt`: the receipt that is in the store in the end. Its path is `receiptPath`. -/
def persistProjectionReceipt (t : Tree) (c : Call) (r : ProjectionReceipt) : Tree × Except String ProjectionReceipt :=
  match stageReceipt codec t c r with
  | (t, .error e) => (t, .error e)
  | (t, .ok (some existing)) => (t, .ok existing)
  | (t, .ok none) => linkReceipt codec t c r

/-! ## The entry points -/

structure ReceiptedImport (κ : Type) where
  outcome : Except (ImportRefusal κ) ImportOutcome
  receipt : ProjectionReceipt
  receiptPath : PathBuf

/-- The outcome with its receipt. -/
def receipted (outcome : Except (ImportRefusal κ) ImportOutcome)
    (t : Tree) (c : Call) : Tree × Except String (ReceiptedImport κ) :=
  match projectionReceipt codec profile t c.bytes outcome c.generatedAt with
  | .error e => (t, .error e)
  | .ok receipt =>
    match persistProjectionReceipt codec t c receipt with
    | (t, stored) => (t, stored.map fun stored => ⟨outcome, stored, receiptPath c.store receipt⟩)

def importWithReceipt (t : Tree) (c : Call) : Tree × Except String (ReceiptedImport κ) :=
  match importPacket os codec profile t c with
  | (t, outcome) => receipted codec profile outcome t c

/-- The outcome alone; a receipt that could not be stored is a refusal of the store. -/
def importOnly (t : Tree) (c : Call) : Tree × Except (ImportRefusal κ) ImportOutcome :=
  match importWithReceipt os codec profile t c with
  | (t, .ok imported) => (t, imported.outcome)
  | (t, .error e) => (t, .error (.store ("projection receipt store error: " ++ e)))

end

section

variable (os : Os) (codec : Codec) (source : List UInt8) (t : Tree) (c : Call)

def importDossierPacket : Tree × Except (ImportRefusal Nat) ImportOutcome := importPacket os codec (docket source) t c
def importDossierWithReceipt : Tree × Except String (ReceiptedImport Nat) :=
  importWithReceipt os codec (docket source) t c
def importDossier : Tree × Except (ImportRefusal Nat) ImportOutcome := importOnly os codec (docket source) t c
def importRecordPacket : Tree × Except (ImportRefusal String) ImportOutcome :=
  importPacket os codec (continuity source) t c
def importRecordWithReceipt : Tree × Except String (ReceiptedImport String) :=
  importWithReceipt os codec (continuity source) t c
def importRecord : Tree × Except (ImportRefusal String) ImportOutcome := importOnly os codec (continuity source) t c

end

/-! ## What a scan says -/

section

variable {κ δ : Type} {os : Os} {codec : Codec} {profile : Profile κ δ}

/-- A document that is accepted. -/
structure Accepts (codec : Codec) (profile : Profile κ δ) (bytes : List UInt8) (a : Accepted δ) : Prop where
  parsed : codec.fromSlice bytes = .ok a.value
  supported : profile.found a.value ∈ profile.supported
  decoded : profile.decode a.value = some a.doc
  checked : profile.check codec a.doc a.value = .ok ()
  core : coreConsistencyDigest codec profile a.value = .ok a.core

variable {value : Json} {a : Accepted δ} {bytes : List UInt8} {s : StoredSnapshot κ}

theorem probe_ok {u : Unit} : probe profile value = .ok u ↔ profile.found value ∈ profile.supported := by
  unfold probe
  split
  · exact ⟨fun _ => ‹_›, fun _ => rfl⟩
  · exact ⟨fun h => (nomatch h), fun h => absurd h ‹_›⟩

theorem fromValue_ok {doc : δ} : fromValue codec profile value = .ok doc ↔ profile.decode value = some doc := by
  unfold fromValue
  cases profile.decode value <;> simp

theorem accept_ok : accept codec profile bytes = .ok a ↔ Accepts codec profile bytes a := by
  unfold accept
  simp only [Sql.bind_ok, Sql.mapError_ok, exists_const, probe_ok, fromValue_ok]
  constructor
  · intro h
    obtain ⟨value, hparsed, hfound, doc, hdecoded, _, hchecked, core, hcore, e⟩ := h
    cases e
    exact ⟨hparsed, hfound, hdecoded, hchecked, hcore⟩
  · intro h
    exact ⟨a.value, h.parsed, h.supported, a.doc, h.decoded, (), h.checked, a.core, h.core, rfl⟩

theorem Accepts.unique {b : Accepted δ} (ha : Accepts codec profile bytes a) (hb : Accepts codec profile bytes b) :
    a = b :=
  Except.ok.inj ((accept_ok.mpr ha).symm.trans (accept_ok.mpr hb))

theorem readStore_absent {t : Tree} {dir : PathBuf} (h : t.readDir dir = .error .notFound) :
    readStore os codec profile t dir = .ok [] := by
  unfold readStore
  rw [h]

theorem store_ok {α : Type} {detail : String} {x : Except IoError α} {a : α} :
    (store detail x : Except (ImportRefusal κ) α) = .ok a ↔ x = .ok a := Sql.mapError_ok

theorem readSnapshot_ok {t : Tree} {path : PathBuf} : readSnapshot codec profile t path = .ok s ↔
    ∃ bytes packet, t.read path = .ok bytes ∧ codec.fromSlice bytes = .ok packet ∧
      profile.stored path.display packet = .ok (s.key, s.rawSourceDigest, s.coreConsistencyDigest) ∧ s.path = path := by
  unfold readSnapshot
  simp only [Sql.bind_ok, store_ok, Sql.mapError_ok]
  constructor
  · intro h
    obtain ⟨bytes, hread, packet, hparse, ⟨key, raw, core⟩, hstored, e⟩ := h
    cases e
    exact ⟨bytes, packet, hread, hparse, hstored, rfl⟩
  · intro h
    obtain ⟨bytes, packet, hread, hparse, hstored, e⟩ := h
    obtain ⟨path', key, raw, core⟩ := s
    subst e
    exact ⟨bytes, hread, packet, hparse, (key, raw, core), hstored, rfl⟩

/-- A store is read where its directory is missing, or where every packet in it can be. -/
theorem readStore_ok {t : Tree} {dir : PathBuf} {stored : List (StoredSnapshot κ)} :
    readStore os codec profile t dir = .ok stored ↔ (t.readDir dir = .error .notFound ∧ stored = []) ∨
      ∃ names, t.readDir dir = .ok names ∧
        List.Forall₂ (fun name s => readSnapshot codec profile t (dir.child name) =
          .ok s) ((os.order names).filter isJson) stored := by
  unfold readStore
  cases hdir : t.readDir dir with
  | ok names => simp [Collections.mapM_ok]
  | error e =>
    cases e with
    | notFound => simp [eq_comm]
    | notADirectory => simp
    | isADirectory => simp
    | alreadyExists => simp
    | invalidInput => simp

theorem readStore_mem {t : Tree} {dir : PathBuf} {stored : List (StoredSnapshot κ)}
    (h : readStore os codec profile t dir = .ok stored) (hs : s ∈ stored) :
    ∃ names name, t.readDir dir = .ok names ∧ name ∈ names ∧ isJson name = true ∧
      readSnapshot codec profile t (dir.child name) = .ok s := by
  rcases readStore_ok.mp h with ⟨_, e⟩ | ⟨names, hdir, hall⟩
  · rw [e] at hs
    exact absurd hs List.not_mem_nil
  · obtain ⟨name, hname, hread⟩ := Collections.exists_of_mem_right hall hs
    obtain ⟨hmem, hjson⟩ := List.mem_filter.mp hname
    exact ⟨names, name, hdir, (os.lists names name).mp hmem, hjson, hread⟩

/-- The directory of a document. -/
def Accepted.dir (profile : Profile κ δ) (a : Accepted δ) (c : Call) : PathBuf :=
  Files.join c.store (profile.directory a.doc)

variable [DecidableEq κ]

/-- What a scan that ends without a refusal has found: the bytes themselves, or no other core under the
    snapshot's key. -/
theorem scan_ok {t : Tree} {c : Call} {decision : Decision} : scan os codec profile t c = .ok decision ↔
    ∃ a stored, Accepts codec profile c.bytes a ∧ readStore os codec profile t (a.dir profile c) = .ok stored ∧
      ((∃ dup, stored.find? (·.rawSourceDigest = sha256Hex codec c.bytes) = some dup ∧
          decision = .duplicate dup.path (sha256Hex codec c.bytes)) ∨
        (stored.find? (·.rawSourceDigest = sha256Hex codec c.bytes) = none ∧
          stored.find? (fun s => s.key = profile.key a.doc ∧ s.coreConsistencyDigest ≠ a.core) = none ∧
          ∃ packet packetDigest, profile.build codec a.doc c.sourcePath (sha256Hex codec c.bytes) a.core c.generatedAt =
            .ok packet ∧ packet.digest codec.toCodec = .ok packetDigest ∧
            decision = .publish ⟨a.dir profile c, fileName profile a.doc (sha256Hex codec c.bytes), packet,
              packetDigest, sha256Hex codec c.bytes, a.core⟩)) := by
  unfold scan
  simp only [Sql.bind_ok, accept_ok]
  constructor
  · intro h
    obtain ⟨a, ha, stored, hstored, h⟩ := h
    refine ⟨a, stored, ha, hstored, ?_⟩
    cases hdup : stored.find? (·.rawSourceDigest = sha256Hex codec c.bytes) with
    | some dup =>
      rw [hdup] at h
      cases h
      exact Or.inl ⟨dup, rfl, rfl⟩
    | none =>
      rw [hdup] at h
      dsimp only at h
      cases hconflict : stored.find? (fun s => s.key = profile.key a.doc ∧ s.coreConsistencyDigest ≠ a.core) with
      | some conflict =>
        rw [hconflict] at h
        cases h
      | none =>
        rw [hconflict] at h
        obtain ⟨packet, hpacket, h⟩ := Sql.bind_ok.mp h
        obtain ⟨packetDigest, hdigest, h⟩ := Sql.bind_ok.mp h
        cases h
        exact Or.inr ⟨rfl, rfl, packet, packetDigest, hpacket, Sql.mapError_ok.mp hdigest, rfl⟩
  · intro h
    obtain ⟨a, stored, ha, hstored, h⟩ := h
    refine ⟨a, ha, stored, hstored, ?_⟩
    rcases h with ⟨dup, hdup, e⟩ | ⟨hnew, hsame, packet, packetDigest, hpacket, hdigest, e⟩
    · rw [hdup, e]
      rfl
    · rw [hnew]
      dsimp only
      rw [hsame, e]
      exact Sql.bind_ok.mpr ⟨packet, hpacket, Sql.bind_ok.mpr ⟨packetDigest, Sql.mapError_ok.mpr hdigest, rfl⟩⟩

end

end Nq.Projection
