/-
  Nq.Projection.Receipt — projection receipts (`nq-witness/src/projection_receipt.rs`).

  A receipt names the exact bytes of an import, the profile that read them and what came of it.
  Its identity is a digest of all of it but the identity itself and the time.
-/

import Nq.Projection.Decode

namespace Nq.Projection

open Inquiry (digestText isSha256Digest)
open Receipts (Json WitnessPacket)

/-! ## Receipts -/

inductive ProjectionSourceSystem where
  | docket | continuity
  deriving DecidableEq, Repr

inductive ProjectionMappingProfile where
  | docketDossier | continuityRecord
  deriving DecidableEq, Repr

inductive ProjectionContradictionStatus where
  | retained
  deriving DecidableEq, Repr

structure ProjectionReceiptSource where
  system : ProjectionSourceSystem
  schema : Option String
  snapshotIdentity : Option String
  rawDigest : String
  coreDigest : Option String
  recordRef : Option String
  deriving DecidableEq, Repr

structure ProjectionReceiptMapping where
  profile : ProjectionMappingProfile
  profileVersion : String
  deriving DecidableEq, Repr

structure ProjectionReceiptPacket where
  digest : String
  witnessType : String
  subject : String
  deriving DecidableEq, Repr

structure ProjectionReceiptSubstitution where
  existingCoreDigest : String
  presentedCoreDigest : String
  deriving DecidableEq, Repr

structure ProjectionReceiptReplay where
  outcome : String
  substitution : Option ProjectionReceiptSubstitution
  deriving DecidableEq, Repr

structure ProjectionReceipt where
  schema : String
  receiptId : String
  source : ProjectionReceiptSource
  mapping : ProjectionReceiptMapping
  custodyBasis : String
  packet : Option ProjectionReceiptPacket
  premisesAsCoverage : List String
  projectionLimits : List String
  replay : ProjectionReceiptReplay
  contradictionStatus : Option ProjectionContradictionStatus
  importedAt : String
  establishes : String
  doesNotEstablish : List String
  deriving DecidableEq, Repr

def projectionReceiptSchema : String := "nq.projection_receipt.v1"

def projectionReceiptEstablishes : String := "this import occurred, through this profile, with these digests and limits"

def projectionReceiptDoesNotEstablish : List String :=
  ["this receipt does not upgrade custody", "this receipt does not establish source truth",
    "this receipt does not establish admissibility", "this receipt is not a claim or claim evaluation",
    "this receipt does not establish or authorize reliance",
    "this receipt authorizes nothing and mints no authority or continuity"]

/-- What comes from elsewhere: reading and writing JSON, and the printer of RFC3339. -/
structure Codec extends Receipts.Codec where
  /-- `serde_json::from_slice` of a `Value`. -/
  fromSlice : List UInt8 → Except String Json
  /-- The text of a `serde_json::from_value` that fails. -/
  decodeError : Json → String
  /-- `serde_jcs::to_vec` of a `Value`. -/
  jcs : Json → Except String (List UInt8)
  packetToVecPretty : WitnessPacket → Except String (List UInt8)
  packetFromSlice : List UInt8 → Except String WitnessPacket
  /-- `from_unix_timestamp_nanos` and `format`. -/
  formatUnixNanos : Int → Option String
  receiptJcs : ProjectionReceipt → Except String (List UInt8)
  receiptToVecPretty : ProjectionReceipt → Except String (List UInt8)
  receiptFromSlice : List UInt8 → Except String ProjectionReceipt

def sha256Hex (codec : Codec) (bytes : List UInt8) : String := digestText (codec.sha256 bytes)

/-- Why an import was refused. Each source has its own type of these: a dossier has no rely code, and a
    record's premises are never missing. `κ` is what tells the snapshots of one directory apart. -/
inductive ImportRefusal (κ : Type) where
  | unsupportedSchema (found : String)
  | malformed (detail : String)
  | missingPremise (detail : String)
  | unknownRelyCode (code : String)
  | unenforceablePremise (detail : String)
  | snapshotSubstitution (name : String) (key : κ) (existingCoreDigest newCoreDigest : String)
  | store (detail : String)

/-! ## Identity -/

/-- What the identity covers. -/
def ProjectionReceipt.content (r : ProjectionReceipt) : ProjectionReceipt :=
  { r with receiptId := "", importedAt := "" }

def ProjectionReceipt.computeReceiptId (codec : Codec) (r : ProjectionReceipt) : Except String String :=
  match codec.receiptJcs r.content with
  | .error e => .error ("JCS canonicalization failed: " ++ e)
  | .ok bytes => .ok (sha256Hex codec bytes)

def ProjectionReceipt.seal (codec : Codec) (r : ProjectionReceipt) : Except String ProjectionReceipt :=
  (r.computeReceiptId codec).map fun id => { r with receiptId := id }

/-! ## Validation -/

def blank (s : String) : Bool := Text.trim s.toList = []

def validateDigest (value field : String) : Except String Unit :=
  Collections.rejectIf (!isSha256Digest value) (field ++ " must be sha256:<64 lowercase hexadecimal characters>")

def emptyField (field : String) (bad : Bool) : Except String Unit :=
  Collections.rejectIf bad (field ++ " must not be empty")

def nonblankEntries (field : String) (values : List String) : Except String Unit :=
  Receipts.eachIndexed (fun index value => emptyField (field ++ "[" ++ toString index ++ "]") (blank value)) 0 values

def projectionOutcomes : List String :=
  ["imported", "duplicate", "refused:unsupported_schema", "refused:malformed", "refused:missing_premise",
    "refused:unenforceable_premise", "refused:unknown_rely_code", "refused:snapshot_substitution", "refused:store"]

def ProjectionSourceSystem.expectedProfile : ProjectionSourceSystem → ProjectionMappingProfile
  | .docket => .docketDossier
  | .continuity => .continuityRecord

section

variable (codec : Codec) (r : ProjectionReceipt)

def ProjectionReceipt.refused : Bool := "refused:".toList.isPrefixOf r.replay.outcome.toList

def ProjectionReceipt.validateSource : Except String Unit := do
  validateDigest r.source.rawDigest "source.raw_digest"
  match r.source.coreDigest with
  | some digest => validateDigest digest "source.core_digest"
  | none => .ok ()
  emptyField "source.schema" (r.source.schema.any blank)
  emptyField "source.snapshot_identity" (r.source.snapshotIdentity.any blank)
  emptyField "source.record_ref" (r.source.recordRef.any blank)

def ProjectionReceipt.validateRefused : Except String Unit := do
  Collections.rejectIf r.packet.isSome "packet must be absent on refusal"
  Collections.rejectIf (!r.premisesAsCoverage.isEmpty || !r.projectionLimits.isEmpty)
    "premises_as_coverage and projection_limits must both be empty on refusal"

def ProjectionReceipt.validateAccepted : Except String Unit := do
  Collections.rejectIf (r.source.schema.isNone || r.source.snapshotIdentity.isNone || r.source.coreDigest.isNone ||
    r.source.recordRef.isNone) "successful imports require complete source binding"
  match r.packet with
  | none => .error "packet is required on imported/duplicate"
  | some packet => do
    validateDigest packet.digest "packet.digest"
    emptyField "packet.witness_type" (blank packet.witnessType)
    emptyField "packet.subject" (blank packet.subject)

def ProjectionReceipt.validateSubstitution : Except String Unit :=
  match r.replay.substitution with
  | some substitution =>
    if r.replay.outcome = "refused:snapshot_substitution" then do
      validateDigest substitution.existingCoreDigest "replay.substitution.existing_core_digest"
      validateDigest substitution.presentedCoreDigest "replay.substitution.presented_core_digest"
    else .error "replay.substitution is only valid for snapshot substitution"
  | none => Collections.rejectIf (r.replay.outcome = "refused:snapshot_substitution")
    "snapshot substitution requires replay.substitution"

/-- `validate`: passes, or fails with a text. -/
def ProjectionReceipt.validate : Except String Unit := do
  Collections.rejectIf (r.schema ≠ projectionReceiptSchema)
    ("unsupported schema " ++ Receipts.debug codec.toCodec r.schema ++ "; expected " ++
      Receipts.debug codec.toCodec projectionReceiptSchema)
  validateDigest r.receiptId "receipt_id"
  r.validateSource
  Collections.rejectIf (r.mapping.profile ≠ r.source.system.expectedProfile)
    "mapping.profile does not match source.system"
  validateDigest r.mapping.profileVersion "mapping.profile_version"
  Collections.rejectIf (r.custodyBasis ≠ Receipts.custodyBasisExternalProjection)
    ("custody_basis must be " ++ Receipts.debug codec.toCodec Receipts.custodyBasisExternalProjection)
  Collections.rejectIf (r.establishes ≠ projectionReceiptEstablishes) "establishes is not the fixed v1 statement"
  Collections.rejectIf (r.doesNotEstablish ≠ projectionReceiptDoesNotEstablish)
    "does_not_establish is not the fixed v1 nonclaim set"
  match codec.rfc3339 r.importedAt with
  | .ok _ => .ok ()
  | .error reason => .error ("imported_at is not RFC3339: " ++ reason)
  nonblankEntries "premises_as_coverage" r.premisesAsCoverage
  nonblankEntries "projection_limits" r.projectionLimits
  Collections.rejectIf (r.replay.outcome ∉ projectionOutcomes)
    ("replay.outcome is outside the v1 vocabulary: " ++ Receipts.debug codec.toCodec r.replay.outcome)
  if r.refused then r.validateRefused else r.validateAccepted
  r.validateSubstitution
  let computed ← (r.computeReceiptId codec).mapError ("computing receipt_id: " ++ ·)
  Collections.rejectIf (r.receiptId ≠ computed)
    ("receipt_id mismatch: stored " ++ Receipts.debug codec.toCodec r.receiptId ++ ", computed " ++
      Receipts.debug codec.toCodec computed)

end

end Nq.Projection
