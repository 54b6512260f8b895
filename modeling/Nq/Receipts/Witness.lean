/-
  Nq.Receipts.Witness — witness packets (`nq-witness/src/witness.rs`, `nq-witness/src/digest.rs`).

  A packet reports observations, which are JSON of any shape but for the keys `claim` and
  `supports`. Its digest is taken over all of it; JCS writes an integer and a double of one
  value alike, so two packets that differ there share a digest.
-/

import Nq.Inquiry.Digest
import Nq.Reliance.Receipt
import Nq.Sql.Real

namespace Nq.Receipts

open Inquiry (digestText)
open Text (object array quoted)

/-! ## JSON -/

/-- `serde_json::Number`: an integer of 64 bits, signed or not, or a double. -/
inductive Number where
  | int (n : Int)
  | float (x : Sql.F64)
  deriving DecidableEq

/-- `serde_json::Value`. -/
inductive Json where
  | null
  | bool (b : Bool)
  | number (n : Number)
  | string (s : String)
  | array (items : List Json)
  | object (fields : List (String × Json))

def Number.asI64 : Number → Option Int
  | .int n => if -2 ^ 63 ≤ n ∧ n < 2 ^ 63 then some n else none
  | .float _ => none

namespace Json

def asObject : Json → Option (List (String × Json))
  | .object fields => some fields
  | _ => none

def asStr : Json → Option String
  | .string s => some s
  | _ => none

def asBool : Json → Option Bool
  | .bool b => some b
  | _ => none

def asI64 : Json → Option Int
  | .number n => n.asI64
  | _ => none

def field (fields : List (String × Json)) (key : String) : Option Json := (fields.find? (·.1 = key)).map (·.2)

/-- `Value::get` with a text: a field of an object. -/
def get (v : Json) (key : String) : Option Json := v.asObject.bind (field · key)

end Json

/-! ## Packets -/

inductive WitnessPosition where
  | substrate | applicationInternal | platform
  deriving DecidableEq, Repr

structure WitnessPacket where
  schema : String
  witnessType : String
  subject : String
  accessPath : String
  observedAt : String
  generatedAt : String
  observations : List Json
  coverageLimits : List String
  dependencies : List String
  custodyBasis : Option String
  sourceFindingRef : Option String
  projectionLimits : List String
  position : Option WitnessPosition

def witnessSchema : String := "nq.witness.v1"
def custodyBasisNative : String := "native_observation"
def custodyBasisLegacyProjection : String := "legacy_projection"
def custodyBasisExternalProjection : String := "external_projection"
def projectionLimitNativeWitnessCustody : String := "native_witness_custody"

/-- What comes from elsewhere: `{:?}` outside ASCII, the parser of RFC3339, JCS and SHA-256. -/
structure Codec where
  escapeWide : Char → List Char
  /-- An instant in nanoseconds, or the parser's error text. -/
  rfc3339 : String → Except String Int
  packetToVec : WitnessPacket → Except String (List UInt8)
  receiptToVec : Reliance.Receipt → Except String (List UInt8)
  sha256 : List UInt8 → Vector UInt8 32

section

variable (codec : Codec)

def debug (s : String) : String := Text.debug codec.escapeWide s

def Codec.hashing : Reliance.Hashing := ⟨codec.receiptToVec, codec.sha256⟩

def requireNonempty (field value : String) : Except String Unit :=
  Collections.rejectIf (Text.trim value.toList = []) ("field " ++ field ++ " must not be empty")

def parseRfc3339 (value field : String) : Except String Unit :=
  match codec.rfc3339 value with
  | .ok _ => .ok ()
  | .error reason => .error ("field " ++ field ++ ": invalid RFC3339 timestamp " ++ debug codec value ++ " (" ++
      reason ++ ")")

def checkObservation (index : Nat) (observation : Json) : Except String Unit :=
  match observation.asObject with
  | none => .ok ()
  | some fields =>
    let names (key : String) : Except String Unit := Collections.rejectIf (Json.field fields key).isSome
      ("observations[" ++ toString index ++ "] declares a " ++ debug codec key ++
        " key; witnesses report observations, not claims")
    do
      names "claim"
      names "supports"

/-- A loop of checks over a list and its indices. -/
def eachIndexed {α : Type} (check : Nat → α → Except String Unit) (index : Nat) : List α → Except String Unit
  | [] => .ok ()
  | a :: rest => do
    check index a
    eachIndexed check (index + 1) rest

def WitnessPacket.validateNative (p : WitnessPacket) : Except String Unit := do
  Collections.rejectIf p.sourceFindingRef.isSome ("source_finding_ref is set without a projection custody_basis; " ++
    "native packets must not name a projection source")
  Collections.rejectIf (p.projectionLimits ≠ [])
    ("projection_limits is non-empty without a projection custody_basis; " ++
    "native packets must not carry projection limits")

def WitnessPacket.validateProjection (p : WitnessPacket) (basis : String) : Except String Unit := do
  Collections.rejectIf (Text.trim (p.sourceFindingRef.getD "").toList = [])
    ("custody_basis == " ++ debug codec basis ++ " requires a non-empty source_finding_ref")
  Collections.rejectIf (p.projectionLimits = [])
    ("custody_basis == " ++ debug codec basis ++ " requires non-empty projection_limits")
  eachIndexed (fun index limit => Collections.rejectIf (Text.trim limit.toList = [])
    ("projection_limits[" ++ toString index ++ "] is empty")) 0 p.projectionLimits
  Collections.rejectIf (projectionLimitNativeWitnessCustody ∉ p.projectionLimits)
    ("projection_limits on a projection packet must include " ++ debug codec projectionLimitNativeWitnessCustody)

def WitnessPacket.validateCustody (p : WitnessPacket) : Except String Unit :=
  match p.custodyBasis with
  | none => p.validateNative
  | some basis =>
    if basis = custodyBasisNative then p.validateNative
    else if basis = custodyBasisLegacyProjection ∨ basis = custodyBasisExternalProjection then
      p.validateProjection codec basis
    else .error ("custody_basis must be " ++ debug codec custodyBasisNative ++ ", " ++
      debug codec custodyBasisLegacyProjection ++
      ", or " ++ debug codec custodyBasisExternalProjection ++ ", got " ++ debug codec basis)

/-- `validate`: passes, or fails with a text. -/
def WitnessPacket.validate (p : WitnessPacket) : Except String Unit := do
  Collections.rejectIf (p.schema ≠ witnessSchema)
    ("schema must be " ++ debug codec witnessSchema ++ ", got " ++ debug codec p.schema)
  requireNonempty "witness_type" p.witnessType
  requireNonempty "subject" p.subject
  requireNonempty "access_path" p.accessPath
  requireNonempty "observed_at" p.observedAt
  requireNonempty "generated_at" p.generatedAt
  parseRfc3339 codec p.observedAt "observed_at"
  parseRfc3339 codec p.generatedAt "generated_at"
  eachIndexed (checkObservation codec) 0 p.observations
  p.validateCustody codec

def WitnessPacket.digest (p : WitnessPacket) : Except String String :=
  match codec.packetToVec p with
  | .error e => .error ("JCS canonicalization failed: " ++ e)
  | .ok bytes => .ok (digestText (codec.sha256 bytes))

end

/-! ## Serde forms -/

/-- Integers as JCS writes them, and the doubles that are integers. -/
def Number.toJcs : Number → String
  | .int n => toString n
  | .float (.fin q) => toString q.num
  | .float _ => "null"

mutual

def Json.toJcs : Json → String
  | .null => "null"
  | .bool b => if b then "true" else "false"
  | .number n => n.toJcs
  | .string s => quoted s
  | .array items => Text.array (Json.itemsToJcs items)
  | .object fields => Text.object (Json.fieldsToJcs fields)

def Json.itemsToJcs : List Json → List String
  | [] => []
  | v :: rest => v.toJcs :: Json.itemsToJcs rest

def Json.fieldsToJcs : List (String × Json) → List (String × Option String)
  | [] => []
  | (key, v) :: rest => (key, some v.toJcs) :: Json.fieldsToJcs rest

end

def WitnessPosition.asStr : WitnessPosition → String
  | .substrate => "substrate"
  | .applicationInternal => "application_internal"
  | .platform => "platform"

def WitnessPacket.toJcs (p : WitnessPacket) : String :=
  Text.object [("schema", some (quoted p.schema)), ("witness_type", some (quoted p.witnessType)),
    ("subject", some (quoted p.subject)),
    ("access_path", some (quoted p.accessPath)), ("observed_at", some (quoted p.observedAt)),
    ("generated_at", some (quoted p.generatedAt)), ("observations", some (Text.array (p.observations.map Json.toJcs))),
    ("coverage_limits", some (Text.array (p.coverageLimits.map quoted))),
    ("dependencies", some (Text.array (p.dependencies.map quoted))), ("custody_basis", p.custodyBasis.map quoted),
    ("source_finding_ref", p.sourceFindingRef.map quoted),
    ("projection_limits", if p.projectionLimits.isEmpty then none
      else some (Text.array (p.projectionLimits.map quoted))),
    ("position", p.position.map (quoted ·.asStr))]

/-- A codec that is computed; it reads one instant. -/
def sampleCodec : Codec where
  escapeWide := fun c => [c]
  rfc3339 := fun s => if s = "2026-05-15T14:00:00Z" then .ok 1778853600000000000
    else .error "the 'year' component could not be parsed"
  packetToVec := fun p => .ok (Text.bytes p.toJcs)
  receiptToVec := fun r => .ok (Text.bytes r.toJcs)
  sha256 := Text.sha256

end Nq.Receipts
