/-
  Nq.Inquiry.Digest — texts, clocks and digests as the inquiry code uses them.

  `Env` holds what the repository takes from elsewhere: the Unicode tables behind `{:?}`, the
  parser and printer of RFC3339, JCS and SHA-256. JCS cannot fail on a value of integers, texts, enumerations
  and ordered sets, so neither can the digest of one (`digestJcs_plain`), and what is
  digested is always a canonical SHA-256 digest (`isSha256Digest_digestJcs`).
-/

import Nq.Inquiry.Artifacts
import Nq.Text.Find
import Nq.Text.Words

namespace Nq.Inquiry

/-- An instant that RFC3339 can write, in nanoseconds: one of the years 0000 to 9999. -/
structure DateTime where
  ns : Int
  printable : -62167219200000000000 ≤ ns ∧ ns ≤ 253402300799999999999
  deriving DecidableEq, Repr

structure Env where
  /-- How `{:?}` shows a character outside ASCII. -/
  escapeWide : Char → List Char
  /-- `OffsetDateTime::parse`: an instant, or the parser's error text. -/
  rfc3339 : String → Except String Int
  /-- `OffsetDateTime::format`. -/
  formatRfc3339 : DateTime → String
  /-- `serde_jcs::to_vec`. -/
  toVec : Artifact → Except String (List UInt8)
  sha256 : List UInt8 → Vector UInt8 32
  rfc3339_format : ∀ t, rfc3339 (formatRfc3339 t) = .ok t.ns
  toVec_plain : ∀ a, a.plain = true → ∃ bytes, toVec a = .ok bytes

def digestAlgorithmPrefix : String := "sha256:"

def hexByte (b : UInt8) : List Char := [Nat.digitChar (b.toNat / 16), Nat.digitChar (b.toNat % 16)]

/-- `hex::encode`. -/
def hexEncode (bytes : List UInt8) : List Char := bytes.flatMap hexByte

def isHexDigit (c : Char) : Bool := ('0' ≤ c && c ≤ '9') || ('a' ≤ c && c ≤ 'f')

def isSha256Digest (value : String) : Bool :=
  let p := digestAlgorithmPrefix.toList
  p.isPrefixOf value.toList && (value.toList.drop p.length).length == 64 && (value.toList.drop p.length).all isHexDigit

section

variable (env : Env)

def debug (s : String) : String := Text.debug env.escapeWide s

def requireNonempty (field value : String) : Except String Unit :=
  if Text.trim value.toList = [] then .error (field ++ " must not be empty") else .ok ()

def parseRfc3339 (field value : String) : Except String Int :=
  (env.rfc3339 value).mapError (field ++ " must be RFC3339: " ++ ·)

def digestText (hash : Vector UInt8 32) : String :=
  String.ofList (digestAlgorithmPrefix.toList ++ hexEncode hash.toList)

def digestJcs (a : Artifact) : Except String String :=
  match env.toVec a with
  | .error e => .error ("JCS canonicalization failed: " ++ e)
  | .ok bytes => .ok (digestText (env.sha256 bytes))

end

/-! ## Digests -/

open List

theorem length_hexEncode (bytes : List UInt8) : (hexEncode bytes).length = 2 * bytes.length := by
  induction bytes with
  | nil => rfl
  | cons b bytes ih =>
    show (hexByte b ++ hexEncode bytes).length = _
    rw [length_append, ih, length_cons]
    show 2 + _ = _
    omega

theorem isHexDigit_digitChar : ∀ n < 16, isHexDigit (Nat.digitChar n) = true := by decide

theorem isHexDigit_hexEncode {bytes : List UInt8} {c : Char} (h : c ∈ hexEncode bytes) : isHexDigit c = true := by
  obtain ⟨b, _, hc⟩ := mem_flatMap.mp h
  have hb : b.toNat < 256 := b.toNat_lt
  rcases mem_cons.mp hc with e | hc
  · rw [e]
    exact isHexDigit_digitChar _ (by omega)
  · rw [mem_singleton.mp hc]
    exact isHexDigit_digitChar _ (by omega)

theorem isSha256Digest_digestText (hash) : isSha256Digest (digestText hash) = true := by
  unfold isSha256Digest digestText
  rw [String.toList_ofList]
  simp only [drop_left, Bool.and_eq_true, beq_iff_eq, all_eq_true]
  refine ⟨⟨List.isPrefixOf_iff_prefix.mpr (prefix_append _ _), ?_⟩, fun c hc => isHexDigit_hexEncode hc⟩
  rw [length_hexEncode, Vector.length_toList]

variable {env : Env} {a : Artifact}

theorem isSha256Digest_digestJcs {d : String} (h : digestJcs env a = .ok d) : isSha256Digest d = true := by
  unfold digestJcs at h
  cases hb : env.toVec a with
  | error e => rw [hb] at h; cases h
  | ok bytes =>
    rw [hb] at h
    cases h
    exact isSha256Digest_digestText _

theorem digestJcs_plain (env : Env) (h : a.plain = true) : ∃ d, digestJcs env a = .ok d := by
  obtain ⟨bytes, hb⟩ := env.toVec_plain a h
  exact ⟨_, by unfold digestJcs; rw [hb]⟩

end Nq.Inquiry
