/-
  Nq.Text.Canonical — canonical JSON texts (JCS) and SHA-256, as concrete functions.

  What the code digests is rendered with `object`, `array` and `quoted`; object keys are
  ASCII, so the order of code points is the order JCS asks for.
-/

import Mathlib.Algebra.GroupWithZero.Nat
import Nq.Collections.Ordered

namespace Nq.Text

open Collections (sort)

/-! ## Canonical JSON -/

def escapeJson (c : Char) : List Char :=
  if c = '"' ∨ c = '\\' then ['\\', c]
  else if c = '\x08' then ['\\', 'b']
  else if c = '\t' then ['\\', 't']
  else if c = '\n' then ['\\', 'n']
  else if c = '\x0c' then ['\\', 'f']
  else if c = '\r' then ['\\', 'r']
  else if c.toNat < 0x20 then ['\\', 'u', '0', '0', Nat.digitChar (c.toNat / 16), Nat.digitChar (c.toNat % 16)]
  else [c]

def quoted (s : String) : String := String.ofList (['"'] ++ s.toList.flatMap escapeJson ++ ['"'])

def array (items : List String) : String := "[" ++ ",".intercalate items ++ "]"

/-- The fields that are there, in the order of their keys. -/
def object (fields : List (String × Option String)) : String :=
  let present := fields.filterMap fun (key, value) => value.map (key, ·)
  "\x7b" ++ ",".intercalate ((present.insertionSort fun a b => a.1 ≤ b.1).map fun (key, value) => quoted key ++ ":" ++
    value) ++ "\x7d"

def bytes (s : String) : List UInt8 := s.toUTF8.data.toList

theorem bytes_injective : Function.Injective bytes := by
  intro s t h
  have hutf : s.toUTF8 = t.toUTF8 := ByteArray.ext (Array.toList_inj.mp h)
  exact String.toByteArray_inj.mp hutf

/-! ## SHA-256 -/

def roundConstants : List UInt32 :=
  [0x428a2f98, 0x71374491, 0xb5c0fbcf, 0xe9b5dba5, 0x3956c25b, 0x59f111f1, 0x923f82a4, 0xab1c5ed5,
    0xd807aa98, 0x12835b01, 0x243185be, 0x550c7dc3, 0x72be5d74, 0x80deb1fe, 0x9bdc06a7, 0xc19bf174,
    0xe49b69c1, 0xefbe4786, 0x0fc19dc6, 0x240ca1cc, 0x2de92c6f, 0x4a7484aa, 0x5cb0a9dc, 0x76f988da,
    0x983e5152, 0xa831c66d, 0xb00327c8, 0xbf597fc7, 0xc6e00bf3, 0xd5a79147, 0x06ca6351, 0x14292967,
    0x27b70a85, 0x2e1b2138, 0x4d2c6dfc, 0x53380d13, 0x650a7354, 0x766a0abb, 0x81c2c92e, 0x92722c85,
    0xa2bfe8a1, 0xa81a664b, 0xc24b8b70, 0xc76c51a3, 0xd192e819, 0xd6990624, 0xf40e3585, 0x106aa070,
    0x19a4c116, 0x1e376c08, 0x2748774c, 0x34b0bcb5, 0x391c0cb3, 0x4ed8aa4a, 0x5b9cca4f, 0x682e6ff3,
    0x748f82ee, 0x78a5636f, 0x84c87814, 0x8cc70208, 0x90befffa, 0xa4506ceb, 0xbef9a3f7, 0xc67178f2]

structure Digest where
  a : UInt32
  b : UInt32
  c : UInt32
  d : UInt32
  e : UInt32
  f : UInt32
  g : UInt32
  h : UInt32

def initialDigest : Digest :=
  ⟨0x6a09e667, 0xbb67ae85, 0x3c6ef372, 0xa54ff53a, 0x510e527f, 0x9b05688c, 0x1f83d9ab, 0x5be0cd19⟩

def rotr (x n : UInt32) : UInt32 := (x >>> n) ||| (x <<< (32 - n))

/-- The next `n` words of a schedule, of which the last 16 are given, newest first. -/
def extend : Nat → List UInt32 → List UInt32
  | 0, ws => ws
  | n + 1, ws =>
    let w (i : Nat) := ws.getD (i - 1) 0
    let s₀ := rotr (w 15) 7 ^^^ rotr (w 15) 18 ^^^ (w 15 >>> 3)
    let s₁ := rotr (w 2) 17 ^^^ rotr (w 2) 19 ^^^ (w 2 >>> 10)
    extend n ((w 16 + s₀ + w 7 + s₁) :: ws)

def round (s : Digest) (kw : UInt32 × UInt32) : Digest :=
  let s₁ := rotr s.e 6 ^^^ rotr s.e 11 ^^^ rotr s.e 25
  let choice := (s.e &&& s.f) ^^^ ((~~~s.e) &&& s.g)
  let t₁ := s.h + s₁ + choice + kw.1 + kw.2
  let s₀ := rotr s.a 2 ^^^ rotr s.a 13 ^^^ rotr s.a 22
  let majority := (s.a &&& s.b) ^^^ (s.a &&& s.c) ^^^ (s.b &&& s.c)
  ⟨t₁ + s₀ + majority, s.a, s.b, s.c, s.d + t₁, s.e, s.f, s.g⟩

def compress (s : Digest) (block : List UInt32) : Digest :=
  let t := (roundConstants.zip (extend 48 block.reverse).reverse).foldl round s
  ⟨s.a + t.a, s.b + t.b, s.c + t.c, s.d + t.d, s.e + t.e, s.f + t.f, s.g + t.g, s.h + t.h⟩

def pad (message : List UInt8) : List UInt8 :=
  message ++ [0x80] ++ List.replicate ((119 - message.length % 64) % 64) 0 ++
    (List.range 8).map fun i => UInt8.ofNat (8 * message.length / 256 ^ (7 - i))

def words : List UInt8 → List UInt32
  | a :: b :: c :: d :: rest =>
      UInt32.ofNat (a.toNat * 2 ^ 24 + b.toNat * 2 ^ 16 + c.toNat * 2 ^ 8 + d.toNat) :: words rest
  | _ => []

def blocks (n : Nat) (s : Digest) (ws : List UInt32) : Digest :=
  match n with
  | 0 => s
  | n + 1 => blocks n (compress s (ws.take 16)) (ws.drop 16)

def Digest.toBytes (s : Digest) : List UInt8 :=
  [s.a, s.b, s.c, s.d, s.e, s.f, s.g, s.h].flatMap fun w => (List.range 4).map fun i =>
    UInt8.ofNat (w.toNat / 256 ^ (3 - i))

def sha256 (message : List UInt8) : Vector UInt8 32 :=
  let ws := words (pad message)
  let digest := (blocks (ws.length / 16) initialDigest ws).toBytes
  Vector.ofFn fun i => digest.getD i 0

end Nq.Text
