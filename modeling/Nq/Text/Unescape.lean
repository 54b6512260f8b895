/-
  Nq.Text.Unescape — texts that a lenient percent-decoder reads as bytes.

  A '%' with two bytes behind it starts an escape, in digits of either case or a sign and a
  digit; every other byte stands for itself (`Spells`). A text stands for one byte string
  (`Spells.unique`), a byte string for many texts, of which one is canonical
  (`Spells.canonical_iff`): that of the encoder, whose bytes are `escape`.
-/

import Nq.Text.Percent

namespace Nq.Text.Percent

open List

/-! ## Bytes of a text -/

def utf8 (s : List Char) : List UInt8 := s.flatMap String.utf8EncodeChar

variable {bytes text : List UInt8} {n : Nat} {a b v : UInt8} (s : String)

theorem utf8_toList : utf8 s.toList = s.toByteArray.data.toList := by
  rw [← String.utf8Encode_toList]
  exact toList_data_toByteArray.symm

theorem utf8_inj {a b : List Char} (h : utf8 a = utf8 b) : a = b := by
  have hbytes : (String.ofList a).toByteArray.data.toList = (String.ofList b).toByteArray.data.toList := by
    rw [← utf8_toList, ← utf8_toList, String.toList_ofList, String.toList_ofList, h]
  have hstring := String.toByteArray_inj.mp (ByteArray.ext (Array.toList_inj.mp hbytes))
  rw [← String.toList_ofList (l := a), ← String.toList_ofList (l := b), hstring]

/-- `String::from_utf8` -/
def fromUtf8 (bytes : List UInt8) : Option String := String.fromUTF8? ⟨bytes.toArray⟩

theorem fromUtf8_eq_some {s : String} : fromUtf8 bytes = some s ↔ utf8 s.toList = bytes := by
  unfold fromUtf8 String.fromUTF8?
  rw [utf8_toList]
  constructor
  · intro h
    split at h
    · cases h
      rfl
    · cases h
  · rintro rfl
    rw [dif_pos s.isValidUTF8]
    rfl

/-! ## Escapes -/

def hexByte (n : Nat) : UInt8 := UInt8.ofNat (if n < 10 then 48 + n else 55 + n)

/-- `char::to_digit(16)` -/
def digitValue (b : UInt8) : Option Nat :=
  if 48 ≤ b ∧ b ≤ 57 then some (b.toNat - 48)
  else if 65 ≤ b ∧ b ≤ 70 then some (b.toNat - 55)
  else if 97 ≤ b ∧ b ≤ 102 then some (b.toNat - 87)
  else none

/-- The two bytes behind a '%' stand for the byte. -/
def Escapes (a b v : UInt8) : Prop :=
  (a = 43 ∧ ∃ y, digitValue b = some y ∧ v = UInt8.ofNat y) ∨
    ∃ x y, digitValue a = some x ∧ digitValue b = some y ∧ v = UInt8.ofNat (16 * x + y)

/-- The text is read as the bytes. -/
inductive Spells : List UInt8 → List UInt8 → Prop
  | nil : Spells [] []
  | escaped {a b v : UInt8} {text bytes : List UInt8} (h : Escapes a b v) (rest : Spells text bytes) :
    Spells (37 :: a :: b :: text) (v :: bytes)
  | plain {c : UInt8} {text bytes : List UInt8} (h : c = 37 → text.length < 2) (rest : Spells text bytes) :
    Spells (c :: text) (c :: bytes)

/-- Unreserved bytes stand for themselves, and the others are escaped in upper case. -/
inductive Canonical : List UInt8 → Prop
  | nil : Canonical []
  | plain {c : UInt8} {text : List UInt8} (h : unreserved c = true) (rest : Canonical text) : Canonical (c :: text)
  | escaped {x y : Nat} {text : List UInt8} (hx : x < 16) (hy : y < 16)
      (h : unreserved (UInt8.ofNat (16 * x + y)) = false)
    (rest : Canonical text) : Canonical (37 :: hexByte x :: hexByte y :: text)

def escapeByte (b : UInt8) : List UInt8 :=
  if unreserved b then [b] else [37, hexByte (b.toNat / 16), hexByte (b.toNat % 16)]

/-- The bytes of the encoded text. -/
def escape (bytes : List UInt8) : List UInt8 := bytes.flatMap escapeByte

theorem digitValue_hexByte (h : n < 16) : digitValue (hexByte n) = some n := by
  have hall : ∀ n < 16, digitValue (hexByte n) = some n := by decide
  exact hall n h

theorem not_digit_plus : digitValue 43 = none := by decide

theorem digitValue_lt (h : digitValue b = some n) : n < 16 ∧ b.toNat < 128 := by
  unfold digitValue at h
  simp only [UInt8.le_iff_toNat_le, UInt8.reduceToNat] at h
  split_ifs at h with h1 h2 h3
  all_goals
    cases h
    omega

/-- The bytes of an escape are characters of their own. -/
theorem Escapes.ascii (h : Escapes a b v) : a.toNat < 128 ∧ b.toNat < 128 := by
  rcases h with ⟨rfl, y, hy, _⟩ | ⟨x, y, hx, hy, _⟩
  · exact ⟨by decide, (digitValue_lt hy).2⟩
  · exact ⟨(digitValue_lt hx).2, (digitValue_lt hy).2⟩

theorem Escapes.unique {w : UInt8} (hv : Escapes a b v) (hw : Escapes a b w) : v = w := by
  rcases hv with ⟨rfl, y, hy, rfl⟩ | ⟨x, y, hx, hy, rfl⟩
  · rcases hw with ⟨_, y', hy', rfl⟩ | ⟨x', _, hx', _⟩
    · rw [Option.some.inj (hy.symm.trans hy')]
    · rw [not_digit_plus] at hx'
      cases hx'
  · rcases hw with ⟨rfl, _⟩ | ⟨x', y', hx', hy', rfl⟩
    · rw [not_digit_plus] at hx
      cases hx
    · rw [Option.some.inj (hx.symm.trans hx'), Option.some.inj (hy.symm.trans hy')]

theorem Spells.unique {a : List UInt8} (ha : Spells text a) : ∀ {b}, Spells text b → a = b := by
  induction ha with
  | nil =>
    intro b hb
    cases hb
    rfl
  | escaped h _ ih =>
    intro b hb
    cases hb with
    | escaped h' rest => rw [h.unique h', ih rest]
    | plain h' rest => exact absurd (h' rfl) (by simp)
  | plain h _ ih =>
    intro b hb
    cases hb with
    | escaped h' rest => exact absurd (h rfl) (by simp)
    | plain h' rest => rw [ih rest]

/-! ## The canonical text -/

theorem not_percent (h : unreserved b = true) : b ≠ 37 := by
  rintro rfl
  exact absurd h (by decide)

theorem ofNat_nibbles (b : UInt8) : UInt8.ofNat (16 * (b.toNat / 16) + b.toNat % 16) = b := by
  rw [Nat.div_add_mod]
  exact UInt8.ofNat_toNat

theorem spells_escapeByte (b : UInt8) (h : Spells text bytes) : Spells (escapeByte b ++ text) (b :: bytes) := by
  have hlt := UInt8.toNat_lt b
  unfold escapeByte
  split
  next hb => exact .plain (fun hp => absurd hp (not_percent hb)) h
  next =>
    refine .escaped (.inr ⟨_, _, digitValue_hexByte (by omega), digitValue_hexByte (by omega), ?_⟩) h
    exact (ofNat_nibbles b).symm

theorem spells_escape (bytes : List UInt8) : Spells (escape bytes) bytes := by
  induction bytes with
  | nil => exact .nil
  | cons b bytes ih => exact spells_escapeByte b ih

theorem canonical_escape (bytes : List UInt8) : Canonical (escape bytes) := by
  induction bytes with
  | nil => exact .nil
  | cons b bytes ih =>
    have hlt := UInt8.toNat_lt b
    show Canonical (escapeByte b ++ escape bytes)
    unfold escapeByte
    split
    next hb => exact .plain hb ih
    next hb =>
      refine .escaped (by omega) (by omega) ?_ ih
      rw [ofNat_nibbles]
      exact eq_false_of_ne_true hb

theorem escapeByte_nibbles {x y : Nat} (hx : x < 16) (hy : y < 16) (h : unreserved (UInt8.ofNat (16 * x + y)) = false) :
    escapeByte (UInt8.ofNat (16 * x + y)) = [37, hexByte x, hexByte y] := by
  have hnat : (UInt8.ofNat (16 * x + y)).toNat = 16 * x + y :=
    UInt8.toNat_ofNat_of_lt' (by show 16 * x + y < 256; omega)
  unfold escapeByte
  rw [h, hnat, show (16 * x + y) / 16 = x by omega, show (16 * x + y) % 16 = y by omega]
  rfl

theorem Canonical.eq_escape (hc : Canonical text) : ∀ {bytes}, Spells text bytes → text = escape bytes := by
  induction hc with
  | nil =>
    intro bytes h
    cases h
    rfl
  | @plain c text hc _ ih =>
    intro bytes h
    cases h with
    | escaped => exact absurd hc (by decide)
    | @plain _ _ bytes _ rest =>
      show c :: text = escapeByte c ++ escape bytes
      unfold escapeByte
      rw [if_pos hc, ← ih rest]
      rfl
  | @escaped x y text hx hy hc _ ih =>
    intro bytes h
    cases h with
    | @escaped _ _ v _ bytes h rest =>
      have hv : v = UInt8.ofNat (16 * x + y) :=
        h.unique (.inr ⟨x, y, digitValue_hexByte hx, digitValue_hexByte hy, rfl⟩)
      show _ = escapeByte v ++ escape bytes
      rw [hv, escapeByte_nibbles hx hy hc, ← ih rest]
      rfl
    | plain h => exact absurd (h rfl) (by simp)

/-- Of the texts that stand for the bytes the encoder's is canonical. -/
theorem Spells.canonical_iff (h : Spells text bytes) : Canonical text ↔ text = escape bytes := by
  constructor
  · intro hc
    exact hc.eq_escape h
  · rintro rfl
    exact canonical_escape bytes

theorem utf8_ascii (h : n < 128) : String.utf8EncodeChar (Char.ofNat n) = [UInt8.ofNat n] := by
  have hval : (Char.ofNat n).val.toNat = n := toNat_ofNat h
  have hsize : (Char.ofNat n).utf8Size = 1 := by
    rw [Char.utf8Size_eq_one_iff, UInt32.le_iff_toNat_le, hval]
    show n ≤ 127
    omega
  rw [String.utf8EncodeChar_eq_singleton hsize]
  refine congrArg (fun b => [b]) (UInt8.toNat_inj.mp ?_)
  rw [UInt32.toNat_toUInt8, hval, UInt8.toNat_ofNat_of_lt' (by show n < 256; omega)]
  exact Nat.mod_eq_of_lt (by omega)

theorem utf8_encodeByte (b : UInt8) : utf8 (encodeByte b) = escapeByte b := by
  have hlt := UInt8.toNat_lt b
  have hhex : ∀ n < 16, String.utf8EncodeChar (hexDigit n) = [hexByte n] := by
    intro n hn
    exact utf8_ascii (by split <;> omega)
  unfold encodeByte escapeByte utf8
  split
  next hb =>
    rw [flatMap_singleton, utf8_ascii (unreserved_lt hb).1]
    exact congrArg (fun b => [b]) UInt8.ofNat_toNat
  next =>
    rw [flatMap_cons, flatMap_cons, flatMap_singleton, hhex _ (by omega), hhex _ (by omega)]
    rfl

theorem utf8_encodeBytes (bytes : List UInt8) : utf8 (encodeBytes bytes) = escape bytes := by
  induction bytes with
  | nil => rfl
  | cons b bytes ih =>
    have happend : utf8 (encodeByte b ++ encodeBytes bytes) = utf8 (encodeByte b) ++ utf8 (encodeBytes bytes) :=
      flatMap_append
    show utf8 (encodeByte b ++ encodeBytes bytes) = escapeByte b ++ escape bytes
    rw [happend, utf8_encodeByte, ih]

theorem utf8_encode : utf8 (encode s) = escape (utf8 s.toList) := by
  unfold encode
  rw [utf8_encodeBytes, utf8_toList]

end Nq.Text.Percent
