/-
  Nq.Dns.Message — the wire format of DNS messages.

  A name is a list of labels that ends at the root or in a compression pointer; what a
  pointer points to is not followed. Names, records and the opening of a message (its
  header and its one question) end by themselves: `delimited_name`, `delimited_record`,
  `delimited_opening`.
-/

import Nq.Codes.Delimited

namespace Nq.Dns

open Codes
open List

abbrev Bytes := List UInt8

/-! ## Numbers -/

def be16 (x : UInt16) : Bytes := [UInt8.ofNat (x.toNat / 256), UInt8.ofNat (x.toNat % 256)]

/-- `u16::from_be_bytes` -/
def u16 (a b : UInt8) : UInt16 := UInt16.ofNat (a.toNat * 256 + b.toNat)

def be32 (x : UInt32) : Bytes :=
  [UInt8.ofNat (x.toNat / 16777216), UInt8.ofNat (x.toNat / 65536 % 256), UInt8.ofNat (x.toNat / 256 % 256),
    UInt8.ofNat (x.toNat % 256)]

/-- `u32::from_be_bytes` -/
def u32 (a b c d : UInt8) : UInt32 :=
  UInt32.ofNat (a.toNat * 16777216 + b.toNat * 65536 + c.toNat * 256 + d.toNat)

variable {n : Nat} (a b c d : UInt8)

theorem toNat_u16 : (u16 a b).toNat = a.toNat * 256 + b.toNat := by
  have ha := a.toNat_lt
  have hb := b.toNat_lt
  exact UInt16.toNat_ofNat_of_lt' (by show _ < 65536; omega)

theorem toNat_u32 : (u32 a b c d).toNat = a.toNat * 16777216 + b.toNat * 65536 + c.toNat * 256 + d.toNat := by
  have ha := a.toNat_lt
  have hb := b.toNat_lt
  have hc := c.toNat_lt
  have hd := d.toNat_lt
  exact UInt32.toNat_ofNat_of_lt' (by show _ < 4294967296; omega)

theorem toNat_byte (h : n < 256) : (UInt8.ofNat n).toNat = n := UInt8.toNat_ofNat_of_lt' h

theorem ofNat_eq {b : UInt8} (h : b.toNat = n) : UInt8.ofNat n = b := by rw [← h, UInt8.ofNat_toNat]

theorem be16_u16 : be16 (u16 a b) = [a, b] := by
  have hb := b.toNat_lt
  unfold be16
  rw [toNat_u16, ofNat_eq (b := a) (by omega), ofNat_eq (b := b) (by omega)]

theorem be32_u32 : be32 (u32 a b c d) = [a, b, c, d] := by
  have hb := b.toNat_lt
  have hc := c.toNat_lt
  have hd := d.toNat_lt
  unfold be32
  rw [toNat_u32, ofNat_eq (b := a) (by omega), ofNat_eq (b := b) (by omega), ofNat_eq (b := c) (by omega),
    ofNat_eq (b := d) (by omega)]

theorem u16_be16 (x : UInt16) : u16 (UInt8.ofNat (x.toNat / 256)) (UInt8.ofNat (x.toNat % 256)) = x := by
  have hx := x.toNat_lt
  have hx : x.toNat < 65536 := hx
  rw [← UInt16.toNat_inj, toNat_u16, toNat_byte (by omega), toNat_byte (by omega)]
  omega

theorem u32_be32 (x : UInt32) : u32 (UInt8.ofNat (x.toNat / 16777216)) (UInt8.ofNat (x.toNat / 65536 % 256))
    (UInt8.ofNat (x.toNat / 256 % 256)) (UInt8.ofNat (x.toNat % 256)) = x := by
  have hx : x.toNat < 4294967296 := x.toNat_lt
  rw [← UInt32.toNat_inj, toNat_u32, toNat_byte (by omega), toNat_byte (by omega), toNat_byte (by omega),
    toNat_byte (by omega)]
  omega

theorem delimited_be16 : Delimited be16 := by
  refine delimited_of_length (n := 2) (fun _ => rfl) fun x y h => ?_
  injection h with h₁ h
  injection h with h₂ _
  rw [← u16_be16 x, ← u16_be16 y, h₁, h₂]

theorem delimited_be32 : Delimited be32 := by
  refine delimited_of_length (n := 4) (fun _ => rfl) fun x y h => ?_
  injection h with h₁ h
  injection h with h₂ h
  injection h with h₃ h
  injection h with h₄ _
  rw [← u32_be32 x, ← u32_be32 y, h₁, h₂, h₃, h₄]

/-! ## Names -/

structure Label where
  bytes : Bytes
  nonempty : 0 < bytes.length
  short : bytes.length < 64
  deriving DecidableEq

inductive NameEnd where
  | root
  | pointer (offset : Fin 16384)
  deriving DecidableEq

structure Name where
  labels : List Label
  tail : NameEnd
  deriving DecidableEq

def Label.encode (l : Label) : Bytes := UInt8.ofNat l.bytes.length :: l.bytes

def NameEnd.encode : NameEnd → Bytes
  | .root => [0]
  | .pointer offset => [UInt8.ofNat (192 + offset.val / 256), UInt8.ofNat (offset.val % 256)]

def Name.encode (n : Name) : Bytes := n.labels.flatMap Label.encode ++ n.tail.encode

variable (l : Label)

/-- What the first byte of a label is. -/
theorem Label.head : 0 < (UInt8.ofNat l.bytes.length).toNat ∧ (UInt8.ofNat l.bytes.length).toNat < 64 := by
  rw [toNat_byte (by have := l.short; omega)]
  exact ⟨l.nonempty, l.short⟩

theorem delimited_label : Delimited Label.encode := by
  intro a b r s h
  simp only [Label.encode, cons_append, List.cons.injEq] at h
  have hlen : a.bytes.length = b.bytes.length := by
    have := congrArg UInt8.toNat h.1
    rwa [toNat_byte (by have := a.short; omega), toNat_byte (by have := b.short; omega)] at this
  obtain ⟨hbytes, hrest⟩ := append_inj h.2 hlen
  obtain ⟨_, _, _⟩ := a
  obtain ⟨_, _, _⟩ := b
  cases hbytes
  exact ⟨rfl, hrest⟩

theorem delimited_nameEnd : Delimited NameEnd.encode := by
  intro a b r s h
  cases a with
  | root =>
    cases b with
    | root => exact ⟨rfl, by simpa [NameEnd.encode] using h⟩
    | pointer y =>
      simp only [NameEnd.encode, cons_append, nil_append, List.cons.injEq] at h
      have := congrArg UInt8.toNat h.1
      rw [toNat_byte (by omega)] at this
      exact absurd this (by show ¬ 0 = _; omega)
  | pointer x =>
    cases b with
    | root =>
      simp only [NameEnd.encode, cons_append, nil_append, List.cons.injEq] at h
      have := congrArg UInt8.toNat h.1
      rw [toNat_byte (by omega)] at this
      exact absurd this (by show ¬ _ = 0; omega)
    | pointer y =>
      simp only [NameEnd.encode, cons_append, nil_append, List.cons.injEq] at h
      have h₁ := congrArg UInt8.toNat h.1
      have h₂ := congrArg UInt8.toNat h.2.1
      rw [toNat_byte (by omega), toNat_byte (by omega)] at h₁ h₂
      exact ⟨by rw [show x = y from Fin.ext (by omega)], h.2.2⟩

/-- A label and the end of a name start with different bytes. -/
theorem label_ne_end (e : NameEnd) (r s : Bytes) : l.encode ++ r ≠ e.encode ++ s := by
  intro h
  have hl := l.head
  cases e with
  | root =>
    simp only [Label.encode, NameEnd.encode, cons_append, List.cons.injEq] at h
    rw [h.1] at hl
    exact absurd hl.1 (by decide)
  | pointer x =>
    simp only [Label.encode, NameEnd.encode, cons_append, List.cons.injEq] at h
    rw [h.1, toNat_byte (by omega)] at hl
    omega

@[simp] theorem encode_nil (tail : NameEnd) : Name.encode ⟨[], tail⟩ = tail.encode := rfl

@[simp] theorem encode_cons (labels : List Label) (tail : NameEnd) :
    Name.encode ⟨l :: labels, tail⟩ = l.encode ++ Name.encode ⟨labels, tail⟩ := by
  simp only [Name.encode, flatMap_cons, append_assoc]

theorem delimited_name : Delimited Name.encode := by
  rintro ⟨labels, tail⟩ ⟨labels', tail'⟩ r s h
  induction labels generalizing labels' with
  | nil =>
    cases labels' with
    | nil =>
      obtain ⟨htail, hrest⟩ := delimited_nameEnd _ _ _ _ h
      have htail : tail = tail' := htail
      exact ⟨by rw [htail], hrest⟩
    | cons l' labels' =>
      rw [encode_nil, encode_cons, append_assoc] at h
      exact (label_ne_end _ _ _ _ h.symm).elim
  | cons l labels ih =>
    cases labels' with
    | nil =>
      rw [encode_nil, encode_cons, append_assoc] at h
      exact (label_ne_end _ _ _ _ h).elim
    | cons l' labels' =>
      rw [encode_cons, encode_cons, append_assoc, append_assoc] at h
      obtain ⟨hl, htail⟩ := delimited_label _ _ _ _ h
      obtain ⟨hname, hrest⟩ := ih labels' htail
      cases hname
      exact ⟨by rw [hl], hrest⟩

/-- 255 octets hold at most 127 labels. -/
theorem length_labels (n : Name) : 2 * n.labels.length < n.encode.length := by
  obtain ⟨labels, tail⟩ := n
  induction labels with
  | nil => cases tail <;> simp [NameEnd.encode]
  | cons l labels ih =>
    have hl := l.nonempty
    simp only [encode_cons, length_append, length_cons, Label.encode] at ih ⊢
    omega

/-! ## Questions and records -/

structure Question where
  name : Name
  qtype : UInt16
  qclass : UInt16
  deriving DecidableEq

structure Record where
  name : Name
  rtype : UInt16
  rclass : UInt16
  ttl : UInt32
  rdata : Bytes
  fits : rdata.length < 65536
  deriving DecidableEq

def Question.encode (q : Question) : Bytes := q.name.encode ++ (be16 q.qtype ++ be16 q.qclass)

def Record.encode (r : Record) : Bytes :=
  r.name.encode ++ (be16 r.rtype ++ (be16 r.rclass ++ (be32 r.ttl ++ (be16 (UInt16.ofNat r.rdata.length) ++ r.rdata))))

theorem delimited_question : Delimited Question.encode := by
  refine (delimited_name.prod (delimited_be16.prod delimited_be16)).of_injective
    (p := fun q : Question => (q.name, q.qtype, q.qclass)) ?_
  rintro ⟨_, _, _⟩ ⟨_, _, _⟩ h
  cases h
  rfl

/-- RDATA after its length. -/
theorem delimited_rdata :
    Delimited fun d : { d : Bytes // d.length < 65536 } => be16 (UInt16.ofNat d.val.length) ++ d.val := by
  rintro ⟨a, ha⟩ ⟨b, hb⟩ r s h
  dsimp only at h
  rw [append_assoc, append_assoc] at h
  obtain ⟨hlen, h⟩ := delimited_be16 _ _ _ _ h
  have hlen : a.length = b.length := by
    have := congrArg UInt16.toNat hlen
    rwa [UInt16.toNat_ofNat_of_lt' ha, UInt16.toNat_ofNat_of_lt' hb] at this
  obtain ⟨rfl, hrest⟩ := append_inj h hlen
  exact ⟨rfl, hrest⟩

theorem delimited_record : Delimited Record.encode := by
  refine (delimited_name.prod
    (delimited_be16.prod (delimited_be16.prod (delimited_be32.prod delimited_rdata)))).of_injective
    (p := fun r : Record => (r.name, r.rtype, r.rclass, r.ttl, ⟨r.rdata, r.fits⟩)) ?_
  rintro ⟨_, _, _, _, _, _⟩ ⟨_, _, _, _, _, _⟩ h
  cases h
  rfl

/-! ## Messages -/

/-- The header and the question of a message with one question. -/
structure Opening where
  id : UInt16
  flags₁ : UInt8
  flags₂ : UInt8
  ancount : UInt16
  nscount : UInt16
  arcount : UInt16
  question : Question
  deriving DecidableEq

/-- A reply, not a query. -/
def Opening.qr (o : Opening) : Prop := o.flags₁ &&& 0x80 ≠ 0

/-- Truncated. -/
def Opening.tc (o : Opening) : Prop := o.flags₁ &&& 0x02 ≠ 0

def Opening.rcode (o : Opening) : Nat := (o.flags₂ &&& 0x0F).toNat

def Opening.encode (o : Opening) : Bytes :=
  be16 o.id ++ ([o.flags₁, o.flags₂] ++
    (be16 1 ++ (be16 o.ancount ++ (be16 o.nscount ++ (be16 o.arcount ++ o.question.encode)))))

def encodeAll (records : List Record) : Bytes := records.flatMap Record.encode

theorem delimited_opening : Delimited Opening.encode := by
  have hflags : Delimited fun f : UInt8 × UInt8 => [f.1, f.2] :=
    delimited_of_length (n := 2) (fun _ => rfl) fun a b h => by
      injection h with h₁ h
      injection h with h₂ _
      exact Prod.ext h₁ h₂
  have hone : Delimited fun _ : Unit => be16 1 := delimited_of_length (n := 2) (fun _ => rfl) fun _ _ _ => rfl
  refine (delimited_be16.prod (hflags.prod (hone.prod (delimited_be16.prod (delimited_be16.prod (delimited_be16.prod
    delimited_question)))))).of_injective
    (p := fun o : Opening => (o.id, (o.flags₁, o.flags₂), (), o.ancount, o.nscount, o.arcount, o.question)) ?_
  rintro ⟨_, _, _, _, _, _, _⟩ ⟨_, _, _, _, _, _, _⟩ h
  cases h
  rfl

end Nq.Dns
