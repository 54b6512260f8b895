/-
  Nq.Dns.Response — what the response parser makes of a datagram (`probe.rs`,
  `parse_response`, `skip_name`).

  At every step the datagram is what has been read and what is left; a read finds the
  encoding it looks for at the start of what is left, or there is none there
  (`skipFrom_spec`, `answerTurn_spec`, `answersLoop_spec`). So no read is out of bounds, and
  since encodings end by themselves a datagram that has been cut reads as none.

  - `parse_spec`: a datagram is an opening and, at RCODE 0, its answers, or it is refused;
  - `response_decoded`: the outcome of every well-formed response, and of every cut one.
-/

import Nq.Dns.Probe

namespace Nq.Dns

open Codes
open List

/-! ## Names -/

theorem pointer_bits (b : UInt8) : b &&& 0xC0 = 0xC0 ↔ 192 ≤ b.toNat := by
  have h : ∀ n < 256, UInt8.ofNat n &&& 0xC0 = 0xC0 ↔ 192 ≤ n := by decide +kernel
  have hb := h b.toNat b.toNat_lt
  rwa [UInt8.ofNat_toNat] at hb

theorem label_bits (b : UInt8) : b &&& 0xC0 = 0 ↔ b.toNat < 64 := by
  have h : ∀ n < 256, UInt8.ofNat n &&& 0xC0 = 0 ↔ n < 64 := by decide +kernel
  have hb := h b.toNat b.toNat_lt
  rwa [UInt8.ofNat_toNat] at hb

variable {b : UInt8} {buf rest : Bytes} {answers : List Record} {id id' : UInt16} {o : Opening} (pre : Bytes)
  (qtype : UInt16) (acc : Answers)

theorem byte_ok {i : Nat} (h : buf[i]? = some b) : byte buf i = .ok b := by
  unfold byte
  rw [h]

/-- Past the end the loop stops. -/
theorem skipFrom_past {pos : Nat} (h : buf.length ≤ pos) (n : Nat) : skipFrom buf n pos = .ok none := by
  cases n with
  | zero => rfl
  | succ n =>
    unfold skipFrom
    rw [if_neg (by omega)]

/-- One step of the loop, by the byte it reads. -/
theorem skipFrom_cons (b : UInt8) (s : Bytes) (n : Nat) :
    skipFrom (pre ++ b :: s) (n + 1) pre.length =
      if b.toNat = 0 then .ok (some (pre.length + 1))
      else if 192 ≤ b.toNat then .ok (if s = [] then none else some (pre.length + 2))
      else if 64 ≤ b.toNat then .ok none
      else skipFrom (pre ++ b :: s) n (pre.length + 1 + b.toNat) := by
  have hbyte : byte (pre ++ b :: s) pre.length = .ok b := byte_ok (by simp)
  have hlen : (pre ++ b :: s).length = pre.length + 1 + s.length := by simp; omega
  have hzero : b = 0 ↔ b.toNat = 0 := by rw [← UInt8.toNat_inj]; rfl
  rw [skipFrom, if_pos (by omega), hbyte, hlen]
  simp only [bind, Except.bind, pure, Except.pure, hzero, pointer_bits, ne_eq, label_bits, Nat.not_lt]
  by_cases h0 : b.toNat = 0
  · rw [if_pos h0, if_pos h0]
  · rw [if_neg h0, if_neg h0]
    by_cases hptr : 192 ≤ b.toNat
    · rw [if_pos hptr, if_pos hptr]
      cases s with
      | nil => simp
      | cons c s => simp
    · rw [if_neg hptr, if_neg hptr]

/-- A name that starts with neither the root nor a pointer starts with a label. -/
theorem label_of_first {s : Bytes} {w : Name} (h0 : b.toNat ≠ 0) (hptr : ¬ 192 ≤ b.toNat)
    (h : b :: s = w.encode ++ rest) : ∃ l labels, w.labels = l :: labels ∧ b.toNat = l.bytes.length ∧
      s = l.bytes ++ (Name.encode ⟨labels, w.tail⟩ ++ rest) := by
  obtain ⟨labels, tail⟩ := w
  cases labels with
  | nil =>
    cases tail with
    | root =>
      rw [(List.cons.inj h).1] at h0
      exact absurd rfl h0
    | pointer x =>
      rw [(List.cons.inj h).1, toNat_byte (by omega)] at hptr
      omega
  | cons l labels =>
    rw [encode_cons, append_assoc] at h
    have hl := l.short
    exact ⟨l, labels, rfl, by rw [(List.cons.inj h).1, toNat_byte (by omega)], (List.cons.inj h).2⟩

/-- Half a pointer is no name. -/
theorem no_name_of_half (hptr : 192 ≤ b.toNat) (w : Name) (rest : Bytes) : [b] ≠ w.encode ++ rest := by
  intro h
  obtain ⟨labels, tail⟩ := w
  cases labels with
  | nil =>
    cases tail with
    | root =>
      rw [(List.cons.inj h).1] at hptr
      exact absurd hptr (by decide)
    | pointer x => exact (cons_ne_nil _ _ (List.cons.inj h).2.symm).elim
  | cons l labels =>
    rw [encode_cons, append_assoc] at h
    have := l.head
    rw [← (List.cons.inj h).1] at this
    omega

/-- A name with at most `n` steps is skipped; where there is none, the loop says so. -/
theorem skipFrom_spec (n : Nat) : ∀ pre s : Bytes,
    (∃ (w : Name) (rest : Bytes), w.labels.length < n ∧ s = w.encode ++ rest ∧
      skipFrom (pre ++ s) n pre.length = .ok (some (pre.length + w.encode.length))) ∨
    ((∀ (w : Name) (rest : Bytes), w.labels.length < n → s ≠ w.encode ++ rest) ∧
      skipFrom (pre ++ s) n pre.length = .ok none) := by
  induction n with
  | zero => exact fun pre s => .inr ⟨fun w rest h => absurd h (Nat.not_lt_zero _), rfl⟩
  | succ n ih =>
    intro pre s
    cases s with
    | nil =>
      refine .inr ⟨fun w rest _ h => ?_, skipFrom_past (by simp) _⟩
      have := length_labels w
      have hnil : w.encode = [] := (append_eq_nil_iff.mp h.symm).1
      rw [hnil] at this
      exact absurd this (Nat.not_lt_zero _)
    | cons b s =>
      rw [skipFrom_cons]
      have hbyte := b.toNat_lt
      by_cases h0 : b.toNat = 0
      · refine .inl ⟨⟨[], .root⟩, s, Nat.succ_pos n, ?_, by rw [if_pos h0]; rfl⟩
        rw [encode_nil, NameEnd.encode, singleton_append, ← ofNat_eq h0]
        rfl
      rw [if_neg h0]
      by_cases hptr : 192 ≤ b.toNat
      · rw [if_pos hptr]
        cases s with
        | nil => exact .inr ⟨fun w rest _ => no_name_of_half hptr w rest, rfl⟩
        | cons c s =>
          have hc := c.toNat_lt
          refine .inl ⟨⟨[], .pointer ⟨(b.toNat - 192) * 256 + c.toNat, by omega⟩⟩, s, Nat.succ_pos n, ?_, rfl⟩
          simp only [encode_nil, NameEnd.encode, cons_append, nil_append]
          rw [ofNat_eq (b := b) (by omega), ofNat_eq (b := c) (by omega)]
      rw [if_neg hptr]
      by_cases hother : 64 ≤ b.toNat
      · rw [if_pos hother]
        refine .inr ⟨fun w rest _ h => ?_, rfl⟩
        obtain ⟨l, _, _, hlen, _⟩ := label_of_first h0 hptr h
        have := l.short
        omega
      rw [if_neg hother]
      by_cases hfits : b.toNat ≤ s.length
      · have hpre : pre ++ b :: s = (pre ++ b :: s.take b.toNat) ++ s.drop b.toNat := by simp
        have hlen : (pre ++ b :: s.take b.toNat).length = pre.length + 1 + b.toNat := by simp; omega
        have htake : (s.take b.toNat).length = b.toNat := by simp; omega
        rcases ih (pre ++ b :: s.take b.toNat) (s.drop b.toNat) with ⟨w, rest, hn, hs, hskip⟩ | ⟨hnone, hskip⟩
        · rw [← hpre, hlen] at hskip
          refine .inl ⟨⟨⟨s.take b.toNat, by omega, by omega⟩ :: w.labels, w.tail⟩, rest, Nat.succ_lt_succ hn, ?_, ?_⟩
          · simp only [encode_cons, Label.encode, cons_append, append_assoc, htake, UInt8.ofNat_toNat]
            rw [← hs, take_append_drop]
          · rw [hskip, encode_cons, length_append, Label.encode, length_cons, htake]
            congr 2
            show _ + w.encode.length = _ + (_ + w.encode.length)
            omega
        · rw [← hpre, hlen] at hskip
          refine .inr ⟨fun w rest hn h => ?_, hskip⟩
          obtain ⟨l, labels, hw, hl, hs⟩ := label_of_first h0 hptr h
          refine hnone ⟨labels, w.tail⟩ rest ?_ ?_
          · rw [hw, length_cons] at hn
            exact Nat.lt_of_succ_lt_succ hn
          · rw [hs, hl, drop_left]
      · refine .inr ⟨fun w rest _ h => ?_, skipFrom_past (by simp; omega) n⟩
        obtain ⟨l, _, _, hl, hs⟩ := label_of_first h0 hptr h
        have := congrArg List.length hs
        rw [length_append] at this
        omega

/-! ## One answer -/

/-- The entry of a record in the summary: an address for A and AAAA records of the right
    size, the type and the length of the data otherwise. -/
def Record.entry (r : Record) : String :=
  if r.rtype = 1 ∧ r.rdata.length = 4 then ".".intercalate (r.rdata.map fun b => toString b.toNat)
  else if r.rtype = 28 ∧ r.rdata.length = 16 then ipv6Text r.rdata
  else "<type" ++ toString r.rtype.toNat ++ "/" ++ toString r.rdata.length ++ "B>"

/-- The names a probe can read: 127 labels are what 255 octets hold. -/
def Record.Short (r : Record) : Prop := r.name.labels.length < 128

/-- What the loop carries once it has read a record. -/
def Answers.read (qtype : UInt16) (acc : Answers) (r : Record) : Answers :=
  if r.rtype = qtype then
    ⟨acc.pos + r.encode.length, acc.summaries ++ [r.entry], some (acc.minTtl.elim r.ttl (min · r.ttl))⟩
  else { acc with pos := acc.pos + r.encode.length }

theorem byte_at (s : Bytes) (k : Nat) (h : s[k]? = some b) : byte (pre ++ s) (pre.length + k) = .ok b := by
  refine byte_ok ?_
  rw [getElem?_append_right (by omega), Nat.add_sub_cancel_left, h]

theorem summaryOf_eq (s : Bytes) (r : Record) :
    summaryOf (pre ++ (r.rdata ++ s)) pre.length r.rtype r.rdata.length = .ok r.entry := by
  unfold summaryOf Record.entry
  by_cases h4 : r.rtype = 1 ∧ r.rdata.length = 4
  · rw [if_pos h4, if_pos h4]
    match hr : r.rdata, h4.2 with
    | [a, b, c, d], _ =>
      rw [← Nat.add_zero pre.length, byte_at pre _ 0 rfl, Nat.add_zero, byte_at pre _ 1 rfl,
        byte_at pre _ 2 rfl, byte_at pre _ 3 rfl]
      rfl
  · rw [if_neg h4, if_neg h4]
    by_cases h16 : r.rtype = 28 ∧ r.rdata.length = 16
    · rw [if_pos h16, if_pos h16]
      have hslice : slice (pre ++ (r.rdata ++ s)) pre.length (pre.length + 16) = .ok r.rdata := by
        unfold slice
        rw [if_pos (by simp; omega), drop_left, Nat.add_sub_cancel_left, ← h16.2, take_left]
      rw [hslice]
      rfl
    · rw [if_neg h16, if_neg h16]
      rfl

/-- The ten bytes between the name of a record and its data. -/
theorem exists_fixed {s : Bytes} (h : 10 ≤ s.length) :
    ∃ rtype rclass ttl rdlen rest, s = be16 rtype ++ (be16 rclass ++ (be32 ttl ++ (be16 rdlen ++ rest))) := by
  match s, h with
  | a :: b :: c :: d :: e :: f :: g :: i :: j :: k :: rest, _ =>
    refine ⟨u16 a b, u16 c d, u32 e f g i, u16 j k, rest, ?_⟩
    rw [be16_u16, be16_u16, be32_u32, be16_u16]
    rfl

theorem length_fixed (rtype rclass rdlen : UInt16) (ttl : UInt32) (rest : Bytes) :
    (be16 rtype ++ (be16 rclass ++ (be32 ttl ++ (be16 rdlen ++ rest)))).length = 10 + rest.length := by
  simp [be16, be32]
  omega

theorem length_record (r : Record) : r.encode.length = r.name.encode.length + 10 + r.rdata.length := by
  rw [Record.encode, length_append, length_fixed]
  omega

/-- A turn whose name ends where `pre` does. -/
theorem answerTurn_fixed {pre : Bytes} (rtype rclass : UInt16) (ttl : UInt32) (rdlen : UInt16)
    (hname : skipName (pre ++ (be16 rtype ++ (be16 rclass ++ (be32 ttl ++ (be16 rdlen ++ rest))))) acc.pos =
      .ok (some pre.length)) :
    answerTurn (pre ++ (be16 rtype ++ (be16 rclass ++ (be32 ttl ++ (be16 rdlen ++ rest))))) qtype acc =
      if rest.length < rdlen.toNat then .ok (.error (.transportError "answer record truncated within RDATA"))
      else if rtype = qtype then
        (summaryOf (pre ++ (be16 rtype ++ (be16 rclass ++ (be32 ttl ++ (be16 rdlen ++ rest))))) (pre.length + 10) rtype
          rdlen.toNat).map fun summary =>
            .ok ⟨pre.length + 10 + rdlen.toNat, acc.summaries ++ [summary], some (acc.minTtl.elim ttl (min · ttl))⟩
      else .ok (.ok { acc with pos := pre.length + 10 + rdlen.toNat }) := by
  generalize hs : be16 rtype ++ (be16 rclass ++ (be32 ttl ++ (be16 rdlen ++ rest))) = s at hname ⊢
  have hlen : (pre ++ s).length = pre.length + (10 + rest.length) := by
    rw [length_append, ← hs, length_fixed]
  have h0 : byte (pre ++ s) pre.length = .ok (UInt8.ofNat (rtype.toNat / 256)) := by
    rw [← Nat.add_zero pre.length]
    exact byte_at pre s 0 (hs ▸ rfl)
  have h1 : byte (pre ++ s) (pre.length + 1) = .ok (UInt8.ofNat (rtype.toNat % 256)) := byte_at pre s 1 (hs ▸ rfl)
  have h4 : byte (pre ++ s) (pre.length + 4) = .ok (UInt8.ofNat (ttl.toNat / 16777216)) := byte_at pre s 4 (hs ▸ rfl)
  have h5 : byte (pre ++ s) (pre.length + 5) = .ok (UInt8.ofNat (ttl.toNat / 65536 % 256)) := byte_at pre s 5 (hs ▸ rfl)
  have h6 : byte (pre ++ s) (pre.length + 6) = .ok (UInt8.ofNat (ttl.toNat / 256 % 256)) := byte_at pre s 6 (hs ▸ rfl)
  have h7 : byte (pre ++ s) (pre.length + 7) = .ok (UInt8.ofNat (ttl.toNat % 256)) := byte_at pre s 7 (hs ▸ rfl)
  have h8 : byte (pre ++ s) (pre.length + 8) = .ok (UInt8.ofNat (rdlen.toNat / 256)) := byte_at pre s 8 (hs ▸ rfl)
  have h9 : byte (pre ++ s) (pre.length + 9) = .ok (UInt8.ofNat (rdlen.toNat % 256)) := byte_at pre s 9 (hs ▸ rfl)
  unfold answerTurn
  rw [hname]
  simp only [bind, Except.bind, pure, Except.pure, h0, h1, h4, h5, h6, h7, h8, h9, u16_be16, u32_be32, hlen]
  rw [if_neg (by omega)]
  by_cases hfits : rest.length < rdlen.toNat
  · rw [if_pos hfits, if_pos (by omega)]
  · rw [if_neg hfits, if_neg (by omega)]
    by_cases hq : rtype = qtype
    · rw [if_pos hq, if_pos hq]
      cases summaryOf (pre ++ s) (pre.length + 10) rtype rdlen.toNat <;> rfl
    · rw [if_neg hq, if_neg hq]

/-- A turn reads the record that is there, or returns an error. -/
theorem answerTurn_spec (s : Bytes) (qtype : UInt16) (acc : Answers) (hpos : acc.pos = pre.length) :
    (∃ (r : Record) (rest : Bytes), r.Short ∧ s = r.encode ++ rest ∧
      answerTurn (pre ++ s) qtype acc = .ok (.ok (acc.read qtype r))) ∨
    ((∀ (r : Record) (rest : Bytes), r.Short → s ≠ r.encode ++ rest) ∧
      ∃ detail, answerTurn (pre ++ s) qtype acc = .ok (.error (.transportError detail))) := by
  rcases skipFrom_spec 128 pre s with ⟨w, rest, hw, rfl, hskip⟩ | ⟨hnone, hskip⟩
  · have hname : skipName (pre ++ w.encode ++ rest) acc.pos = .ok (some (pre ++ w.encode).length) := by
      rw [hpos, append_assoc, length_append]
      exact hskip
    rw [← append_assoc]
    -- a record that starts here starts with this name
    have hrecord : ∀ (r : Record) (rest' : Bytes), w.encode ++ rest = r.encode ++ rest' →
        rest = be16 r.rtype ++
          (be16 r.rclass ++ (be32 r.ttl ++ (be16 (UInt16.ofNat r.rdata.length) ++ (r.rdata ++ rest')))) := by
      intro r rest' h
      rw [Record.encode, append_assoc] at h
      rw [(delimited_name _ _ _ _ h).2]
      simp only [append_assoc]
    by_cases hten : 10 ≤ rest.length
    · obtain ⟨rtype, rclass, ttl, rdlen, rest, rfl⟩ := exists_fixed hten
      rw [answerTurn_fixed qtype acc rtype rclass ttl rdlen hname]
      by_cases hfits : rest.length < rdlen.toNat
      · refine .inr ⟨fun r rest' _ h => ?_, _, if_pos hfits⟩
        have h := hrecord r rest' h
        obtain ⟨_, h⟩ := delimited_be16 _ _ _ _ h
        obtain ⟨_, h⟩ := delimited_be16 _ _ _ _ h
        obtain ⟨_, h⟩ := delimited_be32 _ _ _ _ h
        obtain ⟨hlen, h⟩ := delimited_be16 _ _ _ _ h
        rw [hlen, h, UInt16.toNat_ofNat_of_lt' r.fits, length_append] at hfits
        omega
      · rw [if_neg hfits]
        have hlen : (rest.take rdlen.toNat).length = rdlen.toNat := by simp; omega
        have hsmall : rdlen.toNat < 65536 := rdlen.toNat_lt
        let r : Record := ⟨w, rtype, rclass, ttl, rest.take rdlen.toNat, by omega⟩
        have hsplit : rest = r.rdata ++ rest.drop rdlen.toNat := (take_append_drop ..).symm
        have hrdlen : UInt16.ofNat r.rdata.length = rdlen := by
          rw [show r.rdata.length = rdlen.toNat from hlen, UInt16.ofNat_toNat]
        refine .inl ⟨r, rest.drop rdlen.toNat, hw, ?_, ?_⟩
        · rw [Record.encode, hrdlen]
          simp only [append_assoc]
          rw [← hsplit]
        · have hpos' : acc.pos + r.encode.length = (pre ++ w.encode).length + 10 + rdlen.toNat := by
            rw [length_record, hpos, length_append, show r.rdata.length = rdlen.toNat from hlen,
              show r.name = w from rfl]
            omega
          unfold Answers.read
          rw [hpos']
          by_cases hq : rtype = qtype
          · have hq' : r.rtype = qtype := hq
            rw [if_pos hq, if_pos hq']
            have hsummary := summaryOf_eq
              (pre ++ w.encode ++ (be16 rtype ++ (be16 rclass ++ (be32 ttl ++ be16 rdlen)))) (rest.drop rdlen.toNat) r
            rw [← hsplit, show r.rdata.length = rdlen.toNat from hlen] at hsummary
            have hten : (pre ++ w.encode ++ (be16 rtype ++ (be16 rclass ++ (be32 ttl ++ be16 rdlen)))).length =
                (pre ++ w.encode).length + 10 := by
              simp [be16, be32]
              omega
            rw [hten] at hsummary
            simp only [append_assoc] at hsummary ⊢
            rw [hsummary]
            rfl
          · have hq' : ¬ r.rtype = qtype := hq
            rw [if_neg hq, if_neg hq']
    · refine .inr ⟨fun r rest' _ h => ?_, "answer record truncated before RR header", ?_⟩
      · rw [hrecord r rest' h, length_fixed] at hten
        omega
      · unfold answerTurn
        rw [hname]
        simp only [bind, Except.bind, pure, Except.pure]
        rw [if_pos (by simp only [length_append]; omega)]
  · refine .inr ⟨fun r rest hr h => ?_, "malformed answer name", ?_⟩
    · rw [Record.encode, append_assoc] at h
      exact hnone _ _ hr h
    · unfold answerTurn
      rw [hpos, show skipName (pre ++ s) pre.length = .ok none from hskip]
      rfl

/-! ## The answers -/

/-- The loop reads all the records, or returns an error. -/
theorem answersLoop_spec (n : Nat) : ∀ (pre s : Bytes) (acc : Answers), acc.pos = pre.length →
    (∃ (records : List Record) (rest : Bytes), records.length = n ∧ (∀ r ∈ records, r.Short) ∧ s = encodeAll records ++
      rest ∧ answersLoop (pre ++ s) qtype n acc = .ok (.ok (records.foldl (·.read qtype ·) acc))) ∨
    ((∀ (records : List Record) (rest : Bytes), records.length = n → (∀ r ∈ records, r.Short) → s ≠ encodeAll records ++
      rest) ∧ ∃ detail, answersLoop (pre ++ s) qtype n acc = .ok (.error (.transportError detail))) := by
  induction n with
  | zero => exact fun pre s acc _ => .inl ⟨[], s, rfl, fun _ h => (not_mem_nil h).elim, rfl, rfl⟩
  | succ n ih =>
    intro pre s acc hpos
    rcases answerTurn_spec pre s qtype acc hpos with ⟨r, rest, hr, rfl, hturn⟩ | ⟨hnone, detail, hturn⟩
    · have hstep : answersLoop (pre ++ (r.encode ++ rest)) qtype (n + 1) acc =
          answersLoop (pre ++ r.encode ++ rest) qtype n (acc.read qtype r) := by
        rw [answersLoop, hturn, append_assoc]
        rfl
      have hpos' : (acc.read qtype r).pos = (pre ++ r.encode).length := by
        rw [length_append, ← hpos]
        unfold Answers.read
        split <;> rfl
      rw [hstep]
      rcases ih (pre ++ r.encode) rest (acc.read qtype r) hpos'
        with ⟨records, rest', hlen, hshort, rfl, hloop⟩ | ⟨hnone, hloop⟩
      · refine .inl ⟨r :: records, rest', by rw [length_cons, hlen], forall_mem_cons.mpr ⟨hr, hshort⟩, ?_, hloop⟩
        simp only [encodeAll, flatMap_cons, append_assoc]
      · refine .inr ⟨fun records rest' hlen hshort h => ?_, hloop⟩
        cases records with
        | nil => cases hlen
        | cons r' records =>
          simp only [encodeAll, flatMap_cons, append_assoc] at h
          obtain ⟨_, h⟩ := delimited_record _ _ _ _ h
          exact hnone records rest' (Nat.succ.inj hlen) (fun q hq => hshort q (mem_cons_of_mem _ hq)) h
    · refine .inr ⟨fun records rest hlen hshort h => ?_, detail, ?_⟩
      · cases records with
        | nil => cases hlen
        | cons r records =>
          simp only [encodeAll, flatMap_cons, append_assoc] at h
          exact hnone r _ (hshort r mem_cons_self) h
      · rw [answersLoop, hturn]
        rfl

/-- What the loop carries in the end: the entries of the records of the type, in order,
    and the least of their TTLs. -/
theorem foldl_read (records : List Record) : ∀ acc : Answers,
    (records.foldl (·.read qtype ·) acc).summaries = acc.summaries ++
      (records.filter (·.rtype = qtype)).map Record.entry ∧ (records.foldl (·.read qtype ·) acc).minTtl =
      (acc.minTtl.toList ++ (records.filter (·.rtype = qtype)).map Record.ttl).min? := by
  induction records with
  | nil =>
    intro acc
    refine ⟨(append_nil _).symm, ?_⟩
    cases h : acc.minTtl <;> simp [h]
  | cons r records ih =>
    intro acc
    rw [foldl_cons, (ih _).1, (ih _).2]
    unfold Answers.read
    by_cases hq : r.rtype = qtype
    · rw [if_pos hq, filter_cons_of_pos (by simpa using hq)]
      refine ⟨by simp, ?_⟩
      cases h : acc.minTtl with
      | none => rfl
      | some t =>
        simp only [Option.elim_some, Option.toList_some, singleton_append, map_cons, min?_cons',
          foldl_cons]
    · rw [if_neg hq, filter_cons_of_neg (by simpa using hq)]
      exact ⟨rfl, rfl⟩

/-! ## The datagram -/

/-- How many answers are read: at a nonzero RCODE none are. -/
def Opening.read (o : Opening) : Nat := if o.rcode = 0 then o.ancount.toNat else 0

/-- The datagram is a reply under the id, with this opening and these answers. -/
structure Reply (buf : Bytes) (id : UInt16) (o : Opening) (answers : List Record) : Prop where
  id : o.id = id
  qr : o.qr
  tc : ¬ o.tc
  short : o.question.name.labels.length < 128
  count : answers.length = o.read
  shorts : ∀ r ∈ answers, r.Short
  bytes : ∃ rest, buf = o.encode ++ (encodeAll answers ++ rest)

/-- The outcome of a reply. -/
def judge (qtype : UInt16) (rcode : Nat) (answers : List Record) : WireOutcome :=
  if rcode ≠ 0 then .negative (negativeOf rcode) rcode
  else
    let matching := answers.filter (·.rtype = qtype)
    if matching = [] then .negative .nodata 0
    else .answer 0 (",".intercalate ((matching.map Record.entry).insertionSort (· ≤ ·)))
      ((matching.map Record.ttl).min?.map fun t => (t.toNat : Int))

/-- A datagram is a reply in one way only. -/
theorem reply_unique {o' : Opening} {answers' : List Record} (h : Reply buf id o answers)
    (h' : Reply buf id' o' answers') : o = o' ∧ answers = answers' := by
  obtain ⟨rest, e⟩ := h.bytes
  obtain ⟨rest', e'⟩ := h'.bytes
  obtain ⟨ho, htail⟩ := delimited_opening _ _ _ _ (e.symm.trans e')
  exact ⟨ho, (delimited_record.flatMap (h.count.trans (ho ▸ h'.count.symm)) htail).1⟩

/-- The twelve bytes of the header. -/
def headerBytes (id : UInt16) (flags₁ flags₂ : UInt8) (qdcount ancount nscount arcount : UInt16) : Bytes :=
  be16 id ++ ([flags₁, flags₂] ++ (be16 qdcount ++ (be16 ancount ++ (be16 nscount ++ be16 arcount))))

theorem exists_header (h : 12 ≤ buf.length) : ∃ id flags₁ flags₂ qdcount ancount nscount arcount s,
    buf = headerBytes id flags₁ flags₂ qdcount ancount nscount arcount ++ s := by
  match buf, h with
  | a :: b :: f₁ :: f₂ :: c :: d :: e :: f :: g :: i :: j :: k :: s, _ =>
    refine ⟨u16 a b, f₁, f₂, u16 c d, u16 e f, u16 g i, u16 j k, s, ?_⟩
    simp only [headerBytes, be16_u16]
    rfl

theorem encode_opening (o : Opening) (s : Bytes) :
    o.encode ++ s = headerBytes o.id o.flags₁ o.flags₂ 1 o.ancount o.nscount o.arcount ++ (o.question.encode ++ s) := by
  simp only [Opening.encode, headerBytes, append_assoc]

/-- The fields of the header and what follows it are read in one way only. -/
theorem header_unique {f₁ f₁' f₂ f₂' : UInt8} {qd qd' an an' ns ns' ar ar' : UInt16} {s s' : Bytes}
    (h : headerBytes id f₁ f₂ qd an ns ar ++ s = headerBytes id' f₁' f₂' qd' an' ns' ar' ++ s') :
    id = id' ∧ f₁ = f₁' ∧ f₂ = f₂' ∧ qd = qd' ∧ an = an' ∧ ns = ns' ∧ ar = ar' ∧ s = s' := by
  simp only [headerBytes, append_assoc] at h
  obtain ⟨hid, h⟩ := delimited_be16 _ _ _ _ h
  obtain ⟨hf₁, h⟩ := List.cons.inj h
  obtain ⟨hf₂, h⟩ := List.cons.inj h
  obtain ⟨hqd, h⟩ := delimited_be16 _ _ _ _ h
  obtain ⟨han, h⟩ := delimited_be16 _ _ _ _ h
  obtain ⟨hns, h⟩ := delimited_be16 _ _ _ _ h
  obtain ⟨har, h⟩ := delimited_be16 _ _ _ _ h
  exact ⟨hid, hf₁, hf₂, hqd, han, hns, har, h⟩

/-- The parser on a datagram with a header. -/
theorem parse_header (id expectedId qtype : UInt16) (f₁ f₂ : UInt8) (qd an ns ar : UInt16) (s : Bytes) :
    parseResponse (headerBytes id f₁ f₂ qd an ns ar ++ s) expectedId qtype =
      if id ≠ expectedId then .ok (.transportError
        ("response id mismatch: expected " ++ toString expectedId.toNat ++ ", got " ++ toString id.toNat))
      else if f₁ &&& 0x80 = 0 then .ok (.transportError "QR bit not set; response is a query, not a reply")
      else if f₁ &&& 0x02 ≠ 0 then .ok (.transportError "response truncated (TC bit set); V0 has no TCP fallback")
      else if qd ≠ 1 then .ok (.transportError
        ("unexpected QDCOUNT=" ++ toString qd.toNat ++ "; V0 only handles single-question responses"))
      else parseBody (headerBytes id f₁ f₂ qd an ns ar ++ s) qtype (f₂ &&& 0x0F).toNat an := by
  generalize hbuf : headerBytes id f₁ f₂ qd an ns ar ++ s = buf
  have hlen : buf.length = 12 + s.length := by
    rw [← hbuf, length_append]
    rfl
  have h0 : byte buf 0 = .ok (UInt8.ofNat (id.toNat / 256)) := byte_ok (hbuf ▸ rfl)
  have h1 : byte buf 1 = .ok (UInt8.ofNat (id.toNat % 256)) := byte_ok (hbuf ▸ rfl)
  have h2 : byte buf 2 = .ok f₁ := byte_ok (hbuf ▸ rfl)
  have h3 : byte buf 3 = .ok f₂ := byte_ok (hbuf ▸ rfl)
  have h4 : byte buf 4 = .ok (UInt8.ofNat (qd.toNat / 256)) := byte_ok (hbuf ▸ rfl)
  have h5 : byte buf 5 = .ok (UInt8.ofNat (qd.toNat % 256)) := byte_ok (hbuf ▸ rfl)
  have h6 : byte buf 6 = .ok (UInt8.ofNat (an.toNat / 256)) := byte_ok (hbuf ▸ rfl)
  have h7 : byte buf 7 = .ok (UInt8.ofNat (an.toNat % 256)) := byte_ok (hbuf ▸ rfl)
  unfold parseResponse
  rw [if_neg (by omega)]
  simp only [bind, Except.bind, pure, Except.pure, h0, h1, h2, h3, h4, h5, h6, h7, u16_be16]

theorem exists_question {s : Bytes} (h : 4 ≤ s.length) :
    ∃ qtype qclass rest, s = be16 qtype ++ (be16 qclass ++ rest) := by
  match s, h with
  | a :: b :: c :: d :: rest, _ =>
    refine ⟨u16 a b, u16 c d, rest, ?_⟩
    rw [be16_u16, be16_u16]
    rfl

/-- What the answers come to once the loop is through. -/
def answersOutcome : Except WireOutcome Answers → WireOutcome
  | .error out => out
  | .ok acc =>
    if acc.summaries.isEmpty then .negative .nodata 0
    else .answer 0 (",".intercalate (acc.summaries.insertionSort (· ≤ ·))) (acc.minTtl.map fun t => (t.toNat : Int))

theorem answersOutcome_ok : answersOutcome (.ok acc) =
    if acc.summaries.isEmpty then .negative .nodata 0
    else .answer 0 (",".intercalate (acc.summaries.insertionSort (· ≤ ·))) (acc.minTtl.map fun t =>
      (t.toNat : Int)) := rfl

/-- The parser past a question. -/
theorem parseBody_question {pre body : Bytes} (q : Question) (hpre : pre.length = 12) (qtype : UInt16) (rcode : Nat)
    (ancount : UInt16)
    (hname : skipName (pre ++ (q.encode ++ body)) 12 = .ok (some (12 + q.name.encode.length))) :
    parseBody (pre ++ (q.encode ++ body)) qtype rcode ancount =
      if rcode ≠ 0 then .ok (.negative (negativeOf rcode) rcode)
      else if ancount = 0 then .ok (.negative .nodata rcode)
      else (answersLoop (pre ++ q.encode ++ body) qtype ancount.toNat ⟨(pre ++ q.encode).length,
        [], none⟩).map answersOutcome := by
  have hpos : (pre ++ q.encode).length = 12 + q.name.encode.length + 4 := by
    simp [Question.encode, be16, hpre]
    omega
  have hlen : ¬ 12 + q.name.encode.length + 4 > (pre ++ (q.encode ++ body)).length := by
    rw [← append_assoc, length_append, hpos]
    omega
  unfold parseBody
  rw [hname, hpos, append_assoc]
  simp only [bind, Except.bind, pure, Except.pure]
  rw [if_neg hlen]
  by_cases hr : rcode ≠ 0
  · rw [if_pos hr, if_pos hr]
  · rw [if_neg hr, if_neg hr]
    by_cases ha : ancount = 0
    · rw [if_pos ha, if_pos ha]
    · rw [if_neg ha, if_neg ha]
      cases answersLoop (pre ++ (q.encode ++ body)) qtype ancount.toNat ⟨12 + q.name.encode.length + 4, [], none⟩ with
      | error e => rfl
      | ok r =>
        cases r with
        | error out => rfl
        | ok acc =>
          show (if _ then _ else _) = Except.ok (answersOutcome (.ok acc))
          rw [answersOutcome_ok]
          by_cases hs : acc.summaries.isEmpty = true
          · rw [if_pos hs, if_pos hs]
          · rw [if_neg hs, if_neg hs]

/-- The answers that are read, judged. -/
theorem answersOutcome_read (pos : Nat) (records : List Record) :
    answersOutcome (.ok (records.foldl (·.read qtype ·) ⟨pos, [], none⟩)) = judge qtype 0 records := by
  obtain ⟨hsummaries, hmin⟩ := foldl_read qtype records ⟨pos, [], none⟩
  rw [answersOutcome_ok, hsummaries, hmin, judge, if_neg (show ¬ (0 : Nat) ≠ 0 by omega)]
  simp only [nil_append, Option.toList_none, List.isEmpty_iff, map_eq_nil_iff]

/-- The question and the answers the parser reads, at the start of what follows the header. -/
structure Body (s : Bytes) (rcode : Nat) (ancount : UInt16) (q : Question) (answers : List Record) : Prop where
  short : q.name.labels.length < 128
  count : answers.length = if rcode = 0 then ancount.toNat else 0
  shorts : ∀ r ∈ answers, r.Short
  bytes : ∃ rest, s = q.encode ++ (encodeAll answers ++ rest)

/-- Past the header, the parser finds a question and the answers it reads, or it refuses. -/
theorem parseBody_spec (s : Bytes) (hpre : pre.length = 12) (qtype : UInt16) (rcode : Nat) (ancount : UInt16) :
    (∃ q answers, Body s rcode ancount q answers ∧ parseBody (pre ++ s) qtype rcode ancount =
      .ok (judge qtype rcode answers)) ∨ ((∀ q answers, ¬ Body s rcode ancount q answers) ∧
      ∃ detail, parseBody (pre ++ s) qtype rcode ancount = .ok (.transportError detail)) := by
  rcases skipFrom_spec 128 pre s with ⟨w, rest, hw, rfl, hskip⟩ | ⟨hnone, hskip⟩
  · have hname : skipName (pre ++ (w.encode ++ rest)) 12 = .ok (some (12 + w.encode.length)) := hpre ▸ hskip
    by_cases hfour : 4 ≤ rest.length
    · obtain ⟨qtype', qclass, body, rfl⟩ := exists_question hfour
      let q : Question := ⟨w, qtype', qclass⟩
      have hq : w.encode ++ (be16 qtype' ++ (be16 qclass ++ body)) = q.encode ++ body := by
        simp only [Question.encode, q, append_assoc]
      rw [hq] at hname ⊢
      rw [parseBody_question q hpre qtype rcode ancount hname]
      by_cases hr : rcode ≠ 0
      · refine .inl ⟨q, [], ⟨hw, by rw [if_neg hr]; rfl, fun _ h => (not_mem_nil h).elim, body, rfl⟩, ?_⟩
        rw [if_pos hr, judge, if_pos hr]
      have hr : rcode = 0 := by omega
      subst hr
      rw [if_neg (by simp)]
      by_cases ha : ancount = 0
      · subst ha
        exact .inl ⟨q, [], ⟨hw, rfl, fun _ h => (not_mem_nil h).elim, body, rfl⟩, rfl⟩
      rw [if_neg ha]
      rcases answersLoop_spec qtype ancount.toNat (pre ++ q.encode) body ⟨(pre ++ q.encode).length, [], none⟩ rfl with
        ⟨answers, rest, hlen, hshort, rfl, hloop⟩ | ⟨hnone, detail, hloop⟩
      · refine .inl ⟨q, answers, ⟨hw, hlen, hshort, rest, rfl⟩, ?_⟩
        rw [hloop, ← answersOutcome_read qtype (pre ++ q.encode).length]
        rfl
      · refine .inr ⟨fun q' answers hbody => ?_, detail, by rw [hloop]; rfl⟩
        obtain ⟨rest, h⟩ := hbody.bytes
        exact hnone answers rest hbody.count hbody.shorts (delimited_question _ _ _ _ h).2
    · refine .inr ⟨fun q answers hbody => ?_, "question QTYPE/QCLASS truncated", ?_⟩
      · obtain ⟨rest', h⟩ := hbody.bytes
        rw [Question.encode, append_assoc, append_assoc] at h
        rw [(delimited_name _ _ _ _ h).2] at hfour
        simp [be16] at hfour
      · unfold parseBody
        rw [hname]
        simp only [bind, Except.bind, pure, Except.pure]
        rw [if_pos (by simp only [length_append, hpre]; omega)]
  · have hname : skipName (pre ++ s) 12 = .ok none := hpre ▸ hskip
    refine .inr ⟨fun q answers hbody => ?_, "malformed question name", ?_⟩
    · obtain ⟨rest, h⟩ := hbody.bytes
      rw [Question.encode, append_assoc] at h
      exact hnone _ _ hbody.short h
    · unfold parseBody
      rw [hname]
      rfl

/-- A datagram is a reply, and then judged by its answers, or it is refused. Nothing else
    happens: in particular no read is out of bounds. -/
theorem parse_spec (buf : Bytes) (id qtype : UInt16) :
    (∃ o answers, Reply buf id o answers ∧ parseResponse buf id qtype = .ok (judge qtype o.rcode answers)) ∨
    ((∀ o answers, ¬ Reply buf id o answers) ∧ ∃ detail,
      parseResponse buf id qtype = .ok (.transportError detail)) := by
  by_cases htwelve : 12 ≤ buf.length
  · obtain ⟨id', f₁, f₂, qd, an, ns, ar, s, rfl⟩ := exists_header htwelve
    rw [parse_header]
    -- what a reply says about the fields that were read
    have hfields : ∀ o answers, Reply (headerBytes id' f₁ f₂ qd an ns ar ++ s) id o answers →
        id' = id ∧ f₁ &&& 0x80 ≠ 0 ∧ f₁ &&& 0x02 = 0 ∧ qd = 1 ∧ Body s (f₂ &&& 0x0F).toNat an o.question answers := by
      intro o answers h
      obtain ⟨rest, e⟩ := h.bytes
      rw [encode_opening] at e
      obtain ⟨hid, hf₁, hf₂, hqd, han, -, -, hs⟩ := header_unique e
      refine ⟨hid.trans h.id, hf₁ ▸ h.qr, ?_, hqd, h.short, ?_, h.shorts, rest, hs⟩
      · rw [hf₁]
        exact Decidable.not_not.mp h.tc
      · rw [h.count, Opening.read, Opening.rcode, hf₂, han]
    by_cases hid : id' = id
    · rw [if_neg (not_not.mpr hid)]
      by_cases hqr : f₁ &&& 0x80 = 0
      · rw [if_pos hqr]
        exact .inr ⟨fun o answers h => (hfields o answers h).2.1 hqr, _, rfl⟩
      rw [if_neg hqr]
      by_cases htc : f₁ &&& 0x02 = 0
      · rw [if_neg (not_not.mpr htc)]
        by_cases hqd : qd = 1
        · rw [if_neg (not_not.mpr hqd)]
          rcases parseBody_spec (headerBytes id' f₁ f₂ qd an ns ar) s rfl qtype (f₂ &&& 0x0F).toNat an with
            ⟨q, answers, hbody, hparse⟩ | ⟨hnone, hparse⟩
          · obtain ⟨rest, hs⟩ := hbody.bytes
            refine .inl ⟨⟨id', f₁, f₂, an, ns, ar, q⟩, answers,
              ⟨hid, hqr, not_not.mpr htc, hbody.short, hbody.count, hbody.shorts, rest, ?_⟩, hparse⟩
            rw [encode_opening, ← hs, hqd]
          · exact .inr ⟨fun o answers h => hnone _ _ (hfields o answers h).2.2.2.2, hparse⟩
        · rw [if_pos hqd]
          exact .inr ⟨fun o answers h => hqd (hfields o answers h).2.2.2.1, _, rfl⟩
      · rw [if_pos htc]
        exact .inr ⟨fun o answers h => htc (hfields o answers h).2.2.1, _, rfl⟩
    · rw [if_pos hid]
      exact .inr ⟨fun o answers h => hid (hfields o answers h).1, _, rfl⟩
  · refine .inr ⟨fun o answers h => ?_, "response truncated: " ++ toString buf.length ++ " bytes < 12-byte header", ?_⟩
    · obtain ⟨rest, e⟩ := h.bytes
      have hlen := congrArg List.length e
      simp [encode_opening, headerBytes, be16] at hlen
      omega
    · unfold parseResponse
      rw [if_pos (by omega)]
      rfl

/-- A reply is judged by its answers. -/
theorem parse_reply (h : Reply buf id o answers) (qtype : UInt16) :
    parseResponse buf id qtype = .ok (judge qtype o.rcode answers) := by
  rcases parse_spec buf id qtype with ⟨o', answers', h', hparse⟩ | ⟨hnone, _⟩
  · obtain ⟨rfl, rfl⟩ := reply_unique h h'
    exact hparse
  · exact absurd h (hnone o answers)

/-! ## Responses -/

/-- A response message with one question: header, question, answers, and whatever follows. -/
structure Response where
  opening : Opening
  answers : List Record
  rest : Bytes
  counted : opening.ancount.toNat = answers.length
  /-- 255 octets hold no more labels. -/
  short : opening.question.name.labels.length < 128
  shorts : ∀ r ∈ answers, r.Short

/-- Up to the end of the answer section. -/
def Response.body (m : Response) : Bytes := m.opening.encode ++ encodeAll m.answers

def Response.encode (m : Response) : Bytes := m.body ++ m.rest

variable (m : Response)

/-- The parser sees no answers at a nonzero RCODE. -/
theorem Response.reply (hqr : m.opening.qr) (htc : ¬ m.opening.tc) :
    Reply m.encode m.opening.id m.opening (if m.opening.rcode = 0 then m.answers else []) := by
  refine ⟨rfl, hqr, htc, m.short, ?_, ?_, ?_⟩
  · unfold Opening.read
    split
    · exact m.counted.symm
    · rfl
  · split
    · exact m.shorts
    · exact fun _ h => (not_mem_nil h).elim
  · split
    · exact ⟨m.rest, by rw [Response.encode, Response.body, append_assoc]⟩
    · exact ⟨encodeAll m.answers ++ m.rest, by rw [Response.encode, Response.body, append_assoc]; rfl⟩

theorem judge_rcode (rcode : Nat) (answers : List Record) :
    judge qtype rcode (if rcode = 0 then answers else []) = judge qtype rcode answers := by
  by_cases h : rcode = 0
  · rw [if_pos h]
  · rw [if_neg h, judge, judge, if_pos h, if_pos h]

/-- A response that is cut in its answers is no reply. -/
theorem no_reply_of_cut (hrcode : m.opening.rcode = 0) {n : Nat} (hn : n < m.body.length) (id : UInt16) (o : Opening)
    (answers : List Record) : ¬ Reply (m.encode.take n) id o answers := by
  intro h
  obtain ⟨rest, e⟩ := h.bytes
  have hfull : m.opening.encode ++ (encodeAll m.answers ++ m.rest) =
      o.encode ++ (encodeAll answers ++ (rest ++ m.encode.drop n)) := by
    calc m.opening.encode ++ (encodeAll m.answers ++ m.rest)
        = m.encode := by rw [Response.encode, Response.body, append_assoc]
      _ = m.encode.take n ++ m.encode.drop n := (take_append_drop ..).symm
      _ = o.encode ++ (encodeAll answers ++ (rest ++ m.encode.drop n)) := by
        rw [e]
        simp only [append_assoc]
  obtain ⟨ho, htail⟩ := delimited_opening _ _ _ _ hfull
  have hcount : m.answers.length = answers.length := by
    rw [h.count, ← ho, Opening.read, if_pos hrcode, m.counted]
  obtain ⟨ha, _⟩ := delimited_record.flatMap hcount htail
  have hlen := congrArg List.length e
  rw [← ho, ← ha, ← append_assoc, length_take, length_append] at hlen
  have : (m.opening.encode ++ encodeAll m.answers).length = m.body.length := rfl
  omega

/-- The answer of a response with records of the asked type: one entry for each of them,
    sorted, and the least of their TTLs. -/
theorem judge_answer {qtype : UInt16} (h : ∃ r ∈ answers, r.rtype = qtype) :
    ∃ entries ttl, judge qtype 0 answers = .answer 0 (",".intercalate entries) (some (ttl.toNat : Int)) ∧
      entries.Perm ((answers.filter (·.rtype = qtype)).map Record.entry) ∧ entries.Pairwise (· ≤ ·) ∧
      (∃ r ∈ answers, r.rtype = qtype ∧ r.ttl = ttl) ∧ ∀ r ∈ answers, r.rtype = qtype → ttl ≤ r.ttl := by
  obtain ⟨r, hr, hq⟩ := h
  have hmem : r ∈ answers.filter (·.rtype = qtype) := mem_filter.mpr ⟨hr, by simpa using hq⟩
  have hne : answers.filter (·.rtype = qtype) ≠ [] := ne_nil_of_mem hmem
  obtain ⟨ttl, httl⟩ : ∃ ttl, ((answers.filter (·.rtype = qtype)).map Record.ttl).min? = some ttl := by
    cases hmin : ((answers.filter (·.rtype = qtype)).map Record.ttl).min? with
    | none => exact absurd (map_eq_nil_iff.mp (min?_eq_none_iff.mp hmin)) hne
    | some ttl => exact ⟨ttl, rfl⟩
  obtain ⟨hin, hleast⟩ := min?_eq_some_iff.mp httl
  refine ⟨_, ttl, ?_, perm_insertionSort (· ≤ ·) _, pairwise_insertionSort (· ≤ ·) _, ?_, ?_⟩
  · rw [judge, if_neg (show ¬ (0 : Nat) ≠ 0 by omega)]
    simp only
    rw [if_neg hne, httl]
    rfl
  · obtain ⟨r', hr', rfl⟩ := List.mem_map.mp hin
    obtain ⟨hr', hq'⟩ := mem_filter.mp hr'
    exact ⟨r', hr', by simpa using hq', rfl⟩
  · intro r' hr' hq'
    exact hleast _ (mem_map_of_mem (mem_filter.mpr ⟨hr', by simpa using hq'⟩))

/-- The parser always returns; what it returns for a response under its id is the kind of a
    nonzero RCODE, nodata without records of the asked type, and otherwise the sorted entries
    and the least TTL of exactly those records; a response with RCODE 0 that is cut before
    the end of its answers is refused. -/
theorem dns_response_decoded :
    (∀ buf id qtype, ∃ out, parseResponse buf id qtype = .ok out) ∧
    (∀ (m : Response) (qtype : UInt16), m.opening.qr → ¬ m.opening.tc →
      (m.opening.rcode ≠ 0 → parseResponse m.encode m.opening.id qtype =
        .ok (.negative (negativeOf m.opening.rcode) m.opening.rcode)) ∧
      (m.opening.rcode = 0 → (∀ r ∈ m.answers, r.rtype ≠ qtype) →
        parseResponse m.encode m.opening.id qtype = .ok (.negative .nodata 0)) ∧
      (m.opening.rcode = 0 → (∃ r ∈ m.answers, r.rtype = qtype) → ∃ entries ttl,
        parseResponse m.encode m.opening.id qtype = .ok (.answer 0 (",".intercalate entries) (some (ttl.toNat : Int))) ∧
        entries.Perm ((m.answers.filter (·.rtype = qtype)).map Record.entry) ∧ entries.Pairwise (· ≤ ·) ∧
        (∃ r ∈ m.answers, r.rtype = qtype ∧ r.ttl = ttl) ∧ ∀ r ∈ m.answers, r.rtype = qtype → ttl ≤ r.ttl)) ∧
    (∀ (m : Response) (qtype : UInt16) (n : Nat), m.opening.rcode = 0 → n < m.body.length →
      ∃ detail, parseResponse (m.encode.take n) m.opening.id qtype = .ok (.transportError detail)) := by
  refine ⟨fun buf id qtype => ?_, fun m qtype hqr htc => ?_, fun m qtype n hrcode hn => ?_⟩
  · rcases parse_spec buf id qtype with ⟨_, _, _, h⟩ | ⟨_, _, h⟩
    · exact ⟨_, h⟩
    · exact ⟨_, h⟩
  · have hparse := parse_reply (m.reply hqr htc) qtype
    rw [judge_rcode] at hparse
    refine ⟨fun hr => ?_, fun hr hno => ?_, fun hr hsome => ?_⟩
    · rw [hparse, judge, if_pos hr]
    · have hnil : m.answers.filter (·.rtype = qtype) = [] := filter_eq_nil_iff.mpr fun r h => by simpa using hno r h
      rw [hparse, judge, if_neg (by omega)]
      simp only
      rw [if_pos hnil]
    · obtain ⟨entries, ttl, hjudge, hentries⟩ := judge_answer hsome
      exact ⟨entries, ttl, by rw [hparse, hr, hjudge], hentries⟩
  · rcases parse_spec (m.encode.take n) m.opening.id qtype with ⟨o, answers, h, _⟩ | ⟨_, h⟩
    · exact absurd h (no_reply_of_cut m hrcode hn _ o answers)
    · exact h

/-! ## A response -/

def comLabel : Label := ⟨[99, 111, 109], by decide, by decide⟩

def exampleLabel : Label := ⟨[101, 120, 97, 109, 112, 108, 101], by decide, by decide⟩

/-- `example.com`, asked for its A records. -/
def exampleQuestion : Question := ⟨⟨[exampleLabel, comLabel], .root⟩, 1, 1⟩

/-- A record of the name in the question. -/
def pointed (rtype rclass : UInt16) (ttl : UInt32) (rdata : Bytes) (h : rdata.length < 65536) : Record :=
  ⟨⟨[], .pointer ⟨12, by decide⟩⟩, rtype, rclass, ttl, rdata, h⟩

/-- An alias and two addresses. -/
def exampleResponse : Response where
  opening := ⟨0x1234, 0x81, 0x80, 3, 0, 0, exampleQuestion⟩
  answers := [pointed 5 1 300 [0xC0, 0x0C] (by decide), pointed 1 1 120 [5, 6, 7, 8] (by decide),
    pointed 1 1 60 [1, 2, 3, 4] (by decide)]
  rest := []
  counted := by decide
  short := by decide
  shorts := by
    intro r hr
    simp only [mem_cons, not_mem_nil, or_false] at hr
    rcases hr with rfl | rfl | rfl <;> exact Nat.succ_pos _

theorem two_addresses_are_decoded :
    (∃ entries, ∃ ttl : UInt32, parseResponse exampleResponse.encode 0x1234 1 =
      .ok (.answer 0 (",".intercalate entries) (some (ttl.toNat : Int))) ∧
      entries.Perm ["5.6.7.8", "1.2.3.4"] ∧ entries.Pairwise (· ≤ ·)) ∧
    ∃ detail, parseResponse (exampleResponse.encode.take 70) 0x1234 1 = .ok (.transportError detail) := by
  obtain ⟨_, hdecoded, hcut⟩ := dns_response_decoded
  obtain ⟨entries, ttl, hparse, hperm, hsorted, _⟩ :=
    (hdecoded exampleResponse 1 (by unfold Opening.qr; decide) (by unfold Opening.tc; decide)).2.2 (by decide)
      ⟨pointed 1 1 120 [5, 6, 7, 8] (by decide), by simp [exampleResponse], rfl⟩
  have hentries : (exampleResponse.answers.filter (·.rtype = 1)).map Record.entry = ["5.6.7.8", "1.2.3.4"] :=
    by decide +kernel
  exact ⟨⟨entries, ttl, hparse, hentries ▸ hperm, hsorted⟩, hcut exampleResponse 1 70 (by decide) (by decide)⟩

end Nq.Dns
