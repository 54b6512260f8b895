/-
  Nq.Dns.Limits — what a query is long enough to be refused for (`probe.rs`, `build_query`,
  `skip_name`).

  `build_query` checks each label (1 to 63 ASCII bytes) and nothing about the name as a
  whole. A name on the wire holds at most 255 bytes, its root included, and `skip_name`
  gives up in its 129th step, so the parser reads at most 127 labels.

  - `length_encode_name`: the encoded name is two bytes longer than the name without its
    trailing dots;
  - `malformed_iff`: a reply that repeats a question is refused for its name exactly where
    the name has more than 127 labels;
  - `answerable_iff`: a query that is sent can be answered exactly where its name, without
    trailing dots, has at most 253 characters. What the question reads back as, and that
    no other name asks it, holds of every query.

  In `a_long_name_cannot_be_answered` the name is accepted and sent, and every reply to it
  is refused.
-/

import Nq.Dns.Question

namespace Nq.Dns

open List

/-- The name without its trailing dots. -/
def bare (name : String) : List Char := name.toList.rdropWhile (· == '.')

def Label.text (l : Label) : List Char := l.bytes.map fun b => Char.ofNat b.toNat

/-- What RFC 1035 leaves to a name: its bytes, the root's included. -/
def Name.Legal (n : Name) : Prop := n.tail = .root ∧ n.encode.length ≤ 255

/-- The question holds the labels of the name, as they are, and the type. -/
structure Question.Spells (q : Question) (name : String) (qtype : UInt16) : Prop where
  labels : q.name.labels.map Label.text = labelsOf name
  plain : q.name.tail = .root
  qtype : q.qtype = qtype
  qclass : q.qclass = 1

/-- No reply that repeats the question is refused for the name in it. -/
def Question.Readable (q : Question) (id qtype : UInt16) : Prop :=
  ∀ (reply : Opening) (body : Bytes), reply.question = q →
    parseResponse (reply.encode ++ body) id qtype ≠ .ok (.transportError "malformed question name")

/-- A query that can be answered, read as an opening. -/
structure Answerable (wide : Char → List Char) (id : UInt16)
    (name : String) (qtype : UInt16) (query : Bytes) (o : Opening) : Prop where
  sent : query = o.encode
  spells : o.question.Spells name qtype
  legal : o.question.name.Legal
  readable : o.question.Readable id qtype
  sole : ∀ (id' : UInt16) (name' : String) (qtype' : UInt16), buildQuery wide id' name' qtype' = .ok query →
    bare name' = bare name

/-! ## The name on the wire -/

theorem text_asBytes {l : List Char} (h : ∀ c ∈ l, c.toNat < 128) :
    (asBytes l).map (fun b => Char.ofNat b.toNat) = l := by
  unfold asBytes
  rw [map_map]
  calc l.map _ = l.map id := map_congr_left fun c hc => by
        show Char.ofNat (UInt8.ofNat c.toNat).toNat = c
        rw [toNat_byte (Nat.lt_trans (h c hc) (by omega)), Char.ofNat_toNat]
    _ = l := map_id l

theorem map_text {labels : List (List Char)} {ls : List Label} (hascii : ∀ l ∈ labels, ∀ c ∈ l, c.toNat < 128)
    (h : ls.map Label.bytes = labels.map asBytes) : ls.map Label.text = labels := by
  have hmap := congrArg (List.map (List.map fun b : UInt8 => Char.ofNat b.toNat)) h
  rw [map_map, map_map] at hmap
  calc ls.map Label.text = labels.map _ := hmap
    _ = labels.map id := map_congr_left fun l hl => text_asBytes (hascii l hl)
    _ = labels := map_id labels

theorem length_text (l : Label) : l.text.length = l.bytes.length := length_map _

/-- A text is a separator shorter than its parts with one each. -/
theorem length_splitOn (c : Char) (text : List Char) :
    ((text.splitOn c).map fun l => l.length + 1).sum = text.length + 1 := by
  have hjoin : ∀ ls : List (List Char), ls ≠ [] →
      (ls.map fun l => l.length + 1).sum = ([c].intercalate ls).length + 1 := by
    intro ls hne
    induction ls with
    | nil => exact absurd rfl hne
    | cons l ls ih =>
      cases ls with
      | nil => simp [List.intercalate]
      | cons l' ls =>
        have ih := ih (cons_ne_nil _ _)
        rw [map_cons, sum_cons, ih, intercalate_cons_of_ne_nil (cons_ne_nil _ _)]
        simp only [length_append, length_singleton]
        omega
  rw [hjoin _ (splitOn_ne_nil c text), intercalate_splitOn]

variable {name : String} {id qtype : UInt16} {c : Char} {buf pre query : Bytes} {out : WireOutcome}
  {wide : Char → List Char} {o : Opening} (q : Question) (n : Nat)

/-- The encoded name is two bytes longer: the first length, and the root. -/
theorem length_encode_name {q : Question} (h : q.Spells name qtype) :
    q.name.encode.length = (bare name).length + 2 := by
  have hlabels : (q.name.labels.flatMap Label.encode).length = ((labelsOf name).map fun l => l.length + 1).sum := by
    rw [← h.labels, map_map, length_flatMap]
    congr 1
    refine map_congr_left fun l _ => ?_
    show l.bytes.length + 1 = l.text.length + 1
    rw [length_text]
  rw [Name.encode, h.plain, length_append, hlabels, labelsOf, length_splitOn]
  rfl

theorem splitOn_inj {a b : List Char} (h : a.splitOn c = b.splitOn c) : a = b := by
  calc a = [c].intercalate (a.splitOn c) := (intercalate_splitOn c).symm
    _ = [c].intercalate (b.splitOn c) := by rw [h]
    _ = b := intercalate_splitOn c

/-! ## Replies to the question -/

/-- The error of a turn is about its answer. -/
theorem answerTurn_error {acc : Answers} (h : answerTurn buf qtype acc = .ok (.error out)) :
    out ≠ .transportError "malformed question name" := by
  unfold answerTurn at h
  obtain ⟨name, _, h⟩ := Sql.bind_ok.mp h
  cases name with
  | none =>
    cases h
    simp
  | some pos =>
    by_cases hten : pos + 10 > buf.length
    · simp only [if_pos hten] at h
      cases h
      simp
    · simp only [if_neg hten] at h
      obtain ⟨_, _, h⟩ := Sql.bind_ok.mp h
      obtain ⟨_, _, h⟩ := Sql.bind_ok.mp h
      obtain ⟨_, _, h⟩ := Sql.bind_ok.mp h
      obtain ⟨_, _, h⟩ := Sql.bind_ok.mp h
      obtain ⟨_, _, h⟩ := Sql.bind_ok.mp h
      obtain ⟨_, _, h⟩ := Sql.bind_ok.mp h
      obtain ⟨_, _, h⟩ := Sql.bind_ok.mp h
      obtain ⟨_, _, h⟩ := Sql.bind_ok.mp h
      split at h
      · cases h
        simp
      · split at h
        · obtain ⟨_, _, h⟩ := Sql.bind_ok.mp h
          cases h
        · cases h

theorem answersLoop_error : ∀ {n : Nat} {acc : Answers},
    answersLoop buf qtype n acc = .ok (.error out) → out ≠ .transportError "malformed question name" := by
  intro n
  induction n with
  | zero =>
    intro acc h
    cases h
  | succ n ih =>
    intro acc h
    rw [answersLoop] at h
    obtain ⟨turn, hturn, h⟩ := Sql.bind_ok.mp h
    cases turn with
    | error out' =>
      cases h
      exact answerTurn_error hturn
    | ok acc' => exact ih h

/-- The name of a question is skipped where it has at most 127 labels. -/
theorem skipName_question (hpre : pre.length = 12) (body : Bytes) :
    skipName (pre ++ (q.encode ++ body)) 12 =
      .ok (if q.name.labels.length < 128 then some (12 + q.name.encode.length) else none) := by
  have hencode : q.encode ++ body = q.name.encode ++ (be16 q.qtype ++ be16 q.qclass ++ body) := by
    rw [Question.encode, append_assoc]
  rcases skipFrom_spec 128 pre (q.encode ++ body) with ⟨w, rest, hw, hs, hskip⟩ | ⟨hnone, hskip⟩
  · obtain ⟨rfl, _⟩ := delimited_name _ _ _ _ (hencode.symm.trans hs)
    rw [if_pos hw, ← hpre]
    exact hskip
  · rw [if_neg fun hlt => hnone q.name _ hlt hencode, ← hpre]
    exact hskip

theorem parseBody_malformed (hpre : pre.length = 12) (body : Bytes) (qtype : UInt16) (rcode : Nat) (ancount : UInt16) :
    parseBody (pre ++ (q.encode ++ body)) qtype rcode ancount = .ok (.transportError "malformed question name") ↔
      128 ≤ q.name.labels.length := by
  have hname := skipName_question q hpre body
  by_cases hlt : q.name.labels.length < 128
  · rw [if_pos hlt] at hname
    rw [parseBody_question q hpre qtype rcode ancount hname]
    refine ⟨fun h => ?_, fun h => absurd hlt (by omega)⟩
    split at h
    · cases h
    · split at h
      · cases h
      · -- the error of an answer, or no error
        obtain ⟨read, hread, hout⟩ :
          ∃ read, answersLoop (pre ++ q.encode ++ body) qtype ancount.toNat ⟨(pre ++ q.encode).length, [], none⟩ =
            .ok read ∧ answersOutcome read = .transportError "malformed question name" := by
          revert h
          cases answersLoop (pre ++ q.encode ++ body) qtype ancount.toNat ⟨(pre ++ q.encode).length, [], none⟩ with
          | error e => exact fun h => nomatch h
          | ok read => exact fun h => ⟨read, rfl, Except.ok.inj h⟩
        cases read with
        | error out => exact absurd hout (answersLoop_error hread)
        | ok acc =>
          rw [answersOutcome_ok] at hout
          split at hout <;> cases hout
  · rw [if_neg hlt] at hname
    refine ⟨fun _ => by omega, fun _ => ?_⟩
    unfold parseBody
    rw [hname]
    rfl

theorem qr_reply : (0x80 : UInt8) &&& 0x80 ≠ 0 := by decide

theorem tc_reply : ¬(0x80 : UInt8) &&& 0x02 ≠ 0 := by decide

/-- A reply that repeats the question is refused for its name exactly where that has more
than 127 labels. -/
theorem malformed_iff (reply : Opening) (body : Bytes) (qtype : UInt16) (hid : reply.id = id) (hqr : reply.qr)
    (htc : ¬reply.tc) :
    parseResponse (reply.encode ++ body) id qtype = .ok (.transportError "malformed question name") ↔
      128 ≤ reply.question.name.labels.length := by
  rw [encode_opening, parse_header, if_neg (not_not.mpr hid), if_neg hqr,
    if_neg (not_not.mpr (not_not.mp htc)), if_neg (not_not.mpr rfl)]
  exact parseBody_malformed reply.question rfl body qtype _ _

theorem append_ne_malformed {start rest : String} (h : start.toList.head? = some c) (hne : c ≠ 'm') :
    start ++ rest ≠ "malformed question name" := by
  intro he
  have hhead := congrArg (fun s : String => s.toList.head?) he
  simp only [String.toList_append, head?_append, h, Option.some_or] at hhead
  exact hne (Option.some.inj (hhead.trans (by simp)))

theorem readable_iff (id qtype : UInt16) : q.Readable id qtype ↔ q.name.labels.length < 128 := by
  constructor
  · intro h
    by_contra hge
    exact h ⟨id, 0x80, 0, 0, 0, 0,
      q⟩ [] rfl ((malformed_iff ⟨id, 0x80, 0, 0, 0, 0, q⟩ [] qtype rfl qr_reply tc_reply).mpr (by simpa using hge))
  · rintro hlt reply body rfl h
    rw [encode_opening, parse_header] at h
    split at h
    · simp only [Except.ok.injEq, WireOutcome.transportError.injEq, String.append_assoc] at h
      exact append_ne_malformed (c := 'r') (by simp) (by decide) h
    · split at h
      · simp at h
      · split at h
        · simp at h
        · split at h
          · rename_i hone
            exact hone rfl
          · exact absurd ((parseBody_malformed reply.question rfl body qtype _ _).mp h) (by omega)

/-! ## Queries -/

/-- What holds of every query. -/
theorem buildQuery_spells (h : buildQuery wide id name qtype = .ok query) :
    ∃ o, query = Opening.encode o ∧ o.id = id ∧ o.question.Spells name qtype := by
  obtain ⟨hlabels, ls, hbytes, hquery⟩ := buildQuery_opening h
  exact ⟨_, hquery, rfl, map_text (fun l hl => (hlabels l hl).2.2) hbytes, rfl, rfl, rfl⟩

theorem encode_inj {o' : Opening} (h : o.encode = o'.encode) : o = o' :=
  (delimited_opening o o' [] [] (by rw [append_nil, append_nil, h])).1

/-- No other name asks the question, trailing dots apart. -/
theorem bare_of_buildQuery {id' : UInt16} {name' : String} {qtype' : UInt16}
    (h : buildQuery wide id name qtype = .ok query) (h' : buildQuery wide id' name' qtype' = .ok query) :
    bare name' = bare name := by
  obtain ⟨o, hquery, _, hspells⟩ := buildQuery_spells h
  obtain ⟨o', hquery', _, hspells'⟩ := buildQuery_spells h'
  obtain rfl := encode_inj (hquery.symm.trans hquery')
  exact splitOn_inj (hspells'.labels.symm.trans hspells.labels)

/-- 255 bytes hold at most 127 labels. -/
theorem readable_of_legal {q : Question} (h : q.name.Legal) (id qtype : UInt16) : q.Readable id qtype := by
  have hlength := length_labels q.name
  have hlegal := h.2
  exact (readable_iff q id qtype).mpr (by omega)

theorem length_of_answerable (h : Answerable wide id name qtype query o) : (bare name).length ≤ 253 := by
  have hlength := length_encode_name h.spells
  have hlegal := h.legal.2
  omega

/-- A query is one opening; it can be answered exactly where the name without trailing dots
has at most 253 characters, and replies to it are read exactly where it has at most 127
labels. It always spells its name, which no other name does. -/
theorem answerable_iff (wide : Char → List Char) (id : UInt16) (name : String) (qtype : UInt16) (query : Bytes)
    (h : buildQuery wide id name qtype = .ok query) :
    ∃ o : Opening, (∀ (o' : Opening) (body : Bytes), query = o'.encode ++ body ↔ o' = o ∧ body = []) ∧
      (Answerable wide id name qtype query o ↔ (bare name).length ≤ 253) ∧
      (o.question.Readable id qtype ↔ (labelsOf name).length ≤ 127) ∧
      o.question.Spells name qtype ∧
      ∀ (id' : UInt16) (name' : String) (qtype' : UInt16), buildQuery wide id' name' qtype' = .ok query →
        bare name' = bare name := by
  obtain ⟨o, hquery, _, hspells⟩ := buildQuery_spells h
  have hsole : ∀ (id' : UInt16) (name' : String) (qtype' : UInt16), buildQuery wide id' name' qtype' = .ok query →
      bare name' = bare name := fun _ _ _ h' => bare_of_buildQuery h h'
  have hcount : (labelsOf name).length = o.question.name.labels.length := by rw [← hspells.labels, length_map]
  refine ⟨o, fun o' body => ⟨fun hread => ?_, ?_⟩, ⟨length_of_answerable, fun hlength => ?_⟩, ?_, hspells, hsole⟩
  · obtain ⟨ho, hbody⟩ := delimited_opening o' o body [] (by rw [append_nil, ← hquery, hread])
    exact ⟨ho, hbody⟩
  · rintro ⟨rfl, rfl⟩
    rw [hquery, append_nil]
  · have hlegal : o.question.name.Legal := ⟨hspells.plain, by rw [length_encode_name hspells]; omega⟩
    exact ⟨hquery, hspells, hlegal, readable_of_legal hlegal id qtype, hsole⟩
  · rw [readable_iff, hcount]
    omega

/-! ## A long name -/

/-- Labels of one letter, each with a dot. -/
def dotted : Nat → List Char
  | 0 => []
  | n + 1 => 'a' :: '.' :: dotted n

/-- 128 labels. -/
def longName : String := String.ofList (dotted 127 ++ ['a'])

theorem length_dotted : (dotted n).length = 2 * n := by
  induction n with
  | zero => rfl
  | succ n ih =>
    simp only [dotted, length_cons, ih]
    omega

theorem splitOn_dotted : (dotted n ++ ['a']).splitOn '.' = List.replicate (n + 1) ['a'] := by
  induction n with
  | zero => exact splitOn_eq_singleton (by decide)
  | succ n ih =>
    show (['a'] ++ '.' :: (dotted n ++ ['a'])).splitOn '.' = _
    rw [splitOn_append_cons_self_of_not_mem (by decide), ih]
    rfl

theorem bare_longName : bare longName = dotted 127 ++ ['a'] := by
  rw [bare, longName, String.toList_ofList]
  exact rdropWhile_concat_neg _ _ _ (by decide)

theorem labelsOf_longName : labelsOf longName = List.replicate 128 ['a'] :=
  (congrArg (List.splitOn '.') bare_longName).trans (splitOn_dotted 127)

/-- The query is sent, and every reply that repeats its question is refused for the name. -/
theorem a_long_name_cannot_be_answered : ∃ query, buildQuery (fun _ => []) 0x1234 longName 1 = .ok query ∧
    (¬∃ o, Answerable (fun _ => []) 0x1234 longName 1 query o) ∧
    ∃ o : Opening, query = o.encode ∧
      ∀ body, parseResponse (Opening.encode { o with flags₁ := 0x80 } ++ body) 0x1234 1 =
      .ok (.transportError "malformed question name") := by
  have hlength : (bare longName).length = 255 := by
    rw [bare_longName, length_append, length_dotted, length_singleton]
  have hne : ¬(longName.toList.rdropWhile (· == '.')).isEmpty = true := by
    intro hempty
    have hnil : bare longName = [] := List.isEmpty_iff.mp hempty
    rw [hnil] at hlength
    cases hlength
  have hchecks : (labelsOf longName).forM (checkLabel (fun _ => []) longName) = .ok () := by
    rw [labelsOf_longName, Collections.forM_ok]
    intro l hl
    rw [eq_of_mem_replicate hl, checkLabel_ok]
    simp
  obtain ⟨query, hquery⟩ : ∃ query, buildQuery (fun _ => []) 0x1234 longName 1 = .ok query :=
    ⟨_, by rw [buildQuery, if_neg hne, hchecks]; rfl⟩
  obtain ⟨o, ho, hid, hspells⟩ := buildQuery_spells hquery
  refine ⟨query, hquery, ?_, o, ho, fun body => ?_⟩
  · rintro ⟨_, h⟩
    have hle := length_of_answerable h
    omega
  · have hcount : o.question.name.labels.length = 128 := by
      rw [← length_map (f := Label.text), hspells.labels, labelsOf_longName, length_replicate]
    exact (malformed_iff { o with flags₁ := 0x80 } body 1 hid qr_reply tc_reply).mpr hcount.ge

/-- A query for `example.com` can be answered. -/
theorem a_short_name_can_be_answered : ∃ query o, buildQuery (fun _ => []) 0x1234 "example.com" 1 = .ok query ∧
    Answerable (fun _ => []) 0x1234 "example.com" 1 query o := by
  obtain ⟨query, hquery⟩ := exists_query
  obtain ⟨o, _, hanswerable, _⟩ := answerable_iff (fun _ => []) 0x1234 "example.com" 1 query hquery
  exact ⟨query, o, hquery, hanswerable.mpr (by simp [bare, List.rdropWhile])⟩

end Nq.Dns
