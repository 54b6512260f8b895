/-
  Nq.Dns.Question — whether the testimony is about the question (`probe.rs`,
  `build_query`, `parse_response`, `record_probe`).

  The parser skips the question of a reply without comparing it with the one that was sent,
  and matches an answer record by its type, not its class. So an outcome that is recorded as
  testimony is about the question that was asked exactly when the reply happens to repeat
  it (`testimony_about_question_iff`); `another_question_is_recorded` is a reply to another
  name.
-/

import Nq.Collections.Checks
import Nq.Dns.Response

namespace Nq.Dns

open List

/-! ## The question that was sent -/

/-- An ASCII letter, in lower case. -/
def lower (b : UInt8) : UInt8 := if 65 ≤ b ∧ b ≤ 90 then b + 32 else b

/-- The question is the one for the name and the type, in class IN; case is ignored. -/
structure Question.Asks (q : Question) (name : String) (qtype : UInt16) : Prop where
  name : q.name.labels.map (fun l => l.bytes.map lower) = (labelsOf name).map fun l => (asBytes l).map lower
  plain : q.name.tail = .root
  qtype : q.qtype = qtype
  qclass : q.qclass = 1

/-- The question section of the datagram is the one for the name and the type. -/
def Asks (buf : Bytes) (name : String) (qtype : UInt16) : Prop :=
  ∃ o body, buf = Opening.encode o ++ body ∧ o.question.Asks name qtype

variable {name : String} {id qtype : UInt16} {label : List Char} {wide : Char → List Char} {query : Bytes}

theorem asks_of_encode {o : Opening} {body : Bytes} :
    Asks (o.encode ++ body) name qtype ↔ o.question.Asks name qtype := by
  constructor
  · rintro ⟨o', body', h, hasks⟩
    rw [(delimited_opening _ _ _ _ h).1]
    exact hasks
  · exact fun h => ⟨o, body, rfl, h⟩

theorem utf8Len_ascii (h : ∀ c ∈ label, c.toNat < 128) : utf8Len label = label.length := by
  unfold utf8Len
  rw [map_congr_left (g := fun _ => 1) fun c hc => Char.utf8Size_eq_one_iff.mpr (UInt32.le_iff_toNat_le.mpr (by
    have : c.val.toNat < 128 := h c hc
    show c.val.toNat ≤ 127
    omega))]
  simp

theorem checkLabel_ok :
    checkLabel wide name label = .ok () ↔ 0 < label.length ∧ label.length < 64 ∧ ∀ c ∈ label, c.toNat < 128 := by
  unfold checkLabel
  constructor
  · intro h
    split at h
    · cases h
    · rename_i hne
      split at h
      · cases h
      · rename_i hlen
        split at h
        · cases h
        · rename_i hascii
          have hascii := not_not.mp hascii
          rw [utf8Len_ascii hascii] at hlen
          exact ⟨length_pos_of_ne_nil fun e => hne (by rw [e]; rfl), by omega, hascii⟩
  · rintro ⟨hpos, hlen, hascii⟩
    have hne : ¬ label.isEmpty = true := by
      intro h
      rw [List.isEmpty_iff.mp h] at hpos
      exact Nat.lt_irrefl _ hpos
    rw [if_neg hne, if_neg (by rw [utf8Len_ascii hascii]; omega), if_neg (show ¬¬IsAscii label from not_not.mpr hascii)]

/-- Labels that pass are the labels of a name. -/
theorem exists_labels {labels : List (List Char)} (h : ∀ l ∈ labels, 0 < l.length ∧ l.length < 64) :
    ∃ ls : List Label, ls.map Label.bytes = labels.map asBytes ∧
      ls.flatMap Label.encode = labels.flatMap fun l => UInt8.ofNat l.length :: asBytes l := by
  induction labels with
  | nil => exact ⟨[], rfl, rfl⟩
  | cons l labels ih =>
    obtain ⟨ls, hbytes, hencode⟩ := ih fun l' hl' => h l' (mem_cons_of_mem _ hl')
    have hlen : (asBytes l).length = l.length := length_map _
    have hl := h l mem_cons_self
    refine ⟨⟨asBytes l, by omega, by omega⟩ :: ls, ?_, ?_⟩
    · rw [map_cons, map_cons, hbytes]
    · rw [flatMap_cons, flatMap_cons, hencode, Label.encode]
      simp only [hlen]

/-- A query is the opening that asks for the labels of the name. -/
theorem buildQuery_opening (h : buildQuery wide id name qtype = .ok query) :
    (∀ l ∈ labelsOf name, 0 < l.length ∧ l.length < 64 ∧ ∀ c ∈ l, c.toNat < 128) ∧
    ∃ ls : List Label, ls.map Label.bytes = (labelsOf name).map asBytes ∧
      query = Opening.encode ⟨id, 1, 0, 0, 0, 0, ⟨⟨ls, .root⟩, qtype, 1⟩⟩ := by
  unfold buildQuery at h
  split at h
  · cases h
  · obtain ⟨hchecks, hquery⟩ := Collections.check_ok.mp h
    have hall : ∀ l ∈ labelsOf name, checkLabel wide name l = .ok () := Collections.forM_ok.mp hchecks
    obtain ⟨ls, hbytes, hencode⟩ := exists_labels fun l hl =>
      ⟨(checkLabel_ok.mp (hall l hl)).1, (checkLabel_ok.mp (hall l hl)).2.1⟩
    refine ⟨fun l hl => checkLabel_ok.mp (hall l hl), ls, hbytes, ?_⟩
    rw [← Except.ok.inj hquery, ← hencode]
    simp only [Opening.encode, Question.encode, Name.encode, NameEnd.encode, append_assoc]
    rfl

/-- The query asks the question. -/
theorem buildQuery_asks (h : buildQuery wide id name qtype = .ok query) : Asks query name qtype := by
  obtain ⟨_, ls, hbytes, rfl⟩ := buildQuery_opening h
  refine ⟨_, [], (append_nil _).symm, ?_, rfl, rfl, rfl⟩
  have hmap := congrArg (List.map (List.map lower)) hbytes
  rwa [map_map, map_map] at hmap

/-! ## Testimony -/

/-- What is recorded as testimony: an answer or a negative. -/
def WireOutcome.testifies : WireOutcome → Prop
  | .answer .. | .negative .. => True
  | .timeout | .transportError _ => False

def WireOutcome.isAnswer : WireOutcome → Prop
  | .answer .. => True
  | _ => False

theorem testifies_judge (qtype : UInt16) (rcode : Nat)
    (answers : List Record) : (judge qtype rcode answers).testifies := by
  unfold judge
  split
  · trivial
  · simp only
    split <;> trivial

/-- A reply is judged an answer if it has a record of the type. -/
theorem isAnswer_judge {rcode : Nat} {answers : List Record} :
    (judge qtype rcode answers).isAnswer ↔ rcode = 0 ∧ ∃ r ∈ answers, r.rtype = qtype := by
  unfold judge
  by_cases hr : rcode ≠ 0
  · rw [if_pos hr]
    exact ⟨fun h => h.elim, fun h => absurd h.1 hr⟩
  · rw [if_neg hr]
    simp only
    by_cases hnil : answers.filter (·.rtype = qtype) = []
    · rw [if_pos hnil]
      refine ⟨fun h => h.elim, fun ⟨_, r, hmem, hq⟩ => ?_⟩
      exact absurd (by simpa using hq) (filter_eq_nil_iff.mp hnil r hmem)
    · rw [if_neg hnil]
      obtain ⟨r, hmem⟩ := exists_mem_of_ne_nil _ hnil
      obtain ⟨hmem, hq⟩ := mem_filter.mp hmem
      exact ⟨fun _ => ⟨by omega, r, hmem, by simpa using hq⟩, fun _ => trivial⟩

/-- The outcome, where it is testimony, is about the question; an answer counts records of
    class IN only. -/
structure AboutQuestion (buf : Bytes) (id : UInt16) (name : String) (qtype : UInt16) (out : WireOutcome) : Prop where
  asked : out.testifies → Asks buf name qtype
  counted : out.isAnswer → ∀ o answers, Reply buf id o answers → ∀ r ∈ answers, r.rtype = qtype → r.rclass = 1

/-- For every name and type a query can be built for, and every datagram: the outcome is
    about the question exactly when the datagram, if it is a reply at all, repeats it, with
    no answer of the type in another class at RCODE 0. -/
theorem testimony_about_question_iff (wide : Char → List Char)
    (id : UInt16) (name : String) (qtype : UInt16) (query : Bytes)
    (hquery : buildQuery wide id name qtype = .ok query) (buf : Bytes) :
    Asks query name qtype ∧
    ((∃ out, parseResponse buf id qtype = .ok out ∧ AboutQuestion buf id name qtype out) ↔
      ∀ o answers, Reply buf id o answers → o.question.Asks name qtype ∧
        (o.rcode = 0 → ∀ r ∈ answers, r.rtype = qtype → r.rclass = 1)) := by
  refine ⟨buildQuery_asks hquery, ?_⟩
  rcases parse_spec buf id qtype with ⟨o, answers, hreply, hparse⟩ | ⟨hnone, detail, hparse⟩
  · obtain ⟨rest, hbuf⟩ := hreply.bytes
    have hasks : Asks buf name qtype ↔ o.question.Asks name qtype := by rw [hbuf, asks_of_encode]
    constructor
    · rintro ⟨out, hout, habout⟩ o' answers' hreply'
      obtain ⟨rfl, rfl⟩ := reply_unique hreply hreply'
      obtain rfl := Except.ok.inj (hparse.symm.trans hout)
      refine ⟨hasks.mp (habout.asked (testifies_judge ..)), fun hrcode r hr hq => ?_⟩
      exact habout.counted (isAnswer_judge.mpr ⟨hrcode, r, hr, hq⟩) o answers hreply r hr hq
    · intro h
      obtain ⟨ho, hclass⟩ := h o answers hreply
      refine ⟨_, hparse, fun _ => hasks.mpr ho, fun hanswer o' answers' hreply' r hr hq => ?_⟩
      obtain ⟨rfl, rfl⟩ := reply_unique hreply hreply'
      exact hclass (isAnswer_judge.mp hanswer).1 r hr hq
  · constructor
    · exact fun _ o answers h => absurd h (hnone o answers)
    · exact fun _ => ⟨_, hparse, fun h => h.elim, fun h => h.elim⟩

/-! ## Two replies -/

def evilLabel : Label := ⟨[101, 118, 105, 108], by decide, by decide⟩

/-- A reply under the id about `evil.example`. -/
def otherResponse : Response where
  opening := ⟨0x1234, 0x81, 0x80, 1, 0, 0, ⟨⟨[evilLabel, exampleLabel], .root⟩, 1, 1⟩⟩
  answers := [pointed 1 1 60 [6, 6, 6, 6] (by decide)]
  rest := []
  counted := by decide
  short := by decide
  shorts := by
    intro r hr
    rw [mem_singleton] at hr
    exact hr ▸ Nat.succ_pos _

theorem labelsOf_example : labelsOf "example.com" = [['e', 'x', 'a', 'm', 'p', 'l', 'e'], ['c', 'o', 'm']] := by
  have hchars : "example.com".toList = ['e', 'x', 'a', 'm', 'p', 'l', 'e', '.', 'c', 'o', 'm'] := by simp
  rw [labelsOf, hchars]
  decide +kernel

theorem exists_query : ∃ query, buildQuery (fun _ => []) 0x1234 "example.com" 1 = .ok query := by
  have hne : ¬ ("example.com".toList.rdropWhile (· == '.')).isEmpty = true := by
    simp [List.rdropWhile]
  have hchecks : (labelsOf "example.com").forM (checkLabel (fun _ => []) "example.com") = .ok () := by
    rw [labelsOf_example, Collections.forM_ok]
    intro l hl
    rw [checkLabel_ok]
    simp only [mem_cons, not_mem_nil, or_false] at hl
    rcases hl with rfl | rfl <;> simp
  exact ⟨_, by rw [buildQuery, if_neg hne, hchecks]; rfl⟩

theorem another_question_is_recorded :
    (∃ query, buildQuery (fun _ => []) 0x1234 "example.com" 1 = .ok query) ∧
    parseResponse otherResponse.encode 0x1234 1 = .ok (.answer 0 "6.6.6.6" (some 60)) ∧
    (recordProbe 7 "web-1" "9.9.9.9" "example.com" "A" (.answer 0 "6.6.6.6" (some 60))
      12 "2026-05-20T00:00:00Z").responseKind =
      .success ∧
    ¬ Asks otherResponse.encode "example.com" 1 := by
  refine ⟨exists_query, by decide +kernel, rfl, ?_⟩
  rw [Response.encode, Response.body, append_assoc, asks_of_encode]
  intro h
  have hname := h.name
  rw [labelsOf_example] at hname
  revert hname
  decide +kernel

/-- The response about `example.com`, of class IN throughout. -/
theorem the_question_repeated_is_testimony : ∃ out, parseResponse exampleResponse.encode 0x1234 1 = .ok out ∧
    AboutQuestion exampleResponse.encode 0x1234 "example.com" 1 out := by
  obtain ⟨query, hquery⟩ := exists_query
  have hreply := exampleResponse.reply (by unfold Opening.qr; decide) (by unfold Opening.tc; decide)
  refine (testimony_about_question_iff (fun _ => []) 0x1234 "example.com" 1 query hquery _).2.mpr
    fun o answers h => ?_
  obtain ⟨rfl, rfl⟩ := reply_unique hreply h
  refine ⟨⟨by rw [labelsOf_example]; decide +kernel, rfl, rfl, rfl⟩, fun _ => ?_⟩
  rw [if_pos (by decide)]
  decide

end Nq.Dns
