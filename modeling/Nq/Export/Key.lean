/-
  Nq.Export.Key — the export of one finding by its key (`nq-db/src/export.rs`,
  `parse_finding_key`, `export_findings_from_conn`).

  The filter by key reads the identity the key stands for and looks for its row. The reader
  undoes `compute_finding_key` and comes to an end on every text (`parseFindingKey_compute`,
  `parseFindingKey_returns`), but reads more texts than are computed: `keysMatch_iff`.

  - `a_key_in_lower_case_is_exported`.
-/

import Nq.Export.Snapshot
import Nq.Findings.Finding
import Nq.Text.Lines
import Nq.Text.Unescape

namespace Nq.Export

open List
open Text.Percent (Canonical Escapes Spells digitValue escape fromUtf8 fromUtf8_eq_some utf8)

/-! ## The reader -/

inductive KeyError where
  | components (got : Nat)
  | invalidPercentEncoding
  | notUtf8
  deriving DecidableEq, Repr

/-- An error that is returned, an index or slice that is not there, or a loop that does not end. -/
inductive Fault where
  | err (e : KeyError)
  | outOfBounds
  | stuck
  deriving DecidableEq, Repr

def readHex (digits : List UInt8) : Option Nat := digits.foldlM (fun acc d => (digitValue d).map (16 * acc + ·)) 0

/-- A leading '+' is passed over where something is behind it. -/
def digitsOf : List UInt8 → List UInt8
  | 43 :: d :: rest => d :: rest
  | src => src

/-- `u8::from_str_radix(_, 16)` of a `str` by its bytes. -/
def fromStrRadix (src : List UInt8) : Option UInt8 :=
  if src = [] then none else ((readHex (digitsOf src)).filter (· < 256)).map UInt8.ofNat

/-- The two bytes behind a '%': as a `str`, and as a number. -/
def readEscape (h : List UInt8) : Option UInt8 := (fromUtf8 h).bind fun h => fromStrRadix (utf8 h.toList)

/-- `&bytes[start..stop]` -/
def sliceOf (bytes : List UInt8) (start stop : Nat) : Option (List UInt8) :=
  if start ≤ stop ∧ stop ≤ bytes.length then some ((bytes.take stop).drop start) else none

/-- The loop of `decode` at the byte `i`; without fuel it did not end. -/
def decodeLoop (bytes : List UInt8) : Nat → Nat → List UInt8 → Except Fault (List UInt8)
  | 0, _, _ => .error .stuck
  | fuel + 1, i, out =>
    if i < bytes.length then
      match bytes[i]? with
      | none => .error .outOfBounds
      | some c =>
        if c = 37 ∧ i + 2 < bytes.length then
          match sliceOf bytes (i + 1) (i + 3) with
          | none => .error .outOfBounds
          | some h =>
            match readEscape h with
            | none => .error (.err .invalidPercentEncoding)
            | some b => decodeLoop bytes fuel (i + 3) (out ++ [b])
        else decodeLoop bytes fuel (i + 1) (out ++ [c])
    else .ok out

def decode (s : List Char) : Except Fault String := do
  let out ← decodeLoop (utf8 s) ((utf8 s).length + 1) 0 []
  match fromUtf8 out with
  | none => .error (.err .notUtf8)
  | some s => return s

def parseFindingKey (key : String) : Except Fault (String × String × String × String) :=
  match Text.splitn 4 '/' key.toList with
  | [scope, host, detector, subject] => do
    let host ← decode host
    let detector ← decode detector
    let subject ← decode subject
    return (String.ofList scope, host, detector, subject)
  | parts => .error (.err (.components parts.length))

/-! ## The export -/

structure KeyedFilter extends ExportFilter where
  findingKey : Option String := none

/-- The clauses of the filter by key. -/
def isOf (host kind subject : String) (r : WarningRow) : Bool := r.host = host && r.kind = kind && r.subject = subject

/-- `export_findings_from_conn`; a filter by key wins over the others. -/
def exportFindingsFromConn (db : Db) (filter : KeyedFilter) : Except Fault (List FindingSnapshot) :=
  match filter.findingKey with
  | none => .ok (exportFindings db filter.toExportFilter)
  | some fk => do
    let (scope, host, kind, subject) ← parseFindingKey fk
    if scope ≠ "local" then return []
    else
      let rows := (db.warningState.rows.filter (isOf host kind subject)).insertionSort byIdentity
      return rows.map (snapshot db.warningState (generationContext db) filter.toExportFilter)

/-! ## Keys -/

/-- The components of a key that stands for the identity. -/
structure SpelledAs (key : String) (host kind subject : List Char) (k : FindingId) : Prop where
  key_eq : key.toList = "local".toList ++ '/' :: (host ++ '/' :: (kind ++ '/' :: subject))
  host_whole : '/' ∉ host
  kind_whole : '/' ∉ kind
  host_spells : Spells (utf8 host) (utf8 k.host.toList)
  kind_spells : Spells (utf8 kind) (utf8 k.kind.toList)
  subject_spells : Spells (utf8 subject) (utf8 k.subject.toList)

/-- Keys are read back, tell findings of one generation apart, are read or refused, and are exported as they are
    given. -/
structure KeysMatch (db : Db) (key : String) : Prop where
  roundTrip : ∀ scope host kind subject : String, '/' ∉ scope.toList →
    parseFindingKey (computeFindingKey scope host kind subject) = .ok (scope, host, kind, subject)
  distinct : ∀ (o o' : ObservationRow) (k k' : FindingId), o.findingKey = k.key →
    o'.findingKey = k'.key → o.pk = o'.pk → k = k'
  returns : ∀ text, (∃ parts, parseFindingKey text = .ok parts) ∨ ∃ e, parseFindingKey text = .error (.err e)
  exported : ∀ filter : KeyedFilter, filter.findingKey = some key → ∀ snaps, exportFindingsFromConn db filter =
    .ok snaps → ∀ s ∈ snaps, s.findingKey = key

/-! ## Escapes -/

theorem readHex_one (b : UInt8) : readHex [b] = digitValue b := by
  unfold readHex
  cases hb : digitValue b <;> simp [hb]

theorem readHex_two (a b : UInt8) : readHex [a, b] = (digitValue a).bind fun x => (digitValue b).map (16 * x + ·) := by
  unfold readHex
  cases ha : digitValue a <;> cases hb : digitValue b <;> simp [ha, hb]

variable {a b v : UInt8} {host kind subject : List Char} (before out : List UInt8) (s : List Char)

theorem byte_eq_some {o : Option Nat} (hlt : ∀ n, o = some n → n < 256) :
    (o.filter (· < 256)).map UInt8.ofNat = some v ↔ ∃ n, o = some n ∧ v = UInt8.ofNat n := by
  cases o with
  | none => simp
  | some n =>
    have hfilter : (some n).filter (· < 256) = some n := by simp [Option.filter_some, hlt n rfl]
    rw [hfilter]
    simp [eq_comm]

theorem fromStrRadix_plus : fromStrRadix [43, b] = some v ↔ ∃ y, digitValue b = some y ∧ v = UInt8.ofNat y := by
  unfold fromStrRadix
  rw [if_neg (cons_ne_nil _ _), show digitsOf [43, b] = [b] from rfl, readHex_one, byte_eq_some]
  intro n hn
  exact (Text.Percent.digitValue_lt hn).1.trans (by decide)

theorem fromStrRadix_digits (ha : a ≠ 43) :
    fromStrRadix [a, b] = some v ↔ ∃ x y, digitValue a = some x ∧
      digitValue b = some y ∧ v = UInt8.ofNat (16 * x + y) := by
  have hpair : ∀ n, (digitValue a).bind (fun x => (digitValue b).map (16 * x + ·)) = some n ↔
      ∃ x y, digitValue a = some x ∧ digitValue b = some y ∧ n = 16 * x + y := by
    intro n
    simp only [Option.bind_eq_some_iff, Option.map_eq_some_iff]
    constructor
    · rintro ⟨x, hx, y, hy, rfl⟩
      exact ⟨x, y, hx, hy, rfl⟩
    · rintro ⟨x, y, hx, hy, rfl⟩
      exact ⟨x, hx, y, hy, rfl⟩
  have hdigits : digitsOf [a, b] = [a, b] := by
    unfold digitsOf
    split
    next hplus => exact absurd (List.cons.inj hplus).1 ha
    next => rfl
  unfold fromStrRadix
  rw [if_neg (cons_ne_nil _ _), hdigits, readHex_two, byte_eq_some]
  · simp only [hpair]
    constructor
    · rintro ⟨_, ⟨x, y, hx, hy, rfl⟩, rfl⟩
      exact ⟨x, y, hx, hy, rfl⟩
    · rintro ⟨x, y, hx, hy, rfl⟩
      exact ⟨_, ⟨x, y, hx, hy, rfl⟩, rfl⟩
  · intro n hn
    obtain ⟨x, y, hx, hy, rfl⟩ := (hpair n).mp hn
    have hx := (Text.Percent.digitValue_lt hx).1
    have hy := (Text.Percent.digitValue_lt hy).1
    omega

theorem fromStrRadix_pair : fromStrRadix [a, b] = some v ↔ Escapes a b v := by
  by_cases ha : a = 43
  · subst ha
    rw [fromStrRadix_plus]
    constructor
    · intro h
      exact .inl ⟨rfl, h⟩
    · rintro (⟨_, h⟩ | ⟨x, _, hx, _⟩)
      · exact h
      · rw [Text.Percent.not_digit_plus] at hx
        cases hx
  · rw [fromStrRadix_digits ha]
    exact ⟨.inr, fun h => h.resolve_left fun hplus => ha hplus.1⟩

theorem readEscape_iff : readEscape [a, b] = some v ↔ Escapes a b v := by
  unfold readEscape
  rw [Option.bind_eq_some_iff]
  constructor
  · rintro ⟨h, hh, hv⟩
    rw [fromUtf8_eq_some.mp hh] at hv
    exact fromStrRadix_pair.mp hv
  · intro h
    obtain ⟨ha, hb⟩ := h.ascii
    have hbytes : utf8 (String.ofList [Char.ofNat a.toNat, Char.ofNat b.toNat]).toList = [a, b] := by
      rw [String.toList_ofList]
      show String.utf8EncodeChar _ ++ (String.utf8EncodeChar _ ++ []) = _
      rw [Text.Percent.utf8_ascii ha, Text.Percent.utf8_ascii hb, UInt8.ofNat_toNat, UInt8.ofNat_toNat]
      rfl
    refine ⟨_, fromUtf8_eq_some.mpr hbytes, ?_⟩
    rw [hbytes]
    exact fromStrRadix_pair.mpr h

theorem sliceOf_escape (a b : UInt8) (text : List UInt8) :
    sliceOf (before ++ 37 :: a :: b :: text) (before.length + 1) (before.length + 3) = some [a, b] := by
  have htake : (before ++ 37 :: a :: b :: text).take (before.length + 3) = before ++ [37, a, b] := by
    rw [take_length_add_append]
    rfl
  have hdrop : (before ++ [37, a, b]).drop (before.length + 1) = [a, b] := by
    rw [drop_length_add_append]
    rfl
  unfold sliceOf
  rw [if_pos (by simp only [length_append, length_cons]; omega), htake, hdrop]

/-- A '%' with two bytes behind it. -/
theorem decodeLoop_escape (a b : UInt8) (text : List UInt8) (fuel : Nat) :
    decodeLoop (before ++ 37 :: a :: b :: text) (fuel + 1) before.length out =
      match readEscape [a, b] with
      | none => .error (.err .invalidPercentEncoding)
      | some v => decodeLoop (before ++ 37 :: a :: b :: text) fuel (before ++ [37, a, b]).length (out ++ [v]) := by
  have hin : before.length < (before ++ 37 :: a :: b :: text).length := by simp
  have hhere : (before ++ 37 :: a :: b :: text)[before.length]? = some 37 := by simp
  have hpair : before.length + 2 < (before ++ 37 :: a :: b :: text).length := by
    simp only [length_append, length_cons]
    omega
  rw [decodeLoop, if_pos hin, hhere]
  dsimp only
  rw [if_pos ⟨rfl, hpair⟩, sliceOf_escape]
  dsimp only
  cases readEscape [a, b] with
  | none => rfl
  | some v => rw [length_append]; rfl

/-- Any other byte. -/
theorem decodeLoop_plain {c : UInt8} {text : List UInt8} (h : c = 37 → text.length < 2) (fuel : Nat) :
    decodeLoop (before ++ c :: text) (fuel + 1) before.length out =
      decodeLoop (before ++ c :: text) fuel (before ++ [c]).length (out ++ [c]) := by
  have hin : before.length < (before ++ c :: text).length := by simp
  have hhere : (before ++ c :: text)[before.length]? = some c := by simp
  have hplain : ¬(c = 37 ∧ before.length + 2 < (before ++ c :: text).length) := by
    rintro ⟨hc, hlen⟩
    have hshort := h hc
    rw [length_append, length_cons] at hlen
    omega
  rw [decodeLoop, if_pos hin, hhere]
  dsimp only
  rw [if_neg hplain, length_append]
  rfl

/-- The loop behind `before`: the rest spells what is put behind `out`, or is refused. -/
theorem decodeLoop_spec (fuel : Nat) : ∀ (before rest out : List UInt8), rest.length < fuel →
    (∃ bytes, decodeLoop (before ++ rest) fuel before.length out = .ok (out ++ bytes) ∧ Spells rest bytes) ∨
      (decodeLoop (before ++ rest) fuel before.length out = .error (.err .invalidPercentEncoding) ∧ ∀ bytes,
        ¬Spells rest bytes) := by
  induction fuel with
  | zero =>
    intro before rest out h
    exact absurd h (Nat.not_lt_zero _)
  | succ fuel ih =>
    intro before rest out h
    rcases rest with _ | ⟨c, rest⟩
    · refine .inl ⟨[], ?_, .nil⟩
      rw [decodeLoop, if_neg (by simp), append_nil]
    rw [length_cons] at h
    by_cases hplain : c = 37 → rest.length < 2
    · rw [decodeLoop_plain before out hplain]
      have hrest := ih (before ++ [c]) rest (out ++ [c]) (by omega)
      rw [append_assoc, singleton_append] at hrest
      rcases hrest with ⟨bytes, hloop, hspells⟩ | ⟨hloop, hnone⟩
      · exact .inl ⟨c :: bytes, by rw [hloop, append_assoc]; rfl, .plain hplain hspells⟩
      · refine .inr ⟨hloop, fun bytes hspells => ?_⟩
        cases hspells with
        | escaped => exact absurd (hplain rfl) (by simp)
        | plain _ hrest => exact hnone _ hrest
    · rw [Classical.not_imp] at hplain
      obtain ⟨rfl, hlen⟩ := hplain
      obtain ⟨a, b, text, rfl⟩ : ∃ a b text, rest = a :: b :: text := by
        rcases rest with _ | ⟨a, _ | ⟨b, text⟩⟩
        · exact absurd (by decide) hlen
        · exact absurd (Nat.lt_succ_self 1) hlen
        · exact ⟨a, b, text, rfl⟩
      rw [decodeLoop_escape]
      cases hread : readEscape [a, b] with
      | none =>
        refine .inr ⟨rfl, fun bytes hspells => ?_⟩
        cases hspells with
        | escaped h _ =>
          rw [readEscape_iff.mpr h] at hread
          cases hread
        | plain h _ => exact hlen (h rfl)
      | some v =>
        dsimp only
        have hescapes := readEscape_iff.mp hread
        have hrest := ih (before ++ [37, a, b]) text (out ++ [v]) (by simp only [length_cons] at h; omega)
        rw [append_assoc before] at hrest
        rcases hrest with ⟨bytes, hloop, hspells⟩ | ⟨hloop, hnone⟩
        · exact .inl ⟨v :: bytes, hloop.trans (by rw [append_assoc]; rfl), .escaped hescapes hspells⟩
        · refine .inr ⟨hloop, fun bytes hspells => ?_⟩
          cases hspells with
          | escaped _ hrest => exact hnone _ hrest
          | plain h _ => exact hlen (h rfl)

theorem decodeLoop_whole (bytes : List UInt8) :
    (∃ out, decodeLoop bytes (bytes.length + 1) 0 [] = .ok out ∧ Spells bytes out) ∨
      (decodeLoop bytes (bytes.length + 1) 0 [] = .error (.err .invalidPercentEncoding) ∧ ∀ out, ¬Spells bytes out) :=
  decodeLoop_spec (bytes.length + 1) [] bytes [] (Nat.lt_succ_self _)

/-- A component is read as the string it spells, or refused. -/
theorem decode_cases : (∃ t, decode s = .ok t ∧ Spells (utf8 s) (utf8 t.toList)) ∨
    (∃ e, decode s = .error (.err e) ∧ ∀ t : String, ¬Spells (utf8 s) (utf8 t.toList)) := by
  unfold decode
  rcases decodeLoop_whole (utf8 s) with ⟨out, hloop, hspells⟩ | ⟨hloop, hnone⟩
  · rw [hloop]
    cases hutf8 : fromUtf8 out with
    | none =>
      refine .inr ⟨.notUtf8, ?_, fun t ht => ?_⟩
      · show (match fromUtf8 out with | none => _ | some s => _) = _
        rw [hutf8]
      · rw [fromUtf8_eq_some.mpr (ht.unique hspells)] at hutf8
        cases hutf8
    | some t =>
      refine .inl ⟨t, ?_, ?_⟩
      · show (match fromUtf8 out with | none => _ | some s => _) = _
        rw [hutf8]
        rfl
      · rw [fromUtf8_eq_some.mp hutf8]
        exact hspells
  · rw [hloop]
    exact .inr ⟨_, rfl, fun t => hnone _⟩

theorem decode_eq_ok {s : List Char} {t : String} : decode s = .ok t ↔ Spells (utf8 s) (utf8 t.toList) := by
  rcases decode_cases s with ⟨u, hdecode, hspells⟩ | ⟨e, hdecode, hnone⟩
  · rw [hdecode, Except.ok.injEq]
    constructor
    · rintro rfl
      exact hspells
    · intro ht
      exact String.toList_inj.mp (Text.Percent.utf8_inj (hspells.unique ht))
  · rw [hdecode]
    constructor
    · intro h
      cases h
    · intro ht
      exact absurd ht (hnone t)

/-! ## Keys are read -/

theorem decode_returns : (∃ t, decode s = .ok t) ∨ ∃ e, decode s = .error (.err e) := by
  rcases decode_cases s with ⟨t, ht, _⟩ | ⟨e, he, _⟩
  · exact .inl ⟨t, ht⟩
  · exact .inr ⟨e, he⟩

/-- A text of four components. -/
theorem parseFindingKey_join {key : String} {scope : List Char}
    (hkey : key.toList = scope ++ '/' :: (host ++ '/' :: (kind ++ '/' :: subject))) (hscope : '/' ∉ scope)
    (hhost : '/' ∉ host) (hkind : '/' ∉ kind) : parseFindingKey key = do
      let h ← decode host
      let k ← decode kind
      let s ← decode subject
      return (String.ofList scope, h, k, s) := by
  unfold parseFindingKey
  rw [hkey, Text.splitn_append hscope, Text.splitn_append hhost, Text.splitn_append hkind]
  rfl

/-- A key is refused for the number of its components, or has four. -/
theorem components_cases (key : String) : (∃ n, parseFindingKey key = .error (.err (.components n))) ∨
    ∃ scope host kind subject : List Char, key.toList = scope ++ '/' :: (host ++ '/' :: (kind ++ '/' :: subject)) ∧
      '/' ∉ scope ∧ '/' ∉ host ∧ '/' ∉ kind := by
  rcases Text.splitn_cases 2 '/' key.toList with ⟨_, hsplit⟩ | ⟨scope, rest, hkey, hscope, hsplit⟩
  · refine .inl ⟨1, ?_⟩
    unfold parseFindingKey
    rw [hsplit]
    rfl
  rcases Text.splitn_cases 1 '/' rest with ⟨_, hrest⟩ | ⟨host, rest, rfl, hhost, hrest⟩
  · refine .inl ⟨2, ?_⟩
    unfold parseFindingKey
    rw [hsplit, hrest]
    rfl
  rcases Text.splitn_cases 0 '/' rest with ⟨_, hlast⟩ | ⟨kind, subject, rfl, hkind, _⟩
  · refine .inl ⟨3, ?_⟩
    unfold parseFindingKey
    rw [hsplit, hrest, hlast]
    rfl
  · exact .inr ⟨scope, host, kind, subject, hkey, hscope, hhost, hkind⟩

/-- Every text is read or refused. -/
theorem parseFindingKey_returns (key : String) :
    (∃ parts, parseFindingKey key = .ok parts) ∨ ∃ e, parseFindingKey key = .error (.err e) := by
  rcases components_cases key with ⟨n, hn⟩ | ⟨scope, host, kind, subject, hkey, hscope, hhost, hkind⟩
  · exact .inr ⟨_, hn⟩
  rw [parseFindingKey_join hkey hscope hhost hkind]
  rcases decode_returns host with ⟨h, hh⟩ | ⟨e, he⟩
  · rcases decode_returns kind with ⟨k, hk⟩ | ⟨e, he⟩
    · rcases decode_returns subject with ⟨s, hs⟩ | ⟨e, he⟩
      · exact .inl ⟨_, by rw [hh, hk, hs]; rfl⟩
      · exact .inr ⟨e, by rw [hh, hk, he]; rfl⟩
    · exact .inr ⟨e, by rw [hh, he]; rfl⟩
  · exact .inr ⟨e, by rw [he]; rfl⟩

/-- A computed key is read back. -/
theorem parseFindingKey_compute (scope host kind subject : String) (hscope : '/' ∉ scope.toList) :
    parseFindingKey (computeFindingKey scope host kind subject) = .ok (scope, host, kind, subject) := by
  have hdecode : ∀ s : String, decode (Text.Percent.encode s) = .ok s := by
    intro s
    rw [decode_eq_ok, Text.Percent.utf8_encode]
    exact Text.Percent.spells_escape _
  have hkey : (computeFindingKey scope host kind subject).toList =
      scope.toList ++ '/' :: (Text.Percent.encode host ++
        '/' :: (Text.Percent.encode kind ++ '/' :: Text.Percent.encode subject)) :=
    String.toList_ofList
  rw [parseFindingKey_join hkey hscope (Text.Percent.not_mem_encode host) (Text.Percent.not_mem_encode kind),
    hdecode, hdecode, hdecode]
  show Except.ok (String.ofList scope.toList, host, kind, subject) = _
  rw [String.ofList_toList]

/-- A local key is read as the identity its components spell. -/
theorem parseFindingKey_local {key host kind subject : String} :
    parseFindingKey key = .ok ("local", host, kind, subject) ↔ ∃ h k s, SpelledAs key h k s ⟨host, kind, subject⟩ := by
  constructor
  · intro hparse
    rcases components_cases key with ⟨n, hn⟩ | ⟨scope, h, k, s, hkey, hscope, hh, hk⟩
    · rw [hn] at hparse
      cases hparse
    rw [parseFindingKey_join hkey hscope hh hk] at hparse
    obtain ⟨host', hhost, hparse⟩ := Sql.bind_ok.mp hparse
    obtain ⟨kind', hkind, hparse⟩ := Sql.bind_ok.mp hparse
    obtain ⟨subject', hsubject, hparse⟩ := Sql.bind_ok.mp hparse
    have hparts : (String.ofList scope, host', kind', subject') = ("local", host, kind, subject) := Except.ok.inj hparse
    simp only [Prod.mk.injEq] at hparts
    obtain ⟨hlocal, rfl, rfl, rfl⟩ := hparts
    have hscope : scope = "local".toList := by rw [← hlocal, String.toList_ofList]
    exact ⟨h, k, s, hscope ▸ hkey, hh, hk, decode_eq_ok.mp hhost, decode_eq_ok.mp hkind, decode_eq_ok.mp hsubject⟩
  · rintro ⟨h, k, s, ⟨hkey, hhost, hkind, hh, hk, hs⟩⟩
    rw [parseFindingKey_join hkey (by decide) hhost hkind, decode_eq_ok.mpr hh,
      decode_eq_ok.mpr hk, decode_eq_ok.mpr hs]
    rfl

/-! ## Keys are exported -/

section

variable {db : Db} {filter : KeyedFilter} {key : String} {snaps : List FindingSnapshot}

/-- The export by key is of the rows whose identity the key spells. -/
theorem mem_exportFindingsFromConn (hkey : filter.findingKey = some key)
    (h : exportFindingsFromConn db filter = .ok snaps)
    (snap : FindingSnapshot) : snap ∈ snaps ↔
      ∃ r ∈ db.warningState.rows, (∃ host kind subject, SpelledAs key host kind subject r.id) ∧
      snapshot db.warningState (generationContext db) filter.toExportFilter r = snap := by
  unfold exportFindingsFromConn at h
  rw [hkey] at h
  obtain ⟨⟨scope, host, kind, subject⟩, hparse, h⟩ := Sql.bind_ok.mp h
  have hspelled : ∀ r : WarningRow, (∃ host kind subject, SpelledAs key host kind subject r.id) ↔
      scope = "local" ∧ isOf host kind subject r = true := by
    intro r
    have hrow : (∃ host kind subject, SpelledAs key host kind subject r.id) ↔
        parseFindingKey key = .ok ("local", r.host, r.kind, r.subject) :=
      parseFindingKey_local.symm
    rw [hrow, hparse]
    unfold isOf
    simp only [Except.ok.injEq, Prod.mk.injEq, Bool.and_eq_true, decide_eq_true_eq]
    constructor
    · rintro ⟨hscope, rfl, rfl, rfl⟩
      exact ⟨hscope, ⟨rfl, rfl⟩, rfl⟩
    · rintro ⟨hscope, ⟨rfl, rfl⟩, rfl⟩
      exact ⟨hscope, rfl, rfl, rfl⟩
  dsimp only at h
  split at h
  next hscope =>
    cases h
    refine ⟨fun hs => absurd hs not_mem_nil, ?_⟩
    rintro ⟨r, _, hr, _⟩
    exact absurd ((hspelled r).mp hr).1 hscope
  next hscope =>
    cases h
    rw [List.mem_map]
    constructor
    · rintro ⟨r, hr, hs⟩
      obtain ⟨hrow, hof⟩ := mem_filter.mp ((perm_insertionSort _ _).mem_iff.mp hr)
      exact ⟨r, hrow, (hspelled r).mpr ⟨not_not.mp hscope, hof⟩, hs⟩
    · rintro ⟨r, hrow, hr, hs⟩
      exact ⟨r, (perm_insertionSort _ _).mem_iff.mpr (mem_filter.mpr ⟨hrow, ((hspelled r).mp hr).2⟩), hs⟩

/-- A key that spells an identity is exported by. -/
theorem exportFindingsFromConn_returns (hkey : filter.findingKey = some key)
    {host kind subject : List Char} {k : FindingId}
    (h : SpelledAs key host kind subject k) : ∃ snaps, exportFindingsFromConn db filter = .ok snaps := by
  have hparse := parseFindingKey_local.mpr ⟨host, kind, subject, h⟩
  unfold exportFindingsFromConn
  rw [hkey]
  dsimp only
  rw [hparse]
  exact ⟨_, rfl⟩

end

/-- A key that spells an identity is its key where every component is canonical. -/
theorem SpelledAs.key_iff {key : String} {k : FindingId} (h : SpelledAs key host kind subject k) :
    k.key = key ↔ Canonical (utf8 host) ∧ Canonical (utf8 kind) ∧ Canonical (utf8 subject) := by
  have hcanonical : ∀ {text : List Char} {s : String}, Spells (utf8 text) (utf8 s.toList) →
      (Canonical (utf8 text) ↔ text = Text.Percent.encode s) := by
    intro text s hspells
    rw [hspells.canonical_iff, ← Text.Percent.utf8_encode]
    exact ⟨Text.Percent.utf8_inj, congrArg utf8⟩
  have hjoin : k.key.toList = "local".toList ++ '/' :: (Text.Percent.encode k.host ++ '/' ::
      (Text.Percent.encode k.kind ++ '/' :: Text.Percent.encode k.subject)) := String.toList_ofList
  rw [hcanonical h.host_spells, hcanonical h.kind_spells, hcanonical h.subject_spells]
  constructor
  · intro hkey
    rw [hkey, h.key_eq] at hjoin
    have hrest := (List.cons.inj (append_cancel_left hjoin)).2
    obtain ⟨hhost, hrest⟩ := Text.Percent.cut_inj h.host_whole (Text.Percent.not_mem_encode k.host) hrest
    obtain ⟨hkind, hsubject⟩ := Text.Percent.cut_inj h.kind_whole (Text.Percent.not_mem_encode k.kind) hrest
    exact ⟨hhost, hkind, hsubject⟩
  · rintro ⟨hhost, hkind, hsubject⟩
    rw [← hhost, ← hkind, ← hsubject, ← h.key_eq] at hjoin
    exact String.toList_inj.mp hjoin

/-- **Keys match exactly where no row's identity is spelled by the key with a component that is not canonical**: keys
    are always read back, tell findings apart and are read or refused. -/
theorem keysMatch_iff (db : Db) (key : String) : KeysMatch db key ↔
    ∀ r ∈ db.warningState.rows, ∀ host kind subject, SpelledAs key host kind subject r.id →
      Canonical (utf8 host) ∧ Canonical (utf8 kind) ∧ Canonical (utf8 subject) := by
  constructor
  · intro hmatch r hr host kind subject hspelled
    obtain ⟨snaps, hsnaps⟩ := @exportFindingsFromConn_returns db { findingKey := some key } key rfl _ _ _ _ hspelled
    have hexported := hmatch.exported { findingKey := some key } rfl snaps hsnaps _
      ((mem_exportFindingsFromConn rfl hsnaps _).mpr ⟨r, hr, ⟨host, kind, subject, hspelled⟩, rfl⟩)
    exact hspelled.key_iff.mp hexported
  · intro hcanonical
    refine ⟨parseFindingKey_compute, ?_, parseFindingKey_returns, ?_⟩
    · intro o o' k k' ho ho' hpk
      have hkey : k.key = k'.key := by
        rw [← ho, ← ho']
        exact congrArg Prod.snd hpk
      obtain ⟨hhost, hkind, hsubject⟩ := computeFindingKey_inj hkey
      cases k
      cases k'
      rw [FindingId.mk.injEq]
      exact ⟨hhost, hkind, hsubject⟩
    · intro filter hfilter snaps hsnaps snap hsnap
      obtain ⟨r, hr, ⟨host, kind, subject, hspelled⟩, rfl⟩ := (mem_exportFindingsFromConn hfilter hsnaps snap).mp hsnap
      exact hspelled.key_iff.mpr (hcanonical r hr host kind subject hspelled)

/-- A finding about the root directory. -/
def rooted : Db :=
  { Db.init with
    warningState := ⟨[{ host := "h", kind := "k", subject := "/", firstSeenGen := 1, firstSeenAt := "", lastSeenGen := 1
                        lastSeenAt := "" }],
      nodup_singleton _⟩ }

/-- The slash of its subject escaped in lower case. -/
theorem lower_spelled : SpelledAs "local/h/k/%2f" ['h'] ['k'] ['%', '2', 'f'] ⟨"h", "k", "/"⟩ where
  key_eq := rfl
  host_whole := by decide
  kind_whole := by decide
  host_spells := .plain (by decide) .nil
  kind_spells := .plain (by decide) .nil
  subject_spells := .escaped (.inr ⟨2, 15, by decide, by decide, rfl⟩) .nil

theorem a_key_in_lower_case_is_exported : ¬∀ db key, KeysMatch db key := by
  intro h
  obtain ⟨snaps, hsnaps⟩ :=
    @exportFindingsFromConn_returns rooted { findingKey := some "local/h/k/%2f" } _ rfl _ _ _ _ lower_spelled
  have hexported := (h rooted "local/h/k/%2f").exported { findingKey := some "local/h/k/%2f" } rfl snaps hsnaps _
    ((mem_exportFindingsFromConn rfl hsnaps _).mpr ⟨_, mem_singleton_self _, ⟨_, _, _, lower_spelled⟩, rfl⟩)
  have hkey : (⟨"h", "k", "/"⟩ : FindingId).key = "local/h/k/%2f" := hexported
  exact absurd (congrArg String.toList hkey) (by decide)

end Nq.Export
