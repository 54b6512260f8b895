/-
  Nq.Dns.Probe — the DNS probe (`nq-monitor/src/probe.rs`): the query it sends, the parser
  of what comes back, and the observation row it writes.

  A datagram is a list of bytes and the cursor an index into it. An access out of bounds is
  a panic (`Panic`), which in the source would abort the probe. The resolver's address, the
  socket and the clock are outside; the client's query is a function of what the socket
  gives back (`Received`). How `{:?}` shows a character outside ASCII is the parameter
  `wide`.
-/

import Mathlib.Algebra.GroupWithZero.Nat
import Mathlib.Data.List.DropRight
import Mathlib.Data.List.Sort
import Nq.Dns.Message
import Nq.Text.Find

namespace Nq.Dns

/-! ## Outcomes -/

inductive ResponseKind where
  | success
  | nodata
  | nxdomain
  | servfail
  | refused
  | timeout
  | transportError
  | validationFailure
  deriving DecidableEq, Repr

inductive NegativeKind where
  | nodata
  | nxdomain
  | servfail
  | refused
  deriving DecidableEq, Repr

inductive WireOutcome where
  | answer (rcode : Int) (answerSummary : String) (minTtlSeconds : Option Int)
  | negative (kind : NegativeKind) (rcode : Int)
  | timeout
  | transportError (detail : String)
  deriving DecidableEq, Repr

structure ProbeOutcome where
  responseKind : ResponseKind
  rcode : Option Int := none
  answerSummary : Option String := none
  minTtlSeconds : Option Int := none
  durationMs : Int
  errorDetail : Option String := none
  deriving DecidableEq, Repr

def NegativeKind.toResponseKind : NegativeKind → ResponseKind
  | .nodata => .nodata
  | .nxdomain => .nxdomain
  | .servfail => .servfail
  | .refused => .refused

def outcomeFromWire (wire : WireOutcome) (durationMs : Int) : ProbeOutcome :=
  match wire with
  | .answer rcode answerSummary minTtlSeconds =>
    { responseKind := .success, rcode := some rcode, answerSummary := some answerSummary, minTtlSeconds, durationMs }
  | .negative kind rcode => { responseKind := kind.toResponseKind, rcode := some rcode, durationMs }
  | .timeout => { responseKind := .timeout, durationMs }
  | .transportError detail => { responseKind := .transportError, durationMs, errorDetail := some detail }

/-! ## The query -/

/-- `name.trim_end_matches('.').split('.')`, the empty name apart. -/
def labelsOf (name : String) : List (List Char) := (name.toList.rdropWhile (· == '.')).splitOn '.'

/-- The UTF-8 length of a label. -/
def utf8Len (label : List Char) : Nat := (label.map fun c => c.utf8Size).sum

/-- `str::is_ascii`. -/
def IsAscii (label : List Char) : Prop := ∀ c ∈ label, c.toNat < 128

instance : DecidablePred IsAscii := List.decidableBAll fun (c : Char) => c.toNat < 128

def checkLabel (wide : Char → List Char) (name : String) (label : List Char) : Except String Unit :=
  if label.isEmpty then .error ("empty label in " ++ Text.debug wide name)
  else if utf8Len label > 63 then
    .error ("label " ++ Text.debug wide (String.ofList label) ++ " exceeds DNS 63-byte limit in " ++
      Text.debug wide name)
  else if ¬ IsAscii label then
    .error ("non-ASCII label " ++ Text.debug wide (String.ofList label) ++ " in " ++ Text.debug wide name ++
      "; IDN punycode encoding is the caller's job")
  else .ok ()

/-- The bytes of a label, which is ASCII by now. -/
def asBytes (label : List Char) : Bytes := label.map fun c => UInt8.ofNat c.toNat

def buildQuery (wide : Char → List Char) (id : UInt16) (name : String) (qtype : UInt16) : Except String Bytes :=
  if (name.toList.rdropWhile (· == '.')).isEmpty then .error "empty query name"
  else do
    (labelsOf name).forM (checkLabel wide name)
    let header : Bytes := be16 id ++ [0x01, 0x00, 0x00, 0x01, 0x00, 0x00, 0x00, 0x00, 0x00, 0x00]
    let labels := (labelsOf name).flatMap fun label => UInt8.ofNat label.length :: asBytes label
    return header ++ labels ++ [0] ++ be16 qtype ++ [0x00, 0x01]

/-! ## Addresses as text -/

def ipv4Text (a b c d : UInt8) : String :=
  toString a.toNat ++ "." ++ toString b.toNat ++ "." ++ toString c.toNat ++ "." ++ toString d.toNat

/-- The eight segments of sixteen octets. -/
def segments : Bytes → List Nat
  | a :: b :: rest => (a.toNat * 256 + b.toNat) :: segments rest
  | _ => []

structure Span where
  start : Nat := 0
  len : Nat := 0
  deriving DecidableEq, Repr

/-- The first longest run of zero segments. -/
def longestZeroes (segs : List Nat) : Span :=
  ((segs.zipIdx).foldl (fun (longest, current) (segment, i) =>
    if segment = 0 then
      let current : Span := ⟨if current.len = 0 then i else current.start, current.len + 1⟩
      (if current.len > longest.len then current else longest, current)
    else (longest, {})) (({} : Span), ({} : Span))).1

def hexSegments (segs : List Nat) : String := ":".intercalate (segs.map fun s => String.ofList (Nat.toDigits 16 s))

/-- How the standard library shows an IPv6 address. -/
def ipv6Text (octets : Bytes) : String :=
  let segs := segments octets
  if segs.take 6 = [0, 0, 0, 0, 0, 0xFFFF] then
    match octets.drop 12 with
    | [a, b, c, d] => "::ffff:" ++ ipv4Text a b c d
    | _ => ""
  else
    let zeroes := longestZeroes segs
    if zeroes.len > 1 then
      hexSegments (segs.take zeroes.start) ++ "::" ++ hexSegments (segs.drop (zeroes.start + zeroes.len))
    else hexSegments segs

/-! ## The parser -/

inductive Panic where
  | outOfBounds (index len : Nat)
  deriving DecidableEq, Repr

/-- `buf[i]` -/
def byte (buf : Bytes) (i : Nat) : Except Panic UInt8 :=
  match buf[i]? with
  | some b => .ok b
  | none => .error (.outOfBounds i buf.length)

/-- `buf[i..j]` -/
def slice (buf : Bytes) (i j : Nat) : Except Panic Bytes :=
  if i ≤ j ∧ j ≤ buf.length then .ok ((buf.drop i).take (j - i)) else .error (.outOfBounds j buf.length)

/-- The loop with so many steps left; in the 129th step it gives up wherever it is. -/
def skipFrom (buf : Bytes) : Nat → Nat → Except Panic (Option Nat)
  | 0, _ => .ok none
  | steps + 1, pos =>
    if pos < buf.length then do
      let len ← byte buf pos
      if len = 0 then return some (pos + 1)
      if len &&& 0xC0 = 0xC0 then
        if pos + 1 ≥ buf.length then return none
        return some (pos + 2)
      if len &&& 0xC0 ≠ 0 then return none
      skipFrom buf steps (pos + 1 + len.toNat)
    else .ok none

def skipName (buf : Bytes) (pos : Nat) : Except Panic (Option Nat) := skipFrom buf 128 pos

/-- What the loop over the answers carries. -/
structure Answers where
  pos : Nat
  summaries : List String := []
  minTtl : Option UInt32 := none
  deriving DecidableEq

def summaryOf (buf : Bytes) (pos : Nat) (rtype : UInt16) (rdlen : Nat) : Except Panic String := do
  if rtype = 1 ∧ rdlen = 4 then
    return ipv4Text (← byte buf pos) (← byte buf (pos + 1)) (← byte buf (pos + 2)) (← byte buf (pos + 3))
  else if rtype = 28 ∧ rdlen = 16 then
    return ipv6Text (← slice buf pos (pos + 16))
  else
    return "<type" ++ toString rtype.toNat ++ "/" ++ toString rdlen ++ "B>"

/-- One turn of the loop over the answers; `.error` is an early return of the parser. -/
def answerTurn (buf : Bytes) (qtype : UInt16) (acc : Answers) : Except Panic (Except WireOutcome Answers) := do
  let some pos ← skipName buf acc.pos | return .error (.transportError "malformed answer name")
  if pos + 10 > buf.length then return .error (.transportError "answer record truncated before RR header")
  let rtype := u16 (← byte buf pos) (← byte buf (pos + 1))
  let ttl := u32 (← byte buf (pos + 4)) (← byte buf (pos + 5)) (← byte buf (pos + 6)) (← byte buf (pos + 7))
  let rdlen := (u16 (← byte buf (pos + 8)) (← byte buf (pos + 9))).toNat
  if pos + 10 + rdlen > buf.length then return .error (.transportError "answer record truncated within RDATA")
  if rtype = qtype then
    let summary ← summaryOf buf (pos + 10) rtype rdlen
    return .ok ⟨pos + 10 + rdlen, acc.summaries ++ [summary], some (acc.minTtl.elim ttl (min · ttl))⟩
  return .ok { acc with pos := pos + 10 + rdlen }

def answersLoop (buf : Bytes) (qtype : UInt16) : Nat → Answers → Except Panic (Except WireOutcome Answers)
  | 0, acc => .ok (.ok acc)
  | n + 1, acc => do
    match ← answerTurn buf qtype acc with
    | .error out => return .error out
    | .ok acc => answersLoop buf qtype n acc

/-- The kind of a nonzero RCODE. -/
def negativeOf : Nat → NegativeKind
  | 3 => .nxdomain
  | 2 => .servfail
  | 5 => .refused
  | _ => .servfail

/-- What follows the header: the question, which has to parse before the RCODE is believed,
    and the answers. -/
def parseBody (buf : Bytes) (qtype : UInt16) (rcode : Nat) (ancount : UInt16) : Except Panic WireOutcome := do
  let some p ← skipName buf 12 | return .transportError "malformed question name"
  if p + 4 > buf.length then
    return .transportError "question QTYPE/QCLASS truncated"
  if rcode ≠ 0 then return .negative (negativeOf rcode) rcode
  if ancount = 0 then return .negative .nodata rcode
  match ← answersLoop buf qtype ancount.toNat ⟨p + 4, [], none⟩ with
  | .error out => return out
  | .ok acc =>
    if acc.summaries.isEmpty then return .negative .nodata 0
    return .answer 0 (",".intercalate (acc.summaries.insertionSort (· ≤ ·))) (acc.minTtl.map fun t => (t.toNat : Int))

def parseResponse (buf : Bytes) (expectedId qtype : UInt16) : Except Panic WireOutcome := do
  if buf.length < 12 then
    return .transportError ("response truncated: " ++ toString buf.length ++ " bytes < 12-byte header")
  let id := u16 (← byte buf 0) (← byte buf 1)
  if id ≠ expectedId then
    return .transportError
      ("response id mismatch: expected " ++ toString expectedId.toNat ++ ", got " ++ toString id.toNat)
  if (← byte buf 2) &&& 0x80 = 0 then
    return .transportError "QR bit not set; response is a query, not a reply"
  if (← byte buf 2) &&& 0x02 ≠ 0 then
    return .transportError "response truncated (TC bit set); V0 has no TCP fallback"
  let qdcount := u16 (← byte buf 4) (← byte buf 5)
  if qdcount ≠ 1 then
    return .transportError
      ("unexpected QDCOUNT=" ++ toString qdcount.toNat ++ "; V0 only handles single-question responses")
  let rcode := ((← byte buf 3) &&& 0x0F).toNat
  let ancount := u16 (← byte buf 6) (← byte buf 7)
  parseBody buf qtype rcode ancount

/-! ## The client and the row -/

/-- What comes of the query once it is sent. -/
inductive Received where
  | datagram (bytes : Bytes)
  | timedOut
  | failed (detail : String)
  deriving DecidableEq

/-- `UdpDnsClient::query`; `resolver` is the parsed address, and the buffer holds 4096 bytes. -/
def query (wide : Char → List Char) (resolver : Except String Unit)
    (exchange : Bytes → Received) (id : UInt16) (name : String)
    (qtype : UInt16) : Except Panic WireOutcome :=
  match resolver with
  | .error e => .ok (.transportError e)
  | .ok () =>
    match buildQuery wide id name qtype with
    | .error e => .ok (.transportError e)
    | .ok q =>
      match exchange q with
      | .datagram bytes => parseResponse (bytes.take 4096) id qtype
      | .timedOut => .ok .timeout
      | .failed detail => .ok (.transportError detail)

structure DnsObservation where
  generationId : Int
  vantageHost : String
  resolver : String
  queryName : String
  queryType : String
  responseKind : ResponseKind
  rcode : Option Int
  answerSummary : Option String
  minTtlSeconds : Option Int
  durationMs : Int
  observedAt : String
  errorDetail : Option String
  deriving DecidableEq, Repr

/-- The row `record_probe` writes for an outcome. -/
def recordProbe (generationId : Int) (vantage resolver name qtypeStr : String) (wire : WireOutcome) (durationMs : Int)
    (observedAt : String) : DnsObservation :=
  let outcome := outcomeFromWire wire durationMs
  { generationId, vantageHost := vantage, resolver, queryName := name, queryType := qtypeStr
    responseKind := outcome.responseKind, rcode := outcome.rcode, answerSummary := outcome.answerSummary
    minTtlSeconds := outcome.minTtlSeconds, durationMs := outcome.durationMs, observedAt
    errorDetail := outcome.errorDetail }

end Nq.Dns
