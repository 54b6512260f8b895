/-
  Nq.Tls.Probe — the TLS certificate probe (`nq-monitor/src/tls_cert_probe.rs` and
  `tls_cert_transport.rs`).

  A probe observes a certificate chain, lets a verifier judge it, and computes a verdict of
  its own. `Pki` holds what comes from elsewhere: the X.509 parser, the parser of server
  names and the verifier. The verdict reads DNS names alone and the clock to the nanosecond,
  so it can call a chain mismatched or expired that the verifier takes (`verdict_cases`).
-/

import Nq.Inquiry.Digest

namespace Nq.Tls

open Inquiry (DateTime digestText)

/-! ## Facts, policies and receipts -/

inductive ValidationPolicy where
  | webpki | pinnedCa
  deriving DecidableEq, Repr

inductive ChainValidation where
  | valid
  | invalid (reason : String)
  | notAttempted
  deriving DecidableEq, Repr

structure DeliveryBasis where
  dnsAnswers : List String
  tcpConnected : Bool
  tlsHandshakeCompleted : Bool
  deriving DecidableEq, Repr

structure ResponseHorizon where
  timeoutMs : Nat
  elapsedMs : Option Nat
  deriving DecidableEq, Repr

structure ClockBasis where
  source : String
  ntpStatus : String
  deriving DecidableEq, Repr

structure PresentedCert where
  subject : String
  issuer : String
  notBefore : DateTime
  notAfter : DateTime
  sans : List String
  sha256Fingerprint : String
  deriving DecidableEq, Repr

structure TlsCertFacts where
  delivery : DeliveryBasis
  responseHorizon : ResponseHorizon
  presentedChain : List PresentedCert
  validation : ChainValidation
  deriving DecidableEq, Repr

structure TlsCertPolicy where
  expectedNames : List String
  warningThresholdDays : Int
  validationPolicy : ValidationPolicy
  deriving DecidableEq, Repr

structure TlsCertTarget where
  target : String
  sni : String
  vantage : String
  deriving DecidableEq, Repr

inductive TlsCertVerdict where
  | probeNotAttempted | dnsFailed | tcpFailed | tlsHandshakeFailed | noCertificatePresented | nameMismatch | chainInvalid
  | expiredUnderProbeClock | validButWithinWarningHorizon | validAtProbeTime
  deriving DecidableEq, Repr

structure Perturbation where
  class_ : String
  expectedSideEffects : List String
  deriving DecidableEq, Repr

structure TlsCertProbeReceipt where
  schema : String
  probeKind : String
  target : String
  sni : String
  expectedNames : List String
  vantage : String
  probeTime : String
  clockBasis : ClockBasis
  deliveryBasis : DeliveryBasis
  responseHorizon : ResponseHorizon
  chainSubjects : List String
  chainFingerprints : List String
  leafNotBefore : Option String
  leafNotAfter : Option String
  issuer : Option String
  daysRemaining : Option Int
  warningThresholdDays : Int
  validationPolicy : ValidationPolicy
  validationResult : ChainValidation
  perturbation : Perturbation
  verdict : TlsCertVerdict
  nonClaims : List String
  deriving DecidableEq, Repr

/-! ## The verdict -/

def asciiLower (s : String) : List Char := s.toList.map Char.toLower

/-- `split_once('.')`: what follows the first dot. -/
def afterDot (s : List Char) : Option (List Char) := (s.dropWhile (· ≠ '.')).tail?

/-- A name covers another: the same name, or a wildcard in place of its first label. -/
def sanCovers (san want : String) : Bool :=
  asciiLower san = asciiLower want ||
    ("*.".toList.isPrefixOf (asciiLower san) && afterDot (asciiLower want) = some ((asciiLower san).drop 2))

def nameMatches (sans expectedNames : List String) : Bool :=
  expectedNames.all (fun want => sans.any (sanCovers · want)) && !expectedNames.isEmpty

/-- `(not_after - now).whole_days()`. -/
def wholeDays (notAfter now : DateTime) : Int := (notAfter.ns - now.ns).tdiv 86400000000000

def computeVerdict (facts : TlsCertFacts) (policy : TlsCertPolicy) (leaf : Option PresentedCert) (now : DateTime) :
    TlsCertVerdict :=
  if !facts.delivery.tcpConnected then if facts.delivery.dnsAnswers.isEmpty then .dnsFailed else .tcpFailed
  else if !facts.delivery.tlsHandshakeCompleted then .tlsHandshakeFailed
  else
    match leaf with
    | none => .noCertificatePresented
    | some leaf =>
      if !nameMatches leaf.sans policy.expectedNames then .nameMismatch
      else if now.ns < leaf.notBefore.ns || now.ns > leaf.notAfter.ns then .expiredUnderProbeClock
      else
        match facts.validation with
        | .invalid _ => .chainInvalid
        | _ =>
          if wholeDays leaf.notAfter now ≤ policy.warningThresholdDays then .validButWithinWarningHorizon
          else .validAtProbeTime

def scopeCeilingNonClaims (policy : ValidationPolicy) : List String :=
  ["does not witness service-logic integrity",
    "does not witness host integrity or root custody (a root attacker holding the key still presents a valid cert)",
    "absence on a route is not its cause ('the box is down' is unproven)",
    "validity is relative to name/chain/trust-anchor/probe-clock/vantage only"] ++
  if policy = .pinnedCa then ["under pinned_ca: valid only under the operator's own PKI universe, not 'valid, period'"]
    else []

def evaluateTlsCert (env : Inquiry.Env) (target : TlsCertTarget)
    (facts : TlsCertFacts) (policy : TlsCertPolicy) (clock : ClockBasis)
    (now : DateTime) : TlsCertProbeReceipt :=
  let leaf := facts.presentedChain.head?
  { schema := "nq.probe.tls_cert.v1"
    probeKind := "tls_cert"
    target := target.target
    sni := target.sni
    expectedNames := policy.expectedNames
    vantage := target.vantage
    probeTime := env.formatRfc3339 now
    clockBasis := clock
    deliveryBasis := facts.delivery
    responseHorizon := facts.responseHorizon
    chainSubjects := facts.presentedChain.map PresentedCert.subject
    chainFingerprints := facts.presentedChain.map PresentedCert.sha256Fingerprint
    leafNotBefore := leaf.map (env.formatRfc3339 ·.notBefore)
    leafNotAfter := leaf.map (env.formatRfc3339 ·.notAfter)
    issuer := leaf.map PresentedCert.issuer
    daysRemaining := leaf.map (wholeDays ·.notAfter now)
    warningThresholdDays := policy.warningThresholdDays
    validationPolicy := policy.validationPolicy
    validationResult := facts.validation
    perturbation := ⟨"read_only_tls_handshake", ["access_log"]⟩
    verdict := computeVerdict facts policy leaf now
    nonClaims := scopeCeilingNonClaims policy.validationPolicy }

/-! ## The transport -/

abbrev Der := List UInt8

inductive GeneralName where
  | dnsName (name : String)
  | ipAddress (bytes : List UInt8)
  | other
  deriving DecidableEq, Repr

/-- What the X.509 parser reads of a certificate. -/
structure X509Certificate where
  subject : String
  issuer : String
  notBefore : DateTime
  notAfter : DateTime
  /-- The extension of that name, if there is one and it parses. -/
  subjectAlternativeName : Option (List GeneralName)
  deriving DecidableEq, Repr

inductive ServerName where
  | dnsName (name : String)
  | ipAddress (bytes : List UInt8)
  deriving DecidableEq, Repr

structure Pki where
  fromDer : Der → Except String X509Certificate
  buildVerifier : Except String Unit
  serverName : String → Except String ServerName
  /-- `verify_server_cert`: of leaf, intermediates, name and seconds since 1970. -/
  verifyServerCert : Der → List Der → ServerName → Nat → Except String Unit

section

variable (env : Inquiry.Env) (pki : Pki)

def hexUpper (b : UInt8) : String := String.ofList ((Inquiry.hexByte b).map Char.toUpper)

def GeneralName.dns? : GeneralName → Option String
  | .dnsName name => some name
  | _ => none

def parsePresentedCert (der : Der) : Except String PresentedCert := do
  let cert ← (pki.fromDer der).mapError ("x509 parse: " ++ ·)
  pure {
    subject := cert.subject
    issuer := cert.issuer
    notBefore := cert.notBefore
    notAfter := cert.notAfter
    sans := (cert.subjectAlternativeName.getD []).filterMap GeneralName.dns?
    sha256Fingerprint := ":".intercalate ((env.sha256 der).toList.map hexUpper) }

def presentedChain (chain : List Der) : List PresentedCert :=
  chain.filterMap fun der => (parsePresentedCert env pki der).toOption

/-- The probe clock in whole seconds since 1970, for the verifier. -/
def unixSeconds (now : DateTime) : Nat := (now.ns / 1000000000).toNat

def validateObservedChain (chain : List Der) (sni : String) (now : DateTime) : ChainValidation :=
  match chain with
  | [] => .invalid "no certificate presented"
  | leaf :: intermediates =>
    match pki.buildVerifier with
    | .error e => .invalid ("verifier build: " ++ e)
    | .ok () =>
      match pki.serverName sni with
      | .error e => .invalid ("invalid sni: " ++ e)
      | .ok name =>
        match pki.verifyServerCert leaf intermediates name (unixSeconds now) with
        | .error e => .invalid e
        | .ok () => .valid

/-- `to_be_bytes` of a `u64`. -/
def beBytes (n : Nat) : List UInt8 := (List.range 8).map fun i => UInt8.ofNat (n / 256 ^ (7 - i))

def digestDerParts (parts : List Der) : String := digestText (env.sha256 (parts.flatMap fun p => beBytes p.length ++ p))

def digestDer (der : Der) : String := digestText (env.sha256 der)

/-- How far a probe got; whether it was late is asked where it fails. -/
inductive Transport where
  | elapsed
  | connectFailed (late : Bool)
  | handshakeFailed (late : Bool)
  | observed (chain : List Der)
  deriving DecidableEq, Repr

/-- The deadline passed while it was under way. -/
def Transport.deadlineExhausted : Transport → Bool
  | .elapsed => true
  | .connectFailed late | .handshakeFailed late => late
  | .observed _ => false

structure BoundedTlsCertProbeResult where
  receipt : TlsCertProbeReceipt
  connectionAttempted : Bool
  handshakeAttempted : Bool
  deadlineExhausted : Bool
  leafDerDigest : Option String
  chainDerDigest : Option String
  deriving DecidableEq, Repr

def finish (target : TlsCertTarget) (facts : TlsCertFacts) (policy : TlsCertPolicy) (clock : ClockBasis)
    (now : DateTime) :
    TlsCertProbeReceipt :=
  let receipt := evaluateTlsCert env target facts policy clock now
  let validationBasis :=
    if facts.validation = .notAttempted then "trust validation not attempted — no chain was delivered to validate"
    else "trust-chain validated under WebPKI against bundled webpki-roots, at the probe clock; " ++
      "a successful TLS handshake is NOT a successful validation — the observed chain and " ++
      "the validation_result are distinct"
  { receipt with nonClaims := receipt.nonClaims ++ [validationBasis,
      "vantage basis is operator-provided/manual: '" ++ target.vantage ++
        "' — no independent external runner asserts it"] }

def failedReceipt (target : TlsCertTarget) (policy : TlsCertPolicy) (clock : ClockBasis) (now : DateTime)
    (delivery : DeliveryBasis) (timeoutMs elapsedMs : Nat) : TlsCertProbeReceipt :=
  finish env target ⟨delivery, ⟨timeoutMs, some elapsedMs⟩, [], .notAttempted⟩ policy clock now

/-- What a probe returns of its transport; `elapsedMs` is the clock where it made its receipt. -/
def probeResult (transport : Transport) (dnsAnswers : List String) (target : TlsCertTarget) (policy : TlsCertPolicy)
    (elapsedMs declaredTimeoutMs : Nat) (clock : ClockBasis) (now : DateTime) : BoundedTlsCertProbeResult :=
  let fail (delivery : DeliveryBasis) := failedReceipt env target policy clock now delivery declaredTimeoutMs elapsedMs
  match transport with
  | .elapsed => ⟨fail ⟨dnsAnswers, false, false⟩, false, false, transport.deadlineExhausted, none, none⟩
  | .connectFailed _ => ⟨fail ⟨dnsAnswers, false, false⟩, true, false, transport.deadlineExhausted, none, none⟩
  | .handshakeFailed _ => ⟨fail ⟨dnsAnswers, true, false⟩, true, true, transport.deadlineExhausted, none, none⟩
  | .observed chain =>
    let facts : TlsCertFacts := ⟨⟨dnsAnswers, true, true⟩, ⟨declaredTimeoutMs, some elapsedMs⟩,
      presentedChain env pki chain, validateObservedChain pki chain target.sni now⟩
    ⟨finish env target facts policy clock now, true, true, transport.deadlineExhausted, chain.head?.map (digestDer env),
      if chain.isEmpty then none else some (digestDerParts env chain)⟩

end

/-! ## What the verdict and the verifier make of a chain -/

section

variable {env : Inquiry.Env} {pki : Pki}

theorem validateObservedChain_attempted (chain : List Der) (sni : String) (now : DateTime) :
    validateObservedChain pki chain sni now ≠ .notAttempted := by
  unfold validateObservedChain
  repeat' split
  all_goals exact fun h => nomatch h

theorem leaf_of_chain {chain : List Der} {leaf : PresentedCert} (h : (presentedChain env pki chain).head? = some leaf) :
    chain ≠ [] := by
  intro hnil
  rw [hnil] at h
  cases h

/-- The clock stands between the certificate's dates. -/
def PresentedCert.CurrentAt (cert : PresentedCert) (now : DateTime) : Prop :=
  cert.notBefore.ns ≤ now.ns ∧ now.ns ≤ cert.notAfter.ns

/-- A delivered chain with a leaf: mismatched, expired, or what the verifier says. -/
theorem verdict_cases {facts : TlsCertFacts} (hconnected : facts.delivery.tcpConnected = true)
    (hcompleted : facts.delivery.tlsHandshakeCompleted = true)
    (policy : TlsCertPolicy) (leaf : PresentedCert) (now : DateTime) :
    (nameMatches leaf.sans policy.expectedNames = false ∧ computeVerdict facts policy (some leaf) now = .nameMismatch) ∨
    (nameMatches leaf.sans policy.expectedNames = true ∧ ¬leaf.CurrentAt now ∧
      computeVerdict facts policy (some leaf) now = .expiredUnderProbeClock) ∨
    (nameMatches leaf.sans policy.expectedNames = true ∧ leaf.CurrentAt now ∧
      (∃ reason, facts.validation = .invalid reason) ∧ computeVerdict facts policy (some leaf) now = .chainInvalid) ∨
    (nameMatches leaf.sans policy.expectedNames = true ∧ leaf.CurrentAt now ∧
      (∀ reason, facts.validation ≠ .invalid reason) ∧
      (computeVerdict facts policy (some leaf) now = .validButWithinWarningHorizon ∨
        computeVerdict facts policy (some leaf) now = .validAtProbeTime)) := by
  have hlate : ∀ (v v' : TlsCertVerdict) (c : Prop) [Decidable c], (if c then v else v') = v ∨
      (if c then v else v') = v' := by
    intro v v' c _
    by_cases hc : c
    · exact Or.inl (if_pos hc)
    · exact Or.inr (if_neg hc)
  unfold computeVerdict
  simp only [hconnected, hcompleted, Bool.not_true, Bool.false_eq_true, if_false]
  cases nameMatches leaf.sans policy.expectedNames with
  | false => exact Or.inl ⟨rfl, rfl⟩
  | true =>
    simp only [Bool.not_true, Bool.false_eq_true, if_false]
    by_cases hdate : leaf.CurrentAt now
    · have hclock : (decide (now.ns < leaf.notBefore.ns) || decide (now.ns > leaf.notAfter.ns)) = false := by
        unfold PresentedCert.CurrentAt at hdate
        simp only [Bool.or_eq_false_iff, decide_eq_false_iff_not]
        omega
      simp only [hclock, Bool.false_eq_true, if_false]
      cases facts.validation with
      | invalid reason => exact Or.inr (Or.inr (Or.inl ⟨trivial, hdate, ⟨reason, rfl⟩, rfl⟩))
      | valid => exact Or.inr (Or.inr (Or.inr ⟨trivial, hdate, fun _ h => (nomatch h), hlate _ _ _⟩))
      | notAttempted => exact Or.inr (Or.inr (Or.inr ⟨trivial, hdate, fun _ h => (nomatch h), hlate _ _ _⟩))
    · have hclock : (decide (now.ns < leaf.notBefore.ns) || decide (now.ns > leaf.notAfter.ns)) = true := by
        unfold PresentedCert.CurrentAt at hdate
        simp only [Bool.or_eq_true, decide_eq_true_eq]
        omega
      rw [hclock]
      exact Or.inr (Or.inl ⟨trivial, hdate, rfl⟩)

end

end Nq.Tls
