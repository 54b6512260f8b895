/-
  Nq.Inquiry.Target — probing one target (`nq-monitor/src/inquiry.rs`).

  A target is resolved, connected to and its certificate chain observed, under a deadline;
  the probe's receipt is then mapped to an observation. The mapping and the shape check of
  the receipt disagree on a chain that the verifier takes and the verdict does not
  (`mapProbe_shape_iff`): the verdict knows DNS names alone, and the clock to the
  nanosecond. In a run without such a chain the receipt seals (`acquired_seals`).
-/

import Nq.Inquiry.Sealing
import Nq.Tls.Probe

namespace Nq.Inquiry

open Collections Tls
open List

/-! ## The world of a probe -/

structure SocketAddr where
  ip : String
  port : Nat
  deriving DecidableEq, Repr

inductive Resolution where
  | addresses (addresses : List SocketAddr)
  | failed (reason : String)
  deriving DecidableEq, Repr

/-- The clocks, the resolver and the network; `Instant` never goes back. -/
structure World (σ : Type) extends Clock σ where
  /-- `str::parse::<IpAddr>`. -/
  isIpAddr : String → Bool
  toSocketAddrs : String → Nat → σ → Resolution × σ
  /-- `TcpStream::connect_timeout`, of an address and nanoseconds. -/
  connectTimeout : SocketAddr → Nat → σ → Bool × σ
  /-- The handshake with an address, of the server's name and a deadline: the chain it presented. -/
  observeChain : SocketAddr → String → Nat → σ → Option (List Der) × σ
  /-- The monotonic clock of a state. -/
  time : σ → Nat
  instant_time : ∀ s, time s ≤ (instant s).1 ∧ (instant s).1 ≤ time (instant s).2
  wall_time : ∀ s, time s ≤ time (wall s).2
  resolve_time : ∀ host port s, time s ≤ time (toSocketAddrs host port s).2
  connect_time : ∀ addr timeout s, time s ≤ time (connectTimeout addr timeout s).2
  observe_time : ∀ addr sni deadline s, time s ≤ time (observeChain addr sni deadline s).2

section

variable (env : Env) (pki : Pki) {σ : Type} (world : World σ)

/-- At most one connection and one handshake, and the elapsed time of the probe's receipt. -/
def runTransport (addr : SocketAddr) (sni : String) (started deadline : Nat) (s : σ) : (Transport × Nat) × σ :=
  let (now, s) := world.instant s
  if deadline ≤ now then
    let (elapsed, s) := elapsedMs world.toClock started s
    ((.elapsed, elapsed), s)
  else
    let (connected, s) := world.connectTimeout addr (deadline - now) s
    if !connected then
      let (elapsed, s) := elapsedMs world.toClock started s
      let (now, s) := world.instant s
      ((.connectFailed (deadline ≤ now), elapsed), s)
    else
      match world.observeChain addr sni deadline s with
      | (none, s) =>
        let (elapsed, s) := elapsedMs world.toClock started s
        let (now, s) := world.instant s
        ((.handshakeFailed (deadline ≤ now), elapsed), s)
      | (some chain, s) =>
        let (elapsed, s) := elapsedMs world.toClock started s
        ((.observed chain, elapsed), s)

/-! ## The attempt -/

/-- What a target without a probe is recorded with. -/
structure Failure where
  acquiredAt : String
  spend : AcquisitionSpend
  started : Nat
  outcome : TlsOutcome
  kind : RefusalKind
  statement : String
  deriving DecidableEq, Repr

/-- What a probe is made of, before its verdict. -/
structure Probe where
  selected : SocketAddr
  dnsAnswers : List String
  now : DateTime
  transport : Transport
  elapsedMs : Nat
  wallMs : Nat
  late : Bool
  deriving DecidableEq, Repr

def Failure.bound (acquiredAt : String) (spend : AcquisitionSpend) (started : Nat) (statement : String) : Failure :=
  ⟨acquiredAt, spend, started, .acquisitionBoundRefused, .acquisitionBoundCannotBeHonored, statement⟩

def Failure.resolution (acquiredAt : String) (spend : AcquisitionSpend)
    (started : Nat) (statement : String) : Failure :=
  ⟨acquiredAt, spend, started, .resolutionFailed, .resolutionFailed, statement⟩

/-- The probe of a resolved target. -/
def probeTarget (target : TlsTarget) (addresses : List SocketAddr)
    (selected : SocketAddr) (started deadline : Nat) (s : σ) :
    Probe × σ :=
  let (now, s) := world.wall s
  let (instant, s) := world.instant s
  let processingReserve := min ((deadline - instant) / 10) 50000000
  let ((transport, elapsed), s) := runTransport world selected target.sni started (deadline - processingReserve) s
  let (wallMs, s) := elapsedMs world.toClock started s
  let (late, s) := if transport.deadlineExhausted then (true, s) else
    let (instant, s) := world.instant s
    (decide (deadline ≤ instant), s)
  (⟨selected, addresses.map SocketAddr.ip, now, transport, elapsed, wallMs, late⟩, s)

/-- The effects of `execute_target`: a failure before the probe, or the probe. -/
def attemptTarget (target : TlsTarget) (w : WitnessPlan) (overallDeadline : Nat) (s : σ) : (Failure ⊕ Probe) × σ :=
  let (started, s) := world.instant s
  let deadline := min (started + 1000000 * w.bounds.perTargetDeadlineMs) overallDeadline
  let (now, s) := world.wall s
  let acquiredAt := env.formatRfc3339 now
  let (instant, s) := world.instant s
  let checked : AcquisitionSpend := { boundChecks := 1, workUnits := 1 }
  let resolved : AcquisitionSpend := { boundChecks := 1, workUnits := 2, dnsAttempts := 1 }
  if deadline < instant then
    (.inl (.bound acquiredAt checked started "total acquisition deadline elapsed before target resolution"), s)
  else if !world.isIpAddr target.host then
    (.inl (.bound acquiredAt checked started
      ("the system resolver cannot guarantee one packet-level attempt or a hard deadline; " ++
      "declare a numeric host with separate SNI")), s)
  else
    match world.toSocketAddrs target.host target.port s with
    | (.failed reason, s) =>
      (.inl (.resolution acquiredAt resolved started ("the single DNS resolution failed: " ++ reason)), s)
    | (.addresses [], s) =>
      (.inl (.resolution acquiredAt resolved started "the single DNS resolution returned no addresses"), s)
    | (.addresses (selected :: rest), s) =>
      let (instant, s) := world.instant s
      if deadline ≤ instant then
        (.inl (.bound acquiredAt resolved started
          "the target deadline elapsed after resolution and before connection"), s)
      else
        let (probe, s) := probeTarget world target (selected :: rest) selected started deadline s
        (.inr probe, s)

/-! ## The observation -/

def normalizeFingerprint (fingerprint : String) : String :=
  "sha256:" ++ String.ofList ((fingerprint.toList.filter (· ≠ ':')).map Char.toLower)

def chainDigest (fingerprints : List String) : Option String :=
  if fingerprints.isEmpty then none else some (digestDerParts env (fingerprints.map (·.toUTF8.data.toList)))

/-- The outcome of a verdict and the refusal it brings. -/
def verdictOutcome : TlsCertVerdict → TlsOutcome × Option (RefusalKind × String)
  | .probeNotAttempted =>
    (.acquisitionBoundRefused, some (.acquisitionBoundCannotBeHonored, "the TLS certificate probe was not attempted"))
  | .dnsFailed => (.resolutionFailed, some (.resolutionFailed, "the declared endpoint did not resolve"))
  | .tcpFailed => (.connectionFailed, some (.connectionFailed, "the single connection attempt failed"))
  | .tlsHandshakeFailed =>
      (.tlsHandshakeFailed, some (.tlsHandshakeFailed, "the single TLS handshake did not complete"))
  | .noCertificatePresented =>
    (.noCertificatePresented, some (.evidenceAbsent, "the completed handshake presented no parseable certificate"))
  | .nameMismatch => (.nameMismatch, none)
  | .chainInvalid => (.chainInvalid, none)
  | .expiredUnderProbeClock => (.expiredUnderAcquisitionClock, none)
  | .validButWithinWarningHorizon => (.validNowButExpiresWithinHorizon, none)
  | .validAtProbeTime => (.validBeyondExpiryHorizon, none)

def probeOutcome (deadlineExhausted : Bool) (verdict : TlsCertVerdict) : TlsOutcome × Option (RefusalKind × String) :=
  if deadlineExhausted then
    (.acquisitionBoundRefused, some (.acquisitionBoundCannotBeHonored,
      "the target acquisition exhausted its fixed deadline"))
  else verdictOutcome verdict

def observedValidation : ChainValidation → TlsValidationResult
  | .valid => .valid
  | .invalid reason => .invalid reason
  | .notAttempted => .notAttempted

def mapProbeReceipt (target : TlsTarget) (selected : SocketAddr)
    (result : BoundedTlsCertProbeResult) (spend : AcquisitionSpend)
    (deadlineExhausted : Bool) (refusals : List Refusal) : TlsObservation × List Refusal :=
  let receipt := result.receipt
  let (outcome, refusal) := probeOutcome deadlineExhausted receipt.verdict
  let added := refusal.toList.map fun x => targetRefusal env target x.1 x.2
  ({ acquiredAt := receipt.probeTime
     target := target
     observedIp := some selected.ip
     certificateDigest := result.leafDerDigest <|> receipt.chainFingerprints.head?.map normalizeFingerprint
     chainDigest := result.chainDerDigest <|> chainDigest env receipt.chainFingerprints
     chainFingerprints := receipt.chainFingerprints
     notBefore := receipt.leafNotBefore
     notAfter := receipt.leafNotAfter
     validationResult := observedValidation receipt.validationResult
     outcome := outcome
     spend := spend
     refusals := added }, refusals ++ added)

def probeSpend (result : BoundedTlsCertProbeResult) (wallMs : Nat) : AcquisitionSpend where
  dnsAttempts := 1
  connectionAttempts := result.connectionAttempted.toNat
  handshakesAttempted := result.handshakeAttempted.toNat
  handshakesCompleted := result.receipt.deliveryBasis.tlsHandshakeCompleted.toNat
  boundChecks := 1
  wallMs := wallMs
  workUnits := 2 + result.connectionAttempted.toNat + result.handshakeAttempted.toNat

/-- The observation of a probe under any policy. -/
def mapProbe (target : TlsTarget) (tlsTarget : TlsCertTarget)
    (policy : TlsCertPolicy) (basis : ClockBasis) (timeoutMs : Nat)
    (p : Probe) (refusals : List Refusal) : TlsObservation × List Refusal :=
  let result := probeResult env pki p.transport p.dnsAnswers tlsTarget policy p.elapsedMs timeoutMs basis p.now
  mapProbeReceipt env target p.selected result (probeSpend result p.wallMs)
    (result.deadlineExhausted || p.late) refusals

def executeTarget : Acquirer σ := fun target w overallDeadline refusals s =>
  match attemptTarget env world target w overallDeadline s with
  | (.inl f, s) =>
    failedObservation env world.toClock target f.acquiredAt f.spend f.started f.outcome f.kind f.statement refusals s
  | (.inr p, s) =>
    (mapProbe env pki target ⟨target.endpoint, target.sni, w.vantage⟩ ⟨[target.sni], w.expiryHorizonDays, .webpki⟩
      ⟨"system_wall", "unknown"⟩ w.bounds.perTargetDeadlineMs p refusals, s)

def executeTlsCertInquiry (resolved : ResolvedProfile) (plan : CandidatePlan) (grant : Grant) (s : σ) :
    Except String Receipt × σ :=
  executeTlsCertInquiryWith env world.toClock (executeTarget env pki world) resolved plan grant s

end

/-! ## Verdict and shape -/

section

variable {env : Env} {pki : Pki} {σ : Type} {world : World σ}
  {u : Unit} {o : TlsObservation} {p : Probe} {policy : TlsCertPolicy} {result : BoundedTlsCertProbeResult}
  {spend : AcquisitionSpend} {s : σ} {basis : ClockBasis} {refusals : List Refusal} {target : TlsTarget}
  {timeoutMs : Nat} {tlsTarget : TlsCertTarget} {w : WitnessPlan}

theorem parseOptional_ok {field : String} {value : Option String} :
    parseOptional env field value = .ok u ↔ ∀ t ∈ value, ∃ i, env.rfc3339 t = .ok i := by
  cases value with
  | none => simp [parseOptional]
  | some t =>
    unfold parseOptional
    simp only [Sql.bind_ok, parseRfc3339_ok, Option.mem_def, Option.some.injEq, forall_eq']
    simp [pure, Except.pure]

theorem verifyShape_ok : o.verifyShape env = .ok u ↔
    (∀ d ∈ o.certificateDigest, isSha256Digest d = true) ∧ (∀ d ∈ o.chainDigest, isSha256Digest d = true) ∧
    (∀ t ∈ o.notBefore, ∃ i, env.rfc3339 t = .ok i) ∧ (∀ t ∈ o.notAfter, ∃ i, env.rfc3339 t = .ok i) ∧
    o.shapeIsValid = true := by
  have hdigest : ∀ d : Option String, d.any (!isSha256Digest ·) = false ↔ ∀ x ∈ d, isSha256Digest x = true := by
    intro d
    cases d <;> simp
  unfold TlsObservation.verifyShape
  simp only [Sql.bind_ok, exists_const, rejectIf_ok, parseOptional_ok,
    Bool.or_eq_false_iff, hdigest, Bool.not_eq_false', and_assoc]

/-- The verifier and the verdict agree on what a transport observed: no leaf, a chain the
    verifier does not take, or one the verdict takes as well. -/
def Agrees (env : Env) (pki : Pki) (transport : Transport) (sni : String) (expectedNames : List String)
    (now : DateTime) : Prop :=
  ∀ chain leaf, transport = .observed chain → (presentedChain env pki chain).head? = some leaf →
    (∃ reason, validateObservedChain pki chain sni now = .invalid reason) ∨
      (nameMatches leaf.sans expectedNames = true ∧ leaf.CurrentAt now)

/-- Without a chain the observation is in shape. -/
theorem mapProbe_unobserved (hchain : ∀ chain, p.transport ≠ .observed chain) (hdns : p.dnsAnswers ≠ [])
    (target : TlsTarget) (tlsTarget : TlsCertTarget) (policy : TlsCertPolicy) (basis : ClockBasis) (timeoutMs : Nat)
    (refusals : List Refusal) :
    (mapProbe env pki target tlsTarget policy basis timeoutMs p refusals).1.verifyShape env = .ok () := by
  have hdns : p.dnsAnswers.isEmpty = false := by simpa using hdns
  rw [verifyShape_ok]
  unfold mapProbe
  cases ht : p.transport with
  | observed chain => exact absurd ht (hchain chain)
  | elapsed =>
    refine ⟨fun _ h => ?_, fun _ h => ?_, fun _ h => ?_, fun _ h => ?_, rfl⟩
    all_goals cases h
  | connectFailed late =>
    refine ⟨fun _ h => ?_, fun _ h => ?_, fun _ h => ?_, fun _ h => ?_, ?_⟩
    case refine_5 =>
      cases late <;> cases p.late <;> simp [mapProbeReceipt, probeResult, failedReceipt, finish, evaluateTlsCert,
        computeVerdict, hdns, probeOutcome, verdictOutcome, Transport.deadlineExhausted, TlsObservation.shapeIsValid,
        targetRefusal, TlsObservation.hasRefusal, probeSpend, TlsObservation.noCertificateEvidence, observedValidation,
        chainDigest]
    all_goals cases h
  | handshakeFailed late =>
    refine ⟨fun _ h => ?_, fun _ h => ?_, fun _ h => ?_, fun _ h => ?_, ?_⟩
    case refine_5 => cases late <;> cases p.late <;> rfl
    all_goals cases h

variable (env pki) in
/-- The digests and the dates of an observed chain are well formed. -/
theorem mapProbe_evidence {p : Probe} {chain : List Der} (hp : p.transport = .observed chain)
    (target : TlsTarget) (tlsTarget : TlsCertTarget) (policy : TlsCertPolicy) (basis : ClockBasis) (timeoutMs : Nat)
    (refusals : List Refusal) {o : TlsObservation}
    (ho : (mapProbe env pki target tlsTarget policy basis timeoutMs p refusals).1 = o) :
    (∀ d ∈ o.certificateDigest, isSha256Digest d = true) ∧ (∀ d ∈ o.chainDigest, isSha256Digest d = true) ∧
    (∀ t ∈ o.notBefore, ∃ i, env.rfc3339 t = .ok i) ∧ (∀ t ∈ o.notAfter, ∃ i, env.rfc3339 t = .ok i) := by
  have hdate : ∀ (f : PresentedCert → DateTime), ∀ t ∈ (presentedChain env pki chain).head?.map fun c =>
    env.formatRfc3339 (f c),
      ∃ i, env.rfc3339 t = .ok i := by
    intro f t ht
    obtain ⟨cert, _, e⟩ := Option.map_eq_some_iff.mp ht
    exact ⟨_, e ▸ env.rfc3339_format _⟩
  subst ho
  unfold mapProbe probeResult
  rw [hp]
  refine ⟨?_, ?_, hdate _, hdate _⟩
  · cases chain with
    | nil => exact fun d h => nomatch h
    | cons leaf rest => exact fun d h => Option.some.inj h ▸ isSha256Digest_digestText _
  · cases chain with
    | nil => exact fun d h => nomatch h
    | cons leaf rest => exact fun d h => Option.some.inj h ▸ isSha256Digest_digestText _

/-- What an observation of a chain with a leaf holds, whatever its outcome. -/
structure LeafObserved (o : TlsObservation) (validation : ChainValidation) : Prop where
  completed : o.spend.handshakesCompleted = 1
  evidence : o.certificateObserved = true
  observedIp : o.observedIp.isSome = true
  validation : o.validationResult = observedValidation validation

/-- The shape of an observed leaf, by what the verdict and the verifier make of it. -/
theorem LeafObserved.shape_iff (facts : TlsCertFacts) (h : LeafObserved o facts.validation)
    (hconnected : facts.delivery.tcpConnected = true) (hcompleted : facts.delivery.tlsHandshakeCompleted = true)
    (hattempted : facts.validation ≠ .notAttempted) {leaf : PresentedCert} {now : DateTime}
    (ho : o.outcome = (verdictOutcome (computeVerdict facts policy (some leaf) now)).1) : o.shapeIsValid = true ↔
      (∃ reason, facts.validation = .invalid reason) ∨
        (nameMatches leaf.sans policy.expectedNames = true ∧ leaf.CurrentAt now) := by
  have hinvalid : o.validationResult.isInvalid = true ↔ ∃ reason, facts.validation = .invalid reason := by
    rw [h.validation]
    cases facts.validation <;> simp [observedValidation, TlsValidationResult.isInvalid]
  unfold TlsObservation.shapeIsValid
  rw [ho]
  rcases verdict_cases hconnected hcompleted policy leaf now with hv | hv | hv | hv
  · obtain ⟨hname, hv⟩ := hv
    rw [hv]
    simp [verdictOutcome, h.completed, h.evidence, h.observedIp, hinvalid, hname]
  · obtain ⟨hname, hdate, hv⟩ := hv
    rw [hv]
    simp [verdictOutcome, h.completed, h.evidence, h.observedIp, hinvalid, hdate]
  · obtain ⟨hname, hdate, hreason, hv⟩ := hv
    rw [hv]
    simp [verdictOutcome, h.completed, h.evidence, h.observedIp, hinvalid, hname, hdate, hreason]
  · obtain ⟨hname, hdate, hreason, hv⟩ := hv
    have hvalid : o.validationResult = .valid := by
      rw [h.validation]
      cases hf : facts.validation with
      | valid => rfl
      | invalid reason => exact absurd hf (hreason reason)
      | notAttempted => exact absurd hf hattempted
    rcases hv with hv | hv
    · rw [hv]
      simp [verdictOutcome, h.completed, h.evidence, h.observedIp, hvalid, hname, hdate]
    · rw [hv]
      simp [verdictOutcome, h.completed, h.evidence, h.observedIp, hvalid, hname, hdate]

theorem mapProbeReceipt_noLeaf (hv : result.receipt.verdict = .noCertificatePresented)
    (hb : result.receipt.leafNotBefore = none) (hs : spend.handshakesCompleted = 1) (target : TlsTarget)
    (selected : SocketAddr) (refusals : List Refusal) :
    (mapProbeReceipt env target selected result spend false refusals).1.shapeIsValid = true := by
  unfold mapProbeReceipt
  simp [hv, hb, TlsObservation.shapeIsValid, probeOutcome, verdictOutcome, hs, TlsObservation.certificateObserved,
    TlsObservation.hasRefusal, targetRefusal]

theorem mapProbeReceipt_leaf (hleaf : result.leafDerDigest.isSome = true) (hchain : result.chainDerDigest.isSome = true)
    (hprints : result.receipt.chainFingerprints ≠ []) (hb : result.receipt.leafNotBefore.isSome = true)
    (ha : result.receipt.leafNotAfter.isSome = true) (hs : spend.handshakesCompleted = 1) (target : TlsTarget)
    (selected : SocketAddr) (refusals : List Refusal) :
    LeafObserved (mapProbeReceipt env target selected result spend false refusals).1
      result.receipt.validationResult := by
  obtain ⟨leaf, hleaf⟩ := Option.isSome_iff_exists.mp hleaf
  obtain ⟨chain, hchain⟩ := Option.isSome_iff_exists.mp hchain
  refine ⟨hs, ?_, rfl, rfl⟩
  unfold TlsObservation.certificateObserved mapProbeReceipt
  simp [hleaf, hchain, hprints, hb, ha]

theorem probeResult_verdict (chain : List Der) (dnsAnswers : List String)
    (tlsTarget : TlsCertTarget) (policy : TlsCertPolicy)
    (elapsed timeoutMs : Nat) (basis : ClockBasis) (now : DateTime) :
    (probeResult env pki (.observed chain) dnsAnswers tlsTarget policy elapsed timeoutMs basis now).receipt.verdict =
      computeVerdict ⟨⟨dnsAnswers, true, true⟩, ⟨timeoutMs, some elapsed⟩, presentedChain env pki chain,
        validateObservedChain pki chain tlsTarget.sni now⟩ policy (presentedChain env pki chain).head? now := rfl

theorem mapProbe_observed {chain : List Der} (hp : p.transport = .observed chain) (target : TlsTarget)
    (tlsTarget : TlsCertTarget) (policy : TlsCertPolicy) (basis : ClockBasis) (timeoutMs : Nat)
    (refusals : List Refusal) :
    (mapProbe env pki target tlsTarget policy basis timeoutMs p refusals).1.verifyShape env = .ok () ↔
      p.late = true ∨ Agrees env pki p.transport tlsTarget.sni policy.expectedNames p.now := by
  obtain ⟨h₁, h₂, h₃, h₄⟩ := mapProbe_evidence env pki hp target tlsTarget policy basis timeoutMs refusals rfl
  rw [verifyShape_ok, and_iff_right h₁, and_iff_right h₂, and_iff_right h₃, and_iff_right h₄]
  clear h₁ h₂ h₃ h₄
  unfold mapProbe
  rw [hp]
  cases hlate : p.late with
  | true => exact ⟨fun _ => Or.inl rfl, fun _ => rfl⟩
  | false =>
    have hagrees : (false = true ∨ Agrees env pki (.observed chain) tlsTarget.sni policy.expectedNames p.now) ↔
        ∀ leaf, (presentedChain env pki chain).head? = some leaf →
          (∃ reason, validateObservedChain pki chain tlsTarget.sni p.now = .invalid reason) ∨
            (nameMatches leaf.sans policy.expectedNames = true ∧ leaf.CurrentAt p.now) := by
      unfold Agrees
      simp only [Bool.false_eq_true, false_or, Transport.observed.injEq]
      exact ⟨fun h leaf => h chain leaf rfl, fun h chain' leaf e => e ▸ h leaf⟩
    rw [hagrees]
    cases hleaf : (presentedChain env pki chain).head? with
    | none =>
      simp only [reduceCtorEq, false_implies, implies_true, iff_true]
      refine mapProbeReceipt_noLeaf ?_ ?_ rfl _ _ _
      · rw [probeResult_verdict, hleaf]
        rfl
      · show ((presentedChain env pki chain).head?).map _ = _
        rw [hleaf]
        rfl
    | some leaf =>
      obtain ⟨rest, hcons⟩ := head?_eq_some_iff.mp hleaf
      obtain ⟨der, ders, hder⟩ := exists_cons_of_ne_nil (leaf_of_chain hleaf)
      simp only [Option.some.injEq, forall_eq']
      refine LeafObserved.shape_iff
        ⟨⟨p.dnsAnswers, true, true⟩, ⟨timeoutMs, some p.elapsedMs⟩, presentedChain env pki chain,
          validateObservedChain pki chain tlsTarget.sni p.now⟩ (mapProbeReceipt_leaf ?_ ?_ ?_ ?_ ?_ rfl _ _ _) rfl rfl
        (validateObservedChain_attempted _ _ _) ?_
      · rw [hder]; rfl
      · rw [hder]; rfl
      · show (presentedChain env pki chain).map _ ≠ []
        rw [hcons]
        exact cons_ne_nil _ _
      · show (((presentedChain env pki chain).head?).map _).isSome = _
        rw [hleaf]
        rfl
      · show (((presentedChain env pki chain).head?).map _).isSome = _
        rw [hleaf]
        rfl
      · rw [← hleaf, ← probeResult_verdict]
        rfl

variable (env pki) in
/-- The observation of a probe is in shape exactly when it was late or the two agree. -/
theorem mapProbe_shape_iff {p : Probe} (hdns : p.dnsAnswers ≠ []) (target : TlsTarget) (tlsTarget : TlsCertTarget)
    (policy : TlsCertPolicy) (basis : ClockBasis) (timeoutMs : Nat) (refusals : List Refusal) :
    (mapProbe env pki target tlsTarget policy basis timeoutMs p refusals).1.verifyShape env = .ok () ↔
      p.late = true ∨ Agrees env pki p.transport tlsTarget.sni policy.expectedNames p.now := by
  by_cases hchain : ∃ chain, p.transport = .observed chain
  · obtain ⟨chain, hp⟩ := hchain
    exact mapProbe_observed hp target tlsTarget policy basis timeoutMs refusals
  · have hnone : ∀ chain, p.transport ≠ .observed chain := fun chain h => hchain ⟨chain, h⟩
    refine iff_of_true (mapProbe_unobserved hnone hdns target tlsTarget policy basis timeoutMs refusals) (Or.inr ?_)
    intro chain leaf h
    exact absurd h (hnone chain)

/-! ## One target -/

theorem World.monotonic (world : World σ) : world.toClock.Monotonic world.time := ⟨world.instant_time, world.wall_time⟩

theorem runTransport_time (world : World σ) (addr : SocketAddr) (sni : String) (started deadline : Nat) (s : σ) :
    world.time s ≤ world.time (runTransport world addr sni started deadline s).2 := by
  have hinstant := world.monotonic.instant_le
  have h₁ := hinstant s
  have hconnect := world.connect_time addr (deadline - (world.instant s).1) (world.instant s).2
  unfold runTransport
  dsimp only
  split
  · exact h₁.trans (hinstant _)
  · split
    · exact h₁.trans (hconnect.trans ((hinstant _).trans (hinstant _)))
    · have hobserve := world.observe_time addr sni deadline
        (world.connectTimeout addr (deadline - (world.instant s).1) (world.instant s).2).2
      split
      · rename_i e
        rw [e] at hobserve
        exact h₁.trans (hconnect.trans (hobserve.trans ((hinstant _).trans (hinstant _))))
      · rename_i e
        rw [e] at hobserve
        exact h₁.trans (hconnect.trans (hobserve.trans (hinstant _)))

theorem probeTarget_time {started : Nat} (h : started ≤ world.time s) (target : TlsTarget) (addresses : List SocketAddr)
    (selected : SocketAddr) (deadline : Nat) :
    started + (probeTarget world target addresses selected started deadline s).1.wallMs * 1000000 ≤
      world.time (probeTarget world target addresses selected started deadline s).2 := by
  have hinstant := world.monotonic.instant_le
  have hwall := world.wall_time s
  have hnow := hinstant (world.wall s).2
  unfold probeTarget
  dsimp only
  generalize hr : runTransport world selected target.sni started
    (deadline - min ((deadline - (world.instant (world.wall s).2).1) / 10) 50000000)
    (world.instant (world.wall s).2).2 = r
  have htransport := runTransport_time world selected target.sni started
    (deadline - min ((deadline - (world.instant (world.wall s).2).1) / 10) 50000000) (world.instant (world.wall s).2).2
  rw [hr] at htransport
  have helapsed := elapsedMs_le world.monotonic (h.trans (hwall.trans (hnow.trans htransport)))
  split
  · exact helapsed
  · exact helapsed.trans (hinstant _)

/-- What an attempt leaves: a failure to record, or a probe. -/
def Attempted (env : Env) (world : World σ) (s : σ) (r : (Failure ⊕ Probe) × σ) : Prop :=
  match r.1 with
  | .inl f => (∃ now, f.acquiredAt = env.formatRfc3339 now) ∧ f.spend.One ∧ FailsAs f.outcome f.kind f.spend ∧
      world.time s ≤ f.started ∧ f.started ≤ world.time r.2
  | .inr p => p.dnsAnswers ≠ [] ∧ world.time s + p.wallMs * 1000000 ≤ world.time r.2

theorem checked_one : AcquisitionSpend.One { boundChecks := 1, workUnits := 1 } :=
  ⟨⟨Nat.le_refl 0, Nat.le_refl 0, Nat.le_refl 0, Nat.zero_le 1, Nat.le_refl 1⟩, rfl, rfl⟩

theorem resolved_one : AcquisitionSpend.One { boundChecks := 1, workUnits := 2, dnsAttempts := 1 } :=
  ⟨⟨Nat.le_refl 0, Nat.le_refl 0, Nat.zero_le 1, Nat.le_refl 1, Nat.le_refl 1⟩, rfl, rfl⟩

theorem attemptTarget_attempted (env : Env) (world : World σ)
    (target : TlsTarget) (w : WitnessPlan) (overallDeadline : Nat) (s : σ) :
    Attempted env world s (attemptTarget env world target w overallDeadline s) := by
  have hstart := world.instant_time s
  have hwall := world.wall_time (world.instant s).2
  have hcheck := world.monotonic.instant_le (world.wall (world.instant s).2).2
  have hresolve := world.resolve_time target.host target.port (world.instant (world.wall (world.instant s).2).2).2
  have hchecked := hstart.2.trans (hwall.trans hcheck)
  have hfails : ∀ {spend : AcquisitionSpend}, FailsAs .acquisitionBoundRefused .acquisitionBoundCannotBeHonored spend :=
    Or.inl ⟨rfl, rfl⟩
  unfold attemptTarget
  dsimp only
  split
  · exact ⟨⟨_, rfl⟩, checked_one, hfails, hstart.1, hchecked⟩
  · split
    · exact ⟨⟨_, rfl⟩, checked_one, hfails, hstart.1, hchecked⟩
    · split
      · rename_i e
        rw [e] at hresolve
        exact ⟨⟨_, rfl⟩, resolved_one, Or.inr ⟨rfl, rfl, rfl, rfl⟩, hstart.1, hchecked.trans hresolve⟩
      · rename_i e
        rw [e] at hresolve
        exact ⟨⟨_, rfl⟩, resolved_one, Or.inr ⟨rfl, rfl, rfl, rfl⟩, hstart.1, hchecked.trans hresolve⟩
      · rename_i selected rest s' e
        rw [e] at hresolve
        have hnow := world.monotonic.instant_le s'
        split
        · exact ⟨⟨_, rfl⟩, resolved_one, hfails, hstart.1, hchecked.trans (hresolve.trans hnow)⟩
        · refine ⟨cons_ne_nil _ _, ?_⟩
          exact (Nat.add_le_add_right hstart.1 _).trans
            (probeTarget_time (hchecked.trans (hresolve.trans hnow)) target (selected :: rest) selected _)

theorem mapProbe_short :
    (mapProbe env pki target tlsTarget policy basis timeoutMs p refusals).1.refusals.length ≤ 1 := by
  show (List.map _ (probeOutcome _ _).2.toList).length ≤ 1
  rw [length_map]
  exact Option.length_toList_le

/-- A probe is recorded when its observation is in shape. -/
theorem mapProbe_recorded
    (h : (mapProbe env pki target tlsTarget policy basis timeoutMs p refusals).1.verifyShape env = .ok ()) :
    Recorded env (mapProbe env pki target tlsTarget policy basis timeoutMs p refusals).1 := by
  have hspent : ∀ (transport : Transport) (elapsed wallMs : Nat),
      (probeSpend (probeResult env pki transport p.dnsAnswers tlsTarget policy elapsed timeoutMs basis p.now)
        wallMs).One := by
    intro transport elapsed wallMs
    cases transport with
    | elapsed => exact ⟨⟨Nat.le_refl 0, Nat.le_refl 0, Nat.zero_le 1, Nat.le_refl 1, Nat.le_refl 1⟩, rfl, rfl⟩
    | connectFailed late =>
      exact ⟨⟨Nat.le_refl 0, Nat.zero_le 1, Nat.le_refl 1, Nat.le_refl 1, Nat.le_refl 1⟩, rfl, rfl⟩
    | handshakeFailed late =>
      exact ⟨⟨Nat.zero_le 1, Nat.le_refl 1, Nat.le_refl 1, Nat.le_refl 1, Nat.le_refl 1⟩, rfl, rfl⟩
    | observed chain => exact ⟨⟨Nat.le_refl 1, Nat.le_refl 1, Nat.le_refl 1, Nat.le_refl 1, Nat.le_refl 1⟩, rfl, rfl⟩
  have hprobed : ∀ transport : Transport,
    ((probeResult env pki transport p.dnsAnswers tlsTarget policy p.elapsedMs timeoutMs basis
      p.now).receipt.probeTime) = env.formatRfc3339 p.now := by
    intro transport
    cases transport <;> rfl
  refine ⟨⟨p.now.ns, ?_⟩, h, hspent _ _ _, ?_⟩
  · exact (congrArg env.rfc3339 (hprobed p.transport)).trans (env.rfc3339_format p.now)
  · exact mapProbe_short

/-- The probe of a target, if there is one, was late or agrees with the verifier. -/
def ProbeAgrees (env : Env) (pki : Pki) (world : World σ) (w : WitnessPlan)
    (overallDeadline : Nat) (target : TlsTarget) (s : σ) :
    Prop :=
  ∀ p s', attemptTarget env world target w overallDeadline s = (.inr p, s') →
    p.late = true ∨ Agrees env pki p.transport target.sni [target.sni] p.now

theorem executeTarget_acquired {overallDeadline : Nat} (h : ProbeAgrees env pki world w overallDeadline target s)
    (refusals : List Refusal) :
    Acquired env world.time target refusals s (executeTarget env pki world target w overallDeadline refusals s) := by
  have hattempted := attemptTarget_attempted env world target w overallDeadline s
  unfold executeTarget
  unfold ProbeAgrees at h
  cases hr : attemptTarget env world target w overallDeadline s with
  | mk attempt s' =>
    rw [hr] at hattempted
    cases attempt with
    | inl f =>
      obtain ⟨⟨now, hnow⟩, hone, hfails, hstart, hend⟩ := hattempted
      dsimp only
      rw [hnow]
      exact failedObservation_acquired world.monotonic hone hfails _ refusals hstart hend
    | inr p =>
      obtain ⟨hdns, htime⟩ := hattempted
      have hshape := (mapProbe_shape_iff env pki hdns target ⟨target.endpoint, target.sni, w.vantage⟩
        ⟨[target.sni], w.expiryHorizonDays, .webpki⟩ ⟨"system_wall",
          "unknown"⟩ w.bounds.perTargetDeadlineMs refusals).mpr (h p s' hr)
      exact ⟨rfl, mapProbe_recorded hshape, rfl, htime⟩

/-! ## Executions -/

/-- Under a covering grant and in time, an execution seals exactly when every probe in it was
    late or agrees with the verifier. -/
theorem execute_seals_iff {resolved : ResolvedProfile} {plan : CandidatePlan} {grant : Grant}
    {request : AdmittedRequest} {preflight : Preflight} (h : Prepared env resolved plan request w preflight)
    (hpasses : Passes env grant preflight w)
    (htime : InTime env world.toClock (executeTarget env pki world) resolved w s) :
    (∃ receipt, (executeTlsCertInquiry env pki world resolved plan grant s).1 = .ok receipt) ↔
      ∀ x ∈ acquisitionCalls env world.toClock (executeTarget env pki world) resolved w s,
        ProbeAgrees env pki world w ((world.instant s).1 + w.bounds.totalDeadlineMs * 1000000) x.1 x.2.2 := by
  constructor
  · intro hok x hx p s' hattempt
    obtain ⟨receipt, hok⟩ := hok
    have hobserved := acquirings_observed w _ w.targets false _ _ x hx
    have hshape := execute_ok_shape h hpasses hok _ hobserved
    have hattempted := attemptTarget_attempted env world x.1 w
      ((world.instant s).1 + w.bounds.totalDeadlineMs * 1000000) x.2.2
    unfold executeTarget at hshape
    rw [hattempt] at hshape hattempted
    exact (mapProbe_shape_iff env pki hattempted.1 _ _ _ _ _ _).mp (hshape mapProbe_short)
  · intro hagree
    exact execute_seals h hpasses world.monotonic (fun x hx => executeTarget_acquired (hagree x hx) x.2.1) htime

/-- The observation of a probe is in shape exactly when the probe was late or the verdict
    agrees with the verifier, and so, in time and under a covering grant, executions seal
    exactly when all their probes do. -/
theorem verdict_and_shape_agree_iff (env : Env) (pki : Pki) :
    (∀ (p : Probe), p.dnsAnswers ≠ [] → ∀ (target : TlsTarget) (tlsTarget : TlsCertTarget) (policy : TlsCertPolicy)
      (basis : ClockBasis) (timeoutMs : Nat) (refusals : List Refusal),
      (mapProbe env pki target tlsTarget policy basis timeoutMs p refusals).1.verifyShape env = .ok () ↔
        p.late = true ∨ Agrees env pki p.transport tlsTarget.sni policy.expectedNames p.now) ∧
    ∀ (σ : Type) (world : World σ) (resolved : ResolvedProfile)
      (plan : CandidatePlan) (grant : Grant) (request : AdmittedRequest)
      (w : WitnessPlan) (preflight : Preflight) (s : σ), Prepared env resolved plan request w preflight →
      Passes env grant preflight w → InTime env world.toClock (executeTarget env pki world) resolved w s →
      ((∃ receipt, (executeTlsCertInquiry env pki world resolved plan grant s).1 = .ok receipt) ↔
        ∀ x ∈ acquisitionCalls env world.toClock (executeTarget env pki world) resolved w s,
          ProbeAgrees env pki world w ((world.instant s).1 + w.bounds.totalDeadlineMs * 1000000) x.1 x.2.2) := by
  refine ⟨fun p hdns target tlsTarget policy basis timeoutMs refusals =>
    mapProbe_shape_iff env pki hdns target tlsTarget policy basis
    timeoutMs refusals, ?_⟩
  intro σ world resolved plan grant request w preflight s h hpasses htime
  exact execute_seals_iff h hpasses htime

/-! ## A leaf for an address -/

/-- A certificate of a year for the address 1.1.1.1 alone. -/
def addressCert : X509Certificate := ⟨"CN=resolver", "CN=root", newYear, nextNewYear, some [.ipAddress [1, 1, 1, 1]]⟩

/-- Every leaf is that certificate, and is trusted for what it names while it lasts. -/
def addressPki : Pki where
  fromDer := fun _ => .ok addressCert
  buildVerifier := .ok ()
  serverName := fun name => if name = "1.1.1.1" then .ok (.ipAddress [1, 1, 1, 1]) else .ok (.dnsName name)
  verifyServerCert := fun _ _ name now =>
    if name ≠ .ipAddress [1, 1, 1, 1] then .error "NotValidForName"
    else if unixSeconds nextNewYear < now then .error "Expired"
    else .ok ()

def addressTarget : TlsTarget := ⟨"resolver", "1.1.1.1", 443, "1.1.1.1"⟩

def addressProbe (transport : Transport) : Probe := ⟨⟨"1.1.1.1", 443⟩, ["1.1.1.1"], noon, transport, 10, 10, false⟩

/-- What `execute_target` makes of a probe of that target. -/
def addressObservation (transport : Transport) : TlsObservation :=
  (mapProbe canonicalEnv addressPki addressTarget ⟨addressTarget.endpoint, "1.1.1.1", "test-runner"⟩
    ⟨["1.1.1.1"], 30, .webpki⟩ ⟨"system_wall", "unknown"⟩ 500 (addressProbe transport) []).1

/-- The verifier takes the leaf; the verdict, which knows DNS names alone, does not, and the
    observation is out of shape. -/
theorem a_leaf_for_an_address_is_out_of_shape : validateObservedChain addressPki [[0x30]] "1.1.1.1" noon = .valid ∧
    (addressObservation (.observed [[0x30]])).verifyShape canonicalEnv ≠ .ok () := by
  refine ⟨by decide, fun h => ?_⟩
  have hagrees := (mapProbe_shape_iff canonicalEnv addressPki (cons_ne_nil _ _) _ _ _ _ _ _).mp h
  rcases hagrees with hlate | hagrees
  · cases hlate
  · rcases hagrees [[0x30]] _ rfl rfl with hreason | hname
    · obtain ⟨reason, hreason⟩ := hreason
      cases hreason
    · exact absurd hname.1 (by decide)

/-- A world in which every connection is refused. -/
def refusingWorld : World Unit where
  toClock := standingClock
  isIpAddr := fun _ => true
  toSocketAddrs := fun host port s => (.addresses [⟨host, port⟩], s)
  connectTimeout := fun _ _ s => (false, s)
  observeChain := fun _ _ _ s => (none, s)
  time := fun _ => 0
  instant_time := fun _ => ⟨Nat.le_refl 0, Nat.le_refl 0⟩
  wall_time := fun _ => Nat.le_refl 0
  resolve_time := fun _ _ _ => Nat.le_refl 0
  connect_time := fun _ _ _ => Nat.le_refl 0
  observe_time := fun _ _ _ _ => Nat.le_refl 0

theorem refused_connection (addr : SocketAddr) (sni : String) (started deadline : Nat) (s : Unit) (chain : List Der) :
    (runTransport refusingWorld addr sni started deadline s).1.1 ≠ .observed chain := by
  unfold runTransport
  dsimp only
  split
  · exact fun h => nomatch h
  · exact fun h => nomatch h

theorem refused_probe (target : TlsTarget) (addresses : List SocketAddr)
    (selected : SocketAddr) (started deadline : Nat) (s : Unit)
    (chain : List Der) : (probeTarget refusingWorld target addresses selected started deadline s).1.transport ≠
      .observed chain :=
  refused_connection selected target.sni started _ () chain

theorem refused_probes_agree (w : WitnessPlan) (overallDeadline : Nat) (target : TlsTarget) (s : Unit) :
    ProbeAgrees canonicalEnv addressPki refusingWorld w overallDeadline target s := by
  intro p s' h
  refine Or.inr fun chain _ hchain => ?_
  unfold attemptTarget at h
  dsimp only at h
  split at h
  · cases congrArg Prod.fst h
  · split at h
    · cases congrArg Prod.fst h
    · have h : (if _ then _ else _ : (Failure ⊕ Probe) × Unit) = (Sum.inr p, s') := h
      split at h
      · cases congrArg Prod.fst h
      · have hp := Sum.inr.inj (congrArg Prod.fst h)
        rw [← hp] at hchain
        exact absurd hchain (refused_probe _ _ _ _ _ _ _)

/-- A refused connection is in shape, and an execution of refused connections seals. -/
theorem refused_connections_seal : (addressObservation (.connectFailed false)).verifyShape canonicalEnv = .ok () ∧
    ∃ resolved grant receipt,
      (executeTlsCertInquiry canonicalEnv addressPki refusingWorld resolved loopbackPlan grant ()).1 =
      .ok receipt := by
  have hagree := verdict_and_shape_agree_iff canonicalEnv addressPki
  refine ⟨(hagree.1 (addressProbe (.connectFailed false)) (cons_ne_nil _ _) _ _ _ _ _ _).mpr
    (Or.inr fun _ _ h => (nomatch h)), ?_⟩
  obtain ⟨resolved, request, w, preflight, h, hpasses⟩ := loopback_prepared
  refine ⟨resolved, preflight.grantRequirements.grant,
    (hagree.2 Unit refusingWorld resolved loopbackPlan _ request w preflight ()
    h hpasses ?_).mpr fun x _ => refused_probes_agree w _ x.1 x.2.2⟩
  have hrun : AcquiredAll canonicalEnv refusingWorld.time w.targets resolved.profile.cannotTestify ()
      (acquisition canonicalEnv refusingWorld.toClock (executeTarget canonicalEnv addressPki refusingWorld)
        resolved w ()) :=
    acquireAll_acquired refusingWorld.monotonic w _ w.targets false _ _
      fun x _ => executeTarget_acquired (refused_probes_agree w _ x.1 x.2.2) x.2.1
  exact standing_in_time hrun w

end

end Nq.Inquiry
