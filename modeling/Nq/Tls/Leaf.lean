/-
  Nq.Tls.Leaf — whose dates a probe reports (`nq-monitor/src/tls_cert_transport.rs`).

  A server presents its leaf first. The digest of the leaf is taken of the first certificate
  as it came, and the receipt is evaluated of the first that parses: so a receipt describes
  the presented leaf exactly where the leaf parses or no certificate of the chain does
  (`describes_leaf_iff`).
-/

import Nq.Inquiry.Canonical
import Nq.Tls.Probe

namespace Nq.Tls

open Inquiry (DateTime)

section

variable (env : Inquiry.Env) (pki : Pki)

/-- The certificate a server presented as its leaf, where it parses. -/
def presentedLeaf (chain : List Der) : Option PresentedCert :=
  chain.head?.bind fun der => (parsePresentedCert env pki der).toOption

/-- A probe of a chain reports its leaf: the dates, the issuer, the days left and the verdict
are those of the leaf, or there is no certificate. -/
structure DescribesLeaf (chain : List Der) (dnsAnswers : List String) (target : TlsCertTarget) (policy : TlsCertPolicy)
    (now : DateTime) (result : BoundedTlsCertProbeResult) : Prop where
  digest : result.leafDerDigest = chain.head?.map (digestDer env)
  leafNotBefore : result.receipt.leafNotBefore = (presentedLeaf env pki chain).map (env.formatRfc3339 ·.notBefore)
  leafNotAfter : result.receipt.leafNotAfter = (presentedLeaf env pki chain).map (env.formatRfc3339 ·.notAfter)
  issuer : result.receipt.issuer = (presentedLeaf env pki chain).map PresentedCert.issuer
  daysRemaining : result.receipt.daysRemaining = (presentedLeaf env pki chain).map (wholeDays ·.notAfter now)
  verdict : result.receipt.verdict =
    computeVerdict ⟨⟨dnsAnswers, true, true⟩, result.receipt.responseHorizon,
      [], validateObservedChain pki chain target.sni now⟩ policy
      (presentedLeaf env pki chain) now
  absent : presentedLeaf env pki chain = none → result.receipt.verdict = .noCertificatePresented

end

section

variable {env : Inquiry.Env} {pki : Pki}

variable (env) in
theorem parsePresentedCert_ok {der : Der} :
    (∃ cert, parsePresentedCert env pki der = .ok cert) ↔ ∃ cert, pki.fromDer der = .ok cert := by
  unfold parsePresentedCert
  cases pki.fromDer der with
  | error e => simp [Except.mapError, bind, Except.bind]
  | ok cert => simp [Except.mapError, bind, Except.bind, pure, Except.pure]

theorem parsePresentedCert_toOption {der : Der} : (parsePresentedCert env pki der).toOption = none ↔
    ∀ cert, pki.fromDer der ≠ .ok cert := by
  rw [← not_exists, ← parsePresentedCert_ok env]
  cases parsePresentedCert env pki der with
  | error e => simp [Except.toOption]
  | ok cert => simp [Except.toOption]

theorem presentedChain_eq_nil {chain : List Der} : presentedChain env pki chain = [] ↔
    ∀ der ∈ chain, ∀ cert, pki.fromDer der ≠ .ok cert := by
  unfold presentedChain
  rw [List.filterMap_eq_nil_iff]
  simp only [parsePresentedCert_toOption]

/-- The verdict is computed of the first certificate that parses. -/
theorem verdict_observed (chain : List Der) (dnsAnswers : List String) (target : TlsCertTarget) (policy : TlsCertPolicy)
    (elapsedMs declaredTimeoutMs : Nat) (clock : ClockBasis) (now : DateTime) :
    (probeResult env pki (.observed chain) dnsAnswers target
      policy elapsedMs declaredTimeoutMs clock now).receipt.verdict =
      computeVerdict ⟨⟨dnsAnswers, true, true⟩, ⟨declaredTimeoutMs, some elapsedMs⟩,
        [], validateObservedChain pki chain target.sni now⟩
        policy (presentedChain env pki chain).head? now := rfl

variable (env) in
/-- The evaluated leaf is the presented one exactly where that parses, or nothing does. -/
theorem head_presentedChain {chain : List Der} : (presentedChain env pki chain).head? = presentedLeaf env pki chain ↔
    (∃ der ∈ chain.head?, ∃ cert, pki.fromDer der = .ok cert) ∨ ∀ der ∈ chain, ∀ cert, pki.fromDer der ≠ .ok cert := by
  cases chain with
  | nil => simp [presentedChain, presentedLeaf]
  | cons der rest =>
    by_cases hleaf : ∃ cert, pki.fromDer der = .ok cert
    · obtain ⟨cert, hcert⟩ := (parsePresentedCert_ok env).mpr hleaf
      simp [presentedChain, presentedLeaf, hcert, Except.toOption, hleaf]
    · have hnone : (parsePresentedCert env pki der).toOption = none :=
        parsePresentedCert_toOption.mpr (not_exists.mp hleaf)
      have hpresented : presentedLeaf env pki (der :: rest) = none := hnone
      rw [hpresented, List.head?_eq_none_iff, presentedChain_eq_nil]
      simp [hleaf]

end

/-- A probe reports the presented leaf exactly where the leaf parses, or no certificate of
the chain does. -/
theorem describes_leaf_iff (env : Inquiry.Env) (pki : Pki) (chain : List Der)
    (dnsAnswers : List String) (target : TlsCertTarget)
    (policy : TlsCertPolicy) (elapsedMs declaredTimeoutMs : Nat) (clock : ClockBasis) (now : DateTime) :
    DescribesLeaf env pki chain dnsAnswers target policy now
        (probeResult env pki (.observed chain) dnsAnswers target policy elapsedMs declaredTimeoutMs clock now) ↔
      (∃ der ∈ chain.head?, ∃ cert, pki.fromDer der = .ok cert) ∨
        ∀ der ∈ chain, ∀ cert, pki.fromDer der ≠ .ok cert := by
  rw [← head_presentedChain env]
  constructor
  · intro h
    have hissuer : (presentedChain env pki chain).head?.map PresentedCert.issuer =
        (presentedLeaf env pki chain).map PresentedCert.issuer :=
      h.issuer
    cases hleaf : presentedLeaf env pki chain with
    | none =>
      rw [hleaf] at hissuer
      exact Option.map_eq_none_iff.mp hissuer
    | some leaf =>
      -- a leaf that parses is the first of what parses
      have hparses : ∃ der ∈ chain.head?, ∃ cert, pki.fromDer der = .ok cert := by
        obtain ⟨der, hder, hparse⟩ := Option.bind_eq_some_iff.mp hleaf
        refine ⟨der, hder, (parsePresentedCert_ok env).mp ⟨leaf, ?_⟩⟩
        cases hp : parsePresentedCert env pki der with
        | error e => simp [hp, Except.toOption] at hparse
        | ok cert =>
          rw [hp] at hparse
          cases hparse
          rfl
      rw [← hleaf]
      exact (head_presentedChain env).mpr (.inl hparses)
  · intro h
    refine ⟨rfl, ?_, ?_, ?_, ?_, ?_, fun hnone => ?_⟩
    · rw [← h]; rfl
    · rw [← h]; rfl
    · rw [← h]; rfl
    · rw [← h]; rfl
    · rw [verdict_observed, h]
      rfl
    · rw [verdict_observed, h, hnone]
      rfl

/-! ## A leaf that does not parse -/

/-- A parser that takes what begins a sequence, and reads an issuer's certificate. -/
def intermediatePki : Pki where
  fromDer := fun der =>
    if der.head? = some 0x30 then .ok ⟨"CN=Example Intermediate", "CN=Example Root",
      Inquiry.newYear, Inquiry.nextNewYear, none⟩
    else .error "Parsing Error: UnexpectedTag"
  buildVerifier := .ok ()
  serverName := fun name => .ok (.dnsName name)
  verifyServerCert := fun _ _ _ _ => .error "invalid peer certificate: BadEncoding"

theorem an_intermediate_is_reported_as_the_leaf :
    ¬DescribesLeaf Inquiry.canonicalEnv intermediatePki [[0x00], [0x30]] ["192.0.2.1"] ⟨"example.org:443",
      "example.org", "vantage-1"⟩
      ⟨["example.org"], 14, .webpki⟩ ⟨1782907200000000000, by decide⟩
      (probeResult Inquiry.canonicalEnv intermediatePki (.observed [[0x00], [0x30]]) ["192.0.2.1"]
        ⟨"example.org:443", "example.org", "vantage-1"⟩ ⟨["example.org"],
          14, .webpki⟩ 20 5000 ⟨"system_wall", "unknown"⟩
        ⟨1782907200000000000, by decide⟩) := by
  intro h
  exact absurd h.issuer (by decide +kernel)

end Nq.Tls
