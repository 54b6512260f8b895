/-
  Nq.Inquiry.Sealing — when an acquisition seals (`nq-monitor/src/inquiry.rs`).

  What an acquirer must do at one target so that the receipt of a run seals (`Acquired`),
  and from it, by induction over the targets, what a whole run records (`acquireAll_acquired`).
  Under a covering grant and within its deadlines such a run seals (`execute_seals`).
-/

import Mathlib.Algebra.BigOperators.Group.List.Basic
import Nq.Inquiry.Execute

namespace Nq.Inquiry

open Collections
open List hiding le_of_lt

section

variable {env : Env} {σ : Type} {clock : Clock σ} {acquire : Acquirer σ} {time : σ → Nat}

/-- `Instant` never goes back, and no clock takes it back. -/
structure Clock.Monotonic (clock : Clock σ) (time : σ → Nat) : Prop where
  instant : ∀ s, time s ≤ (clock.instant s).1 ∧ (clock.instant s).1 ≤ time (clock.instant s).2
  wall : ∀ s, time s ≤ time (clock.wall s).2

theorem Clock.Monotonic.instant_le (hm : clock.Monotonic time) (s : σ) : time s ≤ time (clock.instant s).2 :=
  (hm.instant s).1.trans (hm.instant s).2

/-! ## One target -/

/-- The spend of one target, but for the deadline. -/
structure AcquisitionSpend.One (s : AcquisitionSpend) : Prop extends OnePerTarget s where
  counted : s.workUnits = s.countedWorkUnits
  checked : s.boundChecks = 1

/-- An observation the receipt takes, but for the deadline. -/
structure Recorded (env : Env) (o : TlsObservation) : Prop where
  acquiredAt : ∃ i, env.rfc3339 o.acquiredAt = .ok i
  shape : o.verifyShape env = .ok ()
  spent : o.spend.One
  refusals : o.refusals.length ≤ 1

/-- What an acquirer does at one target. -/
structure Acquired (env : Env) (time : σ → Nat) (target : TlsTarget) (refusals : List Refusal) (s : σ)
    (r : (TlsObservation × List Refusal) × σ) : Prop where
  target : r.1.1.target = target
  recorded : Recorded env r.1.1
  refusals : r.1.2 = refusals ++ r.1.1.refusals
  wall : time s + r.1.1.spend.wallMs * 1000000 ≤ time r.2

variable {s : σ} {n started wallMs : Nat} {refusals : List Refusal} {observations : List TlsObservation}
  {r : (List TlsObservation × List Refusal) × σ} {w : WitnessPlan} {request : AdmittedRequest}

theorem elapsedMs_le (hm : clock.Monotonic time) (h : started ≤ time s) :
    started + (elapsedMs clock started s).1 * 1000000 ≤ time (elapsedMs clock started s).2 := by
  have hnow := hm.instant s
  show started + min (((clock.instant s).1 - started) / 1000000) (2 ^ 64 - 1) * 1000000 ≤ time (clock.instant s).2
  omega

theorem le_elapsedMs (hm : clock.Monotonic time) (h : started + n * 1000000 ≤ time s) :
    n % 2 ^ 64 ≤ (elapsedMs clock started s).1 := by
  have hnow := hm.instant s
  show n % 2 ^ 64 ≤ min (((clock.instant s).1 - started) / 1000000) (2 ^ 64 - 1)
  omega

/-- The failures that an observation is recorded for. -/
def FailsAs (outcome : TlsOutcome) (kind : RefusalKind) (spend : AcquisitionSpend) : Prop :=
  (outcome = .acquisitionBoundRefused ∧ kind = .acquisitionBoundCannotBeHonored) ∨
  (outcome = .resolutionFailed ∧ kind = .resolutionFailed ∧ spend.connectionAttempts = 0 ∧
    spend.handshakesAttempted = 0)

theorem failedObservation_acquired (hm : clock.Monotonic time) {target : TlsTarget} {now : DateTime}
    {spend : AcquisitionSpend} (hspend : spend.One) {outcome : TlsOutcome} {kind : RefusalKind}
    (hfails : FailsAs outcome kind spend) (statement : String) (refusals : List Refusal) {s₀ : σ}
    (h₀ : time s₀ ≤ started) (h : started ≤ time s) :
    Acquired env time target refusals s₀
      (failedObservation env clock target (env.formatRfc3339 now) spend started outcome kind statement refusals s) := by
  have hwall := elapsedMs_le hm h
  refine ⟨rfl, ⟨⟨_, env.rfc3339_format now⟩, ?_, ?_, Nat.le_refl 1⟩, rfl, ?_⟩
  · have hshape : (failedObservation env clock target (env.formatRfc3339 now) spend
      started outcome kind statement refusals
        s).1.1.shapeIsValid = true := by
      unfold failedObservation
      rcases hfails with hf | hf
      · obtain ⟨e, e'⟩ := hf
        subst e
        subst e'
        rfl
      · obtain ⟨e, e', hc, hh⟩ := hf
        subst e
        subst e'
        simp [TlsObservation.shapeIsValid, TlsObservation.noCertificateEvidence,
          TlsObservation.hasRefusal, targetRefusal, hc, hh]
    unfold TlsObservation.verifyShape
    rw [hshape]
    rfl
  · obtain ⟨⟨h₁, h₂, h₃, h₄⟩, h₅, h₆⟩ := hspend
    exact ⟨⟨h₁, h₂, h₃, h₄⟩, h₅, h₆⟩
  · show time s₀ + (elapsedMs clock started s).1 * 1000000 ≤ time (elapsedMs clock started s).2
    omega

theorem haltedObservation_acquired (hm : clock.Monotonic time) (target : TlsTarget) (refusals : List Refusal) (s : σ) :
    Acquired env time target refusals s (haltedObservation env clock target refusals s) := by
  have hinstant := hm.instant (clock.wall s).2
  have hwall := hm.wall s
  exact failedObservation_acquired hm ⟨⟨Nat.le_refl 0, Nat.le_refl 0,
    Nat.le_refl 0, Nat.zero_le 1, Nat.le_refl 1⟩, rfl, rfl⟩
    (Or.inl ⟨rfl, rfl⟩) _ refusals (hwall.trans hinstant.1) hinstant.2

/-! ## A run -/

/-- What the acquirer is called with in a loop: targets, refusals and states. -/
def acquirings (env : Env) (clock : Clock σ) (acquire : Acquirer σ) (w : WitnessPlan) (deadline : Nat) :
    List TlsTarget → Bool → List Refusal → σ → List (TlsTarget × List Refusal × σ)
  | [], _, _, _ => []
  | target :: rest, halted, refusals, s =>
    let ((o, refusals'), s') :=
      if halted then haltedObservation env clock target refusals s else acquire target w deadline refusals s
    let later := acquirings env clock acquire w deadline rest (o.outcome = .acquisitionBoundRefused) refusals' s'
    if halted then later else (target, refusals, s) :: later

/-- What a loop over the targets records. -/
structure AcquiredAll (env : Env) (time : σ → Nat) (targets : List TlsTarget) (refusals : List Refusal) (s : σ)
    (r : (List TlsObservation × List Refusal) × σ) : Prop where
  targets : r.1.1.map TlsObservation.target = targets
  recorded : ∀ o ∈ r.1.1, Recorded env o
  refusals : r.1.2 = refusals ++ r.1.1.flatMap TlsObservation.refusals
  wall : time s + (r.1.1.map (·.spend.wallMs)).sum * 1000000 ≤ time r.2

/-- Where every call of the acquirer does its part, the loop does. -/
theorem acquireAll_acquired (hm : clock.Monotonic time) (w : WitnessPlan)
    (deadline : Nat) : ∀ (targets : List TlsTarget)
    (halted : Bool) (refusals : List Refusal) (s : σ),
    (∀ x ∈ acquirings env clock acquire w deadline targets halted refusals s,
      Acquired env time x.1 x.2.1 x.2.2 (acquire x.1 w deadline x.2.1 x.2.2)) →
    AcquiredAll env time targets refusals s (acquireAll env clock acquire w deadline targets halted refusals s) := by
  intro targets
  induction targets with
  | nil =>
    intro halted refusals s _
    refine ⟨rfl, fun o ho => (nomatch ho), (append_nil _).symm, ?_⟩
    show time s + 0 * 1000000 ≤ time s
    omega
  | cons target rest ih =>
    intro halted refusals s hcalls
    have hfirst : Acquired env time target refusals s
        (if halted then haltedObservation env clock target refusals s else acquire target w deadline refusals s) := by
      cases halted with
      | true => exact haltedObservation_acquired hm target refusals s
      | false => exact hcalls (target, refusals, s) mem_cons_self
    have hlater : ∀ x ∈ acquirings env clock acquire w deadline rest
        ((if halted then haltedObservation env clock target refusals s
          else acquire target w deadline refusals s).1.1.outcome = .acquisitionBoundRefused)
        (if halted then haltedObservation env clock target refusals s else acquire target w deadline refusals s).1.2
        (if halted then haltedObservation env clock target refusals s else acquire target w deadline refusals s).2,
        Acquired env time x.1 x.2.1 x.2.2 (acquire x.1 w deadline x.2.1 x.2.2) := by
      intro x hx
      refine hcalls x ?_
      unfold acquirings
      cases halted with
      | true => exact hx
      | false => exact mem_cons_of_mem _ hx
    have hrest := ih _ _ _ hlater
    unfold acquireAll
    dsimp only
    generalize (if halted then haltedObservation env clock target refusals s
      else acquire target w deadline refusals s) = first at hfirst hrest ⊢
    refine ⟨?_, ?_, ?_, ?_⟩
    · exact cons_eq_cons.mpr ⟨hfirst.target, hrest.targets⟩
    · exact forall_mem_cons.mpr ⟨hfirst.recorded, hrest.recorded⟩
    · rw [flatMap_cons, ← append_assoc, ← hfirst.refusals]
      exact hrest.refusals
    · have hw := hfirst.wall
      rw [map_cons, sum_cons, Nat.add_mul, ← Nat.add_assoc]
      exact (Nat.add_le_add_right hw _).trans hrest.wall

/-! ## The receipt of a run -/

/-- Every bound of the clock is met: each target's and the total. -/
structure WithinDeadlines (w : WitnessPlan) (observations : List TlsObservation) (wallMs : Nat) : Prop where
  each : ∀ o ∈ observations, o.spend.wallMs ≤ w.bounds.perTargetDeadlineMs
  total : wallMs ≤ w.bounds.totalDeadlineMs

theorem sortDedup_short (h : refusals.length ≤ 1) : sortDedup refusals = refusals := by
  match refusals, h with
  | [], _ => rfl
  | [x], _ => rfl

variable {resolved : ResolvedProfile} {plan : CandidatePlan} {grant : Grant} {preflight : Preflight} {c : Clearance}

/-- The observations of a run are in order already. -/
theorem sorted_observations (hrecorded : ∀ o ∈ observations, Recorded env o)
    (hsorted : (observations.map TlsObservation.target).Pairwise (· < ·)) :
    ((observations.map fun o => { o with refusals := sortDedup o.refusals }).insertionSort fun a b =>
      a.target ≤ b.target) =
      observations := by
  have hmap : (observations.map fun o => { o with refusals := sortDedup o.refusals }) = observations := by
    refine (map_congr_left fun o ho => ?_).trans (map_id _)
    show ({ o with refusals := sortDedup o.refusals } : TlsObservation) = o
    rw [sortDedup_short (hrecorded o ho).refusals]
  rw [hmap]
  exact List.Pairwise.insertionSort_eq ((pairwise_map.mp hsorted).imp le_of_lt)

/-- A counter of few units over few targets is summed without wrapping. -/
theorem total_small (r : Receipt) (field : AcquisitionSpend → Nat) {m : Nat} (k : Nat)
    (hadd : ∀ a b, field (a.add b) = (field a + field b) % m) (hzero : field {} = 0) (hm : 128 < m) (hk : k ≤ 4)
    (hn : r.tlsObservations.length ≤ 32) (h : ∀ o ∈ r.tlsObservations, field o.spend ≤ k) :
    field ((r.tlsObservations.map TlsObservation.spend).foldl AcquisitionSpend.add {}) = r.total field ∧
      r.total field ≤ r.tlsObservations.length * k := by
  have hle := total_le_length (r := r) field h
  have hmost : r.tlsObservations.length * k ≤ 32 * 4 := Nat.mul_le_mul hn hk
  rw [foldl_total field hadd hzero (by omega)]
  exact ⟨Nat.mod_eq_of_lt (by omega), hle⟩

/-- The counters of a run: true sums, one of each for every target. -/
structure RunTotals (acquisition : AcquisitionSpend) (n : Nat) : Prop where
  fits : acquisition.dnsAttempts ≤ n ∧ acquisition.connectionAttempts ≤ acquisition.dnsAttempts ∧
    acquisition.handshakesAttempted ≤ acquisition.connectionAttempts ∧
    acquisition.handshakesCompleted ≤ acquisition.handshakesAttempted
  checks : acquisition.boundChecks = n
  counted : acquisition.workUnits = acquisition.countedWorkUnits

theorem run_totals {r : Receipt} (hn : r.tlsObservations.length ≤ 32)
    (hrecorded : ∀ o ∈ r.tlsObservations, Recorded env o)
    (wallMs : Nat) :
    RunTotals { (r.tlsObservations.map TlsObservation.spend).foldl AcquisitionSpend.add {} with wallMs }
      r.tlsObservations.length := by
  have hone : ∀ o ∈ r.tlsObservations, o.spend.One := fun o ho => (hrecorded o ho).spent
  have hdns := total_small r AcquisitionSpend.dnsAttempts 1 (fun _ _ => rfl) rfl (by decide) (by decide) hn
    fun o ho => (hone o ho).once.1
  have hconnections := total_small r AcquisitionSpend.connectionAttempts 1 (fun _ _ => rfl) rfl (by decide)
    (by decide) hn fun o ho => (hone o ho).connected.trans (hone o ho).once.1
  have hhandshakes := total_small r AcquisitionSpend.handshakesAttempted 1 (fun _ _ => rfl) rfl (by decide)
    (by decide) hn fun o ho => (hone o ho).attempted.trans ((hone o ho).connected.trans (hone o ho).once.1)
  have hcompleted := total_small r AcquisitionSpend.handshakesCompleted 1 (fun _ _ => rfl) rfl (by decide)
    (by decide) hn fun o ho =>
      (hone o ho).completed.trans ((hone o ho).attempted.trans ((hone o ho).connected.trans (hone o ho).once.1))
  have hchecks := total_small r AcquisitionSpend.boundChecks 1 (fun _ _ => rfl) rfl (by decide)
    (by decide) hn fun o ho => (hone o ho).once.2
  have hwork := total_small r AcquisitionSpend.workUnits 4 (fun _ _ => rfl) rfl (by decide)
    (by decide) hn fun o ho => by
      have h := hone o ho
      have h₁ := h.once
      have h₂ := h.connected
      have h₃ := h.attempted
      rw [h.counted]
      unfold AcquisitionSpend.countedWorkUnits
      omega
  refine ⟨⟨?_, ?_, ?_, ?_⟩, ?_, ?_⟩
  · show AcquisitionSpend.dnsAttempts (List.foldl _ _ _) ≤ _
    rw [hdns.1]
    exact hdns.2.trans_eq (Nat.mul_one _)
  · show AcquisitionSpend.connectionAttempts (List.foldl _ _ _) ≤ AcquisitionSpend.dnsAttempts (List.foldl _ _ _)
    rw [hconnections.1, hdns.1]
    exact total_le fun o ho => (hone o ho).connected
  · show AcquisitionSpend.handshakesAttempted (List.foldl _ _ _) ≤
      AcquisitionSpend.connectionAttempts (List.foldl _ _ _)
    rw [hhandshakes.1, hconnections.1]
    exact total_le fun o ho => (hone o ho).attempted
  · show AcquisitionSpend.handshakesCompleted (List.foldl _ _ _) ≤
      AcquisitionSpend.handshakesAttempted (List.foldl _ _ _)
    rw [hcompleted.1, hhandshakes.1]
    exact total_le fun o ho => (hone o ho).completed
  · show AcquisitionSpend.boundChecks (List.foldl _ _ _) = _
    rw [hchecks.1]
    unfold Receipt.total
    rw [map_congr_left (g := fun _ => 1) fun o ho => (hone o ho).checked]
    simp
  · show AcquisitionSpend.workUnits (List.foldl _ _ _) = AcquisitionSpend.dnsAttempts (List.foldl _ _ _) +
      AcquisitionSpend.connectionAttempts (List.foldl _ _ _) + AcquisitionSpend.handshakesAttempted (List.foldl _ _ _) +
      AcquisitionSpend.boundChecks (List.foldl _ _ _)
    rw [hwork.1, hdns.1, hconnections.1, hhandshakes.1, hchecks.1]
    unfold Receipt.total
    rw [← sum_map_add, ← sum_map_add, ← sum_map_add]
    exact congrArg List.sum (map_congr_left fun o ho => (hone o ho).counted)

theorem RunTotals.fits_bounds {acquisition : AcquisitionSpend} (h : RunTotals acquisition n)
    (bounds : AcquisitionBounds) (hbounds : bounds.Fit n) (hwall : acquisition.wallMs ≤ bounds.totalDeadlineMs) :
    acquisition.Fits bounds := by
  obtain ⟨h₁, h₂, h₃, h₄⟩ := h.fits
  have hchecks := h.checks
  have hcounted := h.counted
  unfold AcquisitionSpend.countedWorkUnits at hcounted
  have hdns := hbounds.dns
  have hconnections := hbounds.connections
  have hhandshakes := hbounds.handshakes
  have hbound := hbounds.boundChecks
  have hwork := hbounds.workUnits
  exact ⟨by omega, by omega, by omega, by omega, h₂, h₃, h₄, by omega, hwall⟩

theorem AcquisitionSpend.Fits.atMost {acquisition : AcquisitionSpend}
    {bounds : AcquisitionBounds} (h : acquisition.Fits bounds) :
    acquisition.AtMost (acquisitionEnvelopeFromBounds bounds) :=
  ⟨h.dns, h.connections, h.handshakes, h.completed.trans h.handshakes, h.boundChecks, h.wall, h.workUnits⟩

/-- What a run recorded is what its receipt observes. -/
theorem AcquiredAll.observed (hrun : AcquiredAll env time w.targets refusals s r)
    (hdeadlines : WithinDeadlines w r.1.1 wallMs) : ∀ o ∈ r.1.1, Observed env w (sortDedup r.1.2) o := by
  intro o ho
  have hone := (hrun.recorded o ho).spent
  have hconnected := hone.connected.trans hone.once.1
  refine ⟨(hrun.recorded o ho).acquiredAt, (hrun.recorded o ho).shape, ?_, ?_, fun x hx => ?_⟩
  · rw [← hrun.targets]
    exact mem_map_of_mem ho
  · exact ⟨hone.counted, hone.completed, hone.connected, hone.attempted, hone.once.1, hconnected,
      hone.attempted.trans hconnected, hone.once.2, hdeadlines.each o ho⟩
  · rw [mem_sortDedup, hrun.refusals]
    exact mem_append_right _ (mem_flatMap.mpr ⟨o, ho, hx⟩)

theorem isSha256Digest_grantDigest {digest : String}
    (h : grant.grantDigest env = .ok digest) : isSha256Digest digest = true := by
  unfold Grant.grantDigest at h
  simp only [Sql.bind_ok] at h
  obtain ⟨_, _, hd⟩ := h
  exact isSha256Digest_digestJcs hd

/-- The targets of a prepared plan: few, and in order. -/
theorem Prepared.targets (h : Prepared env resolved plan request w preflight) :
    w.targets.Pairwise (· < ·) ∧ w.targets.length ≤ 32 ∧ w.targets ≠ [] ∧ w.bounds.Fit w.targets.length := by
  obtain ⟨tlsCert, _, ht, hof, _⟩ := h.facts
  have henveloped := hof.enveloped ht
  have htargets : w.targets = request.admittedTargets := by rw [hof.material]; rfl
  have hfew : w.targets.length ≤ 32 := htargets ▸ ht.length_le.1.trans ht.valid.maxTargets.2
  have hbounds := henveloped.bounds
  rw [Nat.mod_eq_of_lt (by omega)] at hbounds
  refine ⟨?_, hfew, henveloped.nonempty, hbounds⟩
  rw [htargets, ht.targets]
  exact sortDedup_pairwise _

/-- What a run recorded within its deadlines is complete. -/
theorem run_completed (h : Prepared env resolved plan c.request c.witnessPlan preflight)
    (hpasses : Passes env grant preflight c.witnessPlan) (hdigest : grant.grantDigest env = .ok c.grantDigest)
    (hauthorized : c.authorized = grant.totalAcquisitionEnvelope)
    (hrun : AcquiredAll env time c.witnessPlan.targets resolved.profile.cannotTestify s r)
    (hwall : (r.1.1.map (·.spend.wallMs)).sum % 2 ^ 64 ≤ wallMs)
    (hdeadlines : WithinDeadlines c.witnessPlan r.1.1 wallMs) :
    Completed env (completedReceipt resolved c r.1.1 r.1.2 wallMs).sorted c.witnessPlan
      { (r.1.1.map TlsObservation.spend).foldl AcquisitionSpend.add {} with wallMs } := by
  obtain ⟨_, _, _, _, hmaterial, _⟩ := h.facts
  obtain ⟨_, _, hwithin⟩ := admitInitialPosition_ok.mp hpasses.1
  obtain ⟨hsorted, hfew, hnonempty, hbounds⟩ := h.targets
  have hsort : (completedReceipt resolved c r.1.1 r.1.2 wallMs).sorted.tlsObservations = r.1.1 :=
    sorted_observations hrun.recorded (hrun.targets.symm ▸ hsorted)
  have hlength : r.1.1.length = c.witnessPlan.targets.length := by
    rw [← hrun.targets, length_map]
  have htotals := run_totals (r := { completedReceipt resolved c r.1.1 r.1.2 wallMs with tlsObservations := r.1.1 })
    (hlength.trans_le hfew) hrun.recorded wallMs
  have hfits := htotals.fits_bounds c.witnessPlan.bounds (hlength ▸ hbounds) hdeadlines.total
  have hremaining := hwithin.remaining
  unfold Preflight.position at hremaining
  rw [hmaterial] at hremaining
  refine ⟨?_, htotals.counted, rfl, hfits, ?_, ?_, ?_, ?_, ?_, ?_⟩
  · have hcounted := htotals.counted
    have hchecks := htotals.checks
    have hpositive : 0 < r.1.1.length := hlength ▸ length_pos_iff.mpr hnonempty
    unfold AcquisitionSpend.countedWorkUnits at hcounted
    dsimp only at hcounted hchecks ⊢
    omega
  · rw [hsort, hlength]
  · rw [hsort]
    exact hrun.observed hdeadlines
  · rw [hsort, hrun.targets]
    exact hsorted.imp ne_of_lt
  · rw [hsort]
    refine ⟨rfl, rfl, rfl, rfl, rfl, ?_, rfl⟩
    rw [foldl_total (r := { completedReceipt resolved c r.1.1 r.1.2 wallMs with tlsObservations := r.1.1 })
      AcquisitionSpend.wallMs (fun _ _ => rfl) rfl (by decide)]
    exact hwall
  · rw [hsort]
    rfl
  · exact Or.inr ⟨c.grantDigest, c.authorized, rfl, isSha256Digest_grantDigest hdigest, rfl, rfl,
      hauthorized ▸ hfits.atMost.trans hremaining⟩

/-- What is complete seals. -/
theorem completedReceipt_seals (h : Prepared env resolved plan c.request c.witnessPlan preflight)
    (hrefusals : ∀ x ∈ resolved.profile.cannotTestify, x ∈ refusals)
    (hcompleted : Completed env (completedReceipt resolved c observations refusals wallMs).sorted c.witnessPlan
      { (observations.map TlsObservation.spend).foldl AcquisitionSpend.add {} with wallMs }) :
    ∃ receipt, (completedReceipt resolved c observations refusals wallMs).seal env = .ok receipt := by
  obtain ⟨_, hadmitted, _⟩ := h.facts
  have henvelope : TlsEnvelope env (completedReceipt resolved c observations refusals wallMs).sorted c.witnessPlan
      { (observations.map TlsObservation.spend).foldl AcquisitionSpend.add {} with wallMs } :=
    h.envelope rfl rfl ⟨rfl, rfl, rfl, rfl⟩ (fun x hx => mem_sortDedup.mpr (hrefusals x hx)) rfl
  obtain ⟨d, hd⟩ := digestJcs_plain env
    (a := .receipt { (completedReceipt resolved c observations refusals wallMs).sorted with receiptDigest := none }) rfl
  refine ⟨_, seal_ok.mpr ⟨rfl, hadmitted.requestSealed, ?_, d, hd, rfl⟩⟩
  rw [h.verifyEnvelope rfl]
  exact verifyTlsEnvelope_ok.mpr ⟨c.witnessPlan, _, henvelope, Or.inl ⟨rfl, hcompleted⟩⟩

/-! ## An execution -/

/-- A grant that covers the plan is cleared. -/
theorem gate_passes (h : Prepared env resolved plan request w preflight) (hpasses : Passes env grant preflight w) :
    ∃ digest, grant.grantDigest env = .ok digest ∧
      gate env resolved plan grant = .ok (.inr ⟨request, w, digest, grant.totalAcquisitionEnvelope⟩) := by
  obtain ⟨hvalid, _, _⟩ := admitInitialPosition_ok.mp hpasses.1
  obtain ⟨digest, hdigest⟩ := digestJcs_plain env (a := .grant grant) rfl
  have hg : grant.grantDigest env = .ok digest := by
    unfold Grant.grantDigest
    rw [hvalid]
    exact hdigest
  refine ⟨digest, hg, ?_⟩
  rw [gate_eq h]
  unfold holdGrant
  rw [hpasses.1]
  dsimp only
  rw [if_neg (not_not.mpr hpasses.2), hg]
  rfl

variable (env clock acquire resolved)

/-- The acquisition of an execution. -/
def acquisition (w : WitnessPlan) (s : σ) : (List TlsObservation × List Refusal) × σ :=
  acquireAll env clock acquire w ((clock.instant s).1 + w.bounds.totalDeadlineMs * 1000000) w.targets false
    resolved.profile.cannotTestify (clock.instant s).2

/-- The calls of its acquirer. -/
def acquisitionCalls (w : WitnessPlan) (s : σ) : List (TlsTarget × List Refusal × σ) :=
  acquirings env clock acquire w ((clock.instant s).1 + w.bounds.totalDeadlineMs * 1000000) w.targets false
    resolved.profile.cannotTestify (clock.instant s).2

/-- Its own deadline and those of its targets. -/
def InTime (w : WitnessPlan) (s : σ) : Prop :=
  WithinDeadlines w (acquisition env clock acquire resolved w s).1.1
    (elapsedMs clock (clock.instant s).1 (acquisition env clock acquire resolved w s).2).1

variable {env clock acquire resolved}

/-- Under a covering grant and in time, an execution whose acquirer does its part seals. -/
theorem execute_seals (h : Prepared env resolved plan request w preflight) (hpasses : Passes env grant preflight w)
    (hm : clock.Monotonic time)
    (hcalls : ∀ x ∈ acquisitionCalls env clock acquire resolved w s, Acquired env time x.1 x.2.1 x.2.2
      (acquire x.1 w ((clock.instant s).1 + w.bounds.totalDeadlineMs * 1000000) x.2.1 x.2.2))
    (htime : InTime env clock acquire resolved w s) :
    ∃ receipt, (executeTlsCertInquiryWith env clock acquire resolved plan grant s).1 = .ok receipt := by
  obtain ⟨digest, hdigest, hgate⟩ := gate_passes h hpasses
  have hrun := acquireAll_acquired hm w _ w.targets false _ _ hcalls
  have hwall := hrun.wall
  have hstarted := (hm.instant s).2
  have hsum := le_elapsedMs hm ((Nat.add_le_add_right hstarted _).trans hwall)
  have hcompleted := run_completed (c := ⟨request, w, digest,
    grant.totalAcquisitionEnvelope⟩) h hpasses hdigest rfl hrun hsum htime
  obtain ⟨receipt, hseal⟩ := completedReceipt_seals h (fun x hx => by
    rw [hrun.refusals]
    exact mem_append_left _ hx) hcompleted
  refine ⟨receipt, ?_⟩
  unfold executeTlsCertInquiryWith
  rw [hgate]
  exact context_ok.mpr hseal

/-- What the acquirer returns is among the observations. -/
theorem acquirings_observed (w : WitnessPlan) (deadline : Nat) : ∀ (targets : List TlsTarget) (halted : Bool)
    (refusals : List Refusal) (s : σ), ∀ x ∈ acquirings env clock acquire w deadline targets halted refusals s,
      (acquire x.1 w deadline x.2.1 x.2.2).1.1 ∈
        (acquireAll env clock acquire w deadline targets halted refusals s).1.1 := by
  intro targets
  induction targets with
  | nil =>
    intro halted refusals s x hx
    cases hx
  | cons target rest ih =>
    intro halted refusals s x hx
    unfold acquirings at hx
    unfold acquireAll
    cases halted with
    | true => exact mem_cons_of_mem _ (ih _ _ _ x hx)
    | false =>
      rcases mem_cons.mp hx with e | hx
      · rw [e]
        exact mem_cons_self
      · exact mem_cons_of_mem _ (ih _ _ _ x hx)

/-- What a sealed execution observed is in shape. -/
theorem execute_ok_shape (h : Prepared env resolved plan request w preflight) (hpasses : Passes env grant preflight w)
    {receipt : Receipt} (hok : (executeTlsCertInquiryWith env clock acquire resolved plan grant s).1 = .ok receipt) :
    ∀ o ∈ (acquisition env clock acquire resolved w s).1.1, o.refusals.length ≤ 1 → o.verifyShape env = .ok () := by
  obtain ⟨digest, _, hgate⟩ := gate_passes h hpasses
  unfold executeTlsCertInquiryWith at hok
  rw [hgate] at hok
  obtain ⟨_, _, hverified, _⟩ := seal_ok.mp (context_ok.mp hok)
  rw [h.verifyEnvelope rfl] at hverified
  obtain ⟨_, _, _, hshape⟩ := verifyTlsEnvelope_ok.mp hverified
  rcases hshape with hs | hs
  · intro o ho hshort
    have hmem : ({ o with refusals := sortDedup o.refusals } : TlsObservation) ∈
        ((((acquisition env clock acquire resolved w s).1.1).map fun o =>
          { o with refusals := sortDedup o.refusals }).insertionSort
          fun a b => a.target ≤ b.target) :=
      (perm_insertionSort _ _).mem_iff.mpr (mem_map_of_mem ho)
    have hobserved := (hs.2.each _ hmem).shape
    rw [sortDedup_short hshort] at hobserved
    exact hobserved
  · cases hs.1

/-! ## A run that refuses its bound -/

/-- Clocks that stand at noon. -/
def standingClock : Clock Unit := ⟨fun _ => (0, ()), fun _ => (noon, ())⟩

theorem standingClock_monotonic : standingClock.Monotonic fun _ => 0 :=
  ⟨fun _ => ⟨Nat.le_refl 0, Nat.le_refl 0⟩, fun _ => Nat.le_refl 0⟩

/-- An acquirer that refuses the bound of every target. -/
def refusingAcquirer : Acquirer Unit := fun target _ _ refusals s =>
  haltedObservation canonicalEnv standingClock target refusals s

/-- Where no time passes, every deadline is met. -/
theorem standing_in_time {targets : List TlsTarget} (h : AcquiredAll env (fun _ => 0) targets refusals s r)
    (w : WitnessPlan) : WithinDeadlines w r.1.1 0 := by
  have hwall := h.wall
  refine ⟨fun o ho => ?_, Nat.zero_le _⟩
  have hle := single_le_sum (l := r.1.1.map (·.spend.wallMs)) (fun _ _ =>
    Nat.zero_le _) o.spend.wallMs (mem_map_of_mem ho)
  omega

/-- The plan for the loopback target, under the least grant. -/
theorem loopback_prepared : ∃ resolved request w preflight,
    Prepared canonicalEnv resolved loopbackPlan request w preflight ∧
    Passes canonicalEnv preflight.grantRequirements.grant preflight w := by
  obtain ⟨resolved, request, ha, hprofile⟩ := loopbackPlan_admitted
  obtain ⟨w, preflight, h⟩ := exists_prepared ha (by rw [hprofile]; rfl)
  obtain ⟨hm, hv⟩ := render_active h.rendered h.admitted h.planned
  exact ⟨resolved, request, w, preflight, h, requirements_pass hm hv⟩

/-- An acquisition that refuses its bound is sealed as one of per-target outcomes. -/
theorem refused_bound_seals :
    ∃ r s, Receipt.seal canonicalEnv r = .ok s ∧ s.disposition = .perTargetOutcomes ∧ s.Addressable := by
  obtain ⟨resolved, request, w, preflight, h, hpasses⟩ := loopback_prepared
  obtain ⟨digest, hdigest, _⟩ := gate_passes h hpasses
  have hrun : AcquiredAll canonicalEnv (fun _ => 0) w.targets resolved.profile.cannotTestify ()
      (acquireAll canonicalEnv standingClock refusingAcquirer w 0 w.targets false resolved.profile.cannotTestify ()) :=
    acquireAll_acquired standingClock_monotonic w 0 w.targets false _ ()
      fun x _ => haltedObservation_acquired standingClock_monotonic x.1 x.2.1 x.2.2
  generalize acquireAll canonicalEnv standingClock refusingAcquirer
    w 0 w.targets false resolved.profile.cannotTestify () = r at hrun
  have hwall : (r.1.1.map (·.spend.wallMs)).sum % 2 ^ 64 ≤ 0 := by
    have hwall := hrun.wall
    omega
  have hcompleted := run_completed (c := ⟨request, w, digest,
    preflight.grantRequirements.grant.totalAcquisitionEnvelope⟩)
    h hpasses hdigest rfl hrun hwall (standing_in_time hrun w)
  obtain ⟨s, hseal⟩ := completedReceipt_seals h (fun x hx => by
    rw [hrun.refusals]
    exact mem_append_left _ hx) hcompleted
  obtain ⟨_, _, _, d, _, e⟩ := seal_ok.mp hseal
  have hfew := h.targets.2.1
  have hobserved := hcompleted.oneEach
  refine ⟨_, s, hseal, by rw [e]; rfl, ?_⟩
  rw [e]
  unfold Receipt.Addressable
  dsimp only at hobserved ⊢
  omega

/-- A sealed receipt of an acquisition that refused its bound accounts for what it spent. -/
theorem a_refused_bound_is_accounted_for :
    ∃ r s plan acquisition, Receipt.seal canonicalEnv r = .ok s ∧ Accounts canonicalEnv s plan acquisition := by
  obtain ⟨r, s, hseal, hd, hmem⟩ := refused_bound_seals
  obtain ⟨⟨plan, acquisition, haccounts⟩, _⟩ := sealed_accounts canonicalEnv hseal hd hmem
  exact ⟨r, s, plan, acquisition, hseal, haccounts⟩

end

end Nq.Inquiry
