/-
  Nq.Inquiry.Content — resolution and admission depend on what is said, not on how
  (`nq-core/src/inquiry.rs`).

  A catalog whose profiles, or whose vectors, come in another order resolves every selector
  as before (`ProfileCatalog.Rearranged.resolve_eq`), and every name of a profile resolves
  alike (`ProfileCatalog.Valid.resolve_alias`). A plan respelled with another name of its
  profile, with its targets in another order, or with all declared targets in place of none,
  is admitted as the same request (`Respelled.admitPlan_eq`), which has one witness plan.
-/

import Nq.Inquiry.Request

namespace Nq.Inquiry

open Collections
open List

section

variable {env : Env}

/-! ## Catalogs -/

/-- The same profiles in another order, each with its vectors in another order. -/
structure ProfileCatalog.Rearranged (c c' : ProfileCatalog) : Prop where
  schema : c'.schema = c.schema
  version : c'.version = c.version
  profiles : ∃ ps, List.Forall₂ Profile.Rearranged c.profiles ps ∧ ps.Perm c'.profiles

variable {c c' : ProfileCatalog} {p profile : Profile}

/-- The profile of the one that a profile of the other comes from. -/
theorem ProfileCatalog.Rearranged.source (h : c.Rearranged c') :
    (∀ p ∈ c.profiles, ∃ p' ∈ c'.profiles, p.Rearranged p') ∧
      ∀ p' ∈ c'.profiles, ∃ p ∈ c.profiles, p.Rearranged p' := by
  obtain ⟨ps, hall, hperm⟩ := h.profiles
  obtain ⟨hleft, hright⟩ := exists_of_forall₂ hall
  constructor
  · intro p hp
    obtain ⟨p', hp', hr⟩ := hleft p hp
    exact ⟨p', hperm.mem_iff.mp hp', hr⟩
  · intro p' hp'
    exact hright p' (hperm.mem_iff.mpr hp')

theorem Profile.Rearranged.binding_eq {p' : Profile} (h : p.Rearranged p') :
    (p'.profileId, p'.version) = (p.profileId, p.version) ∧ p'.label = p.label := by
  have hsame := h.same
  constructor
  · rw [hsame]
  · rw [hsame]
    rfl

theorem ProfileCatalog.Rearranged.valid (h : c.Rearranged c') (hv : c.Valid) : c'.Valid := by
  have hsource := h.source
  obtain ⟨ps, hall, hperm⟩ := h.profiles
  refine ⟨h.schema ▸ hv.schema, ?_, ?_, ?_, ?_⟩
  · intro hnil
    rw [hnil] at hperm
    rw [hperm.eq_nil] at hall
    exact hv.nonempty (forall₂_nil_right_iff.mp hall)
  · intro p' hp'
    obtain ⟨p, hp, hr⟩ := hsource.2 p' hp'
    exact hr.valid (hv.each p hp)
  · have hkeys : ps.map (fun p => (p.profileId, p.version)) = c.profiles.map fun p => (p.profileId, p.version) := by
      clear hperm hsource
      generalize c.profiles = qs at hall
      induction hall with
      | nil => rfl
      | cons hr _ ih => rw [map_cons, map_cons, ih, hr.binding_eq.1]
    refine (hperm.map _).nodup_iff.mp ?_
    rw [hkeys]
    exact hv.bindings
  · intro p' hp' q' hq' name hpn hqn
    obtain ⟨p, hp, hr⟩ := hsource.2 p' hp'
    obtain ⟨q, hq, hs⟩ := hsource.2 q' hq'
    rw [hr.named] at hpn
    rw [hs.named] at hqn
    rw [hr.binding_eq.2, hs.binding_eq.2]
    exact hv.unambiguous p hp q hq name hpn hqn

theorem ProfileCatalog.Rearranged.resolve_eq (h : c.Rearranged c') (hv : c.Valid) (name : String) :
    c'.resolve env name = c.resolve env name := by
  by_cases hn : ∃ p ∈ c.profiles, p.named name = true
  · obtain ⟨p, hp, hn⟩ := hn
    obtain ⟨p', hp', hr⟩ := h.source.1 p hp
    rw [resolve_named hv hp hn, resolve_named (h.valid hv) hp' (hr.named name ▸ hn), hr.resolved_eq (hv.each p hp)]
  · have hnone : ∀ p ∈ c.profiles, p.named name = false := by
      intro p hp
      cases hpn : p.named name with
      | true => exact absurd ⟨p, hp, hpn⟩ hn
      | false => rfl
    rw [resolve_unnamed hv hnone, resolve_unnamed (h.valid hv)]
    intro p' hp'
    obtain ⟨p, hp, hr⟩ := h.source.2 p' hp'
    rw [hr.named, hnone p hp]

/-- Every name of a profile resolves as its canonical one. -/
theorem ProfileCatalog.Valid.resolve_alias (h : c.Valid) (hp : p ∈ c.profiles) {name : String}
    (hn : p.named name = true) : c.resolve env name = c.resolve env p.profileId := by
  rw [resolve_named h hp hn, resolve_named h hp (Profile.named_iff.mpr mem_cons_self)]

/-! ## Plans -/

/-- Another spelling of a plan for the profile. -/
structure Respelled (profile : Profile) (plan plan' : CandidatePlan) : Prop where
  same : plan' = { plan with profile := plan'.profile, targets := plan'.targets }
  named : profile.named plan.profile = true ∧ profile.named plan'.profile = true
  targets : plan.targets.Perm plan'.targets ∨ (plan.targets = [] ∧ plan'.targets.Perm profile.declaredTargets) ∨
    (plan'.targets = [] ∧ plan.targets.Perm profile.declaredTargets)

variable {plan plan' : CandidatePlan} {resolved : ResolvedProfile} {request : AdmittedRequest}

theorem Respelled.symm (h : Respelled profile plan plan') : Respelled profile plan' plan := by
  refine ⟨?_, h.named.symm, ?_⟩
  · rw [h.same]
  · rcases h.targets with hp | hp | hp
    · exact Or.inl hp.symm
    · exact Or.inr (Or.inr hp)
    · exact Or.inr (Or.inl hp)

theorem Respelled.valid (h : Respelled profile plan plan') (hprofile : profile.Valid) (hplan : plan.Valid env) :
    plan'.Valid env := by
  have hdeclared := hprofile.declaredTargets
  have htargets : ValidTargets plan'.targets := by
    rcases h.targets with hp | hp | hp
    · exact hplan.targets.perm hp
    · exact hdeclared.perm hp.2.symm
    · rw [hp.1]
      exact ⟨fun _ h => (nomatch h), nodup_nil⟩
  have hname := hprofile.nonblank h.named.2
  rw [h.same]
  exact ⟨hplan.schema, hname, hplan.asOf, htargets⟩

theorem requested_congr {tlsCert : TlsCertProfile} (h : ∀ a, a ∈ plan.requested tlsCert ↔ a ∈ plan'.requested tlsCert) :
    plan.requested tlsCert = plan'.requested tlsCert :=
  List.Pairwise.eq_of_mem_iff (sortDedup_pairwise _) (sortDedup_pairwise _) h

theorem requested_respelled {t : TlsCertProfile} (ht : t.Valid)
    (h : plan.targets.Perm plan'.targets ∨ (plan.targets = [] ∧ plan'.targets.Perm t.declaredTargets) ∨
      (plan'.targets = [] ∧ plan.targets.Perm t.declaredTargets)) (a : TlsTarget) :
    a ∈ plan.requested t ↔ a ∈ plan'.requested t := by
  have hnonempty : ∀ {ts : List TlsTarget}, ts.Perm t.declaredTargets → ts ≠ [] := by
    intro ts hp hnil
    exact ht.nonempty (hnil ▸ hp).nil_eq.symm
  rw [mem_requested, mem_requested]
  rcases h with hp | hp | hp
  · by_cases hnil : plan.targets = []
    · rw [if_pos hnil, if_pos (hnil ▸ hp).nil_eq.symm]
    · have hnil' : plan'.targets ≠ [] := fun e => hnil (e ▸ hp).eq_nil
      rw [if_neg hnil, if_neg hnil', hp.mem_iff]
  · rw [if_pos hp.1, if_neg (hnonempty hp.2), hp.2.mem_iff]
  · rw [if_pos hp.1, if_neg (hnonempty hp.2), hp.2.mem_iff]

theorem Respelled.admitTargets (h : Respelled resolved.profile plan plan')
    (hadmitted : Admitted env plan resolved request) :
    admitTargets env plan' resolved.profile = .ok (request.selector, request.admittedTargets) := by
  have hplan' := h.valid hadmitted.against hadmitted.asked
  have hask := hadmitted.targets
  have hkind := hadmitted.against.kind
  unfold Profile.KindValid at hkind
  cases hk : resolved.profile.questionKind with
  | findingOperationalActivity =>
    rw [hk] at hkind
    obtain ⟨hnil, e⟩ := (admitTargets_report hk).mp hask
    refine (admitTargets_report hk).mpr ⟨?_, e⟩
    rcases h.targets with hp | hp | hp
    · exact (hnil ▸ hp).nil_eq.symm
    · have hdeclared : resolved.profile.declaredTargets = [] := by
        unfold Profile.declaredTargets
        rw [hkind.passive]
        rfl
      exact (hdeclared ▸ hp.2).eq_nil
    · exact hp.1
  | tlsCertificatePresentationAndExpiryHorizon =>
    rw [hk] at hkind
    obtain ⟨t, htls, ht⟩ := hkind.tlsCert
    have hall : resolved.profile.declaredTargets = t.declaredTargets := by
      unfold Profile.declaredTargets
      rw [htls]
      rfl
    obtain ⟨e, hdeclared⟩ := (admitTargets_tls hadmitted.asked hk htls ht).mp hask
    have htargets := hall ▸ h.targets
    refine (admitTargets_tls hplan' hk htls ht).mpr ⟨?_, ?_⟩
    · rw [e, requested_congr (requested_respelled ht htargets)]
    · intro a ha
      rcases htargets with hp | hp | hp
      · exact hdeclared a (hp.mem_iff.mpr ha)
      · exact hp.2.mem_iff.mp ha
      · rw [hp.1] at ha
        cases ha

/-- A respelled plan is admitted as the same request. -/
theorem Respelled.admitted (h : Respelled resolved.profile plan plan')
    (hadmitted : Admitted env plan resolved request) :
    Admitted env plan' resolved request := by
  refine ⟨h.valid hadmitted.against hadmitted.asked, hadmitted.against, h.named.2, hadmitted.bound,
    h.admitTargets hadmitted, ?_, hadmitted.sealed⟩
  rw [h.same]
  exact hadmitted.material

theorem toOption_eq {α : Type} {x y : Except String α} (h : ∀ a, x = .ok a ↔ y = .ok a) : x.toOption = y.toOption := by
  cases x with
  | ok a => rw [(h a).mp rfl]
  | error e =>
    cases y with
    | ok b => cases (h b).mpr rfl
    | error e' => rfl

theorem Respelled.admitPlan_eq (h : Respelled resolved.profile plan plan') :
    (admitPlan env plan' resolved).toOption = (admitPlan env plan resolved).toOption := by
  refine toOption_eq fun request => ?_
  rw [admitPlan_ok, admitPlan_ok]
  exact ⟨h.symm.admitted, h.admitted⟩

theorem Respelled.resolve_eq (h : Respelled resolved.profile plan plan') :
    (admitPlan env plan' resolved >>= fun request => WitnessPlan.resolve env request resolved).toOption =
      (admitPlan env plan resolved >>= fun request => WitnessPlan.resolve env request resolved).toOption := by
  refine toOption_eq fun w => ?_
  simp only [Sql.bind_ok, admitPlan_ok]
  constructor
  · intro hw
    obtain ⟨request, hr, hw⟩ := hw
    exact ⟨request, h.symm.admitted hr, hw⟩
  · intro hw
    obtain ⟨request, hr, hw⟩ := hw
    exact ⟨request, h.admitted hr, hw⟩

/-- Resolution and admission depend on content alone. -/
theorem resolution_by_content (env : Env) :
    (∀ c : ProfileCatalog, c.validate env = .ok () → ∀ selector,
      (∀ p ∈ c.profiles, ∀ q ∈ c.profiles, p.named selector = true → q.named selector = true → p = q) ∧
      (∀ r, c.resolve env selector = .ok r → ∃ p ∈ c.profiles, p.named selector = true ∧ p.resolved env = .ok r) ∧
      (∀ c', c.Rearranged c' → c'.resolve env selector = c.resolve env selector) ∧
      ∀ p ∈ c.profiles, p.named selector = true → c.resolve env selector = c.resolve env p.profileId) ∧
    ∀ (resolved : ResolvedProfile) (plan plan' : CandidatePlan), Respelled resolved.profile plan plan' →
      (admitPlan env plan' resolved).toOption = (admitPlan env plan resolved).toOption ∧
      (admitPlan env plan' resolved >>= fun request => WitnessPlan.resolve env request resolved).toOption =
        (admitPlan env plan resolved >>= fun request => WitnessPlan.resolve env request resolved).toOption := by
  constructor
  · intro c hc selector
    have hv : c.Valid := ProfileCatalog.validate_ok.mp hc
    exact ⟨fun p hp q hq hpn hqn => hv.named_unique hp hq hpn hqn, fun r hr => (ProfileCatalog.resolve_ok.mp hr).2,
      fun c' hr => hr.resolve_eq hv selector, fun p hp hn => hv.resolve_alias hp hn⟩
  · intro resolved plan plan' h
    exact ⟨h.admitPlan_eq, h.resolve_eq⟩

/-- The plan with the profile's own name and its targets listed. -/
def listedPlan : CandidatePlan := { loopbackPlan with profile := "bounded_tls_cert", targets := [loopback] }

/-- An alias resolves like the identifier, and a plan that lists the targets is admitted like one that does not. -/
theorem an_alias_resolves_like_the_identifier :
    tlsCatalog.resolve canonicalEnv "tls-cert" = tlsCatalog.resolve canonicalEnv "bounded_tls_cert" ∧
    ∃ resolved, tlsCatalog.resolve canonicalEnv "tls-cert" = .ok resolved ∧
      (admitPlan canonicalEnv listedPlan resolved).toOption =
        (admitPlan canonicalEnv loopbackPlan resolved).toOption := by
  have hc : tlsCatalog.validate canonicalEnv = .ok () := ProfileCatalog.validate_ok.mpr tlsCatalog_valid
  have hcontent := (resolution_by_content canonicalEnv).1 tlsCatalog hc "tls-cert"
  have hrearranged : tlsCatalog.Rearranged tlsCatalog := ⟨rfl, rfl, _, .cons (.refl _) .nil, .refl _⟩
  obtain ⟨resolved, hresolved⟩ := Profile.exists_resolved canonicalEnv boundedTlsCert_valid
  have hr : tlsCatalog.resolve canonicalEnv "tls-cert" = .ok resolved :=
    (ProfileCatalog.resolve_named tlsCatalog_valid mem_cons_self (by decide)).trans hresolved
  obtain ⟨p, hp, hn, hpr⟩ := hcontent.2.1 resolved hr
  have hsame : p = boundedTlsCert := hcontent.1 p hp boundedTlsCert mem_cons_self hn (by decide)
  obtain ⟨_, d, _, e⟩ := Profile.resolved_ok.mp (hsame ▸ hpr)
  refine ⟨(hcontent.2.2.1 tlsCatalog hrearranged).symm.trans (hcontent.2.2.2 boundedTlsCert mem_cons_self (by decide)),
    resolved, hr, ?_⟩
  subst e
  exact ((resolution_by_content canonicalEnv).2 _ loopbackPlan listedPlan
    ⟨rfl, ⟨(by decide : boundedTlsCert.sorted.named "tls-cert" = true),
      (by decide : boundedTlsCert.sorted.named "bounded_tls_cert" = true)⟩, Or.inr (Or.inl ⟨rfl, .refl _⟩)⟩).1

end

end Nq.Inquiry
