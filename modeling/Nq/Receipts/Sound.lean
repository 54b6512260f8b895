/-
  Nq.Receipts.Sound — what the claim registry verifies.

  `Verifies` is the least set of claims closed under two rules: a leaf with an observation
  to match, all of which meet its condition; a composite of claims that verify. Evaluation
  to a depth gives `verified` to claims of that set and to no others (`resolve_sound`), and
  where references are acyclic no evaluation runs out of depth (`resolve_total`).
-/

import Nq.Receipts.Registry

namespace Nq.Receipts

open List hiding lt_irrefl lt_trans
open Reliance (NotVerifiedEntry Receipt Status StatusReason)
open Relation (TransGen ReflTransGen)

/-! ## What verifies -/

/-- An observation that a leaf reads about a subject. -/
def Matches (leaf : LeafClaim) (subject : String) (packets : List WitnessPacket) (obs : Json) : Prop :=
  ∃ p ∈ packets, p.subject = subject ∧ p.witnessType = leaf.witnessType ∧ obs ∈ p.observations ∧
    (obs.get "type").bind Json.asStr = some leaf.observationType

inductive Verifies (registry : ClaimRegistry) (subject : String) (packets : List WitnessPacket) : String → Prop
  | leaf {name : String} {c : LeafClaim} (hget : registry.get name = some (.leaf c))
      (hsome : ∃ obs, Matches c subject packets obs)
      (hall : ∀ obs, Matches c subject packets obs →
        c.condition.holds obs = true) : Verifies registry subject packets name
  | composite {name : String} {c : CompositeClaim} (hget : registry.get name = some (.composite c))
      (hall : ∀ req ∈ c.requires, Verifies registry subject packets req) : Verifies registry subject packets name

/-- A registered claim refers to another. -/
def ClaimRegistry.Refers (registry : ClaimRegistry) (a b : String) : Prop :=
  ∃ entry target, registry.get a = some entry ∧ b ∈ entry.references ∧ registry.get b = some target

def ClaimRegistry.Acyclic (registry : ClaimRegistry) : Prop := ∀ a, ¬TransGen registry.Refers a a

/-- A composite requires a claim. -/
def ClaimRegistry.Requires (registry : ClaimRegistry) (a b : String) : Prop :=
  ∃ c, registry.get a = some (.composite c) ∧ b ∈ c.requires

variable {codec : Codec} {registry : ClaimRegistry} {subject generatedAt : String}
  {packets witnesses : List WitnessPacket}
  {entry : ClaimEntry} {claim name : String} {leaf : LeafClaim} {fuel : Nat}

theorem ClaimRegistry.get_eq_some (h : registry.get name = some entry) : entry ∈ registry.entries ∧ entry.name = name :=
  ⟨mem_of_find?_eq_some h, by simpa using find?_some h⟩

theorem ClaimRegistry.mem_names (h : registry.get name = some entry) : name ∈ registry.names :=
  List.mem_map.mpr ⟨entry, (get_eq_some h).1, (get_eq_some h).2⟩

/-- What verifies is registered. -/
theorem Verifies.registered (h : Verifies registry subject packets name) : ∃ entry, registry.get name = some entry := by
  cases h with
  | leaf hget => exact ⟨_, hget⟩
  | composite hget => exact ⟨_, hget⟩

/-- A rank that references lower rules cycles out. -/
theorem ClaimRegistry.acyclic_of_rank (rank : String → Nat)
    (h : ∀ entry ∈ registry.entries, ∀ b ∈ entry.references, rank b < rank entry.name) : registry.Acyclic := by
  have hstep : ∀ a b, registry.Refers a b → rank b < rank a := by
    intro a b hab
    obtain ⟨entry, target, hget, hb, _⟩ := hab
    obtain ⟨hmem, hname⟩ := get_eq_some hget
    exact hname ▸ h entry hmem b hb
  have hpath : ∀ a b, TransGen registry.Refers a b → rank b < rank a := by
    intro a b hab
    induction hab with
    | single hab => exact hstep _ _ hab
    | tail _ hbc ih => exact lt_trans (hstep _ _ hbc) ih
  exact fun a ha => lt_irrefl _ (hpath a a ha)

/-- A non-mintable claim does not verify, nor does what requires one. -/
theorem not_verifies_nonMintable {nm : String} {c : NonMintableClaim} (hreach : ReflTransGen registry.Requires claim nm)
    (hget : registry.get nm = some (.nonMintable c)) : ¬Verifies registry subject packets claim := by
  induction hreach using ReflTransGen.head_induction_on with
  | refl =>
    intro h
    cases h with
    | leaf h => rw [hget] at h; cases h
    | composite h => rw [hget] at h; cases h
  | head hstep _ ih =>
    intro h
    obtain ⟨comp, hcomp, hreq⟩ := hstep
    cases h with
    | leaf h => rw [hcomp] at h; cases h
    | composite h hall =>
      rw [hcomp] at h
      cases h
      exact ih (hall _ hreq)

/-! ## One entry -/

theorem mem_matching {obs : Json} :
    obs ∈ matching leaf (applicable subject packets) ↔ Matches leaf subject packets obs := by
  unfold matching applicable Matches
  simp only [mem_filter, mem_flatMap, decide_eq_true_eq]
  constructor
  · intro h
    obtain ⟨⟨p, ⟨⟨hp, hsub⟩, htype⟩, hobs⟩, hkind⟩ := h
    exact ⟨p, hp, hsub, htype, hobs, hkind⟩
  · intro h
    obtain ⟨p, hp, hsub, htype, hobs, hkind⟩ := h
    exact ⟨⟨p, ⟨⟨hp, hsub⟩, htype⟩, hobs⟩, hkind⟩

theorem resolveLeaf_verified :
    (resolveLeaf codec leaf subject witnesses generatedAt).status = .verified ↔
      (∃ obs, obs ∈ matching leaf witnesses) ∧ ∀ obs ∈ matching leaf witnesses, leaf.condition.holds obs = true := by
  unfold resolveLeaf
  dsimp only
  by_cases hnone : (matching leaf witnesses).isEmpty
  · rw [if_pos hnone]
    rw [List.isEmpty_iff] at hnone
    simp [hnone]
  · rw [if_neg hnone]
    have hsome : ∃ obs, obs ∈ matching leaf witnesses := exists_mem_of_ne_nil _ fun e => hnone (List.isEmpty_iff.mpr e)
    by_cases hall : (matching leaf witnesses).all leaf.condition.holds
    · rw [if_pos hall]
      simpa [hsome] using hall
    · rw [if_neg hall]
      simpa [hsome] using hall

/-- A leaf lists itself where it verifies. -/
theorem resolveLeaf_lists {c : String} (h : c ∈ (resolveLeaf codec leaf subject witnesses generatedAt).verified) :
    c = leaf.name ∧ (resolveLeaf codec leaf subject witnesses generatedAt).status = .verified := by
  unfold resolveLeaf at h ⊢
  dsimp only at h ⊢
  by_cases hnone : (matching leaf witnesses).isEmpty
  · rw [if_pos hnone] at h
    cases h
  · rw [if_neg hnone] at h ⊢
    by_cases hall : (matching leaf witnesses).all leaf.condition.holds
    · rw [if_pos hall] at h ⊢
      exact ⟨mem_singleton.mp h, rfl⟩
    · rw [if_neg hall] at h
      cases h

/-- A claim is registered and resolves to verified. -/
def ResolvesVerified (registry : ClaimRegistry) (resolveEntry : ClaimEntry → Option Receipt) (name : String) : Prop :=
  ∃ entry r, registry.get name = some entry ∧ resolveEntry entry = some r ∧ r.status = .verified

section

variable {resolveEntry : ClaimEntry → Option Receipt}
  {r sub : Receipt} {t : Tally} {comp : CompositeClaim}

theorem Tally.add_verified {req : String} (h : sub.status = .verified) :
    t.add req sub = { t with verified := t.verified ++ [req] } := by
  unfold Tally.add
  rw [h]

theorem Tally.add_not_verified (t : Tally) (req : String) (h : sub.status ≠ .verified) :
    (t.add req sub).verified = t.verified ∧ (t.add req sub).notVerified ≠ [] := by
  unfold Tally.add
  cases hs : sub.status <;> simp_all

theorem tally_spec : ∀ {reqs : List String} {t t' : Tally}, tally registry resolveEntry t reqs = some t' →
    (t'.notVerified = [] ↔ t.notVerified = [] ∧ ∀ req ∈ reqs, ResolvesVerified registry resolveEntry req) ∧
    ∀ c ∈ t'.verified, c ∈ t.verified ∨ c ∈ reqs ∧ ResolvesVerified registry resolveEntry c := by
  intro reqs
  induction reqs with
  | nil =>
    intro t t' h
    cases h
    simp
  | cons req rest ih =>
    intro t t' h
    unfold tally at h
    cases hget : registry.get req with
    | none =>
      rw [hget] at h
      obtain ⟨hempty, hlists⟩ := ih h
      have hnot : ¬ResolvesVerified registry resolveEntry req := by
        intro hr
        obtain ⟨entry, _, he, _⟩ := hr
        rw [hget] at he
        cases he
      refine ⟨?_, fun c hc => (hlists c hc).imp_right fun hc => ⟨mem_cons_of_mem _ hc.1, hc.2⟩⟩
      rw [hempty]
      simp [hnot]
    | some entry =>
      rw [hget] at h
      obtain ⟨sub, hsub, h⟩ := Option.bind_eq_some_iff.mp h
      obtain ⟨hempty, hlists⟩ := ih h
      by_cases hv : sub.status = .verified
      · have hr : ResolvesVerified registry resolveEntry req := ⟨entry, sub, hget, hsub, hv⟩
        rw [Tally.add_verified hv] at hempty hlists
        refine ⟨by rw [hempty]; simp [hr], fun c hc => ?_⟩
        rcases hlists c hc with hc | hc
        · rcases mem_append.mp hc with hc | hc
          · exact Or.inl hc
          · rw [mem_singleton.mp hc]
            exact Or.inr ⟨mem_cons_self, hr⟩
        · exact Or.inr ⟨mem_cons_of_mem _ hc.1, hc.2⟩
      · obtain ⟨hverified, hne⟩ := Tally.add_not_verified t req hv
        have hnot : ¬ResolvesVerified registry resolveEntry req := by
          intro hr
          obtain ⟨entry', r, he, hr, hs⟩ := hr
          rw [hget] at he
          cases he
          rw [hsub] at hr
          cases hr
          exact hv hs
        refine ⟨?_, fun c hc => ?_⟩
        · rw [hempty]
          simp [hne, hnot]
        · rw [hverified] at hlists
          exact (hlists c hc).imp_right fun hc => ⟨mem_cons_of_mem _ hc.1, hc.2⟩

/-- A loop that ends resolved each registered requirement. -/
theorem tally_resolves : ∀ {reqs : List String} {t t' : Tally}, tally registry resolveEntry t reqs = some t' →
    ∀ req ∈ reqs, ∀ entry, registry.get req = some entry → ∃ sub, resolveEntry entry = some sub := by
  intro reqs
  induction reqs with
  | nil =>
    intro t t' _ req hreq
    cases hreq
  | cons first rest ih =>
    intro t t' h req hreq entry hget
    unfold tally at h
    cases hfirst : registry.get first with
    | none =>
      rw [hfirst] at h
      rcases mem_cons.mp hreq with e | hreq
      · rw [e, hfirst] at hget
        cases hget
      · exact ih h req hreq entry hget
    | some entry' =>
      rw [hfirst] at h
      obtain ⟨sub, hsub, h⟩ := Option.bind_eq_some_iff.mp h
      rcases mem_cons.mp hreq with e | hreq
      · rw [e, hfirst] at hget
        cases hget
        exact ⟨sub, hsub⟩
      · exact ih h req hreq entry hget

theorem Tally.receipt_verified :
    (t.receipt codec comp subject generatedAt).status = .verified ↔ t.notVerified = [] := by
  unfold Tally.receipt
  dsimp only
  by_cases h : t.notVerified.isEmpty
  · rw [if_pos h]
    simpa using h
  · rw [if_neg h]
    split <;> simpa using h

theorem Tally.receipt_lists (t : Tally) (comp : CompositeClaim) :
    (t.receipt codec comp subject generatedAt).verified = t.verified := by
  unfold Tally.receipt
  dsimp only
  split
  · rfl
  · split <;> rfl

theorem resolveComposite_spec (h : resolveComposite codec registry resolveEntry comp subject generatedAt = some r) :
    (r.status = .verified ↔ ∀ req ∈ comp.requires, ResolvesVerified registry resolveEntry req) ∧
    (∀ c ∈ r.verified, ResolvesVerified registry resolveEntry c) ∧
    ∀ req ∈ comp.requires, ∀ entry, registry.get req = some entry → ∃ sub, resolveEntry entry = some sub := by
  obtain ⟨t, ht, e⟩ := Option.map_eq_some_iff.mp h
  obtain ⟨hempty, hlists⟩ := tally_spec ht
  subst e
  rw [Tally.receipt_verified, Tally.receipt_lists, hempty]
  refine ⟨by simp, fun c hc => ?_, tally_resolves ht⟩
  rcases hlists c hc with hc | hc
  · cases hc
  · exact hc.2

/-- A weaker claim that resolves to a receipt listing `c`. -/
def ResolvesListing (registry : ClaimRegistry) (resolveEntry : ClaimEntry → Option Receipt) (c : String) : Prop :=
  ∃ name entry r, registry.get name = some entry ∧ resolveEntry entry = some r ∧ c ∈ r.verified

theorem Weaker.add_lists {t : Weaker} {name c : String} (h : c ∈ (t.add name sub).verified) :
    c ∈ t.verified ∨ c ∈ sub.verified := by
  have hverified : (t.add name sub).verified = if sub.verified.isEmpty then t.verified else sub.verified := by
    unfold Weaker.add
    dsimp only
    split
    · rfl
    · split <;> rfl
  rw [hverified] at h
  split at h
  · exact Or.inl h
  · exact Or.inr h

theorem weaker_spec : ∀ {names : List String} {t t' : Weaker}, weaker registry resolveEntry t names = some t' →
    ∀ c ∈ t'.verified, c ∈ t.verified ∨ ResolvesListing registry resolveEntry c := by
  intro names
  induction names with
  | nil =>
    intro t t' h c hc
    cases h
    exact Or.inl hc
  | cons name rest ih =>
    intro t t' h c hc
    unfold weaker at h
    cases hget : registry.get name with
    | none =>
      rw [hget] at h
      exact ih h c hc
    | some entry =>
      rw [hget] at h
      obtain ⟨sub, hsub, h⟩ := Option.bind_eq_some_iff.mp h
      rcases ih h c hc with hc | hc
      · exact (Weaker.add_lists hc).imp_right fun hc => ⟨name, entry, sub, hget, hsub, hc⟩
      · exact Or.inr hc

theorem resolveNonMintable_spec {nm : NonMintableClaim}
    (h : resolveNonMintable codec registry resolveEntry nm subject generatedAt = some r) :
    r.status = .notVerified ∧ ∀ c ∈ r.verified, ResolvesListing registry resolveEntry c := by
  obtain ⟨t, ht, e⟩ := Option.map_eq_some_iff.mp h
  subst e
  refine ⟨rfl, fun c hc => ?_⟩
  rcases weaker_spec ht c hc with hc | hc
  · cases hc
  · exact hc

end

/-! ## Evaluation to a depth -/

/-- A claim is resolved to verified exactly when it verifies, and lists claims that verify. -/
theorem resolve_sound : ∀ (fuel : Nat) {name : String} {entry : ClaimEntry} {r : Receipt}, registry.get name =
    some entry → resolve codec registry subject (applicable subject packets) generatedAt fuel entry = some r →
    (r.status = .verified ↔ Verifies registry subject packets name) ∧
      ∀ c ∈ r.verified, Verifies registry subject packets c := by
  intro fuel
  induction fuel with
  | zero =>
    intro name entry r _ h
    cases h
  | succ fuel ih =>
    intro name entry r hget h
    have hverified : ∀ c,
      ResolvesVerified registry (resolve codec registry subject (applicable subject packets) generatedAt fuel) c →
        Verifies registry subject packets c := by
      intro c hc
      obtain ⟨entry', r', hget', hr', hs⟩ := hc
      exact (ih hget' hr').1.mp hs
    unfold resolve at h
    cases entry with
    | leaf leaf =>
      cases h
      rw [resolveLeaf_verified]
      simp only [mem_matching]
      have hiff : ((∃ obs, Matches leaf subject packets obs) ∧ ∀ obs, Matches leaf subject packets obs →
        leaf.condition.holds obs = true) ↔
          Verifies registry subject packets name := by
        constructor
        · intro h
          exact .leaf hget h.1 h.2
        · intro h
          cases h with
          | leaf hget' hsome hall =>
            rw [hget] at hget'
            cases hget'
            exact ⟨hsome, hall⟩
          | composite hget' =>
            rw [hget] at hget'
            cases hget'
      refine ⟨hiff, fun c hc => ?_⟩
      obtain ⟨e, hs⟩ := resolveLeaf_lists hc
      rw [e, show leaf.name = name from (ClaimRegistry.get_eq_some hget).2]
      rw [resolveLeaf_verified] at hs
      simp only [mem_matching] at hs
      exact hiff.mp hs
    | composite comp =>
      obtain ⟨hstatus, hlists, hresolves⟩ := resolveComposite_spec h
      refine ⟨?_, fun c hc => hverified c (hlists c hc)⟩
      rw [hstatus]
      constructor
      · intro hall
        exact .composite hget fun req hreq => hverified req (hall req hreq)
      · intro hv req hreq
        cases hv with
        | leaf hget' =>
          rw [hget] at hget'
          cases hget'
        | composite hget' hall =>
          rw [hget] at hget'
          cases hget'
          have hreqs := hall req hreq
          obtain ⟨entry', hentry⟩ := hreqs.registered
          obtain ⟨sub, hsub⟩ := hresolves req hreq entry' hentry
          exact ⟨entry', sub, hentry, hsub, (ih hentry hsub).1.mpr hreqs⟩
    | nonMintable nm =>
      obtain ⟨hstatus, hlists⟩ := resolveNonMintable_spec h
      refine ⟨?_, fun c hc => ?_⟩
      · rw [hstatus]
        exact ⟨fun h => (nomatch h), fun hv => absurd hv (not_verifies_nonMintable .refl hget)⟩
      · obtain ⟨name', entry', r', hget', hr', hc⟩ := hlists c hc
        exact (ih hget' hr').2 c hc

/-- A loop over requirements that each resolve ends. -/
theorem exists_tally {resolveEntry : ClaimEntry → Option Receipt} : ∀ {reqs : List String} (t : Tally),
    (∀ req ∈ reqs, ∀ entry, registry.get req = some entry → ∃ sub, resolveEntry entry = some sub) →
    ∃ t', tally registry resolveEntry t reqs = some t' := by
  intro reqs
  induction reqs with
  | nil =>
    intro t _
    exact ⟨t, rfl⟩
  | cons req rest ih =>
    intro t h
    have hrest := fun r hr => h r (mem_cons_of_mem _ hr)
    unfold tally
    cases hget : registry.get req with
    | none => exact ih _ hrest
    | some entry =>
      obtain ⟨sub, hsub⟩ := h req mem_cons_self entry hget
      obtain ⟨t', ht'⟩ := ih (t.add req sub) hrest
      exact ⟨t', by dsimp only; rw [hsub]; exact ht'⟩

theorem exists_weaker {resolveEntry : ClaimEntry → Option Receipt} : ∀ {names : List String} (t : Weaker),
    (∀ name ∈ names, ∀ entry, registry.get name = some entry → ∃ sub, resolveEntry entry = some sub) →
    ∃ t', weaker registry resolveEntry t names = some t' := by
  intro names
  induction names with
  | nil =>
    intro t _
    exact ⟨t, rfl⟩
  | cons name rest ih =>
    intro t h
    have hrest := fun r hr => h r (mem_cons_of_mem _ hr)
    unfold weaker
    cases hget : registry.get name with
    | none => exact ih t hrest
    | some entry =>
      obtain ⟨sub, hsub⟩ := h name mem_cons_self entry hget
      obtain ⟨t', ht'⟩ := ih (t.add name sub) hrest
      exact ⟨t', by dsimp only; rw [hsub]; exact ht'⟩

variable (codec subject witnesses generatedAt) in
/-- The claims on the way to an entry are distinct, so a depth of their number and of what
    remains is enough. -/
theorem resolve_total (hacyclic : registry.Acyclic) :
    ∀ (fuel : Nat) {name : String} {entry : ClaimEntry} (visited : List String),
    registry.get name = some entry → visited.Nodup →
      (∀ v ∈ visited, v ∈ registry.names ∧ TransGen registry.Refers v name) →
    registry.entries.length ≤ fuel + visited.length →
    ∃ r, resolve codec registry subject witnesses generatedAt fuel entry = some r := by
  intro fuel
  induction fuel with
  | zero =>
    intro name entry visited hget hnodup hvisited hfuel
    have hnew : name ∉ visited := fun h => hacyclic name (hvisited name h).2
    have hsub : name :: visited ⊆ registry.names := by
      intro v hv
      rcases mem_cons.mp hv with e | hv
      · exact e ▸ ClaimRegistry.mem_names hget
      · exact (hvisited v hv).1
    have hlen := (subperm_of_subset (nodup_cons.mpr ⟨hnew, hnodup⟩) hsub).length_le
    unfold ClaimRegistry.names at hlen
    rw [length_map, length_cons] at hlen
    omega
  | succ fuel ih =>
    intro name entry visited hget hnodup hvisited hfuel
    have hnew : name ∉ visited := fun h => hacyclic name (hvisited name h).2
    have hsub : ∀ b ∈ entry.references, ∀ target, registry.get b = some target →
        ∃ sub, resolve codec registry subject witnesses generatedAt fuel target = some sub := by
      intro b hb target htarget
      have hrefers : registry.Refers name b := ⟨entry, target, hget, hb, htarget⟩
      refine ih (name :: visited) htarget (nodup_cons.mpr ⟨hnew, hnodup⟩) (fun v hv => ?_) (by rw [length_cons]; omega)
      rcases mem_cons.mp hv with e | hv
      · exact ⟨e ▸ ClaimRegistry.mem_names hget, e ▸ .single hrefers⟩
      · exact ⟨(hvisited v hv).1, (hvisited v hv).2.tail hrefers⟩
    unfold resolve
    cases entry with
    | leaf leaf => exact ⟨_, rfl⟩
    | composite comp =>
      have hloop : ∃ t, tally registry (resolve codec registry subject witnesses generatedAt fuel)
          {} comp.requires = some t :=
        exists_tally {} hsub
      obtain ⟨t, ht⟩ := hloop
      exact ⟨_, by dsimp only [resolveComposite]; rw [ht]; rfl⟩
    | nonMintable nm =>
      have hloop : ∀ t, ∃ t', weaker registry (resolve codec registry subject witnesses generatedAt fuel)
          t nm.suggestedWeakerClaims = some t' :=
        fun t => exists_weaker t hsub
      obtain ⟨t, ht⟩ := hloop { supportedStatus := "Claim " ++ debug codec nm.name ++ " is non-mintable: " ++
        nm.reason ++ "." }
      exact ⟨_, by dsimp only [resolveNonMintable]; rw [ht]; rfl⟩

/-! ## The evaluator -/

theorem firstInvalid_none : ∀ {ws : List WitnessPacket} {index : Nat},
    firstInvalid codec index ws = none ↔ ∀ w ∈ ws, w.validate codec = .ok () := by
  intro ws
  induction ws with
  | nil => simp [firstInvalid]
  | cons w rest ih =>
    intro index
    unfold firstInvalid
    cases hw : w.validate codec with
    | error e => simp [hw]
    | ok u => simp [hw, ih]

theorem sealed_fields (r : Receipt) : (sealed codec r).status = r.status ∧ (sealed codec r).verified = r.verified := by
  unfold sealed Receipt.seal
  dsimp only
  cases h : Receipt.computeContentHash codec.hashing { r with evaluator := some ⟨"claim_registry",
    evaluatorVersion⟩ } with
  | error e => simp [bind, Except.bind]
  | ok hash => simp [bind, Except.bind, pure, Except.pure]

theorem evaluate_valid (hvalid : ∀ p ∈ packets, p.validate codec = .ok ()) :
    evaluate codec registry claim subject packets generatedAt fuel =
      (resolveClaim codec registry claim subject (applicable subject packets) generatedAt fuel).map
        (witnessed codec (applicable subject packets)) := by
  unfold evaluate
  rw [firstInvalid_none.mpr hvalid]

/-- On valid packets an acyclic registry evaluates every claim, to verified exactly where it verifies. -/
theorem evaluate_verifies (codec : Codec) {registry : ClaimRegistry} (hacyclic : registry.Acyclic) (subject : String)
    {packets : List WitnessPacket} (hvalid : ∀ p ∈ packets, p.validate codec = .ok ()) (generatedAt : String)
    (hfuel : registry.entries.length ≤ fuel) (claim : String) :
    ∃ r, evaluate codec registry claim subject packets generatedAt fuel = some r ∧
      (r.status = .verified ↔ Verifies registry subject packets claim) ∧
        ∀ c ∈ r.verified, Verifies registry subject packets c := by
  rw [evaluate_valid hvalid]
  unfold resolveClaim
  cases hget : registry.get claim with
  | none =>
    refine ⟨_, rfl, ?_, ?_⟩
    · unfold witnessed
      rw [(sealed_fields _).1]
      refine ⟨fun h => (nomatch h), fun h => ?_⟩
      obtain ⟨entry, he⟩ := h.registered
      rw [hget] at he
      cases he
    · unfold witnessed
      rw [(sealed_fields _).2]
      exact fun _ h => nomatch h
  | some entry =>
    obtain ⟨r, hr⟩ := resolve_total codec subject generatedAt
      (applicable subject packets) hacyclic fuel [] hget nodup_nil
      (fun _ h => (nomatch h)) hfuel
    obtain ⟨hstatus, hlists⟩ := resolve_sound fuel hget hr
    refine ⟨_, by dsimp only; rw [hr]; rfl, ?_, ?_⟩
    · unfold witnessed
      rw [(sealed_fields _).1]
      exact hstatus
    · unfold witnessed
      rw [(sealed_fields _).2]
      exact hlists

/-- On valid packets an acyclic registry evaluates every claim: to verified exactly where it
    verifies, and listing what is verified. -/
theorem evaluation_sound (codec : Codec) (registry : ClaimRegistry) (hacyclic : registry.Acyclic) (subject : String)
    (packets : List WitnessPacket) (hvalid : ∀ p ∈ packets, p.validate codec = .ok ())
    (generatedAt : String) (fuel : Nat)
    (hfuel : registry.entries.length ≤ fuel) (claim : String) :
    ∃ r, evaluate codec registry claim subject packets generatedAt fuel = some r ∧
      (r.status = .verified ↔ Verifies registry subject packets claim) ∧
      (∀ nm c, ReflTransGen registry.Requires claim nm → registry.get nm = some (.nonMintable c) →
        r.status ≠ .verified) ∧
      ∀ c ∈ r.verified, ∃ r', evaluate codec registry c subject packets generatedAt fuel = some r' ∧
        r'.status = .verified := by
  obtain ⟨r, hr, hstatus, hlists⟩ := evaluate_verifies codec hacyclic subject hvalid generatedAt hfuel claim
  refine ⟨r, hr, hstatus, fun nm c hreach hget hv =>
    not_verifies_nonMintable hreach hget (hstatus.mp hv), fun c hc => ?_⟩
  obtain ⟨r', hr', hstatus', _⟩ := evaluate_verifies codec hacyclic subject hvalid generatedAt hfuel c
  exact ⟨r', hr', hstatus'.mpr (hlists c hc)⟩

/-! ## The starter catalog -/

/-- How far a claim of the starter catalog is from its leaves. -/
def starterRank (name : String) : Nat :=
  if name = "safe_to_merge" then 2 else if name = "ready_for_review" then 1 else 0

theorem starter_acyclic : ClaimRegistry.trackBStarter.Acyclic := ClaimRegistry.acyclic_of_rank starterRank (by decide)

/-- A run of pytest that exited with a code. -/
def pytestPacket (code : Int) : WitnessPacket where
  schema := witnessSchema
  witnessType := "pytest"
  subject := "repo:."
  accessPath := "local_command"
  observedAt := "2026-05-15T14:00:00Z"
  generatedAt := "2026-05-15T14:00:00Z"
  observations := [.object [("exit_code", .number (.int code)), ("type", .string "pytest_run")]]
  coverageLimits := ["limited"]
  dependencies := []
  custodyBasis := none
  sourceFindingRef := none
  projectionLimits := []
  position := none

theorem pytestPacket_valid : (pytestPacket 0).validate sampleCodec = .ok () := by decide +kernel

/-- A run that exited with 0, given any number of times, verifies that tests passed. -/
theorem pytest_verifies {packets : List WitnessPacket} (h : ∀ p, p ∈ packets ↔ p = pytestPacket 0) :
    Verifies .trackBStarter "repo:." packets "tests_passed" := by
  refine .leaf rfl ⟨_, pytestPacket 0, (h _).mpr rfl, rfl, rfl, mem_singleton_self _, by decide⟩ ?_
  intro obs hobs
  obtain ⟨p, hp, _, _, hobs, _⟩ := hobs
  cases (h p).mp hp
  cases mem_singleton.mp hobs
  decide

/-- A clean run of pytest verifies that tests passed, and not that a merge is safe. -/
theorem a_clean_run_of_pytest :
    ∃ r r', evaluate sampleCodec .trackBStarter "tests_passed" "repo:." [pytestPacket 0] "" 7 = some r ∧
    r.status = .verified ∧ evaluate sampleCodec .trackBStarter "safe_to_merge" "repo:." [pytestPacket 0] "" 7 =
      some r' ∧ r'.status ≠ .verified := by
  have hvalid : ∀ p ∈ [pytestPacket 0], p.validate sampleCodec = .ok () :=
    fun p hp => mem_singleton.mp hp ▸ pytestPacket_valid
  have hsound := evaluation_sound sampleCodec .trackBStarter
    starter_acyclic "repo:." [pytestPacket 0] hvalid "" 7 (by decide)
  obtain ⟨r, hr, hstatus, _⟩ := hsound "tests_passed"
  obtain ⟨r', hr', _, hnever, _⟩ := hsound "safe_to_merge"
  exact ⟨r, r', hr, hstatus.mpr (pytest_verifies fun p => mem_singleton), hr', hnever "safe_to_merge" _ .refl rfl⟩

end Nq.Receipts
