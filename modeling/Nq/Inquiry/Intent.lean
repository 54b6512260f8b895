/-
  Nq.Inquiry.Intent — the intent compiler (`nq-core/src/intent.rs`).

  An intent that cites targets of a catalog profile is lowered into a plan for it. Who
  composed the intent, from what text, and how the citations were ordered or repeated does
  not reach the disposition (`Intent.Alike.disposition_eq`), and neither does the order of the
  catalog. A plan holds targets of the catalog alone, and is admitted as soon as its clock
  parses (`Lowered.admitted`).
-/

import Nq.Inquiry.Content

namespace Nq.Inquiry

open Collections
open List

/-! ## The compiler -/

inductive IntentRefusalFamily where
  | semantic | operational
  deriving DecidableEq, Repr

inductive IntentRefusalKind where
  | selectorUnresolved | questionUnanswerable | targetUndeclared
  deriving DecidableEq, Repr

def IntentRefusalKind.family : IntentRefusalKind → IntentRefusalFamily
  | .selectorUnresolved => .semantic
  | .questionUnanswerable | .targetUndeclared => .operational

structure IntentRefusal where
  kind : IntentRefusalKind
  family : IntentRefusalFamily
  statement : String
  deriving DecidableEq, Repr

def IntentRefusal.new (kind : IntentRefusalKind) (statement : String) : IntentRefusal := ⟨kind, kind.family, statement⟩

inductive IntentDisposition where
  | resolved (plan : CandidatePlan) (profile : ProfileBinding)
  | clarification (options : List ProfileBinding) (statement : String)
  | refused (refusal : IntentRefusal)
  deriving DecidableEq, Repr

structure IntentResolution where
  schema : String
  version : Version
  intentDigest : String
  composedBy : Composer
  sourceText : Option String
  disposition : IntentDisposition
  deriving DecidableEq, Repr

/-- The variant's name, as `{:?}` shows it. -/
def Question.debug : Question → String
  | .findingOperationalActivity => "FindingOperationalActivity"
  | .tlsCertificatePresentationAndExpiryHorizon => "TlsCertificatePresentationAndExpiryHorizon"

section

variable (env : Env)

def Intent.validate (i : Intent) : Except String Unit :=
  rejectIf (i.schema ≠ intentSchema)
    ("unsupported inquiry intent schema " ++ debug env i.schema ++ "; expected " ++ debug env intentSchema)

def Intent.intentDigest (i : Intent) : Except String String := do
  i.validate env
  digestJcs env (.intent i)

def IntentResolution.validateDisposition (r : IntentResolution) : Except String Unit :=
  match r.disposition with
  | .resolved plan profile =>
    rejectIf (plan.schema ≠ planSchema || plan.version ≠ r.version || profile.version ≠ r.version ||
        plan.profile ≠ profile.profileId || !isSha256Digest profile.profileDigest)
      "resolved intent has an invalid canonical plan/profile binding"
  | .clarification options statement => do
    rejectIf (options.length < 2 || statement.isEmpty) "clarification requires multiple catalog options and a statement"
    rejectIf (sortDedup options ≠ options ||
        options.any fun option => option.version ≠ r.version || !isSha256Digest option.profileDigest)
      "clarification options must be sorted unique catalog bindings"
  | .refused refusal =>
    rejectIf (refusal.family ≠ refusal.kind.family || refusal.statement.isEmpty)
      "intent refusal kind/family binding is invalid"

def IntentResolution.validate (r : IntentResolution) : Except String Unit := do
  rejectIf (r.schema ≠ intentResolutionSchema) ("unsupported inquiry intent resolution schema " ++ debug env r.schema ++
    "; expected " ++ debug env intentResolutionSchema)
  rejectIf (!isSha256Digest r.intentDigest) "inquiry intent resolution requires a canonical intent digest"
  r.validateDisposition

def dispositionForResolved (intent : Intent) (resolved : ResolvedProfile) : IntentDisposition :=
  let citedIds := BTreeSet.ofList intent.targetIds
  let declaredTargets := resolved.profile.declaredTargets
  let declaredIds := BTreeSet.ofList (declaredTargets.map TlsTarget.targetId)
  let undeclared := citedIds.toList.filter (· ∉ declaredIds)
  if undeclared ≠ [] then
    .refused (.new .targetUndeclared ("profile " ++ debug env resolved.profile.profileId ++
      " does not declare cited target_id(s): " ++ ", ".intercalate undeclared ++ "; no inquiry executed"))
  else
    let targets := if citedIds.toList = [] then [] else declaredTargets.filter (·.targetId ∈ citedIds)
    .resolved ⟨planSchema, .v0, resolved.profile.profileId, intent.asOf, targets⟩ resolved.binding

/-- The arm of a profile selector. -/
def dispositionForProfile (intent : Intent) (catalog : ProfileCatalog) (selector : String) :
    Except String IntentDisposition :=
  if !catalog.profiles.any (·.named selector) then
    .ok (.refused (.new .selectorUnresolved
      ("profile selector " ++ debug env selector ++ " is not declared by the catalog")))
  else do
    let resolved ← catalog.resolve env selector
    pure (dispositionForResolved env intent resolved)

/-- What the profiles of a question come to. -/
def dispositionForMatches (intent : Intent) (question : Question) (found : List ResolvedProfile) : IntentDisposition :=
  match sortDedupOn ResolvedProfile.binding found with
  | [] => .refused (.new .questionUnanswerable
      ("the catalog declares no profile for question " ++ question.debug ++ "; no inquiry executed"))
  | [resolved] => dispositionForResolved env intent resolved
  | found => .clarification (found.map ResolvedProfile.binding) "scope does not resolve uniquely; no inquiry executed"

/-- The arm of a question selector. -/
def dispositionForQuestion (intent : Intent) (catalog : ProfileCatalog) (question : Question) :
    Except String IntentDisposition := do
  let found ← (catalog.profiles.filter (·.questionKind = question)).mapM fun p => catalog.resolve env p.profileId
  pure (dispositionForMatches env intent question found)

def Intent.disposition (intent : Intent) (catalog : ProfileCatalog) : Except String IntentDisposition :=
  match intent.selector with
  | .profile selector => dispositionForProfile env intent catalog selector
  | .question question => dispositionForQuestion env intent catalog question

def compileInquiryIntent (intent : Intent) (catalog : ProfileCatalog) : Except String IntentResolution := do
  intent.validate env
  catalog.validate env
  let disposition ← intent.disposition env catalog
  let intentDigest ← (intent.intentDigest env).mapError ("intent digest failed: " ++ ·)
  let resolution : IntentResolution :=
    ⟨intentResolutionSchema, .v0, intentDigest, intent.composedBy, intent.sourceText, disposition⟩
  resolution.validate env
  pure resolution

end

/-! ## Profiles of a question -/

section

variable {env : Env} {c c' : ProfileCatalog} {question : Question} {intent intent' : Intent}

/-- What the profiles of a question resolve to. -/
def Matched (env : Env) (c : ProfileCatalog) (question : Question) (found : List ResolvedProfile) : Prop :=
  List.Forall₂ (fun p r => p.resolved env = .ok r) (c.profiles.filter (·.questionKind = question)) found

theorem exists_matched (env : Env) (hv : c.Valid) (question : Question) : ∃ found, Matched env c question found := by
  have hall : ∀ ps : List Profile, (∀ p ∈ ps, p.Valid) →
      ∃ found, List.Forall₂ (fun p r => p.resolved env = .ok r) ps found := by
    intro ps
    induction ps with
    | nil => exact fun _ => ⟨[], .nil⟩
    | cons p ps ih =>
      intro h
      obtain ⟨r, hr⟩ := Profile.exists_resolved env (h p mem_cons_self)
      obtain ⟨found, hfound⟩ := ih fun q hq => h q (mem_cons_of_mem _ hq)
      exact ⟨r :: found, .cons hr hfound⟩
  exact hall _ fun p hp => hv.each p (mem_of_mem_filter hp)

variable {found : List ResolvedProfile} {r : ResolvedProfile} {p : Profile} {name statement : String}
  {binding : ProfileBinding} {plan : CandidatePlan} {options : List ProfileBinding}

theorem matched_mapM (hv : c.Valid) (h : Matched env c question found) :
    (c.profiles.filter (·.questionKind = question)).mapM (fun p => c.resolve env p.profileId) = .ok found := by
  refine mapM_ok.mpr ?_
  unfold Matched at h
  have hmem : ∀ p ∈ c.profiles.filter (·.questionKind = question), p ∈ c.profiles := fun p => mem_of_mem_filter
  generalize c.profiles.filter (·.questionKind = question) = ps at h hmem
  induction h with
  | nil => exact .nil
  | cons hr _ ih =>
    refine .cons ?_ (ih fun q hq => hmem q (mem_cons_of_mem _ hq))
    rw [ProfileCatalog.resolve_named hv (hmem _ mem_cons_self) (Profile.named_iff.mpr mem_cons_self)]
    exact hr

theorem mem_matched (h : Matched env c question found) :
    r ∈ found ↔ ∃ p ∈ c.profiles, p.questionKind = question ∧ p.resolved env = .ok r := by
  obtain ⟨hleft, hright⟩ := exists_of_forall₂ h
  constructor
  · intro hr
    obtain ⟨p, hp, hok⟩ := hright r hr
    obtain ⟨hp, hk⟩ := mem_filter.mp hp
    exact ⟨p, hp, of_decide_eq_true hk, hok⟩
  · intro hr
    obtain ⟨p, hp, hk, hok⟩ := hr
    obtain ⟨r', hr', hok'⟩ := hleft p (mem_filter.mpr ⟨hp, decide_eq_true hk⟩)
    rw [hok] at hok'
    cases hok'
    exact hr'

theorem Profile.resolved_binding (h : p.resolved env = .ok r) :
    (r.binding.profileId, r.binding.version) = (p.profileId, p.version) ∧
      isSha256Digest r.binding.profileDigest = true := by
  obtain ⟨hv, d, hd, e⟩ := Profile.resolved_ok.mp h
  subst e
  rw [Profile.profileDigest_eq (p.rearranged_sorted.valid hv)] at hd
  exact ⟨rfl, isSha256Digest_digestJcs hd⟩

theorem matched_nodup (hv : c.Valid) (h : Matched env c question found) :
    (found.map ResolvedProfile.binding).Nodup := by
  have hkeys : found.map (fun r => (r.binding.profileId, r.binding.version)) =
      (c.profiles.filter (·.questionKind = question)).map fun p => (p.profileId, p.version) := by
    unfold Matched at h
    generalize c.profiles.filter (·.questionKind = question) = ps at h
    induction h with
    | nil => rfl
    | cons hr _ ih => rw [map_cons, map_cons, ih, (Profile.resolved_binding hr).1]
  have hnodup : (found.map fun r => (r.binding.profileId, r.binding.version)).Nodup := by
    rw [hkeys]
    exact (filter_sublist.map _).nodup hv.bindings
  refine List.Nodup.of_map (fun b : ProfileBinding => (b.profileId, b.version)) ?_
  rw [map_map]
  exact hnodup

/-- A rearranged catalog has the same matches. -/
theorem matched_perm (hv : c.Valid) (hc : c.Rearranged c') {found' : List ResolvedProfile}
    (h : Matched env c question found) (h' : Matched env c' question found') : found.Perm found' := by
  refine (perm_ext_iff_of_nodup ((matched_nodup hv h).of_map _) ((matched_nodup (hc.valid hv) h').of_map _)).mpr ?_
  intro r
  rw [mem_matched h, mem_matched h']
  constructor
  · intro hr
    obtain ⟨p, hp, hk, hok⟩ := hr
    obtain ⟨p', hp', hsame⟩ := hc.source.1 p hp
    refine ⟨p', hp', ?_, hsame.resolved_eq (hv.each p hp) ▸ hok⟩
    rw [hsame.same]
    exact hk
  · intro hr
    obtain ⟨p', hp', hk, hok⟩ := hr
    obtain ⟨p, hp, hsame⟩ := hc.source.2 p' hp'
    refine ⟨p, hp, ?_, hsame.resolved_eq (hv.each p hp) ▸ hok⟩
    rw [hsame.same] at hk
    exact hk

/-! ## Dispositions -/

/-- What the resolution's own check asks of a disposition. -/
def IntentDisposition.WellFormed (d : IntentDisposition) : Prop :=
  ∀ r : IntentResolution, r.disposition = d → r.validateDisposition = .ok ()

theorem refused_wellFormed {kind : IntentRefusalKind} (h : statement.isEmpty = false) :
    (IntentDisposition.refused (.new kind statement)).WellFormed := by
  intro r hr
  unfold IntentResolution.validateDisposition
  rw [hr]
  simp [IntentRefusal.new, h]

theorem isEmpty_append {a b : String} (h : a.isEmpty = false) : (a ++ b).isEmpty = false := by
  rw [Bool.eq_false_iff, ne_eq, String.isEmpty_iff] at h ⊢
  intro e
  have hlist := congrArg String.toList e
  rw [String.toList_append] at hlist
  exact h (String.toList_inj.mp (append_eq_nil_iff.mp hlist).1)

/-- The targets of a plan are the declared ones whose identities the intent cites. -/
theorem dispositionForResolved_cases (env : Env) (intent : Intent) (r : ResolvedProfile) :
    (∃ statement, statement.isEmpty = false ∧
      dispositionForResolved env intent r = .refused (.new .targetUndeclared statement)) ∨
    ∃ plan, dispositionForResolved env intent r = .resolved plan r.binding ∧ plan.schema = planSchema ∧
      plan.profile = r.profile.profileId ∧ plan.asOf = intent.asOf ∧ plan.targets.Sublist r.profile.declaredTargets ∧
      ∀ t, t ∈ plan.targets ↔ t ∈ r.profile.declaredTargets ∧ t.targetId ∈ intent.targetIds := by
  unfold dispositionForResolved
  dsimp only
  split
  · refine Or.inl ⟨_, ?_, rfl⟩
    exact isEmpty_append (isEmpty_append (isEmpty_append (isEmpty_append rfl)))
  · refine Or.inr ⟨_, rfl, rfl, rfl, rfl, ?_, fun t => ?_⟩
    · dsimp only
      split
      · exact nil_sublist _
      · exact filter_sublist
    · dsimp only
      split
      next hnil =>
        have hcited : t.targetId ∉ BTreeSet.ofList intent.targetIds := by
          rw [BTreeSet.mem_iff, hnil]
          exact not_mem_nil
        exact ⟨fun h => (nomatch h), fun h => absurd (BTreeSet.mem_ofList.mpr h.2) hcited⟩
      next => rw [mem_filter, decide_eq_true_eq, BTreeSet.mem_ofList]

theorem dispositionForResolved_wellFormed (h : isSha256Digest r.binding.profileDigest = true) :
    (dispositionForResolved env intent r).WellFormed := by
  rcases dispositionForResolved_cases env intent r with hd | hd
  · obtain ⟨statement, hs, e⟩ := hd
    rw [e]
    exact refused_wellFormed hs
  · obtain ⟨plan, e, hschema, hprofile, _⟩ := hd
    rw [e]
    intro res hres
    unfold IntentResolution.validateDisposition
    rw [hres]
    rw [rejectIf_ok, hschema, hprofile, h]
    simp [ResolvedProfile.binding]

theorem dispositionForMatches_wellFormed (hv : c.Valid) (h : Matched env c question found) :
    (dispositionForMatches env intent question found).WellFormed := by
  have hn := matched_nodup hv h
  have hdigest : ∀ r ∈ sortDedupOn ResolvedProfile.binding found, isSha256Digest r.binding.profileDigest = true := by
    intro r hr
    obtain ⟨p, _, _, hok⟩ := (mem_matched h).mp ((sortDedupOn_perm hn).mem_iff.mp hr)
    exact (Profile.resolved_binding hok).2
  have hsorted := map_sortDedupOn hn
  unfold dispositionForMatches
  generalize sortDedupOn ResolvedProfile.binding found = ms at hdigest hsorted
  match ms with
  | [] => exact refused_wellFormed (isEmpty_append (isEmpty_append rfl))
  | [r] => exact dispositionForResolved_wellFormed (hdigest r mem_cons_self)
  | r :: r' :: rest =>
    have hfix : sortDedup ((r :: r' :: rest).map ResolvedProfile.binding) =
        (r :: r' :: rest).map ResolvedProfile.binding := by
      rw [hsorted, sortDedup_of_nodup (sort_nodup hn), sort_sort]
    intro res hres
    unfold IntentResolution.validateDisposition
    rw [hres]
    dsimp only
    rw [hfix, check_ok, rejectIf_ok, rejectIf_ok]
    refine ⟨by simp, ?_⟩
    rw [decide_eq_false (fun h => h rfl), Bool.false_or, any_eq_false]
    intro b hb
    obtain ⟨q, hq, e⟩ := List.mem_map.mp hb
    rw [← e, hdigest q hq]
    simp

/-- A valid intent over a valid catalog always compiles. -/
theorem compile_ok (hi : intent.validate env = .ok ()) (hv : c.Valid) {d : IntentDisposition}
    (hd : intent.disposition env c = .ok d) (hwell : d.WellFormed) :
    ∃ r, compileInquiryIntent env intent c = .ok r ∧ r.disposition = d := by
  obtain ⟨digest, hdigest⟩ := digestJcs_plain env (a := .intent intent) rfl
  have hsha := isSha256Digest_digestJcs hdigest
  have hintent : intent.intentDigest env = .ok digest := by
    unfold Intent.intentDigest
    rw [hi]
    exact hdigest
  refine ⟨⟨intentResolutionSchema, .v0, digest, intent.composedBy, intent.sourceText, d⟩, ?_, rfl⟩
  unfold compileInquiryIntent IntentResolution.validate
  simp only [Sql.bind_ok]
  refine ⟨(), hi, (), ProfileCatalog.validate_ok.mpr hv, d, hd,
    digest, by rw [hintent]; rfl, (), ⟨(), ?_, (), ?_, hwell _ rfl⟩, rfl⟩
  · rw [rejectIf_ok, decide_eq_false (fun h => h rfl)]
  · rw [rejectIf_ok, hsha]
    rfl

/-! ## What a selector comes to -/

theorem disposition_named (hv : c.Valid) (hs : intent.selector = .profile name) (hp : p ∈ c.profiles)
    (hn : p.named name = true) (hr : p.resolved env = .ok r) :
    intent.disposition env c = .ok (dispositionForResolved env intent r) := by
  have hany : c.profiles.any (·.named name) = true := any_eq_true.mpr ⟨p, hp, hn⟩
  unfold Intent.disposition
  rw [hs]
  unfold dispositionForProfile
  dsimp only
  rw [hany, ProfileCatalog.resolve_named hv hp hn, hr]
  rfl

theorem disposition_unnamed (hs : intent.selector = .profile name) (hn : ∀ p ∈ c.profiles, p.named name = false) :
    intent.disposition env c = .ok (.refused (.new .selectorUnresolved
      ("profile selector " ++ debug env name ++ " is not declared by the catalog"))) := by
  have hany : c.profiles.any (·.named name) = false := any_eq_false.mpr fun p hp => by
    rw [hn p hp]; exact Bool.false_ne_true
  unfold Intent.disposition
  rw [hs]
  unfold dispositionForProfile
  dsimp only
  rw [hany]
  rfl

theorem disposition_question (hv : c.Valid) (hs : intent.selector = .question question)
    (h : Matched env c question found) :
    intent.disposition env c = .ok (dispositionForMatches env intent question found) := by
  unfold Intent.disposition
  rw [hs]
  unfold dispositionForQuestion
  dsimp only
  rw [matched_mapM hv h]
  rfl

theorem named_or_unnamed (c : ProfileCatalog) (name : String) :
    (∃ p ∈ c.profiles, p.named name = true) ∨ ∀ p ∈ c.profiles, p.named name = false := by
  by_cases h : ∃ p ∈ c.profiles, p.named name = true
  · exact Or.inl h
  · refine Or.inr fun p hp => ?_
    cases hpn : p.named name with
    | true => exact absurd ⟨p, hp, hpn⟩ h
    | false => rfl

theorem exists_disposition (env : Env) (intent : Intent)
    (hv : c.Valid) : ∃ d, intent.disposition env c = .ok d ∧ d.WellFormed := by
  cases hs : intent.selector with
  | profile name =>
    rcases named_or_unnamed c name with hn | hn
    · obtain ⟨p, hp, hn⟩ := hn
      obtain ⟨r, hr⟩ := Profile.exists_resolved env (hv.each p hp)
      exact ⟨_, disposition_named hv hs hp hn hr, dispositionForResolved_wellFormed (Profile.resolved_binding hr).2⟩
    · exact ⟨_, disposition_unnamed hs hn, refused_wellFormed (isEmpty_append (isEmpty_append rfl))⟩
  | question question =>
    obtain ⟨found, h⟩ := exists_matched env hv question
    exact ⟨_, disposition_question hv hs h, dispositionForMatches_wellFormed hv h⟩

/-! ## Intents alike -/

/-- Intents that differ in provenance, and in the order and repetition of their citations. -/
structure Intent.Alike (i i' : Intent) : Prop where
  selector : i'.selector = i.selector
  asOf : i'.asOf = i.asOf
  targetIds : ∀ id, id ∈ i'.targetIds ↔ id ∈ i.targetIds

theorem Intent.Alike.forResolved_eq (h : intent.Alike intent') (r : ResolvedProfile) :
    dispositionForResolved env intent' r = dispositionForResolved env intent r := by
  unfold dispositionForResolved
  rw [BTreeSet.ofList_congr h.targetIds, h.asOf]

/-- Nothing else of an intent, and no order of the catalog, reaches the disposition. -/
theorem Intent.Alike.disposition_eq (h : intent.Alike intent') (hv : c.Valid) (hc : c.Rearranged c') :
    intent'.disposition env c' = intent.disposition env c := by
  have hv' := hc.valid hv
  cases hs : intent.selector with
  | profile name =>
    have hs' : intent'.selector = .profile name := h.selector.trans hs
    rcases named_or_unnamed c name with hn | hn
    · obtain ⟨p, hp, hn⟩ := hn
      obtain ⟨r, hr⟩ := Profile.exists_resolved env (hv.each p hp)
      obtain ⟨p', hp', hsame⟩ := hc.source.1 p hp
      have hr' : p'.resolved env = .ok r := hsame.resolved_eq (hv.each p hp) ▸ hr
      rw [disposition_named hv hs hp hn hr, disposition_named hv' hs' hp' (hsame.named name ▸ hn) hr', h.forResolved_eq]
    · rw [disposition_unnamed hs hn, disposition_unnamed hs']
      intro p' hp'
      obtain ⟨p, hp, hsame⟩ := hc.source.2 p' hp'
      rw [hsame.named, hn p hp]
  | question question =>
    obtain ⟨found, hm⟩ := exists_matched env hv question
    obtain ⟨found', hm'⟩ := exists_matched env hv' question
    rw [disposition_question hv hs hm, disposition_question hv' (h.selector.trans hs) hm']
    unfold dispositionForMatches
    rw [← sortDedupOn_congr (matched_nodup hv hm) (matched_perm hv hc hm hm')]
    simp only [h.forResolved_eq]

/-! ## Plans -/

/-- The profile a selector comes down to. -/
def Intent.Selects (i : Intent) (c : ProfileCatalog) (p : Profile) : Prop :=
  match i.selector with
  | .profile name => p ∈ c.profiles ∧ p.named name = true
  | .question question => c.profiles.filter (·.questionKind = question) = [p]

theorem matched_singleton (hv : c.Valid) (h : Matched env c question found)
    (he : sortDedupOn ResolvedProfile.binding found = [r]) :
    ∃ p ∈ c.profiles, c.profiles.filter (·.questionKind = question) = [p] ∧ p.resolved env = .ok r := by
  have hperm := sortDedupOn_perm (matched_nodup hv h)
  rw [he] at hperm
  have hfound : found = [r] := perm_singleton.mp hperm.symm
  subst hfound
  unfold Matched at h
  generalize hps : c.profiles.filter (·.questionKind = question) = ps at h
  cases h with
  | @cons p _ _ _ hr htail =>
    cases htail
    have hp : p ∈ c.profiles.filter (·.questionKind = question) := hps ▸ mem_singleton_self p
    exact ⟨p, mem_of_mem_filter hp, rfl, hr⟩

/-- A plan an intent is lowered into, for a profile of the catalog. -/
structure Lowered (env : Env) (i : Intent) (c : ProfileCatalog)
    (plan : CandidatePlan) (p : Profile) (r : ResolvedProfile) :
    Prop where
  selected : i.Selects c p
  mem : p ∈ c.profiles
  resolved : p.resolved env = .ok r
  schema : plan.schema = planSchema
  profile : plan.profile = p.profileId
  asOf : plan.asOf = i.asOf
  sublist : plan.targets.Sublist r.profile.declaredTargets
  targets : ∀ t, t ∈ plan.targets ↔ t ∈ p.declaredTargets ∧ t.targetId ∈ i.targetIds

theorem lowered_of_resolved (hsel : intent.Selects c p) (hp : p ∈ c.profiles) (hr : p.resolved env = .ok r)
    (hd : dispositionForResolved env intent r = .resolved plan binding) :
    binding = r.binding ∧ Lowered env intent c plan p r := by
  obtain ⟨_, _, _, e⟩ := Profile.resolved_ok.mp hr
  rcases dispositionForResolved_cases env intent r with hcase | hcase
  · obtain ⟨statement, _, e⟩ := hcase
    rw [e] at hd
    cases hd
  · obtain ⟨plan', e', hschema, hprofile, hasOf, hsub, htargets⟩ := hcase
    rw [e'] at hd
    cases hd
    refine ⟨rfl, hsel, hp, hr, hschema, ?_, hasOf, hsub, fun t => ?_⟩
    · rw [hprofile, e]
      rfl
    · rw [htargets, e, Profile.declaredTargets_sorted, mem_sort]

theorem exists_lowered (hv : c.Valid) (hd : intent.disposition env c = .ok (.resolved plan binding)) :
    ∃ p r, binding = r.binding ∧ Lowered env intent c plan p r := by
  cases hs : intent.selector with
  | profile name =>
    rcases named_or_unnamed c name with hn | hn
    · obtain ⟨p, hp, hn⟩ := hn
      obtain ⟨r, hr⟩ := Profile.exists_resolved env (hv.each p hp)
      rw [disposition_named hv hs hp hn hr] at hd
      refine ⟨p, r, lowered_of_resolved ?_ hp hr (Except.ok.inj hd)⟩
      unfold Intent.Selects
      rw [hs]
      exact ⟨hp, hn⟩
    · rw [disposition_unnamed hs hn] at hd
      cases hd
  | question question =>
    obtain ⟨found, hm⟩ := exists_matched env hv question
    rw [disposition_question hv hs hm] at hd
    have hd := Except.ok.inj hd
    unfold dispositionForMatches at hd
    split at hd
    · cases hd
    next r he =>
      obtain ⟨p, hp, hone, hr⟩ := matched_singleton hv hm he
      refine ⟨p, r, lowered_of_resolved ?_ hp hr hd⟩
      unfold Intent.Selects
      rw [hs]
      exact hone
    · cases hd

/-- A lowered plan is admitted as soon as its clock parses. -/
theorem Lowered.admitted (h : Lowered env intent c plan p r) {i : Int} (hasOf : env.rfc3339 intent.asOf = .ok i) :
    ∃ request, admitPlan env plan r = .ok request ∧ request.profile = r.binding := by
  obtain ⟨hp, d, hd, e⟩ := Profile.resolved_ok.mp h.resolved
  have hsub := h.sublist
  subst e
  have hsorted := p.rearranged_sorted.valid hp
  have hplan : plan.Valid env :=
    ⟨h.schema, h.profile ▸ hp.profileId, ⟨i, h.asOf ▸ hasOf⟩, hsorted.declaredTargets.sublist hsub⟩
  have hnamed : p.sorted.named plan.profile = true := by
    rw [h.profile, p.rearranged_sorted.named]
    exact Profile.named_iff.mpr mem_cons_self
  have htargets : ∃ selector targets, admitTargets env plan p.sorted = .ok (selector, targets) := by
    have hkind := hsorted.kind
    unfold Profile.KindValid at hkind
    cases hk : p.sorted.questionKind with
    | findingOperationalActivity =>
      rw [hk] at hkind
      have hnone : p.sorted.declaredTargets = [] := by
        unfold Profile.declaredTargets
        rw [hkind.passive]
        rfl
      rw [hnone] at hsub
      exact ⟨_, _, (admitTargets_report hk).mpr ⟨sublist_nil.mp hsub, rfl⟩⟩
    | tlsCertificatePresentationAndExpiryHorizon =>
      rw [hk] at hkind
      obtain ⟨t, htls, ht⟩ := hkind.tlsCert
      have hdeclared : p.sorted.declaredTargets = t.declaredTargets := by
        unfold Profile.declaredTargets
        rw [htls]
        rfl
      exact ⟨_, _, (admitTargets_tls hplan hk htls ht).mpr ⟨rfl, fun a ha => hdeclared ▸ hsub.subset ha⟩⟩
  obtain ⟨selector, targets, htargets⟩ := htargets
  obtain ⟨request, hadmitted, _⟩ := exists_admitted ⟨p.sorted, d⟩ hplan hsorted hnamed hd htargets
  refine ⟨request, admitPlan_ok.mpr hadmitted, ?_⟩
  rw [hadmitted.material]
  rfl

/-! ## Clarifications -/

theorem not_clarification_of_resolved : dispositionForResolved env intent r ≠ .clarification options statement := by
  intro h
  rcases dispositionForResolved_cases env intent r with hcase | hcase
  · obtain ⟨_, _, e⟩ := hcase
    rw [e] at h
    cases h
  · obtain ⟨_, e, _⟩ := hcase
    rw [e] at h
    cases h

theorem clarification_iff (hv : c.Valid) (h : Matched env c question found) :
    dispositionForMatches env intent question found = .clarification options statement ↔
      2 ≤ (c.profiles.filter (·.questionKind = question)).length ∧
      options = sort (found.map ResolvedProfile.binding) ∧
        statement = "scope does not resolve uniquely; no inquiry executed" := by
  have hn := matched_nodup hv h
  have hlength := (sortDedupOn_perm hn).length_eq.trans h.length_eq.symm
  have hsorted := map_sortDedupOn hn
  unfold dispositionForMatches
  rw [← hlength, ← hsorted]
  generalize sortDedupOn ResolvedProfile.binding found = ms
  match ms with
  | [] => exact ⟨fun h => (nomatch h), fun h => absurd h.1 (by simp)⟩
  | [r] => exact ⟨fun h => absurd h not_clarification_of_resolved, fun h => absurd h.1 (by simp)⟩
  | r :: r' :: rest =>
    dsimp only
    rw [IntentDisposition.clarification.injEq, eq_comm, @eq_comm _ statement]
    exact ⟨fun h => ⟨by simp, h⟩, fun h => h.2⟩

/-- The compiler heeds selector, clock and the set of citations alone, and cannot leave the
    catalog. -/
theorem intent_compiler (env : Env) (c : ProfileCatalog) (hc : c.validate env = .ok ()) :
    (∀ c' intent intent', c.Rearranged c' → intent.validate env = .ok () → intent'.validate env = .ok () →
      intent.Alike intent' → ∃ resolution resolution', compileInquiryIntent env intent c = .ok resolution ∧
        compileInquiryIntent env intent' c' = .ok resolution' ∧ resolution'.disposition = resolution.disposition) ∧
    (∀ intent resolution plan binding, compileInquiryIntent env intent c = .ok resolution →
      resolution.disposition = .resolved plan binding →
      ∃ p r, intent.Selects c p ∧ c.resolve env plan.profile = .ok r ∧ r.binding = binding ∧ plan.targets.Nodup ∧
        (∀ t, t ∈ plan.targets ↔ t ∈ p.declaredTargets ∧ t.targetId ∈ intent.targetIds) ∧
        ∀ i, env.rfc3339 intent.asOf = .ok i → ∃ request, admitPlan env plan r = .ok request ∧
          request.profile = binding) ∧
    ∀ intent resolution, compileInquiryIntent env intent c = .ok resolution → ∀ options,
      (∃ statement, resolution.disposition = .clarification options statement) ↔
        ∃ question, intent.selector = .question question ∧
          2 ≤ (c.profiles.filter (·.questionKind = question)).length ∧ options.Pairwise (· < ·) ∧
          ∀ b, b ∈ options ↔ ∃ p ∈ c.profiles, p.questionKind = question ∧
            ∃ r, p.resolved env = .ok r ∧ r.binding = b := by
  have hv : c.Valid := ProfileCatalog.validate_ok.mp hc
  have hread : ∀ intent resolution, compileInquiryIntent env intent c = .ok resolution →
      intent.disposition env c = .ok resolution.disposition := by
    intro intent resolution h
    unfold compileInquiryIntent at h
    simp only [Sql.bind_ok] at h
    obtain ⟨_, _, _, _, d, hd, _, _, _, _, e⟩ := h
    cases e
    exact hd
  refine ⟨?_, ?_, ?_⟩
  · intro c' intent intent' hsame hi hi' halike
    obtain ⟨d, hd, hwell⟩ := exists_disposition env intent hv
    obtain ⟨r, hr, e⟩ := compile_ok hi hv hd hwell
    obtain ⟨r', hr', e'⟩ := compile_ok hi' (hsame.valid hv) ((halike.disposition_eq hv hsame).trans hd) hwell
    exact ⟨r, r', hr, hr', e'.trans e.symm⟩
  · intro intent resolution plan binding h hdisp
    obtain ⟨p, r, e, hl⟩ := exists_lowered hv (hdisp ▸ hread intent resolution h)
    have hdeclared : plan.targets.Nodup := by
      obtain ⟨hp, _, _, er⟩ := Profile.resolved_ok.mp hl.resolved
      have hsub := hl.sublist
      rw [er] at hsub
      exact ((p.rearranged_sorted.valid hp).declaredTargets.sublist hsub).nodup
    refine ⟨p, r, hl.selected, ?_, e.symm, hdeclared, hl.targets, fun i hi => e ▸ hl.admitted hi⟩
    rw [hl.profile, ProfileCatalog.resolve_named hv hl.mem (Profile.named_iff.mpr mem_cons_self), hl.resolved]
  · intro intent resolution h options
    have hd := hread intent resolution h
    cases hs : intent.selector with
    | profile name =>
      refine ⟨fun hclar => ?_, fun hq => ?_⟩
      · obtain ⟨statement, e⟩ := hclar
        rw [e] at hd
        rcases named_or_unnamed c name with hn | hn
        · obtain ⟨p, hp, hn⟩ := hn
          obtain ⟨r, hr⟩ := Profile.exists_resolved env (hv.each p hp)
          rw [disposition_named hv hs hp hn hr] at hd
          exact absurd (Except.ok.inj hd) not_clarification_of_resolved
        · rw [disposition_unnamed hs hn] at hd
          cases hd
      · obtain ⟨_, e, _⟩ := hq
        cases e
    | question question =>
      obtain ⟨found, hm⟩ := exists_matched env hv question
      have hn := matched_nodup hv hm
      rw [disposition_question hv hs hm] at hd
      rw [← Except.ok.inj hd]
      have hoptions : ∀ b, b ∈ sort (found.map ResolvedProfile.binding) ↔
          ∃ p ∈ c.profiles, p.questionKind = question ∧ ∃ r, p.resolved env = .ok r ∧ r.binding = b := by
        intro b
        rw [mem_sort, List.mem_map]
        constructor
        · intro hb
          obtain ⟨r, hr, e⟩ := hb
          obtain ⟨p, hp, hk, hok⟩ := (mem_matched hm).mp hr
          exact ⟨p, hp, hk, r, hok, e⟩
        · intro hb
          obtain ⟨p, hp, hk, r, hok, e⟩ := hb
          exact ⟨r, (mem_matched hm).mpr ⟨p, hp, hk, hok⟩, e⟩
      have hstrict : (sort (found.map ResolvedProfile.binding)).Pairwise (· < ·) := by
        rw [← sortDedup_of_nodup hn]
        exact sortDedup_pairwise _
      constructor
      · intro hclar
        obtain ⟨statement, hclar⟩ := hclar
        obtain ⟨htwo, e, _⟩ := (clarification_iff hv hm).mp hclar
        exact ⟨question, rfl, htwo, e ▸ hstrict, e ▸ hoptions⟩
      · intro hq
        obtain ⟨q, e, htwo, hpairs, hmem⟩ := hq
        cases e
        refine ⟨_, (clarification_iff hv hm).mpr ⟨htwo, ?_, rfl⟩⟩
        exact List.Pairwise.eq_of_mem_iff hpairs hstrict fun b => by rw [hmem, hoptions]

/-- `tests/fixtures/golden_success.inquiry_intent.v0.json`. -/
def operatorIntent : Intent where
  schema := intentSchema
  version := .v0
  selector := .profile "tls-cert"
  asOf := "2026-07-11T12:00:00Z"
  targetIds := ["loopback"]
  composedBy := .operator
  sourceText := some "Check the certificate presented by the declared loopback TLS target."

def modelIntent : Intent :=
  { operatorIntent with
    targetIds := ["loopback", "loopback"], composedBy := .model "m-1" "adapter", sourceText := none }

theorem two_composers_reach_one_plan : ∃ resolution resolution' plan binding request,
    compileInquiryIntent canonicalEnv operatorIntent tlsCatalog = .ok resolution ∧
    compileInquiryIntent canonicalEnv modelIntent tlsCatalog = .ok resolution' ∧
    resolution'.disposition = resolution.disposition ∧ resolution.disposition = .resolved plan binding ∧
    request.profile = binding ∧ ∃ r, admitPlan canonicalEnv plan r = .ok request := by
  have hcompiler := intent_compiler canonicalEnv tlsCatalog (ProfileCatalog.validate_ok.mpr tlsCatalog_valid)
  have hvalid : ∀ i : Intent, i.schema = intentSchema → i.validate canonicalEnv = .ok () := by
    intro i hi
    unfold Intent.validate
    rw [rejectIf_ok, hi]
    exact decide_eq_false fun h => h rfl
  obtain ⟨resolution, resolution', h, h', hsame⟩ := hcompiler.1 tlsCatalog operatorIntent modelIntent
    ⟨rfl, rfl, _, .cons (.refl _) .nil, .refl _⟩ (hvalid _ rfl) (hvalid _ rfl) ⟨rfl,
      rfl, fun id => by simp [modelIntent, operatorIntent]⟩
  obtain ⟨resolved, hresolved⟩ := Profile.exists_resolved canonicalEnv boundedTlsCert_valid
  obtain ⟨_, d, _, e⟩ := Profile.resolved_ok.mp hresolved
  have hread : operatorIntent.disposition canonicalEnv tlsCatalog =
      .ok (dispositionForResolved canonicalEnv operatorIntent resolved) :=
    disposition_named tlsCatalog_valid rfl mem_cons_self (by decide) hresolved
  have hdisposition : resolution.disposition = dispositionForResolved canonicalEnv operatorIntent resolved := by
    obtain ⟨r, hr, hd⟩ := compile_ok (hvalid operatorIntent rfl) tlsCatalog_valid hread
      (dispositionForResolved_wellFormed (Profile.resolved_binding hresolved).2)
    rw [hr] at h
    cases h
    exact hd
  have hplan : resolution.disposition = .resolved ⟨planSchema, .v0, "bounded_tls_cert", operatorIntent.asOf, [loopback]⟩
      ⟨"bounded_tls_cert", .v0, d⟩ := by
    rw [hdisposition, e]
    rfl
  obtain ⟨_, r, _, _, _, _, _, hadmitted⟩ := hcompiler.2.1 operatorIntent resolution _ _ h hplan
  obtain ⟨request, hrequest, hbinding⟩ := hadmitted 1783771200000000000 rfl
  exact ⟨resolution, resolution', _, _, request, h, h', hsame, hplan, hbinding, r, hrequest⟩

end

end Nq.Inquiry
