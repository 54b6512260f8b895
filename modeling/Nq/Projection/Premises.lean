/-
  Nq.Projection.Premises — what a packet keeps of a dossier's premises
  (`nq-monitor/src/docket_dossier.rs`, `premise_coverage`, `build_packet`,
  `projection_receipt`).

  Every premise, nonclaim and obligation of a dossier becomes a coverage limit or an
  observation (`premiseCoverage_ok`), with two exceptions.

  - The residual obligations of an issuance are read at the status `present` alone: at the
    other statuses those it lists are neither listed nor checked.
  - The receipt's contradiction status is a search for a phrase in the limits, which hold
    text of the source. A limit has the phrase exactly where that text has
    (`mem_limits_phrase`): no piece of a limit's own text can complete it.

  So a packet keeps what the dossier says exactly where nothing is listed without the status
  `present`, and the phrase is in no source text or evidence disagrees (`packet_kept_iff`).
-/

import Nq.Projection.Testimony
import Nq.Text.Find

namespace Nq.Projection

open List
open Receipts (Json WitnessPacket)

namespace Docket

/-! ## Limits -/

def settlementLimit (tag : String) : String :=
  "coverage bounded by docket premise: " ++ tag ++ " (" ++ (if tag ∈ knownPremiseTags then "" else "unrecognized; ") ++
    "asserted, not verified)"

def UpstreamPremise.limit (p : UpstreamPremise) : String :=
  "coverage bounded by upstream authorization premise: " ++ p.kind ++ " — " ++ p.statement ++
    " (asserted by the issuing office; not verified by docket or nq)"

def UpstreamResidual.limit (r : UpstreamResidual) : String :=
  "outstanding upstream residual obligation " ++ r.obligationId ++ " (" ++ r.kind ++ ") on " ++ r.subject ++ ": " ++
    r.statement

def nonclaim (sentence : String) : String := "cannot testify: " ++ sentence

def custodyLimit (premise : String) : String :=
  "coverage bounded by docket premise: " ++ premise ++ " (asserted, not verified)"

/-- The custody premise, trimmed. -/
def Qualification.custody (q : Qualification) : String := String.ofList (Text.trim (q.custodyPremise.getD "").toList)

def Qualification.disagreement (q : Qualification) : String :=
  "retained evidence disagrees (concordance: " ++ q.evidenceConcordance ++ "); disagreement retained, not resolved"

def Issuance.residualLimits (i : Issuance) : List String :=
  if i.upstreamResidualStatus = "present" then i.upstreamResiduals.map UpstreamResidual.limit
  else if i.upstreamResidualStatus = "unrepresented" then
    ["upstream residual obligations are unrepresented by the issuing office; their absence is a producer limitation, " ++
      "not evidence"]
  else ["the upstream decision recorded no residual obligations"]

def Issuance.limits (i : Issuance) : List String :=
  i.upstreamPremises.map UpstreamPremise.limit ++ [nonclaim i.doesNotEstablish] ++ i.residualLimits

def Qualification.limits (q : Qualification) : List String :=
  [custodyLimit q.custody, nonclaim q.doesNotEstablish] ++ if q.evidenceAgrees then [] else [q.disagreement]

def Dossier.issuance (d : Dossier) : Option Issuance := d.authorization.bind (·.issuance)

def Dossier.limits (d : Dossier) : List String :=
  d.identity.settlementPremises.map settlementLimit ++ d.issuance.elim [] Issuance.limits ++
    d.qualification.elim [] Qualification.limits

section

variable {codec : Codec} {limits : List String}

theorem Issuance.coverage_ok {i : Issuance} (h : i.coverage codec = .ok limits) :
    limits = i.limits ∧ (i.upstreamResidualStatus = "present" → ∀ r ∈ i.upstreamResiduals, r.discharged = false) := by
  unfold Issuance.coverage at h
  obtain ⟨premises, hpremises, h⟩ := Sql.bind_ok.mp h
  obtain ⟨residuals, hresiduals, h⟩ := Sql.bind_ok.mp h
  obtain ⟨_, rfl⟩ := Collections.mapM_guard.mp hpremises
  obtain rfl := Except.ok.inj h
  unfold Issuance.residualCoverage at hresiduals
  unfold Issuance.limits Issuance.residualLimits
  by_cases hpresent : i.upstreamResidualStatus = "present"
  · rw [if_pos hpresent] at hresiduals ⊢
    obtain ⟨hall, rfl⟩ := Collections.mapM_guard.mp hresiduals
    exact ⟨rfl, fun _ => hall⟩
  · rw [if_neg hpresent] at hresiduals ⊢
    refine ⟨?_, fun h => absurd h hpresent⟩
    split at hresiduals
    · rw [if_pos ‹_›, ← Except.ok.inj hresiduals]
      rfl
    · split at hresiduals
      · rw [if_neg ‹_›, ← Except.ok.inj hresiduals]
        rfl
      · cases hresiduals

theorem Qualification.coverage_ok {q : Qualification} (h : q.coverage codec = .ok limits) :
    limits = q.limits ∧ q.custody ≠ "" := by
  unfold Qualification.coverage at h
  simp only at h
  split at h
  · cases h
  · rename_i hpremise
    split at h
    · exact ⟨(Except.ok.inj h).symm, hpremise⟩
    · cases h
    · cases h

/-- The limits of a part that may be missing. -/
theorem optional_ok {α : Type} {part : Option α} {coverage : α → Except (ImportRefusal Nat) (List String)}
    (h : part.elim (.ok []) coverage = .ok limits) :
    (part = none ∧ limits = []) ∨ ∃ a, part = some a ∧ coverage a = .ok limits := by
  cases part with
  | none => exact .inl ⟨rfl, (Except.ok.inj h).symm⟩
  | some a => exact .inr ⟨a, rfl, h⟩

theorem premiseCoverage_eq (codec : Codec) (d : Dossier) : premiseCoverage codec d =
    (d.identity.settlementPremises.mapM fun tag => if blank tag = true then
      Except.error (ImportRefusal.unenforceablePremise
      ("settlement_premises contains an empty premise tag; an empty premise cannot be enforced as a " ++
        "coverage limitation"))
      else .ok (settlementLimit tag)) >>= fun settlement =>
    d.issuance.elim (.ok []) (Issuance.coverage codec) >>= fun authorization =>
    d.qualification.elim (.ok []) (Qualification.coverage codec) >>= fun qualification =>
    .ok (settlement ++ authorization ++ qualification) := by
  unfold premiseCoverage Dossier.issuance
  cases d.authorization.bind (·.issuance) <;> cases d.qualification <;> rfl

/-- What the limits are, where there are any. -/
theorem premiseCoverage_ok {d : Dossier} (h : premiseCoverage codec d = .ok limits) :
    limits = d.limits ∧ (∀ q ∈ d.qualification, q.custody ≠ "") ∧
      ∀ i ∈ d.issuance, i.upstreamResidualStatus = "present" → ∀ r ∈ i.upstreamResiduals, r.discharged = false := by
  rw [premiseCoverage_eq] at h
  obtain ⟨settlement, hsettlement, h⟩ := Sql.bind_ok.mp h
  obtain ⟨authorization, hauthorization, h⟩ := Sql.bind_ok.mp h
  obtain ⟨qualification, hqualification, h⟩ := Sql.bind_ok.mp h
  obtain ⟨_, rfl⟩ := Collections.mapM_guard.mp hsettlement
  obtain rfl := Except.ok.inj h
  have hissuance : authorization = d.issuance.elim [] Issuance.limits ∧
      ∀ i ∈ d.issuance, i.upstreamResidualStatus = "present" → ∀ r ∈ i.upstreamResiduals, r.discharged = false := by
    rcases optional_ok hauthorization with ⟨hnone, rfl⟩ | ⟨i, hi, hcoverage⟩
    · rw [hnone]
      exact ⟨rfl, fun _ h => nomatch h⟩
    · rw [hi]
      obtain ⟨hlimits, hresiduals⟩ := Issuance.coverage_ok hcoverage
      exact ⟨hlimits, fun j hj => Option.some.inj hj ▸ hresiduals⟩
  have hcustody : qualification = d.qualification.elim [] Qualification.limits ∧
      ∀ q ∈ d.qualification, q.custody ≠ "" := by
    rcases optional_ok hqualification with ⟨hnone, rfl⟩ | ⟨q, hq, hcoverage⟩
    · rw [hnone]
      exact ⟨rfl, fun _ h => nomatch h⟩
    · rw [hq]
      obtain ⟨hlimits, hpremise⟩ := Qualification.coverage_ok hcoverage
      exact ⟨hlimits, fun r hr => Option.some.inj hr ▸ hpremise⟩
  exact ⟨by rw [hissuance.1, hcustody.1]; rfl, hcustody.2, hissuance.2⟩

end

/-! ## The phrase of a disagreement -/

def phrase : List Char := "retained evidence disagrees".toList

theorem phrase_ne : phrase ≠ [] := by decide

/-- The texts the limits are made of beside the source's. -/
def ownTexts : List String :=
  ["coverage bounded by docket premise", "cannot testify", "asserted, not verified)",
    "unrecognized; asserted, not verified)",
    "coverage bounded by upstream authorization premise",
      "asserted by the issuing office; not verified by docket or nq)",
    "outstanding upstream residual obligati",
    "upstream residual obligations are unrepresented by the issuing office; their absence is a producer limitation, " ++
      "not evidence",
    "the upstream decision recorded no residual obligations"] ++ fixedCoverageLimits

theorem ownTexts_lack_phrase : ∀ s ∈ ownTexts, ¬phrase <:+: s.toList := by
  have hphrase : phrase = "retained evidence disagrees".toList := rfl
  have hall : ownTexts.all (fun s => !Text.occurs phrase s.toList) = true := by
    unfold ownTexts fixedCoverageLimits
    rw [hphrase]
    simp (disch := exact rfl) only [all_append, all_cons, all_nil, String.toList_append, Text.toList_lit]
    decide
  intro s hs hinfix
  have hs := all_eq_true.mp hall s hs
  rw [Text.occurs_iff.mpr hinfix] at hs
  cases hs

section

variable {text : String} {x y : List Char} {c : Char}

/-- Behind a text of the limits' own. -/
theorem phrase_behind (htext : text.toList = x ++ c :: y) (hc : c ∉ phrase)
    (hx : ¬phrase <:+: x) (hy : 'r' ∉ y) (b : List Char) :
    phrase <:+: text.toList ++ b ↔ phrase <:+: b := by
  rw [htext, append_assoc]
  exact Text.infix_behind hc phrase_ne hx (fun d hd => Option.some.inj hd ▸ hy) b

/-- Before one. -/
theorem phrase_before (htext : text.toList = x ++ c :: y) (hc : c ∉ phrase)
    (hx : 's' ∉ x) (hy : ¬phrase <:+: y) (a : List Char) :
    phrase <:+: a ++ text.toList ↔ phrase <:+: a := by
  rw [htext]
  exact Text.infix_before hc phrase_ne (fun d hd => Option.some.inj hd ▸ hx) hy a

/-- On either side of one. -/
theorem phrase_between (htext : text.toList = x ++ c :: y) (hc : c ∉ phrase)
    (hx : 's' ∉ x) (hy : 'r' ∉ y) (a b : List Char) :
    phrase <:+: a ++ (text.toList ++ b) ↔ phrase <:+: a ∨ phrase <:+: b := by
  rw [htext, append_assoc]
  exact Text.infix_between hc phrase_ne (fun d hd => Option.some.inj hd ▸ hx) (fun d hd => Option.some.inj hd ▸ hy) a b

end

theorem premise_lead (b : List Char) : phrase <:+: "coverage bounded by docket premise: ".toList ++ b ↔ phrase <:+: b :=
  phrase_behind (show _ = "coverage bounded by docket premise".toList ++ ':' :: " ".toList by decide) (by decide)
    (ownTexts_lack_phrase _ (by simp [ownTexts])) (by decide) b

theorem nonclaim_phrase (sentence : String) : phrase <:+: (nonclaim sentence).toList ↔ phrase <:+: sentence.toList := by
  unfold nonclaim
  rw [String.toList_append]
  exact phrase_behind (show _ = "cannot testify".toList ++ ':' :: " ".toList by decide) (by decide)
    (ownTexts_lack_phrase _ (by simp [ownTexts])) (by decide) _

theorem custodyLimit_phrase (premise : String) : phrase <:+: (custodyLimit premise).toList ↔
    phrase <:+: premise.toList := by
  unfold custodyLimit
  rw [String.toList_append, String.toList_append, append_assoc, premise_lead]
  exact phrase_before (show _ = " ".toList ++ '(' :: "asserted, not verified)".toList by decide) (by decide) (by decide)
    (ownTexts_lack_phrase _ (by simp [ownTexts])) _

theorem settlementLimit_phrase (tag : String) : phrase <:+: (settlementLimit tag).toList ↔ phrase <:+: tag.toList := by
  unfold settlementLimit
  by_cases hknown : tag ∈ knownPremiseTags
  · rw [if_pos hknown]
    simp only [String.toList_append, append_assoc]
    rw [premise_lead]
    have hmark : ∀ d ∈ phrase.getLast?, d ∉ " ".toList :=
      fun d hd => Option.some.inj hd ▸ (show 's' ∉ " ".toList by decide)
    exact Text.infix_before (c := '(') (by decide) phrase_ne hmark
      (ownTexts_lack_phrase "asserted, not verified)" (by simp [ownTexts])) _
  · rw [if_neg hknown]
    simp only [String.toList_append, append_assoc]
    rw [premise_lead]
    have hmark : ∀ d ∈ phrase.getLast?, d ∉ " ".toList :=
      fun d hd => Option.some.inj hd ▸ (show 's' ∉ " ".toList by decide)
    exact Text.infix_before (c := '(') (by decide) phrase_ne hmark
      (ownTexts_lack_phrase "unrecognized; asserted, not verified)" (by simp [ownTexts])) _

/-- The texts of an obligation that its limit holds. -/
def UpstreamResidual.texts (r : UpstreamResidual) : List String := [r.obligationId, r.kind, r.subject, r.statement]

def UpstreamPremise.texts (p : UpstreamPremise) : List String := [p.kind, p.statement]

/-- Some text has the phrase. -/
def HasPhrase (texts : List String) : Prop := ∃ s ∈ texts, phrase <:+: s.toList

variable {a coverage : List String} {coreDigest generatedAt l rawDigest s sourcePath : String} {d : Dossier}
  {i : Issuance} {p : WitnessPacket} (r : UpstreamResidual) (q : Qualification) (source : List UInt8)

theorem hasPhrase_append {b : List String} : HasPhrase (a ++ b) ↔ HasPhrase a ∨ HasPhrase b := by
  unfold HasPhrase
  simp only [mem_append, or_and_right, exists_or]

theorem hasPhrase_singleton : HasPhrase [s] ↔ phrase <:+: s.toList := by
  unfold HasPhrase
  simp only [mem_singleton, exists_eq_left]

theorem hasPhrase_cons : HasPhrase (s :: a) ↔ phrase <:+: s.toList ∨ HasPhrase a := by
  rw [← singleton_append, hasPhrase_append, hasPhrase_singleton]

theorem not_hasPhrase_nil : ¬HasPhrase [] := fun h => by
  obtain ⟨s, hs, _⟩ := h
  exact absurd hs not_mem_nil

/-- Limits that have the phrase where the texts they are made of have it. -/
theorem hasPhrase_map {α : Type} {limit : α → String} {texts : α → List String}
    (h : ∀ a, phrase <:+: (limit a).toList ↔ HasPhrase (texts a)) {rows : List α} :
    HasPhrase (rows.map limit) ↔ HasPhrase (rows.flatMap texts) := by
  induction rows with
  | nil => rfl
  | cons a rest ih => rw [map_cons, flatMap_cons, hasPhrase_cons, hasPhrase_append, h, ih]

theorem UpstreamPremise.limit_phrase (p : UpstreamPremise) : phrase <:+: p.limit.toList ↔ HasPhrase p.texts := by
  unfold UpstreamPremise.limit UpstreamPremise.texts
  simp only [String.toList_append, append_assoc, hasPhrase_cons, not_hasPhrase_nil, or_false]
  rw [phrase_behind (show _ = "coverage bounded by upstream authorization premise".toList ++
    ':' :: " ".toList by decide)
      (by decide) (ownTexts_lack_phrase _ (by simp [ownTexts])) (by decide),
    phrase_between (show _ = " ".toList ++ '—' :: " ".toList by decide) (by decide) (by decide) (by decide)]
  refine or_congr_right (phrase_before (show _ = " ".toList ++ '(' ::
    "asserted by the issuing office; not verified by docket or nq)".toList by decide) (by decide) (by decide)
    (ownTexts_lack_phrase _ (by simp [ownTexts])) _)

theorem UpstreamResidual.limit_phrase : phrase <:+: r.limit.toList ↔ HasPhrase r.texts := by
  unfold UpstreamResidual.limit UpstreamResidual.texts
  simp only [String.toList_append, append_assoc, hasPhrase_cons, not_hasPhrase_nil, or_false]
  -- the lead has no mark of its own: it is cut at the last letter that is not in the phrase
  rw [phrase_behind (show _ = "outstanding upstream residual obligati".toList ++
    'o' :: "n ".toList by decide) (by decide)
      (ownTexts_lack_phrase _ (by simp [ownTexts])) (by decide),
    phrase_between (show _ = " ".toList ++ '(' :: [] by decide) (by decide) (by decide) (by decide),
    phrase_between (show _ = [] ++ ')' :: " on ".toList by decide) (by decide) (by decide) (by decide),
    phrase_between (show _ = [] ++ ':' :: " ".toList by decide) (by decide) (by decide) (by decide)]

theorem Qualification.disagreement_phrase : phrase <:+: q.disagreement.toList := by
  have hlead : phrase <+: "retained evidence disagrees (concordance: ".toList := by decide
  unfold Qualification.disagreement
  rw [String.toList_append, String.toList_append, append_assoc]
  exact (hlead.trans (prefix_append _ _)).isInfix

def Issuance.texts (i : Issuance) : List String :=
  i.upstreamPremises.flatMap UpstreamPremise.texts ++ [i.doesNotEstablish] ++
    if i.upstreamResidualStatus = "present" then i.upstreamResiduals.flatMap UpstreamResidual.texts else []

def Qualification.texts (q : Qualification) : List String := [q.custody, q.doesNotEstablish]

/-- The texts of a dossier that its limits hold. -/
def Dossier.sourceTexts (d : Dossier) : List String :=
  d.identity.settlementPremises ++ d.issuance.elim [] Issuance.texts ++ d.qualification.elim [] Qualification.texts

def Dossier.Disagrees (d : Dossier) : Prop := ∃ q ∈ d.qualification, q.evidenceAgrees = false

theorem Issuance.limits_phrase (i : Issuance) : HasPhrase i.limits ↔ HasPhrase i.texts := by
  have hresiduals : HasPhrase i.residualLimits ↔
      HasPhrase (if i.upstreamResidualStatus = "present" then i.upstreamResiduals.flatMap UpstreamResidual.texts
        else []) := by
    unfold Issuance.residualLimits
    split
    · exact hasPhrase_map UpstreamResidual.limit_phrase
    · refine iff_of_false ?_ not_hasPhrase_nil
      split
      · exact fun h => absurd (hasPhrase_singleton.mp h) (ownTexts_lack_phrase _ (by simp [ownTexts]))
      · exact fun h => absurd (hasPhrase_singleton.mp h) (ownTexts_lack_phrase _ (by simp [ownTexts]))
  unfold Issuance.limits Issuance.texts
  rw [hasPhrase_append, hasPhrase_append, hasPhrase_append, hasPhrase_append,
    hasPhrase_map UpstreamPremise.limit_phrase, hresiduals, hasPhrase_singleton, hasPhrase_singleton, nonclaim_phrase]

theorem Qualification.limits_phrase : HasPhrase q.limits ↔ q.evidenceAgrees = false ∨ HasPhrase q.texts := by
  unfold Qualification.limits Qualification.texts
  rw [hasPhrase_append, hasPhrase_cons, hasPhrase_singleton, custodyLimit_phrase, nonclaim_phrase, hasPhrase_cons,
    hasPhrase_singleton, or_comm]
  refine or_congr_left ?_
  cases q.evidenceAgrees with
  | true => simp [not_hasPhrase_nil]
  | false => simp [hasPhrase_singleton, q.disagreement_phrase]

theorem fixed_lack_phrase : ¬HasPhrase fixedCoverageLimits := by
  have hlack : ∀ s ∈ fixedCoverageLimits, ¬phrase <:+: s.toList :=
    fun s hs => ownTexts_lack_phrase s (mem_append_right _ hs)
  intro h
  obtain ⟨s, hs, hphrase⟩ := h
  exact hlack s hs hphrase

/-- The limits have the phrase where evidence disagrees, and where the source has it. -/
theorem mem_limits_phrase (d : Dossier) : HasPhrase (fixedCoverageLimits ++ d.limits) ↔
    d.Disagrees ∨ HasPhrase d.sourceTexts := by
  have hsettlement : HasPhrase (d.identity.settlementPremises.map settlementLimit) ↔
      HasPhrase d.identity.settlementPremises := by
    have h : HasPhrase (d.identity.settlementPremises.map settlementLimit) ↔
        HasPhrase (d.identity.settlementPremises.flatMap fun tag => [tag]) :=
      hasPhrase_map fun tag => (settlementLimit_phrase tag).trans hasPhrase_singleton.symm
    rwa [flatMap_singleton'] at h
  have hissuance : HasPhrase (d.issuance.elim [] Issuance.limits) ↔ HasPhrase (d.issuance.elim [] Issuance.texts) := by
    cases d.issuance with
    | none => rfl
    | some i => exact i.limits_phrase
  have hqualification : HasPhrase (d.qualification.elim [] Qualification.limits) ↔
      d.Disagrees ∨ HasPhrase (d.qualification.elim [] Qualification.texts) := by
    unfold Dossier.Disagrees
    cases d.qualification with
    | none => simp [not_hasPhrase_nil]
    | some q => simpa using q.limits_phrase
  unfold Dossier.limits Dossier.sourceTexts
  rw [hasPhrase_append, hasPhrase_append, hasPhrase_append, hasPhrase_append, hasPhrase_append,
    hsettlement, hissuance, hqualification]
  simp only [fixed_lack_phrase, false_or]
  exact or_left_comm

/-! ## What is kept -/

/-- No premise, nonclaim, obligation or disagreement of a dossier is lost in its packet, and the receipt has no
    disagreement that the dossier has not. -/
structure Kept (d : Dossier) (p : WitnessPacket) (status : Option ProjectionContradictionStatus) : Prop where
  settlement : ∀ tag ∈ d.identity.settlementPremises, settlementLimit tag ∈ p.coverageLimits
  upstream : ∀ i ∈ d.issuance, ∀ premise ∈ i.upstreamPremises, premise.limit ∈ p.coverageLimits
  custody : ∀ q ∈ d.qualification, q.custody ≠ "" ∧ custodyLimit q.custody ∈ p.coverageLimits
  nonclaims : (∀ i ∈ d.issuance, nonclaim i.doesNotEstablish ∈ p.coverageLimits) ∧
    ∀ q ∈ d.qualification, nonclaim q.doesNotEstablish ∈ p.coverageLimits
  residuals : ∀ i ∈ d.issuance, ∀ r ∈ i.upstreamResiduals, r.limit ∈ p.coverageLimits
  undischarged : ∀ i ∈ d.issuance, ∀ r ∈ i.upstreamResiduals, r.discharged = false
  obligations : p.observations.filter (fun o => typeOf o = some "docket_residual_obligation") =
    d.observation.residualObligations.map ResidualObligation.toJson
  carried : ∀ o ∈ p.observations, typeOf o = some "docket_residual_obligation" → o.get "discharged" = some (.bool false)
  contradiction : status = some .retained ↔ d.Disagrees

/-- Every obligation of the issuance is listed under the status that has them read. -/
def Dossier.ResidualsRead (d : Dossier) : Prop :=
  ∀ i ∈ d.issuance, i.upstreamResidualStatus = "present" ∨ i.upstreamResiduals = []

/-- No text of the source is mistaken for a disagreement. -/
def Dossier.Unmistaken (d : Dossier) : Prop := d.Disagrees ∨ ¬HasPhrase d.sourceTexts

theorem mem_packet_limits {codec : Codec} :
    l ∈ (packetOf codec d sourcePath rawDigest coreDigest generatedAt coverage).coverageLimits ↔
      l ∈ fixedCoverageLimits ++ coverage :=
  Collections.mem_sortDedup

/-- The obligations of the packet are those of the dossier, each once. -/
theorem residualObligations_eq (d : Dossier) (rawDigest coreDigest : String) :
    (observationsOf d rawDigest coreDigest).filter (fun o => typeOf o = some "docket_residual_obligation") =
      d.observation.residualObligations.map ResidualObligation.toJson := by
  have hother : ∀ {os : List Json}, (∀ o ∈ os, ∃ type, typeOf o = some type ∧ type ≠ "docket_residual_obligation") →
      os.filter (fun o => typeOf o = some "docket_residual_obligation") = [] := by
    intro os h
    refine filter_eq_nil_iff.mpr fun o ho => ?_
    obtain ⟨type, htype, hne⟩ := h o ho
    rw [htype]
    exact fun e => hne (Option.some.inj (of_decide_eq_true e))
  have hown : (d.observation.residualObligations.map ResidualObligation.toJson).filter
      (fun o => typeOf o = some "docket_residual_obligation") =
        d.observation.residualObligations.map ResidualObligation.toJson := by
    refine filter_eq_self.mpr fun o ho => ?_
    obtain ⟨r, _, rfl⟩ := List.mem_map.mp ho
    exact decide_eq_true (typeOf_residualObligation r)
  unfold observationsOf
  simp only [filter_append, hown]
  rw [hother, hother, hother, hother, hother, hother, hother]
  · simp
  · intro o ho
    obtain ⟨r, _, rfl⟩ := Option.map_eq_some_iff.mp (Option.mem_toList.mp ho)
    exact ⟨_, typeOf_reconciliation r, by decide⟩
  · intro o ho
    obtain ⟨r, _, rfl⟩ := List.mem_map.mp ho
    exact ⟨_, typeOf_relianceRefusal r, by decide⟩
  · intro o ho
    obtain ⟨a, _, rfl⟩ := List.mem_map.mp ho
    exact ⟨_, typeOf_relianceAdmission a, by decide⟩
  · intro o ho
    obtain ⟨r, _, rfl⟩ := List.mem_map.mp ho
    exact ⟨_, typeOf_observationRecord r, by decide⟩
  · intro o ho
    simp only [mem_cons, not_mem_nil, or_false] at ho
    rcases ho with rfl | rfl | rfl
    · exact ⟨_, (attemptCore_fields d).1, by decide⟩
    · exact ⟨_, typeOf_authority _, by decide⟩
    · exact ⟨_, typeOf_settlementEvidence, by decide⟩
  · intro o ho
    obtain ⟨a, _, rfl⟩ := Option.map_eq_some_iff.mp (Option.mem_toList.mp ho)
    exact ⟨_, typeOf_authorization a, by decide⟩
  · intro o ho
    rw [mem_singleton.mp ho]
    exact ⟨_, typeOf_sourceIdentity, by decide⟩

theorem ResidualObligation.undischarged (r : ResidualObligation) : r.toJson.get "discharged" = some (.bool false) := by
  unfold ResidualObligation.toJson
  rw [get_json (by simp)]
  simp [Json.field]

/-- The limit begins as those of upstream obligations do. -/
def Outstanding (l : String) : Prop := "outstanding".toList <+: l.toList

instance (l : String) : Decidable (Outstanding l) := inferInstanceAs (Decidable (_ <+: _))

theorem UpstreamResidual.outstanding : Outstanding r.limit := by
  have hlead : Outstanding "outstanding upstream residual obligation " := by decide
  unfold UpstreamResidual.limit
  simp only [String.append_assoc]
  rw [Outstanding, String.toList_append]
  exact hlead.trans (prefix_append _ _)

theorem not_outstanding {lead : String} (h : ∃ c rest, lead.toList = c :: rest ∧ c ≠ 'o')
    (text : String) : ¬Outstanding (lead ++ text) := by
  obtain ⟨c, rest, hlead, hc⟩ := h
  intro hout
  rw [Outstanding, String.toList_append, hlead] at hout
  exact hc (cons_prefix_cons.mp hout).1.symm

/-- Under another status no limit is an obligation's. -/
theorem residual_unlisted (hi : d.issuance = some i) (hstatus : i.upstreamResidualStatus ≠ "present")
    (r : UpstreamResidual) : r.limit ∉ fixedCoverageLimits ++ d.limits := by
  have hfixed : ∀ l ∈ fixedCoverageLimits, ¬Outstanding l := by
    have hall : fixedCoverageLimits.all (fun l => !"outstanding".toList.isPrefixOf l.toList) = true := by
      unfold fixedCoverageLimits
      simp (disch := exact rfl) only [all_cons, all_nil, String.toList_append, Text.toList_lit]
      decide
    intro l hl hout
    have hl := all_eq_true.mp hall l hl
    rw [List.isPrefixOf_iff_prefix.mpr hout] at hl
    cases hl
  have hpremise : ∀ text, ¬Outstanding ("coverage bounded by docket premise: " ++ text) :=
    not_outstanding ⟨'c', _, rfl, by decide⟩
  have hnonclaim : ∀ sentence, ¬Outstanding (nonclaim sentence) := not_outstanding ⟨'c', _, rfl, by decide⟩
  have hissuance : ∀ l ∈ i.limits, ¬Outstanding l := by
    intro l hl
    unfold Issuance.limits Issuance.residualLimits at hl
    rw [if_neg hstatus] at hl
    simp only [mem_append, List.mem_map, mem_singleton] at hl
    rcases hl with (⟨p, _, rfl⟩ | rfl) | hl
    · unfold UpstreamPremise.limit
      simp only [String.append_assoc]
      exact not_outstanding ⟨'c', _, rfl, by decide⟩ _
    · exact hnonclaim _
    · split at hl
      · rw [mem_singleton.mp hl]
        exact not_outstanding ⟨'u', _, rfl, by decide⟩ _
      · rw [mem_singleton.mp hl, Outstanding]
        simp (disch := exact rfl) only [Text.toList_lit]
        decide
  have hqualification : ∀ q ∈ d.qualification, ∀ l ∈ q.limits, ¬Outstanding l := by
    intro q _ l hl
    unfold Qualification.limits at hl
    simp only [mem_append, mem_cons, not_mem_nil, or_false] at hl
    rcases hl with (rfl | rfl) | hl
    · unfold custodyLimit
      rw [String.append_assoc]
      exact hpremise _
    · exact hnonclaim _
    · split at hl
      · exact absurd hl not_mem_nil
      · rw [mem_singleton.mp hl]
        unfold Qualification.disagreement
        rw [String.append_assoc]
        exact not_outstanding ⟨'r', _, rfl, by decide⟩ _
  intro hmem
  rcases mem_append.mp hmem with h | h
  · exact hfixed _ h r.outstanding
  · unfold Dossier.limits at h
    rw [hi] at h
    rcases mem_append.mp h with h | h
    · rcases mem_append.mp h with h | h
      · obtain ⟨tag, _, e⟩ := List.mem_map.mp h
        have hout : Outstanding (settlementLimit tag) := e ▸ r.outstanding
        unfold settlementLimit at hout
        simp only [String.append_assoc] at hout
        exact hpremise _ hout
      · exact hissuance _ h r.outstanding
    · cases hq : d.qualification with
      | none =>
        rw [hq] at h
        exact absurd h not_mem_nil
      | some q =>
        rw [hq] at h
        exact hqualification q hq _ h r.outstanding

theorem Issuance.limits_mem (hi : i ∈ d.issuance) (h : l ∈ i.limits) : l ∈ d.limits := by
  have hi : d.issuance = some i := hi
  unfold Dossier.limits
  rw [hi]
  exact mem_append_left _ (mem_append_right _ h)

theorem Qualification.limits_mem {q : Qualification} (hq : q ∈ d.qualification) (h : l ∈ q.limits) : l ∈ d.limits := by
  have hq : d.qualification = some q := hq
  unfold Dossier.limits
  rw [hq]
  exact mem_append_right _ h

theorem contradictionStatus_packetOf {codec : Codec} : (docket source).contradictionStatus
      (packetOf codec d sourcePath rawDigest coreDigest generatedAt coverage) = some .retained ↔
        HasPhrase (fixedCoverageLimits ++ coverage) := by
  have hany : ((packetOf codec d sourcePath rawDigest coreDigest generatedAt coverage).coverageLimits.any
      (Text.contains · "retained evidence disagrees")) = true ↔ HasPhrase (fixedCoverageLimits ++ coverage) := by
    rw [any_eq_true]
    exact exists_congr fun l => and_congr mem_packet_limits decide_eq_true_iff
  rw [← hany]
  show (if _ then _ else _) = _ ↔ _
  split
  · exact iff_of_true rfl ‹_›
  · exact iff_of_false nofun ‹_›

/-- A packet reads as a disagreement where evidence disagrees, and where a text of the source has the phrase. -/
theorem packet_contradiction_iff {codec : Codec}
    (h : buildPacket codec d sourcePath rawDigest coreDigest generatedAt = .ok p) :
    (docket source).contradictionStatus p = some .retained ↔ d.Disagrees ∨ HasPhrase d.sourceTexts := by
  obtain ⟨coverage, hcoverage, _, rfl⟩ := buildPacket_ok.mp h
  obtain ⟨rfl, _, _⟩ := premiseCoverage_ok hcoverage
  exact (contradictionStatus_packetOf source).trans (mem_limits_phrase d)

/-- A packet keeps what its dossier says exactly where every obligation is read and no text is mistaken. -/
theorem packet_kept_iff {codec : Codec} (h : buildPacket codec d sourcePath rawDigest coreDigest generatedAt = .ok p) :
    Kept d p ((docket source).contradictionStatus p) ↔ d.ResidualsRead ∧ d.Unmistaken := by
  have hstatus := packet_contradiction_iff source h
  obtain ⟨coverage, hcoverage, _, rfl⟩ := buildPacket_ok.mp h
  obtain ⟨rfl, hcustody, hdischarged⟩ := premiseCoverage_ok hcoverage
  have hlimit : ∀ {l : String}, l ∈ d.limits →
      l ∈ (packetOf codec d sourcePath rawDigest coreDigest generatedAt d.limits).coverageLimits :=
    fun hl => mem_packet_limits.mpr (mem_append_right _ hl)
  constructor
  · intro hkept
    constructor
    · intro i hi
      by_cases hpresent : i.upstreamResidualStatus = "present"
      · exact .inl hpresent
      · refine .inr (eq_nil_iff_forall_not_mem.mpr fun r hr => ?_)
        exact residual_unlisted hi hpresent r (mem_packet_limits.mp (hkept.residuals i hi r hr))
    · by_cases hdisagrees : d.Disagrees
      · exact .inl hdisagrees
      · exact .inr fun htext => hdisagrees (hkept.contradiction.mp (hstatus.mpr (.inr htext)))
  · intro hcond
    obtain ⟨hread, hunmistaken⟩ := hcond
    refine ⟨fun tag htag => ?_, fun i hi premise hpremise => ?_, fun q hq =>
      ⟨hcustody q hq, ?_⟩, ⟨fun i hi => ?_, fun q hq => ?_⟩,
      fun i hi r hr => ?_, fun i hi r hr => ?_, residualObligations_eq d _ _, fun o ho htype => ?_, ?_⟩
    · exact hlimit (mem_append_left _ (mem_append_left _ (mem_map_of_mem htag)))
    · exact hlimit (Issuance.limits_mem hi (mem_append_left _ (mem_append_left _ (mem_map_of_mem hpremise))))
    · exact hlimit (Qualification.limits_mem hq (mem_append_left _ mem_cons_self))
    · exact hlimit (Issuance.limits_mem hi (mem_append_left _ (mem_append_right _ mem_cons_self)))
    · exact hlimit (Qualification.limits_mem hq (mem_append_left _ (mem_cons_of_mem _ mem_cons_self)))
    · have hpresent : i.upstreamResidualStatus = "present" := (hread i hi).resolve_right (ne_nil_of_mem hr)
      refine hlimit (Issuance.limits_mem hi (mem_append_right _ ?_))
      unfold Issuance.residualLimits
      rw [if_pos hpresent]
      exact mem_map_of_mem hr
    · exact hdischarged i hi ((hread i hi).resolve_right (ne_nil_of_mem hr)) r hr
    · have hmem : o ∈ (observationsOf d rawDigest coreDigest).filter fun o =>
          typeOf o = some "docket_residual_obligation" :=
        mem_filter.mpr ⟨ho, decide_eq_true htype⟩
      rw [residualObligations_eq] at hmem
      obtain ⟨r, _, rfl⟩ := List.mem_map.mp hmem
      exact r.undischarged
    · rw [hstatus]
      exact or_iff_left_of_imp fun htext => hunmistaken.resolve_right (not_not_intro htext)

end Docket

end Nq.Projection
