/-
  Nq.Declarations.Hygiene — findings about the declarations themselves
  (`declarations.rs`, `run_hygiene`): a file or an entry that was rejected, a declaration
  past its expiry, a persistent one without a review date, and a withdrawn host that is
  still observed.

  - `nodup_valid`: the loader accepts an id at most once.
-/

import Nq.Declarations.Declaration
import Nq.Detect.Views

namespace Nq

open List

def unreadableFinding (subject : String) : Finding :=
  { host := "", domain := "Δo", kind := "declarations_file_unreadable", subject, findingClass := "meta"
    stateKind := .informational, diagnosis := some ⟨.unspecified, .noneCurrent, .investigateBusinessHours⟩ }

def expiredFinding (d : Declaration) : Finding :=
  { host := "", domain := "Δo", kind := "declaration_expired", subject := d.declarationId, findingClass := "meta"
    stateKind := .informational, diagnosis := some ⟨.unspecified, .noneCurrent, .investigateBusinessHours⟩ }

def persistentNoReviewFinding (d : Declaration) : Finding :=
  { host := "", domain := "Δo", kind := "persistent_declaration_without_review", subject := d.declarationId
    findingClass := "meta"
    stateKind := .informational, diagnosis := some ⟨.unspecified, .noneCurrent, .investigateBusinessHours⟩ }

def withdrawnActiveFinding (arith : Arith) (d : Declaration) (observationCount : Nat) : Finding :=
  { host := d.subjectId, domain := "Δo", kind := "withdrawn_subject_active", subject := d.declarationId
    value := some (arith.ofInt observationCount), findingClass := "meta"
    stateKind := .informational, diagnosis := some ⟨.drift, .noneCurrent, .investigateBusinessHours⟩ }

/-- `SELECT COUNT(*) FROM finding_observations WHERE host = ?1 AND observed_at >= ?2`. -/
def Db.observationsSince (db : Db) (host since : String) : Nat :=
  (db.findingObservations.rows.filter fun o => o.host = host ∧ since ≤ o.observedAt).length

section

variable (rfc3339 : String → Except String Int) (arith : Arith) (db : Db) (now : Int)

def Declaration.isExpired (d : Declaration) : Bool :=
  d.expiresAt.any fun s => match rfc3339 s with
    | .ok exp => exp ≤ now
    | .error _ => false

/-- The findings about one accepted declaration. -/
def declarationHygiene (d : Declaration) : List Finding :=
  if d.revokedAt.isSome then []
  else
    (if d.isExpired rfc3339 now then [expiredFinding d] else []) ++
    (if d.durability = .persistent ∧ d.reviewAfter = none then [persistentNoReviewFinding d] else []) ++
    if d.subjectKind = .host ∧ d.mode = .withdrawn ∧ db.observationsSince d.subjectId d.declaredAt > 0 then
      [withdrawnActiveFinding arith d (db.observationsSince d.subjectId d.declaredAt)]
    else []

def InvalidDeclaration.subject (i : InvalidDeclaration) : String := i.declarationId.getD "<unidentified>"

/-- The entries that were rejected, and the file if it was. -/
def LoadOutcome.rejected : LoadOutcome → List String
  | .disabled | .missing => []
  | .unreadable path _ => [path]
  | .loaded _ invalid => invalid.map InvalidDeclaration.subject

def LoadOutcome.valid : LoadOutcome → List Declaration
  | .loaded valid _ => valid
  | _ => []

def runHygiene (outcome : LoadOutcome) : List Finding :=
  outcome.rejected.map unreadableFinding ++ outcome.valid.flatMap (declarationHygiene rfc3339 arith db now)

end

/-! ## Ids -/

variable {rfc3339 : String → Except String Int}

theorem sortDeclarations_valid {ds : List Declaration} : ∀ {seen : List String},
    (((sortDeclarations rfc3339 seen ds).1).map Declaration.declarationId).Nodup ∧
      ∀ d ∈ (sortDeclarations rfc3339 seen ds).1, d.declarationId ∉ seen := by
  induction ds with
  | nil => intro seen; exact ⟨nodup_nil, fun d hd => (nomatch hd)⟩
  | cons d ds ih =>
    intro seen
    by_cases hd : d.declarationId ∈ seen
    · simp only [sortDeclarations, hd, if_true]
      exact ih
    · simp only [sortDeclarations, hd, if_false]
      obtain ⟨hn, hseen⟩ := @ih (d.declarationId :: seen)
      have hrest : ∀ d' ∈ (sortDeclarations rfc3339 (d.declarationId :: seen) ds).1, d'.declarationId ∉ seen :=
        fun d' hd' hs => hseen d' hd' (mem_cons_of_mem _ hs)
      cases validate rfc3339 d with
      | error reason => exact ⟨hn, hrest⟩
      | ok _ =>
        refine ⟨?_, ?_⟩
        · rw [map_cons, nodup_cons]
          refine ⟨?_, hn⟩
          intro hmem
          obtain ⟨d', hd', he⟩ := List.mem_map.mp hmem
          exact hseen d' hd' (he ▸ mem_cons_self)
        · intro d' hd'
          rcases mem_cons.mp hd' with rfl | hd'
          · exact hd
          · exact hrest d' hd'

theorem nodup_valid (file : FileRead) :
    (((loadDeclarations rfc3339 file).valid).map Declaration.declarationId).Nodup := by
  cases file with
  | parsed ds => exact sortDeclarations_valid.1
  | _ => exact nodup_nil

end Nq
