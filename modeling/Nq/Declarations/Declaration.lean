/-
  Nq.Declarations.Declaration — operator-declared intent (`nq-db/src/declarations.rs`):
  the declarations file, its validation, and the declarations in force.

  Reading the file and parsing its JSON and its timestamps is not modelled: a cycle
  starts from what the read gave (`FileRead`), and RFC3339 parsing is the parameter
  `rfc3339` (the instant, or the parser's error text).
-/

import Nq.Db.Schema

namespace Nq

inductive SubjectKind where
  | host
  deriving DecidableEq, Repr

inductive Mode where
  | quiesced | withdrawn
  deriving DecidableEq, Repr

inductive Durability where
  | transient | persistent
  deriving DecidableEq, Repr

structure Declaration where
  declarationId : String
  subjectKind : SubjectKind
  subjectId : String
  mode : Mode
  durability : Durability
  reasonClass : String
  declaredBy : String
  declaredAt : String
  expiresAt : Option String := none
  reviewAfter : Option String := none
  evidenceRefs : List String
  revokedAt : Option String := none
  deriving DecidableEq, Repr

/-- What reading the configured path gave. -/
inductive FileRead where
  | notConfigured
  | notFound
  | readFailed (path reason : String)
  | parseFailed (path reason : String)
  | parsed (declarations : List Declaration)

structure InvalidDeclaration where
  declarationId : Option String
  reason : String
  deriving DecidableEq, Repr

inductive LoadOutcome where
  | disabled
  | missing
  | unreadable (path reason : String)
  | loaded (valid : List Declaration) (invalid : List InvalidDeclaration)

variable (rfc3339 : String → Except String Int)

/-- The hard invariants of one declaration, first failure wins. -/
def validate (d : Declaration) : Except String Unit := do
  if d.declarationId = "" then throw "declaration_id is empty"
  if d.subjectId = "" then throw "subject_id is empty"
  if d.reasonClass = "" then throw "reason_class is empty"
  if d.declaredBy = "" then throw "declared_by is empty"
  if d.evidenceRefs = [] then throw "evidence_refs must contain at least one entry"
  let declaredAt ← (rfc3339 d.declaredAt).mapError ("declared_at invalid RFC3339: " ++ ·)
  if let some s := d.expiresAt then
    let exp ← (rfc3339 s).mapError ("expires_at invalid RFC3339: " ++ ·)
    if exp ≤ declaredAt then throw "expires_at must be after declared_at"
  if let some s := d.reviewAfter then
    let _ ← (rfc3339 s).mapError ("review_after invalid RFC3339: " ++ ·)
  if let some s := d.revokedAt then
    let _ ← (rfc3339 s).mapError ("revoked_at invalid RFC3339: " ++ ·)

/-- The loader's loop: an id seen before is a duplicate, whether or not its first
    entry was valid. -/
def sortDeclarations : List String → List Declaration → List Declaration × List InvalidDeclaration
  | _, [] => ([], [])
  | seen, d :: ds =>
    if d.declarationId ∈ seen then
      let rest := sortDeclarations seen ds
      (rest.1, ⟨some d.declarationId, "duplicate declaration_id"⟩ :: rest.2)
    else
      let rest := sortDeclarations (d.declarationId :: seen) ds
      match validate rfc3339 d with
      | .ok () => (d :: rest.1, rest.2)
      | .error reason => (rest.1, ⟨some d.declarationId, reason⟩ :: rest.2)

def loadDeclarations : FileRead → LoadOutcome
  | .notConfigured => .disabled
  | .notFound => .missing
  | .readFailed path reason => .unreadable path ("read failed: " ++ reason)
  | .parseFailed path reason => .unreadable path ("parse failed: " ++ reason)
  | .parsed ds => let r := sortDeclarations rfc3339 [] ds; .loaded r.1 r.2

def isActive (d : Declaration) (now : Int) : Bool :=
  d.revokedAt.isNone &&
    match d.expiresAt with
    | some s => match rfc3339 s with
      | .ok t => !(t ≤ now)
      | .error _ => true
    | none => true

def activeDeclarations (outcome : LoadOutcome) (now : Int) : List Declaration :=
  match outcome with
  | .loaded valid _ => valid.filter (isActive rfc3339 · now)
  | _ => []

/-- The declarations the suppression overlay acts on: a host, withdrawn. -/
def Declaration.withdraws (d : Declaration) (host : String) : Bool :=
  d.subjectKind = .host && d.mode = .withdrawn && d.subjectId = host

end Nq
