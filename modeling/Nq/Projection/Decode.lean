/-
  Nq.Projection.Decode — derived `Deserialize` over `serde_json::Value`, and `json!`.

  A closed struct (`deny_unknown_fields`) is read from an object or, by position, from an array.
  A missing field is an error unless its type is an `Option`; by position also an `Option` is
  required, unless the field has a `default`.

  An object that `json!` builds has its fields in the order of their keys, and each field it
  was given (`get_json`).

  Two values agree up to their numbers (`Agree`): the same shape, the same texts, the same members
  under the same keys, and numbers that are related. With numbers of one value this is equality of
  JSON; with doubles for doubles it is what a value is after it was printed and read again.
  What is looked up in one is looked up in the other (`Agree.get`, `Agree.texts`).
-/

import Nq.Receipts.Witness

namespace Nq.Projection

open Receipts (Json Number)

/-! ## Scalars -/

def decodeString : Json → Option String
  | .string s => some s
  | _ => none

def decodeBool : Json → Option Bool
  | .bool b => some b
  | _ => none

def decodeU64 : Json → Option Nat
  | .number (.int n) => if 0 ≤ n ∧ n < 2 ^ 64 then some n.toNat else none
  | _ => none

def decodeI64 : Json → Option Int
  | .number (.int n) => if -2 ^ 63 ≤ n ∧ n < 2 ^ 63 then some n else none
  | _ => none

def decodeVec {α : Type} (decode : Json → Option α) : Json → Option (List α)
  | .array items => items.mapM decode
  | _ => none

def decodeOption {α : Type} (decode : Json → Option α) : Json → Option (Option α)
  | .null => some none
  | v => (decode v).map some

/-! ## Structs -/

/-- The fields of a struct as they are given, by name or by position. -/
structure Fields where
  positional : Bool
  fields : List (String × Json)

/-- `deny_unknown_fields`: the names are those of the struct, in its order. -/
def fieldsOf (names : List String) : Json → Option Fields
  | .object fields => if fields.all (·.1 ∈ names) then some ⟨false, fields⟩ else none
  | .array items => if items.length ≤ names.length then some ⟨true, names.zip items⟩ else none
  | _ => none

namespace Fields

variable {α : Type}

def required (v : Fields) (name : String) (decode : Json → Option α) : Option α :=
  (Json.field v.fields name).bind decode

def optional (v : Fields) (name : String) (decode : Json → Option α) : Option (Option α) :=
  match Json.field v.fields name with
  | some j => decodeOption decode j
  | none => if v.positional then none else some none

/-- `#[serde(default)]` -/
def defaulted (v : Fields) (name : String) (decode : Json → Option α) : Option (Option α) :=
  match Json.field v.fields name with
  | some j => decodeOption decode j
  | none => some none

end Fields

/-! ## Values -/

/-- `json!` of an object. -/
def json (fields : List (String × Json)) : Json := .object (fields.insertionSort fun a b => a.1 ≤ b.1)

def jsonNat (n : Nat) : Json := .number (.int n)
def jsonOption {α : Type} (f : α → Json) (o : Option α) : Json := (o.map f).getD .null
def jsonArray {α : Type} (f : α → Json) (items : List α) : Json := .array (items.map f)

variable {fields : List (String × Json)}

theorem field_eq_some (hn : (fields.map Prod.fst).Nodup) {key : String} {v : Json} :
    Json.field fields key = some v ↔ (key, v) ∈ fields := by
  unfold Json.field
  rw [Option.map_eq_some_iff]
  constructor
  · rintro ⟨p, hp, rfl⟩
    have hkey : p.1 = key := by simpa using List.find?_some hp
    exact hkey ▸ List.mem_of_find?_eq_some hp
  · intro h
    cases hp : fields.find? (·.1 = key) with
    | none => exact absurd (List.find?_eq_none.mp hp _ h) (by simp)
    | some p =>
      have hkey : p.1 = key := by simpa using List.find?_some hp
      have e : p = (key, v) := List.inj_on_of_nodup_map hn (List.mem_of_find?_eq_some hp) h hkey
      exact ⟨p, rfl, by rw [e]⟩

theorem field_perm {fields' : List (String × Json)} (h : fields.Perm fields') (hn : (fields.map Prod.fst).Nodup)
    (key : String) : Json.field fields key = Json.field fields' key := by
  have hn' : (fields'.map Prod.fst).Nodup := (h.map Prod.fst).nodup_iff.mp hn
  have hsome : ∀ v, Json.field fields key = some v ↔ Json.field fields' key = some v := fun v => by
    rw [field_eq_some hn, field_eq_some hn']
    exact h.mem_iff
  exact Option.ext hsome

/-- A field of an object that `json!` builds. -/
theorem get_json (hn : (fields.map Prod.fst).Nodup) (key : String) : (json fields).get key = Json.field fields key :=
  (field_perm (List.perm_insertionSort _ fields).symm hn key).symm

end Nq.Projection

/-! ## Values that agree -/

namespace Nq.Projection

open Receipts (Json Number WitnessPacket WitnessPosition)

inductive Agree (N : Number → Number → Prop) : Json → Json → Prop
  | null : Agree N .null .null
  | bool (b : Bool) : Agree N (.bool b) (.bool b)
  | number {n m : Number} : N n m → Agree N (.number n) (.number m)
  | string (s : String) : Agree N (.string s) (.string s)
  | array {xs ys : List Json} : xs.length = ys.length → (∀ (i : Nat) (x y : Json), xs[i]? = some x → ys[i]? = some y →
      Agree N x y) → Agree N (.array xs) (.array ys)
  | object {xs ys : List (String × Json)} : (∀ key, (Json.field xs key).isSome = (Json.field ys key).isSome) →
      (∀ key x y, Json.field xs key = some x → Json.field ys key = some y → Agree N x y) →
        Agree N (.object xs) (.object ys)

/-- What is read where a number was printed: an integer as it was, and a double for a double. -/
def Number.Reread (n m : Number) : Prop :=
  match n, m with
  | .int a, .int b => a = b
  | .float _, .float _ => True
  | _, _ => False

abbrev Rereads : Json → Json → Prop := Agree Number.Reread

namespace Agree

variable {N : Number → Number → Prop} {v w : Json}

theorem get (h : Agree N v w) (key : String) :
    (v.get key = none ∧ w.get key = none) ∨ ∃ x y, v.get key = some x ∧ w.get key = some y ∧ Agree N x y := by
  cases h with
  | @object xs ys hkeys hvals =>
    show (Json.field xs key = none ∧ Json.field ys key = none) ∨
      ∃ x y, Json.field xs key = some x ∧ Json.field ys key = some y ∧ _
    have hsome := hkeys key
    cases hx : Json.field xs key with
    | none =>
      rw [hx] at hsome
      exact Or.inl ⟨rfl, Option.isSome_eq_false_iff.mp hsome.symm |> Option.isNone_iff_eq_none.mp⟩
    | some x =>
      rw [hx] at hsome
      obtain ⟨y, hy⟩ := Option.isSome_iff_exists.mp hsome.symm
      exact Or.inr ⟨x, y, rfl, hy, hvals key x y hx hy⟩
  | null => exact Or.inl ⟨rfl, rfl⟩
  | bool b => exact Or.inl ⟨rfl, rfl⟩
  | number _ => exact Or.inl ⟨rfl, rfl⟩
  | string s => exact Or.inl ⟨rfl, rfl⟩
  | array _ _ => exact Or.inl ⟨rfl, rfl⟩

theorem asStr (h : Agree N v w) : v.asStr = w.asStr := by cases h <;> rfl

/-- A text under a key. -/
theorem texts (h : Agree N v w) (key : String) : (v.get key).bind Json.asStr = (w.get key).bind Json.asStr := by
  rcases h.get key with ⟨hv, hw⟩ | ⟨x, y, hv, hw, hxy⟩
  · rw [hv, hw]
  · rw [hv, hw]
    exact hxy.asStr

theorem find? {p : Json → Bool} (hp : ∀ x y, Agree N x y → p x = p y) :
    ∀ {xs ys : List Json}, List.Forall₂ (Agree N) xs ys →
    (xs.find? p = none ∧ ys.find? p = none) ∨ ∃ x y, xs.find? p = some x ∧ ys.find? p = some y ∧ Agree N x y := by
  intro xs ys h
  induction h with
  | nil => exact Or.inl ⟨rfl, rfl⟩
  | @cons x y xs ys hxy _ ih =>
    rw [List.find?_cons, List.find?_cons, ← hp x y hxy]
    cases p x with
    | true => exact Or.inr ⟨x, y, rfl, rfl, hxy⟩
    | false => exact ih

theorem items {xs ys : List Json} (hlen : xs.length = ys.length)
    (h : ∀ (i : Nat) (x y : Json), xs[i]? = some x → ys[i]? = some y → Agree N x y) : List.Forall₂ (Agree N) xs ys := by
  induction xs generalizing ys with
  | nil =>
    cases ys with
    | nil => exact .nil
    | cons _ _ => cases hlen
  | cons x xs ih =>
    cases ys with
    | nil => cases hlen
    | cons y ys =>
      have hrest : ∀ (i : Nat) (a b : Json), xs[i]? = some a → ys[i]? = some b → Agree N a b :=
        fun i a b ha hb => h (i + 1) a b ha hb
      exact .cons (h 0 x y rfl rfl) (ih (Nat.succ.inj hlen) hrest)

end Agree

/-- `serde_json::to_value` of a packet. -/
def packetValue (p : WitnessPacket) : Json :=
  json ([("schema", .string p.schema), ("witness_type", .string p.witnessType), ("subject", .string p.subject),
    ("access_path", .string p.accessPath), ("observed_at", .string p.observedAt),
      ("generated_at", .string p.generatedAt),
    ("observations", .array p.observations), ("coverage_limits", jsonArray .string p.coverageLimits),
    ("dependencies", jsonArray .string p.dependencies)] ++
    (p.custodyBasis.map fun s => ("custody_basis", Json.string s)).toList ++
    (p.sourceFindingRef.map fun s => ("source_finding_ref", Json.string s)).toList ++
    (if p.projectionLimits.isEmpty then [] else [("projection_limits", jsonArray .string p.projectionLimits)]) ++
    (p.position.map fun q => ("position", Json.string q.asStr)).toList)

theorem packetValue_observations (p : WitnessPacket) :
    (packetValue p).get "observations" = some (.array p.observations) := by
  unfold packetValue
  rw [get_json]
  · simp [Json.field]
  · cases p.custodyBasis <;> cases p.sourceFindingRef <;> cases p.position <;>
      by_cases h : p.projectionLimits.isEmpty <;> simp [h]

end Nq.Projection
