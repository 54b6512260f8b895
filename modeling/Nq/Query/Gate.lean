/-
  Nq.Query.Gate — the two hand-written SQL gates: the one of the read-only query surface
  (`nq-db/src/query.rs`, `query_read_only`) and the one of saved checks
  (`nq-db/src/detect.rs`, `run_check_query`), and the saved-query requests that feed
  the second (`nq-monitor/src/http/routes.rs`).

  The first lower-cases ASCII, rejects a second statement and ten keywords, and wants
  `select` or `with` first. The second upper-cases with the Unicode mapping and only
  looks at the first word. The mapping is the parameter `upper` (one character to one
  or more), with what Unicode says of the characters that turn into a letter of the two
  words (`Uppercases`).

  - `queryGate_ok_iff`, `checkGate_iff`: what each gate lets through.
  - `gates_agree_iff`: a text passes the query gate whenever it passes the check gate exactly
    when it opens with `select` or `with` in ASCII letters, is one statement and holds none of
    the ten words, or is not spelled like either at all.
  - `a_saved_delete_reaches_the_write_connection`: a stored text passes the check gate only.
-/

import Nq.Detect.Checks
import Nq.Text.Words

namespace Nq.Query

open List
open Text

/-! ## The query gate -/

/-- `lower_contains_keyword`. The bytes beside a match are those of the characters
    beside it: a byte of a longer character is no ASCII letter, digit or underscore. -/
def lowerContainsKeyword (lower keyword : List Char) : Bool :=
  (matchIndices keyword 0 0 lower).any fun i =>
    (i == 0 || !(lower[i - 1]?.any isWordChar)) && !(lower[i + keyword.length]?.any isWordChar)

def banned : List String :=
  ["attach", "detach", "pragma", "create", "drop", "alter", "insert", "update", "delete", "replace"]

/-- The checks `query_read_only` makes before it prepares the text. -/
def queryGate (sql : String) : Except String Unit := do
  let normalized := trim sql.toList
  if normalized.isEmpty then throw "empty query"
  if normalized.contains ';' && (trim (normalized.rdropWhile (· == ';'))).contains ';' then
    throw "only one statement allowed"
  let lower := normalized.map Char.toLower
  match banned.find? (fun b => lowerContainsKeyword lower b.toList) with
  | some b => throw ("statement type '" ++ b ++ "' not allowed; only SELECT/WITH queries")
  | none => pure ()
  if !("select".toList.isPrefixOf lower || "with".toList.isPrefixOf lower) then
    throw "only SELECT/WITH queries allowed"

/-! ## The check gate -/

section CheckGate

variable (upper : Char → List Char)

/-- `sql.trim().to_uppercase()`. -/
def normalizeCheck (sql : String) : String := String.ofList ((trim sql.toList).flatMap upper)

/-- The check `run_check_query` makes before it prepares the text. -/
def checkGate (sql : String) : Bool :=
  "SELECT".toList.isPrefixOf (normalizeCheck upper sql).toList ||
    "WITH".toList.isPrefixOf (normalizeCheck upper sql).toList

end CheckGate

/-- The letters of `SELECT` and `WITH`. -/
def leadLetters : List Char := "CEHILSTW".toList

/-- The characters outside ASCII whose upper-casing opens with one of them, each with its
    upper-casing: sharp s, dotless i, long s, h, t and w with a mark, the two ligatures of st. -/
def foldings : List (Char × List Char) :=
  [('\u00df', ['S', 'S']), ('\u0131', ['I']), ('\u017f', ['S']), ('\u1e96', ['H', '\u0331']),
    ('\u1e97', ['T', '\u0308']), ('\u1e98', ['W', '\u030a']), ('\ufb05', ['S', 'T']), ('\ufb06', ['S', 'T'])]

/-- What the Unicode upper-casing makes of the letters of a lead, and of no other character. -/
structure Uppercases (upper : Char → List Char) : Prop where
  ascii : ∀ c : Char, c.toNat < 128 → upper c = [c.toUpper]
  folding : ∀ f ∈ foldings, upper f.1 = f.2
  other : ∀ c : Char, 128 ≤ c.toNat → c ∉ foldings.map Prod.fst → ∃ d ds, upper c = d :: ds ∧ d ∉ leadLetters

/-! ## The saved-query requests -/

inductive SavedError where
  | uniqueViolation
  | checkViolation
  | notFound
  deriving DecidableEq, Repr

/-- `api_saved_create`: the text is stored as it came. -/
def apiSavedCreate (qs : SavedQueries) (name sqlText : String) : Except SavedError SavedQueries :=
  if h : name ∈ qs.table.rows.map SavedQuery.name then .error .uniqueViolation
  else
    .ok
      { table := qs.table.append
          { queryId := qs.table.nextRowid, name, sqlText, checkMode := some .none_, checkThreshold := none
            checkColumn := none } qs.table.get_nextRowid
        unique := by
          show ((qs.table.rows ++ [_]).map SavedQuery.name).Nodup
          rw [map_append, nodup_append]
          refine ⟨qs.unique, by simp, ?_⟩
          intro a ha b hb hab
          simp only [map_cons, map_nil, mem_singleton] at hb
          exact h (hb ▸ hab ▸ ha) }

structure PromoteCheckBody where
  checkMode : String
  checkThreshold : Option Sql.F64 := none
  checkColumn : Option String := none

/-- The texts the CHECK clause of `check_mode` admits. -/
def CheckMode.ofText (s : String) : Option CheckMode :=
  [CheckMode.none_, .nonEmpty, .empty, .threshold].find? (·.text = s)

def PromoteCheckBody.apply (body : PromoteCheckBody) (mode : CheckMode) (id : Int) (q : SavedQuery) : SavedQuery :=
  if q.queryId = id then
    { q with checkMode := some mode, checkThreshold := body.checkThreshold, checkColumn := body.checkColumn }
  else q

variable (body : PromoteCheckBody) (mode : CheckMode) (id : Int) (q : SavedQuery) (sql : String)

theorem PromoteCheckBody.apply_id : (body.apply mode id q).queryId = q.queryId := by
  unfold apply; split <;> rfl

theorem PromoteCheckBody.apply_name : (body.apply mode id q).name = q.name := by
  unfold apply; split <;> rfl

/-- `api_saved_promote_check`: an UPDATE of no row is answered "not found". -/
def apiSavedPromoteCheck (qs : SavedQueries) (id : Int) (body : PromoteCheckBody) : Except SavedError SavedQueries :=
  if (qs.table.get id).isNone then .error .notFound
  else
    match CheckMode.ofText body.checkMode with
    | none => .error .checkViolation
    | some mode =>
      .ok
        { table := qs.table.update (body.apply mode id) (body.apply_id mode id)
          unique := by
            show ((qs.table.rows.map (body.apply mode id)).map SavedQuery.name).Nodup
            have : SavedQuery.name ∘ body.apply mode id = SavedQuery.name := funext (body.apply_name mode id)
            rw [map_map, this]
            exact qs.unique }

/-! ## What the gates let through -/

def lowered (sql : String) : List Char := (trim sql.toList).map Char.toLower

/-- The trimmed text opens with `select` or `with`, in ASCII letters of any case. -/
def OpensAsQuery (sql : String) : Prop := "select".toList <+: lowered sql ∨ "with".toList <+: lowered sql

instance (sql : String) : Decidable (OpensAsQuery sql) :=
  inferInstanceAs (Decidable (_ ∨ _))

/-- The text opens with one of the letters of each list, in order. -/
def OpensWith : List (List Char) → List Char → Prop
  | [], _ => True
  | _ :: _, [] => False
  | letters :: rest, c :: s => c ∈ letters ∧ OpensWith rest s

def selectLetters : List (List Char) :=
  [['s', 'S', '\u017f'], ['e', 'E'], ['l', 'L'], ['e', 'E'], ['c', 'C'], ['t', 'T', '\u1e97']]

def withLetters : List (List Char) := [['w', 'W'], ['i', 'I', '\u0131'], ['t', 'T'], ['h', 'H', '\u1e96']]

/-- The trimmed text opens with letters that upper-case into `SELECT` or `WITH`: those of
    either case, a long s, a dotless i, and a t or an h with a mark as the last one. -/
def SpelledAsQuery (sql : String) : Prop :=
  OpensWith selectLetters (trim sql.toList) ∨ OpensWith withLetters (trim sql.toList)

/-- Every `;` of the trimmed text is in the run that ends it. -/
def OneStatement (sql : String) : Prop :=
  ∃ body n, trim sql.toList = body ++ List.replicate n ';' ∧ ';' ∉ body

/-- One of the ten keywords is a word of the text, in ASCII letters of any case. -/
def HoldsBanned (sql : String) : Prop := ∃ b ∈ banned, HasWord b.toList (lowered sql)

theorem banned_words {b : String} (hb : b ∈ banned) : b.toList ≠ [] ∧ ∀ c ∈ b.toList, isWordChar c = true := by
  have hall : banned.all (fun b => !b.toList.isEmpty && b.toList.all isWordChar) = true := by decide
  have := all_eq_true.mp hall b hb
  simp only [Bool.and_eq_true, Bool.not_eq_true', isEmpty_eq_false_iff, all_eq_true] at this
  exact this

theorem lowerContainsKeyword_iff {keyword lower : List Char} (hne : keyword ≠ [])
    (hw : ∀ c ∈ keyword, isWordChar c = true) : lowerContainsKeyword lower keyword = true ↔ HasWord keyword lower := by
  unfold lowerContainsKeyword
  rw [hasWord_iff hne hw, any_eq_true]
  refine exists_congr fun i => and_congr_right fun _ => ?_
  have hnone : ∀ o : Option Char, (!(o.any isWordChar)) = true ↔ ∀ c, o = some c → isWordChar c = false := by
    intro o
    cases o <;> simp
  rw [Bool.and_eq_true, Bool.or_eq_true, beq_iff_eq, hnone, hnone]

theorem oneStatement_iff :
    ((trim sql.toList).contains ';' && (trim ((trim sql.toList).rdropWhile (· == ';'))).contains ';') = false ↔
      OneStatement sql := by
  have hsemi : isWhitespace ';' = false := by decide
  have hinner : ';' ∉ trim ((trim sql.toList).rdropWhile (· == ';')) ↔ OneStatement sql := by
    rw [mem_trim_iff hsemi]
    exact not_mem_rdropWhile_iff
  have hsub : ';' ∈ trim ((trim sql.toList).rdropWhile (· == ';')) → ';' ∈ trim sql.toList := by
    rw [mem_trim_iff hsemi]
    exact fun h => (List.rdropWhile_prefix _ _).subset h
  rw [← hinner, Bool.and_eq_false_iff, contains_eq_mem, contains_eq_mem, decide_eq_false_iff_not,
    decide_eq_false_iff_not]
  exact ⟨fun h hm => h.elim (fun h => h (hsub hm)) fun h => h hm, .inr⟩

/-- What `query_read_only` lets through to the read connection. -/
theorem queryGate_ok_iff : queryGate sql = .ok () ↔ OpensAsQuery sql ∧ OneStatement sql ∧ ¬HoldsBanned sql := by
  have hkw : (banned.find? fun b => lowerContainsKeyword (lowered sql) b.toList) = none ↔ ¬HoldsBanned sql := by
    rw [find?_eq_none]
    unfold HoldsBanned
    rw [not_exists]
    refine forall_congr' fun b => ?_
    rw [not_and]
    refine forall_congr' fun hb => ?_
    rw [lowerContainsKeyword_iff (banned_words hb).1 (banned_words hb).2]
  have hopens : ("select".toList.isPrefixOf (lowered sql) || "with".toList.isPrefixOf (lowered sql)) = true ↔
      OpensAsQuery sql := by
    rw [Bool.or_eq_true, isPrefixOf_iff_prefix, isPrefixOf_iff_prefix]
    rfl
  have hempty : OpensAsQuery sql → (trim sql.toList).isEmpty = false := by
    intro h
    cases ht : trim sql.toList with
    | cons c cs => rfl
    | nil =>
      have : lowered sql = [] := by unfold lowered; rw [ht]; rfl
      unfold OpensAsQuery at h
      rw [this] at h
      revert h
      decide
  unfold queryGate
  simp only [bind, Except.bind, pure, Except.pure, throw, throwThe, MonadExceptOf.throw]
  rw [Sql.ite_error_ok, Sql.ite_error_ok, Bool.not_eq_true, Bool.not_eq_true, oneStatement_iff]
  change _ ∧ _ ∧ (match banned.find? fun b => lowerContainsKeyword (lowered sql) b.toList with
    | some b => _
    | none => if (!("select".toList.isPrefixOf (lowered sql) || "with".toList.isPrefixOf (lowered sql))) = true then _
        else _) = _ ↔ _
  cases hf : banned.find? fun b => lowerContainsKeyword (lowered sql) b.toList with
  | some b =>
    have hb : HoldsBanned sql := by
      by_contra hno
      rw [hkw.mpr hno] at hf
      cases hf
    simp [hb]
  | none =>
    have hno := hkw.mp hf
    simp only [Sql.ite_error_ok, Bool.not_eq_true', Bool.not_eq_false, hopens, and_true]
    exact ⟨fun ⟨_, hone, hopen⟩ => ⟨hopen, hone, hno⟩, fun ⟨hopen, hone, _⟩ => ⟨hempty hopen, hone, hopen⟩⟩

/-! ## The gates compared -/

theorem toNat_toLower_lt {c : Char} (h : c.toLower.toNat < 128) : c.toNat < 128 := by
  unfold Char.toLower at h
  split at h
  · rename_i hu
    have h₁ : c.val.toNat ≤ 90 := UInt32.le_iff_toNat_le.mp hu.2
    have : c.toNat = c.val.toNat := rfl
    omega
  · exact h

theorem toUpper_toLower : ∀ n, n < 128 → (Char.ofNat n).toLower.toUpper = (Char.ofNat n).toUpper := by decide

theorem foldings_not_ascii : ∀ f ∈ foldings, 128 ≤ f.1.toNat := by decide

theorem toUpper_lead :
    ∀ n, n < 128 → ∀ u ∈ leadLetters, (Char.ofNat n).toUpper = u ↔ Char.ofNat n = u.toLower ∨ Char.ofNat n = u := by
  have hall : ∀ n, n < 128 → leadLetters.all fun u =>
      (Char.ofNat n).toUpper = u ↔ Char.ofNat n = u.toLower ∨ Char.ofNat n = u := by decide
  intro n hn u hu
  exact of_decide_eq_true (all_eq_true.mp (hall n hn) u hu)

theorem leadLetters_ascii {u : Char} (hu : u ∈ leadLetters) : u.toNat < 128 ∧ u.toLower.toNat < 128 := by
  have hall : leadLetters.all fun u => u.toNat < 128 ∧ u.toLower.toNat < 128 := by decide
  exact of_decide_eq_true (all_eq_true.mp hall u hu)

section Compare

variable {upper : Char → List Char}

section

variable {u c : Char} {w s : List Char}

theorem prefix_upper (hu : Uppercases upper) (hlead : u ∈ leadLetters) :
    u :: w <+: (c :: s).flatMap upper ↔
      ((c = u.toLower ∨ c = u) ∧ w <+: s.flatMap upper) ∨
        ∃ f ∈ foldings, c = f.1 ∧ u :: w <+: f.2 ++ s.flatMap upper := by
  rw [flatMap_cons]
  by_cases hascii : c.toNat < 128
  · have hletter := toUpper_lead c.toNat hascii u hlead
    rw [Char.ofNat_toNat] at hletter
    have hnone : ¬∃ f ∈ foldings, c = f.1 ∧ u :: w <+: f.2 ++ s.flatMap upper := by
      rintro ⟨f, hf, rfl, _⟩
      exact absurd (foldings_not_ascii f hf) (by omega)
    rw [hu.ascii c hascii, singleton_append, cons_prefix_cons, eq_comm, hletter, or_iff_left hnone]
  · have hletter : ¬((c = u.toLower ∨ c = u) ∧ w <+: s.flatMap upper) := by
      rintro ⟨rfl | rfl, _⟩
      · exact hascii (leadLetters_ascii hlead).2
      · exact hascii (leadLetters_ascii hlead).1
    rw [or_iff_right hletter]
    by_cases hmem : c ∈ foldings.map Prod.fst
    · obtain ⟨f, hf, rfl⟩ := List.mem_map.mp hmem
      rw [hu.folding f hf]
      have hinj : ∀ f ∈ foldings, ∀ f' ∈ foldings, f.1 = f'.1 → f = f' := by decide
      constructor
      · exact fun h => ⟨f, hf, rfl, h⟩
      · rintro ⟨f', hf', e, h⟩
        rwa [hinj f hf f' hf' e]
    · obtain ⟨d, ds, hd, hother⟩ := hu.other c (by omega) hmem
      rw [hd, cons_append, cons_prefix_cons]
      constructor
      · rintro ⟨rfl, _⟩
        exact absurd hlead hother
      · rintro ⟨f, hf, rfl, _⟩
        exact absurd (mem_map_of_mem hf) hmem

/-- What a letter of the lead may be spelled with: at its end the first letter of a folding is enough. -/
def spellings (u : Char) (last : Bool) : List Char :=
  [u.toLower, u] ++ (foldings.filter fun f => f.2 == [u] || (last && f.2.head? == some u)).map Prod.fst

theorem mem_spellings {last : Bool} : c ∈ spellings u last ↔
    (c = u.toLower ∨ c = u) ∨ ∃ f ∈ foldings, c = f.1 ∧ (f.2 = [u] ∨ (last = true ∧ f.2.head? = some u)) := by
  unfold spellings
  simp only [mem_append, mem_cons, not_mem_nil, or_false, List.mem_map, mem_filter, Bool.or_eq_true,
    Bool.and_eq_true, beq_iff_eq]
  refine or_congr_right (exists_congr fun f => ?_)
  tauto

/-- A lead across an upper-casing whose second letter, if it has one, is not what follows in the lead. -/
theorem cons_prefix_append {ds t : List Char} (hne : ds ≠ [])
    (hnext : ∀ x rest, ds = u :: x :: rest → w.head? ≠ some x) :
    u :: w <+: ds ++ t ↔ (ds = [u] ∨ (w.isEmpty = true ∧ ds.head? = some u)) ∧ w <+: t := by
  match ds with
  | [] => exact absurd rfl hne
  | [d] =>
    rw [singleton_append, cons_prefix_cons]
    refine and_congr_left fun _ => ?_
    simp only [List.cons.injEq, and_true, head?_cons, Option.some.injEq]
    tauto
  | d :: x :: rest =>
    rw [cons_append, cons_prefix_cons]
    cases w with
    | nil => simp [eq_comm]
    | cons y w =>
      have hxy : u = d → y ≠ x := by
        rintro rfl rfl
        exact hnext _ _ rfl rfl
      simp only [cons_append, cons_prefix_cons, isEmpty_cons]
      constructor
      · rintro ⟨hud, hyx, _⟩
        exact absurd hyx (hxy hud)
      · rintro ⟨h | ⟨h, _⟩, _⟩
        · cases h
        · cases h

/-- No folding of `u` goes on with the first letter of `w`. -/
def Unfolded (u : Char) (w : List Char) : Prop :=
  ∀ f ∈ foldings, f.2.head? = some u → f.2.tail = [] ∨ f.2.tail.head? ≠ w.head?

instance : Decidable (Unfolded u w) := inferInstanceAs (Decidable (∀ _ ∈ _, _))

theorem prefix_upper_cons (hu : Uppercases upper) (hlead : u ∈ leadLetters) (hnext : Unfolded u w) :
    u :: w <+: (c :: s).flatMap upper ↔ c ∈ spellings u w.isEmpty ∧ w <+: s.flatMap upper := by
  have hfolding : ∀ f ∈ foldings, (u :: w <+: f.2 ++ s.flatMap upper ↔
      (f.2 = [u] ∨ (w.isEmpty = true ∧ f.2.head? = some u)) ∧ w <+: s.flatMap upper) := by
    intro f hf
    refine cons_prefix_append ?_ ?_
    · revert f
      decide
    · intro x rest e hx
      have := hnext f hf (by rw [e]; rfl)
      rw [e, hx] at this
      simp at this
  rw [prefix_upper hu hlead, mem_spellings]
  refine Iff.trans (or_congr_right ?_) or_and_right.symm
  constructor
  · rintro ⟨f, hf, hc, h⟩
    obtain ⟨h, hw⟩ := (hfolding f hf).mp h
    exact ⟨⟨f, hf, hc, h⟩, hw⟩
  · rintro ⟨⟨f, hf, hc, h⟩, hw⟩
    exact ⟨f, hf, hc, (hfolding f hf).mpr ⟨h, hw⟩⟩

/-- What the letters of a lead may be spelled with, one after the other. -/
def spelled : List Char → List (List Char)
  | [] => []
  | u :: w => spellings u w.isEmpty :: spelled w

/-- The upper-casing of a text opens with such a word letter by letter. -/
def IsLead : List Char → Prop
  | [] => True
  | u :: w => u ∈ leadLetters ∧ Unfolded u w ∧ IsLead w

instance decidableIsLead : (w : List Char) → Decidable (IsLead w)
  | [] => inferInstanceAs (Decidable True)
  | _ :: w =>
    have := decidableIsLead w
    inferInstanceAs (Decidable (_ ∧ _ ∧ _))

theorem prefix_upper_iff (hu : Uppercases upper) (hw : IsLead w) :
    w <+: s.flatMap upper ↔ OpensWith (spelled w) s := by
  induction w generalizing s with
  | nil => simp [spelled, OpensWith]
  | cons u w ih =>
    obtain ⟨hlead, hnext, hw⟩ := hw
    cases s with
    | nil => simp [spelled, OpensWith]
    | cons c s =>
      rw [prefix_upper_cons hu hlead hnext, ih hw]
      rfl

end

/-- Letters that lower-case to ASCII are ASCII, so upper-casing keeps a lower-case lead. -/
theorem flatMap_upper (hu : Uppercases upper) {w : List Char}
    (hw : w.all (·.toNat < 128) = true) {s : List Char} (h : w <+: s.map Char.toLower) :
    w.map Char.toUpper <+: s.flatMap upper := by
  induction w generalizing s with
  | nil => exact nil_prefix
  | cons c w ih =>
    cases s with
    | nil => simp at h
    | cons d s =>
      rw [map_cons, cons_prefix_cons] at h
      obtain ⟨hc, h⟩ := h
      simp only [all_cons, Bool.and_eq_true, decide_eq_true_eq] at hw
      have hd : d.toNat < 128 := toNat_toLower_lt (hc ▸ hw.1)
      have hup : upper d = [c.toUpper] := by
        rw [hu.ascii d hd, hc]
        have := toUpper_toLower d.toNat hd
        rw [Char.ofNat_toNat] at this
        rw [this]
      rw [map_cons, flatMap_cons, hup, singleton_append, cons_prefix_cons]
      exact ⟨rfl, ih hw.2 h⟩

theorem checkGate_true_iff (sql : String) : checkGate upper sql = true ↔
    "SELECT".toList <+: (trim sql.toList).flatMap upper ∨ "WITH".toList <+: (trim sql.toList).flatMap upper := by
  have hlist : (normalizeCheck upper sql).toList = (trim sql.toList).flatMap upper := String.toList_ofList
  unfold checkGate
  rw [hlist, Bool.or_eq_true, isPrefixOf_iff_prefix, isPrefixOf_iff_prefix]

/-- What `run_check_query` lets through to the write connection. -/
theorem checkGate_iff (hu : Uppercases upper) (sql : String) : checkGate upper sql = true ↔ SpelledAsQuery sql := by
  have hselect : spelled "SELECT".toList = selectLetters := by decide
  have hwith : spelled "WITH".toList = withLetters := by decide
  rw [checkGate_true_iff, prefix_upper_iff hu (by decide), prefix_upper_iff hu (by decide), hselect,
    hwith]
  rfl

/-- A text that opens as a query opens the check gate. -/
theorem checkGate_of_opens (hu : Uppercases upper) {sql : String}
    (h : OpensAsQuery sql) : checkGate upper sql = true := by
  have hselect : "SELECT".toList = "select".toList.map Char.toUpper := by decide
  have hwith : "WITH".toList = "with".toList.map Char.toUpper := by decide
  rw [checkGate_true_iff, hselect, hwith]
  rcases h with h | h
  · exact .inl (flatMap_upper hu (by decide) h)
  · exact .inr (flatMap_upper hu (by decide) h)

/-- A text passes the query gate whenever it passes the check gate: for one that opens
    with `select` or `with` in ASCII letters, exactly when it is one statement without
    a banned word; for any other, exactly when it does not upper-case into such a lead. -/
theorem gates_agree_iff (hu : Uppercases upper) (sql : String) :
    (checkGate upper sql = true → queryGate sql = .ok ()) ↔
      if OpensAsQuery sql then OneStatement sql ∧ ¬HoldsBanned sql else ¬SpelledAsQuery sql := by
  rw [queryGate_ok_iff]
  by_cases hopen : OpensAsQuery sql
  · rw [if_pos hopen]
    constructor
    · intro h
      exact (h (checkGate_of_opens hu hopen)).2
    · exact fun h _ => ⟨hopen, h⟩
  · rw [if_neg hopen, checkGate_iff hu]
    constructor
    · exact fun h hspelled => hopen (h hspelled).1
    · exact fun h hspelled => absurd hspelled h

end Compare

/-- The check runner of the modelled detectors lets a text through to its connection
    exactly when the check gate does. -/
theorem runCheckQuery_eq {upper : Char → List Char} {checks : CheckRunner} (h : checks.normalize = normalizeCheck upper)
    (db : Db) (sql : String) :
    runCheckQuery checks db sql =
      if checkGate upper sql = true then checks.query db sql >>= readRows 100
      else .error "check queries must be SELECT or WITH statements" := by
  unfold runCheckQuery
  rw [h]
  change (do
    unless checkGate upper sql do throw "check queries must be SELECT or WITH statements"
    readRows 100 (← checks.query db sql)) = _
  cases checkGate upper sql with
  | true => rfl
  | false => rfl

/-! ## Traces -/

/-- Upper-casing, as far as a lead goes. -/
def upperCase (c : Char) : List Char := ((foldings.find? (·.1 = c)).map Prod.snd).getD [c.toUpper]

theorem upperCase_uppercases : Uppercases upperCase where
  ascii := by
    intro c hc
    have hnone : foldings.find? (·.1 = c) = none := by
      refine find?_eq_none.mpr fun f hf h => ?_
      have hascii := foldings_not_ascii f hf
      rw [of_decide_eq_true h] at hascii
      omega
    unfold upperCase
    rw [hnone]
    rfl
  folding := by decide
  other := by
    intro c hc hmem
    have hnone : foldings.find? (·.1 = c) = none := by
      refine find?_eq_none.mpr fun f hf h => hmem ?_
      exact of_decide_eq_true h ▸ mem_map_of_mem hf
    have hsame : c.toUpper = c := by
      refine dif_neg fun h => ?_
      have hz : c.val.toNat ≤ 122 := UInt32.le_iff_toNat_le.mp h.2
      have : c.toNat = c.val.toNat := rfl
      omega
    refine ⟨c, [], ?_, fun hu => absurd (leadLetters_ascii hu).1 (by omega)⟩
    unfold upperCase
    rw [hnone, hsame]
    rfl

def savedDelete : String := "WITH gone AS (SELECT 1) DELETE FROM warning_state"

/-- Stored under a new name and promoted, a `WITH … DELETE` passes the check gate and
    not the query gate. -/
theorem a_saved_delete_reaches_the_write_connection :
    (((apiSavedCreate ⟨.empty, nodup_nil⟩ "cleanup" savedDelete).toOption.bind fun qs =>
        (apiSavedPromoteCheck qs 1 { checkMode := "non_empty" }).toOption).map fun qs =>
          qs.table.rows.map fun q => (q.sqlText, q.checkMode)) = some [(savedDelete, some .nonEmpty)] ∧
      checkGate upperCase savedDelete = true ∧
      queryGate savedDelete = .error "statement type 'delete' not allowed; only SELECT/WITH queries" := by
  refine ⟨by decide, by decide, by decide⟩

theorem a_plain_select_passes_both :
    checkGate upperCase " select 1;" = true ∧ queryGate " select 1;" = .ok () := by
  have hopen : OpensAsQuery " select 1;" := by decide
  have hrest : OneStatement " select 1;" ∧ ¬HoldsBanned " select 1;" :=
    ((queryGate_ok_iff " select 1;").mp (by decide)).2
  refine ⟨by decide, (gates_agree_iff upperCase_uppercases " select 1;").mpr ?_ (by decide)⟩
  rw [if_pos hopen]
  exact hrest

end Nq.Query
