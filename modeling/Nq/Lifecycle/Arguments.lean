/-
  Nq.Lifecycle.Arguments — the times on the maintenance command line
  (`cmd/maintenance.rs`, `parse_time`, `parse_duration`).

  The unit is cut off by a byte position, the amount multiplied in 64 bits and the duration
  added to the clock. Each of the three can fault, and else the argument is read for what it
  denotes (`accepts_iff`): `total_iff`. A duration that is returned is the one read by
  characters (`parseDuration_ok`).

  - `a_micro_sign_is_cut`.
-/

import Nq.Lifecycle.Maintenance
import Nq.Text.Slices

namespace Nq.Arguments

open LeasePresence (parseI64 parseNat)
open List
open Text (byteLen slice)

/-! ## The clock -/

/-- From the first instant of the year -9999 to the end of the year 9999, in nanoseconds from 1970. -/
def InCalendar (n : Int) : Prop := -377705116800000000000 ≤ n ∧ n < 253402300800000000000

instance (n : Int) : Decidable (InCalendar n) := inferInstanceAs (Decidable (_ ∧ _))

/-- `time::OffsetDateTime`: the nanoseconds of its local time, and its offset in seconds. -/
@[ext] structure OffsetDateTime where
  localNanos : Int
  offset : Int
  inCalendar : InCalendar localNanos
  deriving DecidableEq

def OffsetDateTime.instant (t : OffsetDateTime) : Int := t.localNanos - t.offset * 1000000000

/-- `OffsetDateTime::checked_add`, of a duration in seconds. -/
def OffsetDateTime.checkedAdd (t : OffsetDateTime) (seconds : Int) : Option OffsetDateTime :=
  if h : InCalendar (t.localNanos + seconds * 1000000000) then some ⟨_, t.offset, h⟩ else none

/-- `OffsetDateTime::parse(_, &Rfc3339)`: a text it reads starts with the digits of a year. -/
structure Rfc3339 where
  parse : String → Option OffsetDateTime
  starts_digit : ∀ s t, parse s = some t → ∃ c rest, s.toList = c :: rest ∧ c.isDigit = true

def InI64 (n : Int) : Prop := -9223372036854775808 ≤ n ∧ n ≤ 9223372036854775807

instance (n : Int) : Decidable (InI64 n) := inferInstanceAs (Decidable (_ ∧ _))

/-! ## The command line -/

/-- A slice that is not there, an overflow constructing a `Duration`, a sum past the calendar. -/
inductive Panic where
  | slice | duration | outOfCalendar
  deriving DecidableEq, Repr

/-- `Duration::minutes` and the like: the amount in seconds. `Duration::seconds` takes every amount. -/
def durationOf (n perUnit : Int) : Except Panic Int :=
  if InI64 (n * perUnit) then .ok (n * perUnit) else .error .duration

/-- What is returned of the duration in seconds, unless the parser panics. -/
def parseDuration (s : List Char) : Except Panic (Except DeclareError Int) :=
  match (s.flatMap String.utf8EncodeChar).getLast? with
  | none => .ok (.error .emptyDuration)
  | some byte =>
    let last := Char.ofNat byte.toNat
    match slice s 0 (byteLen s - 1) with
    | none => .error .slice
    | some numStr =>
      match parseI64 numStr with
      | none => .ok (.error (.badDurationNumber (String.ofList numStr)))
      | some n =>
        match secondsOfUnit last with
        | none => .ok (.error (.unknownDurationUnit last))
        | some perUnit => do
          let seconds ← durationOf n perUnit
          return .ok seconds

section

variable (rfc3339 : Rfc3339) (now : OffsetDateTime)

/-- `now + dur`, where there is a duration. -/
def later : Except DeclareError Int → Except Panic (Except DeclareError OffsetDateTime)
  | .error e => .ok (.error e)
  | .ok seconds =>
    match now.checkedAdd seconds with
    | some t => .ok (.ok t)
    | none => .error .outOfCalendar

def parseTime (input : String) : Except Panic (Except DeclareError OffsetDateTime) :=
  if input = "now" then .ok (.ok now)
  else if "now+".toList <+: input.toList then do
    let duration ← parseDuration (input.toList.drop 4)
    later now duration
  else
    match rfc3339.parse input with
    | some t => .ok (.ok t)
    | none => .ok (.error (.badTime input))

/-! ## What an argument denotes -/

/-- A decimal integer of 64 bits, with a sign or without. -/
inductive Numeral : List Char → Int → Prop
  | plain {ds : List Char} (hds : ds ≠ []) (hdigits : ∀ c ∈ ds, c.isDigit = true) (h : InI64 (Text.value ds)) :
    Numeral ds (Text.value ds)
  | plus {ds : List Char} (hds : ds ≠ []) (hdigits : ∀ c ∈ ds, c.isDigit = true) (h : InI64 (Text.value ds)) :
    Numeral ('+' :: ds) (Text.value ds)
  | minus {ds : List Char} (hds : ds ≠ []) (hdigits : ∀ c ∈ ds, c.isDigit = true) (h : InI64 (-(Text.value ds : Int))) :
    Numeral ('-' :: ds) (-(Text.value ds : Int))

/-- A numeral and the character of a unit: so many seconds. -/
def Amount (s : List Char) (seconds : Int) : Prop :=
  ∃ num unit n perUnit, s = num ++ [unit] ∧ Numeral num n ∧ secondsOfUnit unit = some perUnit ∧ seconds = n * perUnit

/-- The texts that denote a time. -/
inductive Denotes : String → OffsetDateTime → Prop
  | now : Denotes "now" now
  | later {s : String} {amount : List Char} {seconds : Int} {t : OffsetDateTime}
      (hs : s.toList = "now+".toList ++ amount)
    (hamount : Amount amount seconds) (hinstant : t.instant = now.instant + seconds * 1000000000)
    (hoffset : t.offset = now.offset) :
    Denotes s t
  | stamp {s : String} {t : OffsetDateTime} (h : rfc3339.parse s = some t) : Denotes s t

/-- Both parsers return, and a time is read exactly where the text denotes it. -/
structure Total (s : String) : Prop where
  duration : ∃ r, parseDuration s.toList = .ok r
  time : ∃ r, parseTime rfc3339 now s = .ok r
  accepts : ∀ t, parseTime rfc3339 now s = .ok (.ok t) ↔ Denotes rfc3339 now s t

/-- The last character is one byte, the amount fits a duration and the sum the calendar. -/
structure Fits (s : String) : Prop where
  unit : ∀ c, s.toList.getLast? = some c → c.utf8Size = 1
  duration : ∀ seconds, Amount s.toList seconds → InI64 seconds
  calendar : ∀ amount seconds, s.toList = "now+".toList ++ amount → Amount amount seconds →
    InCalendar (now.localNanos + seconds * 1000000000)

end

/-! ## Durations -/

variable {s : List Char} {n : Int} {unit : Char}

theorem parseNat_eq {n : Nat} : parseNat s = some n ↔ s ≠ [] ∧ (∀ c ∈ s, c.isDigit = true) ∧ Text.value s = n := by
  unfold parseNat
  by_cases h : s ≠ [] ∧ s.all Char.isDigit = true
  · rw [if_pos h, Option.some.injEq]
    exact ⟨fun heq => ⟨h.1, all_eq_true.mp h.2, heq⟩, fun heq => heq.2.2⟩
  · rw [if_neg h]
    constructor
    · intro heq
      cases heq
    · rintro ⟨hs, hdigits, _⟩
      exact absurd ⟨hs, all_eq_true.mpr hdigits⟩ h

theorem parseI64_minus (ds : List Char) :
    parseI64 ('-' :: ds) = ((parseNat ds).map fun n : Nat => -(n : Int)).filter fun n =>
      -9223372036854775808 ≤ n ∧ n ≤ 9223372036854775807 := by
  have hcast : (do let n ← parseNat ds; pure (n : Int) : Option Int).map (fun n =>
      -n) = (parseNat ds).map fun n : Nat => -(n : Int) := by
    cases parseNat ds <;> rfl
  exact congrArg (Option.filter _) hcast

theorem filter_eq_some {o : Option Int} :
    (o.filter fun n => -9223372036854775808 ≤ n ∧ n ≤ 9223372036854775807) = some n ↔ o = some n ∧ InI64 n := by
  rw [Option.filter_eq_some_iff, decide_eq_true_eq]
  rfl

theorem signed_eq_some {f : Nat → Int} :
    ((parseNat s).map f).filter (fun n => -9223372036854775808 ≤ n ∧ n ≤ 9223372036854775807) = some n ↔
      s ≠ [] ∧ (∀ c ∈ s, c.isDigit = true) ∧ f (Text.value s) = n ∧ InI64 n := by
  rw [filter_eq_some, Option.map_eq_some_iff]
  constructor
  · rintro ⟨⟨m, hm, rfl⟩, hn⟩
    obtain ⟨hs, hdigits, rfl⟩ := parseNat_eq.mp hm
    exact ⟨hs, hdigits, rfl, hn⟩
  · rintro ⟨hs, hdigits, rfl, hn⟩
    exact ⟨⟨_, parseNat_eq.mpr ⟨hs, hdigits, rfl⟩, rfl⟩, hn⟩

theorem parseI64_plain (hminus : ∀ ds, s ≠ '-' :: ds) (hplus : ∀ ds, s ≠ '+' :: ds) :
    parseI64 s = ((parseNat s).map Nat.cast).filter fun n => -9223372036854775808 ≤ n ∧ n ≤ 9223372036854775807 := by
  unfold parseI64
  split
  next => exact absurd rfl (hminus _)
  next => exact absurd rfl (hplus _)
  next => rfl

/-- The integer parser of the standard library reads the numerals. -/
theorem parseI64_iff : parseI64 s = some n ↔ Numeral s n := by
  constructor
  · intro h
    by_cases hminus : ∃ ds, s = '-' :: ds
    · obtain ⟨ds, rfl⟩ := hminus
      rw [parseI64_minus] at h
      obtain ⟨hds, hdigits, rfl, hn⟩ := signed_eq_some.mp h
      exact .minus hds hdigits hn
    by_cases hplus : ∃ ds, s = '+' :: ds
    · obtain ⟨ds, rfl⟩ := hplus
      obtain ⟨hds, hdigits, rfl, hn⟩ := signed_eq_some.mp h
      exact .plus hds hdigits hn
    · rw [parseI64_plain (not_exists.mp hminus) (not_exists.mp hplus)] at h
      obtain ⟨hds, hdigits, rfl, hn⟩ := signed_eq_some.mp h
      exact .plain hds hdigits hn
  · rintro (⟨hds, hdigits, hn⟩ | ⟨hds, hdigits, hn⟩ | ⟨hds, hdigits, hn⟩)
    · have hsign : ∀ c, c.isDigit = false → ∀ ds, s ≠ c :: ds := by
        rintro c hc ds rfl
        rw [hdigits c mem_cons_self] at hc
        cases hc
      rw [parseI64_plain (hsign '-' (by decide)) (hsign '+' (by decide))]
      exact signed_eq_some.mpr ⟨hds, hdigits, rfl, hn⟩
    · exact signed_eq_some.mpr ⟨hds, hdigits, rfl, hn⟩
    · rw [parseI64_minus]
      exact signed_eq_some.mpr ⟨hds, hdigits, rfl, hn⟩

theorem lastByte_snoc (h : unit.utf8Size = 1) (num : List Char) :
    ∃ byte, ((num ++ [unit]).flatMap String.utf8EncodeChar).getLast? = some byte ∧ Char.ofNat byte.toNat = unit := by
  refine ⟨unit.val.toUInt8, ?_, ?_⟩
  · rw [flatMap_append, flatMap_singleton, String.utf8EncodeChar_eq_singleton h, getLast?_concat]
  · have hle : unit.val.toNat ≤ 127 := Char.utf8Size_eq_one_iff.mp h
    have hbyte : unit.val.toUInt8.toNat = unit.toNat := by
      rw [UInt32.toNat_toUInt8]
      exact Nat.mod_eq_of_lt (by omega)
    rw [hbyte, Char.ofNat_toNat]

theorem lastByte_ne_none (h : s ≠ []) : (s.flatMap String.utf8EncodeChar).getLast? ≠ none := by
  rw [Ne, getLast?_eq_none_iff]
  cases s with
  | nil => exact absurd rfl h
  | cons c s =>
    rw [flatMap_cons]
    intro hnil
    exact String.utf8EncodeChar_ne_nil (append_eq_nil_iff.mp hnil).1

/-- A text of a last character of one byte is cut before it. -/
theorem parseDuration_snoc (h : unit.utf8Size = 1) (num : List Char) : parseDuration (num ++ [unit]) =
    match parseI64 num with
    | none => .ok (.error (.badDurationNumber (String.ofList num)))
    | some n =>
      match secondsOfUnit unit with
      | none => .ok (.error (.unknownDurationUnit unit))
      | some perUnit => do
        let seconds ← durationOf n perUnit
        return .ok seconds := by
  obtain ⟨byte, hbyte, hunit⟩ := lastByte_snoc h num
  unfold parseDuration
  rw [hbyte, Text.byteLen_snoc h, Nat.add_sub_cancel, Text.slice_before]
  dsimp only
  rw [hunit]

/-- A text of a last character of several bytes is cut inside it. -/
theorem parseDuration_wide (h : unit.utf8Size ≠ 1) (num : List Char) :
    parseDuration (num ++ [unit]) = .error .slice := by
  have hpos := Char.utf8Size_pos unit
  obtain ⟨byte, hbyte⟩ := Option.ne_none_iff_exists'.mp (lastByte_ne_none (s := num ++ [unit]) (by simp))
  have hinside := Text.slice_inside (c := unit) (k := unit.utf8Size - 1) (by omega) (by omega) num []
  have hlen : byteLen (num ++ [unit]) - 1 = byteLen num + (unit.utf8Size - 1) := by
    rw [Text.byteLen_append, Text.byteLen_cons]
    show byteLen num + (unit.utf8Size + 0) - 1 = _
    omega
  unfold parseDuration
  rw [hbyte, hlen, hinside]

theorem byteSize_of_unit {perUnit : Int} (h : secondsOfUnit unit = some perUnit) : unit.utf8Size = 1 := by
  unfold secondsOfUnit at h
  split at h
  all_goals first | rfl | cases h

/-- What is returned of a duration is what the characters say, and an amount is in 64 bits. -/
theorem parseDuration_ok {r : Except DeclareError Int} (h : parseDuration s = .ok r) :
    Nq.parseDuration s = r ∧ ∀ seconds, r = .ok seconds → Amount s seconds ∧ InI64 seconds := by
  rcases s.eq_nil_or_concat' with rfl | ⟨num, unit, rfl⟩
  · cases h
    exact ⟨rfl, fun _ hr => by cases hr⟩
  by_cases hsize : unit.utf8Size = 1
  · rw [parseDuration_snoc hsize] at h
    unfold Nq.parseDuration
    rw [getLast?_concat, dropLast_concat]
    cases hn : parseI64 num with
    | none =>
      rw [hn] at h
      cases h
      exact ⟨rfl, fun _ hr => by cases hr⟩
    | some n =>
      rw [hn] at h
      dsimp only at h ⊢
      cases hunit : secondsOfUnit unit with
      | none =>
        rw [hunit] at h
        cases h
        exact ⟨rfl, fun _ hr => by cases hr⟩
      | some perUnit =>
        rw [hunit] at h
        dsimp only at h ⊢
        unfold durationOf at h
        by_cases hin : InI64 (n * perUnit)
        · rw [if_pos hin] at h
          cases h
          refine ⟨rfl, fun seconds hr => ?_⟩
          cases hr
          exact ⟨⟨num, unit, n, perUnit, rfl, parseI64_iff.mp hn, hunit, rfl⟩, hin⟩
        · rw [if_neg hin] at h
          cases h
  · rw [parseDuration_wide hsize] at h
    cases h

theorem parseDuration_amount {seconds : Int} (h : Amount s seconds) :
    parseDuration s = if InI64 seconds then .ok (.ok seconds) else .error .duration := by
  obtain ⟨num, unit, n, perUnit, rfl, hn, hunit, rfl⟩ := h
  rw [parseDuration_snoc (byteSize_of_unit hunit), parseI64_iff.mpr hn]
  dsimp only
  rw [hunit]
  dsimp only
  unfold durationOf
  by_cases hin : InI64 (n * perUnit)
  · rw [if_pos hin, if_pos hin]
    rfl
  · rw [if_neg hin, if_neg hin]
    rfl

/-- The duration parser returns on a last character of one byte and an amount of 64 bits. -/
theorem parseDuration_returns_iff (s : List Char) : (∃ r, parseDuration s = .ok r) ↔
    (∀ c, s.getLast? = some c → c.utf8Size = 1) ∧ ∀ seconds, Amount s seconds → InI64 seconds := by
  constructor
  · rintro ⟨r, hr⟩
    refine ⟨fun c hc => ?_, fun seconds hamount => ?_⟩
    · obtain ⟨num, rfl⟩ := getLast?_eq_some_iff.mp hc
      by_contra hwide
      rw [parseDuration_wide hwide] at hr
      cases hr
    · by_contra hin
      rw [parseDuration_amount hamount, if_neg hin] at hr
      cases hr
  · rintro ⟨hunit, hamount⟩
    rcases s.eq_nil_or_concat' with rfl | ⟨num, unit, rfl⟩
    · exact ⟨_, rfl⟩
    rw [parseDuration_snoc (hunit unit getLast?_concat)]
    cases hn : parseI64 num with
    | none => exact ⟨_, rfl⟩
    | some n =>
      cases hper : secondsOfUnit unit with
      | none => exact ⟨_, rfl⟩
      | some perUnit =>
        have hin := hamount (n * perUnit) ⟨num, unit, n, perUnit, rfl, parseI64_iff.mp hn, hper, rfl⟩
        dsimp only
        unfold durationOf
        rw [if_pos hin]
        exact ⟨_, rfl⟩

/-! ## Times -/

section

variable {rfc3339 : Rfc3339} {now t : OffsetDateTime} {seconds : Int} {s : String}

theorem checkedAdd_eq_some : now.checkedAdd seconds = some t ↔
    t.localNanos = now.localNanos + seconds * 1000000000 ∧ t.offset = now.offset := by
  unfold OffsetDateTime.checkedAdd
  constructor
  · intro h
    split at h
    · cases h
      exact ⟨rfl, rfl⟩
    · cases h
  · rintro ⟨hlocal, hoffset⟩
    rw [dif_pos (hlocal ▸ t.inCalendar)]
    exact congrArg some (OffsetDateTime.ext hlocal.symm hoffset.symm)

/-- The instants of two times of one offset are as far apart as their local times. -/
theorem checkedAdd_iff : now.checkedAdd seconds = some t ↔
    t.instant = now.instant + seconds * 1000000000 ∧ t.offset = now.offset := by
  rw [checkedAdd_eq_some]
  unfold OffsetDateTime.instant
  refine and_congr_left fun hoffset => ?_
  rw [hoffset]
  omega

/-- A sum in the calendar is no more seconds away than 64 bits count. -/
theorem inI64_of_checkedAdd (h : now.checkedAdd seconds = some t) : InI64 seconds := by
  obtain ⟨hlocal, _⟩ := checkedAdd_eq_some.mp h
  have hnow := now.inCalendar
  have ht := t.inCalendar
  unfold InCalendar at hnow ht
  unfold InI64
  omega

theorem later_ok (h : now.checkedAdd seconds = some t) : later now (.ok seconds) = .ok (.ok t) := by
  unfold later
  simp only [h]

theorem later_panics (h : now.checkedAdd seconds = none) : later now (.ok seconds) = .error .outOfCalendar := by
  unfold later
  simp only [h]

theorem parseTime_later {amount : List Char} (hs : s.toList = "now+".toList ++ amount) :
    parseTime rfc3339 now s = (parseDuration amount).bind (later now) := by
  have hnow : s ≠ "now" := by
    rintro rfl
    have hlen := congrArg List.length hs
    rw [length_append] at hlen
    exact absurd hlen (by show 3 ≠ 4 + _; omega)
  unfold parseTime
  have hdrop : ("now+".toList ++ amount).drop 4 = amount := rfl
  rw [if_neg hnow, hs, if_pos (prefix_append _ _), hdrop]
  rfl

theorem parseTime_stamp (hnow : s ≠ "now") (hlater : ¬"now+".toList <+: s.toList) : parseTime rfc3339 now s =
    match rfc3339.parse s with
    | some t => .ok (.ok t)
    | none => .ok (.error (.badTime s)) := by
  unfold parseTime
  rw [if_neg hnow, if_neg hlater]

/-- An argument is "now", an amount after "now+", or else a stamp. -/
theorem shape (s : String) :
    s = "now" ∨ (∃ amount, s.toList = "now+".toList ++ amount) ∨ (s ≠ "now" ∧ ¬"now+".toList <+: s.toList) := by
  by_cases hnow : s = "now"
  · exact .inl hnow
  by_cases hlater : "now+".toList <+: s.toList
  · obtain ⟨amount, hamount⟩ := hlater
    exact .inr (.inl ⟨amount, hamount.symm⟩)
  · exact .inr (.inr ⟨hnow, hlater⟩)

/-- A time is read exactly where the text denotes it. -/
theorem accepts_iff (s : String) : parseTime rfc3339 now s = .ok (.ok t) ↔ Denotes rfc3339 now s t := by
  constructor
  · intro h
    rcases shape s with rfl | ⟨amount, hs⟩ | ⟨hnow, hlater⟩
    · cases h
      exact .now
    · rw [parseTime_later hs] at h
      cases hduration : parseDuration amount with
      | error panic =>
        rw [hduration] at h
        cases h
      | ok r =>
        rw [hduration] at h
        cases r with
        | error e => cases h
        | ok seconds =>
          obtain ⟨hamount, _⟩ := (parseDuration_ok hduration).2 seconds rfl
          cases hadd : now.checkedAdd seconds with
          | none =>
            have hpanic := (later_panics hadd).symm.trans h
            cases hpanic
          | some t' =>
            have hreturn := (later_ok hadd).symm.trans h
            cases hreturn
            obtain ⟨hinstant, hoffset⟩ := checkedAdd_iff.mp hadd
            exact .later hs hamount hinstant hoffset
    · rw [parseTime_stamp hnow hlater] at h
      cases hparse : rfc3339.parse s with
      | none =>
        rw [hparse] at h
        cases h
      | some t' =>
        rw [hparse] at h
        cases h
        exact .stamp hparse
  · intro h
    cases h with
    | now => rfl
    | later hs hamount hinstant hoffset =>
      have hadd := checkedAdd_iff.mpr ⟨hinstant, hoffset⟩
      rw [parseTime_later hs, parseDuration_amount hamount, if_pos (inI64_of_checkedAdd hadd)]
      exact later_ok hadd
    | stamp h =>
      obtain ⟨c, rest, hs, hdigit⟩ := rfc3339.starts_digit s t h
      have hnow : s ≠ "now" := by
        rintro rfl
        cases hs
        cases hdigit
      have hlater : ¬"now+".toList <+: s.toList := by
        rw [hs]
        intro hp
        have hhead : 'n' = c := (cons_prefix_cons.mp hp).1
        rw [← hhead] at hdigit
        cases hdigit
      rw [parseTime_stamp hnow hlater, h]

theorem exists_checkedAdd (h : InCalendar (now.localNanos + seconds * 1000000000)) :
    ∃ t, now.checkedAdd seconds = some t := ⟨_, dif_pos h⟩

/-- **The arguments are parsed totally exactly where the last character is one byte, the amount in seconds is in 64
    bits, and the sum is in the calendar.** -/
theorem total_iff (s : String) : Total rfc3339 now s ↔ Fits now s := by
  constructor
  · rintro ⟨hduration, ⟨r, htime⟩, _⟩
    obtain ⟨hunit, hin⟩ := (parseDuration_returns_iff _).mp hduration
    refine ⟨hunit, hin, fun amount seconds hs hamount => ?_⟩
    rw [parseTime_later hs, parseDuration_amount hamount] at htime
    by_cases hin : InI64 seconds
    · rw [if_pos hin] at htime
      by_contra hcalendar
      have hpanic := (later_panics (dif_neg hcalendar)).symm.trans htime
      cases hpanic
    · rw [if_neg hin] at htime
      cases htime
  · rintro ⟨hunit, hin, hcalendar⟩
    refine ⟨(parseDuration_returns_iff _).mpr ⟨hunit, hin⟩, ?_, fun t => accepts_iff s⟩
    rcases shape s with rfl | ⟨amount, hs⟩ | ⟨hnow, hlater⟩
    · exact ⟨_, rfl⟩
    · rw [parseTime_later hs]
      have hreturns : ∃ r, parseDuration amount = .ok r := by
        refine (parseDuration_returns_iff _).mpr ⟨fun c hc => hunit c ?_, fun seconds hamount => ?_⟩
        · rw [hs, getLast?_append, hc]
          rfl
        · obtain ⟨t, ht⟩ := exists_checkedAdd (hcalendar amount seconds hs hamount)
          exact inI64_of_checkedAdd ht
      obtain ⟨r, hr⟩ := hreturns
      rw [hr]
      cases r with
      | error e => exact ⟨_, rfl⟩
      | ok seconds =>
        obtain ⟨t, ht⟩ := exists_checkedAdd (hcalendar amount seconds hs ((parseDuration_ok hr).2 seconds rfl).1)
        exact ⟨.ok t, later_ok ht⟩
    · rw [parseTime_stamp hnow hlater]
      cases rfc3339.parse s <;> exact ⟨_, rfl⟩

end

/-! ## Panics -/

/-- 2026-05-08T12:00:00Z. -/
def noon : OffsetDateTime := ⟨1778241600000000000, 0, by decide⟩

/-- A parser of the one stamp of that noon. -/
def noonStamp : Rfc3339 where
  parse s := if s = "2026-05-08T12:00:00Z" then some noon else none
  starts_digit s t h := by
    split at h
    next hs =>
      subst hs
      exact ⟨'2', _, rfl, rfl⟩
    next => cases h

example : parseTime noonStamp noon "now+200000000000000000m" = .error .duration := by decide

example : parseTime noonStamp noon "now+3000000d" = .error .outOfCalendar := by decide

/-- An amount in microseconds: the unit has two bytes. -/
theorem a_micro_sign_is_cut : ¬∀ s, Total noonStamp noon s := by
  intro h
  obtain ⟨r, hr⟩ := (h "now+5µ").time
  have hpanic : parseTime noonStamp noon "now+5µ" = .error .slice := by decide
  rw [hpanic] at hr
  cases hr

end Nq.Arguments
