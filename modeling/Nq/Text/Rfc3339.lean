/-
  Nq.Text.Rfc3339 — the spellings of an instant in RFC 3339, and the one that `time` writes.

  A spelling has local fields, any number of decimals and an offset, and stands for the
  instant of the proleptic Gregorian calendar (`Spelling.instant`). Spellings of one offset
  and one number of decimals sort as their instants do (`instant_le_of_text_le`); others
  need not.

  What `time` writes keeps the offset the instant came with, and drops the zeros at the end of a
  fraction. So two texts sort as the instants do where both are in UTC and neither fraction is
  the other cut short (`text_lt_iff`), and otherwise need not.
-/

import Nq.Text.Instants

namespace Nq.Text

open List hiding not_lt

/-! ## The calendar -/

def isLeap (y : Nat) : Bool := y % 4 = 0 && (y % 100 ≠ 0 || y % 400 = 0)

/-- The days of the years before a year, from the year 0. -/
def yearDays (y : Nat) : Nat := 365 * y + (y + 3) / 4 + (y + 399) / 400 - (y + 99) / 100

/-- The days of a year before a month; the thirteenth ends the year. -/
def monthDays (leap : Bool) (m : Nat) : Nat :=
  [0, 31, 59, 90, 120, 151, 181, 212, 243, 273, 304, 334, 365].getD (m - 1) 365 + if leap && 2 < m then 1 else 0

variable (y : Nat)

/-- A quotient rounded up grows where the divisor divides. -/
theorem ceil_succ {d : Nat} (hd : 0 < d) : (y + 1 + (d - 1)) / d = (y + (d - 1)) / d + if y % d = 0 then 1 else 0 := by
  have hsplit : y = d * (y / d) + y % d := (Nat.div_add_mod y d).symm
  have hlt := Nat.mod_lt y hd
  have hquot : ∀ r, (d * (y / d) + r) / d = y / d + r / d := fun r => Nat.mul_add_div hd (y / d) r
  split
  · rename_i hzero
    have hnext : y + 1 + (d - 1) = d * (y / d) + d := by omega
    have hhere : y + (d - 1) = d * (y / d) + (d - 1) := by omega
    rw [hnext, hhere, hquot, hquot, Nat.div_self hd, Nat.div_eq_of_lt (show d - 1 < d by omega)]
  · rename_i hrest
    have hnext : y + 1 + (d - 1) = d * (y / d) + (y % d - 1 + 1 + d) := by omega
    have hhere : y + (d - 1) = d * (y / d) + (y % d - 1 + d) := by omega
    rw [hnext, hhere, hquot, hquot, Nat.add_div_right _ hd, Nat.add_div_right _ hd,
      Nat.div_eq_of_lt (show y % d - 1 + 1 < d by omega), Nat.div_eq_of_lt (show y % d - 1 < d by omega)]

theorem yearDays_succ : yearDays (y + 1) = yearDays y + if isLeap y then 366 else 365 := by
  have hfour := ceil_succ y (show 0 < 4 by decide)
  have hcentury := ceil_succ y (show 0 < 100 by decide)
  have hera := ceil_succ y (show 0 < 400 by decide)
  have hle : (y + 99) / 100 ≤ (y + 3) / 4 := by omega
  have hcenturies : y % 100 = 0 → y % 4 = 0 := by omega
  have heras : y % 400 = 0 → y % 100 = 0 := by omega
  simp only [Nat.reduceSub] at hfour hcentury hera
  unfold yearDays isLeap
  rw [hfour, hcentury, hera]
  generalize (y + 3) / 4 = fours at *
  generalize (y + 99) / 100 = centuries at *
  generalize (y + 399) / 400 = eras at *
  by_cases h4 : y % 4 = 0
  · by_cases h100 : y % 100 = 0
    · by_cases h400 : y % 400 = 0
      · simp [h4, h100, h400]
        omega
      · simp [h4, h100, h400]
        omega
    · have h400 : y % 400 ≠ 0 := fun h => h100 (heras h)
      simp [h4, h100, h400]
      omega
  · have h100 : y % 100 ≠ 0 := fun h => h4 (hcenturies h)
    have h400 : y % 400 ≠ 0 := fun h => h100 (heras h)
    simp [h4, h100, h400]
    omega

theorem yearDays_le {y y' : Nat} (h : y < y') : yearDays y + (if isLeap y then 366 else 365) ≤ yearDays y' := by
  rw [← yearDays_succ]
  induction h with
  | refl => exact Nat.le_refl _
  | @step m _ ih =>
    have hsucc := yearDays_succ m
    show yearDays (y + 1) ≤ yearDays (m + 1)
    omega

theorem monthDays_le {leap : Bool} {m m' : Nat} (h : m < m')
    (hm' : m' ≤ 13) : monthDays leap (m + 1) ≤ monthDays leap m' := by
  have hall : ∀ leap, ∀ m' < 14, ∀ m < m', monthDays leap (m + 1) ≤ monthDays leap m' := by decide
  exact hall leap m' (by omega) m h

theorem monthDays_end (leap : Bool) : monthDays leap 13 = if leap then 366 else 365 := by cases leap <;> rfl

/-! ## Spellings -/

inductive Offset where
  | z
  | numeric (negative : Bool) (hours minutes : Nat)
  deriving DecidableEq, Repr

def Offset.minutes : Offset → Int
  | .z => 0
  | .numeric negative hours minutes => if negative then -(hours * 60 + minutes : Nat) else (hours * 60 + minutes : Nat)

def Offset.text : Offset → List Char
  | .z => ['Z']
  | .numeric negative hours minutes => (if negative then '-' else '+') :: (digits 2 hours ++ ':' :: digits 2 minutes)

structure Spelling where
  year : Nat
  month : Nat
  day : Nat
  hour : Nat
  minute : Nat
  second : Nat
  /-- How many decimals are written, and which. -/
  places : Nat
  decimals : Nat
  offset : Offset
  year_lt : year < 10000
  month_range : 1 ≤ month ∧ month ≤ 12
  day_range : 1 ≤ day ∧ monthDays (isLeap year) month + day ≤ monthDays (isLeap year) (month + 1)
  hour_lt : hour < 24
  minute_lt : minute < 60
  second_lt : second < 60
  decimals_lt : decimals < 10 ^ places

/-- Fields within the calendar and the clock. -/
def FieldsInRange (year month day hour minute second places decimals : Nat) : Prop :=
  year < 10000 ∧ (1 ≤ month ∧ month ≤ 12) ∧ (1 ≤ day ∧ monthDays (isLeap year) month + day ≤
    monthDays (isLeap year) (month + 1)) ∧ hour < 24 ∧ minute < 60 ∧ second < 60 ∧ decimals < 10 ^ places

namespace Spelling

def ofFields (year month day hour minute second places decimals : Nat) (offset : Offset)
    (h : FieldsInRange year month day hour minute second places decimals) : Spelling :=
  ⟨year, month, day, hour, minute, second, places, decimals, offset,
    h.1, h.2.1, h.2.2.1, h.2.2.2.1, h.2.2.2.2.1, h.2.2.2.2.2.1, h.2.2.2.2.2.2⟩

def fields (t : Spelling) : List Nat := [t.year, t.month, t.day, t.hour, t.minute, t.second]

def fraction (t : Spelling) : List Char := if t.places = 0 then [] else '.' :: digits t.places t.decimals

def text (t : Spelling) : String := String.ofList (written shape t.fields ++ (t.fraction ++ t.offset.text))

/-- The nanoseconds of the decimals; those past the ninth are dropped. -/
def nanosecond (t : Spelling) : Nat :=
  if t.places ≤ 9 then t.decimals * 10 ^ (9 - t.places) else t.decimals / 10 ^ (t.places - 9)

/-- Days from the year 0, the first being 1. -/
def dayNumber (t : Spelling) : Nat := yearDays t.year + monthDays (isLeap t.year) t.month + t.day

def secondOfDay (t : Spelling) : Nat := t.hour * 3600 + t.minute * 60 + t.second

/-- Nanoseconds from 1970-01-01T00:00:00Z. -/
def instant (t : Spelling) : Int :=
  (((t.dayNumber : Int) - 719529) * 86400 + t.secondOfDay - t.offset.minutes * 60) * 1000000000 + t.nanosecond

variable {t u : Spelling}

/-! ## Instants by their fields -/

theorem nanosecond_lt (t : Spelling) : t.nanosecond < 1000000000 := by
  have hlt := t.decimals_lt
  unfold nanosecond
  split
  · rename_i hplaces
    have hsplit : 10 ^ t.places * 10 ^ (9 - t.places) = 10 ^ 9 := by rw [← Nat.pow_add, Nat.add_sub_cancel' hplaces]
    calc t.decimals * 10 ^ (9 - t.places) < 10 ^ t.places * 10 ^ (9 - t.places) :=
          Nat.mul_lt_mul_of_pos_right hlt (Nat.pow_pos (by omega))
      _ = 1000000000 := hsplit
  · refine Nat.div_lt_of_lt_mul ?_
    rw [show 1000000000 = 10 ^ 9 from rfl, ← Nat.pow_add, Nat.sub_add_cancel (by omega)]
    exact hlt

theorem nanosecond_le (hplaces : t.places = u.places) (h : t.decimals ≤ u.decimals) : t.nanosecond ≤ u.nanosecond := by
  unfold nanosecond
  rw [hplaces]
  split
  · exact Nat.mul_le_mul_right _ h
  · exact Nat.div_le_div_right h

theorem secondOfDay_lt (t : Spelling) : t.secondOfDay < 86400 := by
  have := t.hour_lt
  have := t.minute_lt
  have := t.second_lt
  unfold secondOfDay
  omega

theorem dayNumber_lt (h : [t.year, t.month, t.day] < [u.year, u.month, u.day]) : t.dayNumber < u.dayNumber := by
  have ht := t.day_range
  have hu := u.day_range
  have hmonths := t.month_range
  have hmonths' := u.month_range
  unfold dayNumber
  rcases cons_lt_cons_iff.mp h with hyear | ⟨hyear, h⟩
  · have hend := monthDays_end (isLeap t.year)
    have hmonth : monthDays (isLeap t.year) (t.month + 1) ≤ monthDays (isLeap t.year) 13 :=
      monthDays_le (by omega) (by omega)
    have hyears := yearDays_le hyear
    omega
  · rw [hyear] at ht ⊢
    rcases cons_lt_cons_iff.mp h with hmonth | ⟨hmonth, h⟩
    · have hbefore : monthDays (isLeap u.year) (t.month + 1) ≤ monthDays (isLeap u.year) u.month :=
        monthDays_le hmonth (by omega)
      omega
    · rw [hmonth]
      have hday : t.day < u.day := by simpa [cons_lt_cons_iff] using h
      omega

/-- The second of the local time. -/
theorem localSecond_lt (h : t.fields < u.fields) :
    t.dayNumber * 86400 + t.secondOfDay < u.dayNumber * 86400 + u.secondOfDay := by
  have ht := t.secondOfDay_lt
  by_cases hdate : [t.year, t.month, t.day] = [u.year, u.month, u.day]
  · simp only [List.cons.injEq, and_true] at hdate
    obtain ⟨hyear, hmonth, hday⟩ := hdate
    unfold fields at h
    rw [hyear, hmonth, hday] at h
    have hclock : [t.hour, t.minute, t.second] < [u.hour, u.minute, u.second] := by simpa [cons_lt_cons_iff] using h
    have hnumber : t.dayNumber = u.dayNumber := by
      unfold dayNumber
      rw [hyear, hmonth, hday]
    have := t.minute_lt
    have := t.second_lt
    rw [hnumber]
    unfold secondOfDay
    rcases cons_lt_cons_iff.mp hclock with hhour | ⟨hhour, hclock⟩
    · omega
    · rcases cons_lt_cons_iff.mp hclock with hminute | ⟨hminute, hclock⟩
      · omega
      · have hsecond : t.second < u.second := by simpa [cons_lt_cons_iff] using hclock
        omega
  · have hlt : [t.year, t.month, t.day] < [u.year, u.month, u.day] := by
      simp only [List.cons.injEq, and_true, not_and] at hdate
      unfold fields at h
      simp only [cons_lt_cons_iff] at h ⊢
      tauto
    have hnumber := dayNumber_lt hlt
    omega

theorem instant_le (hoffset : t.offset = u.offset) (hplaces : t.places = u.places)
    (h : t.fields < u.fields ∨ t.fields = u.fields ∧ t.decimals ≤ u.decimals) : t.instant ≤ u.instant := by
  unfold instant
  rw [hoffset]
  rcases h with hlt | ⟨heq, hle⟩
  · have hsecond := localSecond_lt hlt
    have hnano := t.nanosecond_lt
    omega
  · have hsame : t.dayNumber = u.dayNumber ∧ t.secondOfDay = u.secondOfDay := by
      unfold fields at heq
      simp only [List.cons.injEq, and_true] at heq
      obtain ⟨hyear, hmonth, hday, hhour, hminute, hsecond⟩ := heq
      unfold dayNumber secondOfDay
      rw [hyear, hmonth, hday, hhour, hminute, hsecond]
      exact ⟨rfl, rfl⟩
    have hnano := nanosecond_le hplaces hle
    rw [hsame.1, hsame.2]
    omega

/-! ## Texts by their fields -/

theorem fields_fit (t : Spelling) : ∀ p ∈ shape.zip t.fields, p.2 < 10 ^ p.1.1 := by
  have := t.year_lt
  have := t.month_range
  have := t.hour_lt
  have := t.minute_lt
  have := t.second_lt
  have hday : t.day < 100 := by
    have hlength : ∀ leap, ∀ m < 13, monthDays leap (m + 1) ≤ monthDays leap m + 31 := by decide
    have := hlength (isLeap t.year) t.month (by omega)
    have := t.day_range
    omega
  intro p hp
  simp only [shape, fields, zip_cons_cons, zip_nil_right, mem_cons, not_mem_nil, or_false] at hp
  rcases hp with rfl | rfl | rfl | rfl | rfl | rfl <;> dsimp only <;> omega

theorem text_lt (hoffset : t.offset = u.offset) (hplaces : t.places = u.places)
    (h : t.fields < u.fields ∨ t.fields = u.fields ∧ t.decimals < u.decimals) : t.text < u.text := by
  unfold text
  refine Before.lt ?_
  rcases h with hlt | ⟨heq, hlt⟩
  · have hbefore : Before (written shape t.fields) (written shape u.fields) := before_written rfl rfl u.fields_fit hlt
    simpa using hbefore.append [] (t.fraction ++ t.offset.text) (u.fraction ++ u.offset.text)
  · have hwritten : t.places ≠ 0 := by
      intro hzero
      have hfit := u.decimals_lt
      rw [← hplaces, hzero, Nat.pow_zero] at hfit
      omega
    have hbefore : Before (digits t.places t.decimals) (digits t.places u.decimals) :=
      before_digits hlt (by rw [hplaces]; exact u.decimals_lt)
    have htext := hbefore.append (written shape t.fields ++ ['.']) t.offset.text t.offset.text
    unfold fraction
    rw [if_neg hwritten, if_neg (by rw [← hplaces]; exact hwritten), ← heq, ← hoffset, ← hplaces]
    simpa using htext

/-- Spelled with one offset and one number of decimals, texts sort as instants. -/
theorem instant_le_of_text_le (hoffset : t.offset = u.offset) (hplaces : t.places = u.places) (h : t.text ≤ u.text) :
    t.instant ≤ u.instant := by
  refine instant_le hoffset hplaces ?_
  rcases lt_trichotomy t.fields u.fields with hlt | heq | hgt
  · exact .inl hlt
  · refine .inr ⟨heq, ?_⟩
    by_contra hgt
    exact absurd (text_lt hoffset.symm hplaces.symm (.inr ⟨heq.symm, by omega⟩)) (not_lt.mpr h)
  · exact absurd (text_lt hoffset.symm hplaces.symm (.inl hgt)) (not_lt.mpr h)

end Spelling

/-! ## Instants with an offset -/

/-- An `OffsetDateTime` of a year RFC 3339 can write: its local time to the nanosecond, and its offset. -/
structure Zoned where
  spelling : Spelling
  places_eq : spelling.places = 9
  /-- An offset of zero is UTC. -/
  utc_of_zero : spelling.offset.minutes = 0 → spelling.offset = .z

namespace Zoned

variable {t u : Zoned}

def instant (t : Zoned) : Int := t.spelling.instant

def nanosecond (t : Zoned) : Nat := t.spelling.decimals

def isUtc (t : Zoned) : Bool := t.spelling.offset = .z

/-- `format(&Rfc3339)`. -/
def text (t : Zoned) : String :=
  String.ofList (written shape t.spelling.fields ++
    ((if t.nanosecond = 0 then [] else '.' :: trimmed 9 t.nanosecond) ++ t.spelling.offset.text))

/-- The same local time in UTC. -/
def utc (t : Zoned) : OffsetDateTime where
  year := t.spelling.year
  month := t.spelling.month
  day := t.spelling.day
  hour := t.spelling.hour
  minute := t.spelling.minute
  second := t.spelling.second
  nanosecond := t.nanosecond
  year_lt := t.spelling.year_lt
  month_le := t.spelling.month_range.2
  day_le := by
    have hlength : ∀ leap, ∀ m < 13, monthDays leap (m + 1) ≤ monthDays leap m + 31 := by decide
    have hmonth := t.spelling.month_range
    have := hlength (isLeap t.spelling.year) t.spelling.month (by omega)
    have := t.spelling.day_range
    omega
  hour_lt := t.spelling.hour_lt
  minute_lt := t.spelling.minute_lt
  second_lt := t.spelling.second_lt
  nanosecond_lt := by
    have hlt := t.spelling.decimals_lt
    rw [t.places_eq] at hlt
    exact hlt

theorem fields_utc (t : Zoned) : t.utc.fields = t.spelling.fields := rfl

theorem text_eq_fmtTs (h : t.isUtc = true) : t.text = fmtTs t.utc := by
  have hoffset : t.spelling.offset = .z := of_decide_eq_true h
  unfold text fmtTs
  rw [hoffset, fields_utc]
  show _ = String.ofList (_ ++ fraction t.nanosecond)
  unfold fraction
  split <;> simp [Offset.text]

/-- Neither fraction of one second is the other's first decimals. -/
def Unlike (t u : Zoned) : Prop :=
  t.spelling.fields = u.spelling.fields → t.nanosecond ≠ u.nanosecond →
    ¬CutShort t.nanosecond u.nanosecond ∧ ¬CutShort u.nanosecond t.nanosecond

theorem Unlike.symm (h : t.Unlike u) : u.Unlike t := fun hfields hnano => (h hfields.symm hnano.symm).symm

theorem instant_lt (ht : t.isUtc = true) (hu : u.isUtc = true)
    (h : t.spelling.fields < u.spelling.fields ∨ t.spelling.fields = u.spelling.fields ∧ t.nanosecond < u.nanosecond) :
    t.instant < u.instant := by
  have hoffset : t.spelling.offset = u.spelling.offset := (of_decide_eq_true ht).trans (of_decide_eq_true hu).symm
  have hnano : ∀ v : Zoned, v.spelling.nanosecond = v.nanosecond := by
    intro v
    unfold Spelling.nanosecond nanosecond
    rw [v.places_eq]
    simp
  rcases h with hlt | ⟨heq, hlt⟩
  · have hsecond := Spelling.localSecond_lt hlt
    have hbound := t.spelling.nanosecond_lt
    unfold instant Spelling.instant
    rw [hoffset]
    omega
  · have hle : t.instant ≤ u.instant :=
      Spelling.instant_le hoffset (t.places_eq.trans u.places_eq.symm) (.inr ⟨heq, hlt.le⟩)
    have hge : ¬u.instant ≤ t.instant := by
      intro hge
      have hsame : t.spelling.dayNumber = u.spelling.dayNumber ∧ t.spelling.secondOfDay = u.spelling.secondOfDay := by
        unfold Spelling.fields at heq
        simp only [List.cons.injEq, and_true] at heq
        obtain ⟨hyear, hmonth, hday, hhour, hminute, hsecond⟩ := heq
        unfold Spelling.dayNumber Spelling.secondOfDay
        rw [hyear, hmonth, hday, hhour, hminute, hsecond]
        exact ⟨rfl, rfl⟩
      unfold instant Spelling.instant at hge
      rw [hoffset, hsame.1, hsame.2, hnano, hnano] at hge
      omega
    omega

/-- In UTC, and where neither fraction is the other cut short, texts sort as instants. -/
theorem text_lt_iff (ht : t.isUtc = true) (hu : u.isUtc = true)
    (h : t.Unlike u) : t.text < u.text ↔ t.instant < u.instant := by
  have hsorts : t.utc.SortsBefore u.utc ↔
      t.spelling.fields < u.spelling.fields ∨ t.spelling.fields = u.spelling.fields ∧ t.nanosecond < u.nanosecond := by
    refine or_congr Iff.rfl (and_congr_right fun heq => ?_)
    show t.nanosecond < u.nanosecond ∧ ¬CutShort t.nanosecond u.nanosecond ∨
      u.nanosecond < t.nanosecond ∧ CutShort u.nanosecond t.nanosecond ↔ _
    constructor
    · rintro (⟨hlt, _⟩ | ⟨hgt, hcut⟩)
      · exact hlt
      · exact absurd hcut (h heq (by omega)).2
    · intro hlt
      exact .inl ⟨hlt, (h heq (by omega)).1⟩
  rw [text_eq_fmtTs ht, text_eq_fmtTs hu, OffsetDateTime.fmtTs_lt_iff, hsorts]
  refine ⟨instant_lt ht hu, fun hlt => ?_⟩
  rcases lt_trichotomy t.spelling.fields u.spelling.fields with hfields | hfields | hfields
  · exact .inl hfields
  · refine .inr ⟨hfields, ?_⟩
    rcases Nat.lt_trichotomy t.nanosecond u.nanosecond with hnano | hnano | hnano
    · exact hnano
    · have hle : u.instant ≤ t.instant :=
        Spelling.instant_le ((of_decide_eq_true hu).trans (of_decide_eq_true ht).symm)
          (u.places_eq.trans t.places_eq.symm)
          (.inr ⟨hfields.symm, hnano.ge⟩)
      omega
    · have := instant_lt hu ht (.inr ⟨hfields.symm, hnano⟩)
      omega
  · have := instant_lt hu ht (.inl hfields)
    omega

end Zoned

end Nq.Text
