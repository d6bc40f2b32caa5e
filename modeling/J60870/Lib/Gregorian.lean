import Mathlib.Algebra.BigOperators.Group.List.Basic
import Mathlib.Algebra.GroupWithZero.Nat
import Mathlib.Data.Int.Order.Basic
import Mathlib.Logic.Equiv.Defs
import Mathlib.Order.Monotone.Basic

/-! The proleptic Gregorian calendar: dates and numbers of days, and moments and numbers of
milliseconds, are the same thing. -/

namespace Lib

section Locate

variable {lengths : List Nat} {d i rest : Nat}

/-- Of consecutive stretches of the given lengths the one a position falls into, and the place
in it. -/
def locate : List Nat → Nat → Nat × Nat
  | [], d => (0, d)
  | length :: lengths, d =>
    if d < length then (0, d)
    else ((locate lengths (d - length)).1 + 1, (locate lengths (d - length)).2)

/-- The stretches in front of the one found, and the place in it, are the position. -/
theorem locate_sum (lengths : List Nat) (d : Nat) :
    (lengths.take (locate lengths d).1).sum + (locate lengths d).2 = d := by
  induction lengths generalizing d with
  | nil => simp [locate]
  | cons length lengths ih =>
    by_cases first : d < length
    · simp [locate, first]
    · have behind := ih (d - length)
      simp only [locate, first, if_false, List.take_succ_cons, List.sum_cons]
      omega

theorem locate_inside (inside : d < lengths.sum) :
    ∃ length, lengths[(locate lengths d).1]? = some length ∧ (locate lengths d).2 < length := by
  induction lengths generalizing d with
  | nil => simp at inside
  | cons length lengths ih =>
    by_cases first : d < length
    · exact ⟨length, by simp [locate, first], by simp [locate, first]⟩
    · rw [List.sum_cons] at inside
      obtain ⟨found, here, bound⟩ := ih (d := d - length) (by omega)
      refine ⟨found, ?_, ?_⟩
      · simpa [locate, first] using here
      · simpa [locate, first] using bound

/-- A place in a stretch is found there. -/
theorem locate_take_sum {length : Nat} (here : lengths[i]? = some length) (bound : rest < length) :
    locate lengths ((lengths.take i).sum + rest) = (i, rest) := by
  induction lengths generalizing i with
  | nil => simp at here
  | cons first lengths ih =>
    cases i with
    | zero =>
      obtain rfl : first = length := by simpa using here
      simp [locate, bound]
    | succ i =>
      have behind := ih (i := i) (by simpa using here)
      rw [List.take_succ_cons, List.sum_cons, locate, if_neg (by omega)]
      have place : first + (lengths.take i).sum + rest - first = (lengths.take i).sum + rest := by
        omega
      rw [place, behind]

theorem take_sum_lt {length : Nat} (here : lengths[i]? = some length) (bound : rest < length) :
    (lengths.take i).sum + rest < lengths.sum := by
  induction lengths generalizing i with
  | nil => simp at here
  | cons first lengths ih =>
    rw [List.sum_cons]
    cases i with
    | zero =>
      obtain rfl : first = length := by simpa using here
      rw [List.take_zero, List.sum_nil]
      omega
    | succ i =>
      have behind := ih (i := i) (by simpa using here)
      rw [List.take_succ_cons, List.sum_cons]
      omega

end Locate

namespace Gregorian

def IsLeap (year : Int) : Prop := year % 4 = 0 ∧ (year % 100 = 0 → year % 400 = 0)

instance : DecidablePred IsLeap := fun year => by unfold IsLeap; infer_instance

def yearLength (year : Int) : Nat := if IsLeap year then 366 else 365

def monthLengths (year : Int) : List Nat :=
  [31, if IsLeap year then 29 else 28, 31, 30, 31, 30, 31, 31, 30, 31, 30, 31]

theorem monthLengths_sum (year : Int) : (monthLengths year).sum = yearLength year := by
  by_cases leap : IsLeap year <;> simp [monthLengths, yearLength, leap]

theorem monthLengths_length (year : Int) : (monthLengths year).length = 12 := rfl

theorem monthLengths_le (year : Int) : ∀ length ∈ monthLengths year, length ≤ 31 := by
  by_cases leap : IsLeap year <;> simp [monthLengths, leap]

section Years

variable {year other days : Int}

/-- The days from the first day of year 1 to the first day of a year. -/
def yearStart (year : Int) : Int :=
  365 * (year - 1) + (year - 1) / 4 - (year - 1) / 100 + (year - 1) / 400

theorem yearStart_succ (year : Int) : yearStart (year + 1) = yearStart year + yearLength year := by
  by_cases leap : IsLeap year
  · rw [yearLength, if_pos leap]
    rw [IsLeap] at leap
    simp only [yearStart]
    omega
  · rw [yearLength, if_neg leap]
    rw [IsLeap] at leap
    simp only [yearStart]
    omega

theorem yearStart_lt_iff : yearStart year < yearStart other ↔ year < other := by
  have grows (year : Int) : yearStart year < yearStart (year + 1) := by
    have length : 0 < yearLength year := by
      rw [yearLength]
      split <;> omega
    rw [yearStart_succ]
    omega
  exact (strictMono_int_of_lt_succ grows).lt_iff_lt

/-- The year a day is in, by way of the cycle of 400 years, the century in it, the four years in
that, and the year in these. -/
def yearOf (days : Int) : Int :=
  let inCycle := days % 146097
  let century := min (inCycle / 36524) 3
  let inCentury := inCycle - 36524 * century
  400 * (days / 146097) + 100 * century + 4 * (inCentury / 1461) + min (inCentury % 1461 / 365) 3 + 1

private theorem yearStart_parts (cycle century fours one : Int) (hundred : 0 ≤ century ∧ century ≤ 3)
    (four : 0 ≤ fours ∧ fours ≤ 24) (single : 0 ≤ one ∧ one ≤ 3) :
    yearStart (400 * cycle + 100 * century + 4 * fours + one + 1) =
      146097 * cycle + 36524 * century + 1461 * fours + 365 * one := by
  -- The first day of a year from its place in the cycle.
  simp only [yearStart]
  omega

private theorem yearLength_parts (cycle century fours one day : Int)
    (hundred : 0 ≤ century ∧ century ≤ 3) (four : 0 ≤ fours ∧ fours ≤ 24) (single : 0 ≤ one ∧ one ≤ 3)
    (inCentury : century < 3 → 1461 * fours + 365 * one + day < 36524)
    (inFour : 365 * one + day < 1461) (short : one < 3 → day < 365) :
    day < yearLength (400 * cycle + 100 * century + 4 * fours + one + 1) := by
  by_cases leap : IsLeap (400 * cycle + 100 * century + 4 * fours + one + 1)
  · rw [yearLength, if_pos leap]
    omega
  · rw [yearLength, if_neg leap]
    rw [IsLeap] at leap
    omega

theorem yearOf_spec (days : Int) : yearStart (yearOf days) ≤ days ∧ days < yearStart (yearOf days + 1) := by
  have split : 0 ≤ days % 146097 ∧ days % 146097 < 146097 ∧
      146097 * (days / 146097) + days % 146097 = days := by omega
  simp only [yearOf]
  generalize days / 146097 = cycle, days % 146097 = inCycle at split
  have hundred : 0 ≤ min (inCycle / 36524) 3 ∧ min (inCycle / 36524) 3 ≤ 3 := by omega
  have splitCycle : 36524 * min (inCycle / 36524) 3 ≤ inCycle ∧
      (min (inCycle / 36524) 3 < 3 → inCycle < 36524 * min (inCycle / 36524) 3 + 36524) := by omega
  generalize min (inCycle / 36524) 3 = century at hundred splitCycle
  have left : 0 ≤ inCycle - 36524 * century ∧ inCycle - 36524 * century < 36525 ∧
      (century < 3 → inCycle - 36524 * century < 36524) := by omega
  generalize named : inCycle - 36524 * century = inCentury at left
  have four : 0 ≤ inCentury / 1461 ∧ inCentury / 1461 ≤ 24 := by omega
  have splitCentury : 0 ≤ inCentury % 1461 ∧ inCentury % 1461 < 1461 ∧
      1461 * (inCentury / 1461) + inCentury % 1461 = inCentury := by omega
  generalize inCentury / 1461 = fours, inCentury % 1461 = inFour at four splitCentury
  have single : 0 ≤ min (inFour / 365) 3 ∧ min (inFour / 365) 3 ≤ 3 := by omega
  have day : 0 ≤ inFour - 365 * min (inFour / 365) 3 ∧
      (min (inFour / 365) 3 < 3 → inFour - 365 * min (inFour / 365) 3 < 365) := by omega
  generalize min (inFour / 365) 3 = one at single day
  have inCentury_lt : century < 3 → 1461 * fours + 365 * one + (inFour - 365 * one) < 36524 := by
    intro early
    have short := left.2.2 early
    omega
  have length := yearLength_parts cycle century fours one (inFour - 365 * one) hundred four single
    inCentury_lt (by omega) day.2
  rw [yearStart_succ (_ + one + 1), yearStart_parts cycle century fours one hundred four single]
  omega

theorem yearOf_eq (started : yearStart year ≤ days) (inside : days < yearStart (year + 1)) :
    yearOf days = year := by
  obtain ⟨first, last⟩ := yearOf_spec days
  have least : year < yearOf days + 1 := yearStart_lt_iff.mp (started.trans_lt last)
  have most : yearOf days < year + 1 := yearStart_lt_iff.mp (first.trans_lt inside)
  omega

end Years

/-- A date, month and day counted from 1. -/
@[ext] structure Date where
  year : Int
  month : Nat
  day : Nat
  month_pos : 1 ≤ month
  day_pos : 1 ≤ day
  /-- the month is there, and is long enough -/
  inMonth : ∃ length, (monthLengths year)[month - 1]? = some length ∧ day ≤ length

namespace Date

theorem month_le (date : Date) : date.month ≤ 12 := by
  obtain ⟨length, here, _⟩ := date.inMonth
  have inside := (List.getElem?_eq_some_iff.mp here).1
  rw [monthLengths_length] at inside
  omega

theorem day_le (date : Date) : date.day ≤ 31 := by
  obtain ⟨length, here, most⟩ := date.inMonth
  exact most.trans (monthLengths_le date.year length (List.mem_of_getElem? here))

/-- The days of the year in front of a date. -/
def dayOfYear (date : Date) : Nat := ((monthLengths date.year).take (date.month - 1)).sum + (date.day - 1)

/-- The days from the first day of year 1 to a date. -/
def toDays (date : Date) : Int := yearStart date.year + date.dayOfYear

theorem locate_dayOfYear (date : Date) :
    locate (monthLengths date.year) date.dayOfYear = (date.month - 1, date.day - 1) := by
  obtain ⟨length, here, most⟩ := date.inMonth
  have first := date.day_pos
  exact locate_take_sum here (by omega)

theorem dayOfYear_lt (date : Date) : date.dayOfYear < yearLength date.year := by
  obtain ⟨length, here, most⟩ := date.inMonth
  have first := date.day_pos
  rw [dayOfYear, ← monthLengths_sum]
  exact take_sum_lt here (by omega)

def ofDays (days : Int) : Date where
  year := yearOf days
  month := (locate (monthLengths (yearOf days)) (days - yearStart (yearOf days)).toNat).1 + 1
  day := (locate (monthLengths (yearOf days)) (days - yearStart (yearOf days)).toNat).2 + 1
  month_pos := by omega
  day_pos := by omega
  inMonth := by
    have year := yearOf_spec days
    rw [yearStart_succ] at year
    have inside : (days - yearStart (yearOf days)).toNat < (monthLengths (yearOf days)).sum := by
      rw [monthLengths_sum]
      omega
    obtain ⟨length, here, bound⟩ := locate_inside inside
    exact ⟨length, here, bound⟩

theorem toDays_ofDays (days : Int) : (ofDays days).toDays = days := by
  have year := yearOf_spec days
  have whole := locate_sum (monthLengths (yearOf days)) (days - yearStart (yearOf days)).toNat
  simp only [toDays, dayOfYear, ofDays, Nat.add_sub_cancel, whole]
  omega

theorem yearOf_toDays (date : Date) : yearOf date.toDays = date.year := by
  have inside := date.dayOfYear_lt
  refine yearOf_eq ?_ ?_
  · rw [toDays]
    omega
  · rw [toDays, yearStart_succ]
    omega

theorem ofDays_toDays (date : Date) : ofDays date.toDays = date := by
  have place : (date.toDays - yearStart date.year).toNat = date.dayOfYear := by
    rw [toDays]
    omega
  have month := date.month_pos
  have day := date.day_pos
  ext
  · exact date.yearOf_toDays
  · simp only [ofDays, date.yearOf_toDays, place, date.locate_dayOfYear]
    omega
  · simp only [ofDays, date.yearOf_toDays, place, date.locate_dayOfYear]
    omega

/-- Dates and numbers of days. -/
def equivDays : Date ≃ Int where
  toFun := toDays
  invFun := ofDays
  left_inv := ofDays_toDays
  right_inv := toDays_ofDays

/-- The day of the week, 1 for Monday. -/
def dayOfWeek (date : Date) : Nat := (date.toDays % 7).toNat + 1

/-- The first day of 1970. -/
def epoch : Date := ⟨1970, 1, 1, by decide, by decide, 31, rfl, by decide⟩

theorem epoch_toDays : epoch.toDays = 719162 := by decide

end Date

/-- A moment of a date. -/
@[ext] structure Moment where
  date : Date
  hour : Nat
  minute : Nat
  second : Nat
  millisecond : Nat
  hour_lt : hour < 24
  minute_lt : minute < 60
  second_lt : second < 60
  millisecond_lt : millisecond < 1000

/-- The milliseconds of fields that may be out of their range: each counts on from where the fields
in front of it are. Months are counted from 0 here. -/
def lenientMillis (year month day hour minute second millisecond : Int) : Int :=
  let monthStart := ((monthLengths (year + month / 12)).take (month % 12).toNat).sum
  (((24 * (yearStart (year + month / 12) + monthStart + (day - 1) - Date.epoch.toDays) + hour) * 60 +
    minute) * 60 + second) * 1000 + millisecond

namespace Moment

/-- The milliseconds from the first moment of 1970 on. -/
def toMillis (moment : Moment) : Int :=
  (((24 * (moment.date.toDays - Date.epoch.toDays) + moment.hour) * 60 + moment.minute) * 60 +
    moment.second) * 1000 + moment.millisecond

def ofMillis (millis : Int) : Moment where
  date := Date.ofDays (millis / 86400000 + Date.epoch.toDays)
  hour := (millis % 86400000 / 3600000).toNat
  minute := (millis % 3600000 / 60000).toNat
  second := (millis % 60000 / 1000).toNat
  millisecond := (millis % 1000).toNat
  hour_lt := by omega
  minute_lt := by omega
  second_lt := by omega
  millisecond_lt := by omega

theorem toMillis_ofMillis (millis : Int) : (ofMillis millis).toMillis = millis := by
  simp only [toMillis, ofMillis, Date.toDays_ofDays]
  omega

theorem ofMillis_toMillis (moment : Moment) : ofMillis moment.toMillis = moment := by
  obtain ⟨date, hour, minute, second, millisecond, hours, minutes, seconds, milliseconds⟩ := moment
  have day : ∀ days : Int, ((((24 * days + hour) * 60 + minute) * 60 + second) * 1000 + millisecond) /
      86400000 = days := by omega
  ext1
  · simp only [ofMillis, toMillis]
    rw [day, Int.sub_add_cancel, Date.ofDays_toDays]
  all_goals
    simp only [ofMillis, toMillis]
    omega

theorem lenientMillis_eq (moment : Moment) :
    lenientMillis moment.date.year (moment.date.month - 1) moment.date.day moment.hour moment.minute
      moment.second moment.millisecond = moment.toMillis := by
  have first := moment.date.month_pos
  have last := moment.date.month_le
  have day := moment.date.day_pos
  have sameYear : moment.date.year + ((moment.date.month : Int) - 1) / 12 = moment.date.year := by omega
  have sameMonth : (((moment.date.month : Int) - 1) % 12).toNat = moment.date.month - 1 := by omega
  have days : moment.date.toDays = yearStart moment.date.year +
      ((monthLengths moment.date.year).take (moment.date.month - 1)).sum + (moment.date.day - 1) := by
    rw [Date.toDays, Date.dayOfYear]
    omega
  rw [lenientMillis, sameYear, sameMonth, toMillis, days]

/-- Moments and numbers of milliseconds. -/
def equivMillis : Moment ≃ Int where
  toFun := toMillis
  invFun := ofMillis
  left_inv := ofMillis_toMillis
  right_inv := toMillis_ofMillis

end Moment

end Gregorian

end Lib
