import SmeDataCenter.CalendarTexts
import SmeDataCenter.CivilMonths

/-!
# Dates in universal time

A date of the language is a number of milliseconds. What it is asked for and what is set in it go
through its day, and its text begins with the year, the month and the day of the month.
-/

namespace SmeDataCenter
namespace UtcDates

open CivilMonths

def msPerDay : ℤ := 86400000

def dayOf (time : ℤ) : ℤ := time / msPerDay

def timeWithinDay (time : ℤ) : ℤ := time % msPerDay

/-- The day that a year, a month counted from 0 and a day of the month name. Months and days
beyond the last of the year and of the month are those that follow. -/
def makeDay (year month date : ℤ) : ℤ := monthStart (12 * year + month) + date - 1

def makeDate (day time : ℤ) : ℤ := day * msPerDay + time

/-! ### What a date is asked for, and what is set in it -/

def getUTCFullYear (time : ℤ) : ℤ := yearOf (dayOf time)

def getUTCMonth (time : ℤ) : ℤ := monthOf (dayOf time) % 12

def getUTCDate (time : ℤ) : ℤ := dayOfMonth (dayOf time)

/-- The day of the week, Sunday first. The first day was a Thursday. -/
def getUTCDay (time : ℤ) : ℤ := (dayOf time + 4) % 7

def setUTCFullYear (time year : ℤ) : ℤ :=
  makeDate (makeDay year (getUTCMonth time) (getUTCDate time)) (timeWithinDay time)

def setUTCMonth (time month date : ℤ) : ℤ :=
  makeDate (makeDay (getUTCFullYear time) month date) (timeWithinDay time)

def setUTCDate (time date : ℤ) : ℤ :=
  makeDate (makeDay (getUTCFullYear time) (getUTCMonth time) date) (timeWithinDay time)

/-! ### Texts -/

/-- A number in a width, with zeros before it. -/
def paddedDigits : ℕ → ℕ → Text
  | 0, _ => []
  | width + 1, n => paddedDigits width (n / 10) ++ [Nat.digitChar (n % 10)]

/-- A year that four digits do not write has a sign and six. -/
def yearText (year : ℤ) : Text :=
  if 0 ≤ year ∧ year ≤ 9999 then paddedDigits 4 year.toNat
  else (if 0 ≤ year then '+' else '-') :: paddedDigits 6 year.natAbs

/-- The date of a day, as texts of dates begin. -/
def isoDate (day : ℤ) : Text :=
  yearText (yearOf day) ++ '-' :: (paddedDigits 2 (monthOf day % 12 + 1).toNat ++
    '-' :: paddedDigits 2 (dayOfMonth day).toNat)

def toISOString (time : ℤ) : Text :=
  let clock := (timeWithinDay time).toNat
  isoDate (dayOf time) ++ 'T' :: (paddedDigits 2 (clock / 3600000) ++
    ':' :: (paddedDigits 2 (clock / 60000 % 60) ++
    ':' :: (paddedDigits 2 (clock / 1000 % 60) ++
    '.' :: (paddedDigits 3 (clock % 1000) ++ "Z".toList))))

/-! ### Midnights -/

def midnight (day : ℤ) : ℤ := makeDate day 0

@[simp] lemma dayOf_midnight (day : ℤ) : dayOf (midnight day) = day := by
  simp only [midnight, makeDate, dayOf, msPerDay]
  omega

@[simp] lemma timeWithinDay_midnight (day : ℤ) : timeWithinDay (midnight day) = 0 := by
  simp only [midnight, makeDate, timeWithinDay, msPerDay]
  omega

lemma midnight_le_iff {a b : ℤ} : midnight a ≤ midnight b ↔ a ≤ b := by
  simp only [midnight, makeDate, msPerDay]
  omega

lemma midnight_add (day days : ℤ) : midnight day + days * msPerDay = midnight (day + days) := by
  simp only [midnight, makeDate, msPerDay]
  omega

lemma midnight_sub (day days : ℤ) : midnight day - days * msPerDay = midnight (day - days) := by
  simp only [midnight, makeDate, msPerDay]
  omega

lemma midnight_min (a b : ℤ) : min (midnight a) (midnight b) = midnight (min a b) := by
  rcases le_total a b with h | h
  · rw [min_eq_left h, min_eq_left (midnight_le_iff.mpr h)]
  · rw [min_eq_right h, min_eq_right (midnight_le_iff.mpr h)]

@[simp] lemma getUTCFullYear_midnight (day : ℤ) :
    getUTCFullYear (midnight day) = monthOf day / 12 := by
  rw [getUTCFullYear, dayOf_midnight, yearOf]

@[simp] lemma getUTCMonth_midnight (day : ℤ) : getUTCMonth (midnight day) = monthOf day % 12 := by
  rw [getUTCMonth, dayOf_midnight]

lemma setUTCMonth_midnight {day month date target : ℤ}
    (h : 12 * (monthOf day / 12) + month = target) :
    setUTCMonth (midnight day) month date = midnight (monthStart target + date - 1) := by
  rw [setUTCMonth, timeWithinDay_midnight, getUTCFullYear_midnight, makeDay, h, midnight]

@[simp] lemma setUTCDate_midnight (day date : ℤ) :
    setUTCDate (midnight day) date = midnight (monthStart (monthOf day) + date - 1) := by
  rw [setUTCDate, timeWithinDay_midnight, getUTCFullYear_midnight, getUTCMonth_midnight, makeDay,
    midnight]
  congr 4
  omega

@[simp] lemma setUTCFullYear_midnight (day years : ℤ) :
    setUTCFullYear (midnight day) (monthOf day / 12 - years) =
      midnight (monthStart (monthOf day - 12 * years) + dayOfMonth day - 1) := by
  rw [setUTCFullYear, timeWithinDay_midnight, getUTCMonth_midnight, getUTCDate, dayOf_midnight,
    makeDay, midnight]
  congr 4
  omega

/-! ### What a text of a date writes -/

/-- The day of a date. -/
def dateDay (date : CalendarDate) : ℤ := makeDay date.year (date.month - 1) date.day

lemma length_paddedDigits (width n : ℕ) : (paddedDigits width n).length = width := by
  induction width generalizing n with
  | zero => rfl
  | succ width ih => simp [paddedDigits, ih]

lemma isDigit_digitChar {n : ℕ} (h : n < 10) : Text.isDigit (Nat.digitChar n) = true := by
  interval_cases n <;> decide

lemma digitValue_digitChar {n : ℕ} (h : n < 10) : digitValue (Nat.digitChar n) = n := by
  interval_cases n <;> decide

lemma isDigits_paddedDigits (width n : ℕ) : DecimalNumerals.IsDigits (paddedDigits width n) := by
  induction width generalizing n with
  | zero => exact DecimalNumerals.isDigits_nil
  | succ width ih =>
    rw [paddedDigits, DecimalNumerals.isDigits_append, DecimalNumerals.isDigits_cons]
    exact ⟨ih _, isDigit_digitChar (Nat.mod_lt _ (by omega)), DecimalNumerals.isDigits_nil⟩

lemma digitsValue_paddedDigits {width n : ℕ} (h : n < 10 ^ width) :
    digitsValue (paddedDigits width n) = n := by
  induction width generalizing n with
  | zero =>
    rw [pow_zero] at h
    rw [paddedDigits, digitsValue, List.foldl_nil]
    omega
  | succ width ih =>
    have hdigit := digitValue_digitChar (Nat.mod_lt n (show 0 < 10 by omega))
    have hrest := ih (n := n / 10) (by rw [pow_succ] at h; omega)
    rw [digitsValue] at hrest ⊢
    rw [paddedDigits, List.foldl_append, hrest, List.foldl_cons, List.foldl_nil, hdigit]
    omega

lemma daysInMonth_eq (year : ℕ) {month : ℕ} (h₁ : 1 ≤ month) (h₂ : month ≤ 12) :
    (daysInMonth year month : ℤ) = monthLength (12 * year + (month - 1)) := by
  have hyear : (12 * (year : ℤ) + (month - 1)) / 12 = year := by omega
  have hmonth : (12 * (year : ℤ) + (month - 1)) % 12 = month - 1 := by omega
  have hleap : isLeap year = isLeapYear year := by
    unfold isLeap isLeapYear
    norm_cast
  rw [monthLength_eq, hyear, hmonth, hleap, daysInMonth]
  interval_cases month <;> cases isLeapYear year <;> decide

lemma calendarDay_bounds {year month day : ℕ} (h : isCalendarDay year month day = true) :
    1 ≤ month ∧ month ≤ 12 ∧ 1 ≤ day ∧ day ≤ daysInMonth year month := by
  simpa [isCalendarDay, and_assoc] using h

lemma monthOf_dateDay (date : CalendarDate) :
    monthOf (dateDay date) = 12 * date.year + (date.month - 1) := by
  obtain ⟨h₁, h₂, hday, hlength⟩ := calendarDay_bounds date.valid
  have hmonth := daysInMonth_eq date.year h₁ h₂
  refine monthOf_eq ?_ ?_
  · rw [dateDay, makeDay]
    omega
  · rw [dateDay, makeDay, monthStart_succ]
    omega

lemma isCalendarDay_of_day (day : ℤ) (hyear : 0 ≤ yearOf day) :
    isCalendarDay (yearOf day).toNat (monthOf day % 12 + 1).toNat (dayOfMonth day).toNat =
      true := by
  have hday := dayOfMonth_bounds day
  have hlength := @daysInMonth_eq (yearOf day).toNat (monthOf day % 12 + 1).toNat
    (by omega) (by omega)
  have hmonth : 12 * ((yearOf day).toNat : ℤ) + ((monthOf day % 12 + 1).toNat - 1) =
      monthOf day := by
    unfold yearOf at *
    omega
  rw [hmonth] at hlength
  simp only [isCalendarDay, Bool.and_eq_true, decide_eq_true_eq]
  omega

lemma isoDate_parts {day : ℤ} (hyear : 0 ≤ yearOf day ∧ yearOf day ≤ 9999) :
    CalendarTexts.DateParts (isoDate day) (paddedDigits 4 (yearOf day).toNat)
      (paddedDigits 2 (monthOf day % 12 + 1).toNat) (paddedDigits 2 (dayOfMonth day).toNat) where
  text_eq := by rw [isoDate, yearText, if_pos hyear]
  year := ⟨isDigits_paddedDigits _ _, length_paddedDigits _ _⟩
  month := ⟨isDigits_paddedDigits _ _, length_paddedDigits _ _⟩
  day := ⟨isDigits_paddedDigits _ _, length_paddedDigits _ _⟩

/-- A day of a year with four digits is read back from its text. -/
theorem readIsoDate_isoDate {day : ℤ} (hyear : 0 ≤ yearOf day ∧ yearOf day ≤ 9999) :
    ∃ date, readIsoDate (isoDate day) = some date ∧ dateDay date = day := by
  have hday := dayOfMonth_bounds day
  have hlength := monthLength_bounds (monthOf day)
  have hvalid := isCalendarDay_of_day day hyear.1
  refine ⟨⟨_, _, _, hvalid⟩, ?_, ?_⟩
  · rw [CalendarTexts.readIsoDate_eq (isoDate_parts hyear), digitsValue_paddedDigits (by omega),
      digitsValue_paddedDigits (by omega), digitsValue_paddedDigits (by omega), calendarDate,
      dif_pos hvalid]
  · have hmonth : 12 * ((yearOf day).toNat : ℤ) + ((monthOf day % 12 + 1).toNat - 1) =
        monthOf day := by
      unfold yearOf at *
      omega
    have hname := monthStart_add_dayOfMonth day
    have hdate : ((dayOfMonth day).toNat : ℤ) = dayOfMonth day := by omega
    rw [dateDay, makeDay, hmonth, hdate, hname]

lemma year_le_of_readIsoDate {text : Text} {date : CalendarDate}
    (h : readIsoDate text = some date) : date.year ≤ 9999 := by
  obtain ⟨year, month, day, hparts⟩ :=
    CalendarTexts.exists_dateParts (Option.isSome_of_mem h)
  have hyear := DecimalNumerals.digitsValue_lt hparts.year.1
  rw [CalendarTexts.readIsoDate_eq hparts, calendarDate] at h
  split_ifs at h with hvalid
  cases h
  rw [hparts.year.2] at hyear
  show digitsValue year ≤ 9999
  omega

/-! ### The first ten characters -/

lemma length_isoDate (day : ℤ) :
    (isoDate day).length = if 0 ≤ yearOf day ∧ yearOf day ≤ 9999 then 10 else 13 := by
  rw [isoDate, yearText]
  split_ifs <;> simp [length_paddedDigits]

lemma take_toISOString (day : ℤ) :
    (toISOString (midnight day)).take 10 = (isoDate day).take 10 := by
  have hlength := length_isoDate day
  rw [toISOString, dayOf_midnight, List.take_append_of_le_length]
  split_ifs at hlength <;> omega

lemma take_toISOString_eq_iff (day : ℤ) :
    (toISOString (midnight day)).take 10 = isoDate day ↔ 0 ≤ yearOf day ∧ yearOf day ≤ 9999 := by
  have hlength := length_isoDate day
  rw [take_toISOString, List.take_eq_self_iff]
  split_ifs at hlength with hyear <;> simp [hyear] <;> omega

end UtcDates
end SmeDataCenter
