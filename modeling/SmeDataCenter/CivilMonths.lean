import Mathlib

/-!
# Months of the calendar

The proleptic Gregorian calendar on the integers: days are counted from 1 January 1970, months
from January of the year 0, so that a year has the months from twelve times its number on. A month
begins where the one before it ends, and a day lies in exactly one month.
-/

namespace SmeDataCenter
namespace CivilMonths

def isLeap (year : ℤ) : Bool := year % 4 = 0 && (year % 100 ≠ 0 || year % 400 = 0)

/-- The first day of a year. -/
def yearStart (year : ℤ) : ℤ :=
  365 * (year - 1970) + (year - 1969) / 4 - (year - 1901) / 100 + (year - 1601) / 400

/-- The days of the year before a month of it, the months counted from 0. -/
def daysBefore (leap : Bool) (month : ℤ) : ℤ :=
  (367 * month + 5) / 12 - if month < 2 then 0 else if leap then 1 else 2

/-- The first day of a month. -/
def monthStart (month : ℤ) : ℤ :=
  yearStart (month / 12) + daysBefore (isLeap (month / 12)) (month % 12)

def monthLength (month : ℤ) : ℤ := monthStart (month + 1) - monthStart month

/-! ### The lengths of years and months -/

lemma yearStart_succ (year : ℤ) :
    yearStart (year + 1) = yearStart year + if isLeap year then 366 else 365 := by
  unfold yearStart isLeap
  simp only [ne_eq, decide_not, Bool.and_eq_true, decide_eq_true_eq, Bool.or_eq_true,
    Bool.not_eq_eq_eq_not, Bool.not_true, decide_eq_false_iff_not]
  split_ifs <;> omega

/-- The days before each month, as a calendar lists them. -/
example : ([0, 1, 2, 3, 4, 5, 6, 7, 8, 9, 10, 11].map (daysBefore false)) =
    [0, 31, 59, 90, 120, 151, 181, 212, 243, 273, 304, 334] := by decide

lemma daysBefore_succ (leap : Bool) {month : ℤ} (h₀ : 0 ≤ month) (h₁ : month < 11) :
    daysBefore leap (month + 1) - daysBefore leap month =
      if month = 1 then (if leap then 29 else 28)
      else if month = 3 ∨ month = 5 ∨ month = 8 ∨ month = 10 then 30 else 31 := by
  unfold daysBefore
  cases leap <;> interval_cases month <;> decide

lemma monthLength_eq (month : ℤ) :
    monthLength month =
      if month % 12 = 1 then (if isLeap (month / 12) then 29 else 28)
      else if month % 12 = 3 ∨ month % 12 = 5 ∨ month % 12 = 8 ∨ month % 12 = 10 then 30
      else 31 := by
  unfold monthLength monthStart
  by_cases hlast : month % 12 = 11
  · have hyear : (month + 1) / 12 = month / 12 + 1 := by omega
    have hmonth : (month + 1) % 12 = 0 := by omega
    rw [hyear, hmonth, hlast, yearStart_succ]
    cases isLeap (month / 12) <;> simp [daysBefore]
  · have hyear : (month + 1) / 12 = month / 12 := by omega
    have hmonth : (month + 1) % 12 = month % 12 + 1 := by omega
    rw [hyear, hmonth, ← daysBefore_succ (isLeap (month / 12)) (by omega) (by omega)]
    ring

lemma monthLength_bounds (month : ℤ) : 28 ≤ monthLength month ∧ monthLength month ≤ 31 := by
  rw [monthLength_eq]
  split_ifs <;> omega

lemma monthStart_succ (month : ℤ) :
    monthStart (month + 1) = monthStart month + monthLength month := by
  unfold monthLength
  omega

lemma monthStart_strictMono : StrictMono monthStart := by
  refine strictMono_int_of_lt_succ fun month => ?_
  have := monthLength_bounds month
  rw [monthStart_succ]
  omega

/-! ### The month of a day -/

/-- The last of the next months that has begun by a day. -/
def lastBegun (day : ℤ) : ℕ → ℤ → ℤ
  | 0, month => month
  | fuel + 1, month =>
    if day < monthStart (month + 1) then month else lastBegun day fuel (month + 1)

/-- The month of a day. Four hundred years have 146097 days, and no month begins more than a week
from where months of one length would have it. -/
def monthOf (day : ℤ) : ℤ := lastBegun day 3 (4800 * (day + 719528) / 146097 - 1)

def dayOfMonth (day : ℤ) : ℤ := day - monthStart (monthOf day) + 1

def yearOf (day : ℤ) : ℤ := monthOf day / 12

lemma lastBegun_spec {day : ℤ} {fuel : ℕ} {month : ℤ} (h : monthStart month ≤ day)
    (hlt : day < monthStart (month + fuel + 1)) :
    monthStart (lastBegun day fuel month) ≤ day ∧
      day < monthStart (lastBegun day fuel month + 1) := by
  induction fuel generalizing month with
  | zero =>
    rw [Nat.cast_zero, add_zero] at hlt
    exact ⟨h, hlt⟩
  | succ fuel ih =>
    rw [lastBegun]
    split_ifs with hday
    · exact ⟨h, hday⟩
    · refine ih (by omega) ?_
      rwa [show month + 1 + fuel + 1 = month + (fuel + 1 : ℕ) + 1 by push_cast; ring]

lemma monthStart_estimate (month : ℤ) :
    146097 * month - 4800 * 7 ≤ 4800 * (monthStart month + 719528) ∧
      4800 * (monthStart month + 719528) ≤ 146097 * month + 4800 * 7 := by
  have hdays : (367 * (month % 12) + 5) / 12 - 2 ≤
      daysBefore (isLeap (month / 12)) (month % 12) ∧
      daysBefore (isLeap (month / 12)) (month % 12) ≤ (367 * (month % 12) + 5) / 12 := by
    unfold daysBefore
    split_ifs <;> omega
  unfold monthStart yearStart
  omega

lemma monthOf_spec (day : ℤ) :
    monthStart (monthOf day) ≤ day ∧ day < monthStart (monthOf day + 1) := by
  have hfirst := monthStart_estimate (4800 * (day + 719528) / 146097 - 1)
  have hlast := monthStart_estimate (4800 * (day + 719528) / 146097 - 1 + (3 : ℕ) + 1)
  refine lastBegun_spec ?_ ?_ <;> omega

lemma monthOf_eq {day month : ℤ} (h : monthStart month ≤ day) (hlt : day < monthStart (month + 1)) :
    monthOf day = month := by
  have hspec := monthOf_spec day
  have h₁ := monthStart_strictMono.lt_iff_lt.mp (hspec.1.trans_lt hlt)
  have h₂ := monthStart_strictMono.lt_iff_lt.mp (h.trans_lt hspec.2)
  omega

lemma monthOf_le_iff {day month : ℤ} : month ≤ monthOf day ↔ monthStart month ≤ day := by
  have hspec := monthOf_spec day
  constructor
  · intro h
    exact (monthStart_strictMono.monotone h).trans hspec.1
  · intro h
    have := monthStart_strictMono.lt_iff_lt.mp (h.trans_lt hspec.2)
    omega

@[simp] lemma monthOf_monthStart (month : ℤ) : monthOf (monthStart month) = month :=
  monthOf_eq le_rfl (monthStart_strictMono (by omega))

@[simp] lemma dayOfMonth_monthStart (month : ℤ) : dayOfMonth (monthStart month) = 1 := by
  rw [dayOfMonth, monthOf_monthStart]
  omega

lemma dayOfMonth_bounds (day : ℤ) :
    1 ≤ dayOfMonth day ∧ dayOfMonth day ≤ monthLength (monthOf day) := by
  have hspec := monthOf_spec day
  rw [monthStart_succ] at hspec
  unfold dayOfMonth
  omega

lemma monthStart_add_dayOfMonth (day : ℤ) :
    monthStart (monthOf day) + dayOfMonth day - 1 = day := by
  unfold dayOfMonth
  omega

/-! ### A year before, and months that are complete -/

/-- The same day of the month a year before; the last of the month where it has no such day. -/
def oneYearBefore (day : ℤ) : ℤ :=
  monthStart (monthOf day - 12) + min (dayOfMonth day) (monthLength (monthOf day - 12)) - 1

/-- The last month that ends on a day or before it. -/
def lastCompleteMonth (day : ℤ) : ℤ := monthOf (day + 1) - 1

lemma lastCompleteMonth_spec (day : ℤ) (month : ℤ) :
    month ≤ lastCompleteMonth day ↔ monthStart (month + 1) - 1 ≤ day := by
  have := @monthOf_le_iff (day + 1) (month + 1)
  unfold lastCompleteMonth
  omega

@[simp] lemma oneYearBefore_monthStart (month : ℤ) :
    oneYearBefore (monthStart month) = monthStart (month - 12) := by
  have := monthLength_bounds (month - 12)
  rw [oneYearBefore, monthOf_monthStart, dayOfMonth_monthStart, min_eq_left (by omega)]
  omega

end CivilMonths
end SmeDataCenter
