import SmeDataCenter.TextPatterns

/-!
# Calendar dates

Dates of the proleptic Gregorian calendar, as they are written with four digits for the year and
two for the month and the day.
-/

namespace SmeDataCenter

def isLeapYear (year : ℕ) : Bool := year % 4 = 0 && (year % 100 ≠ 0 || year % 400 = 0)

def daysInMonth (year month : ℕ) : ℕ :=
  if month = 2 then (if isLeapYear year then 29 else 28)
  else if [4, 6, 9, 11].contains month then 30
  else 31

/-- Is there such a day? -/
def isCalendarDay (year month day : ℕ) : Bool :=
  1 ≤ month && month ≤ 12 && 1 ≤ day && day ≤ daysInMonth year month

structure CalendarDate where
  year : ℕ
  month : ℕ
  day : ℕ
  valid : isCalendarDay year month day = true
  deriving DecidableEq

def digitValue (c : Char) : ℕ := c.toNat - '0'.toNat

/-- The number that digits write. -/
def digitsValue (digits : Text) : ℕ := digits.foldl (fun n c => 10 * n + digitValue c) 0

/-- The date of a year, a month and a day. -/
def calendarDate (year month day : ℕ) : Option CalendarDate :=
  if h : isCalendarDay year month day = true then some ⟨year, month, day, h⟩ else none

/-- The date that `YYYY-MM-DD` writes. -/
def readIsoDate : Text → Option CalendarDate
  | [y₁, y₂, y₃, y₄, '-', m₁, m₂, '-', d₁, d₂] =>
    if [y₁, y₂, y₃, y₄, m₁, m₂, d₁, d₂].all Text.isDigit then
      calendarDate (digitsValue [y₁, y₂, y₃, y₄]) (digitsValue [m₁, m₂]) (digitsValue [d₁, d₂])
    else none
  | _ => none

namespace LedgerArchive

/-- `assertLedgerDate`: a day of the calendar, written with a year of four digits. -/
def isLedgerDate (value : String) : Bool :=
  (readIsoDate value.toList).any fun date => 1000 ≤ date.year

end LedgerArchive
end SmeDataCenter
