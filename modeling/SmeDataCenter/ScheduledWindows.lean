import SmeDataCenter.UtcDates
import SmeDataCenter.WorkflowLivePolicy

/-!
# Scheduled windows

The dates a scheduled run of a workflow is for, counted from the day that it is in Shanghai, and
the dates whose business data a weekly report reads to compare with.
-/

namespace SmeDataCenter
namespace ScheduledWindows

open CivilMonths UtcDates

structure Window where
  startDate : Text
  endDate : Text
  deriving DecidableEq

/-! ### What the platform makes of dates -/

/-- The day it is in Shanghai, eight hours before it is in universal time. -/
def shanghaiDay (now : ℤ) : ℤ := dayOf (now + 8 * 3600000)

def HasFourDigitYear (day : ℤ) : Prop := 1000 ≤ yearOf day ∧ yearOf day ≤ 9999

instance (day : ℤ) : Decidable (HasFourDigitYear day) := by
  unfold HasFourDigitYear
  infer_instance

/-- The format of dates for Shanghai, which is known for the years that four digits write without
a zero before them, and the reading of texts that are no dates in the standard form. -/
structure DatePlatform where
  format : ℤ → Text
  parseOther : Text → Option ℤ
  format_eq : ∀ now, HasFourDigitYear (shanghaiDay now) → format now = isoDate (shanghaiDay now)

/-- ``new Date(`${date}T00:00:00Z`)`` -/
def readMidnight (platform : DatePlatform) (date : Text) : Option ℤ :=
  match readIsoDate date with
  | some date => some (midnight (dateDay date))
  | none => platform.parseOther (date ++ "T00:00:00Z".toList)

/-- A date as a request has it. -/
def dateText (time : ℤ) : Text := (toISOString time).take 10

/-! ### The windows -/

/-- The window of a scheduled run; none where `now` has no text that is read as a date. -/
def scheduledWindow (platform : DatePlatform) (type : WorkflowType) (now : ℤ) : Option Window :=
  let today := platform.format now
  (readMidnight platform today).map fun date =>
    let dateAt (n : ℤ) : Text := dateText (date + n * msPerDay)
    match type with
    | .weeklyReport =>
      let offset := (getUTCDay date + 6) % 7
      { startDate := dateAt (-offset - 7), endDate := dateAt (-offset - 1) }
    | .reviewOperations => { startDate := dateAt (-1), endDate := today }
    | .dailyIngestion => { startDate := dateAt (-1), endDate := dateAt (-1) }

/-- The same day a year before. Setting the year of a 29 February gives a 1 March, and the day 0
of a month is the last of the month before. -/
def previousYear (value : ℤ) : ℤ :=
  let month := getUTCMonth value
  let result := setUTCFullYear value (getUTCFullYear value - 1)
  if getUTCMonth result ≠ month then setUTCDate result 0 else result

def lastMonthEnd (endTime : ℤ) : ℤ :=
  let lastMonthEnd := setUTCMonth endTime (getUTCMonth endTime + 1) 0
  if endTime ≠ lastMonthEnd then setUTCMonth lastMonthEnd (getUTCMonth lastMonthEnd) 0
  else lastMonthEnd

def monthlyTrendStart (endTime : ℤ) : ℤ :=
  let start := setUTCDate (lastMonthEnd endTime) 1
  setUTCMonth start (getUTCMonth start - 11) (getUTCDate start)

def weeklyBusinessHistoryWindow (platform : DatePlatform) (endDate : Text) : Option Window :=
  (readMidnight platform endDate).map fun endTime =>
    let daysBefore (days : ℤ) : ℤ := endTime - days * msPerDay
    let earliest := min (min (daysBefore 363) (daysBefore 727))
      (min (previousYear (daysBefore 364)) (previousYear (monthlyTrendStart endTime)))
    { startDate := dateText earliest, endDate }

/-! ### The days they are meant to cover -/

def IsMonday (day : ℤ) : Prop := (day + 4) % 7 = 1

/-- Weeks begin on Mondays; the first Monday of the count is its day -3. -/
def weekOf (day : ℤ) : ℤ := (day + 3) / 7

/-- The days of a window. -/
def Window.Covers (window : Window) (day : ℤ) : Prop :=
  ∃ first last, window = ⟨isoDate first, isoDate last⟩ ∧ first ≤ day ∧ day ≤ last

/-- The first day whose business data a weekly report that ends on `day` reads. -/
def historyStart (day : ℤ) : ℤ :=
  min (day - 727) (min (oneYearBefore (day - 364))
    (oneYearBefore (monthStart (lastCompleteMonth day - 11))))

/-- At an instant the weekly window is the week before from its Monday to its Sunday, and the
daily one the day before. A day is in the weekly windows of the week that follows it, and in the
daily windows of the day that does. -/
structure WindowsTile (platform : DatePlatform) (now : ℤ) : Prop where
  weekly : ∃ monday, IsMonday monday ∧ monday ≤ shanghaiDay now ∧ shanghaiDay now < monday + 7 ∧
    scheduledWindow platform .weeklyReport now =
      some ⟨isoDate (monday - 7), isoDate (monday - 1)⟩
  daily : scheduledWindow platform .dailyIngestion now =
    some ⟨isoDate (shanghaiDay now - 1), isoDate (shanghaiDay now - 1)⟩
  weekly_covers : ∀ window, scheduledWindow platform .weeklyReport now = some window →
    ∀ day, window.Covers day ↔ weekOf day + 1 = weekOf (shanghaiDay now)
  daily_covers : ∀ window, scheduledWindow platform .dailyIngestion now = some window →
    ∀ day, window.Covers day ↔ day + 1 = shanghaiDay now

/-- The history of a weekly report ends where the report does and begins where it is meant to. -/
def HistoryBegins (platform : DatePlatform) (endDate : Text) (date : CalendarDate) : Prop :=
  weeklyBusinessHistoryWindow platform endDate =
    some ⟨isoDate (historyStart (dateDay date)), endDate⟩

/-! ### The history of a weekly report -/

lemma previousYear_midnight (day : ℤ) :
    previousYear (midnight day) = midnight (oneYearBefore day) := by
  have hday := dayOfMonth_bounds day
  have hnow := monthLength_bounds (monthOf day)
  have hthen := monthLength_bounds (monthOf day - 12)
  have hnext := monthLength_bounds (monthOf day - 12 + 1)
  have hstart := monthStart_succ (monthOf day - 12)
  have hstart' := monthStart_succ (monthOf day - 12 + 1)
  have hset : setUTCFullYear (midnight day) (getUTCFullYear (midnight day) - 1) =
      midnight (monthStart (monthOf day - 12) + dayOfMonth day - 1) := by
    rw [getUTCFullYear_midnight, setUTCFullYear_midnight, mul_one]
  rw [previousYear, hset, getUTCMonth_midnight, getUTCMonth_midnight, oneYearBefore]
  by_cases hlength : dayOfMonth day ≤ monthLength (monthOf day - 12)
  · -- the month has such a day
    have hmonth : monthOf (monthStart (monthOf day - 12) + dayOfMonth day - 1) =
        monthOf day - 12 := monthOf_eq (by omega) (by omega)
    rw [hmonth, if_neg (by omega), min_eq_left hlength]
  · -- the day falls into the month after it
    have hmonth : monthOf (monthStart (monthOf day - 12) + dayOfMonth day - 1) =
        monthOf day - 12 + 1 := monthOf_eq (by omega) (by omega)
    rw [hmonth, if_pos (by omega), setUTCDate_midnight, hmonth, min_eq_right (by omega), hstart]
    congr 1
    omega

lemma lastMonthEnd_midnight (day : ℤ) :
    lastMonthEnd (midnight day) = midnight (monthStart (lastCompleteMonth day + 1) - 1) := by
  have hspec := monthOf_spec day
  have hprevious := monthStart_strictMono (show monthOf day < monthOf day + 1 by omega)
  have hset : setUTCMonth (midnight day) (getUTCMonth (midnight day) + 1) 0 =
      midnight (monthStart (monthOf day + 1) - 1) := by
    rw [getUTCMonth_midnight, setUTCMonth_midnight (by omega : _ = monthOf day + 1), add_zero]
  have hlast : monthOf (monthStart (monthOf day + 1) - 1) = monthOf day :=
    monthOf_eq (by omega) (by omega)
  rw [lastMonthEnd, hset]
  by_cases hend : day = monthStart (monthOf day + 1) - 1
  · -- the month is over
    have hcomplete : lastCompleteMonth day = monthOf day := by
      rw [lastCompleteMonth, show day + 1 = monthStart (monthOf day + 1) by omega,
        monthOf_monthStart]
      omega
    rw [if_neg (by rw [← hend]; simp), hcomplete]
  · have hcomplete : lastCompleteMonth day = monthOf day - 1 := by
      rw [lastCompleteMonth, @monthOf_eq (day + 1) (monthOf day) (by omega) (by omega)]
    have hne : midnight day ≠ midnight (monthStart (monthOf day + 1) - 1) := by
      intro h
      exact hend (by simpa using congrArg dayOf h)
    rw [if_pos hne, getUTCMonth_midnight, hlast,
      setUTCMonth_midnight (by rw [hlast]; omega : _ = monthOf day), hcomplete]
    congr 1
    ring_nf

lemma monthlyTrendStart_midnight (day : ℤ) :
    monthlyTrendStart (midnight day) = midnight (monthStart (lastCompleteMonth day - 11)) := by
  have hbounds := monthStart_strictMono
    (show lastCompleteMonth day < lastCompleteMonth day + 1 by omega)
  have hmonth : monthOf (monthStart (lastCompleteMonth day + 1) - 1) = lastCompleteMonth day :=
    monthOf_eq (by omega) (by omega)
  have hset : setUTCDate (lastMonthEnd (midnight day)) 1 =
      midnight (monthStart (lastCompleteMonth day)) := by
    rw [lastMonthEnd_midnight, setUTCDate_midnight, hmonth]
    congr 1
    omega
  rw [monthlyTrendStart, hset, getUTCMonth_midnight, getUTCDate, dayOf_midnight,
    monthOf_monthStart, dayOfMonth_monthStart, setUTCMonth_midnight
      (by rw [monthOf_monthStart]; omega : _ = lastCompleteMonth day - 11)]
  congr 1
  omega

lemma earliest_midnight (day : ℤ) :
    min (min (midnight day - 363 * msPerDay) (midnight day - 727 * msPerDay))
      (min (previousYear (midnight day - 364 * msPerDay))
        (previousYear (monthlyTrendStart (midnight day)))) = midnight (historyStart day) := by
  rw [midnight_sub, midnight_sub, midnight_sub, monthlyTrendStart_midnight, previousYear_midnight,
    previousYear_midnight, midnight_min, midnight_min, midnight_min, historyStart,
    min_eq_right (show day - 727 ≤ day - 363 by omega)]

variable {date : CalendarDate}

lemma readMidnight_of_date {platform : DatePlatform} {text : Text}
    (h : readIsoDate text = some date) :
    readMidnight platform text = some (midnight (dateDay date)) := by
  rw [readMidnight, h]

lemma historyBegins_iff {platform : DatePlatform} {endDate : Text}
    (h : readIsoDate endDate = some date) :
    HistoryBegins platform endDate date ↔
      0 ≤ yearOf (historyStart (dateDay date)) ∧ yearOf (historyStart (dateDay date)) ≤ 9999 := by
  rw [← take_toISOString_eq_iff, HistoryBegins, weeklyBusinessHistoryWindow,
    readMidnight_of_date h, Option.map_some, Option.some_inj, Window.mk.injEq]
  simp only [earliest_midnight, dateText, and_true]

/-- 31 December of the year 1. -/
def firstHistoryEnd : ℤ := makeDay 1 11 31

lemma oneYearBefore_spec (day month : ℤ) :
    month ≤ monthOf (oneYearBefore day) ↔ month ≤ monthOf day - 12 := by
  have hday := dayOfMonth_bounds day
  have hthen := monthLength_bounds (monthOf day - 12)
  have hstart := monthStart_succ (monthOf day - 12)
  have hmonth : monthOf (oneYearBefore day) = monthOf day - 12 := by
    refine monthOf_eq ?_ ?_ <;> unfold oneYearBefore <;> omega
  rw [hmonth]

lemma nonneg_yearOf_iff (day : ℤ) : 0 ≤ yearOf day ↔ monthStart 0 ≤ day := by
  rw [← monthOf_le_iff, yearOf]
  omega

/-- Two years and a day of data, or two years of whole months, reach before the year 0 when the
year 1 is not over. -/
lemma nonneg_yearOf_historyStart (day : ℤ) :
    0 ≤ yearOf (historyStart day) ↔ firstHistoryEnd ≤ day := by
  have hend : firstHistoryEnd = monthStart (23 + 1) - 1 := by decide
  have hyears : monthStart (23 + 1) = monthStart 0 + 731 := by decide
  have hyear : monthStart 12 = monthStart 0 + 366 := by decide
  have hweek : monthStart 0 ≤ oneYearBefore (day - 364) ↔ monthStart 12 ≤ day - 364 := by
    rw [← monthOf_le_iff, oneYearBefore_spec, ← monthOf_le_iff]
    omega
  have hmonth : monthStart 0 ≤ oneYearBefore (monthStart (lastCompleteMonth day - 11)) ↔
      firstHistoryEnd ≤ day := by
    rw [oneYearBefore_monthStart, monthStart_strictMono.le_iff_le, hend,
      ← lastCompleteMonth_spec]
    omega
  rw [nonneg_yearOf_iff, historyStart, le_min_iff, le_min_iff, hweek, hmonth]
  omega

lemma yearOf_historyStart_le {text : Text} (h : readIsoDate text = some date) :
    yearOf (historyStart (dateDay date)) ≤ 9999 := by
  have hyear := year_le_of_readIsoDate h
  have hdate := (calendarDay_bounds date.valid).2.1
  have hle : historyStart (dateDay date) ≤ dateDay date := by
    unfold historyStart
    omega
  have hmonth : monthOf (historyStart (dateDay date)) ≤ monthOf (dateDay date) :=
    monthOf_le_iff.mpr ((monthOf_spec _).1.trans hle)
  rw [monthOf_dateDay] at hmonth
  unfold yearOf
  omega

/-! ### The windows of scheduled runs -/

lemma isoDate_inj {a b : ℤ} (ha : 0 ≤ yearOf a ∧ yearOf a ≤ 9999) (h : isoDate a = isoDate b) :
    a = b := by
  have hlength := congrArg List.length h
  rw [length_isoDate, length_isoDate, if_pos ha] at hlength
  have hb : 0 ≤ yearOf b ∧ yearOf b ≤ 9999 := by
    by_contra hb
    rw [if_neg hb] at hlength
    omega
  obtain ⟨date, hread, rfl⟩ := readIsoDate_isoDate ha
  obtain ⟨date', hread', rfl⟩ := readIsoDate_isoDate hb
  rw [h, hread'] at hread
  cases hread
  rfl

lemma dateText_midnight {day : ℤ} (h : 0 ≤ yearOf day ∧ yearOf day ≤ 9999) :
    dateText (midnight day) = isoDate day := (take_toISOString_eq_iff day).mpr h

lemma year_of_before {day : ℤ} (h : HasFourDigitYear day) {before : ℤ} (hle : before ≤ day)
    (hbefore : day - 14 ≤ before) : 0 ≤ yearOf before ∧ yearOf before ≤ 9999 := by
  obtain ⟨hfirst, hlast⟩ := h
  have hstart : monthStart (monthOf day - 1) ≤ before := by
    have hspec := monthOf_spec day
    have hlength := monthLength_bounds (monthOf day - 1)
    have hsucc := monthStart_succ (monthOf day - 1)
    rw [show monthOf day - 1 + 1 = monthOf day by omega] at hsucc
    omega
  have hmonth := monthOf_le_iff.mpr hstart
  have hmonth' : monthOf before ≤ monthOf day :=
    monthOf_le_iff.mpr ((monthOf_spec before).1.trans hle)
  unfold yearOf at *
  omega

variable {now : ℤ}

lemma readMidnight_format (platform : DatePlatform) (h : HasFourDigitYear (shanghaiDay now)) :
    readMidnight platform (platform.format now) = some (midnight (shanghaiDay now)) := by
  obtain ⟨date, hread, hday⟩ := @readIsoDate_isoDate (shanghaiDay now)
    ⟨by have := h.1; omega, h.2⟩
  rw [platform.format_eq now h, readMidnight_of_date hread, hday]

lemma covers_iff {first last : ℤ} (hfirst : 0 ≤ yearOf first ∧ yearOf first ≤ 9999)
    (hlast : 0 ≤ yearOf last ∧ yearOf last ≤ 9999) (day : ℤ) :
    (⟨isoDate first, isoDate last⟩ : Window).Covers day ↔ first ≤ day ∧ day ≤ last := by
  constructor
  · rintro ⟨first', last', hwindow, hday⟩
    rw [Window.mk.injEq] at hwindow
    rwa [isoDate_inj hfirst hwindow.1, isoDate_inj hlast hwindow.2]
  · exact fun hday => ⟨first, last, rfl, hday⟩

lemma weekly_window (platform : DatePlatform) (h : HasFourDigitYear (shanghaiDay now)) :
    scheduledWindow platform .weeklyReport now =
      some ⟨isoDate (7 * weekOf (shanghaiDay now) - 10),
        isoDate (7 * weekOf (shanghaiDay now) - 4)⟩ := by
  have hfirst : shanghaiDay now + (-((((shanghaiDay now + 4) % 7) + 6) % 7) - 7) =
      7 * weekOf (shanghaiDay now) - 10 := by
    unfold weekOf
    omega
  have hlast : shanghaiDay now + (-((((shanghaiDay now + 4) % 7) + 6) % 7) - 1) =
      7 * weekOf (shanghaiDay now) - 4 := by
    unfold weekOf
    omega
  rw [scheduledWindow, readMidnight_format platform h, Option.map_some]
  simp only [getUTCDay, dayOf_midnight, midnight_add, hfirst, hlast]
  rw [dateText_midnight (year_of_before h (by omega) (by omega)),
    dateText_midnight (year_of_before h (by omega) (by omega))]

lemma daily_window (platform : DatePlatform) (h : HasFourDigitYear (shanghaiDay now)) :
    scheduledWindow platform .dailyIngestion now =
      some ⟨isoDate (shanghaiDay now - 1), isoDate (shanghaiDay now - 1)⟩ := by
  rw [scheduledWindow, readMidnight_format platform h, Option.map_some]
  simp only [midnight_add]
  rw [dateText_midnight (year_of_before h (by omega) (by omega))]
  rfl

lemma windowsTile (platform : DatePlatform) (h : HasFourDigitYear (shanghaiDay now)) :
    WindowsTile platform now where
  weekly := by
    refine ⟨7 * weekOf (shanghaiDay now) - 3, ?_, ?_, ?_, ?_⟩
    · unfold IsMonday
      omega
    · unfold weekOf
      omega
    · unfold weekOf
      omega
    · rw [weekly_window platform h, sub_sub, sub_sub]
      rfl
  daily := daily_window platform h
  weekly_covers := by
    intro window hwindow day
    rw [weekly_window platform h, Option.some_inj] at hwindow
    subst hwindow
    have hfirst := @year_of_before _ h (7 * weekOf (shanghaiDay now) - 10)
      (by unfold weekOf; omega) (by unfold weekOf; omega)
    have hlast := @year_of_before _ h (7 * weekOf (shanghaiDay now) - 4)
      (by unfold weekOf; omega) (by unfold weekOf; omega)
    rw [covers_iff hfirst hlast]
    unfold weekOf
    omega
  daily_covers := by
    intro window hwindow day
    rw [daily_window platform h, Option.some_inj] at hwindow
    subst hwindow
    have hday := @year_of_before _ h (shanghaiDay now - 1) (by omega) (by omega)
    rw [covers_iff hday hday]
    omega

/-- A platform that writes no date of other years and reads no other text. -/
def strictPlatform : DatePlatform where
  format now := if HasFourDigitYear (shanghaiDay now) then isoDate (shanghaiDay now) else []
  parseOther _ := none
  format_eq _ h := if_pos h

lemma readMidnight_strictPlatform (h : ¬HasFourDigitYear (shanghaiDay now)) :
    readMidnight strictPlatform (strictPlatform.format now) = none := by
  have hformat : strictPlatform.format now = [] := if_neg h
  rw [hformat]
  rfl

/-- Whatever the platform, the windows at an instant are as they are meant to be exactly when
Shanghai is in a year with four digits, and the history of a report begins on the earliest of its
days exactly when the report does not end before the last day of the year 1. -/
theorem windows_tile (now : ℤ) :
    ((∀ platform, WindowsTile platform now) ↔ HasFourDigitYear (shanghaiDay now)) ∧
      ∀ platform endDate date, readIsoDate endDate = some date →
        (HistoryBegins platform endDate date ↔ firstHistoryEnd ≤ dateDay date) := by
  refine ⟨⟨fun h => ?_, fun h platform => windowsTile platform h⟩, ?_⟩
  · by_contra hyear
    have hdaily := (h strictPlatform).daily
    rw [scheduledWindow, readMidnight_strictPlatform hyear] at hdaily
    cases hdaily
  · intro platform endDate date hread
    rw [historyBegins_iff hread, nonneg_yearOf_historyStart]
    exact and_iff_left (yearOf_historyStart_le hread)

/-- The history of a report that ends on 30 June 2026 begins two years of whole months before. -/
theorem june_history_begins :
    HistoryBegins strictPlatform "2026-06-30".toList ⟨2026, 6, 30, by decide⟩ ∧
      isoDate (historyStart (dateDay ⟨2026, 6, 30, by decide⟩)) = "2024-07-01".toList :=
  ⟨((windows_tile 0).2 _ _ _ rfl).mpr (by decide), by decide +kernel⟩

/-- A report that ends in the year 1 gets a text that is no date. -/
theorem history_before_year_zero :
    readIsoDate "0001-06-30".toList = some ⟨1, 6, 30, by decide⟩ ∧
      ¬HistoryBegins strictPlatform "0001-06-30".toList ⟨1, 6, 30, by decide⟩ ∧
      weeklyBusinessHistoryWindow strictPlatform "0001-06-30".toList =
        some ⟨"-000001-07".toList, "0001-06-30".toList⟩ := by
  unfold HistoryBegins
  decide +kernel

end ScheduledWindows
end SmeDataCenter
