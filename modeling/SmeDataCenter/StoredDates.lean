import SmeDataCenter.DecimalNumerals
import SmeDataCenter.StructuredFiles

/-!
# Stored dates

A date is read in one of three layouts and stored in one. The month and the day are stored with
two digits, the year with the digits it has: a stored date is read again only when its year has
four of them, and only then is it compared with the window of the import.
-/

namespace SmeDataCenter
namespace Import

open StructuredQuery (StructuredDatasetName StructuredFieldType)
open DecimalNumerals

/-- What is stored of a date, or of a date and a time. -/
def storedDate (dateTime : Bool) (t : UtcTime) : String :=
  if dateTime then dateTimeString t else dateString t

/-! ### Digits -/

lemma takeDigits_append {digits : Text} (h : IsDigits digits) (rest : Text) :
    takeDigits digits.length (digits ++ rest) = some (digitsValue digits, rest) := by
  have hall : digits.all Text.isDigit = true := List.all_eq_true.mpr h
  simp [takeDigits, hall]

variable {rest : Text} {n : ℕ}

lemma takeDigits_lt {value : ℕ} {text : Text} (h : takeDigits n text = some (value, rest)) :
    value < 10 ^ n := by
  unfold takeDigits at h
  split at h
  · next hdigits =>
    simp only [Bool.and_eq_true, decide_eq_true_eq] at hdigits
    obtain ⟨hlength, hall⟩ := hdigits
    have hlt := digitsValue_lt (List.all_eq_true.mp hall)
    rw [List.length_take, min_eq_left hlength] at hlt
    rwa [(Prod.mk.inj (Option.some.inj h)).1] at hlt
  · cases h

lemma takeDigits_short {digits : Text} {c : Char} (hlength : digits.length < n)
    (hc : Text.isDigit c = false) : takeDigits n (digits ++ c :: rest) = none := by
  unfold takeDigits
  rw [if_neg]
  intro h
  rw [Bool.and_eq_true] at h
  have hmem : c ∈ (digits ++ c :: rest).take n := by
    rw [List.take_append, List.mem_append]
    right
    obtain ⟨m, hm⟩ : ∃ m, n - digits.length = m + 1 := ⟨n - digits.length - 1, by omega⟩
    rw [hm, List.take_succ_cons]
    exact List.mem_cons_self ..
  have hdigit := List.all_eq_true.mp h.2 c hmem
  rw [hc] at hdigit
  cases hdigit

lemma padTwo_spec (h : n < 100) :
    (padTwo n).toList.length = 2 ∧ IsDigits (padTwo n).toList ∧
      digitsValue (padTwo n).toList = n := by
  have htext : (toString n).toList = Nat.toDigits 10 n := Nat.toList_repr
  unfold padTwo
  by_cases hlt : n < 10
  · have hdigits : Nat.toDigits 10 n = [n.digitChar] := Nat.toDigits_of_lt_base hlt
    have hone := isDigits_toDigits n
    have hvalue := digitsValue_toDigits n
    rw [hdigits] at hone hvalue
    rw [if_pos hlt, String.toList_append, htext, hdigits]
    exact ⟨rfl, isDigits_cons.mpr ⟨by decide, hone⟩, hvalue⟩
  · rw [if_neg hlt, htext]
    exact ⟨length_toDigits (k := 1) (by decide) (by omega) h, isDigits_toDigits n,
      digitsValue_toDigits n⟩

lemma takeDigits_padTwo (h : n < 100) (rest : Text) :
    takeDigits 2 ((padTwo n).toList ++ rest) = some (n, rest) := by
  obtain ⟨hlength, hdigits, hvalue⟩ := padTwo_spec h
  have hread := takeDigits_append hdigits rest
  rwa [hlength, hvalue] at hread

lemma takeDigits_year {year : ℕ} (hle : 1000 ≤ year) (hlt : year < 10000) (rest : Text) :
    takeDigits 4 ((toString year).toList ++ rest) = some (year, rest) := by
  have htext : (toString year).toList = Nat.toDigits 10 year := Nat.toList_repr
  have hread := takeDigits_append (isDigits_toDigits year) rest
  rwa [length_toDigits (k := 3) (by decide) hle hlt, digitsValue_toDigits, ← htext] at hread

lemma takeDigits_shortYear {year : ℕ} (hlt : year < 1000) (rest : Text) :
    takeDigits 4 ((toString year).toList ++ '-' :: rest) = none := by
  have htext : (toString year).toList = Nat.toDigits 10 year := Nat.toList_repr
  have hlength : (Nat.toDigits 10 year).length ≤ 3 :=
    (Nat.length_toDigits_le_iff (by decide) (by decide)).mpr hlt
  refine takeDigits_short ?_ (by decide)
  rw [htext]
  omega

/-! ### Dates -/

/-- What a text that is read as a date says. -/
structure Readable (dateTime : Bool) (t : UtcTime) : Prop where
  real : t.isReal = true
  year_lt : t.year < 10000
  midnight : dateTime = false → t = { year := t.year, month := t.month, day := t.day }

variable {t : UtcTime}

lemma takeDate_spec {text : Text} (h : takeDate text = some (t, rest)) :
    t.year < 10000 ∧ t = { year := t.year, month := t.month, day := t.day } := by
  unfold takeDate at h
  simp only [Option.bind_eq_bind, Option.bind_eq_some_iff] at h
  obtain ⟨⟨year, rest₁⟩, hyear, rest₂, -, ⟨month, rest₃⟩, -, rest₄, -, ⟨day, rest₅⟩, -, h⟩ := h
  cases h
  exact ⟨takeDigits_lt hyear, rfl⟩

lemma takeTime_year {text : Text} {date : UtcTime} (h : takeTime date text = some (t, rest)) :
    t.year = date.year := by
  unfold takeTime at h
  simp only [Option.bind_eq_bind, Option.bind_eq_some_iff] at h
  obtain ⟨_, -, ⟨hour, _⟩, -, _, -, ⟨minute, _⟩, -, h⟩ := h
  cases h
  rfl

lemma parseDate_readable {text : String} {dateTime : Bool} (h : parseDate text dateTime = some t) :
    Readable dateTime t := by
  unfold parseDate at h
  cases dateTime with
  | false =>
    simp only [Option.bind_eq_bind, Option.bind_eq_some_iff, Bool.false_eq_true, if_false] at h
    obtain ⟨⟨date, rest⟩, hdate, ⟨time, rest'⟩, htime, h⟩ := h
    obtain ⟨hyear, hmidnight⟩ := takeDate_spec hdate
    simp only [Option.ite_none_right_eq_some, Bool.and_eq_true, decide_eq_true_eq] at h
    obtain ⟨⟨-, hreal⟩, h⟩ := h
    cases htime
    cases h
    exact ⟨hreal, hyear, fun _ => hmidnight⟩
  | true =>
    simp only [Option.bind_eq_bind, Option.bind_eq_some_iff, if_true] at h
    obtain ⟨⟨date, rest⟩, hdate, ⟨time, rest'⟩, htime, h⟩ := h
    obtain ⟨hyear, -⟩ := takeDate_spec hdate
    simp only [Option.ite_none_right_eq_some, Bool.and_eq_true, decide_eq_true_eq] at h
    obtain ⟨⟨-, hreal⟩, h⟩ := h
    cases h
    exact ⟨hreal, takeTime_year htime ▸ hyear, nofun⟩

lemma isReal_bounds (h : t.isReal = true) :
    t.month < 100 ∧ t.day < 100 ∧ t.hour < 100 ∧ t.minute < 100 ∧ t.second < 100 := by
  simp only [UtcTime.isReal, isCalendarDay, Bool.and_eq_true, decide_eq_true_eq] at h
  obtain ⟨⟨⟨⟨-, ⟨⟨-, hmonth⟩, -⟩, hday⟩, hhour⟩, hminute⟩, hsecond⟩ := h
  have hmax : daysInMonth t.year t.month ≤ 31 := by
    unfold daysInMonth
    split
    · split <;> omega
    · split <;> omega
  omega

lemma dateString_toList (t : UtcTime) :
    (dateString t).toList = (toString t.year).toList ++
      '-' :: ((padTwo t.month).toList ++ '-' :: (padTwo t.day).toList) := by
  simp [dateString]

lemma takeDate_stored (hreal : t.isReal = true) (hle : 1000 ≤ t.year) (hlt : t.year < 10000)
    (rest : Text) :
    takeDate ((dateString t).toList ++ rest) =
      some ({ year := t.year, month := t.month, day := t.day }, rest) := by
  obtain ⟨hmonth, hday, -⟩ := isReal_bounds hreal
  rw [dateString_toList, List.append_assoc, List.cons_append, List.append_assoc, List.cons_append]
  unfold takeDate
  rw [takeDigits_year hle hlt]
  simp [Option.filter_some, takeChar, takeDigits_padTwo hmonth, takeDigits_padTwo hday]

lemma takeDate_short (hlt : t.year < 1000) (rest : Text) :
    takeDate ((dateString t).toList ++ rest) = none := by
  rw [dateString_toList, List.append_assoc, List.cons_append]
  unfold takeDate
  rw [takeDigits_shortYear hlt]
  rfl

lemma takeTime_stored (hreal : t.isReal = true) (date : UtcTime) :
    takeTime date ('T' :: ((padTwo t.hour).toList ++ ':' :: ((padTwo t.minute).toList ++
      ':' :: (padTwo t.second).toList))) =
        some ({ date with hour := t.hour, minute := t.minute, second := t.second }, []) := by
  obtain ⟨-, -, hhour, hminute, hsecond⟩ := isReal_bounds hreal
  have hseconds := takeDigits_padTwo hsecond []
  rw [List.append_nil] at hseconds
  simp [takeTime, takeSeconds, takeChar, takeDigits_padTwo hhour, takeDigits_padTwo hminute,
    hseconds]

lemma parseDate_stored {dateTime : Bool} (h : Readable dateTime t) :
    parseDate (storedDate dateTime t) dateTime = if 1000 ≤ t.year then some t else none := by
  unfold parseDate storedDate
  cases dateTime with
  | false =>
    have htext : (dateString t).toList = (dateString t).toList ++ [] := (List.append_nil _).symm
    rw [if_neg (by decide), htext]
    by_cases hle : 1000 ≤ t.year
    · rw [takeDate_stored h.real hle h.year_lt, if_pos hle, ← h.midnight rfl]
      simp [h.real]
    · rw [takeDate_short (by omega), if_neg hle]
      rfl
  | true =>
    have htext : (dateTimeString t).toList = (dateString t).toList ++
        'T' :: ((padTwo t.hour).toList ++ ':' :: ((padTwo t.minute).toList ++
          ':' :: (padTwo t.second).toList)) := by
      simp [dateTimeString]
    rw [if_pos rfl, htext]
    by_cases hle : 1000 ≤ t.year
    · rw [takeDate_stored h.real hle h.year_lt, if_pos hle]
      simp [takeTime_stored h.real, h.real]
    · rw [takeDate_short (by omega), if_neg hle]
      rfl

/-! ### The cell of a field -/

variable {field : ImportField}

section

variable {fields : List ImportField} {cells : List (String × String)} {name text : String}

lemma parseCells_concat_ne {cell : String × String} (h : name ≠ cell.1) :
    (parseCells fields (cells ++ [cell])).1.get name = (parseCells fields cells).1.get name := by
  unfold parseCells
  rw [List.foldl_append, List.foldl_cons, List.foldl_nil]
  split
  · rfl
  · split
    · exact Payload.get_set_ne h _ _
    · rfl

lemma parseCells_concat {value : PayloadValue}
    (hfield : fields.find? (fun field => field.canonicalName = name) = some field)
    (hvalue : parseCell field text = .ok value) :
    (parseCells fields (cells ++ [(name, text)])).1.get name = some value := by
  unfold parseCells
  rw [List.foldl_append, List.foldl_cons, List.foldl_nil]
  dsimp only
  rw [hfield]
  dsimp only
  rw [hvalue]
  exact Payload.get_set_self _ _ _

lemma parseCells_get {value : PayloadValue} (hnodup : (cells.map (·.1)).Nodup)
    (hcell : (name, text) ∈ cells)
    (hfield : fields.find? (fun field => field.canonicalName = name) = some field)
    (hvalue : parseCell field text = .ok value) :
    (parseCells fields cells).1.get name = some value := by
  induction cells using List.reverseRecOn with
  | nil => cases hcell
  | append_singleton cells cell ih =>
    rw [List.map_append, List.map_singleton, List.nodup_append] at hnodup
    obtain ⟨hfirst, -, hnew⟩ := hnodup
    rcases List.mem_append.mp hcell with hcell | hcell
    · have hne : name ≠ cell.1 :=
        hnew name (List.mem_map_of_mem hcell) cell.1 (List.mem_singleton_self _)
      rw [parseCells_concat_ne hne, ih hfirst hcell]
    · rw [← List.mem_singleton.mp hcell]
      exact parseCells_concat hfield hvalue

end

/-! ### The window of an import -/

lemma dishes_businessDate : (getImportRegistry .dishes).fields.find?
    (fun field => field.canonicalName = "business_date") =
      some (createExtractField .dishes dishExplicitTypes ("营业日", "business_date")) := by
  unfold getImportRegistry dishSourceColumns
  simp only [List.map_cons]
  rfl

lemma businessDate_field {dataset : StructuredDatasetName}
    (h : (getImportRegistry dataset).datePolicy = some .rowBusinessDate) :
    ∃ field, (getImportRegistry dataset).fields.find?
      (fun field => field.canonicalName = "business_date") = some field ∧ field.type = .date := by
  have hall : ∀ dataset, (getImportRegistry dataset).datePolicy = some .rowBusinessDate →
      ((getImportRegistry dataset).fields.find?
        fun field => field.canonicalName = "business_date").map (·.type) = some .date := by
    intro dataset
    cases dataset with
    | dishes =>
      intro _
      rw [dishes_businessDate]
      decide +kernel
    | _ => decide +kernel
  have hfound := hall dataset h
  rw [Option.map_eq_some_iff] at hfound
  exact hfound

lemma parseCell_date {text : String} (hfield : field.type = .date)
    (h : parseDate (trimText text) false = some t) :
    parseCell field text = .ok (.text (dateString t)) := by
  have hne : trimText text ≠ "" := by
    intro hempty
    rw [hempty] at h
    cases h
  unfold parseCell
  dsimp only
  rw [if_neg hne, hfield]
  dsimp only
  rw [h]

/-- The business date that a row says lies in the window of its import. The mappings are those of
headers, where no field is found twice. -/
structure DatedRow (dataset : StructuredDatasetName) (window : DateWindow)
    (mappings : List HeaderMapping) (row : List String) (t : UtcTime) : Prop where
  dated : (getImportRegistry dataset).datePolicy = some .rowBusinessDate
  distinct : (mappings.map (·.canonicalName)).Nodup
  cell : ∃ mapping ∈ mappings, mapping.canonicalName = "business_date" ∧
    parseDate (trimText (row[mapping.sourceColumnIndex]?.getD "")) false = some t
  after_start : window.start.order ≤ t.order
  before_finish : t.order ≤ window.finish.order

lemma DatedRow.inWindow {dataset : StructuredDatasetName} {window : DateWindow}
    {mappings : List HeaderMapping} {row : List String}
    (h : DatedRow dataset window mappings row t) :
    inWindow (some window) (payloadFor dataset mappings row).1 = decide (1000 ≤ t.year) := by
  obtain ⟨mapping, hmapping, hname, hparse⟩ := h.cell
  obtain ⟨field, hfield, htype⟩ := businessDate_field h.dated
  have hget : (payloadFor dataset mappings row).1.get "business_date" =
      some (.text (dateString t)) := by
    refine parseCells_get ?_ (List.mem_map.mpr ⟨mapping, hmapping, by rw [hname]⟩) hfield
      (parseCell_date htype hparse)
    rw [List.map_map]
    exact h.distinct
  have hstored := parseDate_stored (parseDate_readable hparse)
  rw [storedDate, if_neg (by decide)] at hstored
  unfold Import.inWindow labelPart
  rw [hget]
  change ((parseDate (dateString t) false).any fun date => _) = _
  rw [hstored]
  by_cases hle : 1000 ≤ t.year
  · simp [hle, h.after_start, h.before_finish]
  · simp [hle]

/-- A date of four digits, and no other, is read again from what is stored of it; a row whose date
lies in the window of the import is found outside of it when the year is written shorter. -/
theorem stored_dates_iff (t : UtcTime) :
    (∀ (text : String) (dateTime : Bool), parseDate text dateTime = some t →
      (parseDate (storedDate dateTime t) dateTime = some t ↔ 1000 ≤ t.year)) ∧
    ∀ (dataset : StructuredDatasetName) (window : DateWindow) (mappings : List HeaderMapping)
      (item : DataRow) (payload : Payload) (maxRows width : ℕ)
      (sheet : StructuredSheetRows) (walk : ParseWalk),
      DatedRow dataset window mappings item.row t → exceedsWidth item.row width = false →
      payloadFor dataset mappings item.row = (payload, []) →
      addDataRow dataset maxRows (some window) sheet width mappings walk item =
        if 1000 ≤ t.year then addRow dataset maxRows sheet item.sourceRowNumber walk payload
        else walk.report
          (sheetIssue sheet "BUSINESS_DATE_OUTSIDE_WINDOW"
            "Business date is outside the import window." item.sourceRowNumber
            (some "business_date"))
          ("Row " ++ toString item.sourceRowNumber ++
            " business_date is outside import window.") := by
  refine ⟨?_, ?_⟩
  · intro text dateTime h
    rw [parseDate_stored (parseDate_readable h)]
    by_cases hle : 1000 ≤ t.year
    · simp [hle]
    · simp [hle]
  · intro dataset window mappings item payload maxRows width sheet walk hrow hwidth hpayload
    have hwindow := hrow.inWindow
    rw [hpayload] at hwindow
    unfold addDataRow
    simp only [hwidth, hpayload, hrow.dated, hwindow]
    by_cases hle : 1000 ≤ t.year
    · simp [hle]
    · simp [hle]

/-- The first day of the year 999 is stored with three digits for the year. -/
theorem stored_date_refused : ¬ ∀ (text : String) (dateTime : Bool) (t : UtcTime),
    parseDate text dateTime = some t → parseDate (storedDate dateTime t) dateTime = some t :=
  fun h => absurd (h "0999-01-01" false ⟨999, 1, 1, 0, 0, 0⟩ (by decide +kernel))
    (by decide +kernel)

/-- An order, in a file of which only the store and the day are read. -/
def takeawayOrder (businessDate : String) : DataRow := ⟨["门店", businessDate], 2⟩

def takeawayMappings : List HeaderMapping := [⟨"store_name", 0⟩, ⟨"business_date", 1⟩]

def ordersSheet : StructuredSheetRows := ⟨⟨"Sheet1", false, []⟩, 0⟩

/-- The order of a leap day, in the window of its month, is a row. -/
theorem leap_day_row :
    parseDate (storedDate false ⟨2024, 2, 29, 0, 0, 0⟩) false = some ⟨2024, 2, 29, 0, 0, 0⟩ ∧
    addDataRow .takeawayOrders 10 (some ⟨⟨2024, 2, 1, 0, 0, 0⟩, ⟨2024, 2, 29, 0, 0, 0⟩⟩)
      ordersSheet 2 takeawayMappings {} (takeawayOrder "2024/02/29") =
        addRow .takeawayOrders 10 ordersSheet 2 {}
          (payloadFor .takeawayOrders takeawayMappings (takeawayOrder "2024/02/29").row).1 :=
  ⟨((stored_dates_iff ⟨2024, 2, 29, 0, 0, 0⟩).1 "2024/02/29" false (by decide +kernel)).mpr
      (by decide),
    ((stored_dates_iff ⟨2024, 2, 29, 0, 0, 0⟩).2 .takeawayOrders
      ⟨⟨2024, 2, 1, 0, 0, 0⟩, ⟨2024, 2, 29, 0, 0, 0⟩⟩
      takeawayMappings (takeawayOrder "2024/02/29") _ 10 2 ordersSheet {}
      ⟨rfl, by decide, ⟨⟨"business_date", 1⟩, by decide, rfl, by decide +kernel⟩,
        by decide +kernel, by decide +kernel⟩
      (by decide +kernel) (by decide +kernel)).trans (if_pos (by decide))⟩

end Import
end SmeDataCenter
