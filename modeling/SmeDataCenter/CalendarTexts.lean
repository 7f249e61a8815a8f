import SmeDataCenter.DecimalNumerals

/-!
# Texts of dates

What is known of a text that writes a date as `YYYY-MM-DD`: its parts are digits, so that a date
is known by them.
-/

namespace SmeDataCenter
namespace CalendarTexts

open DecimalNumerals

/-- The year, the month and the day of a text. -/
structure DateParts (text year month day : Text) : Prop where
  text_eq : text = year ++ '-' :: (month ++ '-' :: day)
  year : IsDigits year ∧ year.length = 4
  month : IsDigits month ∧ month.length = 2
  day : IsDigits day ∧ day.length = 2

lemma exists_dateParts {text : Text} (h : (readIsoDate text).isSome = true) :
    ∃ year month day, DateParts text year month day := by
  unfold readIsoDate at h
  split at h
  · next y₁ y₂ y₃ y₄ m₁ m₂ d₁ d₂ =>
    split_ifs at h with hdigits
    · simp only [List.all_cons, List.all_nil, Bool.and_true, Bool.and_eq_true] at hdigits
      obtain ⟨h₁, h₂, h₃, h₄, h₅, h₆, h₇, h₈⟩ := hdigits
      refine ⟨[y₁, y₂, y₃, y₄], [m₁, m₂], [d₁, d₂], rfl, ⟨?_, rfl⟩, ⟨?_, rfl⟩, ⟨?_, rfl⟩⟩
      · simp [IsDigits, h₁, h₂, h₃, h₄]
      · simp [IsDigits, h₅, h₆]
      · simp [IsDigits, h₇, h₈]
    · cases h
  · cases h

lemma readIsoDate_eq {text year month day : Text} (h : DateParts text year month day) :
    readIsoDate text = calendarDate (digitsValue year) (digitsValue month) (digitsValue day) := by
  obtain ⟨rfl, ⟨hyear, hyear'⟩, ⟨hmonth, hmonth'⟩, ⟨hday, hday'⟩⟩ := h
  obtain ⟨y₁, y₂, y₃, y₄, rfl⟩ := List.length_eq_four.mp hyear'
  obtain ⟨m₁, m₂, rfl⟩ := List.length_eq_two.mp hmonth'
  obtain ⟨d₁, d₂, rfl⟩ := List.length_eq_two.mp hday'
  simp only [IsDigits, List.forall_mem_cons, List.not_mem_nil, false_implies, implies_true,
    and_true] at hyear hmonth hday
  simp only [readIsoDate, List.cons_append, List.nil_append, List.all_cons, List.all_nil, hyear,
    hmonth, hday, Bool.and_true, if_true]

lemma notMem_of_isDigits {text : Text} (h : IsDigits text) {c : Char}
    (hc : Text.isDigit c = false) : c ∉ text := by
  intro hmem
  rw [h c hmem] at hc
  cases hc

end CalendarTexts
end SmeDataCenter
