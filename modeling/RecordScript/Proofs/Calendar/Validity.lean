import RecordScript.Calendar.Reader
import RecordScript.Proofs.Result

/-!
# Dates that are read exist

Whatever a format asks for, and whichever parts of a date a text gives, the date that is read is a
day of the calendar.
-/

namespace RecordScript

open Result

namespace Date

theorem isValid_of_ofMonthDay? {year : Int} {month day : Nat} {d : Date}
    (h : ofMonthDay? year month day = some d) : d.IsValid ∧ d = ⟨year, month, day⟩ := by
  rw [ofMonthDay?] at h
  split at h <;> cases h
  exact ⟨‹_›, rfl⟩

theorem isValid_of_ofDayOfYear? {year : Int} {ordinal : Nat} {d : Date}
    (h : ofDayOfYear? year ordinal = some d) : d.IsValid := by
  rw [ofDayOfYear?] at h
  split at h
  · exact (isValid_of_ofMonthDay? h).1
  · cases h

theorem isValid_of_ofIsoWeek? {year : Int} {week weekday : Nat} {d : Date}
    (h : ofIsoWeek? year week weekday = some d) : d.IsValid := by
  rw [ofIsoWeek?] at h
  split at h
  · rw [ofDayNearYear?] at h
    split at h
    · exact isValid_of_ofDayOfYear? h
    · split at h
      · exact isValid_of_ofDayOfYear? h
      · exact isValid_of_ofDayOfYear? h
  · cases h

end Date

namespace DateFields

theorem existing_eq_ok {found : Option Date} {d : Date} :
    existing found = .ok d ↔ found = some d := by
  cases found <;> simp [existing]

theorem isValid_of_weekDate {year week weekday : Int} {start : Nat} {d : Date}
    (h : weekDate year week weekday start = .ok d) : d.IsValid := by
  rw [weekDate] at h
  split at h
  · simp only at h
    split at h
    · cases h
    · split at h
      · cases h
        exact Date.isValid_of_ofDayOfYear? ‹_›
      · cases h
  · cases h

/-- Each group of parts that suffices gives a day of the calendar. -/
theorem isValid_of_candidate {f : DateFields} {d : Date} (h : f.candidate = .ok d) : d.IsValid := by
  rw [candidate] at h
  simp only [bind_eq_ok] at h
  obtain ⟨year, -, isoYear, -, h⟩ := h
  -- one case for each group, in the order in which they are tried
  split at h
  · exact (Date.isValid_of_ofMonthDay? (existing_eq_ok.mp h)).1
  split at h
  · exact Date.isValid_of_ofDayOfYear? (existing_eq_ok.mp h)
  split at h
  · exact isValid_of_weekDate h
  split at h
  · exact isValid_of_weekDate h
  split at h
  · exact Date.isValid_of_ofIsoWeek? (existing_eq_ok.mp h)
  · cases h

theorem isValid_of_toDate {f : DateFields} {d : Date} (h : f.toDate = .ok d) : d.IsValid := by
  rw [toDate, bind_eq_ok] at h
  obtain ⟨d', hcandidate, h⟩ := h
  split at h <;> cases h
  exact isValid_of_candidate hcandidate

end DateFields

/-- A date that is read is a day of the calendar. -/
theorem Date.isValid_of_read {text format : String} {d : Date} (h : read text format = .ok d) :
    d.IsValid := by
  rw [read, bind_eq_ok] at h
  obtain ⟨fields, -, h⟩ := h
  exact DateFields.isValid_of_toDate h

end RecordScript
