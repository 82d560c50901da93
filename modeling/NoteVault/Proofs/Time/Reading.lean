import NoteVault.Time.Rfc3339

namespace NoteVault.Time

namespace Date

theorem isValid_previous {date : Date} (h : date.isValid = true) : date.previous.isValid = true := by
  obtain ⟨year, month, day⟩ := date
  simp only [isValid, Bool.and_eq_true, decide_eq_true_eq] at h
  simp only [previous]
  split
  · simp only [isValid, Bool.and_eq_true, decide_eq_true_eq]
    omega
  · split
    · have hdays : 1 ≤ daysInMonth year (month - 1) := by
        unfold daysInMonth
        split
        · split <;> omega
        · split <;> omega
      simp only [isValid, Bool.and_eq_true, decide_eq_true_eq]
      omega
    · rfl

end Date

namespace Instant

-- Another clock shows a moment of the same day, of the one before or of the one after.
theorem isValid_ofLocal {reading : Instant} (h : reading.isValid = true) (offset : Int) :
    (reading.ofLocal offset).isValid = true := by
  simp only [isValid, Bool.and_eq_true, decide_eq_true_eq] at h
  obtain ⟨⟨⟨⟨hdate, -⟩, -⟩, hsecond⟩, hnanosecond⟩ := h
  have hmoved : (reading.ofLocal offset).date.isValid = true := by
    simp only [ofLocal]
    split
    · exact Date.isValid_previous hdate
    · split
      · exact hdate
      · exact Date.isValid_next hdate
  have hhour : (reading.ofLocal offset).hour < 24 := by
    simp only [ofLocal]
    omega
  have hminute : (reading.ofLocal offset).minute < 60 := by
    simp only [ofLocal]
    omega
  simp only [isValid, Bool.and_eq_true, decide_eq_true_eq]
  exact ⟨⟨⟨⟨hmoved, hhour⟩, hminute⟩, hsecond⟩, hnanosecond⟩

theorem isValid_of_reading? {year : Int} {month day hour minute second nanosecond : Nat}
    {reading : Instant} (h : reading? year month day hour minute second nanosecond = some reading) :
    reading.isValid = true := by
  simp only [reading?] at h
  split at h
  · rename_i hrange
    obtain rfl := Option.some.inj h
    simp only [Bool.and_eq_true] at hrange
    exact hrange.1.1
  · cases h

-- Whatever is read is a moment of the calendar. Of the parts only the last two matter,
-- the reading of the clock and its offset.
theorem isValid_of_ofText? {text : String} {instant : Instant} (h : ofText? text = some instant) :
    instant.isValid = true := by
  rw [ofText?, ofChars?] at h
  obtain ⟨⟨year, rest⟩, -, h⟩ := Option.bind_eq_some_iff.mp h
  obtain ⟨rest, -, h⟩ := Option.bind_eq_some_iff.mp h
  obtain ⟨⟨month, rest⟩, -, h⟩ := Option.bind_eq_some_iff.mp h
  obtain ⟨rest, -, h⟩ := Option.bind_eq_some_iff.mp h
  obtain ⟨⟨day, rest⟩, -, h⟩ := Option.bind_eq_some_iff.mp h
  obtain ⟨rest, -, h⟩ := Option.bind_eq_some_iff.mp h
  obtain ⟨⟨hour, rest⟩, -, h⟩ := Option.bind_eq_some_iff.mp h
  obtain ⟨rest, -, h⟩ := Option.bind_eq_some_iff.mp h
  obtain ⟨⟨minute, rest⟩, -, h⟩ := Option.bind_eq_some_iff.mp h
  obtain ⟨rest, -, h⟩ := Option.bind_eq_some_iff.mp h
  obtain ⟨⟨second, rest⟩, -, h⟩ := Option.bind_eq_some_iff.mp h
  obtain ⟨⟨nanosecond, rest⟩, -, h⟩ := Option.bind_eq_some_iff.mp h
  obtain ⟨⟨offset, rest⟩, -, h⟩ := Option.bind_eq_some_iff.mp h
  dsimp only at h
  split at h
  · cases h
  · obtain ⟨reading, hreading, h⟩ := Option.bind_eq_some_iff.mp h
    obtain rfl := Option.some.inj h
    exact isValid_ofLocal (isValid_of_reading? hreading) offset

end Instant

end NoteVault.Time
