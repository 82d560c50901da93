namespace NoteVault.Time

-- A day of the calendar that has always had the present leap years.
structure Date where
  year : Int
  month : Nat
  day : Nat
deriving DecidableEq, Repr

def isLeapYear (year : Int) : Bool :=
  year % 4 == 0 && (year % 100 != 0 || year % 400 == 0)

def daysInMonth (year : Int) (month : Nat) : Nat :=
  if month = 2 then (if isLeapYear year then 29 else 28)
  else if month = 4 ∨ month = 6 ∨ month = 9 ∨ month = 11 then 30
  else 31

namespace Date

def isValid (date : Date) : Bool :=
  1 ≤ date.month && date.month ≤ 12 && 1 ≤ date.day && date.day ≤ daysInMonth date.year date.month

def next (date : Date) : Date :=
  if date.day < daysInMonth date.year date.month then { date with day := date.day + 1 }
  else if date.month < 12 then ⟨date.year, date.month + 1, 1⟩
  else ⟨date.year + 1, 1, 1⟩

def previous (date : Date) : Date :=
  if 1 < date.day then { date with day := date.day - 1 }
  else if 1 < date.month then ⟨date.year, date.month - 1, daysInMonth date.year (date.month - 1)⟩
  else ⟨date.year - 1, 12, 31⟩

theorem isValid_next {date : Date} (h : date.isValid = true) : date.next.isValid = true := by
  obtain ⟨year, month, day⟩ := date
  simp only [isValid, Bool.and_eq_true, decide_eq_true_eq] at h
  simp only [next]
  split
  · simp only [isValid, Bool.and_eq_true, decide_eq_true_eq]; omega
  · split
    · simp only [isValid, Bool.and_eq_true, decide_eq_true_eq, daysInMonth]
      refine ⟨⟨⟨?_, ?_⟩, ?_⟩, ?_⟩
      all_goals first | omega | (split <;> split <;> omega)
    · rfl

end Date

-- A point in time on the clock of the prime meridian. A leap second is
-- second 60 and may follow any minute.
structure Instant where
  date : Date
  hour : Nat
  minute : Nat
  second : Nat
  nanosecond : Nat
deriving DecidableEq, Repr

namespace Instant

def isValid (instant : Instant) : Bool :=
  instant.date.isValid && instant.hour < 24 && instant.minute < 60 && instant.second ≤ 60 &&
    instant.nanosecond < Nat.pow 10 9

def minuteOfDay (instant : Instant) : Int :=
  instant.hour * 60 + instant.minute

-- The instant whose local reading is given, where local clocks run ahead by
-- the offset in minutes. The offset is less than a day.
def ofLocal (reading : Instant) (offset : Int) : Instant :=
  let minutes := reading.minuteOfDay - offset
  let date :=
    if minutes < 0 then reading.date.previous
    else if minutes < 1440 then reading.date
    else reading.date.next
  let minute := (minutes % 1440).toNat
  { reading with date := date, hour := minute / 60, minute := minute % 60 }

end Instant

end NoteVault.Time
