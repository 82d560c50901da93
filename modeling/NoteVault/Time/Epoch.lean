import NoteVault.Time.Instant

namespace NoteVault.Time

-- Four hundred years have so many days, wherever they begin.
def daysInCycle : Int := 146097

-- The days from the first of March of the year zero to the start of 1970.
def daysBeforeEpoch : Int := 719468

-- The year of a cycle that a day of it falls in, where years begin in March. The
-- leap days before it are taken off and those of whole centuries put back.
def yearOfCycle (day : Int) : Int :=
  (day - day / 1460 + day / 36524 - day / 146096) / 365

def dayOfYear (day year : Int) : Int :=
  day - (365 * year + year / 4 - year / 100)

-- The day that comes so many days after the first of January 1970. Months are
-- counted from March, in groups of five that have 153 days.
def Date.ofEpochDay (days : Int) : Date :=
  let shifted := days + daysBeforeEpoch
  let cycle := shifted / daysInCycle
  let day := shifted % daysInCycle
  let year := yearOfCycle day
  let rest := dayOfYear day year
  let month := (5 * rest + 2) / 153
  let calendarYear := year + 400 * cycle
  let dayOfMonth := (rest - (153 * month + 2) / 5 + 1).toNat
  if month < 10 then ⟨calendarYear, (month + 3).toNat, dayOfMonth⟩
  else ⟨calendarYear + 1, (month - 9).toNat, dayOfMonth⟩

-- The instant so many seconds after the start of 1970, with a part of a second.
def Instant.ofEpoch (seconds : Int) (nanosecond : Nat) : Instant :=
  let second := (seconds % 86400).toNat
  ⟨.ofEpochDay (seconds / 86400), second / 3600, second / 60 % 60, second % 60, nanosecond⟩

example : Date.ofEpochDay 0 = ⟨1970, 1, 1⟩ := by decide
example : Date.ofEpochDay 11016 = ⟨2000, 2, 29⟩ := by decide
example : Date.ofEpochDay 11017 = ⟨2000, 3, 1⟩ := by decide
example : Date.ofEpochDay (-1) = ⟨1969, 12, 31⟩ := by decide
example : Instant.ofEpoch 951782399 5 = ⟨⟨2000, 2, 28⟩, 23, 59, 59, 5⟩ := by decide

end NoteVault.Time
