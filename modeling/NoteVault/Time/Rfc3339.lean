import NoteVault.Text.Basic
import NoteVault.Time.Instant

namespace NoteVault.Time

open Text

-- A number in at least so many digits, with zeros in front.
def padded (width value : Nat) : List Char :=
  let digits := Nat.toDigits 10 value
  List.replicate (width - digits.length) '0' ++ digits

-- Years of four digits stand alone, all others carry a sign.
def yearChars (year : Int) : List Char :=
  if 0 ≤ year ∧ year ≤ 9999 then padded 4 year.natAbs
  else (if year < 0 then '-' else '+') :: padded 4 year.natAbs

-- The fewest groups of three digits that give the fraction exactly.
def fractionChars (nanosecond : Nat) : List Char :=
  if nanosecond = 0 then []
  else if nanosecond % 1000000 = 0 then '.' :: padded 3 (nanosecond / 1000000)
  else if nanosecond % 1000 = 0 then '.' :: padded 6 (nanosecond / 1000)
  else '.' :: padded 9 nanosecond

namespace Instant

def chars (instant : Instant) : List Char :=
  yearChars instant.date.year ++ '-' :: padded 2 instant.date.month ++
    '-' :: padded 2 instant.date.day ++ 'T' :: padded 2 instant.hour ++
    ':' :: padded 2 instant.minute ++ ':' :: padded 2 instant.second ++
    fractionChars instant.nanosecond ++ ['Z']

-- The written form, always on the clock of the prime meridian.
def text (instant : Instant) : String :=
  String.ofList instant.chars

end Instant

-- A number of at least one and at most so many digits.
def number? (least most : Nat) (chars : List Char) : Option (Nat × List Char) :=
  let digits := (chars.take most).takeWhile isDigit
  if digits.length < least then none
  else some (digitsValue digits, chars.drop digits.length)

def expect? (char : Char) : List Char → Option (List Char)
  | [] => none
  | first :: rest => if first = char then some rest else none

-- One of the three signs between date and time.
def separator? : List Char → Option (List Char)
  | [] => none
  | first :: rest => if first = 'T' ∨ first = 't' ∨ first = ' ' then some rest else none

-- Digits after a point, of which those after the ninth do not count.
def fraction? : List Char → Option (Nat × List Char)
  | '.' :: rest =>
    let digits := rest.takeWhile isDigit
    if digits.isEmpty then none
    else
      let kept := digits.take 9
      some (digitsValue kept * Nat.pow 10 (9 - kept.length), rest.drop digits.length)
  | chars => some (0, chars)

-- Hours and minutes after the sign of an offset. What may stand between them
-- is for the caller to say.
def offsetMinutes? (between : List Char → Option (List Char)) (chars : List Char) :
    Option (Nat × List Char) := do
  let (hours, rest) ← number? 2 2 chars
  let rest ← between rest
  let (minutes, rest) ← number? 2 2 rest
  if 59 < minutes ∨ 23 < hours then none
  return (hours * 60 + minutes, rest)

-- The distance from the prime meridian in minutes: a Z, or a signed offset of
-- less than a day. The minus sign of typesetters is accepted.
def offset? (between : List Char → Option (List Char)) : List Char → Option (Int × List Char)
  | [] => none
  | sign :: rest =>
    if sign = 'Z' ∨ sign = 'z' then some (0, rest)
    else if sign = '+' then
      (offsetMinutes? between rest).map fun (minutes, rest) => ((minutes : Int), rest)
    else if sign = '-' ∨ sign = '\u2212' then
      (offsetMinutes? between rest).map fun (minutes, rest) => (-(minutes : Int), rest)
    else none

-- The years that dates can have.
def greatestYear : Int := 262142

-- A reading of the clock if its parts are in range.
def reading? (year : Int) (month day hour minute second nanosecond : Nat) : Option Instant :=
  let reading : Instant := ⟨⟨year, month, day⟩, hour, minute, second, nanosecond⟩
  if reading.isValid && -greatestYear ≤ year && year ≤ greatestYear then some reading else none

-- The strict form: all numbers in full width, no blanks, nothing around it.
def Instant.ofChars? (chars : List Char) : Option Instant := do
  let (year, rest) ← number? 4 4 chars
  let rest ← expect? '-' rest
  let (month, rest) ← number? 2 2 rest
  let rest ← expect? '-' rest
  let (day, rest) ← number? 2 2 rest
  let rest ← separator? rest
  let (hour, rest) ← number? 2 2 rest
  let rest ← expect? ':' rest
  let (minute, rest) ← number? 2 2 rest
  let rest ← expect? ':' rest
  let (second, rest) ← number? 2 2 rest
  let (nanosecond, rest) ← fraction? rest
  let (offset, rest) ← offset? (expect? ':') rest
  if !rest.isEmpty then none
  let reading ← reading? year month day hour minute second nanosecond
  return reading.ofLocal offset

def Instant.ofText? (text : String) : Option Instant :=
  ofChars? text.toList

-- A year of up to four digits, or a signed one of any length.
def signedYear? : List Char → Option (Int × List Char)
  | '-' :: rest =>
    (number? 1 rest.length rest).map fun (year, rest) => (-(year : Int), rest)
  | '+' :: rest => (number? 1 rest.length rest).map fun (year, rest) => ((year : Int), rest)
  | chars => (number? 1 4 chars).map fun (year, rest) => ((year : Int), rest)

def looseNumber? (chars : List Char) : Option (Nat × List Char) :=
  number? 1 2 (trimStart chars)

def looseExpect? (char : Char) (chars : List Char) : Option (List Char) :=
  expect? char (trimStart chars)

-- Anything of colons and blanks.
def looseBetween? (chars : List Char) : Option (List Char) :=
  some (chars.dropWhile fun char => char == ':' || isBlank char)

def looseOffset? (chars : List Char) : Option (Int × List Char) :=
  match chars with
  | u :: t :: c :: rest =>
    if u.toUpper = 'U' ∧ t.toUpper = 'T' ∧ c.toUpper = 'C' then some (0, rest)
    else offset? looseBetween? chars
  | chars => offset? looseBetween? chars

-- The loose form: blanks between the parts, numbers without leading zeros,
-- signed years, and UTC as the name of the prime meridian.
def Instant.ofLooseText? (text : String) : Option Instant := do
  let (year, rest) ← signedYear? (trimStart text.toList)
  let rest ← looseExpect? '-' rest
  let (month, rest) ← looseNumber? rest
  let rest ← looseExpect? '-' rest
  let (day, rest) ← looseNumber? rest
  let rest ← separator? rest
  let (hour, rest) ← looseNumber? rest
  let rest ← looseExpect? ':' rest
  let (minute, rest) ← looseNumber? rest
  let rest ← looseExpect? ':' rest
  let (second, rest) ← looseNumber? rest
  let (nanosecond, rest) ← fraction? rest
  let (offset, rest) ← looseOffset? (trimStart rest)
  if !(trimStart rest).isEmpty then none
  let reading ← reading? year month day hour minute second nanosecond
  return reading.ofLocal offset

example : (Instant.ofText? "2024-02-29T23:59:60.5-00:30").map Instant.text =
    some "2024-03-01T00:29:60.500Z" := by decide +kernel
example : Instant.ofText? "2023-02-29T00:00:00Z" = none := by decide +kernel

end NoteVault.Time
