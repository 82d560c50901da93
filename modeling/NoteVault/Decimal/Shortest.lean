import NoteVault.Decimal.Binary64

namespace NoteVault.Decimal

-- A decimal: digits * 10 ^ exponent, with no zero at the end of the digits.
structure Digits where
  digits : List Char
  exponent : Int
deriving DecidableEq, Repr

namespace Binary64

-- Whether the decimal point of a positive number stands after a place:
-- 10 ^ place is above the number.
def isBelowPower (value : Binary64) (place : Int) : Bool :=
  let (top, bottom) := value.ratio
  top * Nat.pow 10 (-place).toNat < bottom * Nat.pow 10 place.toNat

-- The least place from the start upwards that is above the number.
def findPlace (value : Binary64) : Nat → Int → Int
  | 0, place => place
  | fuel + 1, place => if value.isBelowPower place then place else findPlace value fuel (place + 1)

-- The number of digits before the point; zero or less for fractions that
-- start with zeros.
def decimalPlace (value : Binary64) : Int :=
  findPlace value 640 (-330)

-- Whether candidate * 10 ^ grid reads back as the number: it lies between the
-- midpoints to the two neighbours. The midpoints themselves belong to an even
-- significand. Below a power of two the neighbour is half as far away.
def readsBack (value : Binary64) (candidate : Nat) (grid : Int) : Bool :=
  let narrow := value.significand == Nat.pow 2 52 && leastExponent < value.exponent
  let low := 4 * value.significand - (if narrow then 1 else 2)
  let high := 4 * value.significand + 2
  let unit := value.exponent - 2
  let left := candidate * Nat.pow 10 grid.toNat * Nat.pow 2 (-unit).toNat
  let scale := Nat.pow 10 (-grid).toNat * Nat.pow 2 unit.toNat
  if value.significand % 2 == 0 then low * scale ≤ left && left ≤ high * scale
  else low * scale < left && left < high * scale

-- The decimal on the grid that reads back and is nearest to the number; of two
-- equally near ones the even. Only the two neighbours of the number are asked.
def onGrid? (value : Binary64) (grid : Int) : Option Nat :=
  let (top, bottom) := value.ratio
  let top := top * Nat.pow 10 (-grid).toNat
  let bottom := bottom * Nat.pow 10 grid.toNat
  let below := top / bottom
  let nearest := roundHalfEven top bottom
  let other := if nearest = below then below + 1 else below
  if value.readsBack nearest grid then some nearest
  else if value.readsBack other grid then some other
  else none

-- The first grid with a hit, from one digit to seventeen.
def searchGrids (value : Binary64) : Nat → Int → Nat × Int
  | 0, grid => ((value.onGrid? grid).getD 0, grid)
  | fuel + 1, grid =>
    match value.onGrid? grid with
    | some candidate => (candidate, grid)
    | none => searchGrids value fuel (grid - 1)

end Binary64

-- Takes the zeros at the end into the exponent.
def dropTrailingZeros : List Char → Int → List Char × Int
  | [], exponent => ([], exponent)
  | digit :: rest, exponent =>
    if digit = '0' then dropTrailingZeros rest (exponent + 1) else (digit :: rest, exponent)

-- The fewest digits that read back as the number, and of those the nearest.
def Binary64.shortest (value : Binary64) : Digits :=
  if value.isZero then ⟨['0'], 0⟩
  else
    let (candidate, grid) := value.searchGrids 16 (value.decimalPlace - 1)
    let (reversed, exponent) := dropTrailingZeros (Nat.toDigits 10 candidate).reverse grid
    ⟨reversed.reverse, exponent⟩

end NoteVault.Decimal
