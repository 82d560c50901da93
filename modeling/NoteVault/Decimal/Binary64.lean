namespace NoteVault.Decimal

-- A finite binary64 number: significand * 2 ^ exponent with a sign. The
-- significand has 53 bits, or fewer when the exponent is the least one.
-- Zero has both signs.
structure Binary64 where
  negative : Bool
  significand : Nat
  exponent : Int
deriving DecidableEq, Repr

-- The quotient to the nearest whole number, a half to the even neighbour.
def roundHalfEven (numerator denominator : Nat) : Nat :=
  let quotient := numerator / denominator
  let remainder := numerator % denominator
  if 2 * remainder < denominator then quotient
  else if denominator < 2 * remainder then quotient + 1
  else quotient + quotient % 2

namespace Binary64

def leastExponent : Int := -1074

def greatestExponent : Int := 971

def zero (negative : Bool) : Binary64 :=
  ⟨negative, 0, leastExponent⟩

-- The quotient in units of 2 ^ exponent, as a numerator and a denominator.
def inUnits (numerator denominator : Nat) (exponent : Int) : Nat × Nat :=
  (numerator * Nat.pow 2 (-exponent).toNat, denominator * Nat.pow 2 exponent.toNat)

-- The exponent at which the quotient has 53 bits before the point, but never
-- less than the least one.
def fittingExponent (numerator denominator : Nat) : Int :=
  let guess : Int := (numerator.log2 : Int) - denominator.log2 - 52
  let (top, bottom) := inUnits numerator denominator guess
  max (if top / bottom < Nat.pow 2 52 then guess - 1 else guess) leastExponent

-- The nearest binary64 number to a quotient, a half to the even significand.
-- There is none when the quotient lies beyond the range.
def ofRatio? (negative : Bool) (numerator denominator : Nat) : Option Binary64 :=
  if numerator = 0 then some (zero negative)
  else
    let exponent := fittingExponent numerator denominator
    let (top, bottom) := inUnits numerator denominator exponent
    let significand := roundHalfEven top bottom
    let (significand, exponent) :=
      if significand = Nat.pow 2 53 then (Nat.pow 2 52, exponent + 1) else (significand, exponent)
    if greatestExponent < exponent then none else some ⟨negative, significand, exponent⟩

-- The nearest binary64 number to an integer of at most 64 bits.
def ofInt (value : Int) : Binary64 :=
  (ofRatio? (value < 0) value.natAbs 1).getD (zero false)

-- The magnitude as a numerator and a denominator.
def ratio (value : Binary64) : Nat × Nat :=
  (value.significand * Nat.pow 2 value.exponent.toNat, Nat.pow 2 (-value.exponent).toNat)

def mul? (left right : Binary64) : Option Binary64 :=
  let (leftTop, leftBottom) := left.ratio
  let (rightTop, rightBottom) := right.ratio
  ofRatio? (left.negative != right.negative) (leftTop * rightTop) (leftBottom * rightBottom)

-- The right number is not zero.
def div? (left right : Binary64) : Option Binary64 :=
  let (leftTop, leftBottom) := left.ratio
  let (rightTop, rightBottom) := right.ratio
  ofRatio? (left.negative != right.negative) (leftTop * rightBottom) (leftBottom * rightTop)

def neg (value : Binary64) : Binary64 :=
  { value with negative := !value.negative }

def isZero (value : Binary64) : Bool :=
  value.significand == 0

-- Equality of values: the two zeros are equal.
def sameValue (left right : Binary64) : Bool :=
  (left.isZero && right.isZero) || left == right

theorem sameValue_refl (value : Binary64) : sameValue value value = true := by
  simp [sameValue]

example : ofRatio? false 1 10 = some ⟨false, 7205759403792794, -56⟩ := by decide
example : ofInt (Nat.pow 2 53 + 1) = ofInt (Nat.pow 2 53) := by decide

end Binary64

end NoteVault.Decimal
