import Mathlib.Algebra.Group.Nat.Defs
import NoteVault.Decimal.Binary64

namespace NoteVault.Decimal

theorem roundHalfEven_one (value : Nat) : roundHalfEven value 1 = value := by
  simp [roundHalfEven, Nat.mod_one]

theorem le_roundHalfEven (numerator denominator : Nat) :
    numerator / denominator ≤ roundHalfEven numerator denominator ∧
      roundHalfEven numerator denominator ≤ numerator / denominator + 1 := by
  simp only [roundHalfEven]
  split
  · omega
  · split <;> omega

namespace Binary64

variable {value : Nat}

-- A whole number of 53 bits or fewer is brought to 53 bits without a remainder.
theorem inUnits_of_lt (hpos : 0 < value) (h : value < 2 ^ 53) :
    inUnits value 1 ((value.log2 : Int) - 52) = (value * 2 ^ (52 - value.log2), 1) := by
  have hlog : value.log2 < 53 := (Nat.log2_lt (Nat.ne_of_gt hpos)).mpr h
  have hdown : (-((value.log2 : Int) - 52)).toNat = 52 - value.log2 := by omega
  have hup : ((value.log2 : Int) - 52).toNat = 0 := by omega
  rw [inUnits, hdown, hup]
  rfl

theorem inUnits_of_le (h : 2 ^ 53 ≤ value) :
    inUnits value 1 ((value.log2 : Int) - 52) = (value, 2 ^ (value.log2 - 52)) := by
  have hlog : 53 ≤ value.log2 := (Nat.le_log2 (by omega)).mpr h
  have hdown : (-((value.log2 : Int) - 52)).toNat = 0 := by omega
  have hup : ((value.log2 : Int) - 52).toNat = value.log2 - 52 := by omega
  rw [inUnits, hdown, hup]
  simp [Nat.pow_eq]

theorem scaled_bounds (hpos : 0 < value) (h : value < 2 ^ 53) :
    2 ^ 52 ≤ value * 2 ^ (52 - value.log2) ∧ value * 2 ^ (52 - value.log2) < 2 ^ 53 := by
  have hlog : value.log2 < 53 := (Nat.log2_lt (Nat.ne_of_gt hpos)).mpr h
  have hsum : value.log2 + (52 - value.log2) = 52 := by omega
  have hnext : value.log2 + 1 + (52 - value.log2) = 53 := by omega
  constructor
  · calc 2 ^ 52 = 2 ^ value.log2 * 2 ^ (52 - value.log2) := by rw [← Nat.pow_add, hsum]
      _ ≤ value * 2 ^ (52 - value.log2) :=
        Nat.mul_le_mul_right _ (Nat.log2_self_le (Nat.ne_of_gt hpos))
  · calc value * 2 ^ (52 - value.log2) < 2 ^ (value.log2 + 1) * 2 ^ (52 - value.log2) :=
        Nat.mul_lt_mul_of_pos_right Nat.lt_log2_self (Nat.two_pow_pos _)
      _ = 2 ^ 53 := by rw [← Nat.pow_add, hnext]

theorem le_div_units (h : 2 ^ 53 ≤ value) : 2 ^ 52 ≤ value / 2 ^ (value.log2 - 52) := by
  have hlog : 53 ≤ value.log2 := (Nat.le_log2 (by omega)).mpr h
  have hsum : 52 + (value.log2 - 52) = value.log2 := by omega
  rw [Nat.le_div_iff_mul_le (Nat.two_pow_pos _), ← Nat.pow_add, hsum]
  exact Nat.log2_self_le (by omega)

theorem fittingExponent_one (hpos : 0 < value) :
    fittingExponent value 1 = (value.log2 : Int) - 52 := by
  have hone : Nat.log2 1 = 0 := by decide
  have hguess : (value.log2 : Int) - (Nat.log2 1 : Nat) - 52 = (value.log2 : Int) - 52 := by
    rw [hone]
    omega
  have hlow : leastExponent ≤ (value.log2 : Int) - 52 := by
    rw [leastExponent]
    omega
  have henough : ¬ (inUnits value 1 ((value.log2 : Int) - 52)).1 /
      (inUnits value 1 ((value.log2 : Int) - 52)).2 < Nat.pow 2 52 := by
    rw [Nat.not_lt]
    by_cases h : value < 2 ^ 53
    · rw [inUnits_of_lt hpos h, Nat.div_one]
      exact (scaled_bounds hpos h).1
    · rw [inUnits_of_le (Nat.not_lt.mp h)]
      exact le_div_units (Nat.not_lt.mp h)
  simp only [fittingExponent, hguess, if_neg henough]
  exact Int.max_eq_left hlow

-- A whole number below 2 ^ 53 is its own double.
theorem ofRatio?_of_lt (hpos : 0 < value) (h : value < 2 ^ 53) (negative : Bool) :
    ofRatio? negative value 1 =
      some ⟨negative, value * 2 ^ (52 - value.log2), (value.log2 : Int) - 52⟩ := by
  have hlog : value.log2 < 53 := (Nat.log2_lt (Nat.ne_of_gt hpos)).mpr h
  have hfull : ¬ value * 2 ^ (52 - value.log2) = Nat.pow 2 53 :=
    Nat.ne_of_lt (scaled_bounds hpos h).2
  have hrange : ¬ greatestExponent < (value.log2 : Int) - 52 := by
    rw [greatestExponent]
    omega
  simp only [ofRatio?, if_neg (Nat.ne_of_gt hpos), fittingExponent_one hpos, inUnits_of_lt hpos h,
    roundHalfEven_one, if_neg hfull, if_neg hrange]

-- The double of a larger one has a unit of two or more.
theorem ofRatio?_of_le (h : 2 ^ 53 ≤ value) (hword : value ≤ 2 ^ 64) (negative : Bool) :
    ∃ significand exponent, ofRatio? negative value 1 = some ⟨negative, significand, exponent⟩ ∧
      0 < significand ∧ 0 < exponent := by
  have hpos : 0 < value := by omega
  have hlow : 53 ≤ value.log2 := (Nat.le_log2 (by omega)).mpr h
  have hhigh : value.log2 < 65 := (Nat.log2_lt (by omega)).mpr (by omega)
  have hround := (le_roundHalfEven value (2 ^ (value.log2 - 52))).1
  have hunits := le_div_units h
  have hsplit : ofRatio? negative value 1 =
      if roundHalfEven value (2 ^ (value.log2 - 52)) = Nat.pow 2 53 then
        some ⟨negative, Nat.pow 2 52, (value.log2 : Int) - 52 + 1⟩
      else
        some ⟨negative, roundHalfEven value (2 ^ (value.log2 - 52)), (value.log2 : Int) - 52⟩ := by
    simp only [ofRatio?, if_neg (Nat.ne_of_gt hpos), fittingExponent_one hpos, inUnits_of_le h,
      greatestExponent]
    split <;> exact if_neg (by omega)
  rw [hsplit]
  split
  · exact ⟨_, _, rfl, by decide, by omega⟩
  · exact ⟨_, _, rfl, by omega, by omega⟩

theorem ofInt_zero : ofInt 0 = zero false := by decide

theorem ofInt_of_lt {number : Int} (hne : number ≠ 0) (h : number.natAbs < 2 ^ 53) :
    ofInt number = ⟨decide (number < 0), number.natAbs * 2 ^ (52 - number.natAbs.log2),
      (number.natAbs.log2 : Int) - 52⟩ := by
  rw [ofInt, ofRatio?_of_lt (Int.natAbs_pos.mpr hne) h]
  rfl

theorem ofInt_of_le {number : Int} (h : 2 ^ 53 ≤ number.natAbs) (hword : number.natAbs ≤ 2 ^ 64) :
    0 < (ofInt number).significand ∧ 0 < (ofInt number).exponent := by
  obtain ⟨significand, exponent, heq, hsignificand, hexponent⟩ :=
    ofRatio?_of_le h hword (decide (number < 0))
  rw [ofInt, heq]
  exact ⟨hsignificand, hexponent⟩

theorem significand_ofInt_pos {number : Int} (hne : number ≠ 0) (hword : number.natAbs ≤ 2 ^ 64) :
    0 < (ofInt number).significand := by
  by_cases h : number.natAbs < 2 ^ 53
  · rw [ofInt_of_lt hne h]
    exact Nat.mul_pos (Int.natAbs_pos.mpr hne) (Nat.two_pow_pos _)
  · exact (ofInt_of_le (Nat.not_lt.mp h) hword).1

theorem sameValue_iff_of_pos {left right : Binary64} (h : 0 < left.significand) :
    left.sameValue right = true ↔ left = right := by
  have hzero : left.isZero = false := by
    rw [isZero, beq_eq_false_iff_ne]
    omega
  simp [sameValue, hzero]

theorem sameValue_comm (left right : Binary64) : left.sameValue right = right.sameValue left := by
  have hsame : (left == right) = (right == left) := Bool.beq_comm
  rw [sameValue, sameValue, Bool.and_comm, hsame]

-- A number of less than 54 bits shares its double with no other number.
theorem sameValue_ofInt_iff {left right : Int} (hleft : left.natAbs < 2 ^ 53)
    (hright : right.natAbs ≤ 2 ^ 64) :
    (ofInt left).sameValue (ofInt right) = true ↔ left = right := by
  refine ⟨fun h => ?_, fun h => h ▸ sameValue_refl _⟩
  by_cases hzero : left = 0
  · refine Decidable.byContradiction fun hne => ?_
    have hpos := significand_ofInt_pos (fun heq => hne (hzero.trans heq.symm)) hright
    rw [sameValue_comm, sameValue_iff_of_pos hpos, hzero, ofInt_zero] at h
    rw [h] at hpos
    exact absurd hpos (by decide)
  · have hpos := significand_ofInt_pos hzero (by omega)
    rw [sameValue_iff_of_pos hpos] at h
    have hexponent : (ofInt left).exponent ≤ 0 := by
      have hlog := (Nat.log2_lt (Int.natAbs_ne_zero.mpr hzero)).mpr hleft
      rw [ofInt_of_lt hzero hleft]
      show (left.natAbs.log2 : Int) - 52 ≤ 0
      omega
    have hsmall : right.natAbs < 2 ^ 53 := by
      refine Nat.lt_of_not_le fun hlarge => ?_
      have hunit := (ofInt_of_le hlarge hright).2
      rw [← h] at hunit
      omega
    have hrightne : right ≠ 0 := by
      rintro rfl
      rw [h, ofInt_zero] at hpos
      exact absurd hpos (by decide)
    rw [ofInt_of_lt hzero hleft, ofInt_of_lt hrightne hsmall] at h
    obtain ⟨hsign, hsignificand, hunit⟩ := Binary64.mk.inj h
    -- the same unit, so the same multiple of it
    have hlog : left.natAbs.log2 = right.natAbs.log2 := by omega
    rw [hlog] at hsignificand
    have habs := Nat.eq_of_mul_eq_mul_right (Nat.two_pow_pos _) hsignificand
    have hsame : left < 0 ↔ right < 0 := decide_eq_decide.mp hsign
    omega

end Binary64

end NoteVault.Decimal
