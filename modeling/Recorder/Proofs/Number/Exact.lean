import Mathlib.Algebra.Order.Field.Rat
import Mathlib.Data.Rat.Cast.Order
import Recorder.Number.Basic

/-!
# Exact integers

An integer of at most 53 bits is a number as it is: the unit in its last place is at most one, so
that the value is a whole count of units and rounding takes nothing away.

`ofInt_eq_finite` is the result, from `unitExponent_nonpos`, which places the unit, and from
`roundMagnitude_eq_self`.
-/

namespace Recorder.Number

/-- The binary exponent of a positive integer is the number of its bits less one. -/
theorem floorLog2_one {m : Nat} (hm : m ≠ 0) : floorLog2 m 1 = m.log2 := by
  have hlog : Nat.log2 1 = 0 := by decide
  -- The first estimate is right, as the value is not below that power of two.
  have hle : 2 ^ m.log2 ≤ m := Nat.log2_self_le hm
  simpa [floorLog2, unscale, hlog] using hle

/-- The unit in the last place of an integer of at most 53 bits is at most one. -/
theorem unitExponent_nonpos {m : Nat} (hm : m ≠ 0) (h : m < 2 ^ 53) : unitExponent m 1 ≤ 0 := by
  have hlog : m.log2 < 53 := (Nat.log2_lt hm).2 h
  rw [unitExponent, floorLog2_one hm]
  omega

/-- Measured in a unit of at most one, an integer is an integer. -/
theorem unscale_of_nonpos (m : Nat) {e : Int} (he : e ≤ 0) :
    unscale m 1 e = (m * 2 ^ (-e).toNat, 1) := by
  rcases he.lt_or_eq with he | rfl
  · simp [unscale, not_le.2 he]
  · simp [unscale]

/-- The value of a count of units of at most one that make up an integer. -/
theorem scaled_of_nonpos (m : Nat) {e : Int} (he : e ≤ 0) :
    scaled (m * 2 ^ (-e).toNat) e = m := by
  rcases he.lt_or_eq with he | rfl
  · have hpow : (2 : Rat) ^ (-e).toNat ≠ 0 := pow_ne_zero _ two_ne_zero
    rw [scaled, if_neg (not_le.2 he), Rat.mkRat_eq_div, Nat.pow_eq]
    push_cast
    exact mul_div_cancel_right₀ _ hpow
  · simp [scaled]

/-- Rounding a quotient by one changes nothing. -/
theorem roundHalfEven_one (p : Nat) : roundHalfEven p 1 = p := by
  simp [roundHalfEven, Nat.mod_one]

/-- An integer of at most 53 bits is rounded to itself. -/
theorem roundMagnitude_eq_self {m : Nat} (hm : m ≠ 0) (h : m < 2 ^ 53) :
    roundMagnitude m 1 = some (m : Rat) := by
  have he := unitExponent_nonpos hm h
  simp only [roundMagnitude, unscale_of_nonpos m he, roundHalfEven_one, scaled_of_nonpos m he]
  -- What is left is that the value is far below the overflow.
  refine if_pos (Nat.cast_lt.2 (h.trans_le ?_))
  decide +kernel

/-- An integer of at most 53 bits is a number as it is. -/
theorem ofInt_eq_finite {n : Int} (h : n.natAbs < 2 ^ 53) : ofInt n = .finite n := by
  have hnum : ((n : Rat)).num = n := Rat.num_intCast n
  have hden : ((n : Rat)).den = 1 := Rat.den_intCast n
  rw [ofInt, ofRat, hnum, hden]
  split
  case isTrue hzero => simp [hzero]
  case isFalse hzero =>
    rw [roundMagnitude_eq_self (Int.natAbs_ne_zero.2 hzero) h]
    have hcast : ((n.natAbs : Nat) : Rat) = ((n.natAbs : Int) : Rat) := (Int.cast_natCast _).symm
    rcases lt_or_ge n 0 with hneg | hpos
    · simp [hcast, hneg, Int.ofNat_natAbs_of_nonpos hneg.le]
    · simp [hcast, not_lt.2 hpos, Int.natAbs_of_nonneg hpos]

end Recorder.Number
