/-!
# Numbers

The numbers of the recorded programs are binary fractions of 53 significant bits. `Number.ofRat`
rounds an exact value to the nearest of them, a tie to the even one, and overflows to an infinity
at `2 ^ 1024`; a finite number is kept as its exact value, so that equal numbers are equal terms.
No operation here tells a negative zero from zero, and there is only one.
-/

namespace Recorder

/-- A binary fraction of 53 significant bits, one of the infinities, or no number at all. -/
inductive Number where
  /-- The result of an undefined operation. -/
  | nan
  /-- A value too large for a finite number. -/
  | infinite (negative : Bool)
  /-- A finite number, by its exact value. -/
  | finite (value : Rat)
deriving DecidableEq

namespace Number

/-- The quotient `a / b` rounded to an integer, a tie to the even one. -/
def roundHalfEven (a b : Nat) : Nat :=
  let q := a / b
  let r := a % b
  if 2 * r < b || (2 * r == b && q % 2 == 0) then q else q + 1

/-- The pair `(a', b')` with `a' / b' = a / b / 2 ^ e`. -/
def unscale (a b : Nat) (e : Int) : Nat × Nat :=
  if 0 ≤ e then (a, b * Nat.pow 2 e.toNat) else (a * Nat.pow 2 (-e).toNat, b)

/-- The exponent `k` with `2 ^ k ≤ a / b < 2 ^ (k + 1)`, for positive `a` and `b`. -/
def floorLog2 (a b : Nat) : Int :=
  let k : Int := (a.log2 : Int) - (b.log2 : Int)
  let (p, q) := unscale a b k
  if p < q then k - 1 else k

/-- The exponent of the unit in the last place for the positive value `a / b`. -/
def unitExponent (a b : Nat) : Int :=
  max (-1074) (floorLog2 a b - 52)

/-- The value `m * 2 ^ e`. -/
def scaled (m : Nat) (e : Int) : Rat :=
  if 0 ≤ e then ((m * Nat.pow 2 e.toNat : Nat) : Rat) else mkRat m (Nat.pow 2 (-e).toNat)

/-- The positive value `a / b` rounded to 53 significant bits, or `none` where it overflows. -/
def roundMagnitude (a b : Nat) : Option Rat :=
  let e := unitExponent a b
  let (p, q) := unscale a b e
  let v := scaled (roundHalfEven p q) e
  if v < (Nat.pow 2 1024 : Rat) then some v else none

/-- The number nearest to an exact value. -/
def ofRat (v : Rat) : Number :=
  if v.num = 0 then .finite 0
  else
    match roundMagnitude v.num.natAbs v.den with
    | none => .infinite (v.num < 0)
    | some m => .finite (if v.num < 0 then -m else m)

/-- The number nearest to an integer. -/
def ofInt (n : Int) : Number :=
  ofRat n

/-- Whether the number is neither infinite nor undefined. -/
def isFinite : Number → Bool
  | .finite _ => true
  | _ => false

/-- The integers that are written without a fraction or an exponent lie below this magnitude. -/
def integerBound : Nat := 1000000000000000

/-- The integer that a number is written as: itself, if it is integral and its magnitude is below
`integerBound`. -/
def toInteger? : Number → Option Int
  | .finite v => if v.den = 1 ∧ v.num.natAbs < integerBound then some v.num else none
  | _ => none

end Number

end Recorder
