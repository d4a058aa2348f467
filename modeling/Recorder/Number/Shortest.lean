import Recorder.Number.Basic

/-!
# Shortest decimals

The shortest decimal of a number has the fewest significant digits among those that round to it,
and is the nearest to it of these. The decimals that round to `m * 2 ^ e` lie between the middles
to its two neighbours, the middles included if `m` is even. If a grid of decimals has a point in
there, one of the value's two neighbours on the grid is such a point, so the search tries these
two on finer and finer grids, from the first power of ten above the value down to 17 digits.
-/

namespace Recorder.Number

/-- Which of two equally near decimals is written. -/
inductive Tie where
  /-- The larger one. -/
  | up
  /-- The one whose last digit is even. -/
  | even
deriving DecidableEq

/-- A decimal `digits * 10 ^ exponent`. -/
structure Decimal where
  /-- The significant digits, as one integer. -/
  digits : Nat
  /-- The power of ten of the last digit. -/
  exponent : Int
deriving DecidableEq

/-- The value `10 ^ k`. -/
def tenPow (k : Int) : Rat :=
  if 0 ≤ k then (Nat.pow 10 k.toNat : Rat) else mkRat 1 (Nat.pow 10 (-k).toNat)

/-- The value of a decimal. -/
def Decimal.value (d : Decimal) : Rat :=
  d.digits * tenPow d.exponent

/-- The least `k` with `v < 10 ^ k`, for a positive value that is a number. It is found from the
binary exponent `b`, as `k` is one of the three integers from `b * log 2` on. -/
def decimalPoint (v : Rat) : Int :=
  let estimate := (floorLog2 v.num.natAbs v.den * 30103).fdiv 100000
  if v < tenPow estimate then estimate
  else if v < tenPow (estimate + 1) then estimate + 1
  else if v < tenPow (estimate + 2) then estimate + 2
  else estimate + 3

/-- The values that round to a positive number: the two ends, and whether they belong to it. -/
def roundingInterval (v : Rat) : Rat × Rat × Bool :=
  let e := unitExponent v.num.natAbs v.den
  let (p, q) := unscale v.num.natAbs v.den e
  let m := p / q
  let low :=
    if m = Nat.pow 2 52 ∧ -1074 < e then scaled (4 * m - 1) (e - 2) else scaled (2 * m - 1) (e - 1)
  (low, scaled (2 * m + 1) (e - 1), m % 2 == 0)

/-- The point nearest to `v` that rounds to it on the grid of decimals with the last digit at
`10 ^ k`, if there is one. -/
def nearestOnGrid (tie : Tie) (v : Rat) (k : Int) : Option Decimal :=
  let (low, high, closed) := roundingInterval v
  let rounds (w : Rat) : Bool := (low < w && w < high) || (closed && (w == low || w == high))
  let below := (v / tenPow k).floor.toNat
  let down : Decimal := ⟨below, k⟩
  let up : Decimal := ⟨below + 1, k⟩
  match rounds down.value, rounds up.value with
  | false, false => none
  | true, false => some down
  | false, true => some up
  | true, true =>
    let toDown := v - down.value
    let toUp := up.value - v
    if toDown < toUp then some down
    else if toUp < toDown then some up
    else if tie = .even ∧ below % 2 = 0 then some down
    else some up

/-- The first grid of at most `count` more digits that has a point, the last digits going down from
`10 ^ k`. -/
def firstOnGrids (tie : Tie) (v : Rat) (k : Int) : Nat → Option Decimal
  | 0 => none
  | count + 1 =>
    match nearestOnGrid tie v k with
    | some d => some d
    | none => firstOnGrids tie v (k - 1) count

/-- The shortest decimal of a positive number. -/
def shortest (tie : Tie) (v : Rat) : Decimal :=
  (firstOnGrids tie v (decimalPoint v) 18).getD ⟨0, 0⟩

end Recorder.Number
