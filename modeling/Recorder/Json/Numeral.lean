import Recorder.Json.Basic
import Recorder.Number.Read
import Recorder.Text.Basic

/-!
# JSON numerals

A numeral is an optional minus sign, digits without a leading zero, an optional fraction and an
optional exponent. Without the last two it is an integer if it fits 64 bits. Any other is computed
in numbers of limited precision: the leading digits that fit 64 bits are rounded, then scaled by one
rounded power of ten, so that the result may differ from the nearest number in its last place.
-/

namespace Recorder.Json

/-- A numeral in its parts. -/
structure Numeral where
  /-- Whether there is a minus sign. -/
  negative : Bool
  /-- The digits before the point. -/
  whole : List Char
  /-- The digits behind the point, if there is one. -/
  fraction : Option (List Char)
  /-- The sign and the digits of the exponent, if there is one. -/
  exponent : Option (Bool × List Char)

namespace Numeral

open Number (spanDigits spanSign natOfDigits tenPow)

/-- The fraction at the start of a text, and the rest; `none` if a point has no digit behind it. -/
def parseFraction? : List Char → Option (Option (List Char) × List Char)
  | '.' :: cs =>
    let (ds, rest) := spanDigits cs
    if ds.isEmpty then none else some (some ds, rest)
  | cs => some (none, cs)

/-- The exponent that makes up a text; `none` if it is no exponent. -/
def parseExponent? : List Char → Option (Option (Bool × List Char))
  | [] => some none
  | c :: cs =>
    let (negative, ds) := spanSign cs
    if (c = 'e' ∨ c = 'E') ∧ !ds.isEmpty ∧ ds.all Char.isDigit then some (some (negative, ds))
    else none

/-- The parts of a numeral. -/
def parse? (cs : List Char) : Option Numeral := do
  let negative := cs.head? == some '-'
  let (whole, rest) := spanDigits (if negative then cs.drop 1 else cs)
  if whole.isEmpty || (whole.head? == some '0' && whole.length != 1) then none
  let (fraction, rest) ← parseFraction? rest
  let exponent ← parseExponent? rest
  return { negative, whole, fraction, exponent }

/-- Appends digits to a significand as long as it fits 64 bits; returns it with the other digits. -/
def takeDigits (significand : Nat) : List Char → Nat × List Char
  | [] => (significand, [])
  | d :: ds =>
    let next := 10 * significand + natOfDigits [d]
    if next < Text.wordBound then takeDigits next ds else (significand, d :: ds)

/-- The value of a number that is finite. -/
def finite? : Number → Option Rat
  | .finite v => some v
  | _ => none

/-- The value `f * 10 ^ exponent` computed with one rounding for each factor, none of which is
beyond `10 ^ 308`; `none` where it overflows. -/
def scaleByTen (f : Rat) (exponent : Int) : Option Rat :=
  if exponent.natAbs ≤ 308 then
    (finite? (Number.ofRat (tenPow exponent.natAbs))).bind fun power =>
      finite? (Number.ofRat (if 0 ≤ exponent then f * power else f / power))
  else if f = 0 then some 0
  else if 0 ≤ exponent then none
  else
    (finite? (Number.ofRat (tenPow 308))).bind fun power =>
      (finite? (Number.ofRat (f / power))).bind fun g => scaleByTen g (exponent + 308)
termination_by exponent.natAbs
decreasing_by omega

/-- The exponents that are computed with lie within this bound. -/
def exponentBound : Int := 2147483647

/-- The value of a numeral, without its sign, that is not an integer of 64 bits. -/
def magnitude? (n : Numeral) : Option Rat :=
  let (lead, moreWhole) := takeDigits 0 n.whole
  let fraction := n.fraction.getD []
  let (significand, moreFraction) := takeDigits lead fraction
  let shift : Int := moreWhole.length - (fraction.length - moreFraction.length)
  let start := (finite? (Number.ofInt significand)).getD 0
  match n.exponent with
  | none => scaleByTen start shift
  | some (negative, ds) =>
    let e : Int := natOfDigits ds
    if exponentBound < e then
      if significand ≠ 0 ∧ !negative then none else some 0
    else if negative then scaleByTen start (max (shift - e) (-exponentBound - 1))
    else scaleByTen start (min (shift + e) exponentBound)

/-- The integer of a numeral without fraction and exponent, if it fits 64 bits. A negative zero is
no integer. -/
def integer? (n : Numeral) : Option Int :=
  let m := natOfDigits n.whole
  if n.fraction.isSome || n.exponent.isSome then none
  else if n.negative then
    if 0 < m ∧ 2 * m ≤ Text.wordBound then some (-(m : Int)) else none
  else if m < Text.wordBound then some m
  else none

/-- The value of a numeral. -/
def toJson (n : Numeral) : Json :=
  match n.integer? with
  | some i => .integer i
  | none =>
    match n.magnitude? with
    | some v => .real (if n.negative then -v else v)
    | none => .unreadable

end Numeral

end Recorder.Json
