import Recorder.Number.Shortest

/-!
# Reading numbers

`Number.parse?` reads a decimal text: an optional sign, digits with an optional point before,
among or behind them, and an optional exponent, or the name of one that is not finite. The value
is rounded correctly.
-/

namespace Recorder.Number

/-- The digits at the start of a text and the rest. -/
def spanDigits (cs : List Char) : List Char × List Char :=
  (cs.takeWhile Char.isDigit, cs.dropWhile Char.isDigit)

/-- The natural number that a list of decimal digits denotes. -/
def natOfDigits (cs : List Char) : Nat :=
  cs.foldl (fun n c => 10 * n + (c.toNat - '0'.toNat)) 0

/-- An optional sign and the rest. -/
def spanSign : List Char → Bool × List Char
  | '-' :: cs => (true, cs)
  | '+' :: cs => (false, cs)
  | cs => (false, cs)

/-- The number nearest to `digits * 10 ^ exponent`. An exponent that takes the value far out of
range is not computed with. -/
def ofDecimal (digits : Nat) (exponent : Int) : Number :=
  let magnitude := (Nat.toDigits 10 digits).length + exponent
  if digits = 0 then .finite 0
  else if magnitude > 400 then .infinite false
  else if magnitude < -400 then .finite 0
  else ofRat (digits * tenPow exponent)

/-- The number with the other sign. -/
def negate : Number → Number
  | .nan => .nan
  | .infinite negative => .infinite !negative
  | .finite v => .finite (-v)

/-- The exponent part of a decimal text: nothing, or a mark, an optional sign and digits. -/
def parseExponent? : List Char → Option Int
  | [] => some 0
  | c :: cs =>
    if c = 'e' ∨ c = 'E' then
      let (negative, ds) := spanSign cs
      if ds.isEmpty || !ds.all Char.isDigit then none
      else some (if negative then -(natOfDigits ds : Int) else natOfDigits ds)
    else none

/-- A decimal text without a sign. -/
def parseDecimal? (cs : List Char) : Option Number :=
  let (whole, rest) := spanDigits cs
  let (fraction, tail) :=
    match rest with
    | '.' :: r => spanDigits r
    | r => ([], r)
  if whole.isEmpty && fraction.isEmpty then none
  else
    (parseExponent? tail).map fun e =>
      ofDecimal (natOfDigits (whole ++ fraction)) (e - fraction.length)

/-- A text without a sign: a decimal, or a name in any letter case. -/
def parseUnsigned? (cs : List Char) : Option Number :=
  let name := String.ofList (cs.map Char.toLower)
  if name = "inf" ∨ name = "infinity" then some (.infinite false)
  else if name = "nan" then some .nan
  else parseDecimal? cs

/-- The number that a text denotes. -/
def parse? (s : String) : Option Number :=
  let (negative, cs) := spanSign s.toList
  (parseUnsigned? cs).map fun n => if negative then n.negate else n

end Recorder.Number
