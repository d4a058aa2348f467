import Recorder.Number.Shortest

/-!
# Number texts

Two ways to write a number. `toText` is the way of source code: integers up to fifteen digits as
they are, others by their shortest decimal in positional notation, however long, and the three
that are not finite by name. `toJsonText` writes a finite number that is no such integer with a
decimal point always, and with an exponent outside of `10 ^ -5` to `10 ^ 16`, whose sign is
written in any case.
-/

namespace Recorder.Number

/-- The digits of a natural number. -/
def digitsOf (n : Nat) : List Char :=
  Nat.toDigits 10 n

/-- The digits in positional notation, the last one at `10 ^ exponent`. -/
def positional (digits : List Char) (exponent : Int) : List Char :=
  let point : Int := digits.length + exponent
  if 0 ≤ exponent then digits ++ List.replicate exponent.toNat '0'
  else if 0 < point then digits.take point.toNat ++ '.' :: digits.drop point.toNat
  else '0' :: '.' :: List.replicate (-point).toNat '0' ++ digits

/-- A minus sign in front of the text of a negative number. -/
def signed (negative : Bool) (cs : List Char) : List Char :=
  if negative then '-' :: cs else cs

/-- The text of a finite number in positional notation. -/
def finiteText (v : Rat) : List Char :=
  if v.num = 0 then ['0']
  else
    let d := shortest .up (if v.num < 0 then -v else v)
    signed (v.num < 0) (positional (digitsOf d.digits) d.exponent)

/-- The text of an integer. -/
def integerText (n : Int) : List Char :=
  signed (n < 0) (digitsOf n.natAbs)

/-- The text of a number in source code. -/
def toText (n : Number) : List Char :=
  match n.toInteger? with
  | some i => integerText i
  | none =>
    match n with
    | .nan => "NaN".toList
    | .infinite false => "Infinity".toList
    | .infinite true => "-Infinity".toList
    | .finite v => finiteText v

/-- The text of an exponent, which always has a sign. -/
def exponentText (n : Int) : List Char :=
  if 0 ≤ n then '+' :: integerText n else integerText n

/-- The digits of a shortest decimal in JSON's notation, where `point` is the position of the
decimal point behind the first digit's left side. -/
def jsonDigits (digits : List Char) (exponent : Int) : List Char :=
  let point : Int := digits.length + exponent
  if 0 ≤ exponent ∧ point ≤ 16 then positional digits exponent ++ ['.', '0']
  else if -5 < point ∧ point ≤ 16 then positional digits exponent
  else
    let fraction := digits.drop 1
    digits.take 1 ++ (if fraction.isEmpty then [] else '.' :: fraction) ++
      'e' :: exponentText (point - 1)

/-- The text of a finite number that JSON holds as a fraction. -/
def toJsonText (v : Rat) : List Char :=
  if v.num = 0 then "0.0".toList
  else
    let d := shortest .even (if v.num < 0 then -v else v)
    signed (v.num < 0) (jsonDigits (digitsOf d.digits) d.exponent)

end Recorder.Number
