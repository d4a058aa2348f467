/-!
# Texts

What is asked of the characters of a text wherever one is read. A class of characters is a list of
ranges of code points, each given by its first and its last code point, in increasing order. A test
stops at the first range that begins beyond the character, so that the common characters, which come
first, cost little.

Tag names, attribute names and a few attribute values are compared without regard to the case of
the 26 Latin letters; all other characters stay as they are. Escapes by code and numbers in other
bases than ten are written with the digits `0` to `9` and the letters `a` to `f` in either case.
-/

namespace Recorder.Text

/-! ## Classes of characters -/

/-- Ranges of code points, each with its first and its last member, in increasing order. -/
abbrev CharClass := List (Nat × Nat)

/-- Whether the code point `n` lies in one of the ranges. -/
def CharClass.hasCode (n : Nat) : CharClass → Bool
  | [] => false
  | (first, last) :: rest => if n < first then false else n ≤ last || CharClass.hasCode n rest

/-- Whether the character lies in one of the ranges. -/
def CharClass.has (ranges : CharClass) (c : Char) : Bool :=
  ranges.hasCode c.toNat

/-! ## ASCII letters and digits -/

/-- The string with its Latin capital letters in lower case. -/
def asciiLower (s : String) : String :=
  String.ofList (s.toList.map Char.toLower)

/-- The value of a hexadecimal digit. -/
def hexDigit? (c : Char) : Option Nat :=
  if '0' ≤ c ∧ c ≤ '9' then some (c.toNat - '0'.toNat)
  else if 'a' ≤ c ∧ c ≤ 'f' then some (c.toNat - 'a'.toNat + 10)
  else if 'A' ≤ c ∧ c ≤ 'F' then some (c.toNat - 'A'.toNat + 10)
  else none

/-- The value of a digit in a base of at most sixteen. -/
def digit? (base : Nat) (c : Char) : Option Nat :=
  (hexDigit? c).filter (· < base)

/-- The number that one or more digits denote in a base of at most sixteen. -/
def natural? (base : Nat) (cs : List Char) : Option Nat :=
  if cs.isEmpty then none
  else cs.foldlM (fun n c => (digit? base c).map (base * n + ·)) 0

/-- The natural numbers of 64 bits lie below this bound. -/
def wordBound : Nat := 18446744073709551616

/-! ## Pieces -/

/-- The pieces of a text between the characters `separator`; there is one more than of those. -/
def pieces (separator : Char) : List Char → List (List Char)
  | [] => [[]]
  | c :: cs =>
    if c = separator then [] :: pieces separator cs
    else
      match pieces separator cs with
      | [] => [[c]]
      | p :: ps => (c :: p) :: ps

/-- The number that a text of digits below `bound` denotes, with an optional plus sign. -/
def parseCount? (bound : Nat) (cs : List Char) : Option Nat :=
  let digits := if cs.head? = some '+' then cs.drop 1 else cs
  let n := digits.foldl (fun n c => 10 * n + (c.toNat - '0'.toNat)) 0
  if !digits.isEmpty && digits.all Char.isDigit && n < bound then some n else none

/-- Whether `needle` occurs somewhere in a text. -/
def hasPiece (needle : List Char) : List Char → Bool
  | [] => needle.isEmpty
  | c :: cs => needle.isPrefixOf (c :: cs) || hasPiece needle cs

end Recorder.Text
