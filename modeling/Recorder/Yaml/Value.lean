import Recorder.Yaml.Node

/-!
# Values of scalars

What the scalars of a document say where a certain kind of value is wanted. Any scalar is a text, as
it is written. A truth value or a number is not in quotes: it is plain, or consists of lines with
the tag for its kind.
-/

namespace Recorder.Yaml

/-- Whether a scalar is nothing, by its text or by a name for it. -/
def isNull (s : Scalar) : Bool :=
  s.style = .plain && ["", "~", "null", "Null", "NULL"].contains s.text

/-- The number that digits denote in the base that is written in front of them, which is ten where
none is. A number in base ten has no needless zero in front. -/
def unsigned? : List Char → Option Nat
  | '0' :: 'x' :: cs => Text.natural? 16 cs
  | '0' :: 'o' :: cs => Text.natural? 8 cs
  | '0' :: 'b' :: cs => Text.natural? 2 cs
  | ['0'] => some 0
  | '0' :: _ => none
  | cs => Text.natural? 10 cs

/-- The number that a text denotes, which may have a plus sign. -/
def written? : List Char → Option Nat
  | '+' :: cs => unsigned? cs
  | cs => unsigned? cs

namespace Leaf

/-- Whether the leaf may be read as a value of the kind that a tag names. -/
def isValueOf (kind : String) (l : Leaf) : Bool :=
  l.scalar.style = .plain || (l.scalar.style = .literal && l.tag = some (coreTag kind))

/-- The text. -/
def text (l : Leaf) : String :=
  l.scalar.text

/-- A truth value. -/
def bool? (l : Leaf) : Option Bool :=
  if !l.isValueOf "bool" then none
  else if ["true", "True", "TRUE"].contains l.text then some true
  else if ["false", "False", "FALSE"].contains l.text then some false
  else none

/-- A natural number of at most 64 bits. -/
def count? (l : Leaf) : Option Nat :=
  if l.isValueOf "int" then (written? l.text.toList).filter (· < Text.wordBound) else none

/-- A name of a fixed choice: a text, or a tag that is not a full one in front of nothing. -/
def choice? (l : Leaf) : Option String :=
  match l.tag.map String.toList with
  | some ('!' :: name) => if isNull l.scalar then some (String.ofList name) else none
  | _ => some l.text

end Leaf

end Recorder.Yaml
