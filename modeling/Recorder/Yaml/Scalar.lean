import Recorder.Yaml.Spot

/-!
# Scalars

A scalar is a text in one of five styles. In three of them it may be written on several lines, and
what stands between two of its words is folded: blanks on one line stay, a single line feed becomes
a space, and of several the first is left out.
-/

namespace Recorder.Yaml

/-- How a scalar is written. -/
inductive Style where
  /-- Without quotes. -/
  | plain
  /-- In single quotes. -/
  | single
  /-- In double quotes. -/
  | double
  /-- As lines that are kept. -/
  | literal
  /-- As lines that are folded. -/
  | folded
deriving DecidableEq

/-- A scalar. -/
structure Scalar where
  /-- What it says. -/
  text : String
  /-- How it is written. -/
  style : Style
deriving DecidableEq

/-- The scalar that nothing is. -/
def Scalar.empty : Scalar :=
  ⟨"", .plain⟩

/-- What stands between two words of a scalar. -/
inductive Gap where
  /-- Blanks on one line, last first. -/
  | blanks (seen : List Char)
  /-- Line breaks: the first, unless it is escaped, and the others, last first. -/
  | breaks (first : Option Char) (others : List Char)

namespace Gap

/-- No gap at all. -/
def none : Gap :=
  .blanks []

/-- Whether there is no gap. -/
def isNone : Gap → Bool
  | .blanks [] => true
  | _ => false

/-- Whether the gap holds a line break. -/
def isBroken : Gap → Bool
  | .blanks _ => false
  | .breaks _ _ => true

/-- The gap with a blank behind it, which does not count at the start of a line. -/
def blank (c : Char) : Gap → Gap
  | .blanks seen => .blanks (c :: seen)
  | g => g

/-- The gap with a line break behind it, before which blanks do not count. -/
def lineBreak (c : Char) : Gap → Gap
  | .blanks _ => .breaks (some c) []
  | .breaks first others => .breaks first (c :: others)

/-- What the gap adds to the text, last first. -/
def folded : Gap → List Char
  | .blanks seen => seen
  | .breaks (some '\n') [] => [' ']
  | .breaks (some '\n') others => others
  | .breaks first others => others ++ first.toList

end Gap

end Recorder.Yaml
