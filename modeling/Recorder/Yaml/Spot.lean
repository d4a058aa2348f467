import Recorder.Text.Basic

/-!
# Spots of a text

In YAML the place of a character counts as much as the character. A text is read as a list of
spots: each is a character with its line, its column and the characters behind it. Before that the
usual line breaks are made one, so that only the line feed and the two separators of Unicode break
lines.
-/

namespace Recorder.Yaml

/-- The characters that a text may consist of. -/
def textRanges : Text.CharClass :=
  [(0x9, 0xA), (0xD, 0xD), (0x20, 0x7E), (0x85, 0x85), (0xA0, 0xD7FF), (0xE000, 0xFFFD),
   (0x10000, 0x10FFFF)]

/-- A space or a tab. -/
def isBlank (c : Char) : Bool :=
  c = ' ' || c = '\t'

/-- A line break, where only these are left. -/
def isBreak (c : Char) : Bool :=
  c = '\n' || c = '\u2028' || c = '\u2029'

/-- The characters of anchors and handles. -/
def isWordChar (c : Char) : Bool :=
  c.isAlphanum || c = '-' || c = '_'

/-- The text in which a carriage return, a next line, and a carriage return with the line feed
behind it are line feeds. -/
def unifyBreaks : List Char → List Char
  | [] => []
  | '\r' :: '\n' :: cs => '\n' :: unifyBreaks cs
  | c :: cs => (if c = '\r' ∨ c = '\u0085' then '\n' else c) :: unifyBreaks cs

/-- Whether a blank, a line break or the end comes next. -/
def atGap : List Char → Bool
  | [] => true
  | c :: _ => isBlank c || isBreak c

/-- Whether a text is only blanks or has a comment behind them. -/
def isIdle (cs : List Char) : Bool :=
  match cs.dropWhile isBlank with
  | [] => true
  | c :: _ => c = '#'

/-- A character at its place. -/
structure Spot where
  /-- The character. -/
  char : Char
  /-- The number of line breaks before it. -/
  line : Nat
  /-- The number of characters before it on its line. -/
  column : Nat
  /-- The characters behind it. -/
  ahead : List Char

namespace Spot

/-- Whether a word cannot go on behind the character. -/
def endsWord (s : Spot) : Bool :=
  atGap s.ahead

/-- Whether the next character is one of these. -/
def nextIn (s : Spot) (cs : List Char) : Bool :=
  s.ahead.head?.any cs.contains

/-- Whether a mark between documents starts here: three times the character at the start of a
line. -/
def startsMark (c : Char) (s : Spot) : Bool :=
  s.column = 0 && s.char = c && s.ahead.take 2 = [c, c] && atGap (s.ahead.drop 2)

end Spot

/-- The spots of a text whose first character is at a line and a column. -/
def spots (line column : Nat) : List Char → List Spot
  | [] => []
  | c :: cs =>
    ⟨c, line, column, cs⟩ ::
      if isBreak c then spots (line + 1) 0 cs else spots line (column + 1) cs

/-- What a character does to something in progress. -/
inductive Progress (σ : Type) where
  /-- It belongs to it. -/
  | more (state : σ)
  /-- It stands behind it. -/
  | over
  /-- It can neither belong to it nor stand behind it. -/
  | stuck

end Recorder.Yaml
