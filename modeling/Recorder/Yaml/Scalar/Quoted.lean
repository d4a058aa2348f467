import Recorder.Text.Basic
import Recorder.Yaml.Scalar

/-!
# Scalars in quotes

In single quotes only the quote itself needs care and is written twice. In double quotes a backslash
stands before an escaped character, before the code of one, and before a line break that does not
count. A quoted scalar ends with its second quote.
-/

namespace Recorder.Yaml

/-- Where in a quoted scalar the reading is. -/
inductive QuotedPhase where
  /-- At its characters. -/
  | text
  /-- At the second of two quotes that stand for one. -/
  | secondQuote
  /-- Behind a backslash. -/
  | escape
  /-- At the code of a character with so many digits left and this value so far. -/
  | code (left value : Nat)
  /-- Behind the last quote. -/
  | closed
deriving DecidableEq

/-- A quoted scalar in progress. -/
structure Quoted where
  /-- Whether the quotes are double. -/
  double : Bool
  /-- Its characters, last first. -/
  seen : List Char
  /-- What stands behind them. -/
  gap : Gap
  /-- Where in it the reading is. -/
  phase : QuotedPhase

namespace Quoted

/-- The character that a letter behind a backslash stands for. -/
def escaped? (c : Char) : Option Char :=
  [('0', '\x00'), ('a', '\x07'), ('b', '\x08'), ('t', '\t'), ('\t', '\t'), ('n', '\n'),
   ('v', '\x0b'), ('f', '\x0c'), ('r', '\r'), ('e', '\x1b'), (' ', ' '), ('"', '"'), ('/', '/'),
   ('\\', '\\'), ('N', '\u0085'), ('_', '\u00a0'), ('L', '\u2028'), ('P', '\u2029')].lookup c

/-- The number of digits of the code that a letter behind a backslash announces. -/
def codeLength? (c : Char) : Option Nat :=
  [('x', 2), ('u', 4), ('U', 8)].lookup c

/-- The quoted scalar behind its first quote. -/
def start (double : Bool) : Quoted :=
  ⟨double, [], .none, .text⟩

/-- The scalar, if its last quote has been read. -/
def scalar? (q : Quoted) : Option Scalar :=
  if q.phase = .closed then
    some ⟨String.ofList q.seen.reverse, if q.double then .double else .single⟩
  else none

/-- The scalar in another phase. -/
def enter (q : Quoted) (phase : QuotedPhase) : Quoted :=
  { q with phase }

/-- The scalar with one more character. -/
def push (q : Quoted) (c : Char) : Quoted :=
  { q with seen := c :: q.seen, phase := .text }

/-- What a character does to the scalar where its characters are read. -/
def stepText (q : Quoted) (s : Spot) : Progress Quoted :=
  let c := s.char
  if s.startsMark '-' || s.startsMark '.' then .stuck
  else if isBlank c then .more { q with gap := q.gap.blank c }
  else if isBreak c then .more { q with gap := q.gap.lineBreak c }
  else
    let q := { q with seen := q.gap.folded ++ q.seen, gap := .none }
    if q.double then
      .more (if c = '"' then q.enter .closed else if c = '\\' then q.enter .escape else q.push c)
    else if c = '\'' then
      .more (q.enter (if s.nextIn ['\''] then .secondQuote else .closed))
    else .more (q.push c)

/-- What a character does to the scalar behind a backslash. -/
def stepEscape (q : Quoted) (c : Char) : Progress Quoted :=
  if isBreak c then .more { q with gap := .breaks .none [], phase := .text }
  else
    match codeLength? c, escaped? c with
    | some n, _ => .more (q.enter (.code n 0))
    | none, some e => .more (q.push e)
    | none, none => .stuck

/-- What a character does to the scalar in the code of a character. -/
def stepCode (q : Quoted) (left value : Nat) (c : Char) : Progress Quoted :=
  match Text.hexDigit? c with
  | none => .stuck
  | some d =>
    let value := 16 * value + d
    if 1 < left then .more (q.enter (.code (left - 1) value))
    else if value.isValidChar then .more (q.push (Char.ofNat value))
    else .stuck

/-- What a character does to the scalar. -/
def step (q : Quoted) (s : Spot) : Progress Quoted :=
  match q.phase with
  | .text => q.stepText s
  | .secondQuote => .more (q.push s.char)
  | .escape => q.stepEscape s.char
  | .code left value => q.stepCode left value s.char
  | .closed => .over

end Quoted

end Recorder.Yaml
