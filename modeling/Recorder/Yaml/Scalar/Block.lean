import Recorder.Yaml.Scalar

/-!
# Scalars as lines

A block scalar starts with a line that says how it ends and how far its lines are indented; where
it does not say how far, the first line that is not empty decides. The lines follow, each without
its indentation, up to one that is indented less. In a folded scalar two lines that do not start
with a blank are joined like words.
-/

namespace Recorder.Yaml

/-- What becomes of the line breaks at the end of a block scalar. -/
inductive Chomp where
  /-- The first stays. -/
  | clip
  /-- All stay. -/
  | keep
  /-- None stays. -/
  | strip
deriving DecidableEq

/-- What the first line of a block scalar says. -/
structure BlockHeader where
  /-- What becomes of the line breaks at the end. -/
  chomp : Chomp
  /-- How much further the lines are indented than the collection around them. -/
  indent : Option Nat

namespace BlockHeader

/-- The sign for line breaks at the end, which may be absent, and the rest. -/
def spanChomp : List Char → Option Chomp × List Char
  | '+' :: cs => (some .keep, cs)
  | '-' :: cs => (some .strip, cs)
  | cs => (none, cs)

/-- The digit of an indentation, which may be absent, and the rest. -/
def spanIndent : List Char → Option Nat × List Char
  | [] => (none, [])
  | c :: cs => if c.isDigit then (some (c.toNat - '0'.toNat), cs) else (none, c :: cs)

/-- The header that a line stands for; an indentation is not zero. -/
def parse? (cs : List Char) : Option BlockHeader :=
  let (before, cs) := spanChomp cs
  let (indent, cs) := spanIndent cs
  let (chomp, cs) := if before.isSome then (before, cs) else spanChomp cs
  if isIdle cs && indent ≠ some 0 then some ⟨chomp.getD .clip, indent⟩ else none

end BlockHeader

/-- A line of a block scalar and what follows it. -/
structure BlockLine where
  /-- The line without its indentation. -/
  text : List Char
  /-- The line break at its end, if there is one. -/
  ending : List Char
  /-- The line breaks of the empty lines behind it. -/
  empties : List Char

namespace BlockLine

/-- Whether the line starts with a blank. -/
def isIndented (l : BlockLine) : Bool :=
  l.text.head?.any isBlank

/-- What is between two lines. -/
def between (folded : Bool) (a b : BlockLine) : List Char :=
  if folded && a.ending = ['\n'] && !a.isIndented && !b.isIndented then
    if a.empties.isEmpty then [' '] else a.empties
  else a.ending ++ a.empties

/-- What is behind the last line. -/
def atEnd (l : BlockLine) : Chomp → List Char
  | .clip => l.ending
  | .keep => l.ending ++ l.empties
  | .strip => []

/-- The text of the lines. -/
def join (folded : Bool) (chomp : Chomp) : List BlockLine → List Char
  | [] => []
  | [l] => l.text ++ l.atEnd chomp
  | a :: b :: rest => a.text ++ between folded a b ++ join folded chomp (b :: rest)

end BlockLine

/-- Where in a block scalar the reading is. Characters are collected last first. -/
inductive BlockPhase where
  /-- On its first line. -/
  | header (seen : List Char)
  /-- At indentations and empty lines, of which the widest reaches to a column. -/
  | between (empties : List Char) (widest : Nat)
  /-- On a line. -/
  | line (seen : List Char)

/-- A block scalar in progress. -/
structure Block where
  /-- Whether it is folded. -/
  folded : Bool
  /-- The least column inside of the collection around it. -/
  floor : Nat
  /-- What becomes of the line breaks at its end. -/
  chomp : Chomp
  /-- The column of its lines, if it is known. -/
  column : Option Nat
  /-- The text before the current lines, last line first; the first line of all is empty and has no
  end. -/
  lines : List BlockLine
  /-- Where in it the reading is. -/
  phase : BlockPhase

namespace Block

/-- The block scalar behind its indicator. -/
def start (folded : Bool) (floor : Nat) : Block :=
  ⟨folded, floor, .clip, none, [], .header []⟩

/-- The scalar behind its first line. -/
def open? (b : Block) (seen : List Char) : Option Block :=
  (BlockHeader.parse? seen.reverse).map fun h =>
    { b with
      chomp := h.chomp
      column := h.indent.map (b.floor - 1 + ·)
      lines := [⟨[], [], []⟩]
      phase := .between [] 0 }

/-- The lines with the empty lines behind the last one. -/
def withEmpties (empties : List Char) : List BlockLine → List BlockLine
  | [] => []
  | l :: ls => { l with empties } :: ls

/-- The column of the lines, where the widest indentation decides if it has to. -/
def lineColumn (b : Block) (widest : Nat) : Nat :=
  b.column.getD (max widest (max b.floor 1))

/-- What a character does to the scalar between its lines. -/
def stepBetween (b : Block) (empties : List Char) (widest : Nat) (s : Spot) : Progress Block :=
  let widest := max widest s.column
  let indents := b.column.all (s.column < ·)
  if s.char = ' ' && indents then .more b
  else if s.char = '\t' && indents then .stuck
  else if isBreak s.char then .more { b with phase := .between (s.char :: empties) widest }
  else if b.lineColumn widest = s.column then
    .more { b with
      column := some s.column
      lines := withEmpties empties.reverse b.lines
      phase := .line [s.char] }
  else .over

/-- What a character does to the scalar. -/
def step (b : Block) (s : Spot) : Progress Block :=
  match b.phase with
  | .header seen =>
    if isBreak s.char then
      match b.open? seen with
      | some b => .more b
      | none => .stuck
    else .more { b with phase := .header (s.char :: seen) }
  | .between empties widest => b.stepBetween empties widest s
  | .line seen =>
    if isBreak s.char then
      .more { b with lines := ⟨seen.reverse, [s.char], []⟩ :: b.lines, phase := .between [] 0 }
    else .more { b with phase := .line (s.char :: seen) }

/-- The lines that have been read, last first, if the first line says something. -/
def lines? (b : Block) : Option (List BlockLine) :=
  match b.phase with
  | .header seen => (b.open? seen).map Block.lines
  | .between empties _ => some (withEmpties empties.reverse b.lines)
  | .line seen => some (⟨seen.reverse, [], []⟩ :: b.lines)

/-- The scalar, if its first line says something. -/
def scalar? (b : Block) : Option Scalar :=
  b.lines?.map fun ls =>
    ⟨String.ofList (BlockLine.join b.folded b.chomp ls.reverse),
     if b.folded then .folded else .literal⟩

end Block

end Recorder.Yaml
