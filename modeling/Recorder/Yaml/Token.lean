import Recorder.Yaml.Scalar.Block
import Recorder.Yaml.Scalar.Plain
import Recorder.Yaml.Scalar.Quoted
import Recorder.Yaml.Tag

/-!
# YAML tokens

The tokens of a text, and those of more than one character while they are read. A token in progress
takes one character after the other until one does not belong to it.
-/

namespace Recorder.Yaml

/-- A token of a text. The starts and ends of block collections come from the indentation. -/
inductive Token where
  /-- A directive. -/
  | directive (value : Directive)
  /-- The start of a document. -/
  | documentStart
  /-- The end of a document. -/
  | documentEnd
  /-- The start of a sequence with an item on each line. -/
  | blockSequence
  /-- The start of a mapping with an entry on each line. -/
  | blockMapping
  /-- The end of such a sequence or mapping. -/
  | blockEnd
  /-- The start of a sequence in brackets. -/
  | flowSequence
  /-- The end of a sequence in brackets. -/
  | flowSequenceEnd
  /-- The start of a mapping in braces. -/
  | flowMapping
  /-- The end of a mapping in braces. -/
  | flowMappingEnd
  /-- A dash in front of an item. -/
  | item
  /-- A comma. -/
  | comma
  /-- What stands in front of a key, written or not. -/
  | key
  /-- A colon in front of a value. -/
  | value
  /-- A name for the node that follows. -/
  | anchor (name : String)
  /-- The node of a name. -/
  | alias (name : String)
  /-- The tag of the node that follows. -/
  | tag (value : Tag)
  /-- A scalar. -/
  | scalar (value : Scalar)
deriving DecidableEq

/-- A token in progress. Characters are collected last first. -/
inductive Lexeme where
  /-- A comment. -/
  | comment
  /-- A token whose kind is known and of which `left` characters are still to come. -/
  | rest (token : Token) (left : Nat)
  /-- A directive, of which the line break at the end is part. -/
  | directive (seen : List Char) (ended : Bool)
  /-- An anchor. -/
  | anchor (seen : List Char)
  /-- An alias. -/
  | alias (seen : List Char)
  /-- A tag. -/
  | tag (seen : List Char)
  /-- A scalar without quotes. -/
  | plain (scalar : Plain)
  /-- A scalar in quotes. -/
  | quoted (scalar : Quoted)
  /-- A scalar as lines. -/
  | block (scalar : Block)

/-- The same progress of something larger. -/
def Progress.map {σ τ : Type} (f : σ → τ) : Progress σ → Progress τ
  | .more state => .more (f state)
  | .over => .over
  | .stuck => .stuck

namespace Lexeme

/-- Whether the name of an anchor may end before the character. -/
def endsName (c : Char) : Bool :=
  isBlank c || isBreak c || "?:,]\x7d%@\x60".contains c

/-- What a character does to a name. -/
def stepName (seen : List Char) (c : Char) : Progress (List Char) :=
  if isWordChar c then .more (c :: seen)
  else if endsName c then .over
  else .stuck

/-- What a character does to a tag. -/
def stepTag (flow : Bool) (seen : List Char) (c : Char) : Progress (List Char) :=
  if isBlank c || isBreak c || (flow && c = ',' && !Tag.isOpen seen.reverse) then .over
  else .more (c :: seen)

/-- What a character does to a token, inside or outside of brackets and where lines have to be
indented to a column. -/
def step (flow : Bool) (floor : Nat) (l : Lexeme) (s : Spot) : Progress Lexeme :=
  match l with
  | .comment => if isBreak s.char then .over else .more .comment
  | .rest _ 0 => .over
  | .rest token (left + 1) => .more (.rest token left)
  | .directive _ true => .over
  | .directive seen false =>
    .more (if isBreak s.char then .directive seen true else .directive (s.char :: seen) false)
  | .anchor seen => (stepName seen s.char).map .anchor
  | .alias seen => (stepName seen s.char).map .alias
  | .tag seen => (stepTag flow seen s.char).map .tag
  | .plain p => (p.step flow floor s).map .plain
  | .quoted q => (q.step s).map .quoted
  | .block b => (b.step s).map .block

/-- A name of at least one character. -/
def name? (seen : List Char) : Option String :=
  if seen.isEmpty then none else some (String.ofList seen.reverse)

/-- The tokens that a complete lexeme stands for, which are none for a comment. -/
def tokens? : Lexeme → Option (List Token)
  | .comment => some []
  | .rest token _ => some [token]
  | .directive seen _ => (Directive.parse? seen.reverse).map ([.directive ·])
  | .anchor seen => (name? seen).map ([.anchor ·])
  | .alias seen => (name? seen).map ([.alias ·])
  | .tag seen => (Tag.parse? seen.reverse).map ([.tag ·])
  | .plain p => some [.scalar p.scalar]
  | .quoted q => q.scalar?.map ([.scalar ·])
  | .block b => b.scalar?.map ([.scalar ·])

/-- Whether a key may begin behind the lexeme because it ends with a line break. -/
def endsLine : Lexeme → Bool
  | .plain p => p.gap.isBroken
  | _ => false

end Lexeme

end Recorder.Yaml
