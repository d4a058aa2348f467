import Recorder.Yaml.Scalar

/-!
# Scalars without quotes

A plain scalar ends where a colon ends a word, before a comment, before a mark between documents,
and on a line that is not indented enough; inside of brackets also at a bracket or a comma.
-/

namespace Recorder.Yaml

/-- A plain scalar in progress. -/
structure Plain where
  /-- Its characters, last first. -/
  seen : List Char
  /-- What stands behind them. -/
  gap : Gap

namespace Plain

/-- The plain scalar that starts with a character. -/
def start (c : Char) : Plain :=
  ⟨[c], .none⟩

/-- The scalar so far. -/
def scalar (p : Plain) : Scalar :=
  ⟨String.ofList p.seen.reverse, .plain⟩

/-- Whether no plain scalar goes on at this spot behind a gap. -/
def endsBefore (flow : Bool) (floor : Nat) (s : Spot) : Bool :=
  (!flow && s.column < floor) || s.startsMark '-' || s.startsMark '.' || s.char = '#'

/-- The brackets and the comma. -/
def flowIndicators : List Char :=
  [',', '[', ']', '\x7b', '\x7d']

/-- Whether a word of a plain scalar ends at this spot. -/
def endsWordAt (flow : Bool) (s : Spot) : Bool :=
  (s.char = ':' && s.endsWord) || (flow && flowIndicators.contains s.char)

/-- What a character does to the scalar, inside or outside of brackets and where lines have to be
indented to a column. -/
def step (flow : Bool) (floor : Nat) (p : Plain) (s : Spot) : Progress Plain :=
  if isBlank s.char then
    if p.gap.isBroken && s.column < floor && s.char = '\t' then .stuck
    else .more { p with gap := p.gap.blank s.char }
  else if isBreak s.char then .more { p with gap := p.gap.lineBreak s.char }
  else if !p.gap.isNone && endsBefore flow floor s then .over
  else if flow && s.char = ':' && s.nextIn ('?' :: flowIndicators) then .stuck
  else if endsWordAt flow s then .over
  else .more ⟨s.char :: (p.gap.folded ++ p.seen), .none⟩

end Plain

end Recorder.Yaml
