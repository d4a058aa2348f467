import Recorder.Yaml.Token

/-!
# Layout

From the spots of a text to its tokens. Outside of brackets a collection starts with the first item
or key that is indented more than the collections around it, and ends before a line that is indented
less. That something is a key shows only by the colon behind it, so the place of a possible key is
kept until then: a key has to end on its line, and within a fixed length.
-/

namespace Recorder.Yaml

/-- A place where a key may have begun. -/
structure Candidate where
  /-- The number of tokens before it. -/
  number : Nat
  /-- The line. -/
  line : Nat
  /-- The column. -/
  column : Nat
  /-- Whether nothing but a key can be there. -/
  required : Bool

/-- The number of characters that a key and the blanks behind it may take. -/
def keyLength : Nat := 1024

/-- Whether it is too late for the colon behind a key. -/
def Candidate.isLate (k : Candidate) (s : Spot) : Bool :=
  k.line < s.line || k.column + keyLength < s.column

/-- How far the reading of a text has come. -/
structure Layout where
  /-- The token in progress. -/
  lexeme : Option Lexeme
  /-- The tokens before it. -/
  found : Array Token
  /-- The columns of the open block collections, innermost first. -/
  blocks : List Nat
  /-- The possible key in the innermost collection. -/
  candidate : Option Candidate
  /-- The possible keys around the open brackets, innermost first. -/
  outer : List (Option Candidate)
  /-- Whether a key may begin here. -/
  keyAllowed : Bool

namespace Layout

/-- The start of a text. -/
def initial : Layout :=
  ⟨none, #[], [], none, [], true⟩

/-- The least column inside of the innermost block collection. -/
def floor (l : Layout) : Nat :=
  match l.blocks with
  | [] => 0
  | column :: _ => column + 1

/-- Whether brackets are open. -/
def flow (l : Layout) : Bool :=
  !l.outer.isEmpty

/-- Adds a token. -/
def add (t : Token) (l : Layout) : Layout :=
  { l with found := l.found.push t }

/-- Puts a token behind the first `number` tokens. -/
def insert (number : Nat) (t : Token) (l : Layout) : Layout :=
  { l with found := l.found.insertIdxIfInBounds number t }

/-- Says whether a key may begin behind this. -/
def allowKey (allowed : Bool) (l : Layout) : Layout :=
  { l with keyAllowed := allowed }

/-- Starts a token of more than one character. -/
def begin (lexeme : Lexeme) (l : Layout) : Layout :=
  { l with lexeme := some lexeme }

/-- What is left of a possible key where it cannot be one any more. -/
def refuse (k : Option Candidate) : Option (Option Candidate) :=
  if k.any Candidate.required then none else some none

/-- Gives up the possible key in the innermost collection. -/
def dropKey (l : Layout) : Option Layout :=
  (refuse l.candidate).map fun candidate => { l with candidate }

/-- Keeps the place of a possible key, if one may begin here. -/
def keepKey (s : Spot) (l : Layout) : Option Layout :=
  if l.keyAllowed then
    let k := ⟨l.found.size, s.line, s.column, !l.flow && l.floor = s.column + 1⟩
    l.dropKey.map fun l => { l with candidate := some k }
  else some l

/-- Gives up the possible keys for which it is too late. -/
def dropLate (s : Spot) (l : Layout) : Option Layout := do
  let review := fun k : Option Candidate => if k.any (·.isLate s) then refuse k else some k
  return { l with candidate := ← review l.candidate, outer := ← l.outer.mapM review }

/-- Ends the open block collections that are not `kept`. -/
def closeBlocks (kept : Nat → Bool) (l : Layout) : Layout :=
  if l.flow then l
  else
    let closed := l.blocks.takeWhile (!kept ·)
    { l with
      blocks := l.blocks.dropWhile (!kept ·)
      found := l.found ++ closed.map fun _ => Token.blockEnd }

/-- Starts a block collection at a column, behind the first `number` tokens, unless one is open
there. -/
def openBlock (column number : Nat) (t : Token) (l : Layout) : Layout :=
  if !l.flow && l.floor ≤ column then
    { l.insert number t with blocks := column :: l.blocks }
  else l

/-- A line that ends all collections: a mark between documents or a directive. -/
def boundary (lexeme : Lexeme) (l : Layout) : Option Layout :=
  (l.closeBlocks fun _ => false).dropKey.map fun l => (l.allowKey false).begin lexeme

/-- A bracket that opens. -/
def openFlow (t : Token) (s : Spot) (l : Layout) : Option Layout :=
  (l.keepKey s).map fun l =>
    { l.add t with candidate := none, outer := l.candidate :: l.outer, keyAllowed := true }

/-- A bracket that closes. -/
def closeFlow (t : Token) (l : Layout) : Option Layout :=
  l.dropKey.map fun l =>
    match l.outer with
    | [] => (l.add t).allowKey false
    | k :: outer => { l.add t with candidate := k, outer, keyAllowed := false }

/-- A comma. -/
def comma (l : Layout) : Option Layout :=
  l.dropKey.map fun l => (l.add .comma).allowKey true

/-- A dash in front of an item. -/
def item (s : Spot) (l : Layout) : Option Layout :=
  if !l.flow && !l.keyAllowed then none
  else
    (l.openBlock s.column l.found.size .blockSequence).dropKey.map fun l =>
      (l.add .item).allowKey true

/-- A question mark in front of a key. -/
def key (s : Spot) (l : Layout) : Option Layout :=
  if !l.flow && !l.keyAllowed then none
  else
    (l.openBlock s.column l.found.size .blockMapping).dropKey.map fun l =>
      (l.add .key).allowKey !l.flow

/-- A colon in front of a value, behind a key on the same line or behind one with a mark. -/
def value (s : Spot) (l : Layout) : Option Layout :=
  match l.candidate with
  | some k =>
    let l := (l.insert k.number .key).openBlock k.column k.number .blockMapping
    some { l.add .value with candidate := none, keyAllowed := false }
  | none =>
    if !l.flow && !l.keyAllowed then none
    else
      let l := l.openBlock s.column l.found.size .blockMapping
      some ((l.add .value).allowKey !l.flow)

/-- Something that may be a key, and behind which none may begin. -/
def node (lexeme : Lexeme) (s : Spot) (l : Layout) : Option Layout :=
  (l.keepKey s).map fun l => (l.allowKey false).begin lexeme

/-- A scalar as lines. -/
def lines (folded : Bool) (l : Layout) : Option Layout :=
  l.dropKey.map fun l => (l.allowKey true).begin (.block (.start folded l.floor))

/-- Whether a plain scalar may start at a spot where no other token does. -/
def startsPlain (flow : Bool) (s : Spot) : Bool :=
  if s.char = '-' then true
  else if s.char = '?' || s.char = ':' then !flow && !s.endsWord
  else !",[]\x7b\x7d#&*!|>'\"%@\x60".contains s.char

/-- The layout behind the first character of a token. -/
def start (s : Spot) (l : Layout) : Option Layout :=
  let c := s.char
  if s.column = 0 && c = '%' then l.boundary (.directive [] false)
  else if s.startsMark '-' then l.boundary (.rest .documentStart 2)
  else if s.startsMark '.' then l.boundary (.rest .documentEnd 2)
  else if c = '[' then l.openFlow .flowSequence s
  else if c = '\x7b' then l.openFlow .flowMapping s
  else if c = ']' then l.closeFlow .flowSequenceEnd
  else if c = '\x7d' then l.closeFlow .flowMappingEnd
  else if c = ',' then l.comma
  else if c = '-' && s.endsWord then l.item s
  else if c = '?' && (l.flow || s.endsWord) then l.key s
  else if c = ':' && (l.flow || s.endsWord) then l.value s
  else if c = '*' then l.node (.alias []) s
  else if c = '&' then l.node (.anchor []) s
  else if c = '!' then l.node (.tag []) s
  else if c = '|' && !l.flow then l.lines false
  else if c = '>' && !l.flow then l.lines true
  else if c = '\'' then l.node (.quoted (.start false)) s
  else if c = '"' then l.node (.quoted (.start true)) s
  else if startsPlain l.flow s then l.node (.plain (.start c)) s
  else none

/-- The layout behind a character that is not part of a token in progress. A tab does not indent,
and a byte order mark may start a line. -/
def stepFresh (s : Spot) (l : Layout) : Option Layout :=
  let c := s.char
  if c = ' ' || (c = '\ufeff' && s.column = 0) then some l
  else if c = '\t' then if l.flow || !l.keyAllowed then some l else none
  else if c = '#' then some (l.begin .comment)
  else if isBreak c then some (l.allowKey (l.keyAllowed || !l.flow))
  else (l.dropLate s).bind fun l => (l.closeBlocks (· ≤ s.column)).start s

/-- Completes the token in progress. -/
def complete? (l : Layout) : Option Layout :=
  match l.lexeme with
  | none => some l
  | some x =>
    x.tokens?.map fun (ts : List Token) =>
      { l with
        lexeme := none
        found := l.found.appendList ts
        keyAllowed := l.keyAllowed || x.endsLine }

/-- The layout behind one more character. -/
def step (l : Layout) (s : Spot) : Option Layout :=
  match l.lexeme with
  | none => l.stepFresh s
  | some x =>
    match x.step l.flow l.floor s with
    | .more x => some (l.begin x)
    | .over => l.complete?.bind (stepFresh s)
    | .stuck => none

/-- The tokens at the end of the text. -/
def finish? (l : Layout) : Option (List Token) := do
  let l ← l.complete?
  let l ← (l.closeBlocks fun _ => false).dropKey
  return l.found.toList

end Layout

/-- The tokens of a text. -/
def Token.ofText? (text : String) : Option (List Token) :=
  let cs := text.toList
  if cs.all textRanges.has then
    ((spots 0 0 (unifyBreaks cs)).foldlM Layout.step .initial).bind Layout.finish?
  else none

end Recorder.Yaml
