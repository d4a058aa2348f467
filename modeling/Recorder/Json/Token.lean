import Recorder.Json.Numeral

/-!
# JSON tokens

The lexical half of reading JSON. `Token.scan` goes through a text once, one character at a time,
with what it has seen of the current token as its state.
-/

namespace Recorder.Json

/-- A token of a JSON text. -/
inductive Token where
  /-- An opening brace. -/
  | openBrace
  /-- A closing brace. -/
  | closeBrace
  /-- An opening bracket. -/
  | openBracket
  /-- A closing bracket. -/
  | closeBracket
  /-- A colon. -/
  | colon
  /-- A comma. -/
  | comma
  /-- A string, `none` if half of a surrogate pair stands alone in it. -/
  | text (value : Option String)
  /-- A literal name or a number. -/
  | scalar (value : Json)

/-- What has been seen of the token in progress; characters are collected last first. -/
inductive ScanState where
  /-- No token is in progress. -/
  | between
  /-- A name or a number. -/
  | word (seen : List Char)
  /-- A string, by its code units. -/
  | string (seen : List Nat)
  /-- A string in which a backslash was just read. -/
  | escape (seen : List Nat)
  /-- A string with an escape by code of which `left` digits are still to come. -/
  | code (seen : List Nat) (left : Nat) (value : Nat)

/-- The scan state with the tokens found, last first. -/
structure Scan where
  /-- The token in progress. -/
  state : ScanState
  /-- The tokens before it, last first. -/
  found : List Token

namespace Token

/-- The characters between tokens that mean nothing. -/
def isBlank (c : Char) : Bool :=
  c = ' ' || c = '\t' || c = '\n' || c = '\r'

/-- The tokens of one character. -/
def punctuation? (c : Char) : Option Token :=
  if c = '\x7b' then some .openBrace
  else if c = '\x7d' then some .closeBrace
  else if c = '[' then some .openBracket
  else if c = ']' then some .closeBracket
  else if c = ':' then some .colon
  else if c = ',' then some .comma
  else none

/-- The value of a word: one of three names, or a number. -/
def ofWord? (cs : List Char) : Option Token :=
  if cs = "null".toList then some (.scalar .null)
  else if cs = "true".toList then some (.scalar (.bool true))
  else if cs = "false".toList then some (.scalar (.bool false))
  else (Numeral.parse? cs).map fun n => .scalar n.toJson

/-- The character that an escape of one letter stands for. -/
def escaped? (c : Char) : Option Char :=
  if c = '"' ∨ c = '\\' ∨ c = '/' then some c
  else if c = 'b' then some '\x08'
  else if c = 'f' then some '\x0c'
  else if c = 'n' then some '\n'
  else if c = 'r' then some '\r'
  else if c = 't' then some '\t'
  else none

/-- The string of a list of code units, in which surrogates come in pairs. -/
def ofUnits? : List Nat → Option (List Char)
  | [] => some []
  | u :: us =>
    if 0xD800 ≤ u ∧ u < 0xDC00 then
      match us with
      | [] => none
      | v :: vs =>
        if 0xDC00 ≤ v ∧ v < 0xE000 then
          (ofUnits? vs).map (Char.ofNat (0x10000 + (u - 0xD800) * 0x400 + (v - 0xDC00)) :: ·)
        else none
    else if 0xDC00 ≤ u ∧ u < 0xE000 then none
    else (ofUnits? us).map (Char.ofNat u :: ·)

/-- The string of the code units read, last first. -/
def ofSeen (seen : List Nat) : Token :=
  .text ((ofUnits? seen.reverse).map String.ofList)

/-- The scan after a character that is not part of a token in progress. -/
def scanFresh (found : List Token) (c : Char) : Scan :=
  match punctuation? c with
  | some t => ⟨.between, t :: found⟩
  | none =>
    if isBlank c then ⟨.between, found⟩
    else if c = '"' then ⟨.string [], found⟩
    else ⟨.word [c], found⟩

/-- The scan after one more character, or `none` if no token goes on like this. -/
def scanStep (s : Scan) (c : Char) : Option Scan :=
  match s.state with
  | .between => some (scanFresh s.found c)
  | .word seen =>
    if isBlank c || c = '"' || (punctuation? c).isSome then
      (ofWord? seen.reverse).map fun t => scanFresh (t :: s.found) c
    else some ⟨.word (c :: seen), s.found⟩
  | .string seen =>
    if c = '"' then some ⟨.between, ofSeen seen :: s.found⟩
    else if c = '\\' then some ⟨.escape seen, s.found⟩
    else if c.toNat < 0x20 then none
    else some ⟨.string (c.toNat :: seen), s.found⟩
  | .escape seen =>
    if c = 'u' then some ⟨.code seen 4 0, s.found⟩
    else (escaped? c).map fun e => ⟨.string (e.toNat :: seen), s.found⟩
  | .code seen left value =>
    (Text.hexDigit? c).map fun d =>
      let value := 16 * value + d
      if left ≤ 1 then ⟨.string (value :: seen), s.found⟩
      else ⟨.code seen (left - 1) value, s.found⟩

/-- The tokens at the end of the text, or `none` if a string is still open. -/
def scanEnd (s : Scan) : Option (List Token) :=
  match s.state with
  | .between => some s.found.reverse
  | .word seen => (ofWord? seen.reverse).map fun t => (t :: s.found).reverse
  | _ => none

/-- The tokens of a text. -/
def scan (cs : List Char) : Option (List Token) :=
  (cs.foldlM scanStep ⟨.between, []⟩).bind scanEnd

end Token

end Recorder.Json
