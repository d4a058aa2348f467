import Recorder.Text.Case
import Recorder.Text.Whitespace
import Recorder.Text.Word

/-!
# Names of stories

A story has the name that is shown and the name that it is exported by. `exportName` makes an export
name from a name as it was typed: it starts with a letter, and where separators stood the next word
has a capital. `displayName` makes the name to show from an export name: its words and numbers set
apart, each with a capital. Letters here are the Latin ones, and the two characters whose other case
is among them.
-/

namespace Recorder.Story

open Text (isWhiteSpace isDecimalDigit isWordChar upperChar trim)

/-- Whether the character is a Latin letter or one that is the same in another case: the long s and
the Kelvin sign. -/
def isLetter (c : Char) : Bool :=
  c.isAlpha || c = 'ſ' || c = '\u212a'

/-- The letters are those of ASCII, the long s (U+017F) and the Kelvin sign (U+212A). -/
theorem isLetter_iff {c : Char} : isLetter c = true ↔
    ('A' ≤ c ∧ c ≤ 'Z') ∨ ('a' ≤ c ∧ c ≤ 'z') ∨ c = '\u017f' ∨ c = '\u212a' := by
  have hupper : c.isUpper = true ↔ 'A' ≤ c ∧ c ≤ 'Z' :=
    decide_eq_true_iff (p := 'A' ≤ c ∧ c ≤ 'Z')
  have hlower : c.isLower = true ↔ 'a' ≤ c ∧ c ≤ 'z' := by
    show (decide ('a' ≤ c) && decide (c ≤ 'z')) = true ↔ _
    rw [Bool.and_eq_true, decide_eq_true_eq, decide_eq_true_eq]
  have halpha : c.isAlpha = true ↔ c.isUpper = true ∨ c.isLower = true := Bool.or_eq_true_iff
  rw [isLetter, Bool.or_eq_true, Bool.or_eq_true, halpha, hupper, hlower, decide_eq_true_eq,
    decide_eq_true_eq, or_assoc, or_assoc]

/-- Whether the character separates words. -/
def isSeparator (c : Char) : Bool :=
  c = '-' || c = '_' || c = ' '

/-- The separators are the hyphen, the underscore and the blank. -/
theorem isSeparator_iff {c : Char} : isSeparator c = true ↔ c = '-' ∨ c = '_' ∨ c = ' ' := by
  simp only [isSeparator, Bool.or_eq_true, decide_eq_true_eq, or_assoc]

/-- The text without its first character if that is no letter, and then without digits in front. -/
def dropLeading (cs : List Char) : List Char :=
  let rest :=
    match cs with
    | [] => []
    | c :: rest => if isLetter c then c :: rest else rest
  rest.dropWhile isDecimalDigit

/-- Whether the character may stay in an export name until words are joined. -/
def isNameChar (c : Char) : Bool :=
  isLetter c || c.isDigit || isSeparator c

/-- Joins the words of a text: each letter or digit behind separators takes their place in upper
case. Here `pending` are the separators just before the text. Those at the end stay. -/
def joinWords (pending : List Char) : List Char → List Char
  | [] => pending
  | c :: cs =>
    if isSeparator c then joinWords (pending ++ [c]) cs
    else (if pending.isEmpty then [c] else upperChar c) ++ joinWords [] cs

/-- The name that a story is exported by. -/
def exportName (name : List Char) : List Char :=
  joinWords [] ((dropLeading name).filter isNameChar)

/-- The text with blanks for the characters that separate words in an export name. -/
def blankSeparators (cs : List Char) : List Char :=
  cs.map fun c => if c = '_' || c = '-' || c = '.' then ' ' else c

/-- Sets a capital with a small letter behind it apart from the character before. The three are not
looked at again. -/
def splitCapitalized : List Char → List Char
  | a :: b :: c :: cs =>
    if a != '\n' && b.isUpper && c.isLower then a :: ' ' :: b :: c :: splitCapitalized cs
    else a :: splitCapitalized (b :: c :: cs)
  | cs => cs

/-- Sets two characters apart where the first satisfies `p` and the second `q`. The two are not
looked at again. -/
def splitBetween (p q : Char → Bool) : List Char → List Char
  | a :: b :: cs =>
    if p a && q b then a :: ' ' :: b :: splitBetween p q cs else a :: splitBetween p q (b :: cs)
  | cs => cs

/-- Writes each word character behind white space in upper case, and the first one of the text if
`boundary` holds. -/
def capitalize (boundary : Bool) : List Char → List Char
  | [] => []
  | c :: cs =>
    if boundary && isWordChar c then upperChar c ++ capitalize false cs
    else c :: capitalize (isWhiteSpace c) cs

/-- Writes one blank for each run of blanks. -/
def squeezeBlanks : List Char → List Char
  | ' ' :: ' ' :: cs => squeezeBlanks (' ' :: cs)
  | c :: cs => c :: squeezeBlanks cs
  | [] => []

/-- The name to show for an export name. -/
def displayName (name : List Char) : List Char :=
  let spaced :=
    splitBetween Char.isDigit isLetter <| splitBetween isLetter Char.isDigit <|
      splitBetween Char.isLower Char.isUpper <| splitCapitalized <| blankSeparators name
  trim (squeezeBlanks (capitalize true spaced))

/-- The export name and the name to show for a name as it was typed, if any of it can be exported.
-/
def names? (name : String) : Option (String × String) :=
  let export_ := exportName name.toList
  if export_.isEmpty then none
  else some (String.ofList export_, String.ofList (displayName export_))

end Recorder.Story
