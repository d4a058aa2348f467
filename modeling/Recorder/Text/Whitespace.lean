import Recorder.Text.Basic

/-!
# White space

The separators of words are the characters with Unicode's `White_Space` property. `words` lists the
maximal runs of other characters; `collapse` writes them with one space between each two, so that
texts with the same words have the same collapsed form.
-/

namespace Recorder.Text

/-- The code points with the property `White_Space`. -/
def whiteSpaceRanges : CharClass :=
  [(0x9, 0xD), (0x20, 0x20), (0x85, 0x85), (0xA0, 0xA0), (0x1680, 0x1680), (0x2000, 0x200A),
   (0x2028, 0x2029), (0x202F, 0x202F), (0x205F, 0x205F), (0x3000, 0x3000)]

/-- Whether the character has the property `White_Space`. -/
def isWhiteSpace (c : Char) : Bool :=
  whiteSpaceRanges.has c

/-- Whether the text starts with a character that is not white space. -/
def startsWord : List Char → Bool
  | [] => false
  | c :: _ => !isWhiteSpace c

/-- Puts a character in front of the first word, or makes it the only one. -/
def extendFirst (c : Char) : List (List Char) → List (List Char)
  | [] => [[c]]
  | w :: ws => (c :: w) :: ws

/-- The maximal runs of characters that are not white space, in order. -/
def words : List Char → List (List Char)
  | [] => []
  | c :: cs =>
    if isWhiteSpace c then words cs
    else if startsWord cs then extendFirst c (words cs)
    else [c] :: words cs

/-- The words of a text with one space between each two. -/
def collapse (cs : List Char) : List Char :=
  [' '].intercalate (words cs)

/-- The text without the white space at its start. -/
def trimStart (cs : List Char) : List Char :=
  cs.dropWhile isWhiteSpace

/-- The text without the white space at its end. -/
def trimEnd (cs : List Char) : List Char :=
  (cs.reverse.dropWhile isWhiteSpace).reverse

/-- The text without the white space at both ends. -/
def trim (cs : List Char) : List Char :=
  trimEnd (trimStart cs)

/-- Runs of white space become single spaces, and none stays at the ends. -/
def collapseWhitespace (s : String) : String :=
  String.ofList (collapse s.toList)

/-- The string without the white space at both ends. -/
def trimString (s : String) : String :=
  String.ofList (trim s.toList)

end Recorder.Text
