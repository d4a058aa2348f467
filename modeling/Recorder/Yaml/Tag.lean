import Recorder.Text.Basic
import Recorder.Yaml.Spot

/-!
# Tags and directives

A tag is written behind an exclamation mark: in full between angle brackets, or as the rest of a
name whose beginning its handle stands for. What the handles stand for, and the version of the
format, is said by directives, each on a line of its own in front of a document.
-/

namespace Recorder.Yaml

/-- A tag as it is written. -/
structure Tag where
  /-- The handle, empty for a tag in full. -/
  handle : String
  /-- The rest of the name. -/
  suffix : String
deriving DecidableEq

/-- What a directive says. -/
inductive Directive where
  /-- The version of the format. -/
  | version (major minor : Nat)
  /-- What a handle stands for. -/
  | handle (handle start : String)
deriving DecidableEq

namespace Tag

/-- The characters of names besides letters and digits, with those that are only allowed where a
name ends by itself. -/
def isNameChar (full : Bool) (c : Char) : Bool :=
  isWordChar c || ";/?:@&=+$.!~*'()".contains c || (full && (c = ',' || c = '[' || c = ']'))

/-- The octets of a name in which any may be written as a percent sign and two digits. -/
def octets? (full : Bool) : List Char → Option (List UInt8)
  | [] => some []
  | '%' :: a :: b :: cs => do
    let n ← Text.natural? 16 [a, b]
    return UInt8.ofNat n :: (← octets? full cs)
  | c :: cs => if isNameChar full c then (octets? full cs).map (UInt8.ofNat c.toNat :: ·) else none

/-- The name that a text stands for, if it is one. -/
def name? (full : Bool) (cs : List Char) : Option String :=
  (octets? full cs).bind fun octets => String.fromUTF8? ⟨octets.toArray⟩

/-- A name that is not empty. -/
def someName? (full : Bool) (cs : List Char) : Option String :=
  (name? full cs).filter (· ≠ "")

/-- The tag that is written behind an exclamation mark. A mark that stands alone is its own name. -/
def parse? (cs : List Char) : Option Tag :=
  match cs, cs.dropWhile isWordChar with
  | [], _ => some ⟨"", "!"⟩
  | '<' :: rest, _ =>
    if rest.getLast? = some '>' then (someName? true rest.dropLast).map (⟨"", ·⟩) else none
  | _, '!' :: rest =>
    (someName? false rest).map (⟨"!" ++ String.ofList (cs.takeWhile isWordChar) ++ "!", ·⟩)
  | _, _ => (someName? false cs).map (⟨"!", ·⟩)

/-- Whether the text behind an exclamation mark is inside of angle brackets. -/
def isOpen (cs : List Char) : Bool :=
  cs.head? = some '<' && !cs.contains '>'

end Tag

namespace Directive

/-- A number of at most nine digits at the start of a text, and the rest. -/
def spanNumber? (cs : List Char) : Option (Nat × List Char) :=
  let digits := cs.takeWhile Char.isDigit
  if digits.length ≤ 9 then (Text.natural? 10 digits).map (·, cs.dropWhile Char.isDigit) else none

/-- The version that the text behind the name of a directive says. -/
def version? (cs : List Char) : Option Directive := do
  let (major, cs) ← spanNumber? (cs.dropWhile isBlank)
  let '.' :: cs := cs | none
  let (minor, cs) ← spanNumber? cs
  if isIdle cs then some (.version major minor) else none

/-- The handle at the start of a text, and the rest: an exclamation mark, or a word between two. -/
def spanHandle? : List Char → Option (String × List Char)
  | '!' :: cs =>
    let word := cs.takeWhile isWordChar
    match cs.dropWhile isWordChar with
    | '!' :: rest => some (String.ofList ('!' :: word ++ ['!']), rest)
    | rest => if word.isEmpty then some ("!", rest) else none
  | _ => none

/-- The handle and its meaning that the text behind the name of a directive says. -/
def handle? (cs : List Char) : Option Directive := do
  let (name, cs) ← spanHandle? (cs.dropWhile isBlank)
  if !cs.head?.any isBlank then none
  else
    let cs := cs.dropWhile isBlank
    let start ← Tag.someName? true (cs.takeWhile (!isBlank ·))
    if isIdle (cs.dropWhile (!isBlank ·)) then some (.handle name start) else none

/-- The directive that a line stands for, without the percent sign in front of it. -/
def parse? (cs : List Char) : Option Directive :=
  let name := cs.takeWhile isWordChar
  let rest := cs.dropWhile isWordChar
  if !atGap rest then none
  else if name = "YAML".toList then version? rest
  else if name = "TAG".toList then handle? rest
  else none

end Directive

end Recorder.Yaml
