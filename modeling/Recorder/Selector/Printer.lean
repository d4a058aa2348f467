import Recorder.Selector.Basic

/-!
# Writing selectors

Names are written with a backslash in front of each character that would end them, and of a digit at
the start; values of attributes stand between double quotes. A compound without conditions is an
asterisk.
-/

namespace Recorder.Selector

/-- Whether a character inside a name needs a backslash in front. -/
def needsEscape (c : Char) : Bool :=
  !(c.isAlphanum || c = '-' || c = '_' || 0x80 ≤ c.toNat)

/-- The text of a character of a name, with a backslash in front if `escaped` holds. -/
def escapeIf (escaped : Bool) (c : Char) : List Char :=
  if escaped then ['\\', c] else [c]

/-- The text of a name. -/
def nameText : List Char → List Char
  | [] => []
  | c :: cs =>
    escapeIf (needsEscape c || c.isDigit) c ++ cs.flatMap fun d => escapeIf (needsEscape d) d

/-- The text of a value between double quotes. -/
def valueText (cs : List Char) : List Char :=
  '"' :: cs.flatMap (fun c => escapeIf (c = '\\' || c = '"') c) ++ ['"']

/-- The text of a name, as a string. -/
def escapeName (s : String) : String :=
  String.ofList (nameText s.toList)

/-- The text of a value between double quotes, as a string. -/
def quoteValue (s : String) : String :=
  String.ofList (valueText s.toList)

/-- The text of the test of an attribute. -/
def AttributeTest.text (t : AttributeTest) : List Char :=
  match t.value with
  | none => '[' :: nameText t.name.toList ++ [']']
  | some v => '[' :: nameText t.name.toList ++ '=' :: valueText v.toList ++ [']']

/-- The text of a compound. -/
def Compound.text (c : Compound) : List Char :=
  let conditions :=
    (c.id.elim [] fun s => '#' :: nameText s.toList) ++
      c.classes.flatMap (fun s => '.' :: nameText s.toList) ++
      c.attributes.flatMap AttributeTest.text ++
      c.nthChild.elim [] fun n => ":nth-child(".toList ++ Nat.toDigits 10 n ++ [')']
  match c.tag with
  | some tag => tag.toList ++ conditions
  | none => if conditions.isEmpty then ['*'] else conditions

/-- The text of a combinator. -/
def Combinator.text : Combinator → List Char
  | .child => [' ', '>', ' ']
  | .descendant => [' ']

/-- The text of a chain. -/
def Complex.text : Complex → List Char
  | .compound c => c.text
  | .join left k c => left.text ++ k.text ++ c.text

/-- The text of a group. -/
def Group.text (g : Group) : List Char :=
  [',', ' '].intercalate (g.selectors.map Complex.text)

end Recorder.Selector
