import Recorder.Json.Basic
import Recorder.Number.Notation

/-!
# Writing JSON

Two layouts of a JSON value: `compact` has no blanks at all, `pretty` puts every item and member
on a line of its own, indented by two spaces for each level. An empty container has no line inside.
A part that has no value is written as `null`.
-/

namespace Recorder.Json

/-- The hexadecimal digits of a number, at least `width` of them. -/
def hexText (width n : Nat) : List Char :=
  let ds := Nat.toDigits 16 n
  List.replicate (width - ds.length) '0' ++ ds

/-- The text of a character inside a string. -/
def escapeChar (c : Char) : List Char :=
  if c = '"' then ['\\', '"']
  else if c = '\\' then ['\\', '\\']
  else if c = '\x08' then ['\\', 'b']
  else if c = '\x0c' then ['\\', 'f']
  else if c = '\n' then ['\\', 'n']
  else if c = '\r' then ['\\', 'r']
  else if c = '\t' then ['\\', 't']
  else if c.toNat < 0x20 then '\\' :: 'u' :: hexText 4 c.toNat
  else [c]

/-- The text of a string. -/
def stringText (s : String) : String :=
  String.ofList ('"' :: s.toList.flatMap escapeChar ++ ['"'])

/-- The text of a value that holds no others; containers have none here. -/
def scalarText : Json → String
  | .null => "null"
  | .bool true => "true"
  | .bool false => "false"
  | .integer n => String.ofList (Number.integerText n)
  | .real v => String.ofList (Number.toJsonText v)
  | .string s => stringText s
  | .unreadable => "null"
  | .array _ => ""
  | .object _ => ""

mutual

/-- The text of a value without blanks. -/
def compact : Json → String
  | .array items => "[" ++ compactItems items ++ "]"
  | .object members => "\x7b" ++ compactMembers members ++ "\x7d"
  | v => scalarText v

/-- The texts of the items with commas between them. -/
def compactItems : List Json → String
  | [] => ""
  | [v] => compact v
  | v :: vs => compact v ++ "," ++ compactItems vs

/-- The texts of the members with commas between them. -/
def compactMembers : List (String × Json) → String
  | [] => ""
  | [(name, v)] => stringText name ++ ":" ++ compact v
  | (name, v) :: ms => stringText name ++ ":" ++ compact v ++ "," ++ compactMembers ms

end

/-- The indentation of a level. -/
def indentation (level : Nat) : String :=
  String.ofList (List.replicate (2 * level) ' ')

mutual

/-- The text of a value that stands at a level of indentation, on several lines. -/
def prettyAt (level : Nat) : Json → String
  | .array [] => "[]"
  | .array (v :: vs) =>
    "[\n" ++ prettyItems (level + 1) (v :: vs) ++ "\n" ++ indentation level ++ "]"
  | .object [] => "\x7b\x7d"
  | .object (m :: ms) =>
    "\x7b\n" ++ prettyMembers (level + 1) (m :: ms) ++ "\n" ++ indentation level ++ "\x7d"
  | v => scalarText v

/-- The lines of the items at a level. -/
def prettyItems (level : Nat) : List Json → String
  | [] => ""
  | [v] => indentation level ++ prettyAt level v
  | v :: vs => indentation level ++ prettyAt level v ++ ",\n" ++ prettyItems level vs

/-- The lines of the members at a level. -/
def prettyMembers (level : Nat) : List (String × Json) → String
  | [] => ""
  | [(name, v)] => indentation level ++ stringText name ++ ": " ++ prettyAt level v
  | (name, v) :: ms =>
    indentation level ++ stringText name ++ ": " ++ prettyAt level v ++ ",\n" ++
      prettyMembers level ms

end

/-- The text of a value with a line for each of its parts. -/
def pretty (v : Json) : String :=
  prettyAt 0 v

end Recorder.Json
