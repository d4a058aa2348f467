import Recorder.Json.Basic
import Recorder.Number.Notation

/-!
# Literals

The values that a recorded program passes to the calls it makes: `null` and `undefined`, truth
values, numbers, strings, arrays and records. `Literal.text` writes them as source text, records
with unquoted keys; `Literal.toJson` writes them as JSON, where `undefined` and the numbers that are
not finite become `null`.

A string is written between quotes, with a backslash in front of each backslash and each quote in
it. A string with a line feed stands between back-ticks, any other between single quotes.
-/

namespace Recorder

namespace Text

/-- The quote of strings that hold a line feed. -/
def backTick : Char := '\x60'

/-- The quote that a string is written between. -/
def quoteOf (cs : List Char) : Char :=
  if '\n' ∈ cs then backTick else '\''

/-- Puts a backslash in front of each backslash and each `quote`. -/
def escapeQuote (quote : Char) : List Char → List Char
  | [] => []
  | c :: cs =>
    if c = '\\' ∨ c = quote then '\\' :: c :: escapeQuote quote cs else c :: escapeQuote quote cs

/-- The text of a string between its quotes. -/
def quote (cs : List Char) : List Char :=
  quoteOf cs :: escapeQuote (quoteOf cs) cs ++ [quoteOf cs]

/-- The text of a string between its quotes. -/
def quoteString (s : String) : String :=
  String.ofList (quote s.toList)

end Text

/-- A value that source text can express. -/
inductive Literal where
  /-- The value `null`. -/
  | null
  /-- The value `undefined`. -/
  | undefined
  /-- A truth value. -/
  | bool (value : Bool)
  /-- A number. -/
  | number (value : Number)
  /-- A string. -/
  | string (value : String)
  /-- An array. -/
  | array (items : List Literal)
  /-- A record, with its pairs in order. -/
  | object (pairs : List (String × Literal))

namespace Literal

/-- An array of strings. -/
def strings (items : List String) : Literal :=
  .array (items.map .string)

/-- Texts with a comma and a blank between each two. -/
def commaSeparated (texts : List (List Char)) : List Char :=
  [',', ' '].intercalate texts

mutual

/-- The source text of a value. -/
def text : Literal → List Char
  | .null => "null".toList
  | .undefined => "undefined".toList
  | .bool true => "true".toList
  | .bool false => "false".toList
  | .number n => n.toText
  | .string s => Text.quote s.toList
  | .array items => '[' :: commaSeparated (itemTexts items) ++ [']']
  | .object pairs => '\x7b' :: ' ' :: commaSeparated (pairTexts pairs) ++ [' ', '\x7d']

/-- The source texts of the items of an array. -/
def itemTexts : List Literal → List (List Char)
  | [] => []
  | v :: vs => v.text :: itemTexts vs

/-- The source texts of the pairs of a record. -/
def pairTexts : List (String × Literal) → List (List Char)
  | [] => []
  | (key, v) :: ps => (key.toList ++ ':' :: ' ' :: v.text) :: pairTexts ps

end

/-- The source text of a list of arguments. -/
def argumentsText (args : List Literal) : List Char :=
  commaSeparated (itemTexts args)

/-- The source text of a list of arguments, as a string. -/
def formatArguments (args : List Literal) : String :=
  String.ofList (argumentsText args)

/-- The source text of a value, as a string. -/
def format (v : Literal) : String :=
  String.ofList v.text

/-- The JSON value of a number: itself if it is finite, as an integer where source text has one. -/
def numberToJson (n : Number) : Json :=
  match n.toInteger? with
  | some i => .integer i
  | none =>
    match n with
    | .finite v => .real v
    | _ => .null

mutual

/-- The JSON value of a literal. -/
def toJson : Literal → Json
  | .null => .null
  | .undefined => .null
  | .bool b => .bool b
  | .number n => numberToJson n
  | .string s => .string s
  | .array items => .array (itemsToJson items)
  | .object pairs => .object (pairsToJson pairs)

/-- The JSON values of the items of an array. -/
def itemsToJson : List Literal → List Json
  | [] => []
  | v :: vs => v.toJson :: itemsToJson vs

/-- The members of the JSON object of a record. -/
def pairsToJson : List (String × Literal) → List (String × Json)
  | [] => []
  | (key, v) :: ps => (key, v.toJson) :: pairsToJson ps

end

mutual

/-- The literal that a JSON value stands for; a repeated key keeps its first place and its last
value. -/
def ofJson? : Json → Option Literal
  | .null => some .null
  | .bool b => some (.bool b)
  | .integer n => some (.number (Number.ofInt n))
  | .real v => some (.number (.finite v))
  | .string s => some (.string s)
  | .array items => (itemsOfJson? items).map .array
  | .object members => (pairsOfJson? members).map fun pairs => .object (mergePairs pairs)
  | .unreadable => none

/-- The literals that the items of a JSON array stand for. -/
def itemsOfJson? : List Json → Option (List Literal)
  | [] => some []
  | v :: vs => do
    let item ← ofJson? v
    let items ← itemsOfJson? vs
    return item :: items

/-- The pairs that the members of a JSON object stand for. -/
def pairsOfJson? : List (String × Json) → Option (List (String × Literal))
  | [] => some []
  | (key, v) :: ms => do
    let value ← ofJson? v
    let pairs ← pairsOfJson? ms
    return (key, value) :: pairs

end

end Literal

end Recorder
