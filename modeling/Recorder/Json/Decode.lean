import Recorder.Json.Basic
import Recorder.Text.Basic

/-!
# Reading records from JSON

The rules by which records, variants and lists are read from a JSON value. A record is an object
with named fields, where a repeated field is refused and a member of another name is passed over,
or an array of its fields in order, where fields may be missing at the end. A variant is a record
with a field that names its kind, or an array that starts with this name. Without a value no record
and no variant can be read; a variant needs all of its parts to be readable.
-/

namespace Recorder.Json

/-- The string of a string. -/
def string? : Json → Option String
  | .string s => some s
  | _ => none

/-- The truth value of one of the two literals. -/
def bool? : Json → Option Bool
  | .bool b => some b
  | _ => none

/-- The number of an integer that counts something; it fits 64 bits. -/
def count? : Json → Option Nat
  | .integer n => if 0 ≤ n ∧ n < Text.wordBound then some n.toNat else none
  | _ => none

/-- The items of an array, each read by `f`. -/
def list? (f : Json → Option α) : Json → Option (List α)
  | .array items => items.mapM f
  | _ => none

/-- The pairs of an object, each value read by `f`; a repeated name keeps its last value. -/
def map? (f : Json → Option α) : Json → Option (List (String × α))
  | .object members => (members.mapM fun m => (f m.2).map (m.1, ·)).map mergePairs
  | _ => none

/-- The name of a constant, written as a string or as an object with the name and `null`. -/
def constant? : Json → Option String
  | .string s => some s
  | .object [(name, .null)] => some name
  | _ => none

/-- The name of a constant in a variant, where an empty object does instead of `null`. -/
def variantConstant? : Json → Option String
  | .object [(name, .object [])] => some name
  | v => constant? v

/-- Whether at most one member has this name. -/
def atMostOnce (name : String) (members : List (String × Json)) : Bool :=
  (members.filter fun m => m.1 == name).length ≤ 1

/-- The values of a record with these fields, by name. -/
def fields? (names : List String) : Json → Option (String → Option Json)
  | .object members =>
    if names.all (atMostOnce · members) then some (members.lookup ·) else none
  | .array items =>
    if items.length ≤ names.length then some ((names.zip items).lookup ·) else none
  | _ => none

/-- The kind of a variant, and the record of its other fields. -/
def variant? (tag : String) (v : Json) : Option (String × Json) :=
  if v.readable then
    match v with
    | .object members =>
      match members.filter fun m => m.1 == tag with
      | [(_, .string kind)] => some (kind, .object (members.filter fun m => m.1 != tag))
      | _ => none
    | .array (.string kind :: rest) => some (kind, .array rest)
    | _ => none
  else none

/-- A field that has to be present. -/
def required (f : Json → Option α) (v : Option Json) : Option α :=
  v.bind f

/-- A field that is `otherwise` if it is missing. -/
def withDefault (otherwise : α) (f : Json → Option α) : Option Json → Option α
  | none => some otherwise
  | some v => f v

/-- A field that may be missing or `null`. -/
def optional (f : Json → Option α) : Option Json → Option (Option α)
  | none => some none
  | some .null => some none
  | some v => (f v).map some

end Recorder.Json
