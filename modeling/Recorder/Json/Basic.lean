import Recorder.Number.Basic

/-!
# JSON values

A JSON value keeps what its text can tell apart and a reader of records can ask for: integers of 64
bits apart from fractions, and the members of an object in order, repeated names included. A text
may also hold a well-formed part that has no value, such as a number out of range. It is kept in
place as `unreadable`, since a reader that does not look at that part accepts the text.
-/

namespace Recorder

/-- A JSON value. -/
inductive Json where
  /-- The literal `null`. -/
  | null
  /-- One of the literals `true` and `false`. -/
  | bool (value : Bool)
  /-- A number without fraction and exponent that fits 64 bits, signed or not. -/
  | integer (value : Int)
  /-- Any other number, by its value. -/
  | real (value : Rat)
  /-- A string. -/
  | string (value : String)
  /-- An array. -/
  | array (items : List Json)
  /-- An object, with its members in order. -/
  | object (members : List (String × Json))
  /-- A well-formed text that has no value. -/
  | unreadable

namespace Json

mutual

/-- Whether every part of a value can be read. -/
def readable : Json → Bool
  | .unreadable => false
  | .array items => readableItems items
  | .object members => readableMembers members
  | _ => true

/-- Whether every item can be read. -/
def readableItems : List Json → Bool
  | [] => true
  | v :: vs => v.readable && readableItems vs

/-- Whether the value of every member can be read. -/
def readableMembers : List (String × Json) → Bool
  | [] => true
  | (_, v) :: ms => v.readable && readableMembers ms

end

/-- An array of strings. -/
def strings (items : List String) : Json :=
  .array (items.map .string)

/-- The string of a value that may be absent, `null` if it is. -/
def orNull (f : α → Json) : Option α → Json
  | some a => f a
  | none => .null

/-- A member that is left out if its value is absent. -/
def optionalMember (name : String) (f : α → Json) : Option α → List (String × Json)
  | some a => [(name, f a)]
  | none => []

/-- The value of the first member of this name. -/
def member? (name : String) : Json → Option Json
  | .object members => members.lookup name
  | _ => none

end Json

/-- Puts a pair where its key stands already, or at the end of the list. -/
def putPair [BEq κ] (key : κ) (value : α) : List (κ × α) → List (κ × α)
  | [] => [(key, value)]
  | (k, v) :: rest => if k == key then (k, value) :: rest else (k, v) :: putPair key value rest

/-- The pairs with each key once, at its first place and with its last value. -/
def mergePairs [BEq κ] (pairs : List (κ × α)) : List (κ × α) :=
  pairs.foldl (fun merged p => putPair p.1 p.2 merged) []

end Recorder
