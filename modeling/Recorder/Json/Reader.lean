import Recorder.Json.Token

/-!
# Reading JSON

The grammatical half of reading JSON: `Json.parse?` folds the tokens of a text into its value. The
state holds the containers that are still open, innermost first. A container inside of
`depthLimit` others has no value.
-/

namespace Recorder.Json

/-- A container that is still open, with what it holds so far, last first. -/
inductive OpenContainer where
  /-- An array. -/
  | array (items : List Json)
  /-- An object with its complete members, and the name of the one in progress. The name is absent
  inside if it could not be read. -/
  | object (members : List (Option String × Json)) (name : Option String)

/-- What may come next. -/
inductive Expected where
  /-- A value. -/
  | value
  /-- A value, or the end of an array. -/
  | firstItem
  /-- The name of a member. -/
  | name
  /-- The name of a member, or the end of an object. -/
  | firstName
  /-- The colon behind a name. -/
  | colon
  /-- A comma, or the end of the innermost container. -/
  | separator
  /-- The end of the text, where the value is complete. -/
  | nothing (value : Json)

/-- How far the reading of a text has come. -/
structure Reading where
  /-- The open containers, innermost first. -/
  containers : List OpenContainer
  /-- What may come next. -/
  expected : Expected

/-- The depth of nesting from which on containers have no value. -/
def depthLimit : Nat := 128

namespace Reading

/-- The value of an array or object at the depth of its container list, unreadable if it lies too
deep. -/
def atDepth (outer : List OpenContainer) (v : Json) : Json :=
  if outer.length + 1 < depthLimit then v else .unreadable

/-- The object of these members, unreadable if one of the names is. -/
def ofMembers (members : List (Option String × Json)) : Json :=
  match members.mapM fun (name, v) => name.map (·, v) with
  | some ms => .object ms
  | none => .unreadable

/-- Hands a complete value to the innermost container. -/
def deliver (v : Json) : List OpenContainer → Reading
  | [] => ⟨[], .nothing v⟩
  | .array items :: outer => ⟨.array (v :: items) :: outer, .separator⟩
  | .object members name :: outer => ⟨.object ((name, v) :: members) none :: outer, .separator⟩

/-- The reading after a token where a value is expected. -/
def value (containers : List OpenContainer) : Token → Option Reading
  | .openBrace => some ⟨.object [] none :: containers, .firstName⟩
  | .openBracket => some ⟨.array [] :: containers, .firstItem⟩
  | .text (some s) => some (deliver (.string s) containers)
  | .text none => some (deliver .unreadable containers)
  | .scalar v => some (deliver v containers)
  | _ => none

/-- Closes the innermost container, an object if `brace` holds and else an array. -/
def close (brace : Bool) : List OpenContainer → Option Reading
  | .array items :: outer =>
    if brace then none else some (deliver (atDepth outer (.array items.reverse)) outer)
  | .object members _ :: outer =>
    if brace then some (deliver (atDepth outer (ofMembers members.reverse)) outer) else none
  | [] => none

/-- The reading after a token where the name of a member is expected. -/
def memberName (containers : List OpenContainer) : Token → Option Reading
  | .text name =>
    match containers with
    | .object members _ :: outer => some ⟨.object members name :: outer, .colon⟩
    | _ => none
  | _ => none

/-- The reading after a token that separates or ends the parts of a container. -/
def separator (containers : List OpenContainer) : Token → Option Reading
  | .comma =>
    match containers with
    | .array _ :: _ => some ⟨containers, .value⟩
    | .object _ _ :: _ => some ⟨containers, .name⟩
    | [] => none
  | .closeBrace => close true containers
  | .closeBracket => close false containers
  | _ => none

/-- The reading after one more token, or `none` if no value goes on like this. -/
def step (r : Reading) (t : Token) : Option Reading :=
  match r.expected, t with
  | .value, _ => value r.containers t
  | .firstItem, .closeBracket => close false r.containers
  | .firstItem, _ => value r.containers t
  | .firstName, .closeBrace => close true r.containers
  | .firstName, _ => memberName r.containers t
  | .name, _ => memberName r.containers t
  | .colon, .colon => some ⟨r.containers, .value⟩
  | .colon, _ => none
  | .separator, _ => separator r.containers t
  | .nothing _, _ => none

/-- The value that has been read. -/
def result? (r : Reading) : Option Json :=
  match r.expected with
  | .nothing v => some v
  | _ => none

end Reading

/-- The value of a JSON text, parts of which may be unreadable. -/
def parse? (text : String) : Option Json := do
  let tokens ← Token.scan text.toList
  let reading ← tokens.foldlM Reading.step ⟨[], .value⟩
  reading.result?

end Recorder.Json
