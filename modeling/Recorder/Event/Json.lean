import Recorder.Assertion
import Recorder.Event.Raw
import Recorder.Locator.Json
import Recorder.Log

/-!
# Events and logs as JSON

An event is a variant named by its type, and an entry has a locator and an event. A log is the array
of its entries; reading it merges nothing.
-/

namespace Recorder

open Json
  (fields? variant? required withDefault optionalMember constant? variantConstant? list?)

/-- The JSON value of a key. -/
def Key.toJson (k : Key) : Json :=
  .string k.name

/-- The key with a name. -/
def Key.ofName? (name : String) : Option Key :=
  Key.all.find? fun k => k.name == name

/-- The JSON value of a kind of assertions. -/
def AssertionKind.toJson (k : AssertionKind) : Json :=
  .string k.method

/-- The kind of assertions that a JSON value stands for. -/
def AssertionKind.ofJson? (v : Json) : Option AssertionKind :=
  (constant? v).bind AssertionKind.ofMethod?

/-- The JSON value of a list of arguments. -/
def Literal.argumentsToJson (args : List Literal) : Json :=
  .array (Literal.itemsToJson args)

/-- The JSON value of an assertion, with its kind in words. -/
def Assertion.toJson (a : Assertion) : Json :=
  .object [("kind", a.kind.toJson), ("args", Literal.argumentsToJson a.args),
    ("label", .string a.kind.label)]

namespace Event

/-- The name of the type of an event in JSON. -/
def typeName : Event → String
  | .click => "click"
  | .doubleClick => "doubleClick"
  | .type _ => "type"
  | .keyDown _ => "keyDown"
  | .keyUp _ => "keyUp"
  | .select _ => "select"
  | .upload _ => "upload"
  | .focus _ => "focus"
  | .assertion _ _ => "assertion"

/-- The fields of an event in JSON, but for its type. -/
def members : Event → List (String × Json)
  | .click => []
  | .doubleClick => []
  | .type value => [("value", .string value)]
  | .keyDown key => [("key", key.toJson)]
  | .keyUp key => [("key", key.toJson)]
  | .select options => [("options", Json.strings options)]
  | .upload files => [("files", Json.strings files)]
  | .focus shift => [("shift", .bool shift)]
  | .assertion kind args => [("kind", kind.toJson), ("args", Literal.argumentsToJson args)]

/-- The JSON value of an event. -/
def toJson (e : Event) : Json :=
  .object (("type", .string e.typeName) :: e.members)

/-- The key that a field of an event stands for. -/
def key? (v : Json) : Option Key :=
  (variantConstant? v).bind Key.ofName?

/-- The kind of assertions that a field of an event stands for. -/
def assertionKind? (v : Json) : Option AssertionKind :=
  (variantConstant? v).bind AssertionKind.ofMethod?

/-- The event of a type that the fields of a JSON value stand for. -/
def ofFields? (type : String) (v : Json) : Option Event :=
  match type with
  | "click" => (fields? [] v).map fun _ => .click
  | "doubleClick" => (fields? [] v).map fun _ => .doubleClick
  | "type" => do
    let get ← fields? ["value"] v
    return .type (← required Json.string? (get "value"))
  | "keyDown" => do
    let get ← fields? ["key"] v
    return .keyDown (← required key? (get "key"))
  | "keyUp" => do
    let get ← fields? ["key"] v
    return .keyUp (← required key? (get "key"))
  | "select" => do
    let get ← fields? ["options"] v
    return .select (← required (list? Json.string?) (get "options"))
  | "upload" => do
    let get ← fields? ["files"] v
    return .upload (← required (list? Json.string?) (get "files"))
  | "focus" => do
    let get ← fields? ["shift"] v
    return .focus (← required Json.bool? (get "shift"))
  | "assertion" => do
    let get ← fields? ["kind", "args"] v
    let kind ← required assertionKind? (get "kind")
    let args ← withDefault [] (list? Literal.ofJson?) (get "args")
    return .assertion kind args
  | _ => none

/-- The event that a JSON value stands for. -/
def ofJson? (v : Json) : Option Event :=
  (variant? "type" v).bind fun p => ofFields? p.1 p.2

end Event

namespace Entry

/-- The JSON value of an entry. -/
def toJson (e : Entry) : Json :=
  .object [("locator", e.locator.toJson), ("event", e.event.toJson)]

/-- The entry that a JSON value stands for. -/
def ofJson? (v : Json) : Option Entry := do
  let get ← fields? ["locator", "event"] v
  let locator ← required Locator.ofJson? (get "locator")
  let event ← required Event.ofJson? (get "event")
  return ⟨locator, event⟩

end Entry

namespace Log

/-- The JSON value of a log. -/
def toJson (log : Log) : Json :=
  .array (log.entries.map Entry.toJson)

/-- The log that a JSON value stands for, with its entries as they are. -/
def ofJson? (v : Json) : Option Log :=
  (list? Entry.ofJson? v).map Log.mk

end Log

/-- The JSON value of a raw event. -/
def RawEvent.toJson (e : RawEvent) : Json :=
  .object ([("kind", .string e.kind.name), ("target", .integer (Int.ofNat e.target.index))] ++
    optionalMember "key" .string e.key)

end Recorder
