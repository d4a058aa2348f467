import Recorder.Document.Snapshot
import Recorder.Json.Decode

/-!
# Snapshots as JSON

A text is a string, and an element a record that leaves out what is empty or not known. Everything
below the children of a body has to be readable, as it is not known in advance what a child is.
-/

namespace Recorder

open Json (fields? required withDefault optional optionalMember list? map?)

/-- A member that is left out if it has no items. -/
def Json.memberUnless (isEmpty : Bool) (name : String) (v : Json) : List (String × Json) :=
  if isEmpty then [] else [(name, v)]

namespace Attributes

/-- The JSON value of attributes. -/
def toJson (as : Attributes) : Json :=
  .object (as.pairs.map fun p => (p.1, .string p.2))

/-- The attributes that a JSON value stands for. -/
def ofJson? (v : Json) : Option Attributes :=
  (map? Json.string? v).map ofPairs

end Attributes

namespace Snapshot

/-- The fields of an element in the order in which they are written. -/
def fieldNames : List String :=
  ["tag", "attributes", "children", "value", "checked", "files", "selected"]

/-- The JSON value of an element with its children. -/
def elementToJson (e : Element) (children : List Json) : Json :=
  .object ([("tag", .string e.tag)] ++
    Json.memberUnless e.attributes.pairs.isEmpty "attributes" e.attributes.toJson ++
    Json.memberUnless children.isEmpty "children" (.array children) ++
    optionalMember "value" .string e.value ++ optionalMember "checked" .bool e.checked ++
    Json.memberUnless e.files.isEmpty "files" (Json.strings e.files) ++
    optionalMember "selected" .bool e.selected)

mutual

/-- The JSON value of a snapshot. -/
def toJson : Snapshot → Json
  | .text t => .string t
  | .element e children => elementToJson e (listToJson children)

/-- The JSON values of snapshots. -/
def listToJson : List Snapshot → List Json
  | [] => []
  | s :: rest => s.toJson :: listToJson rest

end

/-- The element that a JSON value stands for, without its children. -/
def elementOfJson? (v : Json) : Option Element := do
  let get ← fields? fieldNames v
  let tag ← required Json.string? (get "tag")
  let attributes ← withDefault .empty Attributes.ofJson? (get "attributes")
  let value ← optional Json.string? (get "value")
  let checked ← optional Json.bool? (get "checked")
  let files ← withDefault [] (list? Json.string?) (get "files")
  let selected ← optional Json.bool? (get "selected")
  return { tag, attributes, value, checked, files, selected }

mutual

/-- The snapshot that a JSON value stands for. -/
def ofJson? : Json → Option Snapshot
  | .string t => some (.text t)
  | .object members => do
    let e ← elementOfJson? (.object members)
    return .element e (← childrenOfMembers? members)
  | .array items => do
    let e ← elementOfJson? (.array items)
    return .element e (← childrenOfItems? 2 items)
  | _ => none

/-- The children that the members of an object stand for. -/
def childrenOfMembers? : List (String × Json) → Option (List Snapshot)
  | [] => some []
  | (name, v) :: ms => if name = "children" then childrenOf? v else childrenOfMembers? ms

/-- The children that the item at a place of an array stands for. -/
def childrenOfItems? : Nat → List Json → Option (List Snapshot)
  | _, [] => some []
  | 0, v :: _ => childrenOf? v
  | n + 1, _ :: vs => childrenOfItems? n vs

/-- The children that a JSON value stands for. -/
def childrenOf? : Json → Option (List Snapshot)
  | .array items => listOfJson? items
  | _ => none

/-- The snapshots that the items of an array stand for. -/
def listOfJson? : List Json → Option (List Snapshot)
  | [] => some []
  | v :: vs => do
    let s ← ofJson? v
    return s :: (← listOfJson? vs)

end

end Snapshot

namespace BodySnapshot

/-- The JSON value of the snapshot of a body. -/
def toJson (b : BodySnapshot) : Json :=
  Snapshot.elementToJson b.element (Snapshot.listToJson b.children)

/-- The snapshot of a body that a JSON value stands for. -/
def ofJson? (v : Json) : Option BodySnapshot := do
  let get ← fields? Snapshot.fieldNames v
  let e ← Snapshot.elementOfJson? v
  let children ← withDefault []
    (fun c => if c.readable then Snapshot.childrenOf? c else none) (get "children")
  return ⟨e, children⟩

end BodySnapshot

end Recorder
