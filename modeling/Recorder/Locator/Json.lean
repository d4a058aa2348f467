import Recorder.Json.Decode
import Recorder.Locator.Basic

/-!
# Locators as JSON

A query is a variant named by its strategy. Options of a text that are not given are those of an
exact match, and a name or a position may be missing.
-/

namespace Recorder

open Json (fields? variant? required withDefault optional optionalMember constant?)

/-- The JSON value of a scope. -/
def Scope.toJson (s : Scope) : Json :=
  .string s.name

/-- The scope that a JSON value stands for. -/
def Scope.ofJson? (v : Json) : Option Scope :=
  (constant? v).bind fun name =>
    if name = "canvas" then some .canvas else if name = "body" then some .body else none

namespace TextMatch

/-- The JSON value of options. -/
def toJson (m : TextMatch) : Json :=
  .object [("exact", .bool m.exact), ("collapseWhitespace", .bool m.collapseWhitespace)]

/-- The options that a JSON value stands for. -/
def ofJson? (v : Json) : Option TextMatch := do
  let get ← fields? ["exact", "collapseWhitespace"] v
  let exact ← required Json.bool? (get "exact")
  let collapse ← withDefault true Json.bool? (get "collapseWhitespace")
  return ⟨exact, collapse⟩

end TextMatch

namespace Query

/-- The fields of a query in JSON, but for its strategy. -/
def members : Query → List (String × Json)
  | .role r n => ("role", .string r) :: optionalMember "name" .string n
  | .text _ t options => [("text", .string t), ("options", options.toJson)]
  | .testId v => [("id", .string v)]
  | .css s => [("selector", .string s)]

/-- The JSON value of a query. -/
def toJson (q : Query) : Json :=
  .object (("strategy", .string q.strategy.name) :: q.members)

/-- The query for a text that the fields of a JSON value stand for. -/
def textOfJson? (source : TextSource) (v : Json) : Option Query := do
  let get ← fields? ["text", "options"] v
  let text ← required Json.string? (get "text")
  let options ← withDefault .whole TextMatch.ofJson? (get "options")
  return .text source text options

/-- The query of a strategy that the fields of a JSON value stand for. -/
def ofFields? (strategy : String) (v : Json) : Option Query :=
  match strategy with
  | "role" => do
    let get ← fields? ["role", "name"] v
    let r ← required Json.string? (get "role")
    let n ← optional Json.string? (get "name")
    return .role r n
  | "labelText" => textOfJson? .label v
  | "placeholderText" => textOfJson? .placeholder v
  | "text" => textOfJson? .content v
  | "title" => textOfJson? .title v
  | "testId" => do
    let get ← fields? ["id"] v
    return .testId (← required Json.string? (get "id"))
  | "css" => do
    let get ← fields? ["selector"] v
    return .css (← required Json.string? (get "selector"))
  | _ => none

/-- The query that a JSON value stands for. -/
def ofJson? (v : Json) : Option Query :=
  (variant? "strategy" v).bind fun p => ofFields? p.1 p.2

end Query

namespace Locator

/-- The JSON value of a locator. -/
def toJson (l : Locator) : Json :=
  .object [("scope", l.scope.toJson), ("query", l.query.toJson),
    ("index", Json.orNull (fun i => .integer (Int.ofNat i)) l.index)]

/-- The locator that a JSON value stands for. -/
def ofJson? (v : Json) : Option Locator := do
  let get ← fields? ["scope", "query", "index"] v
  let scope ← required Scope.ofJson? (get "scope")
  let query ← required Query.ofJson? (get "query")
  let index ← optional Json.count? (get "index")
  return ⟨scope, query, index⟩

end Locator

end Recorder
