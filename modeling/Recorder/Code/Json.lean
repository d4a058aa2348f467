import Recorder.Code.Basic
import Recorder.Json.Decode

/-!
# Code as JSON

A bundle is a variant named by its dialect. The warning of a line may be missing; it is a constant,
and how this is written depends on whether the line belongs to a bundle.
-/

namespace Recorder

open Json (fields? variant? required optional optionalMember constant? variantConstant? list?)

/-- The JSON value of a warning. -/
def Warning.toJson (w : Warning) : Json :=
  .string w.name

namespace CodeLine

/-- The JSON value of a line. -/
def toJson (l : CodeLine) : Json :=
  .object (("text", .string l.text) :: optionalMember "warning" Warning.toJson l.warning)

/-- The line that a JSON value stands for, where `name?` reads the name of a warning. -/
def read? (name? : Json → Option String) (v : Json) : Option CodeLine := do
  let get ← fields? ["text", "warning"] v
  let text ← required Json.string? (get "text")
  let warning ← optional (fun w => (name? w).bind Warning.ofName?) (get "warning")
  return ⟨text, warning⟩

/-- The JSON value of lines. -/
def listToJson (lines : List CodeLine) : Json :=
  .array (lines.map toJson)

/-- The lines that a JSON value stands for. -/
def listOfJson? : Json → Option (List CodeLine) :=
  list? (read? constant?)

end CodeLine

namespace Bundle

/-- The JSON value of a bundle. -/
def toJson : Bundle → Json
  | .play imports lines =>
    .object [("dialect", .string "play"), ("imports", CodeLine.listToJson imports),
      ("play", CodeLine.listToJson lines)]
  | .test imports parameters lines =>
    .object [("dialect", .string "test"), ("imports", CodeLine.listToJson imports),
      ("parameters", Json.strings parameters), ("tests", CodeLine.listToJson lines)]

/-- The lines that a field of a bundle stands for. -/
def lines? : Json → Option (List CodeLine) :=
  list? (CodeLine.read? variantConstant?)

/-- The bundle of a dialect that the fields of a JSON value stand for. -/
def ofFields? (dialect : String) (v : Json) : Option Bundle :=
  match dialect with
  | "play" => do
    let get ← fields? ["imports", "play"] v
    let imports ← required lines? (get "imports")
    let lines ← required lines? (get "play")
    return .play imports lines
  | "test" => do
    let get ← fields? ["imports", "parameters", "tests"] v
    let imports ← required lines? (get "imports")
    let parameters ← required (list? Json.string?) (get "parameters")
    let lines ← required lines? (get "tests")
    return .test imports parameters lines
  | _ => none

/-- The bundle that a JSON value stands for. -/
def ofJson? (v : Json) : Option Bundle :=
  (variant? "dialect" v).bind fun p => ofFields? p.1 p.2

end Bundle

end Recorder
