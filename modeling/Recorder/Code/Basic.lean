import Recorder.Locator.Basic

/-!
# Generated code

Source text by lines, and the two forms in which the lines of a recording are delivered: as a play
function of their own, or as the body of a test with its parameters. A line whose element is found
in a fragile way carries a warning.
-/

namespace Recorder

/-- The form in which code is delivered. -/
inductive Dialect where
  /-- A play function. -/
  | play
  /-- The body of a test. -/
  | test
deriving DecidableEq

/-- The name of the dialect. -/
def Dialect.name : Dialect → String
  | .play => "play"
  | .test => "test"

/-- The dialect of this name. -/
def Dialect.ofName? : String → Option Dialect
  | "play" => some .play
  | "test" => some .test
  | _ => none

/-- Why the way to find an element is fragile. -/
inductive Warning where
  /-- It goes by a role without a name. -/
  | roleWithoutName
  /-- It goes by a selector. -/
  | querySelector
  /-- It goes by the attribute for tests. -/
  | testId
deriving DecidableEq

namespace Warning

/-- The name of the warning. -/
def name : Warning → String
  | .roleWithoutName => "ROLE_WITHOUT_NAME"
  | .querySelector => "QUERY_SELECTOR"
  | .testId => "TEST_ID"

/-- The warning of this name. -/
def ofName? : String → Option Warning
  | "ROLE_WITHOUT_NAME" => some .roleWithoutName
  | "QUERY_SELECTOR" => some .querySelector
  | "TEST_ID" => some .testId
  | _ => none

/-- The warning in words. -/
def explanation : Warning → String
  | .roleWithoutName =>
    "This element has a role but no accessible name. Give it an aria-label or visible label so " ++
      "the query can find it by name."
  | .querySelector =>
    "No accessible query matched this element, so a CSS selector is used. CSS selectors break " ++
      "easily when markup changes; prefer adding a role, label or text."
  | .testId =>
    "This element is found by its test id. Test ids are invisible to users; prefer a query " ++
      "based on role, label or text."

/-- The warning that a locator deserves. -/
def ofLocator? (l : Locator) : Option Warning :=
  match l.query with
  | .css _ => some .querySelector
  | .role _ none => some .roleWithoutName
  | .testId _ => some .testId
  | _ => none

end Warning

/-- A line of source text. -/
structure CodeLine where
  /-- The text. -/
  text : String
  /-- The warning that the line carries, if any. -/
  warning : Option Warning := none
deriving DecidableEq

/-- The line behind a tab. -/
def CodeLine.indented (l : CodeLine) : CodeLine :=
  { l with text := "\t" ++ l.text }

/-- Code that is ready to be inserted. -/
inductive Bundle where
  /-- A play function with the imports it needs. -/
  | play (imports lines : List CodeLine)
  /-- The body of a test with the imports and the parameters it needs. -/
  | test (imports : List CodeLine) (parameters : List String) (lines : List CodeLine)
deriving DecidableEq

namespace Bundle

/-- A bundle without any code. -/
def empty : Dialect → Bundle
  | .play => .play [] []
  | .test => .test [] [] []

/-- The form of the bundle. -/
def dialect : Bundle → Dialect
  | .play _ _ => .play
  | .test _ _ _ => .test

/-- The lines that import helpers. -/
def imports : Bundle → List CodeLine
  | .play imports _ => imports
  | .test imports _ _ => imports

/-- The lines of the play function or of the body. -/
def body : Bundle → List CodeLine
  | .play _ lines => lines
  | .test _ _ lines => lines

/-- Whether there is no code. -/
def isEmpty (b : Bundle) : Bool :=
  b.imports.isEmpty && b.body.isEmpty

/-- The warnings of the body in the order of its lines. -/
def warnings (b : Bundle) : List Warning :=
  b.body.filterMap (·.warning)

end Bundle

end Recorder
