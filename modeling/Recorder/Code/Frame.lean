import Recorder.Code.Statement

/-!
# Frames

The two ways to frame statements. A play function imports its helpers and declares the objects that
are asked. A test is given its helpers as parameters and imports only what its assertions need.
-/

namespace Recorder

/-- A line that imports names from a module. -/
def importLine (names : List String) (source : String) : CodeLine :=
  { text := "import \x7b " ++ commaList names ++ " \x7d from '" ++ source ++ "';" }

/-- The module that a play function imports from. -/
def playSource : String :=
  "@storybook/test"

/-- The module that a test imports from. -/
def testSource : String :=
  "storybook/test"

/-- The body of the document in source text. -/
def bodyExpression : String :=
  "canvasElement.ownerDocument.body"

/-- The line that declares the body. -/
def bodyLine : CodeLine :=
  { text := "const body = " ++ bodyExpression ++ ";" }

/-- The line that declares the canvas. -/
def canvasLine (usage : Usage) : CodeLine :=
  { text := "const canvas = within(" ++ (if usage.body then "body" else bodyExpression) ++ ");" }

namespace Usage

/-- A list if a condition holds, and else nothing. -/
def listIf (condition : Bool) (items : List α) : List α :=
  if condition then items else []

/-- The names that a play function imports. -/
def playImports (u : Usage) : List String :=
  ["userEvent"] ++ listIf u.canvas ["within"] ++ listIf u.expect ["waitFor", "expect"]

/-- The declarations in front of the statements of a play function. -/
def playPreamble (u : Usage) : List CodeLine :=
  listIf u.body [bodyLine] ++ listIf u.canvas [canvasLine u]

/-- The names of the parameters of a test. -/
def testParameters (u : Usage) : List String :=
  listIf u.canvas ["canvas"] ++ listIf u.userEvent ["userEvent"] ++
    listIf u.body ["canvasElement"]

/-- The imports of a test. -/
def testImports (u : Usage) : List CodeLine :=
  listIf u.assertions [importLine ["waitFor", "expect"] testSource]

/-- The declarations in front of the statements of a test. -/
def testPreamble (u : Usage) : List CodeLine :=
  listIf u.body [bodyLine]

end Usage

namespace Statements

/-- The line that opens a play function. -/
def playOpening : CodeLine :=
  { text := "play: async (\x7b canvasElement \x7d) => \x7b" }

/-- The line that closes a play function. -/
def playClosing : CodeLine :=
  { text := "\x7d" }

/-- The statements in a play function. -/
def framePlay (s : Statements) : Bundle :=
  if s.lines.isEmpty then .empty .play
  else
    .play [importLine s.usage.playImports playSource]
      ([playOpening] ++ (s.usage.playPreamble ++ s.lines).map CodeLine.indented ++ [playClosing])

/-- The statements as the body of a test. -/
def frameTest (s : Statements) : Bundle :=
  if s.lines.isEmpty then .empty .test
  else .test s.usage.testImports s.usage.testParameters (s.usage.testPreamble ++ s.lines)

/-- The statements in a dialect. -/
def frame (s : Statements) : Dialect → Bundle
  | .play => s.framePlay
  | .test => s.frameTest

end Statements

/-- How a log is compiled. -/
structure CompileOptions where
  /-- The form of the code. -/
  dialect : Dialect := .play
  /-- Whether expressions are given a type where they need one. -/
  typed : Bool := false
deriving DecidableEq

/-- The code that repeats a log. -/
def Log.compile (log : Log) (options : CompileOptions) : Bundle :=
  (Statements.ofLog options.typed log).frame options.dialect

namespace Bundle

/-- The name of a test that was not given one. -/
def defaultTestName : String :=
  "your test name"

/-- The parameters of a test as a pattern. -/
def parameterPattern (parameters : List String) : String :=
  if parameters.isEmpty then "\x7b\x7d" else "\x7b " ++ commaList parameters ++ " \x7d"

/-- The lines of the body as they are shown; a test stands in a call of its story. -/
def shownLines (story testName : String) : Bundle → List String
  | .play _ lines => lines.map (·.text)
  | .test _ parameters lines =>
    let name := if testName.isEmpty then defaultTestName else testName
    [story ++ ".test(" ++ Text.quoteString name ++ ", async (" ++ parameterPattern parameters ++
      ") => \x7b"] ++ lines.map (fun l => "\t" ++ l.text) ++ ["\x7d);"]

/-- The text of a bundle: its imports, an empty line, and its body. -/
def render (b : Bundle) (story testName : String) : String :=
  if b.isEmpty then ""
  else
    let imports := b.imports.map (·.text)
    "\n".intercalate
      (imports ++ (if imports.isEmpty then [] else [""]) ++ b.shownLines story testName)

end Bundle

end Recorder
