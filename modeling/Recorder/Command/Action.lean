import Recorder.Code.Json
import Recorder.Command.Failure
import Recorder.Command.Request
import Recorder.Config
import Recorder.Document.Json
import Recorder.Event.Json
import Recorder.Json.Printer
import Recorder.Json.Reader
import Recorder.Story

/-!
# Actions of the commands

What each command does with the texts that it is given: logs and pages as JSON, selectors and names.
Selectors are resolved to the first element that they match, the body included. Of the lines of code
that carry a warning it is told what they are and why they are fragile.
-/

namespace Recorder

/-- The message on a line, if it carries a warning. -/
def CodeLine.message? (l : CodeLine) : Option String :=
  l.warning.map fun w =>
    w.name ++ ": " ++ String.ofList (Text.trimStart l.text.toList) ++ "\n  " ++ w.explanation

/-- The messages on the lines of a body, in order. -/
def Bundle.messages (b : Bundle) : List String :=
  b.body.filterMap CodeLine.message?

namespace Command

open Selector (Group)

/-- Turns a failure of the recorder into one of the command. -/
def ofRecorder (r : Except Error α) : Except Failure α :=
  r.mapError .recorder

/-- The value that the JSON text of a file stands for. -/
def decode (ofJson? : Json → Option α) (path text : String) : Except Failure α :=
  match (Json.parse? text).bind ofJson? with
  | some a => .ok a
  | none => .error (.input path)

/-- The options of a compilation: those of the settings, unless the request says something else. -/
def effectiveOptions (config : Config) (dialect : Option Dialect) (typed : Bool) : CompileOptions :=
  ⟨dialect.getD config.dialect, typed || config.typed⟩

/-- The code of the log in a text. -/
def compileText (options : CompileOptions) (path text : String) : Except Failure Bundle :=
  (decode Log.ofJson? path text).map (·.compile options)

/-- The log of the entries in a text, recorded one after the other. -/
def reduceText (path text : String) : Except Failure Log :=
  (decode (Json.list? Entry.ofJson?) path text).map Log.ofEntries

/-- The document of the page in a text. -/
def parseDocument (path text : String) : Except Failure Document :=
  (decode BodySnapshot.ofJson? path text).map Document.ofSnapshot

/-- The first element that a selector matches, the body included. -/
def resolve (doc : Document) (selector : String) : Except Failure NodeId :=
  match Group.parse selector with
  | .error e => .error (.recorder e)
  | .ok g =>
    if g.holds doc Document.body then .ok Document.body
    else
      match (doc.descendants Document.body).find? fun n => g.holds doc n with
      | some n => .ok n
      | none => .error (.noMatch selector)

/-- The locator of an element of a page. -/
def locate (config : Config) (doc : Document) (container target : NodeId) :
    Except Failure (Option Locator) :=
  ofRecorder (config.synthesizer.synthesize doc container target)

/-- The locator of the element that one selector finds inside of the element that another finds. -/
def locateSelected (config : Config) (doc : Document) (target : String)
    (container : Option String) : Except Failure (Option Locator) := do
  let target ← resolve doc target
  let container ←
    match container with
    | some selector => resolve doc selector
    | none => pure Document.body
  locate config doc container target

/-- A line on each assertion: its kind in words, a tab, and the matcher with its arguments. -/
def assertionsText (assertions : List Assertion) : String :=
  "\n".intercalate (assertions.map fun a =>
    a.kind.label ++ "\t" ++ a.kind.method ++ "(" ++ Literal.formatArguments a.args ++ ")")

/-- The export name and the name to show for a name as it was typed. -/
def storyNames (name : String) : Except Failure (String × String) :=
  match Story.names? name with
  | some names => .ok names
  | none => .error (.emptyName name)

end Command

end Recorder
