import Recorder.Code.Basic
import Recorder.Log

/-!
# Statements

The statements that repeat a recording, with a note of the helpers they use. Each entry gives
statements of its own and the log gives theirs in order, so that both dialects have the same
statements. An element in the body is waited for before anything is done to it.
-/

namespace Recorder

open Text (quoteString)

/-- The helpers that statements use. -/
structure Usage where
  /-- The body is asked. -/
  body : Bool := false
  /-- The canvas is asked. -/
  canvas : Bool := false
  /-- A user's action is repeated. -/
  userEvent : Bool := false
  /-- Something is waited for or expected. -/
  expect : Bool := false
  /-- There is an assertion. -/
  assertions : Bool := false
deriving DecidableEq

namespace Usage

/-- The helpers that one or the other uses. -/
def or (a b : Usage) : Usage :=
  ⟨a.body || b.body, a.canvas || b.canvas, a.userEvent || b.userEvent, a.expect || b.expect,
    a.assertions || b.assertions⟩

/-- The object of a scope is asked. -/
def ofScope : Scope → Usage
  | .body => { body := true }
  | .canvas => { canvas := true }

end Usage

/-- Statements with the helpers they use. -/
structure Statements where
  /-- The statements, not indented. -/
  lines : List CodeLine
  /-- The helpers they use. -/
  usage : Usage
deriving DecidableEq

namespace Statements

/-- No statements. -/
def empty : Statements := ⟨[], {}⟩

/-- Statements one after the other. -/
def append (a b : Statements) : Statements :=
  ⟨a.lines ++ b.lines, a.usage.or b.usage⟩

end Statements

namespace Locator

/-- The call of the query. -/
def call (l : Locator) (family : QueryFamily) : String :=
  l.scope.name ++ "." ++ l.methodName family ++ "(" ++ l.argumentsText ++ ")"

/-- An expression with the position of the element behind it. -/
def subscript (expression : String) : Option Nat → String
  | some i => "(" ++ expression ++ ")[" ++ toString i ++ "]"
  | none => expression

/-- The expression that finds the element for an action. -/
def expression (l : Locator) : String :=
  let call := l.call .find
  subscript (match l.scope with
    | .canvas => "await " ++ call
    | .body => call) l.index

/-- The expression that finds the element for an assertion, which waits by itself. -/
def assertionExpression (l : Locator) : String :=
  subscript (l.call .query) l.index

end Locator

/-- What is written behind an expression to give it a type. -/
def typeCast : String :=
  " as HTMLElement"

/-- Texts with a comma and a blank between each two. -/
def commaList (texts : List String) : String :=
  ", ".intercalate texts

/-- The source text of a file of this name. -/
def fileText (name : String) : String :=
  "new File([" ++ quoteString name ++ "], " ++ quoteString name ++ ")"

/-- The method that repeats an action on an element, and its argument behind the element; none for
events that are repeated in another way or not at all. -/
def Event.action? : Event → Option (String × Option String)
  | .click => some ("click", none)
  | .doubleClick => some ("dblClick", none)
  | .type value =>
    if value.isEmpty then some ("clear", none) else some ("type", some (quoteString value))
  | .select options =>
    some ("selectOptions", some ("[" ++ commaList (options.map quoteString) ++ "]"))
  | .upload files => some ("upload", some ("[" ++ commaList (files.map fileText) ++ "]"))
  | _ => none

namespace Statements

/-- The statement that calls a method of the user. -/
def userCall (method arguments : String) : String :=
  "await userEvent." ++ method ++ "(" ++ arguments ++ ");"

/-- The statement that waits for an element in the body. -/
def guardLine (l : Locator) : CodeLine :=
  ⟨"await waitFor(() => expect(" ++ l.expression ++ ").toBeInTheDocument());",
    Warning.ofLocator? l⟩

/-- The statements that repeat an action on an element. -/
def ofAction (typed : Bool) (l : Locator) (method : String) (argument : Option String) :
    Statements :=
  let cast := if typed && l.scope == .body then typeCast else ""
  let arguments := l.expression ++ cast ++ argument.elim "" (", " ++ ·)
  let line : CodeLine := ⟨userCall method arguments, Warning.ofLocator? l⟩
  match l.scope with
  | .canvas => ⟨[line], { canvas := true, userEvent := true }⟩
  | .body => ⟨[guardLine l, line], { body := true, userEvent := true, expect := true }⟩

/-- The statement of an assertion. -/
def ofAssertion (l : Locator) (kind : AssertionKind) (args : List Literal) : Statements :=
  ⟨[⟨"await waitFor(() => expect(" ++ l.assertionExpression ++ ")." ++ kind.method ++ "(" ++
      Literal.formatArguments args ++ "))", Warning.ofLocator? l⟩],
    (Usage.ofScope l.scope).or { expect := true, assertions := true }⟩

/-- The statement of an action without an element. -/
def ofUser (method arguments : String) : Statements :=
  ⟨[{ text := userCall method arguments }], { userEvent := true }⟩

/-- The statements of an entry. Keys that go up and the keys that move the focus have none. -/
def ofEntry (typed : Bool) (entry : Entry) : Statements :=
  match entry.event with
  | .keyUp _ => empty
  | .keyDown .tab => empty
  | .keyDown .shift => empty
  | .keyDown key => ofUser "keyboard" (quoteString key.token)
  | .focus shift => ofUser "tab" (if shift then "\x7b shift: true \x7d" else "")
  | .assertion kind args => ofAssertion entry.locator kind args
  | event =>
    match event.action? with
    | some (method, argument) => ofAction typed entry.locator method argument
    | none => empty

/-- The statements of a log. -/
def ofLog (typed : Bool) (log : Log) : Statements :=
  (log.entries.map (ofEntry typed)).foldr append empty

end Statements

end Recorder
