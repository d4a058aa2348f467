import Recorder.Locator.Basic

/-!
# Events

What a user does, said in terms of intent: an entry of a recording is a locator and what was done
there. An assertion is recorded as an event as well. Raw events are what a page reports; only six of
its types are listened to.
-/

namespace Recorder

/-- The keys that are recorded. -/
inductive Key where
  /-- Enter. -/
  | enter
  /-- Escape. -/
  | escape
  /-- Tab, which moves the focus. -/
  | tab
  /-- Shift, which turns the direction of Tab. -/
  | shift
deriving DecidableEq

namespace Key

/-- The keys, in their order. -/
def all : List Key :=
  [.enter, .escape, .tab, .shift]

/-- The name of the key. -/
def name : Key → String
  | .enter => "enter"
  | .escape => "escape"
  | .tab => "tab"
  | .shift => "shift"

/-- The text that stands for pressing the key. -/
def token : Key → String
  | .enter => "\x7benter\x7d"
  | .escape => "\x7besc\x7d"
  | .tab => "tab"
  | .shift => "shift"

end Key

/-- The kinds of assertions. -/
inductive AssertionKind where
  /-- The element can be seen. -/
  | visible
  /-- The element is in the document. -/
  | inTheDocument
  /-- The control is enabled. -/
  | enabled
  /-- The control is disabled. -/
  | disabled
  /-- The box is checked. -/
  | checked
  /-- The box is not checked. -/
  | notChecked
  /-- The control has a value. -/
  | value
  /-- The control has no number for a value. -/
  | notValue
  /-- The element has a text content. -/
  | textContent
deriving DecidableEq

namespace AssertionKind

/-- The kinds, in the order in which assertions are offered. -/
def all : List AssertionKind :=
  [.visible, .inTheDocument, .enabled, .disabled, .checked, .notChecked, .value, .notValue,
   .textContent]

/-- The matcher of the kind. -/
def method : AssertionKind → String
  | .visible => "toBeVisible"
  | .inTheDocument => "toBeInTheDocument"
  | .enabled => "toBeEnabled"
  | .disabled => "toBeDisabled"
  | .checked => "toBeChecked"
  | .notChecked => "not.toBeChecked"
  | .value => "toHaveValue"
  | .notValue => "not.toHaveValue"
  | .textContent => "toHaveTextContent"

/-- The kind in words. -/
def label : AssertionKind → String
  | .visible => "to be visible"
  | .inTheDocument => "to be in the document"
  | .enabled => "to be enabled"
  | .disabled => "to be disabled"
  | .checked => "to be checked"
  | .notChecked => "to not be checked"
  | .value => "to have value"
  | .notValue => "to not have value"
  | .textContent => "to have text content"

/-- The kind of this matcher. -/
def ofMethod? (method : String) : Option AssertionKind :=
  all.find? fun k => k.method == method

end AssertionKind

/-- What a user does. -/
inductive Event where
  /-- A click. -/
  | click
  /-- A double click. -/
  | doubleClick
  /-- Typing, with the whole text that is there afterwards. -/
  | type (value : String)
  /-- A key goes down. -/
  | keyDown (key : Key)
  /-- A key goes up. -/
  | keyUp (key : Key)
  /-- A choice of options, in order. -/
  | select (options : List String)
  /-- A choice of files, in order. -/
  | upload (files : List String)
  /-- The focus moves by Tab, backwards if Shift is held. -/
  | focus (shift : Bool)
  /-- An expectation about the element. -/
  | assertion (kind : AssertionKind) (args : List Literal)

namespace Event

/-- Whether the event is a click. -/
def isClick : Event → Bool
  | .click => true
  | _ => false

/-- Whether this key goes down. -/
def isKeyDown (key : Key) : Event → Bool
  | .keyDown k => k == key
  | _ => false

/-- A short name of the kind of the event. -/
def kindName : Event → String
  | .click => "click"
  | .doubleClick => "dblclick"
  | .type _ => "type"
  | .keyDown _ => "keydown"
  | .keyUp _ => "keyup"
  | .select _ => "select"
  | .upload _ => "upload"
  | .focus _ => "focus"
  | .assertion _ _ => "assertion"

end Event

/-- One step of a recording: where, and what. -/
structure Entry where
  /-- Where something was done. -/
  locator : Locator
  /-- What was done. -/
  event : Event

end Recorder
