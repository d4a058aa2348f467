import Recorder.Control
import Recorder.Event.Basic

/-!
# Raw events

The events of a page that are listened to, and what they mean. What an event means depends on its
target: typing in a box is no event of its own, as it is known from the click, and a line break in a
text belongs to the text.
-/

namespace Recorder

/-- The types of events that are listened to. -/
inductive RawEventKind where
  /-- A pointer is pressed. -/
  | pointerDown
  /-- A double click. -/
  | dblClick
  /-- A key goes down. -/
  | keyDown
  /-- A key goes up. -/
  | keyUp
  /-- The value of a control has changed. -/
  | input
  /-- An element gets the focus. -/
  | focus
deriving DecidableEq

namespace RawEventKind

/-- The types that are listened to. -/
def all : List RawEventKind :=
  [.pointerDown, .dblClick, .keyDown, .keyUp, .input, .focus]

/-- The name of the type. -/
def name : RawEventKind → String
  | .pointerDown => "pointerdown"
  | .dblClick => "dblclick"
  | .keyDown => "keydown"
  | .keyUp => "keyup"
  | .input => "input"
  | .focus => "focus"

/-- The type of this name. -/
def parse (name : String) : Except Error RawEventKind :=
  match all.find? fun k => k.name == name with
  | some k => .ok k
  | none => .error (.unrecognizedEvent name)

end RawEventKind

/-- An event as a page reports it. -/
structure RawEvent where
  /-- The type. -/
  kind : RawEventKind
  /-- The node that the event happened at. -/
  target : NodeId
  /-- The name of the key, for events of a key. -/
  key : Option String
deriving DecidableEq

namespace Document

/-- What a change of a value means. -/
def inputEvent? (doc : Document) (target : NodeId) : Option Event :=
  if doc.isFileInput target then some (.upload (doc.fileNames target))
  else if doc.isRangeInput target then some (.type (doc.textValue target))
  else if doc.tag? target == some "input" || doc.isTextarea target ||
      doc.isContentEditable target then
    if doc.isCheckboxLike target then none else some (.type (doc.inputValue target))
  else if doc.isSelect target then some (.select (doc.selectedValues target))
  else none

/-- What pressing a key means. -/
def keyDownEvent? (doc : Document) (target : NodeId) (key : String) : Option Event :=
  match key with
  | "Tab" => some (.keyDown .tab)
  | "Shift" => some (.keyDown .shift)
  | "Enter" =>
    if doc.isTextarea target || doc.isContentEditable target then none else some (.keyDown .enter)
  | " " => if doc.isCheckboxLike target then some .click else none
  | "Escape" => some (.keyDown .escape)
  | _ => none

/-- What releasing a key means. -/
def keyUpEvent? (key : String) : Option Event :=
  if key = "Shift" then some (.keyUp .shift) else none

/-- What a raw event means, if it means anything. -/
def classify? (doc : Document) (event : RawEvent) : Option Event :=
  match event.kind with
  | .pointerDown => some .click
  | .dblClick => some .doubleClick
  | .input => doc.inputEvent? event.target
  | .keyDown => event.key.bind (doc.keyDownEvent? event.target)
  | .keyUp => event.key.bind keyUpEvent?
  | .focus => some (.focus false)

end Document

end Recorder
