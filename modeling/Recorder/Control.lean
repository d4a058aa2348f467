import Recorder.Document.Tree
import Recorder.Number.Read
import Recorder.Text.Whitespace

/-!
# Form controls

What an element can do and what it currently holds: the type of an input, whether a control is
disabled or checked, and its value. What a user has changed comes before what the attributes say.
-/

namespace Recorder

/-- The current value of a control. -/
inductive ControlValue where
  /-- The text of an input, of a text area or of a select with one choice. -/
  | text (value : String)
  /-- The number in a number input, none if it is empty or holds no finite number. -/
  | number (value : Option Number)
  /-- The values chosen in a select with several choices. -/
  | multiple (values : List String)
deriving DecidableEq

namespace Document

open Text (asciiLower words trim trimString)

/-- The type of an input in lower case, `text` if none is given. -/
def inputType? (doc : Document) (id : NodeId) : Option String :=
  if doc.tag? id = some "input" then
    some (((doc.attribute? id "type").map asciiLower).getD "text")
  else none

/-- Whether the element is an input of one of these types. -/
def isInputOf (doc : Document) (id : NodeId) (types : List String) : Bool :=
  (doc.inputType? id).any (types.contains ·)

/-- Whether the element is a checkbox or a radio button. -/
def isCheckboxLike (doc : Document) (id : NodeId) : Bool :=
  doc.isInputOf id ["checkbox", "radio"]

/-- Whether the element is a slider. -/
def isRangeInput (doc : Document) (id : NodeId) : Bool :=
  doc.isInputOf id ["range"]

/-- Whether the element is a choice of files. -/
def isFileInput (doc : Document) (id : NodeId) : Bool :=
  doc.isInputOf id ["file"]

/-- Whether the element is an input for a number. -/
def isNumberInput (doc : Document) (id : NodeId) : Bool :=
  doc.isInputOf id ["number"]

/-- Whether the element is a select. -/
def isSelect (doc : Document) (id : NodeId) : Bool :=
  doc.tag? id == some "select"

/-- Whether the element is a text area. -/
def isTextarea (doc : Document) (id : NodeId) : Bool :=
  doc.tag? id == some "textarea"

/-- Whether the text of the element can be edited. The nearest of it and its ancestors that says
anything about this decides. -/
def isContentEditable (doc : Document) (id : NodeId) : Bool :=
  ((id :: doc.ancestors id).findSome? fun n => doc.attribute? n "contenteditable").any
    fun v => asciiLower v != "false"

/-- The tags of elements that can be disabled. -/
def disableableTags : List String :=
  ["button", "input", "select", "textarea", "optgroup", "option", "fieldset"]

/-- Whether the element can be disabled. -/
def isDisableable (doc : Document) (id : NodeId) : Bool :=
  (doc.tag? id).any (disableableTags.contains ·)

/-- Whether the element lies in a disabled fieldset. -/
def inDisabledFieldset (doc : Document) (id : NodeId) : Bool :=
  (doc.ancestors id).any fun n => doc.tag? n == some "fieldset" && doc.hasAttribute n "disabled"

/-- Whether the element is disabled, by itself or by a fieldset around it. -/
def isDisabled (doc : Document) (id : NodeId) : Bool :=
  doc.isDisableable id && (doc.hasAttribute id "disabled" || doc.inDisabledFieldset id)

/-- The first role that an element names for itself. -/
def explicitRole? (doc : Document) (id : NodeId) : Option String :=
  (doc.attribute? id "role").bind fun r => (words r.toList).head?.map String.ofList

/-- The roles whose state is given by the attribute `aria-checked`. -/
def ariaCheckedRoles : List String :=
  ["checkbox", "radio", "switch"]

/-- Whether the element names a role for itself that has a checked state. -/
def hasAriaCheckedRole (doc : Document) (id : NodeId) : Bool :=
  (doc.explicitRole? id).any (ariaCheckedRoles.contains ·)

/-- The checked state that the attribute `aria-checked` gives, if it gives one. -/
def ariaChecked? (doc : Document) (id : NodeId) : Option Bool :=
  match doc.attribute? id "aria-checked" with
  | some "true" => some true
  | some "false" => some false
  | _ => none

/-- Whether a checkbox or radio button is checked. -/
def isChecked (doc : Document) (id : NodeId) : Bool :=
  ((doc.element? id).bind (·.checked)).getD (doc.hasAttribute id "checked")

/-- Whether the element has a value: it is a select, a text area, or an input that is not checked
instead. -/
def isValueBearing (doc : Document) (id : NodeId) : Bool :=
  match doc.tag? id with
  | some "input" => !doc.isCheckboxLike id
  | some "select" => true
  | some "textarea" => true
  | _ => false

/-- The value of an option: the one given, or its text. -/
def optionValue (doc : Document) (option : NodeId) : String :=
  (doc.attribute? option "value").getD (String.ofList (trim (doc.textContent option)))

/-- Whether an option is selected. -/
def isOptionSelected (doc : Document) (option : NodeId) : Bool :=
  ((doc.element? option).bind (·.selected)).getD (doc.hasAttribute option "selected")

/-- The options inside of an element, in order. -/
def options (doc : Document) (id : NodeId) : List NodeId :=
  (doc.descendants id).filter fun n => doc.tag? n == some "option"

/-- The values of the selected options, in order. Where one choice has to be made and none is, it is
the first option. -/
def selectedValues (doc : Document) (id : NodeId) : List String :=
  let options := doc.options id
  let selected := (options.filter doc.isOptionSelected).map doc.optionValue
  if selected.isEmpty && !doc.hasAttribute id "multiple" then (options.take 1).map doc.optionValue
  else selected

/-- The current text of a control. -/
def textValue (doc : Document) (id : NodeId) : String :=
  let live := (doc.element? id).bind (·.value)
  if doc.isSelect id then (doc.selectedValues id).head?.getD ""
  else if doc.isTextarea id then live.getD (String.ofList (doc.textContent id))
  else (live.or (doc.attribute? id "value")).getD ""

/-- The text that the event `input` reports: the content of an element that is edited in place, and
the value of a control. -/
def inputValue (doc : Document) (id : NodeId) : String :=
  if !doc.isValueBearing id && doc.isContentEditable id then String.ofList (doc.textContent id)
  else doc.textValue id

/-- The names of the files chosen. -/
def fileNames (doc : Document) (id : NodeId) : List String :=
  ((doc.element? id).map (·.files)).getD []

/-- The current value of a control that has one. -/
def currentValue? (doc : Document) (id : NodeId) : Option ControlValue :=
  if !doc.isValueBearing id then none
  else if doc.isSelect id && doc.hasAttribute id "multiple" then
    some (.multiple (doc.selectedValues id))
  else if doc.isNumberInput id then
    some (.number ((Number.parse? (trimString (doc.textValue id))).filter Number.isFinite))
  else some (.text (doc.textValue id))

end Document

end Recorder
