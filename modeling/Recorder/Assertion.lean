import Recorder.Accessibility.Role
import Recorder.Event.Basic

/-!
# Assertions

The assertions that hold of an element at the moment. Boxes that are checked have a list of their
own; of any other element all kinds are tried in order. A value is expected with the empty text
where the element has none.
-/

namespace Recorder

/-- A matcher with its arguments. -/
structure Assertion where
  /-- The kind. -/
  kind : AssertionKind
  /-- The arguments. -/
  args : List Literal

/-- The assertion as an entry's event. -/
def Assertion.toEvent (a : Assertion) : Event :=
  .assertion a.kind a.args

namespace Document

/-- Whether a box is checked, for elements that are boxes. -/
def checkedState? (doc : Document) (id : NodeId) : Option Bool :=
  if doc.isCheckboxLike id then some (doc.isChecked id)
  else if doc.hasAriaCheckedRole id then doc.ariaChecked? id
  else none

/-- Whether an element has a value to be asserted. -/
def hasValue (doc : Document) (id : NodeId) : Bool :=
  doc.isValueBearing id || (doc.tag? id == some "input" && doc.inDisabledFieldset id)

/-- The value of an element as an argument. -/
def valueArgument (doc : Document) (id : NodeId) : Literal :=
  match doc.currentValue? id with
  | some (.text s) => .string s
  | some (.number n) => .number (n.getD .nan)
  | some (.multiple values) => .strings values
  | none => .string ""

/-- Whether an element is an input for a number that holds none. -/
def lacksNumber (doc : Document) (id : NodeId) : Bool :=
  doc.currentValue? id == some (.number none)

/-- The arguments that come with a truth. -/
def argsIf (holds : Bool) (args : List Literal) : Option (List Literal) :=
  if holds then some args else none

/-- The arguments of an assertion of this kind, if it holds of the element. -/
def assertionArgs? (doc : Document) (id : NodeId) : AssertionKind → Option (List Literal)
  | .visible => some []
  | .inTheDocument => some []
  | .enabled => argsIf (doc.isDisableable id && !doc.isDisabled id) []
  | .disabled => argsIf (doc.isDisabled id) []
  | .checked => argsIf (doc.checkedState? id == some true) []
  | .notChecked => argsIf (doc.checkedState? id == some false) []
  | .value => argsIf (doc.hasValue id && !doc.lacksNumber id) [doc.valueArgument id]
  | .notValue => argsIf (doc.hasValue id && doc.lacksNumber id) []
  | .textContent =>
    let text := doc.textContent id
    argsIf (!text.isEmpty) [.string (String.ofList text)]

/-- The assertion of this kind, if it holds of the element. -/
def candidateAssertion? (doc : Document) (id : NodeId) (kind : AssertionKind) : Option Assertion :=
  (doc.assertionArgs? id kind).map (⟨kind, ·⟩)

/-- The assertion of this kind, where the empty text stands in for a value. -/
def requestedAssertion (doc : Document) (id : NodeId) (kind : AssertionKind) :
    Except Error Assertion :=
  match doc.candidateAssertion? id kind with
  | some a => .ok a
  | none =>
    if kind = .value then .ok ⟨kind, [.string ""]⟩
    else .error (.assertionNotApplicable kind.method ((doc.tag? id).getD ""))

/-- The kinds that are offered for a checkbox or radio button. -/
def checkboxKinds (doc : Document) (id : NodeId) : List AssertionKind :=
  [.visible, .inTheDocument, if doc.isChecked id then .checked else .notChecked,
   if doc.isDisabled id then .disabled else .enabled]

/-- The kinds that are offered for an element that names a role with a checked state. -/
def ariaCheckedKinds (doc : Document) (id : NodeId) : List AssertionKind :=
  [.visible, .inTheDocument] ++
    (if doc.isDisableable id then [if doc.isDisabled id then .disabled else .enabled] else []) ++
    (match doc.ariaChecked? id with
      | some true => [.checked]
      | some false => [.notChecked]
      | none => []) ++
    if (doc.textContent id).isEmpty then [] else [.textContent]

/-- Fails if there is no element of this number. -/
def checkElement (doc : Document) (id : NodeId) : Except Error Unit :=
  if doc.isElement id then .ok () else .error (.unknownNode id.index)

/-- The assertions that hold of an element, in the order in which they are offered. -/
def assertions (doc : Document) (id : NodeId) : Except Error (List Assertion) := do
  doc.checkElement id
  if doc.isCheckboxLike id then (doc.checkboxKinds id).mapM (doc.requestedAssertion id)
  else if doc.hasAriaCheckedRole id then
    (doc.ariaCheckedKinds id).mapM (doc.requestedAssertion id)
  else return AssertionKind.all.filterMap (doc.candidateAssertion? id)

/-- The assertion of one kind. -/
def assertion (doc : Document) (id : NodeId) (kind : AssertionKind) : Except Error Assertion := do
  doc.checkElement id
  doc.requestedAssertion id kind

end Document

end Recorder
