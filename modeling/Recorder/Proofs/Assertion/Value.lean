import Recorder.Document.Snapshot
import Recorder.Event.Raw
import Recorder.Proofs.Assertion.Offer

/-!
# Recorded and asserted values

A change of a control is recorded with what the control holds, and the assertion of its value
expects what is written of its current value (`ControlValue.IsWritten`). An event asks for files, for
a slider, for what is edited and for a select in this order, the value for several choices, for a
number and for a text: the two agree on the controls that hold a text (`HoldsText.inputEvent?_eq`)
and on every select that is not edited in place (`inputEvent?_select`). `recorded_eq_asserted` puts
this together.
-/

namespace Recorder

/-- What is written of the value of a control. Nothing is written of a number that there is none
of. -/
inductive ControlValue.IsWritten : ControlValue → Literal → Prop where
  /-- A text is a string. -/
  | text (s : String) : IsWritten (.text s) (.string s)
  /-- A number is a number. -/
  | number (n : Number) : IsWritten (.number (some n)) (.number n)
  /-- Several choices are an array of strings. -/
  | multiple (values : List String) : IsWritten (.multiple values) (.strings values)

namespace Document

variable {doc : Document} {id : NodeId} {v : ControlValue} {w : Literal}

/-! ## The assertion of a value -/

/-- All elements but checkboxes and radio buttons have a value to be asserted exactly if they have a
current value. -/
theorem hasValue_eq (h : doc.isCheckboxLike id = false) :
    doc.hasValue id = (doc.currentValue? id).isSome := by
  rw [isSome_currentValue?, hasValue]
  by_cases htag : doc.tag? id = some "input"
  · simp [isValueBearing_of_input htag, h]
  · simp [htag]

/-- The argument for a value is what is written of it. -/
theorem valueArgument_eq (hvalue : doc.currentValue? id = some v) (hw : v.IsWritten w) :
    doc.valueArgument id = w := by
  rw [valueArgument, hvalue]
  cases hw <;> rfl

/-- The value of an element applies, with what is written of it. -/
theorem assertionArgs?_value (hvalue : doc.currentValue? id = some v) (hw : v.IsWritten w) :
    doc.assertionArgs? id .value = some [w] := by
  have hbearing := isValueBearing_of_currentValue? hvalue
  have hlacks : doc.lacksNumber id = false := by
    rw [lacksNumber, hvalue]
    cases hw <;> simp
  simp [assertionArgs?, argsIf, hasValue, hbearing, hlacks, valueArgument_eq hvalue hw]

/-- A value that applies to anything but a checkbox or radio button is the current one. -/
theorem exists_isWritten_of_assertionArgs? (hbox : doc.isCheckboxLike id = false)
    {args : List Literal} (h : doc.assertionArgs? id .value = some args) :
    ∃ v w, doc.currentValue? id = some v ∧ v.IsWritten w ∧ args = [w] := by
  obtain ⟨hholds, -⟩ := argsIf_eq_some_iff.1 h
  obtain ⟨hvalue, hlacks⟩ := (Bool.and_eq_true _ _).mp hholds
  rw [hasValue_eq hbox] at hvalue
  obtain ⟨v, hv⟩ := Option.isSome_iff_exists.1 hvalue
  obtain ⟨w, hw⟩ : ∃ w, v.IsWritten w := by
    match v with
    | .text s => exact ⟨_, .text s⟩
    | .number (some n) => exact ⟨_, .number n⟩
    | .multiple values => exact ⟨_, .multiple values⟩
    | .number none => simp [lacksNumber, hv] at hlacks
  exact ⟨v, w, hv, hw, Option.some.inj (h.symm.trans (assertionArgs?_value hv hw))⟩

/-- Where the value of an element is asked for, it is what is written of the current value. -/
theorem assertion_value (hvalue : doc.currentValue? id = some v) (hw : v.IsWritten w) :
    doc.assertion id .value = .ok ⟨.value, [w]⟩ := by
  have hbearing := isValueBearing_of_currentValue? hvalue
  rw [assertion_eq (isElement_of_isValueBearing hbearing)]
  apply requestedAssertion_eq_ok
  rw [candidateAssertion?, assertionArgs?_value hvalue hw, Option.map_some]

/-! ## Events -/

/-- The text that is reported of what has a value is its text, whether or not it is edited in
place. -/
theorem inputValue_eq (h : doc.isValueBearing id = true) :
    doc.inputValue id = doc.textValue id := by
  simp [inputValue, h]

/-- A change of a control that holds a text is recorded as this text. -/
theorem HoldsText.inputEvent?_eq (h : doc.HoldsText id) :
    doc.inputEvent? id = some (.type (doc.textValue id)) := by
  have hvalue := inputValue_eq (isValueBearing_of_currentValue? h.currentValue?_eq)
  rcases h.cases with harea | ⟨hinput, hbox, hfile, -⟩
  · have hnot : ∀ types, doc.isInputOf id types = false := isInputOf_eq_false (by simp [harea])
    simp [inputEvent?, isFileInput, isRangeInput, isCheckboxLike, isTextarea, hnot, harea, hvalue]
  · -- A slider is asked for before the other inputs, and its text is taken as it is.
    cases hrange : doc.isRangeInput id <;>
      simp [inputEvent?, hfile, hrange, hinput, hbox, hvalue]

/-- A change of a select that is not edited in place is recorded as what is selected. -/
theorem inputEvent?_select (h : doc.isSelect id = true) (hedit : doc.isContentEditable id = false) :
    doc.inputEvent? id = some (.select (doc.selectedValues id)) := by
  have htag : doc.tag? id = some "select" := eq_of_beq h
  have hinput : ∀ types, doc.isInputOf id types = false :=
    isInputOf_eq_false (by simp [htag])
  simp [inputEvent?, isFileInput, isRangeInput, isTextarea, hinput, htag, hedit, h]

/-- Recording and asserting agree on values. A change of a control that holds a text is recorded as
typing this text, and the assertion of its value expects this text. A change of a select that is not
edited in place is recorded as the choice of options, and the assertion of its value expects all of
them if it allows several choices, and else the first, or the empty text if there is none. -/
theorem recorded_eq_asserted (doc : Document) (target : NodeId) (key : Option String) :
    (doc.HoldsText target → ∃ text, doc.classify? ⟨.input, target, key⟩ = some (.type text) ∧
      doc.assertion target .value = .ok ⟨.value, [.string text]⟩) ∧
    (doc.isSelect target = true → doc.isContentEditable target = false →
      ∃ options, doc.classify? ⟨.input, target, key⟩ = some (.select options) ∧
        doc.assertion target .value =
          .ok ⟨.value, [if doc.hasAttribute target "multiple" then .strings options
            else .string (options.head?.getD "")]⟩) := by
  refine ⟨fun htext => ?_, fun hselect hedit => ?_⟩
  · exact ⟨doc.textValue target, htext.inputEvent?_eq,
      assertion_value htext.currentValue?_eq (.text _)⟩
  · refine ⟨doc.selectedValues target, inputEvent?_select hselect hedit,
      assertion_value (currentValue?_select hselect) ?_⟩
    split
    · exact .multiple _
    · exact .text _

/-- A page with a text area inside of a part that is edited in place, a slider, and a select with
several choices of which two are selected. -/
def choiceForm : Document :=
  .ofSnapshot ⟨{ tag := "body" },
    [.element { tag := "div", attributes := .ofPairs [("contenteditable", "")] }
        [.element { tag := "textarea", value := some "Ada" } [.text "draft"]],
      .element { tag := "input", attributes := .ofPairs [("type", "RANGE"), ("value", "7")] } [],
      .element { tag := "select", attributes := .ofPairs [("multiple", "")] }
        [.element { tag := "option", selected := some true } [.text " red "],
          .element { tag := "option", attributes := .ofPairs [("value", "b"), ("selected", "")] }
            [.text "blue"]]]⟩

/-- The text area and the slider are recorded as typing and the select as a choice, and what is
recorded is what is asserted. -/
theorem recorded_eq_asserted_choiceForm :
    (∀ target ∈ [(⟨2⟩ : NodeId), ⟨4⟩], choiceForm.HoldsText target ∧
      ∃ text, choiceForm.classify? ⟨.input, target, none⟩ = some (.type text) ∧
        choiceForm.assertion target .value = .ok ⟨.value, [.string text]⟩) ∧
      choiceForm.isSelect ⟨5⟩ = true ∧ choiceForm.isContentEditable ⟨5⟩ = false ∧
      ∃ options, choiceForm.classify? ⟨.input, ⟨5⟩, none⟩ = some (.select options) ∧
        choiceForm.assertion ⟨5⟩ .value = .ok ⟨.value, [.strings options]⟩ := by
  have harea : choiceForm.HoldsText ⟨2⟩ := .inl (by decide +kernel)
  have hslider : choiceForm.HoldsText ⟨4⟩ := .inr ⟨"range", by decide +kernel, by decide⟩
  have hselect : choiceForm.isSelect ⟨5⟩ = true := by decide +kernel
  have hedit : choiceForm.isContentEditable ⟨5⟩ = false := by decide +kernel
  have hmultiple : choiceForm.hasAttribute ⟨5⟩ "multiple" = true := by decide +kernel
  refine ⟨?_, hselect, hedit, ?_⟩
  · simp only [List.forall_mem_cons]
    exact ⟨⟨harea, (recorded_eq_asserted choiceForm ⟨2⟩ none).1 harea⟩,
      ⟨hslider, (recorded_eq_asserted choiceForm ⟨4⟩ none).1 hslider⟩, List.forall_mem_nil _⟩
  · obtain ⟨options, hrecorded, hasserted⟩ :=
      (recorded_eq_asserted choiceForm ⟨5⟩ none).2 hselect hedit
    rw [if_pos hmultiple] at hasserted
    exact ⟨options, hrecorded, hasserted⟩

end Document

end Recorder
