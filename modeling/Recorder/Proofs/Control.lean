import Mathlib.Tactic.Common
import Recorder.Control

/-!
# Controls and what they hold

What a control is depends on its tag, and for an input on its type, so it is one thing only
(`isInputOf_eq`, `isInputOf_eq_false`). A control has a current value exactly if it is value-bearing
(`isSome_currentValue?`). Which form the value has is decided in the same way: text areas and most
inputs hold their text (`HoldsText`), and a select holds what is selected, all of it or the first.
-/

namespace Recorder.Document

variable {doc : Document} {id : NodeId}

/-! ## What a control is -/

/-- Only inputs have a type. -/
theorem tag?_of_inputType? {type : String} (h : doc.inputType? id = some type) :
    doc.tag? id = some "input" := by
  by_contra hne
  simp [inputType?, hne] at h

/-- The type of an input says which input it is. -/
theorem isInputOf_eq {type : String} (h : doc.inputType? id = some type) (types : List String) :
    doc.isInputOf id types = types.contains type := by
  rw [isInputOf, h, Option.any_some]

/-- What is no input is none of any type. -/
theorem isInputOf_eq_false (h : doc.tag? id ≠ some "input") (types : List String) :
    doc.isInputOf id types = false := by
  rw [isInputOf, inputType?, if_neg h, Option.any_none]

/-- An input of some types is an input. -/
theorem tag?_of_isInputOf {types : List String} (h : doc.isInputOf id types = true) :
    doc.tag? id = some "input" := by
  by_contra hne
  exact Bool.false_ne_true ((isInputOf_eq_false hne types).symm.trans h)

/-- What has a tag is an element. -/
theorem isElement_of_tag? {tag : String} (h : doc.tag? id = some tag) :
    doc.isElement id = true := by
  obtain ⟨e, he, -⟩ := Option.map_eq_some_iff.1 h
  rw [isElement, he, Option.isSome_some]

/-- An input has a value unless it is checked instead. -/
theorem isValueBearing_of_input (h : doc.tag? id = some "input") :
    doc.isValueBearing id = !doc.isCheckboxLike id := by
  simp [isValueBearing, h]

/-- What has a value is an element. -/
theorem isElement_of_isValueBearing (h : doc.isValueBearing id = true) :
    doc.isElement id = true := by
  cases htag : doc.tag? id with
  | none => simp [isValueBearing, htag] at h
  | some tag => exact isElement_of_tag? htag

/-! ## What a control holds -/

/-- A control has a current value exactly if it is value-bearing. -/
theorem isSome_currentValue? (doc : Document) (id : NodeId) :
    (doc.currentValue? id).isSome = doc.isValueBearing id := by
  rw [currentValue?]
  cases doc.isValueBearing id with
  | false => rfl
  | true =>
    simp only [Bool.not_true, Bool.false_eq_true, if_false]
    split_ifs <;> rfl

/-- What has a current value is value-bearing. -/
theorem isValueBearing_of_currentValue? {v : ControlValue} (h : doc.currentValue? id = some v) :
    doc.isValueBearing id = true := by
  rw [← isSome_currentValue?, h, Option.isSome_some]

/-- A control that holds a text: a text area, or an input that holds neither a state, files nor a
number. -/
def HoldsText (doc : Document) (id : NodeId) : Prop :=
  doc.isTextarea id = true ∨ ∃ type, doc.inputType? id = some type ∧
    type ∉ ["checkbox", "radio", "file", "number"]

/-- Such a control is a text area, or an input that is none of those that hold something else. -/
theorem HoldsText.cases (h : doc.HoldsText id) : doc.tag? id = some "textarea" ∨
    doc.tag? id = some "input" ∧ doc.isCheckboxLike id = false ∧ doc.isFileInput id = false ∧
      doc.isNumberInput id = false := by
  rcases h with harea | ⟨type, htype, hnot⟩
  · exact .inl (eq_of_beq harea)
  · simp only [List.mem_cons, List.not_mem_nil, not_or] at hnot
    obtain ⟨hcheckbox, hradio, hfile, hnumber, -⟩ := hnot
    refine .inr ⟨tag?_of_inputType? htype, ?_, ?_, ?_⟩
    · simp [isCheckboxLike, isInputOf_eq htype, hcheckbox, hradio]
    · simp [isFileInput, isInputOf_eq htype, hfile]
    · simp [isNumberInput, isInputOf_eq htype, hnumber]

/-- A control that holds a text has its text for a value. -/
theorem HoldsText.currentValue?_eq (h : doc.HoldsText id) :
    doc.currentValue? id = some (.text (doc.textValue id)) := by
  rcases h.cases with harea | ⟨hinput, hbox, -, hnumber⟩
  · have hnumber : doc.isNumberInput id = false := isInputOf_eq_false (by simp [harea]) _
    simp [currentValue?, isValueBearing, isSelect, harea, hnumber]
  · simp [currentValue?, isValueBearing_of_input hinput, isSelect, hinput, hbox, hnumber]

/-- A select has all that is selected for a value if it allows several choices, and else the first
of it as a text, which is empty if there is none. -/
theorem currentValue?_select (h : doc.isSelect id = true) :
    doc.currentValue? id = some (if doc.hasAttribute id "multiple" then
      .multiple (doc.selectedValues id) else .text ((doc.selectedValues id).head?.getD "")) := by
  have htag : doc.tag? id = some "select" := eq_of_beq h
  have hbearing : doc.isValueBearing id = true := by simp [isValueBearing, htag]
  have hnumber : doc.isNumberInput id = false := isInputOf_eq_false (by simp [htag]) _
  cases hmultiple : doc.hasAttribute id "multiple" <;>
    simp [currentValue?, hbearing, h, hmultiple, hnumber, textValue]

end Recorder.Document
