import Recorder.Proofs.Assertion.Value

/-!
# The truth of what is offered

What an assertion says of an element is stated by itself (`Assertion.HoldsOf`). All that is offered
of an element holds of it, but for one kind: that the element is visible is offered of every element,
and so it holds only where neither the element nor one around it is hidden
(`holdsOf_of_mem_assertions_iff`).
-/

namespace Recorder

open Text (pieces trimString)

namespace Document

variable {doc : Document} {id : NodeId} {kind : AssertionKind} {a : Assertion}

/-- Whether an element takes itself and all that is in it out of view, by an attribute or by its
style. -/
def hidesBox (doc : Document) (id : NodeId) : Bool :=
  doc.hasAttribute id "hidden" ||
    (doc.attribute? id "style").any fun style => (pieces ';' style.toList).any hidesDisplay

/-- An element is in view: neither it nor an element around it hides it. -/
def InView (doc : Document) (id : NodeId) : Prop :=
  ∀ n ∈ id :: doc.ancestors id, doc.hidesBox n = false

/-- Whether an element is in view is looked up from the element to the body. -/
instance (doc : Document) (id : NodeId) : Decidable (doc.InView id) :=
  inferInstanceAs (Decidable (∀ n ∈ id :: doc.ancestors id, doc.hidesBox n = false))

/-- An element is checked, or it is not. A checkbox or radio button says so by what it holds or by
its attribute, any other element by `aria-checked`. -/
def CheckedIs (doc : Document) (id : NodeId) (checked : Bool) : Prop :=
  if doc.isCheckboxLike id then doc.isChecked id = checked
  else doc.ariaChecked? id = some checked

/-- The text of an input for a number denotes no finite number. -/
def HoldsNoNumber (doc : Document) (id : NodeId) : Prop :=
  doc.isNumberInput id = true ∧
    ∀ n, Number.parse? (trimString (doc.textValue id)) = some n → n.isFinite = false

end Document

/-- What an assertion says is true of an element. -/
def Assertion.HoldsOf (a : Assertion) (doc : Document) (id : NodeId) : Prop :=
  match a.kind with
  | .visible => a.args = [] ∧ doc.InView id
  | .inTheDocument => a.args = [] ∧ doc.isElement id = true
  | .enabled => a.args = [] ∧ doc.isDisabled id = false
  | .disabled => a.args = [] ∧ doc.isDisabled id = true
  | .checked => a.args = [] ∧ doc.CheckedIs id true
  | .notChecked => a.args = [] ∧ doc.CheckedIs id false
  | .value => ∃ v w, doc.currentValue? id = some v ∧ v.IsWritten w ∧ a.args = [w]
  | .notValue => a.args = [] ∧ doc.HoldsNoNumber id
  | .textContent =>
    doc.textContent id ≠ [] ∧ a.args = [.string (String.ofList (doc.textContent id))]

namespace Document

variable {doc : Document} {id : NodeId} {kind : AssertionKind} {a : Assertion}

/-- The checked state of an element is what it is checked by. -/
theorem checkedIs_of_checkedState? {checked : Bool} (h : doc.checkedState? id = some checked) :
    doc.CheckedIs id checked := by
  rw [checkedState?] at h
  rw [CheckedIs]
  split_ifs at h ⊢ with hbox hrole
  · exact Option.some.inj h
  · exact h

/-- A control has no number for a value only if its text denotes none. -/
theorem holdsNoNumber_of_lacksNumber (h : doc.lacksNumber id = true) : doc.HoldsNoNumber id := by
  have hvalue : doc.currentValue? id = some (.number none) := eq_of_beq h
  rw [currentValue?] at hvalue
  -- Only the value of an input for a number is a number.
  split_ifs at hvalue with hbearing hmultiple hnumber
  · cases hvalue
  · have hnone : (Number.parse? (trimString (doc.textValue id))).filter Number.isFinite = none := by
      simpa using hvalue
    refine ⟨hnumber, fun n hn => ?_⟩
    rw [hn] at hnone
    simpa using hnone
  · cases hvalue

/-- What applies to an element holds of it, except that an element which applies as visible has to
be in view. -/
theorem holdsOf_iff_of_candidateAssertion? (helement : doc.isElement id = true)
    (hvalue : kind = .value → doc.isCheckboxLike id = false)
    (h : doc.candidateAssertion? id kind = some a) :
    a.HoldsOf doc id ↔ (kind = .visible → doc.InView id) := by
  obtain ⟨args, hargs, rfl⟩ := Option.map_eq_some_iff.1 h
  cases kind with
  | visible =>
    obtain rfl : [] = args := Option.some.inj hargs
    simp [Assertion.HoldsOf]
  | inTheDocument =>
    obtain rfl : [] = args := Option.some.inj hargs
    simp [Assertion.HoldsOf, helement]
  | enabled =>
    obtain ⟨hholds, rfl⟩ := argsIf_eq_some_iff.1 hargs
    have hdisabled : doc.isDisabled id = false := by simpa using ((Bool.and_eq_true _ _).mp hholds).2
    simp [Assertion.HoldsOf, hdisabled]
  | disabled =>
    obtain ⟨hdisabled, rfl⟩ := argsIf_eq_some_iff.1 hargs
    simp [Assertion.HoldsOf, hdisabled]
  | checked | notChecked =>
    obtain ⟨hstate, rfl⟩ := argsIf_eq_some_iff.1 hargs
    have hchecked := checkedIs_of_checkedState? (eq_of_beq hstate)
    simp [Assertion.HoldsOf, hchecked]
  | value =>
    have hwritten := exists_isWritten_of_assertionArgs? (hvalue rfl) hargs
    simpa [Assertion.HoldsOf] using hwritten
  | notValue =>
    obtain ⟨hholds, rfl⟩ := argsIf_eq_some_iff.1 hargs
    have hnone := holdsNoNumber_of_lacksNumber ((Bool.and_eq_true _ _).mp hholds).2
    simp [Assertion.HoldsOf, hnone]
  | textContent =>
    obtain ⟨hholds, rfl⟩ := argsIf_eq_some_iff.1 hargs
    have hnonempty : doc.textContent id ≠ [] := by simpa using hholds
    simp [Assertion.HoldsOf, hnonempty]

/-- The value is not among what is tried for a checkbox or radio button. -/
theorem isCheckboxLike_of_value_mem_triedKinds (h : .value ∈ doc.triedKinds id) :
    doc.isCheckboxLike id = false := by
  by_contra hbox
  rw [triedKinds, if_pos (by simpa using hbox), checkboxKinds] at h
  split at h <;> split at h <;> revert h <;> decide

/-- Every element has its assertions, and what they say is true of it, but for one: that it is
visible is always among them, and it is true exactly if the element is in view. -/
theorem holdsOf_of_mem_assertions_iff (h : doc.isElement id = true) :
    ∃ list, doc.assertions id = .ok list ∧ ⟨.visible, []⟩ ∈ list ∧
      ∀ a ∈ list, a.HoldsOf doc id ↔ (a.kind = .visible → doc.InView id) := by
  refine ⟨doc.offered id, assertions_eq h, ?_, fun a ha => ?_⟩
  · obtain ⟨rest, hrest⟩ := doc.exists_triedKinds_eq_cons id
    exact mem_offered_iff.2 ⟨by simp [hrest], rfl⟩
  · obtain ⟨hkind, hcandidate⟩ := mem_offered_iff.1 ha
    refine holdsOf_iff_of_candidateAssertion? h (fun hvalue => ?_) hcandidate
    exact isCheckboxLike_of_value_mem_triedKinds (hvalue ▸ hkind)

/-- In the disabled group all that is offered of the field for a number is true of it. -/
theorem holdsOf_of_mem_assertions_wifiForm :
    wifiForm.isElement ⟨2⟩ = true ∧ ∃ list, wifiForm.assertions ⟨2⟩ = .ok list ∧
      ∀ a ∈ list, a.HoldsOf wifiForm ⟨2⟩ := by
  have helement : wifiForm.isElement ⟨2⟩ = true := by decide +kernel
  have hview : wifiForm.InView ⟨2⟩ := by decide +kernel
  obtain ⟨list, hlist, -, hholds⟩ := holdsOf_of_mem_assertions_iff helement
  exact ⟨helement, list, hlist, fun a ha => (hholds a ha).2 fun _ => hview⟩

/-- A page with a paragraph inside of a hidden part. -/
def hiddenParagraph : Document :=
  .ofSnapshot ⟨{ tag := "body" },
    [.element { tag := "div", attributes := .ofPairs [("hidden", "")] }
      [.element { tag := "p" } []]]⟩

/-- The hidden paragraph is offered as visible, which it is not. -/
theorem not_holdsOf_hiddenParagraph :
    ∃ list, hiddenParagraph.assertions ⟨2⟩ = .ok list ∧
      ∃ a ∈ list, a.kind = .visible ∧ ¬ a.HoldsOf hiddenParagraph ⟨2⟩ := by
  have helement : hiddenParagraph.isElement ⟨2⟩ = true := by decide +kernel
  have htried : .visible ∈ hiddenParagraph.triedKinds ⟨2⟩ := by decide +kernel
  have hhidden : ¬ hiddenParagraph.InView ⟨2⟩ := by decide +kernel
  exact ⟨_, assertions_eq helement, ⟨.visible, []⟩, mem_offered_iff.2 ⟨htried, rfl⟩, rfl,
    fun hholds => hhidden hholds.2⟩

end Document

end Recorder
