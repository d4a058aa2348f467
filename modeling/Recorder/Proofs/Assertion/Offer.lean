import Mathlib.Data.List.Nodup
import Mathlib.Tactic.Common
import Recorder.Assertion
import Recorder.Document.Snapshot
import Recorder.Proofs.Control

/-!
# The assertions that are offered

What is offered of an element are the kinds that are tried for it (`Document.triedKinds`), as far as
they apply. The recipes for boxes and for roles with a checked state are fixed beforehand, and a kind
of theirs that does not apply is an error; it is met nowhere, since a recipe asks for a kind by what
decides on the kind again (`isSome_assertionArgs?_of_mem_checkboxKinds`,
`isSome_assertionArgs?_of_mem_ariaCheckedKinds`). So all lists are of one form (`assertions_eq`), and
what is known of a kind by itself is known of the lists: its opposite does not apply, and asking for
it alone gives what is offered.
-/

namespace Recorder

/-! ## Kinds and their opposites -/

/-- The kind that says the contrary, for the kinds that come in pairs. -/
def AssertionKind.opposite? : AssertionKind → Option AssertionKind
  | .enabled => some .disabled
  | .disabled => some .enabled
  | .checked => some .notChecked
  | .notChecked => some .checked
  | .value => some .notValue
  | .notValue => some .value
  | _ => none

/-- Every kind is among all of them. -/
theorem AssertionKind.mem_all (kind : AssertionKind) : kind ∈ all := by
  cases kind <;> decide

/-- A list of assertions names no kind twice, and none together with its opposite. -/
structure Assertion.Consistent (list : List Assertion) : Prop where
  /-- Each kind is there once at most. -/
  nodup : (list.map Assertion.kind).Nodup
  /-- Of a pair only one kind is there. -/
  apart : ∀ a ∈ list, ∀ b ∈ list, a.kind.opposite? ≠ some b.kind

/-- Where each item gives what it is mapped to, a list gives all of it, without an error. -/
theorem mapM_eq_ok_filterMap {ε α β : Type} {f : α → Except ε β} {g : α → Option β} {as : List α}
    (h : ∀ a ∈ as, ∃ b, g a = some b ∧ f a = .ok b) : as.mapM f = .ok (as.filterMap g) := by
  induction as with
  | nil => rfl
  | cons a as ih =>
    obtain ⟨⟨b, hb, hf⟩, hrest⟩ := List.forall_mem_cons.1 h
    rw [List.mapM_cons, hf, ih hrest, List.filterMap_cons_some hb]
    rfl

namespace Document

variable {doc : Document} {id : NodeId} {kind : AssertionKind} {a : Assertion}

/-! ## One kind -/

/-- Arguments come with a truth exactly if it holds. -/
@[simp]
theorem isSome_argsIf (holds : Bool) (args : List Literal) :
    (argsIf holds args).isSome = holds := by
  cases holds <;> rfl

/-- There are no arguments exactly if the truth does not hold. -/
theorem argsIf_eq_none_iff {holds : Bool} {args : List Literal} :
    argsIf holds args = none ↔ holds = false := by
  cases holds <;> simp [argsIf]

/-- Where there are arguments the truth holds, and they are those that come with it. -/
theorem argsIf_eq_some_iff {holds : Bool} {args args' : List Literal} :
    argsIf holds args = some args' ↔ holds = true ∧ args' = args := by
  cases holds <;> simp [argsIf, eq_comm]

/-- An assertion that applies has the kind that was tried. -/
theorem kind_of_candidateAssertion? (h : doc.candidateAssertion? id kind = some a) :
    a.kind = kind := by
  obtain ⟨_, -, rfl⟩ := Option.map_eq_some_iff.1 h
  rfl

/-- A kind applies if there are arguments for it. -/
theorem exists_candidateAssertion? (h : (doc.assertionArgs? id kind).isSome = true) :
    ∃ a, doc.candidateAssertion? id kind = some a := by
  obtain ⟨args, hargs⟩ := Option.isSome_iff_exists.1 h
  exact ⟨⟨kind, args⟩, by rw [candidateAssertion?, hargs, Option.map_some]⟩

/-- A kind and its opposite do not both apply. -/
theorem assertionArgs?_opposite {opposite : AssertionKind}
    (h : (doc.assertionArgs? id kind).isSome = true) (hopposite : kind.opposite? = some opposite) :
    (doc.assertionArgs? id opposite).isSome = false := by
  -- The two kinds of a pair ask for contrary truths of one state.
  cases kind <;> cases hopposite <;> simp_all [assertionArgs?]

/-- A kind that applies is asked for without an error. -/
theorem requestedAssertion_eq_ok (h : doc.candidateAssertion? id kind = some a) :
    doc.requestedAssertion id kind = .ok a := by
  rw [requestedAssertion, h]

/-- An assertion that is asked for applies, or it is the empty text for a value that does not. -/
theorem requestedAssertion_eq_ok_iff :
    doc.requestedAssertion id kind = .ok a ↔ doc.candidateAssertion? id kind = some a ∨
      doc.candidateAssertion? id kind = none ∧ kind = .value ∧ a = ⟨.value, [.string ""]⟩ := by
  rw [requestedAssertion]
  cases hcandidate : doc.candidateAssertion? id kind with
  | some b => simp
  | none =>
    by_cases hkind : kind = .value
    · subst hkind
      simp [eq_comm]
    · simp [hkind]

/-- The assertion of one kind is looked for in elements only. -/
theorem assertion_eq (h : doc.isElement id = true) (kind : AssertionKind) :
    doc.assertion id kind = doc.requestedAssertion id kind := by
  rw [assertion, checkElement, if_pos h]
  rfl

/-! ## Recipes -/

/-- Of an element that can be disabled it applies whether it is. -/
theorem isSome_assertionArgs?_disabled (h : doc.isDisableable id = true) :
    (doc.assertionArgs? id (if doc.isDisabled id then .disabled else .enabled)).isSome = true := by
  cases hdisabled : doc.isDisabled id <;> simp [assertionArgs?, h, hdisabled]

/-- Of an element with a checked state it applies what it is. -/
theorem isSome_assertionArgs?_checked {checked : Bool} (h : doc.checkedState? id = some checked) :
    (doc.assertionArgs? id (if checked then .checked else .notChecked)).isSome = true := by
  cases checked <;> simp [assertionArgs?, h]

/-- A checkbox or radio button can be disabled. -/
theorem isDisableable_of_isCheckboxLike (h : doc.isCheckboxLike id = true) :
    doc.isDisableable id = true := by
  rw [isDisableable, tag?_of_isInputOf h]
  rfl

/-- All kinds of the recipe for a checkbox or radio button apply to it. -/
theorem isSome_assertionArgs?_of_mem_checkboxKinds (h : doc.isCheckboxLike id = true) :
    ∀ kind ∈ doc.checkboxKinds id, (doc.assertionArgs? id kind).isSome = true := by
  have hstate : doc.checkedState? id = some (doc.isChecked id) := if_pos h
  have hchecked := isSome_assertionArgs?_checked hstate
  have hdisabled := isSome_assertionArgs?_disabled (isDisableable_of_isCheckboxLike h)
  simp only [checkboxKinds, List.forall_mem_cons]
  exact ⟨rfl, rfl, hchecked, hdisabled, List.forall_mem_nil _⟩

/-- All kinds of the recipe for a role with a checked state apply to the element. -/
theorem isSome_assertionArgs?_of_mem_ariaCheckedKinds (hbox : doc.isCheckboxLike id = false)
    (hrole : doc.hasAriaCheckedRole id = true) :
    ∀ kind ∈ doc.ariaCheckedKinds id, (doc.assertionArgs? id kind).isSome = true := by
  have hstate : doc.checkedState? id = doc.ariaChecked? id := by simp [checkedState?, hbox, hrole]
  intro kind hkind
  -- The recipe has four parts: what always applies, and three states that it asks for itself.
  rcases List.mem_append.1 hkind with hkind | htext
  · rcases List.mem_append.1 hkind with hkind | hchecked
    · rcases List.mem_append.1 hkind with halways | hdisabled
      · rcases List.mem_pair.1 halways with rfl | rfl <;> rfl
      · split at hdisabled
        case isTrue hdisableable =>
          obtain rfl := List.mem_singleton.1 hdisabled
          exact isSome_assertionArgs?_disabled hdisableable
        case isFalse => cases hdisabled
    · cases haria : doc.ariaChecked? id with
      | none => simp [haria] at hchecked
      | some checked =>
        have happlies := isSome_assertionArgs?_checked (hstate.trans haria)
        cases checked <;> simp only [haria, List.mem_singleton] at hchecked <;> rwa [hchecked]
  · split at htext
    case isTrue => cases htext
    case isFalse hnonempty =>
      obtain rfl := List.mem_singleton.1 htext
      simpa [assertionArgs?] using hnonempty

/-! ## Lists -/

/-- The kinds that are tried for an element. -/
def triedKinds (doc : Document) (id : NodeId) : List AssertionKind :=
  if doc.isCheckboxLike id then doc.checkboxKinds id
  else if doc.hasAriaCheckedRole id then doc.ariaCheckedKinds id
  else AssertionKind.all

/-- The assertions that are offered: the kinds that are tried, as far as they apply. -/
def offered (doc : Document) (id : NodeId) : List Assertion :=
  (doc.triedKinds id).filterMap (doc.candidateAssertion? id)

/-- Every element has its assertions. -/
theorem assertions_eq (h : doc.isElement id = true) :
    doc.assertions id = .ok (doc.offered id) := by
  have hcheck : doc.checkElement id = .ok () := if_pos h
  have happlies : ∀ kind, (doc.assertionArgs? id kind).isSome = true →
      ∃ a, doc.candidateAssertion? id kind = some a ∧ doc.requestedAssertion id kind = .ok a := by
    intro kind hkind
    obtain ⟨a, ha⟩ := exists_candidateAssertion? hkind
    exact ⟨a, ha, requestedAssertion_eq_ok ha⟩
  rw [assertions, hcheck, offered, triedKinds]
  cases hbox : doc.isCheckboxLike id with
  | true =>
    have hkinds := isSome_assertionArgs?_of_mem_checkboxKinds hbox
    exact mapM_eq_ok_filterMap fun kind hkind => happlies kind (hkinds kind hkind)
  | false =>
    cases hrole : doc.hasAriaCheckedRole id with
    | true =>
      have hkinds := isSome_assertionArgs?_of_mem_ariaCheckedKinds hbox hrole
      exact mapM_eq_ok_filterMap fun kind hkind => happlies kind (hkinds kind hkind)
    | false => rfl

/-- What is offered are the kinds that are tried and apply. -/
theorem mem_offered_iff :
    a ∈ doc.offered id ↔ a.kind ∈ doc.triedKinds id ∧ doc.candidateAssertion? id a.kind = some a := by
  constructor
  · intro ha
    obtain ⟨kind, hkind, hcandidate⟩ := List.mem_filterMap.1 ha
    rw [kind_of_candidateAssertion? hcandidate]
    exact ⟨hkind, hcandidate⟩
  · rintro ⟨hkind, hcandidate⟩
    exact List.mem_filterMap.2 ⟨a.kind, hkind, hcandidate⟩

/-- The kinds that are offered, in order. -/
theorem map_kind_offered : (doc.offered id).map Assertion.kind =
    (doc.triedKinds id).filter fun kind => (doc.assertionArgs? id kind).isSome := by
  have hkind : ∀ kind, (doc.candidateAssertion? id kind).map Assertion.kind =
      Option.guard (fun kind => (doc.assertionArgs? id kind).isSome) kind := by
    intro kind
    cases hargs : doc.assertionArgs? id kind <;> simp [candidateAssertion?, hargs, Option.guard]
  calc (doc.offered id).map Assertion.kind
      = (doc.triedKinds id).filterMap fun kind =>
          (doc.candidateAssertion? id kind).map Assertion.kind := List.map_filterMap
    _ = (doc.triedKinds id).filterMap
          (Option.guard fun kind => (doc.assertionArgs? id kind).isSome) := by simp only [hkind]
    _ = (doc.triedKinds id).filter fun kind => (doc.assertionArgs? id kind).isSome := by
          rw [List.filterMap_eq_filter]

/-- All lists of kinds start with the same two kinds. -/
theorem exists_triedKinds_eq_cons (doc : Document) (id : NodeId) :
    ∃ rest, doc.triedKinds id = .visible :: .inTheDocument :: rest := by
  unfold triedKinds
  split
  · exact ⟨_, rfl⟩
  · split
    · exact ⟨_, rfl⟩
    · exact ⟨_, rfl⟩

/-- The recipe for a role with a checked state keeps the order of the kinds. -/
theorem ariaCheckedKinds_sublist (doc : Document) (id : NodeId) :
    (doc.ariaCheckedKinds id).Sublist AssertionKind.all := by
  have hall : AssertionKind.all = [.visible, .inTheDocument] ++ [.enabled, .disabled] ++
      [.checked, .notChecked] ++ [.value, .notValue, .textContent] := rfl
  rw [ariaCheckedKinds, hall]
  -- The four parts of the recipe, each of them among the kinds at its place.
  refine .append (.append (.append (.refl _) ?_) ?_) ?_
  · split
    · split <;> decide
    · decide
  · split <;> decide
  · split <;> decide

/-- No kind is tried twice. -/
theorem nodup_triedKinds (doc : Document) (id : NodeId) : (doc.triedKinds id).Nodup := by
  have hall : AssertionKind.all.Nodup := by decide
  unfold triedKinds
  split
  · unfold checkboxKinds
    split <;> split <;> decide
  · split
    · exact hall.sublist (doc.ariaCheckedKinds_sublist id)
    · exact hall

/-- What is offered of an element names no kind twice, and none together with its opposite. -/
theorem consistent_offered (doc : Document) (id : NodeId) :
    Assertion.Consistent (doc.offered id) where
  nodup := by
    rw [map_kind_offered]
    exact (doc.nodup_triedKinds id).filter _
  apart a ha b hb hopposite := by
    have happlies : ∀ c ∈ doc.offered id, (doc.assertionArgs? id c.kind).isSome = true := by
      intro c hc
      have hkind := List.mem_map_of_mem (f := Assertion.kind) hc
      rw [map_kind_offered] at hkind
      exact (List.mem_filter.1 hkind).2
    have hnot := assertionArgs?_opposite (happlies a ha) hopposite
    exact Bool.false_ne_true (hnot.symm.trans (happlies b hb))

/-- Every element has its assertions, without an error. They begin with those that always apply, and
they are consistent; each of them is what is found where it is asked for alone. Where there is no
recipe, whatever is found where it is asked for alone is among them, but for the empty text that
stands in for a value. -/
theorem assertions_consistent (h : doc.isElement id = true) :
    ∃ list, doc.assertions id = .ok list ∧
      (∃ rest, list = ⟨.visible, []⟩ :: ⟨.inTheDocument, []⟩ :: rest) ∧
      Assertion.Consistent list ∧
      (∀ a ∈ list, doc.assertion id a.kind = .ok a) ∧
      (doc.isCheckboxLike id = false → doc.hasAriaCheckedRole id = false →
        ∀ kind a, doc.assertion id kind = .ok a → a.kind = kind ∧
          (a ∈ list ∨ kind = .value ∧ a.args = [.string ""] ∧
            (doc.hasValue id = false ∨ doc.lacksNumber id = true))) := by
  refine ⟨doc.offered id, assertions_eq h, ?_, doc.consistent_offered id, fun a ha => ?_,
    fun hbox hrole kind a ha => ?_⟩
  · obtain ⟨rest, hrest⟩ := doc.exists_triedKinds_eq_cons id
    exact ⟨rest.filterMap (doc.candidateAssertion? id), by rw [offered, hrest]; rfl⟩
  · rw [assertion_eq h]
    exact requestedAssertion_eq_ok (mem_offered_iff.1 ha).2
  · rw [assertion_eq h, requestedAssertion_eq_ok_iff] at ha
    rcases ha with hcandidate | ⟨hnone, rfl, rfl⟩
    · have hkind := kind_of_candidateAssertion? hcandidate
      have htried : doc.triedKinds id = AssertionKind.all := by simp [triedKinds, hbox, hrole]
      have hmem : a.kind ∈ doc.triedKinds id := htried ▸ a.kind.mem_all
      exact ⟨hkind, .inl (mem_offered_iff.2 ⟨hmem, by rwa [hkind]⟩)⟩
    · -- No value applies, so one of the two conditions on it fails.
      have hnot : (doc.hasValue id && !doc.lacksNumber id) = false :=
        argsIf_eq_none_iff.1 (Option.map_eq_none_iff.1 hnone)
      have hcases : doc.hasValue id = false ∨ doc.lacksNumber id = true :=
        (Bool.and_eq_false_iff.1 hnot).imp_right fun h => by simpa using h
      exact ⟨rfl, .inr ⟨rfl, rfl, hcases⟩⟩

/-- A page with a disabled group: a field for a number that holds none, and a switch. -/
def wifiForm : Document :=
  .ofSnapshot ⟨{ tag := "body" },
    [.element { tag := "fieldset", attributes := .ofPairs [("disabled", "")] }
      [.element { tag := "input", attributes := .ofPairs [("type", "number"), ("value", "x")] } [],
        .element { tag := "button", attributes := .ofPairs [("role", "switch"),
          ("aria-checked", "true")] } [.text "Wifi"]]]⟩

/-- The field is offered as disabled, which the group around it says, and as without a value; for
the switch the recipe is followed without an error. -/
theorem assertions_consistent_wifiForm :
    (wifiForm.isElement ⟨2⟩ = true ∧ ∃ list, wifiForm.assertions ⟨2⟩ = .ok list ∧
      Assertion.Consistent list ∧ ⟨.disabled, []⟩ ∈ list ∧ ⟨.notValue, []⟩ ∈ list) ∧
      (wifiForm.isElement ⟨3⟩ = true ∧ ∃ list, wifiForm.assertions ⟨3⟩ = .ok list ∧
        Assertion.Consistent list ∧ ∀ a ∈ list, wifiForm.assertion ⟨3⟩ a.kind = .ok a) := by
  have hfield : wifiForm.isElement ⟨2⟩ = true := by decide +kernel
  have hswitch : wifiForm.isElement ⟨3⟩ = true := by decide +kernel
  have hdisabled : wifiForm.assertion ⟨2⟩ .disabled = .ok ⟨.disabled, []⟩ := by
    have hargs : wifiForm.isDisabled ⟨2⟩ = true := by decide +kernel
    rw [assertion_eq hfield, requestedAssertion, candidateAssertion?, assertionArgs?, hargs]
    rfl
  have hvalue : wifiForm.assertion ⟨2⟩ .notValue = .ok ⟨.notValue, []⟩ := by
    have hargs : (wifiForm.hasValue ⟨2⟩ && wifiForm.lacksNumber ⟨2⟩) = true := by decide +kernel
    rw [assertion_eq hfield, requestedAssertion, candidateAssertion?, assertionArgs?, hargs]
    rfl
  obtain ⟨list, hlist, -, hconsistent, -, hall⟩ := assertions_consistent hfield
  obtain ⟨other, hother, -, hother', hsame, -⟩ := assertions_consistent hswitch
  have hlisted := hall (by decide +kernel) (by decide +kernel)
  refine ⟨⟨hfield, list, hlist, hconsistent, ?_, ?_⟩, hswitch, other, hother, hother', hsame⟩
  · exact (hlisted .disabled _ hdisabled).2.resolve_right fun h => nomatch h.1
  · exact (hlisted .notValue _ hvalue).2.resolve_right fun h => nomatch h.1

end Document

end Recorder
