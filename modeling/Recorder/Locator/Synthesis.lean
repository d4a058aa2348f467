import Recorder.Locator.Candidate

/-!
# Synthesis of locators

The locator of an element is made from its best candidate that finds it again. Events on a part of a
control belong to the control, the effective target. Elements that are marked as none of the page's
own are left out of what a query finds; where more than one is left, the locator takes the element
by its position.
-/

namespace Recorder

open Selector (Group)

/-- The selector of the controls that events on their parts belong to. -/
def interactiveSelector : String :=
  "button, select, input, [role=\"button\"], [role=\"checkbox\"], [role=\"radio\"], a, " ++
    "[role=\"link\"]"

/-- The attribute that marks an element as none of the page's own. -/
def noQueryAttribute : String :=
  "data-no-query"

/-- Whether a query must not find an element. -/
def Document.isExcluded (doc : Document) (id : NodeId) : Bool :=
  doc.attribute? id noQueryAttribute == some "true"

/-- The nearest control around a target, or the target itself if there is none. -/
def Document.effectiveTarget (doc : Document) (target : NodeId) : Except Error NodeId :=
  (Group.parse interactiveSelector).map fun g =>
    (doc.closest? target fun n => g.holds doc n).getD target

/-- What locators are made with. -/
structure Synthesizer where
  /-- Answers the queries. -/
  engine : QueryEngine
  /-- The attribute that holds test ids. -/
  testIdAttribute : String
  /-- The time for the search of a CSS path. -/
  milliseconds : Nat

namespace Synthesizer

/-- The candidates of an element, in the order in which they are collected. -/
def collected (s : Synthesizer) (doc : Document) (container element : NodeId) :
    Except Error (List Candidate) :=
  (doc.cssCandidate? s.milliseconds container element).map fun css =>
    (doc.roleCandidate? element).toList ++ doc.labelCandidates element ++
      (doc.placeholderCandidate? element).toList ++ (doc.textCandidate? element).toList ++
      (doc.titleCandidate? element).toList ++
      (doc.testIdCandidate? s.testIdAttribute element).toList ++ css.toList

/-- The candidates of an element, the best first; those of one rank stay in order. -/
def candidates (s : Synthesizer) (doc : Document) (container element : NodeId) :
    Except Error (List Candidate) :=
  (s.collected doc container element).map fun all =>
    all.mergeSort fun a b => a.rank.order ≤ b.rank.order

/-- The elements that a query finds, without those that it must not find. -/
def found (s : Synthesizer) (doc : Document) (container : NodeId) (query : Query) :
    Except Error (List NodeId) :=
  (s.engine doc container query).map fun ids => ids.filter fun n => !doc.isExcluded n

/-- The locator of an element among those that a query has found. -/
def locatorAmong? (query : Query) (element : NodeId) (found : List NodeId) : Option Locator :=
  (found.idxOf? element).map fun i =>
    if found.length = 1 then .single query else .nth query i

/-- The locator by the first candidate that finds the element. -/
def firstLocator (s : Synthesizer) (doc : Document) (container element : NodeId) :
    List Candidate → Except Error (Option Locator)
  | [] => return none
  | c :: more => do
    match locatorAmong? c.query element (← s.found doc container c.query) with
    | some l => return some l
    | none => s.firstLocator doc container element more

/-- The locator of a target, if one of its candidates finds it again. -/
def synthesize (s : Synthesizer) (doc : Document) (container target : NodeId) :
    Except Error (Option Locator) := do
  let _ ← doc.check container
  let _ ← doc.check target
  let element ← doc.effectiveTarget target
  s.firstLocator doc container element (← s.candidates doc container element)

end Synthesizer

end Recorder
