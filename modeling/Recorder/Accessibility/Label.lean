import Recorder.Accessibility.Role

/-!
# Labels

The texts that label an element: elements that it names as its labels, a text of its own, and the
label elements that belong to it, by its id or because they hold it.
-/

namespace Recorder.Document

open Text (trim words)

/-- The tags of elements that a label element can belong to; inputs are decided by their type. -/
def labelableTags : List String :=
  ["button", "meter", "output", "progress", "select", "textarea"]

/-- Whether a label element can belong to the element. -/
def isLabelable (doc : Document) (id : NodeId) : Bool :=
  match doc.tag? id with
  | some "input" => doc.inputType? id != some "hidden"
  | some tag => labelableTags.contains tag
  | none => false

/-- The first element inside of a label that it can belong to. -/
def firstLabelable? (doc : Document) (label : NodeId) : Option NodeId :=
  (doc.descendants label).find? doc.isLabelable

/-- Whether a label element belongs to an element: it names its id, or names none and holds it as
the first that it can belong to. -/
def labels (doc : Document) (id label : NodeId) : Bool :=
  match doc.attribute? label "for" with
  | some target => doc.attribute? id "id" == some target
  | none => doc.contains label id && doc.firstLabelable? label == some id

/-- The label elements that belong to an element, in document order. -/
def associatedLabels (doc : Document) (id : NodeId) : List NodeId :=
  if doc.isLabelable id then
    (doc.descendants body).filter fun n => doc.tag? n == some "label" && doc.labels id n
  else []

/-- The texts of the elements that an element names as its labels, if it names any. -/
def labelledByTexts? (doc : Document) (id : NodeId) : Option (List (List Char)) :=
  (doc.attribute? id "aria-labelledby").map fun names =>
    ((words names.toList).filterMap fun name => doc.elementById? (String.ofList name)).map
      doc.textContent

/-- The label that an element carries itself, if it is not blank. -/
def ariaLabel? (doc : Document) (id : NodeId) : Option (List Char) :=
  ((doc.attribute? id "aria-label").map String.toList).filter fun l => !(trim l).isEmpty

/-- Appends the items that are not in the list yet. -/
def appendNew [BEq α] (seen : List α) : List α → List α
  | [] => seen
  | a :: rest => appendNew (if seen.contains a then seen else seen ++ [a]) rest

/-- The texts that label an element, in order, each once and none of them empty. -/
def labelTexts (doc : Document) (id : NodeId) : List (List Char) :=
  let texts :=
    (doc.labelledByTexts? id).getD [] ++ (doc.ariaLabel? id).toList ++
      (doc.associatedLabels id).map fun l => trim (doc.textContent l)
  appendNew [] (texts.filter fun t => !t.isEmpty)

end Recorder.Document
