import Recorder.Accessibility.Label

/-!
# Accessible names

The name of an element in the accessibility tree. The first source that says something gives it: the
elements it names as its labels, its own label, the caption of a button, the label elements that
belong to it, the alternative text of an image, its content if its role allows this, and its title.
-/

namespace Recorder.Document

open Text (trim collapse)

/-- The roles that an element with such a role may take its name from its content. -/
def contentNamedRoles : List String :=
  ["button", "cell", "checkbox", "columnheader", "heading", "link", "menuitem", "option", "radio",
   "rowheader", "switch", "tab", "tooltip", "treeitem"]

/-- Whether a text holds anything but white space. -/
def isBlank (cs : List Char) : Bool :=
  (trim cs).isEmpty

/-- The texts joined by blanks. -/
def joinBlank (texts : List (List Char)) : List Char :=
  [' '].intercalate texts

/-- The value of an attribute as a list of characters. -/
def attributeText? (doc : Document) (id : NodeId) (name : String) : Option (List Char) :=
  (doc.attribute? id name).map String.toList

/-- The name from the elements that an element names as its labels. -/
def labelledByName? (doc : Document) (id : NodeId) : Option (List Char) :=
  ((doc.labelledByTexts? id).map joinBlank).filter fun t => !isBlank t

/-- The caption of an input that is a button. -/
def buttonName? (doc : Document) (id : NodeId) : Option (List Char) :=
  match doc.inputType? id with
  | some "submit" => some ((doc.attributeText? id "value").getD "Submit".toList)
  | some "reset" => some ((doc.attributeText? id "value").getD "Reset".toList)
  | some "button" => doc.attributeText? id "value"
  | some "image" => doc.attributeText? id "alt"
  | _ => none

/-- The name from the label elements that belong to an element. -/
def labelName? (doc : Document) (id : NodeId) : Option (List Char) :=
  let texts := ((doc.associatedLabels id).map doc.textContent).filter fun t => !isBlank t
  if texts.isEmpty then none else some (joinBlank texts)

/-- The alternative text of an image. -/
def imageName? (doc : Document) (id : NodeId) : Option (List Char) :=
  if doc.tag? id = some "img" then doc.attributeText? id "alt" else none

/-- The name from the content of an element, if its role allows it. -/
def contentName? (doc : Document) (id : NodeId) : Option (List Char) :=
  let text := doc.textContent id
  if (doc.role? id).any (contentNamedRoles.contains ·) && !isBlank text then some text else none

/-- The name of an element before its white space is collapsed. -/
def rawName (doc : Document) (id : NodeId) : List Char :=
  ((doc.labelledByName? id).or <| (doc.ariaLabel? id).or <| (doc.buttonName? id).or <|
    (doc.labelName? id).or <| (doc.imageName? id).or <| (doc.contentName? id).or <|
    doc.attributeText? id "title").getD []

/-- The name of an element in the accessibility tree, empty if it has none. -/
def accessibleName (doc : Document) (id : NodeId) : List Char :=
  collapse (doc.rawName id)

end Recorder.Document
