import Recorder.Control
import Recorder.Text.Basic

/-!
# Roles and hidden elements

The role of an element in the accessibility tree, as it names it for itself or as its tag implies,
and the elements that do not appear in this tree.
-/

namespace Recorder.Document

open Text (trim pieces parseCount?)

/-- The role that the type of an input implies. -/
def inputRole? (type : String) : Option String :=
  if ["button", "submit", "reset", "image"].contains type then some "button"
  else if type = "checkbox" then some "checkbox"
  else if type = "radio" then some "radio"
  else if type = "range" then some "slider"
  else if type = "number" then some "spinbutton"
  else if type = "search" then some "searchbox"
  else if ["hidden", "file", "color", "date", "datetime-local", "month", "time", "week",
      "password"].contains type then none
  else some "textbox"

/-- The number of rows that a select shows, zero if it does not tell. -/
def selectSize (doc : Document) (id : NodeId) : Nat :=
  ((doc.attribute? id "size").bind fun s => parseCount? 4294967296 (trim s.toList)).getD 0

/-- The roles that tags imply by themselves. -/
def tagRoles : List (String × String) :=
  [("button", "button"), ("textarea", "textbox"), ("option", "option"), ("h1", "heading"),
   ("h2", "heading"), ("h3", "heading"), ("h4", "heading"), ("h5", "heading"), ("h6", "heading"),
   ("ul", "list"), ("ol", "list"), ("li", "listitem"), ("nav", "navigation"), ("main", "main"),
   ("form", "form"), ("table", "table"), ("tr", "row"), ("td", "cell"), ("th", "columnheader"),
   ("dialog", "dialog"), ("fieldset", "group"), ("progress", "progressbar"), ("meter", "meter"),
   ("article", "article"), ("aside", "complementary"), ("header", "banner"),
   ("footer", "contentinfo"), ("section", "region"), ("hr", "separator")]

/-- The role that the tag of an element implies, together with its attributes. -/
def implicitRole? (doc : Document) (id : NodeId) : Option String :=
  match doc.tag? id with
  | none => none
  | some "a" => if doc.hasAttribute id "href" then some "link" else none
  | some "area" => if doc.hasAttribute id "href" then some "link" else none
  | some "input" => (doc.inputType? id).bind inputRole?
  | some "select" =>
    if doc.hasAttribute id "multiple" || 1 < doc.selectSize id then some "listbox"
    else some "combobox"
  | some "img" => if doc.attribute? id "alt" = some "" then some "presentation" else some "img"
  | some tag => tagRoles.lookup tag

/-- The role of an element. -/
def role? (doc : Document) (id : NodeId) : Option String :=
  (doc.explicitRole? id).or (doc.implicitRole? id)

/-- Whether a declaration of a style sheet takes the element out of display. -/
def hidesDisplay (declaration : List Char) : Bool :=
  let property := declaration.takeWhile (· != ':')
  match declaration.dropWhile (· != ':') with
  | [] => false
  | _ :: value => trim property == "display".toList && trim value == "none".toList

/-- Whether an element hides itself and all that is in it. -/
def hidesItself (doc : Document) (id : NodeId) : Bool :=
  doc.hasAttribute id "hidden" || doc.attribute? id "aria-hidden" == some "true" ||
    (doc.attribute? id "style").any fun style => (pieces ';' style.toList).any hidesDisplay

/-- Whether an element does not appear in the accessibility tree. -/
def isHidden (doc : Document) (id : NodeId) : Bool :=
  (id :: doc.ancestors id).any doc.hidesItself

end Recorder.Document
