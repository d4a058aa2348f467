import Recorder.Accessibility.Name
import Recorder.Locator.Basic
import Recorder.Selector.Match
import Recorder.Text.Case

/-!
# Answering queries

The elements that a query finds inside of a container, in document order; the container itself is
never found. A text is compared after its white space has been trimmed or collapsed, the text wanted
is taken as it is. Whoever answers queries is a `QueryEngine`; `queryAll` answers them from the
document itself.
-/

namespace Recorder

open Text (collapse trim lower hasPiece)

/-- A text as it is compared. -/
def TextMatch.normalize (m : TextMatch) (cs : List Char) : List Char :=
  if m.collapseWhitespace then collapse cs else trim cs

/-- Whether a text is the one wanted. -/
def TextMatch.holds (m : TextMatch) (candidate wanted : List Char) : Bool :=
  if m.exact then m.normalize candidate == wanted
  else hasPiece (lower wanted) (lower (m.normalize candidate))

namespace Document

/-- The tags of elements whose content is no text for a reader. -/
def unreadTags : List String :=
  ["script", "style"]

/-- The texts of an element that a query can look for. -/
def sourceTexts (doc : Document) (id : NodeId) : TextSource → List (List Char)
  | .label => doc.labelTexts id
  | .placeholder => (doc.attributeText? id "placeholder").toList
  | .content => if (doc.tag? id).any (unreadTags.contains ·) then [] else [doc.nodeText id]
  | .title => (doc.attributeText? id "title").toList

/-- Whether a query that is no selector finds an element. -/
def answers (testIdAttribute : String) (doc : Document) (id : NodeId) : Query → Bool
  | .role role name =>
    doc.role? id == some role && !doc.isHidden id &&
      name.all fun n => doc.accessibleName id == n.toList
  | .text source text options =>
    (doc.sourceTexts id source).any fun t => options.holds t text.toList
  | .testId value => doc.attribute? id testIdAttribute == some value
  | .css _ => false

/-- The elements inside of a container that a query finds. -/
def queryAll (testIdAttribute : String) (doc : Document) (container : NodeId) (query : Query) :
    Except Error (List NodeId) := do
  let _ ← doc.check container
  match query with
  | .css selector => doc.selectAll container selector
  | _ => return (doc.descendants container).filter fun n => doc.answers testIdAttribute n query

end Document

/-- Whoever answers queries for the elements inside of a container. -/
abbrev QueryEngine := Document → NodeId → Query → Except Error (List NodeId)

/-- Answers queries from the document, with test ids in the attribute given. -/
def QueryEngine.ofAttribute (testIdAttribute : String) : QueryEngine :=
  fun doc container query => doc.queryAll testIdAttribute container query

end Recorder
