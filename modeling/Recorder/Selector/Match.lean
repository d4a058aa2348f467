import Recorder.Document.Tree
import Recorder.Selector.Parser

/-!
# Matching selectors

A compound is tested on one element; a chain is tested from its last compound, which describes the
element itself, outwards over the ancestors. Where a chain may go on at any ancestor, all of them
are tried. `Document.selectAll` lists the elements inside of a node that match.
-/

namespace Recorder

open Text (words)

/-- The words of the attribute `class`. -/
def Element.classes (e : Element) : List String :=
  ((e.attributes.get? "class").elim [] fun s => words s.toList).map String.ofList

namespace Selector

/-- Whether an element passes the test of an attribute. -/
def AttributeTest.holds (t : AttributeTest) (e : Element) : Bool :=
  match t.value, e.attributes.get? t.name with
  | _, none => false
  | none, some _ => true
  | some v, some w => v == w

/-- Whether a value is the one wanted, if one is. -/
def wantedOnly [BEq α] (wanted : Option α) (value : α) : Bool :=
  wanted.all (· == value)

/-- Whether a node is an element of which all conditions hold. -/
def Compound.holds (doc : Document) (id : NodeId) (c : Compound) : Bool :=
  match doc.element? id with
  | none => false
  | some e =>
    wantedOnly c.tag e.tag && c.id.all (fun v => e.attributes.get? "id" == some v) &&
      c.classes.all (e.classes.contains ·) && c.attributes.all (·.holds e) &&
      wantedOnly c.nthChild (doc.elementIndex id)

/-- Whether a chain matches a node. -/
def Complex.holds (doc : Document) (id : NodeId) : Complex → Bool
  | .compound c => c.holds doc id
  | .join left .child c => c.holds doc id && (doc.parent? id).any fun p => left.holds doc p
  | .join left .descendant c => c.holds doc id && (doc.ancestors id).any fun a => left.holds doc a

/-- Whether one of the alternatives matches a node. -/
def Group.holds (doc : Document) (id : NodeId) (g : Group) : Bool :=
  g.selectors.any (·.holds doc id)

end Selector

namespace Document

/-- The elements inside of a node that a selector matches, in document order. -/
def selectAll (doc : Document) (container : NodeId) (selector : String) :
    Except Error (List NodeId) :=
  (Selector.Group.parse selector).map fun g =>
    (doc.descendants container).filter fun n => g.holds doc n

/-- The first element inside of a node that a selector matches. -/
def selectFirst? (doc : Document) (container : NodeId) (selector : String) :
    Except Error (Option NodeId) :=
  (Selector.Group.parse selector).map fun g =>
    (doc.descendants container).find? fun n => g.holds doc n

end Document

end Recorder
