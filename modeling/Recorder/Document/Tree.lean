import Recorder.Document.Basic

/-!
# The tree of a document

Ancestors, descendants and texts of nodes. Numbers grow from a parent to its children, and these
walks follow only such links: up to smaller numbers, down to larger ones. So they end on every
list of nodes, and on the trees that documents are they leave no node out.
-/

namespace Recorder.Document

/-- The ancestors of a node, from its parent up to the body. -/
def ancestors (doc : Document) (id : NodeId) : List NodeId :=
  match doc.parent? id with
  | some p => if p.index < id.index then p :: doc.ancestors p else []
  | none => []
termination_by id.index

/-- The elements inside of a node in document order, in front of others. -/
def descendantsThen (doc : Document) (id : NodeId) (rest : List NodeId) : List NodeId :=
  (doc.children id).foldr (fun c rest =>
    if _h : id.index < c.index ∧ c.index < doc.size then
      if doc.isElement c then c :: doc.descendantsThen c rest else rest
    else rest) rest
termination_by doc.size - id.index
decreasing_by omega

/-- The elements inside of a node in document order, without the node itself. Elements inside of a
text are none of them. -/
def descendants (doc : Document) (id : NodeId) : List NodeId :=
  doc.descendantsThen id []

/-- What comes behind does not matter to the elements inside of a node. -/
theorem descendantsThen_eq_append (doc : Document) (id : NodeId) (rest : List NodeId) :
    doc.descendantsThen id rest = doc.descendants id ++ rest := by
  rw [descendants, descendantsThen, descendantsThen]
  induction doc.children id with
  | nil => rfl
  | cons c cs ih =>
    simp only [List.foldr_cons, ih]
    split
    · split
      · rw [doc.descendantsThen_eq_append c, doc.descendantsThen_eq_append c (List.foldr _ _ _)]
        simp
      · rfl
    · rfl
termination_by doc.size - id.index
decreasing_by all_goals omega

/-- Whether `node` is `ancestor` or lies inside of it. -/
def contains (doc : Document) (ancestor node : NodeId) : Bool :=
  node == ancestor || (doc.ancestors node).contains ancestor

/-- The node itself or its nearest ancestor that is an element and satisfies `p`. -/
def closest? (doc : Document) (id : NodeId) (p : NodeId → Bool) : Option NodeId :=
  (id :: doc.ancestors id).find? fun n => doc.isElement n && p n

/-- The text of a text node, or all texts inside of an element in document order. -/
def textContent (doc : Document) (id : NodeId) : List Char :=
  match doc.node? id with
  | some ⟨_, _, .text t⟩ => t.toList
  | some ⟨_, children, .element _⟩ =>
    children.flatMap fun c =>
      if _h : id.index < c.index ∧ c.index < doc.size then doc.textContent c else []
  | none => []
termination_by doc.size - id.index
decreasing_by omega

/-- The text of a node that is a text. -/
def ownText? (doc : Document) (id : NodeId) : Option String :=
  match doc.node? id with
  | some ⟨_, _, .text t⟩ => some t
  | _ => none

/-- The texts among the children of a node. -/
def nodeText (doc : Document) (id : NodeId) : List Char :=
  ((doc.children id).filterMap doc.ownText?).flatMap String.toList

/-- The body and all elements inside of it, in document order. -/
def elements (doc : Document) : List NodeId :=
  body :: doc.descendants body

/-- The first element whose attribute `id` has this value. -/
def elementById? (doc : Document) (value : String) : Option NodeId :=
  doc.elements.find? fun n => doc.attribute? n "id" == some value

/-- The position of a node among the elements in its parent, from one on. A node that is not among
them has the position one. -/
def elementIndex (doc : Document) (id : NodeId) : Nat :=
  match doc.parent? id with
  | some p => ((doc.elementChildren p).idxOf? id).elim 1 (· + 1)
  | none => 1

end Recorder.Document
