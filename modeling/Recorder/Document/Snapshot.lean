import Recorder.Document.Tree

/-!
# Snapshots

A snapshot is a tree by itself: elements that hold their children. A document is built from the
snapshot of a body in document order, so that numbers grow along the order. Of the body only the
attributes and the children are taken.
-/

namespace Recorder

/-- A text or an element with all that is in it. -/
inductive Snapshot where
  /-- A text. -/
  | text (text : String)
  /-- An element and its children. -/
  | element (element : Element) (children : List Snapshot)

/-- The snapshot of a body. -/
structure BodySnapshot where
  /-- The element itself. -/
  element : Element
  /-- The children. -/
  children : List Snapshot

/-- A body with nothing in it. -/
def BodySnapshot.empty : BodySnapshot :=
  ⟨{ tag := "body" }, []⟩

namespace Document

mutual

/-- Adds a snapshot behind the other children of a node. -/
def pushSnapshot (doc : Document) (parent : NodeId) : Snapshot → Document
  | .text t => doc.push parent (.text t)
  | .element e children => pushSnapshots (doc.push parent (.element e.lowered)) ⟨doc.size⟩ children

/-- Adds snapshots behind the other children of a node, one after the other. -/
def pushSnapshots (doc : Document) (parent : NodeId) : List Snapshot → Document
  | [] => doc
  | s :: rest => pushSnapshots (doc.pushSnapshot parent s) parent rest

end

/-- The document of a body. -/
def ofSnapshot (body : BodySnapshot) : Document :=
  pushSnapshots ⟨#[⟨none, [], .element { tag := "body", attributes := body.element.attributes }⟩]⟩
    Document.body body.children

end Document

end Recorder
